import ViewAccessors.Proofs.Markup.Failures

/-!
# Where errors are found

Some errors show the text at which they were found, and the place where it
stands.  Up to this place nothing is wrong: the text before it is the beginning
of a text that is read as a document.
-/

namespace ViewAccessors.Markup

open Text

/-- The place where the text stands that the error shows. -/
def MarkupError.place? : MarkupError → Option Position
  | unexpectedToken _ _ place => some place
  | mismatchedTag _ _ span | duplicateAttribute _ span => some span.start
  | _ => none

/-- The first characters of a text, up to a blank and no more than an error shows. -/
def firstToken (text : List Char) : String :=
  String.ofList ((text.takeWhile fun character => !isBlank character).take 24)

/-- The error names a cursor before the end of the text and shows what stands there. -/
structure MarkupError.IsFoundAt
    (error : MarkupError)
    (place : Position)
    (stop : Cursor) :
    Prop where
  isPlace : place = stop.place
  more : stop.rest ≠ []
  shows : ∀ found expected,
    error = .unexpectedToken found expected place → found = firstToken stop.rest

section

variable {stop : Cursor} {place : Position}

theorem isFoundAt_unexpected
    {expected : Expectation}
    (placed : (stop.unexpected expected).place? = some place) :
    (stop.unexpected expected).IsFoundAt place stop := by
  rw [Cursor.unexpected] at placed ⊢
  split at placed
  · cases placed
  · rename_i notEnded
    cases placed
    rw [if_neg notEnded]
    refine ⟨rfl, fun ended => notEnded (List.isEmpty_iff.mpr ended), ?_⟩
    intro found _ same
    cases same
    rfl

/-- An element that cannot be read is read up to the place that the error names. -/
theorem Writing.Beginning.Fails.isFoundAt
    {beginning : Writing.Beginning}
    {opening : Position}
    {error : MarkupError}
    (fails : beginning.Fails opening stop error)
    (placed : error.place? = some place) :
    error.IsFoundAt place stop := by
  induction fails with
  | elementName absent => exact isFoundAt_unexpected placed
  | tagEnded ended => cases placed
  | unseparated joined more => exact isFoundAt_unexpected placed
  | attributeName absent more => exact isFoundAt_unexpected placed
  | attributeValue absent => exact isFoundAt_unexpected placed
  | valueReference separated name beforeSign afterSign quotes isRest unquoted faulty =>
      cases placed
  | duplicateAttribute entry repeated passes =>
      cases placed
      refine ⟨rfl, ?_, fun _ _ same => nomatch same⟩
      rw [passes.1]
      exact List.append_ne_nil_of_left_ne_nil entry.ownText_ne_nil _
  | contentEnded ended => cases placed
  | closingTag passes absent => exact isFoundAt_unexpected placed
  | mismatchedTag closing blanks different passes =>
      cases placed
      refine ⟨rfl, ?_, fun _ _ same => nomatch same⟩
      rw [passes.1]
      exact List.cons_ne_nil _ _
  | construct isAllowed isOpen => cases placed
  | textReference atTag isRest unbracketed ends faulty => cases placed
  | inChild fails hypothesis => exact hypothesis placed

end

/-- Misc and an element that is begun go on as a document, if the element is not too deep. -/
theorem exists_parse_append
    (misc : Writing.Misc)
    {beginning : Writing.Beginning}
    (fits : beginning.levels ≤ maximumNesting) :
    ∃ continuation root,
      parse (String.ofList (misc.text ++ '<' :: beginning.tail ++ continuation)) = .ok root := by
  rcases beginning.exists_element with ⟨element, ⟨rest, ends⟩, sameLevels⟩
  refine ⟨rest, element.elementAt (Position.start.after misc.text), ?_⟩
  have whole : misc.text ++ '<' :: beginning.tail ++ rest =
      misc.text ++ (element.text ++ (Writing.Misc.text ⟨[], ⟨[], rfl⟩⟩)) := by
    rw [List.append_assoc, List.cons_append, ends]
    exact congrArg (misc.text ++ ·) (List.append_nil element.text).symm
  rw [whole]
  exact parse_of_levels_le misc ⟨[], ⟨[], rfl⟩⟩ (sameLevels.trans_le fits)

/-- A text that is not a document is the beginning of one up to the place that the error names. -/
theorem DocumentFails.exists_isFoundAt
    {text : List Char}
    {error : MarkupError}
    {place : Position}
    (fails : DocumentFails text error)
    (placed : error.place? = some place) :
    ∃ before stop, (Cursor.ofText text).Passes before stop ∧ error.IsFoundAt place stop ∧
      ∃ continuation root, parse (String.ofList (before ++ continuation)) = .ok root := by
  cases fails with
  | missingRoot passes ended => cases placed
  | @rootElement misc stop passes more =>
      -- Any element will do, for instance the one that a bracket begins.
      have fits : Writing.Beginning.unnamed.levels ≤ maximumNesting := by decide
      rcases exists_parse_append misc fits with ⟨continuation, root, read⟩
      rw [List.append_assoc] at read
      exact ⟨misc.text, stop, passes, isFoundAt_unexpected placed, _, root, read⟩
  | constructBefore passes isAllowed isOpen => cases placed
  | @inRoot misc _ stop _ passes fits fails =>
      exact ⟨_, stop, passes, fails.isFoundAt placed, exists_parse_append misc fits⟩
  | nestedTooDeep line => cases placed
  | constructBehind passes isAllowed isOpen => cases placed
  | trailingContent passes more => cases placed

/--
The place that an error names, be it of an unexpected text, of a closing tag
with another name or of a second attribute of a name, is one inside the text.
The text before it, to which no byte order mark belongs, goes on as a document
in some way; and what an error shows as unexpected stands at this place.
-/
theorem exists_continuation_of_parse
    {text : String}
    {error : MarkupError}
    {place : Position}
    (failed : parse text = .error error)
    (placed : error.place? = some place) :
    ∃ before rest,
      before ++ rest = withoutByteOrderMark text.toList ∧ rest ≠ [] ∧
        place.IsBehind before ∧
        (∃ continuation root, parse (String.ofList (before ++ continuation)) = .ok root) ∧
        ∀ found expected,
          error = .unexpectedToken found expected place → found = firstToken rest := by
  rcases (documentFails_of_readDocument failed).exists_isFoundAt placed with
    ⟨before, stop, passes, isFound, goesOn⟩
  refine ⟨before, stop.rest, passes.1.symm, isFound.more, ?_, goesOn, isFound.shows⟩
  rw [isFound.isPlace, passes.2]
  exact Position.isBehind_after before

/-- The width of a grid that is not quoted is found behind the name of the attribute. -/
theorem exists_continuation_grid :
    ∃ before rest, before ++ rest = "<Grid Width=100/>".toList ∧
      (Position.mk 11 1 12).IsBehind before ∧ firstToken rest = "=100/>" ∧
        ∃ continuation root, parse (String.ofList (before ++ continuation)) = .ok root := by
  have failed : (parse "<Grid Width=100/>").map (fun _ => ()) =
      .error (.unexpectedToken "=100/>" .attributeValue ⟨11, 1, 12⟩) := by
    decide +kernel
  rcases exists_continuation_of_parse (map_eq_error_iff.mp failed) rfl with
    ⟨before, rest, split, -, behind, goesOn, shows⟩
  exact ⟨before, rest, split, behind, (shows _ _ rfl).symm, goesOn⟩

end ViewAccessors.Markup
