import ViewAccessors.Proofs.Markup.Failures
import ViewAccessors.Proofs.Markup.Positions

/-!
# The line of a faulty reference

A reference that names no character stands in the value of an attribute or in
character data.  The line that is reported is the one on which the attribute
or the character data begin.  The reference stands below it, if there are line
feeds in between.
-/

namespace ViewAccessors.Markup

open Text

/-! ## What ends with a bracket -/

namespace Writing

theorem Enclosed.bracket_isSuffix (construct : Enclosed Enclosure.insideElement) :
    ['>'] <:+ construct.text := by
  have closings : ∀ enclosure ∈ Enclosure.insideElement, ['>'] <:+ enclosure.closing := by
    simp only [Enclosure.insideElement, List.forall_mem_cons, List.not_mem_nil, false_implies,
      implies_true, and_true]
    exact ⟨⟨['-', '-'], rfl⟩, ⟨[']', ']'], rfl⟩, ⟨['?'], rfl⟩⟩
  rw [text, ← List.append_assoc]
  exact List.suffix_append_of_suffix (closings _ construct.isAllowed)

theorem Element.bracket_isSuffix (element : Element) :
    ['>'] <:+ element.tail := by
  cases element with
  | closed tag => exact ⟨tag.text ++ ['/'], by simp [tail]⟩
  | filled tag content blanks =>
      refine ⟨tag.text ++ '>' :: (content.text ++ '<' :: '/' :: (tag.name.text ++ blanks.text)), ?_⟩
      simp [tail, closingTag]

/-- Behind a bracket, content without character data at its end ends with a bracket. -/
theorem Content.bracket_isSuffix
    {content : Content}
    (atTag : content.lastData.text = []) :
    ['>'] <:+ '>' :: content.text := by
  match content with
  | .last data =>
      rw [lastData] at atTag
      rw [text, atTag]
  | .enclosed data construct others =>
      rcases construct.bracket_isSuffix with ⟨start, ends⟩
      have othersAtTag : others.lastData.text = [] := atTag
      rcases bracket_isSuffix othersAtTag with ⟨before, whole⟩
      refine ⟨'>' :: (data.text ++ start) ++ before, ?_⟩
      rw [text, List.append_assoc, whole, ← ends]
      simp
  | .child data element others =>
      rcases element.bracket_isSuffix with ⟨start, ends⟩
      have othersAtTag : others.lastData.text = [] := atTag
      rcases bracket_isSuffix othersAtTag with ⟨before, whole⟩
      refine ⟨'>' :: (data.text ++ '<' :: start) ++ before, ?_⟩
      rw [text, List.append_assoc, whole, ← ends]
      simp

end Writing

/-! ## Faulty references -/

/--
Behind the text `before`, symbols follow on `lead` up to a character that
closes them: those of a value on the name, the sign and the quote of an
attribute, those of character data on nothing.
-/
inductive BeginsSymbols : (before lead : List Char) → (closing : Char) → Prop where
  | value
      {before : List Char}
      {blank quote : Char}
      (separated : [blank] <:+ before)
      (isBlank : isBlank blank = true)
      (name : Writing.Name)
      (beforeSign afterSign : Writing.Run isTagBlank)
      (quotes : quote = '"' ∨ quote = '\'') :
      BeginsSymbols before
        (name.text ++ (beforeSign.text ++ '=' :: (afterSign.text ++ [quote]))) quote
  | characterData
      {before : List Char}
      (atTag : ['>'] <:+ before) :
      BeginsSymbols before [] '<'

theorem BeginsSymbols.behind
    {before lead : List Char}
    {closing : Char}
    (begins : BeginsSymbols before lead closing)
    (more : List Char) :
    BeginsSymbols (more ++ before) lead closing := by
  cases begins with
  | value separated isBlank name beforeSign afterSign quotes =>
      exact .value (List.suffix_append_of_suffix separated) isBlank name beforeSign afterSign
        quotes
  | characterData atTag => exact .characterData (List.suffix_append_of_suffix atTag)

/--
A reference that names no character, in the attribute or the character data
with which the text `after` begins, behind the text `before`.  It is the first
one: all symbols before it are lawful.
-/
structure FaultyReference (before after : List Char) where
  lead : List Char
  symbols : List Writing.Symbol
  /-- What follows the ampersand up to the end of the symbols. -/
  following : List Char
  rest : List Char
  closing : Char
  /-- The reference as the error shows it. -/
  shown : List Char
  begins : BeginsSymbols before lead closing
  isAfter : after =
    lead ++ (symbols.flatMap Writing.Symbol.text ++ '&' :: (following ++ rest))
  unclosed : closing ∉ symbols.flatMap Writing.Symbol.text ++ '&' :: following
  ends : Stops (· != closing) rest
  faulty : Reference.Faulty following shown

namespace FaultyReference

variable {before after : List Char}

/-- What stands before the ampersand in the attribute or the character data. -/
def early (reference : FaultyReference before after) : List Char :=
  reference.lead ++ reference.symbols.flatMap Writing.Symbol.text

/-- What stands before a text is no part of the reference in it. -/
def behind
    (reference : FaultyReference before after)
    (more : List Char) :
    FaultyReference (more ++ before) after :=
  { reference with
    begins := reference.begins.behind more }

/-- Symbols that cannot be decoded hold a faulty reference. -/
theorem exists_of_decode
    {lead raw rest shown : List Char}
    {closing : Char}
    (begins : BeginsSymbols before lead closing)
    (unclosed : closing ∉ raw)
    (ends : Stops (· != closing) rest)
    (failed : Reference.decode raw = .error shown) :
    ∃ reference : FaultyReference before (lead ++ (raw ++ rest)), reference.shown = shown := by
  rcases Reference.exists_of_decode_eq_error failed with ⟨symbols, following, rfl, faulty⟩
  exact ⟨{ lead, symbols, following, rest, closing, shown, begins, unclosed, ends, faulty
           isAfter := by rw [List.append_assoc, List.cons_append] }, rfl⟩

end FaultyReference

/-- Blanks that stand somewhere end with a blank. -/
theorem Writing.Run.exists_isSuffix
    {blanks : Writing.Run isBlank}
    (nonempty : blanks.text ≠ []) :
    ∃ blank, isBlank blank = true ∧ [blank] <:+ blanks.text := by
  rcases (List.eq_nil_or_concat' blanks.text).resolve_left nonempty with ⟨start, blank, ends⟩
  refine ⟨blank, ?_, start, ends.symm⟩
  apply List.all_eq_true.mp blanks.members
  rw [ends]
  exact List.mem_append_right _ List.mem_cons_self

theorem Cursor.unexpected_ne_invalidReference
    {stop : Cursor}
    {expected : Expectation}
    {shown : String}
    {line : Nat} :
    stop.unexpected expected ≠ .invalidReference shown line :=
  unexpected_ne (by simp) (by simp)

/-- An element breaks off at a reference only before an attribute or at character data. -/
theorem Writing.Beginning.Fails.exists_faultyReference
    {beginning : Writing.Beginning}
    {opening : Position}
    {stop : Cursor}
    {error : MarkupError}
    {shown : String}
    {line : Nat}
    (fails : beginning.Fails opening stop error)
    (isReference : error = .invalidReference shown line) :
    line = stop.place.line ∧
      ∃ reference : FaultyReference beginning.tail stop.rest,
        String.ofList reference.shown = shown := by
  induction fails with
  | @valueReference tag _ stop raw rest decoded separated name beforeSign afterSign quote quotes
      isRest unquoted faulty =>
      cases isReference
      rcases Writing.Run.exists_isSuffix separated with ⟨blank, isBlank, blanksEnd⟩
      have tagEnds : [blank] <:+ tag.text :=
        List.suffix_append_of_suffix (List.suffix_append_of_suffix blanksEnd)
      have quoteStops : Stops (· != quote) (quote :: rest) :=
        stops_cons (by simp) rest
      rcases FaultyReference.exists_of_decode
        (.value tagEnds isBlank name beforeSign afterSign quotes) unquoted quoteStops faulty with
        ⟨reference, rfl⟩
      have same : stop.rest = name.text ++ (beforeSign.text ++ '=' :: (afterSign.text ++ [quote]))
          ++ (raw ++ quote :: rest) := by
        rw [isRest]
        simp
      rw [same]
      exact ⟨rfl, reference, rfl⟩
  | @textReference tag content _ stop raw rest decoded atTag isRest unbracketed ends faulty =>
      cases isReference
      have begins : BeginsSymbols (tag.text ++ '>' :: content.text) [] '<' :=
        .characterData (List.suffix_append_of_suffix (Writing.Content.bracket_isSuffix atTag))
      rcases FaultyReference.exists_of_decode begins unbracketed ends faulty with ⟨reference, rfl⟩
      rw [isRest]
      exact ⟨rfl, reference, rfl⟩
  | @inChild tag content inner _ stop _ fails hypothesis =>
      rcases hypothesis isReference with ⟨sameLine, reference, sameShown⟩
      have whole : (Writing.Beginning.inChild tag content inner).tail =
          tag.text ++ '>' :: (content.text ++ ['<']) ++ inner.tail := by
        simp [Writing.Beginning.tail]
      rw [whole]
      exact ⟨sameLine, reference.behind _, sameShown⟩
  | elementName absent => exact absurd isReference Cursor.unexpected_ne_invalidReference
  | unseparated joined more => exact absurd isReference Cursor.unexpected_ne_invalidReference
  | attributeName absent more => exact absurd isReference Cursor.unexpected_ne_invalidReference
  | attributeValue absent => exact absurd isReference Cursor.unexpected_ne_invalidReference
  | closingTag passes absent => exact absurd isReference Cursor.unexpected_ne_invalidReference
  | tagEnded ended => cases isReference
  | duplicateAttribute entry repeated passes => cases isReference
  | contentEnded ended => cases isReference
  | mismatchedTag closing blanks different passes => cases isReference
  | construct isAllowed isOpen => cases isReference

/-! ## Documents -/

theorem DocumentFails.exists_faultyReference
    {text : List Char}
    {error : MarkupError}
    {shown : String}
    {line : Nat}
    (fails : DocumentFails text error)
    (isReference : error = .invalidReference shown line) :
    ∃ (before : List Char) (stop : Cursor) (reference : FaultyReference before stop.rest),
      Writing.IsBegun before ∧ (Cursor.ofText text).Passes before stop ∧
        line = stop.place.line ∧ String.ofList reference.shown = shown := by
  cases fails with
  | @inRoot misc beginning stop _ passes fits fails =>
      rcases fails.exists_faultyReference isReference with ⟨sameLine, reference, sameShown⟩
      have whole : misc.text ++ '<' :: beginning.tail = misc.text ++ ['<'] ++ beginning.tail := by
        rw [List.append_assoc, List.singleton_append]
      have begun : Writing.IsBegun (misc.text ++ '<' :: beginning.tail) := ⟨misc, beginning, rfl⟩
      rw [whole] at passes begun
      exact ⟨_, stop, reference.behind _, begun, passes, sameLine, sameShown⟩
  | rootElement passes more => exact absurd isReference Cursor.unexpected_ne_invalidReference
  | missingRoot passes ended => cases isReference
  | constructBefore passes isAllowed isOpen => cases isReference
  | nestedTooDeep line => cases isReference
  | constructBehind passes isAllowed isOpen => cases isReference
  | trailingContent passes more => cases isReference

/--
The line that is reported for a reference is the one on which the attribute or
the character data that hold it begin.  The ampersand of the reference stands
as many lines below as there are line feeds before it in these, so the line is
that of the reference exactly if there are none.
-/
theorem exists_faultyReference_of_parse
    {text shown : String}
    {line : Nat}
    (failed : parse text = .error (.invalidReference shown line)) :
    ∃ (before after : List Char) (reference : FaultyReference before after),
      before ++ after = withoutByteOrderMark text.toList ∧ Writing.IsBegun before ∧
        String.ofList reference.shown = shown ∧
        line = (Position.start.after before).line ∧
        (Position.start.after (before ++ reference.early)).line =
          line + reference.early.count '\n' := by
  rcases (documentFails_of_readDocument failed).exists_faultyReference rfl with
    ⟨before, stop, reference, begun, passes, sameLine, sameShown⟩
  have behind : stop.place = Position.start.after before := passes.2
  rw [behind] at sameLine
  refine ⟨before, stop.rest, reference, passes.1.symm, begun, sameShown, sameLine, ?_⟩
  rw [Position.after_append, Position.line_after, sameLine]

/-- A reference on the second line of a panel, at the beginning of a text, is reported there. -/
theorem exists_faultyReference_panel :
    ∃ (before after : List Char) (reference : FaultyReference before after),
      before ++ after = "<Panel>\n<Text>&nbsp;</Text></Panel>".toList ∧
        String.ofList reference.shown = "nbsp" ∧ (Position.start.after before).line = 2 := by
  have failed : (parse "<Panel>\n<Text>&nbsp;</Text></Panel>").map (fun _ => ()) =
      .error (.invalidReference "nbsp" 2) := by
    decide +kernel
  rcases exists_faultyReference_of_parse (map_eq_error_iff.mp failed) with
    ⟨before, after, reference, whole, -, shown, line, -⟩
  exact ⟨before, after, reference, whole, shown, line.symm⟩

/--
Behind a line feed in a value or in character data, the ampersand of a
reference stands on the second line, but the first line is reported.
-/
theorem parse_reference_lineFeed :
    parse "<Text Tag='\n&nbsp;'/>" = .error (.invalidReference "nbsp" 1) ∧
      (Position.start.after "<Text Tag='\n".toList).line = 2 ∧
      parse "<Text>\n&nbsp;</Text>" = .error (.invalidReference "nbsp" 1) ∧
      (Position.start.after "<Text>\n".toList).line = 2 := by
  have inValue : (parse "<Text Tag='\n&nbsp;'/>").map (fun _ => ()) =
      .error (.invalidReference "nbsp" 1) := by
    decide +kernel
  have inContent : (parse "<Text>\n&nbsp;</Text>").map (fun _ => ()) =
      .error (.invalidReference "nbsp" 1) := by
    decide +kernel
  exact ⟨map_eq_error_iff.mp inValue, by decide, map_eq_error_iff.mp inContent, by decide⟩

end ViewAccessors.Markup
