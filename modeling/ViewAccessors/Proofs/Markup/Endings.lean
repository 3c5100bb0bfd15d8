import ViewAccessors.Proofs.Markup.Excerpts

/-!
# Where documents end

A text begins with misc and an element in at most one way.  So the text up to
the end of the root element cannot be cut short, and whatever is added to it
must be misc for the text to be read, which does not change the root.
-/

namespace ViewAccessors.Markup

open Text

/-- Blanks, comments, processing instructions and document type declarations. -/
def IsMisc (text : List Char) : Prop :=
  ∃ misc : Writing.Misc, misc.text = text

/-- The text up to the end of a stretch. -/
def Span.upTo
    (span : Span)
    (text : List Char) :
    List Char :=
  Markup.excerpt 0 span.stop.offset text

/-- The error is about what follows the root element, or about a construct that is not closed. -/
inductive MarkupError.ConcernsEnding : MarkupError → Prop where
  | trailing (line : Nat) :
      ConcernsEnding (.trailingContent line)
  | unclosed
      {construct : Construct}
      (isKnown : construct ∈ [.comment, .instruction, .doctype])
      (line : Nat) :
      ConcernsEnding (.unterminated construct line)

/-! ## Misc that is not closed -/

/-- Where misc cannot be read, a construct opens behind other misc and is not closed. -/
theorem exists_of_passMisc_eq_error
    {cursor : Cursor}
    {error : MarkupError}
    (failed : cursor.passMisc = .error error) :
    ∃ (misc : Writing.Misc) (later : Cursor), cursor.Passes misc.text later ∧
      ∃ enclosure ∈ Enclosure.aroundRoot, enclosure.IsOpenIn later.rest ∧
        error = .unterminated enclosure.construct later.place.line := by
  fun_induction Cursor.passMisc cursor with
  | case1 cursor fault found =>
      cases failed
      rcases cursor.exists_blanks with ⟨blanks, passes, -⟩
      exact ⟨⟨[], blanks⟩, _, passes, Cursor.exists_of_enclosed_eq_error found⟩
  | case2 cursor found => cases failed
  | case3 cursor enclosure content inner found hypothesis =>
      rcases cursor.exists_blanks with ⟨run, passesRun, -⟩
      rcases Cursor.exists_of_enclosed Enclosure.recognizable_aroundRoot found with
        ⟨construct, -, -, passesConstruct⟩
      rcases hypothesis failed with ⟨⟨others, blanks⟩, later, passesOthers, unclosed⟩
      refine ⟨⟨(run, construct) :: others, blanks⟩, later, ?_, unclosed⟩
      have passesAll := passesRun.trans (passesConstruct.trans passesOthers)
      rw [← List.append_nil (Writing.Misc.text _), Writing.Misc.text_cons_append,
        List.append_nil]
      exact passesAll

theorem concernsEnding_of_passMisc
    {cursor : Cursor}
    {error : MarkupError}
    (failed : cursor.passMisc = .error error) :
    error.ConcernsEnding := by
  rcases exists_of_passMisc_eq_error failed with ⟨misc, later, -, enclosure, member, -, rfl⟩
  apply MarkupError.ConcernsEnding.unclosed
  exact List.mem_map_of_mem (f := Enclosure.construct) member

/-! ## What follows the root element -/

section

variable
    (before : Writing.Misc)
    {root : Writing.Element}
    (fits : root.levels ≤ maximumNesting)

include fits

/-- After misc and an element, misc is read up to the end of the text. -/
theorem readDocument_append (rest : List Char) :
    readDocument (before.text ++ (root.text ++ rest)) =
      (Cursor.mk (Position.start.after (before.text ++ root.text)) rest).passMisc.bind
        fun last =>
          if last.rest.isEmpty then
            .ok (root.elementAt (Position.start.after before.text))
          else
            .error (.trailingContent last.place.line) := by
  have passed := passMisc_append .start before (endsMisc_element root rest)
  have opened := Cursor.pass?_append (Position.start.after before.text) ['<'] (root.tail ++ rest)
  have read := outcome_readElement_of_levels_le (Nat.le_refl maximumNesting) fits
    (Position.start.after before.text) rest
  rw [List.singleton_append] at opened
  rw [readDocument_eq, Cursor.ofText, passed, bind_ok]
  simp only [Writing.Element.text, List.cons_append, List.isEmpty_cons, Bool.false_eq_true,
    if_false, opened]
  rw [Position.after_cons, Position.after_nil, read, bind_ok, Position.after_append]
  rfl

/-- What follows the root element is either misc, or it is reported. -/
theorem readDocument_append_cases (rest : List Char) :
    IsMisc rest ∧
        readDocument (before.text ++ (root.text ++ rest)) =
          .ok (root.elementAt (Position.start.after before.text)) ∨
      ¬ IsMisc rest ∧
        ∃ error, readDocument (before.text ++ (root.text ++ rest)) = .error error ∧
          error.ConcernsEnding := by
  rw [readDocument_append before fits]
  generalize Position.start.after (before.text ++ root.text) = place
  by_cases isMisc : IsMisc rest
  · rcases isMisc with ⟨misc, rfl⟩
    have passed := passMisc_append place misc endsMisc_nil
    rw [List.append_nil] at passed
    rw [passed]
    exact .inl ⟨⟨misc, rfl⟩, rfl⟩
  · refine .inr ⟨isMisc, ?_⟩
    cases passed : (Cursor.mk place rest).passMisc with
    | error error => exact ⟨error, rfl, concernsEnding_of_passMisc passed⟩
    | ok last =>
        rcases exists_of_passMisc passed with ⟨misc, passes⟩
        have more : last.rest.isEmpty = false := by
          rw [List.isEmpty_eq_false_iff]
          intro ended
          have whole := passes.1
          rw [ended, List.append_nil] at whole
          exact isMisc ⟨misc, whole.symm⟩
        rw [bind_ok, more]
        exact ⟨_, rfl, .trailing _⟩

/-- A text begins with misc and an element in at most one way. -/
theorem eq_of_text_append_eq
    {other : Writing.Misc}
    {later : Writing.Element}
    (laterFits : later.levels ≤ maximumNesting)
    {rest ending : List Char}
    (same : before.text ++ (root.text ++ rest) = other.text ++ (later.text ++ ending)) :
    rest = ending := by
  have passed := passMisc_append .start before (endsMisc_element root rest)
  have passedOther := passMisc_append .start other (endsMisc_element later ending)
  rw [← same, passed] at passedOther
  rcases Cursor.mk.inj (Except.ok.inj passedOther) with ⟨samePlace, sameRest⟩
  have sameTail : root.tail ++ rest = later.tail ++ ending := List.tail_eq_of_cons_eq sameRest
  have read := outcome_readElement_of_levels_le (Nat.le_refl maximumNesting) fits
    (Position.start.after before.text) rest
  rw [sameTail, outcome_readElement_of_levels_le (Nat.le_refl maximumNesting) laterFits] at read
  exact (congrArg (fun found => found.2.rest) (Except.ok.inj read)).symm

end

/-- A text that goes on as a document does up to its root has no byte order mark to remove. -/
theorem withoutByteOrderMark_of_isPrefix
    {before : Writing.Misc}
    {root : Writing.Element}
    {rest text : List Char}
    (isPart : text <+: before.text ++ (root.text ++ rest)) :
    withoutByteOrderMark text = text := by
  apply withoutByteOrderMark_of_stops
  intro character isHead
  rcases isPart with ⟨more, whole⟩
  apply stops_byteOrderMark before root rest character
  rw [← whole, List.head?_append, isHead, Option.some_or]

/-- A part of a text up to the end of its root element is read only if it is all of it. -/
theorem eq_of_isPrefix_of_parse
    (before : Writing.Misc)
    {root : Writing.Element}
    (fits : root.levels ≤ maximumNesting)
    {shorter : List Char}
    (isPart : shorter <+: before.text ++ root.text)
    {other : Element}
    (read : parse (String.ofList shorter) = .ok other) :
    shorter = before.text ++ root.text := by
  rcases isPart with ⟨missing, whole⟩
  have split : before.text ++ (root.text ++ []) = shorter ++ missing := by
    rw [List.append_nil, whole]
  have unmarked : withoutByteOrderMark shorter = shorter :=
    withoutByteOrderMark_of_isPrefix ⟨missing, split.symm⟩
  rw [parse, String.toList_ofList, unmarked] at read
  rcases exists_levels_le_of_readDocument read with ⟨document, rfl, -, laterFits⟩
  rw [Writing.Document.body, List.append_assoc, List.append_assoc] at split
  have nothing := eq_of_text_append_eq before fits laterFits split
  have complete : missing = [] := (List.append_eq_nil_iff.mp nothing.symm).2
  rw [← whole, complete, List.append_nil]

/-- The root of a document ends behind what is written before it and its own text. -/
theorem Writing.Document.upTo_body (document : Writing.Document) :
    document.tree.span.upTo document.body = document.before.text ++ document.root.text := by
  have stretch :=
    excerpt_append [] (document.before.text ++ document.root.text) document.after.text
  rw [tree, Writing.Element.span_elementAt, Span.upTo, ← Position.after_append,
    (Position.isBehind_after _).offset, body, ← List.append_assoc]
  exact stretch

/--
No text that is too short or too long is read.  The text up to the end of the
root element, to which no byte order mark belongs, is read no longer when
characters are missing at its end.  With other characters behind it, it is
read exactly if these are misc, and then as the same root at the same places;
otherwise the error is about what follows the root element.
-/
theorem parse_upTo_root
    {text : String}
    {root : Element}
    (read : parse text = .ok root) :
    (∀ shorter, shorter <+: root.span.upTo (withoutByteOrderMark text.toList) →
        shorter ≠ root.span.upTo (withoutByteOrderMark text.toList) →
          ∀ other, parse (String.ofList shorter) ≠ .ok other) ∧
      ∀ more,
        IsMisc more ∧
            parse (String.ofList (root.span.upTo (withoutByteOrderMark text.toList) ++ more)) =
              .ok root ∨
          ¬ IsMisc more ∧
            ∃ error,
              parse (String.ofList
                  (root.span.upTo (withoutByteOrderMark text.toList) ++ more)) =
                .error error ∧ error.ConcernsEnding := by
  rcases exists_levels_le_of_readDocument read with ⟨document, isBody, rfl, fits⟩
  rw [← isBody, document.upTo_body]
  constructor
  · intro shorter isPart different other readShorter
    exact different (eq_of_isPrefix_of_parse document.before fits isPart readShorter)
  · intro more
    have unmarked : withoutByteOrderMark (document.before.text ++ (document.root.text ++ more)) =
        document.before.text ++ (document.root.text ++ more) :=
      withoutByteOrderMark_of_isPrefix List.prefix_rfl
    rw [parse, String.toList_ofList, List.append_assoc, unmarked]
    exact readDocument_append_cases document.before fits more

/-- A border without its last character is not read, and a tab behind it changes nothing. -/
theorem parse_upTo_root_border :
    ∃ root, parse " <Border/>\n" = .ok root ∧
      (∀ other, parse " <Border/" ≠ .ok other) ∧ parse " <Border/>\t" = .ok root := by
  have spans : (parse " <Border/>\n").map (·.span) = .ok ⟨⟨1, 1, 2⟩, ⟨10, 1, 11⟩⟩ := by
    decide +kernel
  rcases map_eq_ok_iff.mp spans with ⟨root, read, span⟩
  have ends := parse_upTo_root read
  have upTo : root.span.upTo (withoutByteOrderMark " <Border/>\n".toList) =
      " <Border/>".toList := by
    rw [span]
    decide +kernel
  rw [upTo] at ends
  refine ⟨root, read, ends.1 " <Border/".toList (by decide) (by decide), ?_⟩
  rcases ends.2 ['\t'] with ⟨-, readOn⟩ | ⟨notMisc, -⟩
  · exact readOn
  · exact absurd ⟨⟨[], ⟨['\t'], rfl⟩⟩, rfl⟩ notMisc

end ViewAccessors.Markup
