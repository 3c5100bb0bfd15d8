import ViewAccessors.Proofs.Qualifiers.Trees

/-!
# Type arguments with other qualifiers

A renaming writes letters only, so a list of type arguments with its
qualifiers renamed is cut where the list itself is cut, its parts are the
renamed parts, and what is read of a part is the renamed name together with
the renamed text between the parentheses.
-/

namespace ViewAccessors

namespace Text

theorem isBlank_eq_false_of_isLetter
    {character : Char}
    (letter : isLetter character = true) :
    isBlank character = false := by
  cases blank : isBlank character with
  | false => rfl
  | true =>
      have notInName := Markup.isNameCharacter_eq_false_of_isBlank blank
      simp [Markup.isNameCharacter, isAlphanumeric, letter] at notInName

/-- A character outside of a class decides whether a text with it stops the class. -/
theorem stops_append_cons_iff
    {member : Char → Bool}
    {character : Char}
    (outside : member character = false)
    (before after : List Char) :
    Stops member (before ++ character :: after) ↔ Stops member before := by
  cases before with
  | nil => exact ⟨fun _ => stops_nil member, fun _ => stops_cons outside after⟩
  | cons first others =>
      constructor
      · intro stops
        exact stops_cons (stops first rfl) others
      · intro stops
        exact stops_cons (stops first rfl) _

end Text

namespace TypeArguments

open Text

/-- No mark is a letter, a blank or a colon. -/
theorem not_isLetter_of_mem_marks
    {mark : Char}
    (isMark : mark ∈ marks) :
    isLetter mark = false ∧ isBlank mark = false ∧ mark ≠ ':' := by
  simp only [marks, List.mem_cons, List.not_mem_nil, or_false] at isMark
  rcases isMark with rfl | rfl | rfl <;> decide

section

variable (exchange : Renaming)

/-! ## Runs -/

/-- A renamed qualifier has no characters but letters that the qualifier does not have. -/
theorem notMem_change
    {character : Char}
    (notLetter : isLetter character = false)
    {qualifier : List Char}
    (absent : character ∉ qualifier) :
    character ∉ (exchange.change (String.ofList qualifier)).toList := by
  rcases exchange.lettered (String.ofList qualifier) with same | lettered
  · rwa [same, String.toList_ofList]
  · intro member
    rw [lettered character member] at notLetter
    cases notLetter

theorem stops_change
    {qualifier rest : List Char}
    (stops : Stops isBlank (qualifier ++ ':' :: rest)) :
    Stops isBlank ((exchange.change (String.ofList qualifier)).toList ++ ':' :: rest) := by
  have colonIsNoBlank : isBlank ':' = false := by decide
  rw [stops_append_cons_iff colonIsNoBlank] at stops ⊢
  rcases exchange.lettered (String.ofList qualifier) with same | lettered
  · rwa [same, String.toList_ofList]
  · intro character isHead
    exact isBlank_eq_false_of_isLetter (lettered character (List.mem_of_mem_head? isHead))

/-- Renaming adds no marks to a run. -/
theorem unmarked_requalifyRun
    {run : List Char}
    (unmarked : ∀ mark ∈ marks, mark ∉ run) :
    ∀ mark ∈ marks, mark ∉ requalifyRun exchange.change run := by
  intro mark isMark
  rcases run_cases run with plain | ⟨blanks, qualifier, rest, rfl, members, stops, absent⟩
  · rw [requalifyRun_of_notMem plain]
    exact unmarked mark isMark
  · rcases not_isLetter_of_mem_marks isMark with ⟨notLetter, -, notColon⟩
    have elsewhere := unmarked mark isMark
    rw [requalifyRun_qualified members stops absent]
    simp only [List.mem_append, List.mem_cons, not_or] at elsewhere ⊢
    exact ⟨elsewhere.1, notMem_change exchange notLetter elsewhere.2.1, notColon,
      elsewhere.2.2.2⟩

theorem stops_requalifyRun
    {run : List Char}
    (stopsRun : Stops isBlank run) :
    Stops isBlank (requalifyRun exchange.change run) := by
  rcases run_cases run with plain | ⟨blanks, qualifier, rest, rfl, members, stops, absent⟩
  · rwa [requalifyRun_of_notMem plain]
  · rw [requalifyRun_qualified members stops absent]
    cases blanks with
    | nil => exact stops_change exchange stops
    | cons blank blanks => exact stops_cons (stopsRun blank rfl) _

theorem stops_reverse_requalifyRun
    {run : List Char}
    (stopsRun : Stops isBlank run.reverse) :
    Stops isBlank (requalifyRun exchange.change run).reverse := by
  have colonIsNoBlank : isBlank ':' = false := by decide
  rcases run_cases run with plain | ⟨blanks, qualifier, rest, rfl, members, stops, absent⟩
  · rwa [requalifyRun_of_notMem plain]
  · rw [requalifyRun_qualified members stops absent]
    simp only [List.reverse_append, List.reverse_cons, List.append_assoc, List.cons_append,
      List.nil_append, stops_append_cons_iff colonIsNoBlank] at stopsRun ⊢
    exact stopsRun

theorem requalifyRun_ne_nil
    {run : List Char}
    (nonempty : run ≠ []) :
    requalifyRun exchange.change run ≠ [] := by
  rcases run_cases run with plain | ⟨blanks, qualifier, rest, rfl, members, stops, absent⟩
  · rwa [requalifyRun_of_notMem plain]
  · rw [requalifyRun_qualified members stops absent]
    simp

theorem requalify_ne_nil
    {text : List Char}
    (nonempty : text ≠ []) :
    requalify exchange.change text ≠ [] := by
  induction text using runs_induction with
  | unmarked run unmarked =>
      rw [requalify_of_unmarked unmarked]
      exact requalifyRun_ne_nil exchange nonempty
  | marked run mark rest unmarked isMark _ =>
      rw [requalify_append_mark isMark unmarked]
      simp

/-! ## Blanks -/

theorem stops_requalify
    {text : List Char}
    (stops : Stops isBlank text) :
    Stops isBlank (requalify exchange.change text) := by
  induction text using runs_induction with
  | unmarked run unmarked =>
      rw [requalify_of_unmarked unmarked]
      exact stops_requalifyRun exchange stops
  | marked run mark rest unmarked isMark _ =>
      have markIsNoBlank := (not_isLetter_of_mem_marks isMark).2.1
      rw [requalify_append_mark isMark unmarked]
      rw [stops_append_cons_iff markIsNoBlank] at stops ⊢
      exact stops_requalifyRun exchange stops

theorem stops_reverse_requalify
    {text : List Char}
    (stops : Stops isBlank text.reverse) :
    Stops isBlank (requalify exchange.change text).reverse := by
  induction text using runs_induction with
  | unmarked run unmarked =>
      rw [requalify_of_unmarked unmarked]
      exact stops_reverse_requalifyRun exchange stops
  | marked run mark rest unmarked isMark hypothesis =>
      have markIsNoBlank := (not_isLetter_of_mem_marks isMark).2.1
      rw [requalify_append_mark isMark unmarked]
      rw [List.reverse_append, List.reverse_cons, List.append_assoc, List.singleton_append,
        stops_append_cons_iff markIsNoBlank] at stops ⊢
      exact hypothesis stops

/-- A renamed text is trimmed to the renamed trimmed text. -/
theorem trim_requalify (text : List Char) :
    trim (requalify exchange.change text) = requalify exchange.change (trim text) := by
  rcases exists_surrounded text with ⟨before, after, blankBefore, blankAfter, whole⟩
  have tight := tight_trim text
  have tightRenamed : Tight (requalify exchange.change (trim text)) :=
    ⟨stops_requalify exchange tight.start, stops_reverse_requalify exchange tight.finish⟩
  conv_lhs => rw [whole, requalify_blanks_append blankBefore, requalify_append_blanks blankAfter]
  exact trim_surrounded blankBefore tightRenamed blankAfter

/-! ## Parts -/

theorem cut_of_unmarked
    {run : List Char}
    (unmarked : ∀ mark ∈ marks, mark ∉ run)
    (depth : Nat) :
    cut depth run = (cut depth []).map fun (first, others) => (run ++ first, others) := by
  rw [← cut_append (depthAfterAll?_of_unmarked unmarked depth), List.append_nil]

/-- A renamed text is cut where the text itself is cut. -/
theorem cut_requalify
    (depth : Nat)
    (text : List Char) :
    cut depth (requalify exchange.change text) =
      (cut depth text).map fun (first, others) =>
        (requalify exchange.change first, others.map (requalify exchange.change)) := by
  induction text using runs_induction generalizing depth with
  | unmarked run unmarked =>
      have unmarkedRenamed := unmarked_requalifyRun exchange unmarked
      rw [requalify_of_unmarked unmarked, cut_of_unmarked unmarked,
        cut_of_unmarked unmarkedRenamed]
      cases depth with
      | zero => simp [cut, requalify_of_unmarked unmarked]
      | succ depth => rfl
  | marked run mark rest unmarked isMark hypothesis =>
      have counted := depthAfterAll?_of_unmarked unmarked depth
      have countedRenamed :=
        depthAfterAll?_of_unmarked (unmarked_requalifyRun exchange unmarked) depth
      rw [requalify_append_mark isMark unmarked, cut_append counted, cut_append countedRenamed,
        cut_cons, cut_cons]
      cases depthAfter? depth mark with
      | some next =>
          simp only [hypothesis, Option.map_map, Function.comp_def,
            requalify_append_mark isMark unmarked]
      | none =>
          simp only
          split
          · simp only [hypothesis, Option.map_map, Function.comp_def, List.append_nil,
              requalify_of_unmarked unmarked, List.map_cons]
          · rfl

/-- The parts of a renamed text are the renamed parts. -/
theorem parts?_requalify (text : List Char) :
    parts? (requalify exchange.change text) =
      (parts? text).map (List.map (requalify exchange.change)) := by
  rw [parts?, parts?, cut_requalify, Option.map_map, Option.map_map]
  rfl

/-! ## What is read of a part -/

theorem notMem_of_unmarked
    {text : List Char}
    (unmarked : ∀ mark ∈ marks, mark ∉ text)
    {mark : Char}
    (isMark : mark ∈ marks) :
    text.getLast? ≠ some mark :=
  fun ends => unmarked mark isMark (List.mem_of_getLast? ends)

/-- A renamed text ends with a mark if and only if the text does. -/
theorem getLast?_requalify_iff
    {mark : Char}
    (isMark : mark ∈ marks)
    (text : List Char) :
    (requalify exchange.change text).getLast? = some mark ↔ text.getLast? = some mark := by
  induction text using runs_induction with
  | unmarked run unmarked =>
      rw [requalify_of_unmarked unmarked]
      exact iff_of_false (notMem_of_unmarked (unmarked_requalifyRun exchange unmarked) isMark)
        (notMem_of_unmarked unmarked isMark)
  | marked run other rest unmarked isOther hypothesis =>
      rw [requalify_append_mark isOther unmarked, List.getLast?_append, List.getLast?_append,
        List.getLast?_cons, List.getLast?_cons]
      by_cases nonempty : rest = []
      · subst nonempty
        rfl
      · rcases List.getLast?_isSome.mpr nonempty |> Option.isSome_iff_exists.mp with ⟨last, ends⟩
        rcases List.getLast?_isSome.mpr (requalify_ne_nil exchange nonempty) |>
          Option.isSome_iff_exists.mp with ⟨lastRenamed, endsRenamed⟩
        rw [ends, endsRenamed] at hypothesis ⊢
        exact hypothesis

theorem nameOf_requalify
    {head : List Char}
    (unmarked : ∀ mark ∈ marks, mark ∉ head) :
    Writing.nameOf (requalify exchange.change head) =
      (Writing.nameOf head).requalify exchange.change := by
  have unmarkedTrimmed : ∀ mark ∈ marks, mark ∉ trim head := by
    rcases exists_surrounded head with ⟨before, after, -, -, whole⟩
    intro mark isMark member
    apply unmarked mark isMark
    rw [whole, List.mem_append, List.mem_append]
    exact .inr (.inl member)
  rw [Writing.nameOf, Writing.nameOf, trim_requalify, requalify_of_unmarked unmarkedTrimmed]
  have tight := tight_trim head
  generalize trim head = core at tight
  rcases run_cases core with plain | ⟨blanks, qualifier, rest, rfl, members, stops, absent⟩
  · rw [requalifyRun_of_notMem plain]
    simp [Markup.Name.ofText, (splitFirst_eq_none_iff ':' core).mpr plain,
      Markup.Name.requalify]
  · rw [requalifyRun_qualified members stops absent]
    cases blanks with
    | cons blank blanks =>
        rw [List.all_cons, Bool.and_eq_true] at members
        rw [tight.start blank rfl] at members
        cases members.1
    | nil =>
        have colonIsNoLetter : isLetter ':' = false := by decide
        have split : splitFirst ':' (qualifier ++ ':' :: rest) = some (qualifier, rest) :=
          splitFirst_eq_some_iff.mpr ⟨rfl, absent⟩
        have splitRenamed : splitFirst ':'
            ((exchange.change (String.ofList qualifier)).toList ++ ':' :: rest) =
              some ((exchange.change (String.ofList qualifier)).toList, rest) :=
          splitFirst_eq_some_iff.mpr ⟨rfl, notMem_change exchange colonIsNoLetter absent⟩
        simp [Markup.Name.ofText, split, splitRenamed, Markup.Name.requalify]

/-- The name that is read is the renamed one. -/
theorem readName_requalify
    {head : List Char}
    (unmarked : ∀ mark ∈ marks, mark ∉ head) :
    readName (requalify exchange.change head) =
      (readName head).map (Markup.Name.requalify exchange.change) := by
  have unfolded : ∀ text, readName text =
      if (Writing.nameOf text).localName = "" then .error .missingName
      else .ok (Writing.nameOf text) :=
    fun _ => rfl
  rw [unfolded, unfolded, nameOf_requalify exchange unmarked]
  change (if (Writing.nameOf head).localName = "" then _ else _) = _
  split <;> rfl

theorem isPart_trim
    {part : List Char}
    (isPart : IsPart part) :
    IsPart (trim part) := by
  rcases exists_surrounded part with ⟨before, after, blankBefore, blankAfter, whole⟩
  have beforeIsUnmarked := Writing.unmarked_of_all_isBlank blankBefore
  have afterIsUnmarked := Writing.unmarked_of_all_isBlank blankAfter
  rw [IsPart, whole, depthAfterAll?_append, depthAfterAll?_of_unmarked beforeIsUnmarked,
    Option.bind_some, depthAfterAll?_append] at isPart
  rcases Option.bind_eq_some_iff.mp isPart with ⟨depth, counted, rest⟩
  rw [depthAfterAll?_of_unmarked afterIsUnmarked] at rest
  cases rest
  exact counted

/-- What is read of a renamed part is the renamed name and the renamed text in parentheses. -/
theorem readPart_requalify
    {part : List Char}
    (isPart : IsPart part) :
    readPart (requalify exchange.change part) =
      (readPart part).map fun found =>
        ⟨found.name.requalify exchange.change,
          found.nested.map (requalify exchange.change)⟩ := by
  have openingIsMark : '(' ∈ marks := by simp [marks]
  have closingIsMark : ')' ∈ marks := by simp [marks]
  have trimmedIsPart := isPart_trim isPart
  rw [readPart, readPart, trim_requalify]
  generalize trim part = core at trimmedIsPart
  by_cases blank : core = []
  · subst blank
    rfl
  · simp only [List.isEmpty_iff, blank, requalify_ne_nil exchange blank, if_false]
    cases split : splitFirst '(' core with
    | none =>
        have opensNothing := (splitFirst_eq_none_iff '(' core).mp split
        have unmarked := unmarked_of_depthAfterAll? trimmedIsPart opensNothing
        have unsplit : splitFirst '(' (requalify exchange.change core) = none := by
          rw [splitFirst_eq_none_iff, requalify_of_unmarked unmarked]
          exact unmarked_requalifyRun exchange unmarked '(' openingIsMark
        simp only [unsplit, readName_requalify exchange unmarked]
        cases readName core <;> rfl
    | some pieces =>
        rcases pieces with ⟨head, afterOpening⟩
        rcases splitFirst_eq_some_iff.mp split with ⟨rfl, opensNothing⟩
        rw [IsPart, depthAfterAll?_append] at trimmedIsPart
        rcases Option.bind_eq_some_iff.mp trimmedIsPart with ⟨depth, counted, -⟩
        have unmarked := unmarked_of_depthAfterAll? counted opensNothing
        have splitRenamed : splitFirst '('
            (requalify exchange.change (head ++ '(' :: afterOpening)) =
              some (requalify exchange.change head, requalify exchange.change afterOpening) := by
          refine splitFirst_eq_some_iff.mpr ⟨requalify_append openingIsMark _ _, ?_⟩
          rw [requalify_of_unmarked unmarked]
          exact unmarked_requalifyRun exchange unmarked '(' openingIsMark
        simp only [splitRenamed, getLast?_requalify_iff exchange closingIsMark]
        by_cases closes : afterOpening.getLast? = some ')'
        · rw [if_pos closes, if_pos closes, readName_requalify exchange unmarked]
          have dropped : (requalify exchange.change afterOpening).dropLast =
              requalify exchange.change afterOpening.dropLast := by
            rw [← List.dropLast_append_getLast? ')' closes, requalify_append closingIsMark,
              List.dropLast_concat]
            exact List.dropLast_concat
          rw [dropped]
          cases readName head <;> rfl
        · rw [if_neg closes, if_neg closes]
          rfl

end

end TypeArguments

end ViewAccessors
