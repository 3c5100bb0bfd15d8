import ViewAccessors.Proofs.Outcomes
import ViewAccessors.Proofs.Trimming
import ViewAccessors.Proofs.TypeArguments.Writing

/-!
# Which type arguments are read

A text is read as a list of type arguments exactly if it is written as one in
which lists stand at most as deep in each other as there is room for and in
which every name has a type.  What is read is then what is written.  Reading
takes the first opening parenthesis of a part and a closing one at its end for
a pair; where they are none, the text between them is no list.
-/

namespace ViewAccessors.TypeArguments

open Text
open Writing

/-! ## Names -/

theorem readName_eq_ok_iff
    (text : List Char)
    (name : Markup.Name) :
    readName text = .ok name ↔ nameOf text = name ∧ name.localName ≠ "" := by
  rw [readName]
  change (if (nameOf text).localName = "" then _ else Except.ok (nameOf text)) = _ ↔ _
  split
  · rename_i unnamed
    constructor
    · intro impossible
      cases impossible
    · rintro ⟨rfl, named⟩
      exact absurd unnamed named
  · rename_i named
    constructor
    · intro read
      cases read
      exact ⟨rfl, named⟩
    · rintro ⟨rfl, -⟩
      rfl

/-- Blanks around a name make no difference. -/
theorem nameOf_append_append
    {before after : List Char}
    (blankBefore : before.all isBlank = true)
    (text : List Char)
    (blankAfter : after.all isBlank = true) :
    nameOf (before ++ (text ++ after)) = nameOf text := by
  rw [nameOf, trim_append_append blankBefore text blankAfter, nameOf]

theorem nameOf_trim (text : List Char) :
    nameOf (trim text) = nameOf text := by
  rcases exists_surrounded text with ⟨before, after, blankBefore, blankAfter, whole⟩
  conv_rhs => rw [whole, nameOf_append_append blankBefore _ blankAfter]

/-- Blanks are no name. -/
theorem trim_ne_nil_of_named
    {text : List Char}
    (named : (nameOf text).localName ≠ "") :
    trim text ≠ [] := by
  intro blank
  apply named
  rw [nameOf, blank]
  rfl

/-! ## Parts -/

/-- A text that is counted and opens no parenthesis has no marks, if none is open before it. -/
theorem unmarked_of_depthAfterAll?
    {text : List Char}
    {after : Nat}
    (counted : depthAfterAll? 0 text = some after)
    (opensNothing : '(' ∉ text) :
    ∀ mark ∈ marks, mark ∉ text := by
  induction text with
  | nil => exact fun _ _ => List.not_mem_nil
  | cons character rest hypothesis =>
      rw [List.mem_cons, not_or] at opensNothing
      rcases opensNothing with ⟨notOpening, opensNothingLater⟩
      rcases Option.bind_eq_some_iff.mp counted with ⟨next, here, later⟩
      have plain : character ∉ marks ∧ next = 0 := by
        by_cases isClosing : character = ')'
        · simp [depthAfter?, isClosing] at here
        · by_cases isComma : character = ','
          · simp [depthAfter?, isComma] at here
          · simp [depthAfter?, isClosing, isComma, Ne.symm notOpening] at here
            simp [marks, isClosing, isComma, Ne.symm notOpening, here.symm]
      rcases plain with ⟨unmarked, rfl⟩
      intro mark isMark member
      cases member with
      | head => exact unmarked isMark
      | tail _ inside => exact hypothesis later opensNothingLater mark isMark inside

/-- The name of a type alone is read as such. -/
theorem readPart_plain (head : Head) :
    readPart head.text = .ok ⟨head.name, none⟩ := by
  have notBlank := trim_ne_nil_of_named head.named
  have opensNothing : '(' ∉ trim head.text := by
    rcases exists_surrounded head.text with ⟨before, after, -, -, whole⟩
    have absent := head.unmarked '(' (by simp [marks])
    rw [whole] at absent
    simp only [List.mem_append, not_or] at absent
    exact absent.2.1
  have read : readName (trim head.text) = .ok head.name :=
    (readName_eq_ok_iff _ _).mpr ⟨nameOf_trim _, head.named⟩
  simp only [readPart, List.isEmpty_iff, notBlank, if_false,
    (splitFirst_eq_none_iff '(' _).mpr opensNothing, read]
  rfl

/-- The name of a type and a text in parentheses are read as such, whatever the text is. -/
theorem readPart_generic
    (head : Head)
    (inner : List Char)
    (blanks : Markup.Writing.Run isBlank) :
    readPart (head.text ++ '(' :: (inner ++ ')' :: blanks.text)) =
      .ok ⟨head.name, some inner⟩ := by
  have notBlank := trim_ne_nil_of_named head.named
  rcases exists_surrounded head.text with ⟨before, after, blankBefore, blankAfter, whole⟩
  rcases List.exists_cons_of_ne_nil notBlank with ⟨first, others, begins⟩
  have tight : Tight (trim head.text ++ after ++ '(' :: inner ++ [')']) := by
    have firstIsNoBlank := (tight_trim head.text).start first (by rw [begins]; rfl)
    apply tight_of_ends firstIsNoBlank (by decide : isBlank ')' = false)
    · rw [begins]
      rfl
    · exact List.getLast?_concat
  have trimmed : trim (head.text ++ '(' :: (inner ++ ')' :: blanks.text)) =
      trim head.text ++ after ++ '(' :: inner ++ [')'] := by
    rw [← trim_surrounded blankBefore tight blanks.members]
    conv_lhs => rw [whole]
    simp only [List.append_assoc, List.cons_append, List.nil_append]
  have split : splitFirst '(' (trim head.text ++ after ++ '(' :: inner ++ [')']) =
      some (trim head.text ++ after, inner ++ [')']) := by
    have absent := head.unmarked '(' (by simp [marks])
    rw [whole, List.mem_append, not_or] at absent
    exact splitFirst_eq_some_iff.mpr ⟨by simp, absent.2⟩
  have read : readName (trim head.text ++ after) = .ok head.name := by
    refine (readName_eq_ok_iff _ _).mpr ⟨?_, head.named⟩
    rw [← List.nil_append (trim head.text ++ after), nameOf_append_append rfl _ blankAfter,
      nameOf_trim]
    rfl
  rw [readPart, trimmed]
  simp only [List.isEmpty_iff, split, read, List.getLast?_append, List.dropLast_concat]
  simp [Except.map]

/-- What was read of a part: its first opening parenthesis decides. -/
theorem cases_of_readPart
    {part : List Char}
    {name : Markup.Name}
    {nested : Option (List Char)}
    (read : readPart part = .ok ⟨name, nested⟩) :
    nested = none ∧ '(' ∉ trim part ∧ readName (trim part) = .ok name ∨
      ∃ head inner, nested = some inner ∧ trim part = head ++ '(' :: (inner ++ [')']) ∧
        '(' ∉ head ∧ readName head = .ok name := by
  simp only [readPart] at read
  split at read
  · cases read
  · split at read
    · rename_i unsplit
      rcases map_eq_ok_iff.mp read with ⟨found, named, same⟩
      cases same
      exact .inl ⟨rfl, (splitFirst_eq_none_iff '(' _).mp unsplit, named⟩
    · rename_i head afterOpening split
      rcases splitFirst_eq_some_iff.mp split with ⟨whole, absent⟩
      split at read
      · rename_i closes
        rcases map_eq_ok_iff.mp read with ⟨found, named, same⟩
        cases same
        refine .inr ⟨head, afterOpening.dropLast, rfl, ?_, absent, named⟩
        rw [List.dropLast_append_getLast? ')' closes]
        exact whole
      · cases read

/-- A part that is read as the name of a type alone is written as one. -/
theorem exists_of_readPart_plain
    {part : List Char}
    {name : Markup.Name}
    (isPart : IsPart part)
    (read : readPart part = .ok ⟨name, none⟩) :
    ∃ head : Head, head.text = part ∧ head.name = name := by
  rcases cases_of_readPart read with ⟨-, opensNothing, named⟩ | ⟨_, _, impossible, -⟩
  · rcases exists_surrounded part with ⟨before, after, blankBefore, blankAfter, whole⟩
    rcases (readName_eq_ok_iff _ _).mp named with ⟨isName, notBlank⟩
    rw [nameOf_trim] at isName
    have opensNothingAround : '(' ∉ part := by
      have noOpening : '(' ∈ marks := by simp [marks]
      rw [whole, List.mem_append, List.mem_append, not_or, not_or]
      exact ⟨unmarked_of_all_isBlank blankBefore _ noOpening, opensNothing,
        unmarked_of_all_isBlank blankAfter _ noOpening⟩
    exact ⟨⟨part, unmarked_of_depthAfterAll? isPart opensNothingAround, isName ▸ notBlank⟩,
      rfl, isName⟩
  · cases impossible

/-- A part that is read as a name and a text in parentheses is written as such. -/
theorem exists_of_readPart_generic
    {part inner : List Char}
    {name : Markup.Name}
    (isPart : IsPart part)
    (read : readPart part = .ok ⟨name, some inner⟩) :
    ∃ (head : Head) (blanks : Markup.Writing.Run isBlank),
      head.text ++ '(' :: (inner ++ ')' :: blanks.text) = part ∧ head.name = name := by
  rcases cases_of_readPart read with ⟨impossible, -⟩ | ⟨start, _, same, trimmed, absent, named⟩
  · cases impossible
  · cases same
    rcases exists_surrounded part with ⟨before, after, blankBefore, blankAfter, whole⟩
    rw [trimmed] at whole
    have written : (before ++ start) ++ '(' :: (inner ++ ')' :: after) = part := by
      rw [whole]
      simp only [List.append_assoc, List.cons_append, List.nil_append]
    rcases (readName_eq_ok_iff _ _).mp named with ⟨isName, notBlank⟩
    have sameName : nameOf (before ++ start) = name := by
      rw [← isName, ← List.append_nil start, nameOf_append_append blankBefore _ rfl,
        List.append_nil]
    have opensNothing : '(' ∉ before ++ start := by
      rw [List.mem_append, not_or]
      exact ⟨unmarked_of_all_isBlank blankBefore _ (by simp [marks]), absent⟩
    rw [IsPart, ← written, depthAfterAll?_append] at isPart
    rcases Option.bind_eq_some_iff.mp isPart with ⟨between, counted, -⟩
    exact ⟨⟨before ++ start, unmarked_of_depthAfterAll? counted opensNothing,
      sameName ▸ notBlank⟩, ⟨after, blankAfter⟩, written, sameName⟩

end ViewAccessors.TypeArguments
