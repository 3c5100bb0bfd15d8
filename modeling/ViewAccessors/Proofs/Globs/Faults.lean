import ViewAccessors.Proofs.Globs.Patterns

/-!
# Faulty patterns

A text is no pattern if one of its classes is faulty: it is not closed, or one
of its ranges is reversed.  The fault is that of the first such class, and the
first reversed range in it, counted from the left.  This is said here by
cutting the text in two before the faulty class, so that every class in front
is complete.
-/

namespace ViewAccessors.Glob

open Text

/-! ## Classes as they are written -/

/-- What follows an opening bracket begins with the mark for negation, if it begins with one. -/
def Begins (mark body : List Char) : Prop :=
  mark = ['!'] ∨ mark = ['^'] ∨
    mark = [] ∧ body.head? ≠ some '!' ∧ body.head? ≠ some '^'

/--
What follows an opening bracket is a class with its members and its closing
bracket, and then `after`.  The first member may be a closing bracket, but no
other one can be.
-/
inductive IsClass : (opened members after : List Char) → Prop where
  | intro
      {mark others after : List Char}
      {first : Char}
      (begins : Begins mark (first :: others ++ ']' :: after))
      (unclosed : ']' ∉ others) :
      IsClass (mark ++ (first :: others ++ ']' :: after)) (first :: others) after

/-- The ranges that members list, in their order.  A single member is a range of its own. -/
def writtenRanges : List Char → List CharacterRange
  | [] => []
  | low :: '-' :: high :: rest => ⟨low, high⟩ :: writtenRanges rest
  | single :: rest => ⟨single, single⟩ :: writtenRanges rest

/-- Whether the higher end of the range is written first. -/
def CharacterRange.isReversed (range : CharacterRange) : Bool :=
  range.high < range.low

/-- A text whose classes are closed and list no reversed range. -/
inductive Complete : List Char → Prop where
  | nil : Complete []
  | other
      {character : Char}
      {rest : List Char}
      (noBracket : character ≠ '[')
      (complete : Complete rest) :
      Complete (character :: rest)
  | ofClass
      {opened members after : List Char}
      (isClass : IsClass opened members after)
      (ordered : ∀ range ∈ writtenRanges members, range.isReversed = false)
      (complete : Complete after) :
      Complete ('[' :: opened)

/-- What follows an opening bracket is a faulty class, for the given reason. -/
inductive FaultyClass : (opened : List Char) → (reason : String) → Prop where
  | unterminated
      {mark body : List Char}
      (begins : Begins mark body)
      (unclosed : ']' ∉ body.tail) :
      FaultyClass (mark ++ body) "unterminated character class"
  | reversed
      {opened members after : List Char}
      {range : CharacterRange}
      (isClass : IsClass opened members after)
      (first : (writtenRanges members).find? CharacterRange.isReversed = some range) :
      FaultyClass opened
        ("invalid range " ++ String.ofList [range.low] ++ "-" ++ String.ofList [range.high])

/-- The first faulty class of a text is faulty for the given reason. -/
def FirstFault (pattern : List Char) (reason : String) : Prop :=
  ∃ before opened, pattern = before ++ '[' :: opened ∧ Complete before ∧
    FaultyClass opened reason

/-! ## Reading classes -/

theorem cutNegation_of_begins
    {mark body : List Char}
    (begins : Begins mark body) :
    (cutNegation (mark ++ body)).2 = body := by
  rcases begins with rfl | rfl | ⟨rfl, noExclamation, noCaret⟩
  · rfl
  · rfl
  · rw [List.nil_append]
    unfold cutNegation
    split
    · exact absurd rfl noExclamation
    · exact absurd rfl noCaret
    · rfl

theorem exists_begins (opened : List Char) :
    ∃ mark, Begins mark (cutNegation opened).2 ∧ opened = mark ++ (cutNegation opened).2 := by
  unfold cutNegation
  split
  · exact ⟨['!'], .inl rfl, rfl⟩
  · exact ⟨['^'], .inr (.inl rfl), rfl⟩
  · rename_i noExclamation noCaret
    refine ⟨[], .inr (.inr ⟨rfl, ?_, ?_⟩), rfl⟩
    · rw [ne_eq, List.head?_eq_some_iff]
      exact fun ⟨rest, begins⟩ => noExclamation rest begins
    · rw [ne_eq, List.head?_eq_some_iff]
      exact fun ⟨rest, begins⟩ => noCaret rest begins

/-- A class is closed whatever follows it. -/
theorem IsClass.append
    {opened members after : List Char}
    (isClass : IsClass opened members after)
    (rest : List Char) :
    IsClass (opened ++ rest) members (after ++ rest) := by
  rcases isClass with ⟨begins, unclosed⟩
  rename_i mark others first
  have begins : Begins mark (first :: others ++ ']' :: (after ++ rest)) := begins
  simpa using IsClass.intro begins unclosed

/-- A class does not depend on the end of the text behind it. -/
theorem IsClass.exists_of_append
    {opened members before rest : List Char}
    (isClass : IsClass opened members (before ++ rest)) :
    ∃ shorter, opened = shorter ++ rest ∧ IsClass shorter members before := by
  generalize whole : before ++ rest = after at isClass
  rcases isClass with ⟨begins, unclosed⟩
  rename_i mark others first
  subst whole
  have begins : Begins mark (first :: others ++ ']' :: before) := begins
  exact ⟨_, by simp, .intro begins unclosed⟩

theorem isClass_iff
    {opened members after : List Char} :
    IsClass opened members after ↔ cutClass? (cutNegation opened).2 = some (members, after) := by
  constructor
  · rintro ⟨begins, unclosed⟩
    rename_i mark others first
    rw [cutNegation_of_begins begins, List.cons_append, cutClass?,
      splitFirst_eq_some_iff.mpr ⟨rfl, unclosed⟩]
    rfl
  · intro cut
    rcases exists_begins opened with ⟨mark, begins, whole⟩
    generalize (cutNegation opened).2 = body at cut begins whole
    cases body with
    | nil => cases cut
    | cons first rest =>
        rcases Option.map_eq_some_iff.mp cut with ⟨⟨others, later⟩, split, same⟩
        cases same
        rcases splitFirst_eq_some_iff.mp split with ⟨rfl, unclosed⟩
        rw [whole]
        exact .intro begins unclosed

/-- A class is not closed exactly if no closing bracket stands behind its first member. -/
theorem cutClass?_eq_none_iff (body : List Char) :
    cutClass? body = none ↔ ']' ∉ body.tail := by
  cases body with
  | nil => simp [cutClass?]
  | cons first rest =>
      rw [cutClass?, Option.map_eq_none_iff, splitFirst_eq_none_iff, List.tail_cons]

/-- Members can be read if no range is reversed; else the first reversed range is the fault. -/
theorem readMembers_eq (members : List Char) :
    readMembers members =
      match (writtenRanges members).find? CharacterRange.isReversed with
      | some range => .error (.invalidRange range.low range.high)
      | none => .ok (writtenRanges members) := by
  fun_induction readMembers members with
  | case1 => rfl
  | case2 low high rest reversed =>
      have isReversed : (CharacterRange.mk low high).isReversed = true := decide_eq_true reversed
      rw [writtenRanges, List.find?_cons_of_pos isReversed]
  | case3 low high rest ordered hypothesis =>
      have isOrdered : ¬ (CharacterRange.mk low high).isReversed = true := by
        simpa [CharacterRange.isReversed] using ordered
      rw [writtenRanges, List.find?_cons_of_neg isOrdered, hypothesis]
      cases (writtenRanges rest).find? CharacterRange.isReversed <;> rfl
  | case4 single rest noRange hypothesis =>
      have isOrdered : ¬ (CharacterRange.mk single single).isReversed = true := by
        simp [CharacterRange.isReversed]
      rw [writtenRanges, List.find?_cons_of_neg isOrdered, hypothesis]
      · cases (writtenRanges rest).find? CharacterRange.isReversed <;> rfl
      · exact noRange

theorem readMembers_eq_ok_iff
    {members : List Char}
    {ranges : List CharacterRange} :
    readMembers members = .ok ranges ↔
      ranges = writtenRanges members ∧
        ∀ range ∈ writtenRanges members, range.isReversed = false := by
  rw [readMembers_eq]
  cases found : (writtenRanges members).find? CharacterRange.isReversed with
  | some range =>
      have member := List.mem_of_find?_eq_some found
      have reversed := List.find?_some found
      constructor
      · intro read
        cases read
      · rintro ⟨-, ordered⟩
        rw [ordered range member] at reversed
        cases reversed
  | none =>
      simp only [List.find?_eq_none, Bool.not_eq_true] at found
      rw [Except.ok.injEq, eq_comm, and_iff_left found]

theorem readMembers_eq_error_iff
    {members : List Char}
    {fault : Fault} :
    readMembers members = .error fault ↔
      ∃ range, (writtenRanges members).find? CharacterRange.isReversed = some range ∧
        fault = .invalidRange range.low range.high := by
  rw [readMembers_eq]
  cases (writtenRanges members).find? CharacterRange.isReversed with
  | some range => simp [eq_comm]
  | none => simp

theorem readClass_of_isClass
    {opened members after : List Char}
    (isClass : IsClass opened members after) :
    readClass opened = (readMembers members).map fun ranges =>
      (classOf (cutNegation opened).1 ranges, after) := by
  rw [readClass, isClass_iff.mp isClass]

/-- A class can be read if it is closed and lists no reversed range. -/
theorem exists_readClass
    {opened members after : List Char}
    (isClass : IsClass opened members after)
    (ordered : ∀ range ∈ writtenRanges members, range.isReversed = false) :
    ∃ chars, readClass opened = .ok (chars, after) := by
  rw [readClass_of_isClass isClass, readMembers_eq_ok_iff.mpr ⟨rfl, ordered⟩]
  exact ⟨_, rfl⟩

theorem exists_isClass_of_readClass
    {opened after : List Char}
    {chars : CharacterClass}
    (read : readClass opened = .ok (chars, after)) :
    ∃ members, IsClass opened members after ∧
      ∀ range ∈ writtenRanges members, range.isReversed = false := by
  rw [readClass] at read
  split at read
  · cases read
  · rename_i members later cut
    rcases map_eq_ok_iff.mp read with ⟨ranges, readRanges, same⟩
    cases same
    exact ⟨members, isClass_iff.mpr cut, (readMembers_eq_ok_iff.mp readRanges).2⟩

/-- A class cannot be read exactly if it is faulty. -/
theorem faultyClass_iff
    {opened : List Char}
    {reason : String} :
    FaultyClass opened reason ↔
      ∃ fault, readClass opened = .error fault ∧ fault.describe = reason := by
  constructor
  · intro faulty
    cases faulty with
    | unterminated begins unclosed =>
        refine ⟨.unterminatedClass, ?_, rfl⟩
        rw [readClass, cutNegation_of_begins begins, (cutClass?_eq_none_iff _).mpr unclosed]
    | @reversed _ members after range isClass first =>
        refine ⟨.invalidRange range.low range.high, ?_, rfl⟩
        rw [readClass_of_isClass isClass, map_eq_error_iff, readMembers_eq_error_iff]
        exact ⟨range, first, rfl⟩
  · rintro ⟨fault, failed, rfl⟩
    rw [readClass] at failed
    split at failed
    · rename_i unclosed
      cases failed
      rcases exists_begins opened with ⟨mark, begins, whole⟩
      rw [whole]
      exact .unterminated begins ((cutClass?_eq_none_iff _).mp unclosed)
    · rename_i members after cut
      rcases readMembers_eq_error_iff.mp (map_eq_error_iff.mp failed) with ⟨range, first, rfl⟩
      exact .reversed (isClass_iff.mpr cut) first

/-! ## Reading patterns -/

theorem readItems_class (opened : List Char) :
    readItems ('[' :: opened) =
      match readClass opened with
      | .error fault => .error fault
      | .ok (chars, after) => (readItems after).map (.one chars :: ·) := by
  rw [readItems]
  split <;> rename_i found <;> rw [found]

theorem readItems_exactly
    {character : Char}
    (plain : character ∉ ['*', '?', '['])
    (rest : List Char) :
    readItems (character :: rest) = (readItems rest).map (.exactly character :: ·) := by
  simp only [List.mem_cons, List.not_mem_nil, or_false, not_or] at plain
  rcases plain with ⟨noStar, noMark, noBracket⟩
  rw [readItems]
  · exact fun _ isStar _ => noStar isStar
  · exact fun _ isStar _ => noStar isStar
  · exact noStar
  · exact noMark
  · exact noBracket

/-- Whether a star stands alone or not, what follows it fails for itself. -/
theorem readItems_star_eq_error_iff
    (rest : List Char)
    (fault : Fault) :
    readItems ('*' :: rest) = .error fault ↔ readItems rest = .error fault := by
  induction rest with
  | nil => simp [readItems, Except.map]
  | cons second others hypothesis =>
      by_cases isStar : second = '*'
      · subst isStar
        by_cases hasSlash : ∃ later, others = '/' :: later
        · rcases hasSlash with ⟨later, rfl⟩
          rw [readItems, hypothesis, readItems_exactly (by decide), map_eq_error_iff,
            map_eq_error_iff]
        · rw [readItems, map_eq_error_iff, hypothesis]
          exact fun later begins => hasSlash ⟨later, begins⟩
      · rw [readItems, map_eq_error_iff]
        · exact fun later begins => isStar (List.cons.inj begins).1
        · exact fun later begins => isStar (List.cons.inj begins).1

/-- What does not open a class is passed, and what follows it fails for itself. -/
theorem readItems_cons_eq_error_iff
    {character : Char}
    (noBracket : character ≠ '[')
    (rest : List Char)
    (fault : Fault) :
    readItems (character :: rest) = .error fault ↔ readItems rest = .error fault := by
  by_cases isStar : character = '*'
  · rw [isStar, readItems_star_eq_error_iff]
  · by_cases isMark : character = '?'
    · rw [isMark, readItems, map_eq_error_iff]
    · have plain : character ∉ ['*', '?', '['] := by
        simp [isStar, isMark, noBracket]
      rw [readItems_exactly plain, map_eq_error_iff]

/-- A complete text is passed, and what follows it fails for itself. -/
theorem readItems_append_eq_error_iff
    {before : List Char}
    (complete : Complete before)
    (rest : List Char)
    (fault : Fault) :
    readItems (before ++ rest) = .error fault ↔ readItems rest = .error fault := by
  induction complete with
  | nil => rfl
  | other noBracket _ hypothesis =>
      rw [List.cons_append, readItems_cons_eq_error_iff noBracket, hypothesis]
  | ofClass isClass ordered _ hypothesis =>
      rcases exists_readClass (isClass.append rest) ordered with ⟨chars, read⟩
      rw [List.cons_append, readItems_class, read]
      simp only [map_eq_error_iff, hypothesis]

/-- A pattern that cannot be read has a complete text before its first faulty class. -/
theorem exists_of_readItems_eq_error
    {pattern : List Char}
    {fault : Fault}
    (failed : readItems pattern = .error fault) :
    FirstFault pattern fault.describe := by
  induction measured : pattern.length using Nat.strongRecOn generalizing pattern with
  | ind length hypothesis =>
    subst measured
    cases pattern with
    | nil => simp [readItems] at failed
    | cons character rest =>
        by_cases isBracket : character = '['
        · subst isBracket
          rw [readItems_class] at failed
          cases read : readClass rest with
          | error other =>
              rw [read] at failed
              cases failed
              exact ⟨[], rest, rfl, .nil, faultyClass_iff.mpr ⟨fault, read, rfl⟩⟩
          | ok pieces =>
              rcases pieces with ⟨chars, after⟩
              simp only [read, map_eq_error_iff] at failed
              have shorter := length_lt_of_readClass read
              rcases hypothesis after.length (by simp; omega) failed rfl with
                ⟨before, opened, rfl, complete, faulty⟩
              rcases exists_isClass_of_readClass read with ⟨members, isClass, ordered⟩
              rcases isClass.exists_of_append with ⟨written, rfl, isWritten⟩
              exact ⟨'[' :: written, opened, rfl, .ofClass isWritten ordered complete, faulty⟩
        · rw [readItems_cons_eq_error_iff isBracket] at failed
          rcases hypothesis rest.length (by simp) failed rfl with
            ⟨before, opened, rfl, complete, faulty⟩
          exact ⟨character :: before, opened, rfl, .other isBracket complete, faulty⟩

theorem firstFault_iff
    {pattern : List Char}
    {reason : String} :
    FirstFault pattern reason ↔
      ∃ fault, readItems pattern = .error fault ∧ fault.describe = reason := by
  constructor
  · rintro ⟨before, opened, rfl, complete, faulty⟩
    rcases faultyClass_iff.mp faulty with ⟨fault, failed, described⟩
    refine ⟨fault, ?_, described⟩
    rw [readItems_append_eq_error_iff complete, readItems_class, failed]
  · rintro ⟨fault, failed, rfl⟩
    exact exists_of_readItems_eq_error failed

end ViewAccessors.Glob
