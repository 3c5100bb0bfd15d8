import Mathlib.Data.List.Infix
import ViewAccessors.Proofs.TypeArguments.Parts

/-!
# Balanced parentheses

Whether the parentheses of a text pair up can be told by counting: no
beginning of the text closes more of them than it opens, and the whole text
closes as many as it opens.  A comma stands outside parentheses if as many are
closed as are opened before it.  A text is a part of a list of type arguments
if and only if its parentheses pair up and it has no such comma.
-/

namespace ViewAccessors.TypeArguments

/--
No beginning of the text closes more parentheses than it opens, and the whole
text leaves `depth` of them open.
-/
structure LeavesOpen (depth : Nat) (text : List Char) : Prop where
  count_le : ∀ start, start <+: text → start.count ')' ≤ start.count '('
  count_eq : text.count '(' = text.count ')' + depth

/-- The parentheses of the text pair up. -/
def IsBalanced (text : List Char) : Prop :=
  LeavesOpen 0 text

/-- A comma stands at the index, behind as many closing parentheses as opening ones. -/
def IsOuterComma (text : List Char) (index : Nat) : Prop :=
  text[index]? = some ',' ∧ (text.take index).count '(' = (text.take index).count ')'

instance (text : List Char) (index : Nat) : Decidable (IsOuterComma text index) :=
  inferInstanceAs (Decidable (_ ∧ _))

/-- How many commas of a text stand outside parentheses. -/
def outerCommas (text : List Char) : Nat :=
  (List.range text.length).countP fun index => IsOuterComma text index

theorem not_isBalanced_iff (text : List Char) :
    ¬ IsBalanced text ↔
      (∃ start, start <+: text ∧ start.count '(' < start.count ')') ∨
        text.count '(' ≠ text.count ')' := by
  constructor
  · intro unbalanced
    by_cases counts : text.count '(' = text.count ')'
    · left
      by_contra closes
      push Not at closes
      exact unbalanced ⟨closes, counts⟩
    · exact Or.inr counts
  · rintro (⟨start, within, more⟩ | counts) balanced
    · exact Nat.not_lt.mpr (balanced.count_le start within) more
    · exact counts balanced.count_eq

/-! ## One more character -/

theorem leavesOpen_nil : LeavesOpen 0 [] where
  count_le := by
    intro start within
    rw [List.prefix_nil.mp within]
    exact Nat.le_refl 0
  count_eq := rfl

theorem leavesOpen_concat_iff
    {depth : Nat}
    {text : List Char}
    {character : Char} :
    LeavesOpen depth (text ++ [character]) ↔
      (∃ before, LeavesOpen before text) ∧
        (text ++ [character]).count '(' = (text ++ [character]).count ')' + depth := by
  constructor
  · intro leavesOpen
    have early : ∀ start, start <+: text → start.count ')' ≤ start.count '(' :=
      fun start within => leavesOpen.count_le start (within.trans (List.prefix_append _ _))
    have closes := early text (List.prefix_refl text)
    exact ⟨⟨_, early, (Nat.add_sub_of_le closes).symm⟩, leavesOpen.count_eq⟩
  · rintro ⟨⟨before, leavesOpen⟩, counts⟩
    refine ⟨fun start within => ?_, counts⟩
    rcases List.prefix_concat_iff.mp within with rfl | early
    · exact Nat.le.intro counts.symm
    · exact leavesOpen.count_le start early

/-- A comma behind as many closing parentheses as opening ones adds one, and nothing else does. -/
theorem outerCommas_concat
    (text : List Char)
    (character : Char) :
    outerCommas (text ++ [character]) =
      outerCommas text + if character = ',' ∧ text.count '(' = text.count ')' then 1 else 0 := by
  have early : ∀ index ∈ List.range text.length,
      IsOuterComma (text ++ [character]) index ↔ IsOuterComma text index := by
    intro index inside
    have within := List.mem_range.mp inside
    rw [IsOuterComma, IsOuterComma, List.getElem?_append_left within,
      List.take_append_of_le_length (Nat.le_of_lt within)]
  have last : IsOuterComma (text ++ [character]) text.length ↔
      character = ',' ∧ text.count '(' = text.count ')' := by
    simp [IsOuterComma]
  rw [outerCommas, List.length_append, List.length_singleton, List.range_succ, List.countP_append,
    outerCommas]
  congr 1
  · exact List.countP_congr fun index inside => by simpa using early index inside
  · simp [List.countP_singleton, last]

theorem depthAfter?_eq_some_iff
    {depth next : Nat}
    {character : Char} :
    depthAfter? depth character = some next ↔
      [character].count '(' + depth = [character].count ')' + next ∧
        ¬ (character = ',' ∧ depth = 0) := by
  by_cases isOpening : character = '('
  · subst isOpening
    simp [depthAfter?, Nat.add_comm 1]
  · by_cases isClosing : character = ')'
    · subst isClosing
      cases depth <;> simp [depthAfter?, Nat.add_comm 1]
    · by_cases isComma : character = ','
      · subst isComma
        simp [depthAfter?, and_comm]
      · simp [depthAfter?, isOpening, isClosing, isComma]

theorem depthAfter?_eq_none_iff
    {depth : Nat}
    {character : Char} :
    depthAfter? depth character = none ↔ depth = 0 ∧ (character = ',' ∨ character = ')') := by
  rw [depthAfter?]
  split_ifs with isOpening isClosing outside isComma
  · simp [isOpening]
  · simp [isClosing, outside]
  · simp [outside]
  · simp [isComma]
  · refine iff_of_false (by simp) ?_
    rintro ⟨outside, rfl | rfl⟩
    · exact isComma ⟨rfl, outside⟩
    · exact isClosing rfl

/--
Behind a text that leaves parentheses open, a character is counted unless it
closes nothing or is a comma outside parentheses.
-/
theorem LeavesOpen.counts_iff
    {depth next : Nat}
    {text : List Char}
    {character : Char}
    (leavesOpen : LeavesOpen depth text) :
    depthAfter? depth character = some next ↔
      LeavesOpen next (text ++ [character]) ∧
        ¬ (character = ',' ∧ text.count '(' = text.count ')') := by
  have counts := leavesOpen.count_eq
  have outside : text.count '(' = text.count ')' ↔ depth = 0 := by omega
  rw [depthAfter?_eq_some_iff, leavesOpen_concat_iff, outside, List.count_append,
    List.count_append, counts, Nat.add_assoc, Nat.add_assoc, Nat.add_left_cancel_iff,
    Nat.add_comm depth]
  exact and_congr_left fun _ => (and_iff_right ⟨depth, leavesOpen⟩).symm

/-- The text is counted to the end if it has no comma outside parentheses. -/
theorem depthAfterAll?_eq_some_iff
    {depth : Nat}
    {text : List Char} :
    depthAfterAll? 0 text = some depth ↔ LeavesOpen depth text ∧ outerCommas text = 0 := by
  induction text using List.reverseRecOn generalizing depth with
  | nil =>
      constructor
      · intro counted
        cases counted
        exact ⟨leavesOpen_nil, rfl⟩
      · rintro ⟨leavesOpen, -⟩
        rw [depthAfterAll?_nil, ← Nat.zero_add depth]
        exact congrArg some leavesOpen.count_eq
  | append_singleton text character hypothesis =>
      simp only [depthAfterAll?_append, Option.bind_eq_some_iff, hypothesis, depthAfterAll?_cons,
        depthAfterAll?_nil, Option.bind_fun_some, outerCommas_concat, Nat.add_eq_zero_iff,
        ite_eq_right_iff, Nat.one_ne_zero, imp_false]
      constructor
      · rintro ⟨before, ⟨leavesOpen, noComma⟩, counted⟩
        rcases leavesOpen.counts_iff.mp counted with ⟨further, noOuterComma⟩
        exact ⟨further, noComma, noOuterComma⟩
      · rintro ⟨further, noComma, noOuterComma⟩
        rcases leavesOpen_concat_iff.mp further with ⟨⟨before, leavesOpen⟩, -⟩
        exact ⟨before, ⟨leavesOpen, noComma⟩, leavesOpen.counts_iff.mpr ⟨further, noOuterComma⟩⟩

theorem isPart_iff (text : List Char) :
    IsPart text ↔ IsBalanced text ∧ outerCommas text = 0 :=
  depthAfterAll?_eq_some_iff

/-! ## Texts one behind the other -/

/-- A balanced text in front changes nothing. -/
theorem LeavesOpen.behind
    {depth : Nat}
    {first second : List Char}
    (leavesOpen : LeavesOpen depth second)
    (balanced : IsBalanced first) :
    LeavesOpen depth (first ++ second) where
  count_le := by
    intro start within
    rcases List.prefix_or_prefix_of_prefix within (List.prefix_append first second) with
      early | ⟨later, rfl⟩
    · exact balanced.count_le start early
    · have inSecond := (List.prefix_append_right_inj first).mp within
      rw [List.count_append, List.count_append, balanced.count_eq]
      exact Nat.add_le_add_left (leavesOpen.count_le later inSecond) _
  count_eq := by
    rw [List.count_append, List.count_append, balanced.count_eq, leavesOpen.count_eq,
      Nat.add_zero, Nat.add_assoc]

theorem isBalanced_comma : IsBalanced [','] :=
  leavesOpen_concat_iff.mpr ⟨⟨0, leavesOpen_nil⟩, rfl⟩

/-- Balanced texts with commas between them make a balanced text. -/
theorem isBalanced_intercalate
    {parts : List (List Char)}
    (balanced : ∀ part ∈ parts, IsBalanced part) :
    IsBalanced ([','].intercalate parts) := by
  induction parts with
  | nil => exact leavesOpen_nil
  | cons first others hypothesis =>
      rw [List.forall_mem_cons] at balanced
      cases others with
      | nil =>
          rw [List.intercalate_singleton]
          exact balanced.1
      | cons second others =>
          rw [List.intercalate_cons_cons, List.append_assoc]
          exact ((hypothesis balanced.2).behind isBalanced_comma).behind balanced.1

end ViewAccessors.TypeArguments
