import Mathlib.Data.List.Basic
import ViewAccessors.TypeRef.Arguments

/-!
# The parts of type arguments

A text is cut at its commas outside parentheses.  How many parentheses are
open is counted along the text, and a count that meets such a comma, or a
parenthesis that closes nothing, has no result.  The parts of a text are the
texts that this count passes from no open parenthesis to none, and they are
the only way to write the text as such texts with commas between them.
-/

namespace ViewAccessors.TypeArguments

/-- The characters that structure a list of type arguments. -/
def marks : List Char :=
  [',', '(', ')']

/--
How many parentheses are open after a character if `depth` are open before
it.  There is no answer for a parenthesis that closes nothing and for a comma
outside parentheses.
-/
def depthAfter? (depth : Nat) (character : Char) : Option Nat :=
  if character = '(' then
    some (depth + 1)
  else if character = ')' then
    if depth = 0 then none else some (depth - 1)
  else if character = ',' ∧ depth = 0 then
    none
  else
    some depth

/-- How many parentheses are open after a text if `depth` are open before it. -/
def depthAfterAll?
    (depth : Nat)
    (text : List Char) :
    Option Nat :=
  text.foldlM depthAfter? depth

/-- The parentheses of a text pair up, and no comma stands outside them. -/
def IsPart (text : List Char) : Prop :=
  depthAfterAll? 0 text = some 0

@[simp]
theorem depthAfterAll?_nil (depth : Nat) :
    depthAfterAll? depth [] = some depth :=
  rfl

@[simp]
theorem depthAfterAll?_cons
    (depth : Nat)
    (character : Char)
    (rest : List Char) :
    depthAfterAll? depth (character :: rest) =
      (depthAfter? depth character).bind fun next => depthAfterAll? next rest :=
  rfl

theorem depthAfterAll?_append
    (depth : Nat)
    (first second : List Char) :
    depthAfterAll? depth (first ++ second) =
      (depthAfterAll? depth first).bind fun next => depthAfterAll? next second := by
  rw [depthAfterAll?, List.foldlM_append]
  rfl

theorem depthAfter?_of_notMem
    {character : Char}
    (unmarked : character ∉ marks)
    (depth : Nat) :
    depthAfter? depth character = some depth := by
  simp only [marks, List.mem_cons, List.not_mem_nil, or_false, not_or] at unmarked
  rcases unmarked with ⟨notComma, notOpening, notClosing⟩
  simp [depthAfter?, notComma, notOpening, notClosing]

/-- A text without marks leaves the parentheses as they are. -/
theorem depthAfterAll?_of_unmarked
    {text : List Char}
    (unmarked : ∀ mark ∈ marks, mark ∉ text)
    (depth : Nat) :
    depthAfterAll? depth text = some depth := by
  induction text with
  | nil => rfl
  | cons character rest hypothesis =>
      have plain : character ∉ marks :=
        fun isMark => unmarked character isMark List.mem_cons_self
      rw [depthAfterAll?_cons, depthAfter?_of_notMem plain, Option.bind_some]
      exact hypothesis fun mark isMark member =>
        unmarked mark isMark (List.mem_cons_of_mem _ member)

/--
One character of a text that is cut: a character that is counted belongs to
the part before the cut, a comma that is not counted is where the text is
cut, and after a parenthesis that closes nothing there are no parts.
-/
theorem cut_cons
    (depth : Nat)
    (character : Char)
    (rest : List Char) :
    cut depth (character :: rest) =
      match depthAfter? depth character with
      | some next => (cut next rest).map fun (first, others) => (character :: first, others)
      | none =>
        if character = ',' then
          (cut 0 rest).map fun (first, others) => ([], first :: others)
        else
          none := by
  by_cases isOpening : character = '('
  · subst isOpening
    cases depth <;> simp [cut, depthAfter?]
  · by_cases isClosing : character = ')'
    · subst isClosing
      cases depth <;> simp [cut, depthAfter?]
    · by_cases isComma : character = ','
      · subst isComma
        cases depth <;> simp [cut, depthAfter?]
      · cases depth <;> simp [cut, depthAfter?, isOpening, isClosing, isComma]

/-- A text that is counted belongs to the part before the cut. -/
theorem cut_append
    {depth after : Nat}
    {text : List Char}
    (counted : depthAfterAll? depth text = some after)
    (rest : List Char) :
    cut depth (text ++ rest) =
      (cut after rest).map fun (first, others) => (text ++ first, others) := by
  induction text generalizing depth with
  | nil =>
      cases counted
      simp
  | cons character text hypothesis =>
      rcases Option.bind_eq_some_iff.mp counted with ⟨next, here, later⟩
      rw [List.cons_append, cut_cons, here]
      simp only [hypothesis later, Option.map_map]
      rfl

theorem intercalate_cons_append
    (separator start first : List Char)
    (others : List (List Char)) :
    separator.intercalate ((start ++ first) :: others) =
      start ++ separator.intercalate (first :: others) := by
  cases others with
  | nil => simp
  | cons other others => simp

/-- What is cut are parts, the first one behind the open parentheses, with commas between. -/
theorem intercalate_of_cut
    {depth : Nat}
    {text first : List Char}
    {others : List (List Char)}
    (found : cut depth text = some (first, others)) :
    depthAfterAll? depth first = some 0 ∧ (∀ other ∈ others, IsPart other) ∧
      text = [','].intercalate (first :: others) := by
  induction text generalizing depth first others with
  | nil =>
      cases depth with
      | zero =>
          cases found
          simp
      | succ depth => cases found
  | cons character rest hypothesis =>
      rw [cut_cons] at found
      cases counted : depthAfter? depth character with
      | some next =>
          simp only [counted, Option.map_eq_some_iff, Prod.mk.injEq] at found
          rcases found with ⟨⟨later, _⟩, foundLater, rfl, rfl⟩
          rcases hypothesis foundLater with ⟨closes, parts, whole⟩
          refine ⟨?_, parts, ?_⟩
          · rw [depthAfterAll?_cons, counted]
            exact closes
          · rw [whole]
            exact (intercalate_cons_append [','] [character] later _).symm
      | none =>
          simp only [counted] at found
          split at found
          · rename_i isComma
            have outside : depth = 0 := by
              subst isComma
              simpa [depthAfter?] using counted
            simp only [Option.map_eq_some_iff, Prod.mk.injEq] at found
            rcases found with ⟨⟨later, more⟩, foundLater, rfl, rfl⟩
            rcases hypothesis foundLater with ⟨closes, parts, whole⟩
            refine ⟨by rw [outside]; rfl, List.forall_mem_cons.mpr ⟨closes, parts⟩, ?_⟩
            rw [whole, isComma]
            simp
          · cases found

/-- Parts with commas between them are cut where the commas are. -/
theorem cut_intercalate
    {first : List Char}
    {others : List (List Char)}
    (isPart : IsPart first)
    (areParts : ∀ other ∈ others, IsPart other) :
    cut 0 ([','].intercalate (first :: others)) = some (first, others) := by
  induction others generalizing first with
  | nil =>
      rw [List.intercalate_singleton, ← List.append_nil first, cut_append isPart]
      simp [cut]
  | cons other others hypothesis =>
      rw [List.forall_mem_cons] at areParts
      rw [List.intercalate_cons_cons, List.append_assoc, cut_append isPart, List.singleton_append,
        cut_cons]
      simp [depthAfter?, hypothesis areParts.1 areParts.2]

/-- The parts of a text are the only parts that give the text with commas between them. -/
theorem parts?_eq_some_iff
    (text : List Char)
    (parts : List (List Char)) :
    parts? text = some parts ↔
      parts ≠ [] ∧ (∀ part ∈ parts, IsPart part) ∧ [','].intercalate parts = text := by
  rw [parts?, Option.map_eq_some_iff]
  constructor
  · rintro ⟨⟨first, others⟩, found, rfl⟩
    rcases intercalate_of_cut found with ⟨isPart, areParts, whole⟩
    exact ⟨List.cons_ne_nil _ _, List.forall_mem_cons.mpr ⟨isPart, areParts⟩, whole.symm⟩
  · rintro ⟨nonempty, areParts, rfl⟩
    cases parts with
    | nil => exact absurd rfl nonempty
    | cons first others =>
        rw [List.forall_mem_cons] at areParts
        exact ⟨(first, others), cut_intercalate areParts.1 areParts.2, rfl⟩

end ViewAccessors.TypeArguments
