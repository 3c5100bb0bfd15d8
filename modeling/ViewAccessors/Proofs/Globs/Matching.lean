import Mathlib.Data.List.Basic
import ViewAccessors.Glob.Matching

/-!
# What rows answer

A row answers for every suffix of a text whether the items match it.  The
answer for the text itself is found item by item: an item matches a beginning
of the text, and the other items match what is left.
-/

namespace ViewAccessors.Glob

theorem CharacterClass.accepts_only_eq (member : Char) :
    (only member).accepts = fun character => decide (character = member) :=
  funext (accepts_only member)

theorem CharacterClass.accepts_allBut_eq (member : Char) :
    (allBut member).accepts = fun character => decide (character ≠ member) :=
  funext (accepts_allBut member)

/-- The texts that may be left of a text after a run of the given characters. -/
def afterRun (member : Char → Bool) : List Char → List (List Char)
  | [] => [[]]
  | character :: text =>
    (character :: text) :: if member character then afterRun member text else []

/-- What a run leaves is what follows some run. -/
theorem mem_afterRun_iff
    {member : Char → Bool}
    {text rest : List Char} :
    rest ∈ afterRun member text ↔ ∃ run, run.all member = true ∧ text = run ++ rest := by
  induction text with
  | nil =>
      rw [afterRun, List.mem_singleton]
      constructor
      · rintro rfl
        exact ⟨[], rfl, rfl⟩
      · rintro ⟨run, -, whole⟩
        exact (List.nil_eq_append_iff.mp whole).2
  | cons character text hypothesis =>
      rw [afterRun, List.mem_cons]
      constructor
      · rintro (rfl | later)
        · exact ⟨[], rfl, rfl⟩
        · by_cases isMember : member character = true
          · rw [if_pos isMember, hypothesis] at later
            rcases later with ⟨run, members, rfl⟩
            exact ⟨character :: run, by rw [List.all_cons, isMember, members]; rfl, rfl⟩
          · rw [if_neg isMember] at later
            cases later
      · rintro ⟨run, members, whole⟩
        cases run with
        | nil => exact .inl whole.symm
        | cons first run =>
            rw [List.cons_append, List.cons.injEq] at whole
            rw [List.all_cons, Bool.and_eq_true] at members
            rcases whole with ⟨rfl, rest⟩
            right
            rw [if_pos members.1]
            exact hypothesis.mpr ⟨run, members.2, rest⟩

/-- A text begins with one of the given characters, and `matchRest` holds of what follows. -/
def oneThen
    (member : Char → Bool)
    (matchRest : List Char → Bool) :
    List Char → Bool
  | [] => false
  | character :: text => member character && matchRest text

/-- A text begins with a run of the given characters, and `matchRest` holds of what follows. -/
def runThen
    (member : Char → Bool)
    (matchRest : List Char → Bool)
    (text : List Char) :
    Bool :=
  (afterRun member text).any matchRest

theorem runThen_cons
    (member : Char → Bool)
    (matchRest : List Char → Bool)
    (character : Char)
    (text : List Char) :
    runThen member matchRest (character :: text) =
      (matchRest (character :: text) || (member character && runThen member matchRest text)) := by
  rw [runThen, afterRun, List.any_cons, runThen]
  cases member character <;> rfl

namespace Item

/-- A text begins with what the item stands for, and `matchRest` holds of what follows. -/
def before
    (item : Item)
    (matchRest : List Char → Bool) :
    List Char → Bool :=
  match item with
  | one chars => oneThen chars.accepts matchRest
  | run chars => runThen chars.accepts matchRest
  | directories => fun text =>
    matchRest text || runThen (· ≠ '\n') (oneThen (· = '/') matchRest) text

end Item

/-! ## Rows -/

theorem headD_map_tails
    (answer : List Char → Bool)
    (text : List Char) :
    (text.tails.map answer).headD false = answer text := by
  cases text <;> rfl

theorem endRow_eq (text : List Char) :
    endRow text = text.tails.map List.isEmpty := by
  induction text with
  | nil => rfl
  | cons character text hypothesis =>
      rw [endRow, hypothesis, List.tails, List.map_cons, List.isEmpty_cons]

section

variable (chars : CharacterClass) (answer : List Char → Bool) (text : List Char)

theorem oneRow_eq :
    oneRow chars text (text.tails.map answer) = text.tails.map (oneThen chars.accepts answer) := by
  induction text with
  | nil => rfl
  | cons character text hypothesis =>
      rw [oneRow, List.tails, List.map_cons, List.map_cons, List.tail_cons, hypothesis,
        headD_map_tails, oneThen]

theorem runRow_eq :
    runRow chars text (text.tails.map answer) = text.tails.map (runThen chars.accepts answer) := by
  induction text with
  | nil => simp [runRow, runThen, afterRun]
  | cons character text hypothesis =>
      rw [runRow, List.tails, List.map_cons, List.map_cons, List.tail_cons, hypothesis,
        headD_map_tails, List.headD_cons, runThen_cons]

/-- An item before the suffixes of which a row answers. -/
theorem Item.row_eq (item : Item) :
    item.row text (text.tails.map answer) = text.tails.map (item.before answer) := by
  cases item with
  | one chars => exact oneRow_eq chars answer text
  | run chars => exact runRow_eq chars answer text
  | directories =>
      rw [row, oneRow_eq, runRow_eq, CharacterClass.accepts_allBut_eq,
        CharacterClass.accepts_only_eq, List.zipWith_map, List.zipWith_self]
      rfl

end

/-! ## Items -/

theorem rowOf_eq
    (items : List Item)
    (text : List Char) :
    rowOf items text = text.tails.map (items.foldr Item.before List.isEmpty) := by
  induction items with
  | nil => exact endRow_eq text
  | cons item items hypothesis =>
      change item.row text (rowOf items text) = _
      rw [hypothesis, Item.row_eq, List.foldr_cons]

theorem matchItems_eq (items : List Item) :
    matchItems items = items.foldr Item.before List.isEmpty := by
  funext text
  rw [matchItems, rowOf_eq, headD_map_tails]

/-- No items match the empty text only. -/
theorem matchItems_nil : matchItems [] = List.isEmpty :=
  matchItems_eq []

/-- The first item matches a beginning of the text, and the others match the rest. -/
theorem matchItems_cons
    (item : Item)
    (items : List Item) :
    matchItems (item :: items) = item.before (matchItems items) := by
  rw [matchItems_eq, matchItems_eq, List.foldr_cons]

end ViewAccessors.Glob
