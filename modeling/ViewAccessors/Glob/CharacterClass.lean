/-!
# Classes of characters in patterns

A class lists ranges of characters and accepts the characters that lie in one
of them, or, if it is negated, the characters that lie in none.
-/

namespace ViewAccessors.Glob

/-- The characters from `low` to `high`, both included. -/
structure CharacterRange where
  low : Char
  high : Char
  deriving DecidableEq, Repr

namespace CharacterRange

/-- Whether the character lies in the range. -/
def contains
    (range : CharacterRange)
    (character : Char) :
    Bool :=
  range.low ≤ character && character ≤ range.high

end CharacterRange

/-- A set of characters, given by the ranges that it consists of or leaves out. -/
structure CharacterClass where
  members : List CharacterRange
  negated : Bool
  deriving DecidableEq, Repr

namespace CharacterClass

/-- Whether the character belongs to the class. -/
def accepts
    (chars : CharacterClass)
    (character : Char) :
    Bool :=
  (chars.members.any (·.contains character)) != chars.negated

/-- The class of one character. -/
def only (character : Char) : CharacterClass :=
  ⟨[⟨character, character⟩], false⟩

/-- The class of all characters but one. -/
def allBut (character : Char) : CharacterClass :=
  ⟨[⟨character, character⟩], true⟩

theorem accepts_only
    (member character : Char) :
    (only member).accepts character = decide (character = member) := by
  have bounds : member ≤ character ∧ character ≤ member ↔ character = member :=
    ⟨fun both => Char.le_antisymm both.2 both.1, by rintro rfl; simp⟩
  simp [accepts, only, CharacterRange.contains, ← Bool.decide_and, bounds]

theorem accepts_allBut
    (member character : Char) :
    (allBut member).accepts character = decide (character ≠ member) := by
  have := accepts_only member character
  simp only [accepts, only, allBut] at this ⊢
  simp_all

end CharacterClass

end ViewAccessors.Glob
