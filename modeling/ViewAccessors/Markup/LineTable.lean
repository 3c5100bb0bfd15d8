import ViewAccessors.Markup.Position

/-!
# Positions by the beginnings of lines

Positions need not be kept while a text is read: a table of the offsets at
which its lines begin finds the line and the column of any offset afterwards.
-/

namespace ViewAccessors.Markup

/-- The characters of a text that begins at `offset`, each with its own offset. -/
def indexed (offset : Nat) : List Char → List (Nat × Char)
  | [] => []
  | character :: text => (offset, character) :: indexed (offset + character.utf8Size) text

/-- A text with the offsets at which its lines begin, in ascending order. -/
structure LineTable where
  characters : List (Nat × Char)
  starts : List Nat

namespace LineTable

/-- The offsets of the characters behind the line feeds among `characters`. -/
def startsAmong (characters : List (Nat × Char)) : List Nat :=
  (characters.filter fun entry => entry.2 = '\n').map fun entry => entry.1 + 1

/-- The table of a text.  The first line begins with the text, the others behind line feeds. -/
def ofText (text : List Char) : LineTable :=
  ⟨indexed 0 text, 0 :: startsAmong (indexed 0 text)⟩

/-- The position of an offset, on the last line that does not begin behind it. -/
def position
    (table : LineTable)
    (offset : Nat) :
    Position :=
  let lines := table.starts.takeWhile (· ≤ offset)
  let start := lines.getLastD 0
  let column := table.characters.countP fun entry => start ≤ entry.1 ∧ entry.1 < offset
  ⟨offset, lines.length, column + 1⟩

end LineTable

end ViewAccessors.Markup
