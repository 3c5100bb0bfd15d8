import ViewAccessors.Glob.Pattern

/-!
# Matching

Whether items match a text is computed for all suffixes of the text at once,
one item after the other from the last to the first.  A row holds one answer
for each suffix, from the whole text down to the empty one, so that a pattern
with many runs takes no more than one row for each item.
-/

namespace ViewAccessors.Glob

/-- The answers for no items: only the empty suffix is matched. -/
def endRow : List Char → List Bool
  | [] => [true]
  | _ :: text => false :: endRow text

/-- The answers for one character of the class before what `row` answers for. -/
def oneRow
    (chars : CharacterClass) :
    List Char → List Bool → List Bool
  | [], _ => [false]
  | character :: text, row =>
    (chars.accepts character && row.tail.headD false) :: oneRow chars text row.tail

/-- The answers for a run of characters of the class before what `row` answers for. -/
def runRow
    (chars : CharacterClass) :
    List Char → List Bool → List Bool
  | [], row => [row.headD false]
  | character :: text, row =>
    let later := runRow chars text row.tail
    (row.headD false || (chars.accepts character && later.headD false)) :: later

namespace Item

/-- The answers for an item before what `row` answers for. -/
def row
    (item : Item)
    (text : List Char)
    (row : List Bool) :
    List Bool :=
  match item with
  | one chars => oneRow chars text row
  | run chars => runRow chars text row
  | directories =>
    List.zipWith or row (runRow (.allBut '\n') text (oneRow (.only '/') text row))

end Item

/-- The answers for a list of items. -/
def rowOf
    (items : List Item)
    (text : List Char) :
    List Bool :=
  items.foldr (fun item row => item.row text row) (endRow text)

/-- Whether the items match the whole text. -/
def matchItems
    (items : List Item)
    (text : List Char) :
    Bool :=
  (rowOf items text).headD false

end ViewAccessors.Glob
