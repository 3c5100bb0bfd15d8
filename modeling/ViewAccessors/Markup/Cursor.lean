import ViewAccessors.Markup.Position
import ViewAccessors.Text.Split

/-!
# Reading a text from left to right

A cursor is a place in a text together with the text that follows it.  The
three ways to move it are to pass a given text, to pass the characters of a
class, and to pass everything up to and including a delimiter.  Each of them
is described by `Passes`: the cursor has moved over a stretch of text, and its
place has moved with it.
-/

namespace ViewAccessors.Markup

/-- A place in a text and the text from there on. -/
structure Cursor where
  place : Position
  rest : List Char
  deriving DecidableEq, Repr

namespace Cursor

/-- The cursor before the first character of `text`. -/
def ofText (text : List Char) : Cursor :=
  ⟨.start, text⟩

/-- `later` is reached from `cursor` by passing `text`. -/
def Passes
    (cursor : Cursor)
    (text : List Char)
    (later : Cursor) :
    Prop :=
  cursor.rest = text ++ later.rest ∧ later.place = cursor.place.after text

namespace Passes

theorem refl (cursor : Cursor) :
    cursor.Passes [] cursor :=
  ⟨rfl, rfl⟩

theorem trans
    {first second third : Cursor}
    {before after : List Char}
    (early : first.Passes before second)
    (late : second.Passes after third) :
    first.Passes (before ++ after) third := by
  constructor
  · rw [early.1, late.1, List.append_assoc]
  · rw [late.2, early.2, Position.after_append]

theorem length_eq
    {cursor later : Cursor}
    {text : List Char}
    (passes : cursor.Passes text later) :
    cursor.rest.length = text.length + later.rest.length := by
  rw [passes.1, List.length_append]

end Passes

/-- The stretch of text between two cursors. -/
def spanTo
    (cursor later : Cursor) :
    Span :=
  ⟨cursor.place, later.place⟩

/-- Passes `text`, if it stands at the cursor. -/
def pass?
    (cursor : Cursor)
    (text : List Char) :
    Option Cursor :=
  (Text.dropStart? text cursor.rest).map fun rest => ⟨cursor.place.after text, rest⟩

theorem pass?_eq_some_iff
    {cursor later : Cursor}
    {text : List Char} :
    cursor.pass? text = some later ↔ cursor.Passes text later := by
  obtain ⟨place, rest⟩ := later
  simp only [pass?, Option.map_eq_some_iff, Passes, mk.injEq]
  constructor
  · rintro ⟨_, found, rfl, rfl⟩
    exact ⟨Text.dropStart?_eq_some_iff.1 found, rfl⟩
  · rintro ⟨found, rfl⟩
    exact ⟨rest, Text.dropStart?_eq_some_iff.2 found, rfl, rfl⟩

/-- Passes the longest run of characters of the class, which may be empty. -/
def passWhile
    (cursor : Cursor)
    (member : Char → Bool) :
    List Char × Cursor :=
  let run := cursor.rest.takeWhile member
  (run, ⟨cursor.place.after run, cursor.rest.dropWhile member⟩)

theorem passes_passWhile
    (cursor : Cursor)
    (member : Char → Bool) :
    cursor.Passes (cursor.passWhile member).1 (cursor.passWhile member).2 :=
  ⟨List.takeWhile_append_dropWhile.symm, rfl⟩

theorem length_passWhile_le
    (cursor : Cursor)
    (member : Char → Bool) :
    (cursor.passWhile member).2.rest.length ≤ cursor.rest.length := by
  have := (cursor.passes_passWhile member).length_eq
  omega

/-- Passes the blanks at the cursor. -/
def passBlanks (cursor : Cursor) : Cursor :=
  (cursor.passWhile Text.isBlank).2

theorem length_passBlanks_le (cursor : Cursor) :
    cursor.passBlanks.rest.length ≤ cursor.rest.length :=
  cursor.length_passWhile_le Text.isBlank

/--
Passes everything up to the first `delimiter` and the delimiter itself, and
returns what stood before the delimiter.
-/
def passThrough?
    (cursor : Cursor)
    (delimiter : List Char) :
    Option (List Char × Cursor) :=
  (Text.breakOn delimiter cursor.rest).map fun (before, after) =>
    (before, ⟨cursor.place.after (before ++ delimiter), after⟩)

theorem passes_of_passThrough?
    {cursor later : Cursor}
    {delimiter before : List Char}
    (passed : cursor.passThrough? delimiter = some (before, later)) :
    cursor.Passes (before ++ delimiter) later := by
  simp only [passThrough?, Option.map_eq_some_iff, Prod.mk.injEq] at passed
  obtain ⟨⟨_, after⟩, found, rfl, rfl⟩ := passed
  exact ⟨Text.eq_append_of_breakOn found, rfl⟩

end Cursor

end ViewAccessors.Markup
