/-!
# Positions in a markup text

A position counts the bytes, the lines and the characters of the line that
precede it.  A line ends with a line feed and with nothing else.  Positions
are reached from the start of the text by stepping over its characters, so
that a position is determined by the text before it.
-/

namespace ViewAccessors.Markup

/-- A place between two characters of a text. -/
structure Position where
  /-- The number of bytes before this place. -/
  offset : Nat
  /-- The line, counted from one. -/
  line : Nat
  /-- The column in characters, counted from one. -/
  column : Nat
  deriving DecidableEq, Repr, Inhabited

namespace Position

/-- The place before the first character of a text. -/
def start : Position := ⟨0, 1, 1⟩

/-- The place after `character`, when `position` is the place before it. -/
def step
    (position : Position)
    (character : Char) :
    Position :=
  let offset := position.offset + character.utf8Size
  if character = '\n' then
    ⟨offset, position.line + 1, 1⟩
  else
    ⟨offset, position.line, position.column + 1⟩

/-- The place after `text`, when `position` is the place before it. -/
def after
    (position : Position)
    (text : List Char) :
    Position :=
  text.foldl step position

@[simp]
theorem after_nil (position : Position) :
    position.after [] = position :=
  rfl

@[simp]
theorem after_cons
    (position : Position)
    (character : Char)
    (text : List Char) :
    position.after (character :: text) = (position.step character).after text :=
  rfl

@[simp]
theorem after_append
    (position : Position)
    (first second : List Char) :
    position.after (first ++ second) = (position.after first).after second :=
  List.foldl_append

/-- Stepping over a text counts its line feeds. -/
theorem line_after
    (position : Position)
    (text : List Char) :
    (position.after text).line = position.line + text.count '\n' := by
  induction text generalizing position with
  | nil => simp
  | cons character text hypothesis =>
    rw [after_cons, hypothesis, List.count_cons]
    by_cases lineFeed : character = '\n'
    · simp [step, lineFeed]
      omega
    · simp [step, lineFeed]

end Position

/-- A stretch of text, from the place before it to the place after it. -/
structure Span where
  start : Position
  stop : Position
  deriving DecidableEq, Repr, Inhabited

namespace Span

/-- The line on which the stretch begins. -/
def line (span : Span) : Nat :=
  span.start.line

end Span

end ViewAccessors.Markup
