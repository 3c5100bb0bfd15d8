import ViewAccessors.Text.Number
import ViewAccessors.Text.Split

/-!
# Character references

In an attribute value and in character data an ampersand begins a reference,
which ends with the next semicolon and stands for one character: one of five
characters under its name, or any character under its decimal or hexadecimal
number.
-/

namespace ViewAccessors.Markup.Reference

/-- The characters that have a name. -/
def named : List (List Char × Char) :=
  [(['a', 'm', 'p'], '&'), (['l', 't'], '<'), (['g', 't'], '>'),
    (['q', 'u', 'o', 't'], '"'), (['a', 'p', 'o', 's'], '\'')]

/-- Reads a number, which may stand after a plus sign. -/
def number?
    (base : Nat)
    (text : List Char) :
    Option Nat :=
  Text.number? base <|
    match text with
    | '+' :: unsigned => unsigned
    | unsigned => unsigned

/-- The character with the given number, if the number is that of a character. -/
def characterOfNumber (code : Nat) : Option Char :=
  if valid : code.isValidChar then some (Char.ofNatAux code valid) else none

/-- The character for which the text between an ampersand and a semicolon stands. -/
def character? (body : List Char) : Option Char :=
  match named.lookup body with
  | some character => some character
  | none =>
    match body with
    | '#' :: 'x' :: hexadecimal => (number? 16 hexadecimal).bind characterOfNumber
    | '#' :: 'X' :: hexadecimal => (number? 16 hexadecimal).bind characterOfNumber
    | '#' :: decimal => (number? 10 decimal).bind characterOfNumber
    | _ => none

/-- How much of a reference without a semicolon an error shows. -/
def shownLength : Nat := 12

/--
Replaces every reference by its character, from left to right and once.  The
error is the first reference that stands for no character.
-/
def decode (raw : List Char) : Except (List Char) (List Char) :=
  match raw with
  | [] => .ok []
  | '&' :: rest =>
    match _broken : Text.breakOn [';'] rest with
    | none => .error (rest.take shownLength)
    | some (body, after) =>
      match character? body with
      | none => .error body
      | some character => (decode after).map (character :: ·)
  | character :: rest => (decode rest).map (character :: ·)
termination_by raw.length
decreasing_by
  · have := Text.eq_append_of_breakOn _broken
    simp [this]
    omega
  · simp

end ViewAccessors.Markup.Reference
