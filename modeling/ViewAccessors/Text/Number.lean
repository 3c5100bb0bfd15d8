/-!
# Written numbers

Numbers are written with the digits of a base from two to sixteen; letters
stand for the digits from ten on, in either case.
-/

namespace ViewAccessors.Text

/-- The value of a digit. -/
def digitValue (character : Char) : Option Nat :=
  if '0' ≤ character ∧ character ≤ '9' then some (character.toNat - '0'.toNat)
  else if 'a' ≤ character ∧ character ≤ 'f' then some (character.toNat - 'a'.toNat + 10)
  else if 'A' ≤ character ∧ character ≤ 'F' then some (character.toNat - 'A'.toNat + 10)
  else none

/-- Goes on reading digits, those before them having the value `value`. -/
def digits?
    (base value : Nat) :
    List Char → Option Nat
  | [] => some value
  | character :: rest =>
    match digitValue character with
    | some digit => if digit < base then digits? base (value * base + digit) rest else none
    | none => none

/-- Reads a number of one or more digits. -/
def number?
    (base : Nat)
    (text : List Char) :
    Option Nat :=
  if text.isEmpty then none else digits? base 0 text

end ViewAccessors.Text
