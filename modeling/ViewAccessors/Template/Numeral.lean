import ViewAccessors.Text.Number
import ViewAccessors.Text.Split

/-!
# Numbers in slots

A number in a slot is written with decimal digits, which may stand after a
minus sign and before the letter `E` and an exponent.  Whatever a number is
used for, it must lie in the range of double precision.  Its size is computed
in two roundings: the first digits, as many as fit into a word, and the power
of ten that the other digits and the exponent make are each rounded to a
double, and the number is too large if the product of the two rounds to none.
-/

namespace ViewAccessors.Template

/-- The largest value of a word of 64 bits. -/
def largestWord : Nat := Nat.pow 2 64 - 1

/-- The largest power of ten that is a double. -/
def largestPower : Nat := 308

/-- From here on numbers round to no double. -/
def doubleBound : Nat := Nat.pow 2 1024 - Nat.pow 2 970

/--
The nearest number with at most 53 significant binary digits.  Of two numbers
that are equally near, the one whose last significant digit is zero counts.
-/
def nearestDouble (value : Nat) : Nat :=
  let unit := Nat.pow 2 (value.log2 + 1 - 53)
  let below := value / unit
  let rest := value % unit
  if 2 * rest < unit ∨ (2 * rest = unit ∧ below % 2 = 0) then
    below * unit
  else
    (below + 1) * unit

/-- A number as it is written. -/
structure Numeral where
  negative : Bool
  /-- The digits before the exponent, at least one. -/
  digits : List Char
  /-- The exponent, if one is written. -/
  exponent : Option Int
  deriving DecidableEq, Repr

/-- Whether a minus sign begins a text, and what follows it. -/
def cutSign : List Char → Bool × List Char
  | '-' :: unsigned => (true, unsigned)
  | unsigned => (false, unsigned)

/-- Reads a number with nothing but digits. -/
def readDigits? (text : List Char) : Option Nat :=
  if text.all Char.isDigit then Text.number? 10 text else none

/-- Reads an exponent, which may stand after a minus sign. -/
def readExponent? (text : List Char) : Option Int :=
  let (negative, unsigned) := cutSign text
  (readDigits? unsigned).map fun power => if negative then -power else power

namespace Numeral

/-- Reads a number. -/
def ofWord? (word : List Char) : Option Numeral :=
  let (negative, unsigned) := cutSign word
  match Text.splitFirst 'E' unsigned with
  | none => (readDigits? unsigned).map fun _ => ⟨negative, unsigned, none⟩
  | some (digits, exponent) => do
    let _ ← readDigits? digits
    let power ← readExponent? exponent
    some ⟨negative, digits, some power⟩

/-- Whether the digits begin with a zero that does not count. -/
def hasNeedlessZero (numeral : Numeral) : Bool :=
  numeral.digits.head? == some '0' && numeral.digits != ['0']

/--
Goes on reading digits as long as the value fits into a word, those before
them having the value `value`, and returns the value with the other digits.
-/
def cutWord :
    (value : Nat) →
    List Char →
    Nat × List Char
  | value, [] => (value, [])
  | value, digit :: others =>
    let longer := value * 10 + (Text.digitValue digit).getD 0
    if longer ≤ largestWord then cutWord longer others else (value, digit :: others)

/-- Whether the number lies beyond the doubles. -/
def isTooLarge (numeral : Numeral) : Bool :=
  let (significand, others) := cutWord 0 numeral.digits
  let power := others.length + numeral.exponent.getD 0
  significand != 0 && 0 ≤ power
    && (largestPower < power
      || doubleBound ≤ nearestDouble significand * nearestDouble (Nat.pow 10 power.toNat))

/-- Whether the number can stand in a slot. -/
def isValid (numeral : Numeral) : Bool :=
  !numeral.hasNeedlessZero && !numeral.isTooLarge

/--
The number as one that counts something, if it has no sign and no exponent
and fits into a word.
-/
def count? (numeral : Numeral) : Option Nat :=
  if numeral.negative || numeral.exponent.isSome then
    none
  else
    (readDigits? numeral.digits).filter (· ≤ largestWord)

end Numeral

end ViewAccessors.Template
