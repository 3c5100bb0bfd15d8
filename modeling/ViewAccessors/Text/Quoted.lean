import ViewAccessors.Text.Printable

/-!
# Quoted texts

How a text that was found in a document is shown inside a message: between
double quotes, with a backslash before a quote and before a backslash, short
escapes for the null character, the tab, the carriage return and the line
feed, and the code point for every character that does not show by itself.
-/

namespace ViewAccessors.Text

/-- The lower-case hexadecimal digits of `value`, without leading zeros. -/
def hexadecimal (value : Nat) : List Char :=
  Nat.toDigits 16 value

/-- How one character stands inside a quoted text. -/
def quotedCharacter (character : Char) : List Char :=
  if character = '"' then ['\\', '"']
  else if character = '\\' then ['\\', '\\']
  else if character = '\x00' then ['\\', '0']
  else if character = '\t' then ['\\', 't']
  else if character = '\r' then ['\\', 'r']
  else if character = '\n' then ['\\', 'n']
  else if isExtender character || !isPrintable character then
    ['\\', 'u', '\x7b'] ++ hexadecimal character.toNat ++ ['\x7d']
  else [character]

/-- `text` between double quotes. -/
def quoted (text : String) : String :=
  String.ofList ('"' :: text.toList.flatMap quotedCharacter ++ ['"'])

end ViewAccessors.Text
