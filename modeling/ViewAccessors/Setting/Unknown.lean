import ViewAccessors.Text.Blank

/-!
# Values of settings that have no meaning

Four settings take one of a few words.  A word that is none of them is
reported together with the setting for which it was given.
-/

namespace ViewAccessors

/-- The settings that take one of a few words. -/
inductive Setting where
  | accessorStyle
  | visibility
  | fileNaming
  | language
  deriving DecidableEq, Repr

namespace Setting

/-- The setting as messages name it. -/
def describe : Setting → String
  | accessorStyle => "generator behavior"
  | visibility => "field modifier"
  | fileNaming => "naming strategy"
  | language => "target language"

end Setting

/-- A word that a setting does not know. -/
structure UnknownValue where
  setting : Setting
  value : String
  deriving DecidableEq, Repr

namespace UnknownValue

/-- The wording of the error. -/
def message (unknown : UnknownValue) : String :=
  "Unknown " ++ unknown.setting.describe ++ ": " ++ unknown.value

end UnknownValue

/-- `text` without surrounding blanks and with its ASCII letters in lower case. -/
def lowered (text : String) : String :=
  String.ofList ((Text.trim text.toList).map Char.toLower)

end ViewAccessors
