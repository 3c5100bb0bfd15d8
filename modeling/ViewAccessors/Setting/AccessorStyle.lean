import ViewAccessors.Setting.Unknown

/-!
# How named elements are made accessible
-/

namespace ViewAccessors

/-- How a generated class gives access to the named elements. -/
inductive AccessorStyle where
  /-- One property for each name, which looks the element up on every access. -/
  | properties
  /-- One field for each name, which an initialising method assigns. -/
  | fields
  deriving DecidableEq, Repr, Inhabited

namespace AccessorStyle

/-- The style as options spell it. -/
def toText : AccessorStyle → String
  | properties => "OnlyProperties"
  | fields => "InitializeComponent"

/-- Reads a style, which may have blanks around it. -/
def ofText (text : String) : Except UnknownValue AccessorStyle :=
  let word := Text.trimmed text
  if word = properties.toText then .ok properties
  else if word = fields.toText then .ok fields
  else .error ⟨.accessorStyle, word⟩

end AccessorStyle

end ViewAccessors
