import ViewAccessors.Setting.Language

/-!
# The names of generated files
-/

namespace ViewAccessors

/-- What the name of a generated file is made of. -/
inductive FileNaming where
  | byClass
  | byNamespaceAndClass
  deriving DecidableEq, Repr, Inhabited

namespace FileNaming

/-- The naming as options spell it. -/
def toText : FileNaming → String
  | byClass => "ClassName"
  | byNamespaceAndClass => "NamespaceAndClassName"

/-- Reads a naming, which may have blanks around it. -/
def ofText (text : String) : Except UnknownValue FileNaming :=
  let word := Text.trimmed text
  if word = byClass.toText then .ok byClass
  else if word = byNamespaceAndClass.toText then .ok byNamespaceAndClass
  else .error ⟨.fileNaming, word⟩

/--
The name of the file for a class.  A class outside every namespace has no
namespace to be named by.
-/
def fileName
    (naming : FileNaming)
    (language : Language)
    (namespaceName className : String) :
    String :=
  let short := className ++ ".g." ++ language.extension
  if naming = byNamespaceAndClass ∧ namespaceName ≠ "" then
    namespaceName ++ "." ++ short
  else
    short

end FileNaming

end ViewAccessors
