import ViewAccessors.Glob.Group
import ViewAccessors.Options.Basic
import ViewAccessors.Text.Number

/-!
# Errors in options
-/

namespace ViewAccessors.Options

/-- The fields of the options in the order in which they are written. -/
inductive Field where
  | style
  | visibility
  | pathPatterns
  | namespacePatterns
  | fileNaming
  | language
  | additionalNamespaces
  | namespaceMappings
  | typeMappings
  deriving DecidableEq, Repr

namespace Field

/-- All fields. -/
def all : List Field :=
  [style, visibility, pathPatterns, namespacePatterns, fileNaming, language,
    additionalNamespaces, namespaceMappings, typeMappings]

/-- The key under which a field is written. -/
def key : Field → String
  | style => "behavior"
  | visibility => "defaultFieldModifier"
  | pathPatterns => "filterByPath"
  | namespacePatterns => "filterByNamespace"
  | fileNaming => "namingStrategy"
  | language => "language"
  | additionalNamespaces => "additionalNamespaces"
  | namespaceMappings => "namespaceMappings"
  | typeMappings => "typeMappings"

/-- The field that is written under a key. -/
def ofKey? (key : String) : Option Field :=
  all.find? (·.key == key)

end Field

/-- Why a JSON text does not give options. -/
inductive Fault where
  /-- There is no field of this key. -/
  | unknownField (key : String)
  | duplicateField (field : Field)
  /-- A setting has a value that it does not know. -/
  | rejected (unknown : UnknownValue)
  /-- The text is not JSON, or a value is of the wrong kind. -/
  | malformed
  deriving DecidableEq, Repr

/-- The number that a text ends with, provided that it can be an index, and the text before it. -/
def cutIndex? (text : List Char) : Option (List Char) :=
  let reversed := text.reverse
  let number := (reversed.takeWhile Char.isDigit).reverse
  match Text.number? 10 number with
  | some index =>
    if index < Nat.pow 2 64 then some (reversed.dropWhile Char.isDigit).reverse else none
  | none => none

/-- The text before `ending`, if the text ends with it. -/
def dropEnd?
    (ending text : List Char) :
    Option (List Char) :=
  (Text.dropStart? ending.reverse text.reverse).map List.reverse

/-- The text before a place, such as ` at line 3 column 7`, that it ends with. -/
def cutPlace? (text : List Char) : Option (List Char) := do
  let text ← cutIndex? text
  let text ← dropEnd? " column ".toList text
  let text ← cutIndex? text
  dropEnd? " at line ".toList text

namespace Fault

/-- A field name as messages show it. -/
def quotedKey (key : String) : String :=
  "`" ++ key ++ "`"

/--
The reason as messages give it, if they give one.  A rejected value that ends
like a place in a text is shown without that ending.
-/
def reason? : Fault → Option String
  | unknownField key =>
    some ("unknown field " ++ quotedKey key ++ ", expected one of "
      ++ String.intercalate ", " (Field.all.map fun field => quotedKey field.key))
  | duplicateField field => some ("duplicate field " ++ quotedKey field.key)
  | rejected unknown =>
    let message := unknown.message.toList
    some (String.ofList ((cutPlace? message).getD message))
  | malformed => none

end Fault

end ViewAccessors.Options

namespace ViewAccessors

/-- Why a run cannot begin. -/
inductive ConfigurationError where
  | invalidPattern (invalid : Glob.InvalidPattern)
  | unknownValue (unknown : UnknownValue)
  | invalidOptions (fault : Options.Fault)
  deriving DecidableEq, Repr

namespace ConfigurationError

/-- The wording of the error, if it has a fixed one. -/
def message? : ConfigurationError → Option String
  | invalidPattern invalid => some invalid.message
  | unknownValue unknown => some unknown.message
  | invalidOptions fault => fault.reason?.map ("Invalid options: " ++ ·)

end ConfigurationError

end ViewAccessors
