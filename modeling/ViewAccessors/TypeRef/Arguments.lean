import ViewAccessors.Markup.Tree

/-!
# Written type arguments

Type arguments are written as a list of names separated by commas, where a
name may be followed by type arguments of its own in parentheses.  This file
cuts such a text into its parts; it gives the names no meaning.
-/

namespace ViewAccessors.TypeArguments

/-- Why a text is not a list of type arguments. -/
inductive Fault where
  | nestedTooDeep
  | unbalanced
  | emptyArgument
  | textAfterArguments
  | missingName
  deriving DecidableEq, Repr

namespace Fault

/-- The fault as messages name it. -/
def describe : Fault → String
  | nestedTooDeep => "type arguments nested too deeply"
  | unbalanced => "unbalanced parentheses"
  | emptyArgument => "empty type argument"
  | textAfterArguments => "text after closing parenthesis"
  | missingName => "missing type name"

end Fault

/--
Cuts a text at the commas outside parentheses, `depth` parentheses being open
before it: the first part and the others.  A text whose parentheses do not
pair up has no parts.
-/
def cut :
    (depth : Nat) →
    List Char →
    Option (List Char × List (List Char))
  | 0, [] => some ([], [])
  | _ + 1, [] => none
  | depth, '(' :: rest =>
    (cut (depth + 1) rest).map fun (first, others) => ('(' :: first, others)
  | 0, ')' :: _ => none
  | depth + 1, ')' :: rest =>
    (cut depth rest).map fun (first, others) => (')' :: first, others)
  | 0, ',' :: rest =>
    (cut 0 rest).map fun (first, others) => ([], first :: others)
  | depth, character :: rest =>
    (cut depth rest).map fun (first, others) => (character :: first, others)

/-- The parts of a text between the commas outside parentheses. -/
def parts? (text : List Char) : Option (List (List Char)) :=
  (cut 0 text).map fun (first, others) => first :: others

/-- One written type argument. -/
structure Part where
  name : Markup.Name
  /-- The text between the parentheses after the name, if there are any. -/
  nested : Option (List Char)
  deriving DecidableEq, Repr

/-- Reads the name of a type, which may have blanks around it. -/
def readName (text : List Char) : Except Fault Markup.Name :=
  let name := Markup.Name.ofText (String.ofList (Text.trim text))
  if name.localName = "" then .error .missingName else .ok name

/-- Reads one part, which may have blanks around it. -/
def readPart (text : List Char) : Except Fault Part :=
  let part := Text.trim text
  if part.isEmpty then
    .error .emptyArgument
  else
    match Text.splitFirst '(' part with
    | none => (readName part).map fun name => ⟨name, none⟩
    | some (head, afterOpening) =>
      if afterOpening.getLast? = some ')' then
        (readName head).map fun name => ⟨name, some afterOpening.dropLast⟩
      else
        .error .textAfterArguments

end ViewAccessors.TypeArguments
