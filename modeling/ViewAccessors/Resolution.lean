import ViewAccessors.Markup.Document
import ViewAccessors.Scope
import ViewAccessors.TypeRef.Arguments
import ViewAccessors.TypeRef.Basic

/-!
# The types of elements

The type of an element is found from its name through the namespace
declarations in scope and a namespace map.  Its type arguments come from the
`TypeArguments` directive, each from a name in the same way.
-/

namespace ViewAccessors

open Markup

/-- Why the names or the types of a document cannot be resolved. -/
inductive ResolutionError where
  /-- No declaration in scope gives the qualifier a meaning. -/
  | undeclaredQualifier (qualifier : String) (span : Span)
  /-- It is unknown where the types of the namespace live. -/
  | unmappedNamespace (uri element : String) (span : Span)
  /-- Two elements declare the same name. -/
  | duplicateName (name : String) (firstLine : Nat) (span : Span)
  /-- The value of a `TypeArguments` directive, or a part of it, is malformed. -/
  | invalidTypeArguments (value : String) (fault : TypeArguments.Fault) (span : Span)
  deriving DecidableEq, Repr

namespace ResolutionError

/-- The stretch of text that the error is about. -/
def span : ResolutionError → Span
  | undeclaredQualifier _ span
  | unmappedNamespace _ _ span
  | duplicateName _ _ span
  | invalidTypeArguments _ _ span => span

/-- The wording of the error. -/
def message : ResolutionError → String
  | undeclaredQualifier qualifier span =>
    "Undeclared namespace prefix '" ++ qualifier ++ s!"' at line {span.line}"
  | unmappedNamespace uri element span =>
    "XML namespace '" ++ uri ++ "' does not map to a CLR namespace (element <"
      ++ element ++ s!"> at line {span.line})"
  | duplicateName name firstLine span =>
    "Name '" ++ name ++ s!"' is declared twice (lines {firstLine} and {span.line})"
  | invalidTypeArguments value fault _ =>
    "Invalid x:TypeArguments '" ++ value ++ "': " ++ fault.describe

end ResolutionError

/-- What gives a written name its type: a namespace map and the declarations in scope. -/
structure Resolver where
  namespaces : NamespaceMap
  scope : Scope

namespace Resolver

/-- The type with the given name.  `span` is where the name is written. -/
def typeNamed
    (resolver : Resolver)
    (span : Span)
    (name : Name) :
    Except ResolutionError TypeRef :=
  let qualifier := name.qualifier.getD ""
  match resolver.scope.uri? qualifier with
  | none => .error (.undeclaredQualifier qualifier span)
  | some uri =>
    let found :=
      if uri = xamlNamespace then
        intrinsicType? name.localName
      else
        (resolver.namespaces.typeNamespace? uri name.localName).map fun namespaceName =>
          (namespaceName, name.localName)
    match found with
    | some (namespaceName, typeName) => .ok ⟨namespaceName, typeName, []⟩
    | none =>
      let written := if qualifier = "" then name.localName else name.toText
      .error (.unmappedNamespace uri written span)

/--
The type that one part of a list of type arguments names.  `nested` resolves
the text between the parentheses of the part.
-/
def typeArgument
    (resolver : Resolver)
    (span : Span)
    (value : List Char)
    (nested : List Char → Except ResolutionError (List TypeRef))
    (part : List Char) :
    Except ResolutionError TypeRef :=
  match TypeArguments.readPart part with
  | .error fault => .error (.invalidTypeArguments (String.ofList value) fault span)
  | .ok ⟨name, inner⟩ => do
    let type ← resolver.typeNamed span name
    match inner with
    | none => .ok type
    | some text => .ok { type with arguments := ← nested text }

/--
The types that a list of type arguments names.  `room` is the number of
levels of parentheses that may still follow, this level included.
-/
def typeArguments
    (resolver : Resolver)
    (span : Span) :
    (room : Nat) →
    (value : List Char) →
    Except ResolutionError (List TypeRef)
  | 0, value =>
    .error (.invalidTypeArguments (String.ofList value) .nestedTooDeep span)
  | room + 1, value =>
    match TypeArguments.parts? value with
    | none => .error (.invalidTypeArguments (String.ofList value) .unbalanced span)
    | some parts =>
      parts.mapM (resolver.typeArgument span value (resolver.typeArguments span room))

/-- Type arguments depend on the resolver only through the types of names. -/
theorem typeArguments_congr
    {resolver other : Resolver}
    (sameNames : resolver.typeNamed = other.typeNamed) :
    resolver.typeArguments = other.typeArguments := by
  funext span room
  induction room with
  | zero => rfl
  | succ room hypothesis =>
    have samePart : ∀ value,
        resolver.typeArgument span value (resolver.typeArguments span room) =
          other.typeArgument span value (other.typeArguments span room) := by
      intro value
      funext part
      rw [typeArgument, typeArgument, sameNames, hypothesis]
    funext value
    rw [typeArguments, typeArguments, samePart]

/-- The type of an element.  The scope includes the declarations of the element. -/
def elementType
    (resolver : Resolver)
    (tag : Tag) :
    Except ResolutionError TypeRef := do
  let type ← resolver.typeNamed tag.span tag.name
  match resolver.scope.directive? tag "TypeArguments" with
  | none => .ok type
  | some entry =>
    let arguments ←
      resolver.typeArguments entry.span maximumNesting entry.value.toList
    .ok { type with arguments }

end Resolver

end ViewAccessors
