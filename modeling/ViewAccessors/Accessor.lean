import ViewAccessors.Resolution
import ViewAccessors.Setting.Visibility
import ViewAccessors.View

/-!
# Named elements and their accessors

Every object element that declares a name gets an accessor.  A walk through
the document enters and leaves its elements in the order of the text and keeps
the namespace declarations in scope; the first element whose name is already
taken or whose type is unknown is an error.
-/

namespace ViewAccessors

open Markup

/-- The member that gives access to a named element. -/
structure Accessor where
  /-- The type of the element as it is written in the generated source. -/
  typeName : String
  /-- The declared name, which is the name of the member and the key for the look-up. -/
  name : String
  visibility : Visibility
  deriving DecidableEq, Repr

/-- An object element with its declared name and the declarations in scope. -/
structure NamedElement where
  tag : Tag
  scope : Scope
  name : String

namespace NamedElement

/--
The name that the value of an attribute declares.  A blank value declares
nothing, and neither does a value that begins with a brace, because it is an
expression.
-/
def nameOfValue? (value : String) : Option String :=
  match Text.trim value.toList with
  | [] => none
  | '\x7b' :: _ => none
  | name => some (String.ofList name)

/--
The name that an element declares: by the `Name` directive, or by the
attribute `Name` if there is no such directive.
-/
def declaredName?
    (tag : Tag)
    (scope : Scope) :
    Option String :=
  ((scope.directive? tag "Name").or (tag.attribute? none "Name")).bind fun entry =>
    nameOfValue? entry.value

/-- The element as a named one, if it makes an object and declares a name. -/
def ofTag?
    (tag : Tag)
    (scope : Scope) :
    Option NamedElement :=
  if tag.isProperty then
    none
  else
    (declaredName? tag scope).map fun name => ⟨tag, scope, name⟩

/-- The visibility that an element asks for, `standard` if it asks for none. -/
def visibility
    (element : NamedElement)
    (standard : Visibility) :
    Visibility :=
  ((element.scope.directive? element.tag "FieldModifier").bind fun entry =>
    Visibility.ofText? entry.value).getD standard

end NamedElement

/-- What accessors are made for: a namespace map, a language and a visibility. -/
structure AccessorSettings where
  namespaces : NamespaceMap
  language : Language
  /-- The visibility of the accessors whose elements ask for none. -/
  visibility : Visibility

namespace AccessorSettings

/-- The accessor for one named element. -/
def accessor
    (settings : AccessorSettings)
    (element : NamedElement) :
    Except ResolutionError Accessor := do
  let type ← Resolver.elementType ⟨settings.namespaces, element.scope⟩ element.tag
  .ok {
    typeName := type.qualified settings.language
    name := element.name
    visibility := element.visibility settings.visibility }

/--
Takes up a named element.  `found` are the accessors for the elements before
it under their names, each with the line of the element.
-/
def record
    (settings : AccessorSettings)
    (found : OrderedMap (Accessor × Nat))
    (element : NamedElement) :
    Except ResolutionError (OrderedMap (Accessor × Nat)) :=
  match found.get? element.name with
  | some (_, firstLine) =>
    .error (.duplicateName element.name firstLine element.tag.span)
  | none =>
    (settings.accessor element).map fun accessor =>
      found.insert element.name (accessor, element.tag.span.line)

end AccessorSettings

/-- How far the walk through a document has come. -/
structure Walk where
  /-- The namespace declarations of the elements that have been entered and not left. -/
  scope : Scope
  /-- The accessors found so far under their names, each with the line of its element. -/
  found : OrderedMap (Accessor × Nat)

namespace Walk

/-- The walk before the root of a document. -/
def start : Walk :=
  ⟨.empty, .empty⟩

/-- Goes into an element and takes it up, if it is a named one. -/
def enter
    (settings : AccessorSettings)
    (walk : Walk)
    (tag : Tag) :
    Except ResolutionError Walk :=
  let scope := walk.scope.enter tag
  match NamedElement.ofTag? tag scope with
  | none => .ok ⟨scope, walk.found⟩
  | some element => (settings.record walk.found element).map fun found => ⟨scope, found⟩

/-- Goes back out of the innermost element. -/
def leave (walk : Walk) : Walk :=
  { walk with scope := walk.scope.leave }

mutual

/-- Walks through a node, which is entered, walked through and left if it is an element. -/
def visit
    (settings : AccessorSettings)
    (walk : Walk) :
    Node → Except ResolutionError Walk
  | .text _ => .ok walk
  | .element tag children => do
    let entered ← walk.enter settings tag
    let visited ← entered.visitAll settings children
    .ok visited.leave

/-- Walks through nodes from the first to the last. -/
def visitAll
    (settings : AccessorSettings)
    (walk : Walk) :
    List Node → Except ResolutionError Walk
  | [] => .ok walk
  | node :: others => do
    let visited ← walk.visit settings node
    visited.visitAll settings others

end

/-- The accessors in the order in which they were found. -/
def accessors (walk : Walk) : List Accessor :=
  walk.found.entries.map fun (_, accessor, _) => accessor

end Walk

/-- The accessors for the named elements of a document. -/
def AccessorSettings.accessors
    (settings : AccessorSettings)
    (root : Element) :
    Except ResolutionError (List Accessor) :=
  (Walk.start.visit settings root.toNode).map Walk.accessors

/-- Why a document has no view or no accessors. -/
inductive DocumentError where
  | markup (error : MarkupError)
  | resolution (error : ResolutionError)
  deriving DecidableEq, Repr

/-- The view that a text is and its accessors, for the well-known namespaces. -/
def resolve
    (text : String)
    (language : Language) :
    Except DocumentError (Option (View × List Accessor)) := do
  match ← (View.ofText? .wellKnown text).mapError .markup with
  | none => .ok none
  | some view =>
    let settings : AccessorSettings := ⟨.wellKnown, language, default⟩
    let accessors ← (settings.accessors view.document).mapError .resolution
    .ok (some (view, accessors))

end ViewAccessors
