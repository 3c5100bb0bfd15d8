import ViewAccessors.Markup.Position
import ViewAccessors.Text.Split

/-!
# Markup trees

A document is one element; an element has a name, attributes and children,
and a child is an element or a text.  Names may carry a qualifier, written
before a colon, which namespace declarations give a meaning; the tree keeps
names as they are written.
-/

namespace ViewAccessors.Markup

/-- The name of an element or of an attribute. -/
structure Name where
  /-- What stands before the first colon, if there is a colon. -/
  qualifier : Option String
  localName : String
  deriving DecidableEq, Repr

namespace Name

/-- Reads a written name, which is split at its first colon. -/
def ofText (text : String) : Name :=
  match Text.splitFirst ':' text.toList with
  | some (qualifier, localName) =>
    ⟨some (String.ofList qualifier), String.ofList localName⟩
  | none => ⟨none, text⟩

/-- The name as it is written. -/
def toText (name : Name) : String :=
  match name.qualifier with
  | some qualifier => qualifier ++ ":" ++ name.localName
  | none => name.localName

/-- Whether an attribute of this name declares a namespace. -/
def declaresNamespace (name : Name) : Bool :=
  match name.qualifier with
  | some qualifier => qualifier == "xmlns"
  | none => name.localName == "xmlns"

end Name

/-- An attribute, with the references in its value replaced by characters. -/
structure Attribute where
  name : Name
  value : String
  span : Span
  deriving DecidableEq, Repr

/-- An element apart from its children. -/
structure Tag where
  name : Name
  attributes : List Attribute
  /-- The stretch of text from the start tag to the end of the element. -/
  span : Span
  deriving DecidableEq, Repr

/-- A child of an element. -/
inductive Node where
  | text (content : String)
  | element (tag : Tag) (children : List Node)
  deriving Repr

/-- An element with its children in the order of the text. -/
structure Element extends Tag where
  children : List Node
  deriving Repr

namespace Tag

/-- The first attribute of the given name. -/
def attribute?
    (tag : Tag)
    (qualifier : Option String)
    (localName : String) :
    Option Attribute :=
  tag.attributes.find? fun entry => entry.name = ⟨qualifier, localName⟩

/--
The namespaces that the element declares, each under its qualifier.  The
namespace of names without a qualifier is declared under the empty one.
-/
def namespaceDeclarations (tag : Tag) : List (String × String) :=
  (tag.attributes.filter (·.name.declaresNamespace)).map fun entry =>
    (if entry.name.qualifier.isSome then entry.name.localName else "", entry.value)

/--
Whether the element sets a property of the element around it and makes no
object of its own.
-/
def isProperty (tag : Tag) : Bool :=
  tag.name.localName.toList.contains '.'

end Tag

namespace Node

/-- The node as an element, unless it is a text. -/
def element? : Node → Option Element
  | text _ => none
  | element tag children => some ⟨tag, children⟩

/-- The content of a text node, unless it is an element. -/
def text? : Node → Option String
  | text content => some content
  | element _ _ => none

end Node

namespace Element

/-- The element as a child of another one. -/
def toNode (element : Element) : Node :=
  .element element.toTag element.children

/-- The children that are elements. -/
def childElements (element : Element) : List Element :=
  element.children.filterMap Node.element?

/-- The texts directly inside the element, joined. -/
def text (element : Element) : String :=
  String.join (element.children.filterMap Node.text?)

end Element

end ViewAccessors.Markup
