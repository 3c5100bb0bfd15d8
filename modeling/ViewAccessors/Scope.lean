import ViewAccessors.Markup.Tree
import ViewAccessors.NamespaceMap.WellKnown

/-!
# Namespace declarations in scope

A declaration holds for the element that carries it and for everything inside
that element, unless an element further inside declares the same qualifier
again.  A scope holds the declarations of the elements around a place, the
innermost first.
-/

namespace ViewAccessors

open Markup

/-- The namespace declarations of the elements around a place. -/
structure Scope where
  /-- The declarations of each element in the order of the text, the innermost element first. -/
  frames : List (List (String × String))
  deriving DecidableEq, Repr

namespace Scope

/-- The scope outside every element. -/
def empty : Scope :=
  ⟨[]⟩

/-- The scope inside an element. -/
def enter
    (scope : Scope)
    (tag : Tag) :
    Scope :=
  ⟨tag.namespaceDeclarations :: scope.frames⟩

/-- The scope around the innermost element. -/
def leave (scope : Scope) : Scope :=
  ⟨scope.frames.tail⟩

/--
The URI for which a qualifier stands.  The innermost declaration counts, and
the last one of an element.  The empty qualifier stands for the default
namespace, and `xml` cannot be declared.
-/
def uri?
    (scope : Scope)
    (qualifier : String) :
    Option String :=
  if qualifier = "xml" then
    some xmlNamespace
  else
    scope.frames.findSome? fun frame => frame.reverse.lookup qualifier

/-- Whether a name is qualified as a directive of the markup language. -/
def isDirective
    (scope : Scope)
    (name : Name) :
    Bool :=
  name.qualifier.any fun qualifier => scope.uri? qualifier = some xamlNamespace

/-- The first directive of the given local name on an element. -/
def directive?
    (scope : Scope)
    (tag : Tag)
    (localName : String) :
    Option Attribute :=
  tag.attributes.find? fun entry =>
    entry.name.localName == localName && scope.isDirective entry.name

end Scope

end ViewAccessors
