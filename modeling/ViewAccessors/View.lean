import ViewAccessors.Resolution

/-!
# Views

A view is a document whose root element names, by the `Class` directive, the
class that stands behind it.
-/

namespace ViewAccessors

open Markup

/-- A document bound to a class. -/
structure View where
  /-- The name of the class, without its namespace. -/
  className : String
  /-- The namespace of the class, empty if it is in none. -/
  namespaceName : String
  rootType : TypeRef
  document : Element

namespace View

/--
The namespace and the name of the class that the text names.  A text without
a name after the last dot names no class.
-/
def className? (text : String) : Option (String × String) :=
  let fullName := Text.trim text.toList
  let (namespaceName, className) :=
    match Text.splitLast '.' fullName with
    | some (namespaceName, className) => (Text.trim namespaceName, Text.trim className)
    | none => ([], fullName)
  if className.isEmpty then
    none
  else
    some (String.ofList namespaceName, String.ofList className)

/-- The namespace and the name of the class that an element names by its `Class` directive. -/
def classOf? (root : Element) : Option (String × String) :=
  ((Scope.empty.enter root.toTag).directive? root.toTag "Class").bind fun entry =>
    className? entry.value

/--
The type of a root element.  A root whose type is unknown keeps its local
name for want of a better one.
-/
def typeOfRoot
    (namespaces : NamespaceMap)
    (root : Element) :
    TypeRef :=
  match Resolver.elementType ⟨namespaces, Scope.empty.enter root.toTag⟩ root.toTag with
  | .ok type => type
  | .error _ => ⟨"", root.name.localName, []⟩

/-- The view that a document is, if its root names a class. -/
def ofDocument?
    (namespaces : NamespaceMap)
    (root : Element) :
    Option View :=
  (classOf? root).map fun (namespaceName, className) =>
    ⟨className, namespaceName, typeOfRoot namespaces root, root⟩

/-- The view that a text is, if it is a document whose root names a class. -/
def ofText?
    (namespaces : NamespaceMap)
    (text : String) :
    Except MarkupError (Option View) :=
  (parse text).map (ofDocument? namespaces)

end View

end ViewAccessors
