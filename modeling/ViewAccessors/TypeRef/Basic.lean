import ViewAccessors.Setting.Language

/-!
# References to types

A reference names a type by its namespace and its name and gives the type
arguments of a generic type.  `qualified` writes a reference in a language so
that it means the same type wherever it stands.
-/

namespace ViewAccessors

/-- A reference to a type, which may be generic. -/
structure TypeRef where
  /-- The namespace of the type, empty if it is in none. -/
  namespaceName : String
  name : String
  arguments : List TypeRef
  deriving Repr, Inhabited

namespace TypeRef

/-- A name after its namespace, if there is one. -/
def dotted (namespaceName name : String) : String :=
  if namespaceName = "" then name else namespaceName ++ "." ++ name

/-- The name of the type after its namespace, without type arguments. -/
def fullName (type : TypeRef) : String :=
  dotted type.namespaceName type.name

/-- A name after its namespace, marked as beginning at the outermost namespace. -/
def qualifiedName
    (language : Language)
    (namespaceName name : String) :
    String :=
  (if namespaceName = "" then "" else language.globalMark) ++ dotted namespaceName name

mutual

/-- The reference as it is written in a language. -/
def qualified
    (language : Language) :
    TypeRef → String
  | ⟨namespaceName, name, []⟩ => qualifiedName language namespaceName name
  | ⟨namespaceName, name, first :: others⟩ =>
    qualifiedName language namespaceName name ++ language.argumentsOpening
      ++ qualified language first ++ qualifiedRest language others
      ++ language.argumentsClosing

/-- Further type arguments as they are written, each after a comma. -/
def qualifiedRest
    (language : Language) :
    List TypeRef → String
  | [] => ""
  | first :: others => ", " ++ qualified language first ++ qualifiedRest language others

end

/-- The reference as it is shown to a reader. -/
def toText (type : TypeRef) : String :=
  type.qualified .csharp

end TypeRef

end ViewAccessors
