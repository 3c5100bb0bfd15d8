import ViewAccessors.Accessor

/-!
# The members of generated classes

How one accessor is written: as a property that looks the element up, or as
the declaration of a field and its assignment.
-/

namespace ViewAccessors.Accessor

/-- The keyword for the visibility of the accessor. -/
def keyword
    (accessor : Accessor)
    (language : Language) :
    String :=
  accessor.visibility.keyword language

/-- The property that looks the element up on every access. -/
def property
    (accessor : Accessor) :
    Language → String
  | .csharp =>
    "    " ++ accessor.keyword .csharp ++ " " ++ accessor.typeName ++ " " ++ accessor.name
      ++ " => this.FindNameScope()?.Find<" ++ accessor.typeName ++ ">(\""
      ++ accessor.name ++ "\");"
  | .visualBasic =>
    "    " ++ accessor.keyword .visualBasic ++ " ReadOnly Property " ++ accessor.name
      ++ " As " ++ accessor.typeName ++ "\n"
      ++ "        Get\n"
      ++ "            Return Me.FindNameScope()?.Find(Of " ++ accessor.typeName ++ ")(\""
      ++ accessor.name ++ "\")\n"
      ++ "        End Get\n"
      ++ "    End Property"

/-- The line that declares the field. -/
def fieldDeclaration
    (accessor : Accessor) :
    Language → String
  | .csharp =>
    "    " ++ accessor.keyword .csharp ++ " " ++ accessor.typeName ++ " " ++ accessor.name
      ++ ";\n"
  | .visualBasic =>
    "    " ++ accessor.keyword .visualBasic ++ " " ++ accessor.name ++ " As "
      ++ accessor.typeName ++ "\n"

/-- The statement that assigns the field, without a line end. -/
def assignment
    (accessor : Accessor) :
    Language → String
  | .csharp =>
    "        " ++ accessor.name ++ " = __thisNameScope__?.Find<" ++ accessor.typeName
      ++ ">(\"" ++ accessor.name ++ "\");"
  | .visualBasic =>
    "        " ++ accessor.name ++ " = thisNameScope?.Find(Of " ++ accessor.typeName
      ++ ")(\"" ++ accessor.name ++ "\")"

/-- All properties, with line feeds between them. -/
def properties
    (language : Language)
    (accessors : List Accessor) :
    String :=
  String.intercalate "\n" (accessors.map (·.property language))

/-- All field declarations and an empty line, or nothing if there are none. -/
def fieldDeclarations
    (language : Language)
    (accessors : List Accessor) :
    String :=
  if accessors.isEmpty then
    ""
  else
    String.join (accessors.map (·.fieldDeclaration language)) ++ "\n"

/-- The statement that gives the assignments the scope in which they look names up. -/
def scopeStatement : Language → String
  | .csharp => "        var __thisNameScope__ = this.FindNameScope();"
  | .visualBasic => "        Dim thisNameScope = Me.FindNameScope()"

/-- An empty line and the statements that assign the fields, or nothing if there are none. -/
def assignments
    (language : Language)
    (accessors : List Accessor) :
    String :=
  if accessors.isEmpty then
    ""
  else
    "\n\n" ++ String.intercalate "\n"
      (scopeStatement language :: accessors.map (·.assignment language))

end ViewAccessors.Accessor
