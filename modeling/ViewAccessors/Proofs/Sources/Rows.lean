import ViewAccessors.Proofs.Sources.Templates
import ViewAccessors.Proofs.Trimming

/-!
# Generated sources, row by row

A source is laid out in rows, each with a line feed behind it.  The values
that a row holds stand in it as they are, even if they look like slots of a
template or hold line feeds of their own.  A head with the imports precedes the
rows of the class, and a class outside every namespace is all there is below
the head.
-/

namespace ViewAccessors

open Text

/-! ## Rows -/

namespace Text

/-- Rows with a line feed behind each of them. -/
def ofRows (rows : List String) : String :=
  String.join (rows.map (· ++ "\n"))

@[simp]
theorem ofRows_nil : ofRows [] = "" :=
  rfl

@[simp]
theorem ofRows_cons (row : String) (rows : List String) :
    ofRows (row :: rows) = row ++ ("\n" ++ ofRows rows) := by
  simp [ofRows, String.append_assoc]

@[simp]
theorem ofRows_append (first second : List String) :
    ofRows (first ++ second) = ofRows first ++ ofRows second := by
  simp [ofRows]

theorem ofRows_flatMap
    {Member : Type}
    (members : List Member)
    (rowsOf : Member → List String) :
    ofRows (members.flatMap rowsOf) =
      String.join (members.map fun member => ofRows (rowsOf member)) := by
  induction members with
  | nil => rfl
  | cons member members hypothesis => simp [hypothesis]

/-- Texts between line feeds, with a last line feed behind them. -/
theorem intercalate_append_lineFeed
    {texts : List String}
    (nonempty : texts ≠ []) :
    "\n".intercalate texts ++ "\n" = ofRows texts := by
  induction texts with
  | nil => exact absurd rfl nonempty
  | cons text texts hypothesis =>
      cases texts with
      | nil => simp
      | cons second texts =>
          rw [String.intercalate_cons_cons, String.append_assoc, String.append_assoc,
            hypothesis (List.cons_ne_nil _ _), ofRows_cons text]

/-- Rows end with a line feed. -/
theorem exists_eq_append_lineFeed
    {rows : List String}
    (nonempty : rows ≠ []) :
    ∃ before, ofRows rows = before ++ "\n" :=
  ⟨_, (intercalate_append_lineFeed nonempty).symm⟩

end Text

/-! ## The rows of members -/

namespace Accessor

/-- The rows of the property. -/
def propertyRows
    (accessor : Accessor) :
    Language → List String
  | .csharp => [
    "    " ++ accessor.keyword .csharp ++ " " ++ accessor.typeName ++ " " ++ accessor.name
      ++ " => this.FindNameScope()?.Find<" ++ accessor.typeName ++ ">(\""
      ++ accessor.name ++ "\");"]
  | .visualBasic => [
    "    " ++ accessor.keyword .visualBasic ++ " ReadOnly Property " ++ accessor.name
      ++ " As " ++ accessor.typeName,
    "        Get",
    "            Return Me.FindNameScope()?.Find(Of " ++ accessor.typeName ++ ")(\""
      ++ accessor.name ++ "\")",
    "        End Get",
    "    End Property"]

/-- The row that declares the field. -/
def fieldRow
    (accessor : Accessor) :
    Language → String
  | .csharp =>
    "    " ++ accessor.keyword .csharp ++ " " ++ accessor.typeName ++ " " ++ accessor.name ++ ";"
  | .visualBasic =>
    "    " ++ accessor.keyword .visualBasic ++ " " ++ accessor.name ++ " As " ++ accessor.typeName

/-- The row that assigns the field. -/
def assignmentRow
    (accessor : Accessor) :
    Language → String
  | .csharp =>
    "        " ++ accessor.name ++ " = __thisNameScope__?.Find<" ++ accessor.typeName
      ++ ">(\"" ++ accessor.name ++ "\");"
  | .visualBasic =>
    "        " ++ accessor.name ++ " = thisNameScope?.Find(Of " ++ accessor.typeName
      ++ ")(\"" ++ accessor.name ++ "\")"

-- The equations of definitions with long texts take long to make, hence `delta`.

theorem property_append_lineFeed
    (accessor : Accessor)
    (language : Language) :
    accessor.property language ++ "\n" = ofRows (accessor.propertyRows language) := by
  have get : "        Get\n" = "        Get" ++ "\n" := rfl
  have behindKey : "\")\n" = "\")" ++ "\n" := rfl
  have endGet : "        End Get\n" = "        End Get" ++ "\n" := rfl
  delta property propertyRows
  cases language with
  | csharp => simp only [ofRows_cons, ofRows_nil, String.append_empty]
  | visualBasic =>
      simp only [ofRows_cons, ofRows_nil, String.append_empty, get, behindKey, endGet,
        String.append_assoc]

theorem fieldDeclaration_eq_fieldRow
    (accessor : Accessor)
    (language : Language) :
    accessor.fieldDeclaration language = accessor.fieldRow language ++ "\n" := by
  have semicolon : ";\n" = ";" ++ "\n" := rfl
  delta fieldDeclaration fieldRow
  cases language with
  | csharp => simp only [semicolon, String.append_assoc]
  | visualBasic => rfl

theorem assignment_eq_assignmentRow
    (accessor : Accessor)
    (language : Language) :
    accessor.assignment language = accessor.assignmentRow language := by
  cases language <;> rfl

/-! ## The rows of all members -/

/-- The rows of all properties, or an empty row if there are none. -/
def propertiesRows
    (language : Language)
    (accessors : List Accessor) :
    List String :=
  if accessors.isEmpty then [""] else accessors.flatMap (·.propertyRows language)

/-- The rows that declare the fields and an empty row, or none if there are no fields. -/
def fieldsRows
    (language : Language)
    (accessors : List Accessor) :
    List String :=
  if accessors.isEmpty then [] else accessors.map (·.fieldRow language) ++ [""]

/-- An empty row and the rows that assign the fields, or none if there are no fields. -/
def assignmentsRows
    (language : Language)
    (accessors : List Accessor) :
    List String :=
  if accessors.isEmpty then
    []
  else
    "" :: scopeStatement language :: accessors.map (·.assignmentRow language)

variable
    (language : Language)
    (accessors : List Accessor)

theorem properties_append_lineFeed :
    properties language accessors ++ "\n" = ofRows (propertiesRows language accessors) := by
  rw [properties, propertiesRows]
  by_cases none : accessors.isEmpty = true
  · rw [if_pos none, List.isEmpty_iff.mp none]
    rfl
  · have some : accessors.map (·.property language) ≠ [] := by
      simpa using none
    rw [if_neg none, intercalate_append_lineFeed some, ofRows_flatMap, ofRows, List.map_map]
    simp only [Function.comp_def, property_append_lineFeed]

theorem fieldDeclarations_eq_ofRows :
    fieldDeclarations language accessors = ofRows (fieldsRows language accessors) := by
  rw [fieldDeclarations, fieldsRows]
  by_cases none : accessors.isEmpty = true
  · rw [if_pos none, if_pos none, ofRows_nil]
  · rw [if_neg none, if_neg none, ofRows_append, ofRows, List.map_map]
    simp only [Function.comp_def, fieldDeclaration_eq_fieldRow, ofRows_cons, ofRows_nil,
      String.empty_append, String.append_empty]

/-- The assignments begin on a row of their own. -/
theorem assignments_append_lineFeed :
    assignments language accessors ++ "\n" =
      "\n" ++ ofRows (assignmentsRows language accessors) := by
  have twice : "\n\n" = "\n" ++ "\n" := rfl
  rw [assignments, assignmentsRows]
  by_cases none : accessors.isEmpty = true
  · rw [if_pos none, if_pos none]
    rfl
  · rw [if_neg none, if_neg none, twice, String.append_assoc, String.append_assoc,
      intercalate_append_lineFeed (List.cons_ne_nil _ _), ofRows_cons "", String.empty_append]
    simp only [assignment_eq_assignmentRow]

end Accessor

/-! ## The rows of classes and files -/

namespace Layout

/-- The row that begins a class. -/
def declarationRow (className : String) : Language → String
  | .csharp => "partial class " ++ className
  | .visualBasic => "Partial Class " ++ className

/-- What stands between the first row of a class and its members. -/
def openingRows : Language → List String
  | .csharp => ["\x7b"]
  | .visualBasic => []

/-- The row that ends a class. -/
def closingRow : Language → String
  | .csharp => "\x7d"
  | .visualBasic => "End Class"

/-- The rows of the method that assigns the fields, up to the assignments. -/
def method : Language → String
  | .csharp => Written.csharpMethod
  | .visualBasic => Written.visualBasicMethod

/-- The row that ends the method. -/
def methodEnd : Language → String
  | .csharp => "    \x7d"
  | .visualBasic => "    End Sub"

/-- What begins a comment. -/
def commentMark : Language → String
  | .csharp => "//"
  | .visualBasic => "'"

/-- The row that imports a namespace. -/
def importRow (namespaceName : String) : Language → String
  | .csharp => "using " ++ namespaceName ++ ";"
  | .visualBasic => "Imports " ++ namespaceName

/-- The rows that begin a namespace. -/
def namespaceRows (namespaceName : String) : Language → List String
  | .csharp => ["namespace " ++ namespaceName, "\x7b"]
  | .visualBasic => ["Namespace " ++ namespaceName]

/-- The row that ends a namespace. -/
def namespaceEnd : Language → String
  | .csharp => "\x7d"
  | .visualBasic => "End Namespace"

theorem exists_visible_closingRow (language : Language) :
    ∃ character ∈ (closingRow language).toList, isBlank character = false := by
  cases language with
  | csharp => exact ⟨'\x7d', by decide, by decide⟩
  | visualBasic => exact ⟨'E', by decide, by decide⟩

theorem namespaceRows_ne_nil
    (namespaceName : String)
    (language : Language) :
    namespaceRows namespaceName language ≠ [] := by
  cases language <;> exact List.cons_ne_nil _ _

theorem importLine_eq_importRow
    (language : Language)
    (namespaceName : String) :
    importLine language namespaceName = importRow namespaceName language ++ "\n" := by
  have semicolon : ";\n" = ";" ++ "\n" := rfl
  cases language with
  | csharp => simp only [importLine, importRow, semicolon, String.append_assoc]
  | visualBasic => rfl

/-- The rows of a class up to its members. -/
def beginningRows (className : String) (language : Language) : List String :=
  declarationRow className language :: openingRows language

/-- A class is written with the text of its properties between its other rows. -/
theorem render_properties
    (language : Language)
    (className members : String) :
    (classBody language .properties).render
        [("class_name", className), ("members", members)] =
      .ok (ofRows (beginningRows className language) ++ (members ++ "\n")
        ++ ofRows [closingRow language]) := by
  have braceOpens : "\n\x7b\n" = "\n" ++ ("\x7b" ++ "\n") := rfl
  have braceCloses : "\n\x7d\n" = "\n" ++ ("\x7d" ++ "\n") := rfl
  have endClass : "\nEnd Class\n" = "\n" ++ ("End Class" ++ "\n") := rfl
  delta beginningRows declarationRow openingRows closingRow
  cases language with
  | csharp =>
      have rendered : csharpProperties.render [("class_name", className), ("members", members)] =
          .ok ("partial class " ++ className ++ "\n\x7b\n" ++ members ++ "\n\x7d\n") := rfl
      refine rendered.trans (congrArg Except.ok ?_)
      simp only [braceOpens, braceCloses, ofRows_cons, ofRows_nil, String.append_empty,
        String.append_assoc]
  | visualBasic =>
      have rendered : visualBasicProperties.render
          [("class_name", className), ("members", members)] =
          .ok ("Partial Class " ++ className ++ "\n" ++ members ++ "\nEnd Class\n") := rfl
      refine rendered.trans (congrArg Except.ok ?_)
      simp only [endClass, ofRows_cons, ofRows_nil, String.append_empty, String.append_assoc]

/-- A class is written with the texts of its fields and assignments around the method. -/
theorem render_fields
    (language : Language)
    (className fields assignments : String) :
    (classBody language .fields).render
        [("class_name", className), ("fields", fields), ("assignments", assignments)] =
      .ok (ofRows (beginningRows className language)
        ++ (fields ++ method language ++ (assignments ++ "\n"))
        ++ ofRows [methodEnd language, closingRow language]) := by
  have braceOpens : "\n\x7b\n" = "\n" ++ ("\x7b" ++ "\n") := rfl
  have bracesClose : "\n    \x7d\n\x7d\n" =
      "\n" ++ ("    \x7d" ++ ("\n" ++ ("\x7d" ++ "\n"))) := rfl
  have endClass : "\n    End Sub\nEnd Class\n" =
      "\n" ++ ("    End Sub" ++ ("\n" ++ ("End Class" ++ "\n"))) := rfl
  delta beginningRows declarationRow openingRows method methodEnd closingRow
  cases language with
  | csharp =>
      have rendered : csharpFields.render
          [("class_name", className), ("fields", fields), ("assignments", assignments)] =
          .ok ("partial class " ++ className ++ "\n\x7b\n" ++ fields ++ Written.csharpMethod
            ++ assignments ++ "\n    \x7d\n\x7d\n") := rfl
      refine rendered.trans (congrArg Except.ok ?_)
      simp only [braceOpens, bracesClose, ofRows_cons, ofRows_nil, String.append_empty,
        String.append_assoc]
  | visualBasic =>
      have rendered : visualBasicFields.render
          [("class_name", className), ("fields", fields), ("assignments", assignments)] =
          .ok ("Partial Class " ++ className ++ "\n" ++ fields ++ Written.visualBasicMethod
            ++ assignments ++ "\n    End Sub\nEnd Class\n") := rfl
      refine rendered.trans (congrArg Except.ok ?_)
      simp only [endClass, ofRows_cons, ofRows_nil, String.append_empty, String.append_assoc]

/-- The rows at the top of a file. -/
def topRows (rootType : String) (language : Language) : List String :=
  [commentMark language ++ " <auto-generated />", commentMark language ++ " Root: " ++ rootType,
    ""]

/-- The text at the top of a file, up to the type of the root. -/
def top : Language → String
  | .csharp => "// <auto-generated />\n// Root: "
  | .visualBasic => "' <auto-generated />\n' Root: "

theorem top_append (language : Language) (rootType : String) :
    top language ++ (rootType ++ "\n\n") = ofRows (topRows rootType language) := by
  have csharpTop : "// <auto-generated />\n// Root: " =
      "//" ++ (" <auto-generated />" ++ ("\n" ++ ("//" ++ " Root: "))) := rfl
  have visualBasicTop : "' <auto-generated />\n' Root: " =
      "'" ++ (" <auto-generated />" ++ ("\n" ++ ("'" ++ " Root: "))) := rfl
  have twice : "\n\n" = "\n" ++ "\n" := rfl
  delta topRows commentMark top
  cases language <;>
    simp only [csharpTop, visualBasicTop, twice, ofRows_cons, ofRows_nil, String.empty_append,
      String.append_empty, String.append_assoc]

/-- A file is written with the text of a class outside every namespace below the imports. -/
theorem render_file_global
    (language : Language)
    (rootType imports namespaceName body : String) :
    (file language true).render
        [("root_type", rootType), ("imports", imports), ("namespace", namespaceName),
          ("body", body)] =
      .ok (ofRows (topRows rootType language) ++ (imports ++ "\n") ++ (body ++ "\n")) := by
  have rendered : (file language true).render
      [("root_type", rootType), ("imports", imports), ("namespace", namespaceName),
        ("body", body)] =
      .ok (top language ++ rootType ++ "\n\n" ++ imports ++ "\n" ++ body ++ "\n") := by
    cases language <;> rfl
  rw [rendered, ← top_append]
  simp only [String.append_assoc]

/-- A file is written with the indented text of a class between the rows of its namespace. -/
theorem render_file_namespaced
    (language : Language)
    (rootType imports namespaceName body : String) :
    (file language false).render
        [("root_type", rootType), ("imports", imports), ("namespace", namespaceName),
          ("body", body)] =
      .ok (ofRows (topRows rootType language) ++ (imports ++ "\n")
        ++ ofRows (namespaceRows namespaceName language)
        ++ (String.ofList (indent 4 body.toList) ++ "\n")
        ++ ofRows [namespaceEnd language]) := by
  have namespaceBegins : "\nnamespace " = "\n" ++ "namespace " := rfl
  have braceOpens : "\n\x7b\n" = "\n" ++ ("\x7b" ++ "\n") := rfl
  have braceCloses : "\n\x7d\n" = "\n" ++ ("\x7d" ++ "\n") := rfl
  have visualBasicBegins : "\nNamespace " = "\n" ++ "Namespace " := rfl
  have visualBasicEnds : "\nEnd Namespace\n" = "\n" ++ ("End Namespace" ++ "\n") := rfl
  rw [← top_append]
  delta namespaceRows namespaceEnd
  cases language with
  | csharp =>
      have rendered : (file .csharp false).render
          [("root_type", rootType), ("imports", imports), ("namespace", namespaceName),
            ("body", body)] =
          .ok (top .csharp ++ rootType ++ "\n\n" ++ imports ++ "\nnamespace " ++ namespaceName
            ++ "\n\x7b\n" ++ String.ofList (indent 4 body.toList) ++ "\n\x7d\n") := rfl
      refine rendered.trans (congrArg Except.ok ?_)
      simp only [namespaceBegins, braceOpens, braceCloses, ofRows_cons, ofRows_nil,
        String.append_empty, String.append_assoc]
  | visualBasic =>
      have rendered : (file .visualBasic false).render
          [("root_type", rootType), ("imports", imports), ("namespace", namespaceName),
            ("body", body)] =
          .ok (top .visualBasic ++ rootType ++ "\n\n" ++ imports ++ "\nNamespace "
            ++ namespaceName ++ "\n" ++ String.ofList (indent 4 body.toList)
            ++ "\nEnd Namespace\n") := rfl
      refine rendered.trans (congrArg Except.ok ?_)
      simp only [visualBasicBegins, visualBasicEnds, ofRows_cons, ofRows_nil,
        String.append_empty, String.append_assoc]

end Layout

namespace SourceSettings

open Layout

variable
    (settings : SourceSettings)
    (className : String)
    (rootType : TypeRef)
    (accessors : List Accessor)

/-- The rows of the members of a class. -/
def memberRows : List String :=
  match settings.style with
  | .properties => Accessor.propertiesRows settings.language accessors
  | .fields =>
    Accessor.fieldsRows settings.language accessors ++ [method settings.language]
      ++ Accessor.assignmentsRows settings.language accessors ++ [methodEnd settings.language]

/-- The rows of a class. -/
def classRows : List String :=
  beginningRows className settings.language ++ settings.memberRows accessors
    ++ [closingRow settings.language]

/-- The rows above a class: two comments and the imports, each followed by an empty row. -/
def headRows : List String :=
  topRows (rootType.qualified settings.language) settings.language
    ++ (requiredImports settings.style ++ settings.additionalNamespaces).map
      (importRow · settings.language)
    ++ [""]

theorem imports_eq_ofRows :
    settings.imports =
      ofRows ((requiredImports settings.style ++ settings.additionalNamespaces).map
        (importRow · settings.language)) := by
  rw [imports, funext (importLine_eq_importRow settings.language), ofRows, List.map_map]
  rfl

theorem render_classBody_eq_ofRows :
    (classBody settings.language settings.style).render
        (settings.classFields className accessors) =
      .ok (ofRows (settings.classRows className accessors)) := by
  rcases settings with ⟨language, style, namespaces⟩
  cases style with
  | properties =>
      refine (render_properties language className _).trans (congrArg Except.ok ?_)
      rw [Accessor.properties_append_lineFeed, ← ofRows_append, ← ofRows_append]
      rfl
  | fields =>
      refine (render_fields language className _ _).trans (congrArg Except.ok ?_)
      rw [Accessor.fieldDeclarations_eq_ofRows, Accessor.assignments_append_lineFeed]
      simp only [classRows, memberRows, ofRows_append, ofRows_cons, ofRows_nil,
        String.append_empty, String.append_assoc]

/-- The text of a class, without a line feed at its end. -/
def classText : String :=
  ofRows (beginningRows className settings.language ++ settings.memberRows accessors)
    ++ closingRow settings.language

theorem classText_append_lineFeed :
    settings.classText className accessors ++ "\n" =
      ofRows (settings.classRows className accessors) := by
  rw [classText, classRows, ofRows_append _ [closingRow settings.language], ofRows_cons,
    ofRows_nil, String.append_empty, String.append_assoc]

/-- Only the line feed at the end is cut off. -/
theorem trimEnd_ofRows_classRows :
    String.ofList (trimEnd (ofRows (settings.classRows className accessors)).toList) =
      settings.classText className accessors := by
  have closes : trimEnd (closingRow settings.language ++ "\n").toList =
      (closingRow settings.language).toList := by
    cases settings.language <;> decide
  rcases exists_visible_closingRow settings.language with ⟨character, member, visible⟩
  have remains : character ∈ (closingRow settings.language ++ "\n").toList := by
    rw [String.toList_append]
    exact List.mem_append_left _ member
  rw [← classText_append_lineFeed, classText, String.append_assoc, String.toList_append,
    trimEnd_append remains visible, closes, ← String.toList_append, String.ofList_toList]

theorem classBody_eq_classText :
    (Generator.complete settings).classBody className accessors =
      .ok (settings.classText className accessors) := by
  rw [Generator.classBody_complete, render_classBody_eq_ofRows, ← trimEnd_ofRows_classRows]
  rfl

/-- Outside every namespace the text of a class stands between the head and a line feed. -/
theorem code_outside_eq_append :
    settings.code "" className rootType accessors =
      .ok (ofRows (settings.headRows rootType) ++ settings.classText className accessors
        ++ "\n") := by
  have written := Layout.render_file_global settings.language
    (rootType.qualified settings.language) settings.imports ""
    (settings.classText className accessors)
  rw [code_eq, Generator.code_complete, classBody_eq_classText]
  refine written.trans (congrArg Except.ok ?_)
  rw [imports_eq_ofRows, headRows]
  simp only [ofRows_append, ofRows_cons, ofRows_nil, String.empty_append, String.append_empty,
    String.append_assoc]

/--
The source of a view outside every namespace consists of the rows of its head
and of its class, whatever the texts in them are.
-/
theorem code_outside_namespaces :
    settings.code "" className rootType accessors =
      .ok (ofRows (settings.headRows rootType ++ settings.classRows className accessors)) := by
  rw [code_outside_eq_append, String.append_assoc, classText_append_lineFeed, ofRows_append]

example :
    classRows ⟨.csharp, .properties, []⟩ "\x7b\x7bmembers\x7d\x7d"
        [⟨"Button", "save", .ownClass⟩] =
      ["partial class \x7b\x7bmembers\x7d\x7d",
        "\x7b",
        "    private Button save => this.FindNameScope()?.Find<Button>(\"save\");",
        "\x7d"] := by
  decide +kernel

end SourceSettings

end ViewAccessors
