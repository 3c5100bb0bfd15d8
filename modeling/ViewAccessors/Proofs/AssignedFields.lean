import ViewAccessors.Proofs.Identifiers
import ViewAccessors.Proofs.LookUpKeys

/-!
# What assignments assign

A class with fields has a method that assigns them.  The method has a
parameter, and a variable of its own if there are fields.  An assignment calls
its field by the bare name, so it assigns the field as long as neither of the
two has the same identifier.
-/

namespace ViewAccessors

open Text

/-! ## The method that assigns the fields -/

/-- A statement of a method. -/
inductive Statement where
  /-- Loads the markup if the variable holds. -/
  | loadIf (condition : String)
  /-- Declares a variable that holds the name scope of the view. -/
  | declareScope (name : String)
  /-- Assigns the element that the scope in a variable has under a key. -/
  | assign (target scope typeName key : String)
  deriving DecidableEq, Repr

namespace Statement

/-- The rows of the statement.  A declaration has an empty row before it. -/
def rows : Language → Statement → List String
  | .csharp, loadIf condition => [
    "        if (" ++ condition ++ ")",
    "        \x7b",
    "            AvaloniaXamlLoader.Load(this);",
    "        \x7d"]
  | .visualBasic, loadIf condition => [
    "        If " ++ condition ++ " Then",
    "            AvaloniaXamlLoader.Load(Me)",
    "        End If"]
  | .csharp, declareScope name => ["", "        var " ++ name ++ " = this.FindNameScope();"]
  | .visualBasic, declareScope name => ["", "        Dim " ++ name ++ " = Me.FindNameScope()"]
  | .csharp, assign target scope typeName key => [
    "        " ++ target ++ " = " ++ scope ++ "?.Find<" ++ typeName ++ ">(\"" ++ key ++ "\");"]
  | .visualBasic, assign target scope typeName key => [
    "        " ++ target ++ " = " ++ scope ++ "?.Find(Of " ++ typeName ++ ")(\"" ++ key ++ "\")"]

/-- The variable that the statement declares, if it declares one. -/
def declared? : Statement → Option String
  | declareScope name => some name
  | _ => none

end Statement

/-- The method that assigns the fields of a class. -/
structure Initializer where
  parameter : String
  statements : List Statement
  deriving DecidableEq, Repr

namespace Initializer

/-- The rows up to the statements. -/
def beginningRows (parameter : String) : Language → List String
  | .csharp => [
    "    /// <summary>",
    "    /// Wires up the named controls and optionally loads the XAML markup.",
    "    /// </summary>",
    "    /// <param name=\"" ++ parameter
      ++ "\">Should the XAML be loaded into the component.</param>",
    "    public void InitializeComponent(bool " ++ parameter ++ " = true)",
    "    \x7b"]
  | .visualBasic => [
    "    ''' <summary>",
    "    ''' Wires up the named controls and optionally loads the XAML markup.",
    "    ''' </summary>",
    "    ''' <param name=\"" ++ parameter
      ++ "\">Should the XAML be loaded into the component.</param>",
    "    Public Sub InitializeComponent(Optional " ++ parameter ++ " As Boolean = True)"]

/-- The rows of the method. -/
def rows
    (initializer : Initializer)
    (language : Language) :
    List String :=
  beginningRows initializer.parameter language
    ++ initializer.statements.flatMap (Statement.rows language)
    ++ [Layout.methodEnd language]

/-- The variables that the method declares, its parameter first. -/
def ownVariables (initializer : Initializer) : List String :=
  initializer.parameter :: initializer.statements.filterMap Statement.declared?

/-- The parameter that says whether the markup is loaded. -/
def loadParameter : String :=
  "loadXaml"

/-- The variable for the scope in which names are looked up. -/
def scopeVariable : Language → String
  | .csharp => "__thisNameScope__"
  | .visualBasic => "thisNameScope"

/-- The statement that assigns the field of an accessor. -/
def assignmentOf
    (language : Language)
    (accessor : Accessor) :
    Statement :=
  .assign accessor.name (scopeVariable language) accessor.typeName accessor.name

/-- The method that assigns the fields of accessors. -/
def ofAccessors
    (language : Language)
    (accessors : List Accessor) :
    Initializer where
  parameter := loadParameter
  statements :=
    .loadIf loadParameter ::
      if accessors.isEmpty then
        []
      else
        .declareScope (scopeVariable language) :: accessors.map (assignmentOf language)

theorem rows_assignmentOf
    (language : Language)
    (accessor : Accessor) :
    (assignmentOf language accessor).rows language = [accessor.assignmentRow language] := by
  cases language with
  | csharp =>
      have receiver : " = __thisNameScope__?.Find<" = " = " ++ "__thisNameScope__" ++ "?.Find<" :=
        rfl
      delta Accessor.assignmentRow
      simp only [receiver, assignmentOf, Statement.rows, scopeVariable, String.append_assoc]
  | visualBasic =>
      have receiver : " = thisNameScope?.Find(Of " = " = " ++ "thisNameScope" ++ "?.Find(Of " :=
        rfl
      delta Accessor.assignmentRow
      simp only [receiver, assignmentOf, Statement.rows, scopeVariable, String.append_assoc]

/-- The statements behind the first one are written in the rows of the assignments. -/
theorem rows_statements
    (language : Language)
    (accessors : List Accessor) :
    (ofAccessors language accessors).statements.flatMap (Statement.rows language) =
      (Statement.loadIf loadParameter).rows language
        ++ Accessor.assignmentsRows language accessors := by
  have scopeRows : (Statement.declareScope (scopeVariable language)).rows language =
      ["", Accessor.scopeStatement language] := by
    cases language <;> rfl
  rw [ofAccessors, List.flatMap_cons, Accessor.assignmentsRows]
  split
  · rfl
  · rw [List.flatMap_cons, scopeRows, List.flatMap_map, funext (rows_assignmentOf language),
      ← List.map_eq_flatMap]
    rfl

/-- The method is written as the templates have it. -/
theorem ofRows_rows_ofAccessors
    (language : Language)
    (accessors : List Accessor) :
    ofRows ((ofAccessors language accessors).rows language) =
      ofRows ([Layout.method language] ++ Accessor.assignmentsRows language accessors
        ++ [Layout.methodEnd language]) := by
  have head : ofRows (beginningRows loadParameter language
      ++ (Statement.loadIf loadParameter).rows language) = ofRows [Layout.method language] := by
    cases language <;> decide +kernel
  rw [ofRows_append] at head
  rw [rows, rows_statements]
  simp only [ofRows_append, ← head, String.append_assoc]
  rfl

/-- If there is a field to assign, the method has two variables. -/
theorem ownVariables_ofAccessors
    {language : Language}
    {accessors : List Accessor}
    (nonempty : accessors ≠ []) :
    (ofAccessors language accessors).ownVariables = [loadParameter, scopeVariable language] := by
  have noneDeclared :
      (accessors.map (assignmentOf language)).filterMap Statement.declared? = [] := by
    rw [List.filterMap_map, List.filterMap_eq_nil_iff]
    exact fun _ _ => rfl
  have hasField : ¬ accessors.isEmpty = true := by
    simpa using nonempty
  have declared : Statement.declared? (.declareScope (scopeVariable language)) =
      some (scopeVariable language) :=
    rfl
  rw [ownVariables, ofAccessors, if_neg hasField, List.filterMap_cons_none rfl,
    List.filterMap_cons_some declared, noneDeclared]

theorem assignmentOf_mem_ofAccessors
    {language : Language}
    {accessors : List Accessor}
    {accessor : Accessor}
    (member : accessor ∈ accessors) :
    assignmentOf language accessor ∈ (ofAccessors language accessors).statements := by
  have hasField : ¬ accessors.isEmpty = true := by
    simpa using List.ne_nil_of_mem member
  rw [ofAccessors, if_neg hasField]
  exact List.mem_cons_of_mem _ (List.mem_cons_of_mem _ (List.mem_map_of_mem member))

end Initializer

/-! ## What names stand for -/

/-- What a bare name in a method of a class can stand for. -/
inductive Entity where
  /-- A parameter or a variable that the method declares. -/
  | ofMethod (name : String)
  /-- A field that the class declares. -/
  | ofClass (name : String)
  deriving DecidableEq, Repr

/--
A name in a method stands for a variable of the method with its identifier, and
for a field of the class only if there is no such variable.  `identifier` levels
what a language does not tell apart in names, so that fields of one identifier
are not told apart either.
-/
inductive StandsFor
    (identifier : String → String)
    (ownVariables fields : List String)
    (name : String) :
    Entity → Prop where
  | ofMethod
      {own : String}
      (isOwn : own ∈ ownVariables)
      (same : identifier own = identifier name) :
      StandsFor identifier ownVariables fields name (.ofMethod own)
  | ofClass
      {field : String}
      (free : ∀ own ∈ ownVariables, identifier own ≠ identifier name)
      (isField : field ∈ fields)
      (same : identifier field = identifier name) :
      StandsFor identifier ownVariables fields name (.ofClass field)

/-- The name of a field stands for the field if the method leaves its identifier free. -/
theorem standsFor_ofClass_iff
    {identifier : String → String}
    {ownVariables fields : List String}
    {name : String}
    (isField : name ∈ fields) :
    StandsFor identifier ownVariables fields name (.ofClass name) ↔
      ∀ own ∈ ownVariables, identifier own ≠ identifier name := by
  constructor
  · intro standsFor
    cases standsFor with
    | ofClass free _ _ => exact free
  · exact fun free => .ofClass free isField rfl

/-! ## Generated sources -/

namespace SourceSettings

/-- The rows of the members are those of the fields and of the method that assigns them. -/
theorem ofRows_memberRows
    {settings : SourceSettings}
    (withFields : settings.style = .fields)
    (accessors : List Accessor) :
    ofRows (settings.memberRows accessors) =
      ofRows (Accessor.fieldsRows settings.language accessors
        ++ (Initializer.ofAccessors settings.language accessors).rows settings.language) := by
  rw [memberRows, withFields, ofRows_append _ (Initializer.rows _ _),
    Initializer.ofRows_rows_ofAccessors]
  simp only [ofRows_append, String.append_assoc]

/-- Outside every namespace a source with fields consists of these rows. -/
theorem code_fields_outside_namespaces
    {settings : SourceSettings}
    (withFields : settings.style = .fields)
    (className : String)
    (rootType : TypeRef)
    (accessors : List Accessor) :
    settings.code "" className rootType accessors =
      .ok (ofRows (settings.headRows rootType
        ++ Layout.beginningRows className settings.language
        ++ Accessor.fieldsRows settings.language accessors
        ++ (Initializer.ofAccessors settings.language accessors).rows settings.language
        ++ [Layout.closingRow settings.language])) := by
  rw [code_outside_namespaces, classRows]
  simp only [ofRows_append, ofRows_memberRows withFields, String.append_assoc]

/-- A source holds the rows of the members, with other blanks around line feeds at most. -/
theorem exists_rebroken_code
    {settings : SourceSettings}
    {namespaceName className content : String}
    {rootType : TypeRef}
    {accessors : List Accessor}
    (written : settings.code namespaceName className rootType accessors = .ok content) :
    ∃ before after, Rebroken
      (before ++ ((ofRows (settings.memberRows accessors)).toList ++ after)) content.toList := by
  rcases settings.exists_render_file namespaceName (settings.classText className accessors)
    rootType with ⟨text, rendered, before, after, rebroken⟩
  rw [code_eq, Generator.code_complete, classBody_eq_classText] at written
  have same : text = content := Except.ok.inj (rendered.symm.trans written)
  subst same
  rw [classText, ofRows_append, String.toList_append, String.toList_append, List.append_assoc,
    List.append_assoc, ← List.append_assoc before] at rebroken
  exact ⟨_, _, rebroken⟩

end SourceSettings

/-- A file is made for the view that a document is, with a source for its accessors. -/
def Document.IsWrittenTo
    (options : Options)
    (document : Document)
    (file : GeneratedFile) :
    Prop :=
  ∃ view accessors,
    View.ofText? options.namespaces document.text = .ok (some view) ∧
      options.accessorSettings.accessors view.document = .ok accessors ∧
        options.sourceSettings.code view.namespaceName view.className view.rootType accessors =
          .ok file.content

/-- The files of a run are made for a part of the documents. -/
theorem exists_isWrittenTo_of_generate
    {options : Options}
    {documents : List Document}
    {files : List GeneratedFile}
    (generated : generate options documents = .ok files) :
    ∃ views, views.Sublist documents ∧
      List.Forall₂ (Document.IsWrittenTo options) views files := by
  rcases bind_eq_ok_iff.mp generated with ⟨pipeline, configured, generated⟩
  have sameOptions := Pipeline.options_of_ofOptions (mapError_eq_ok_iff.mp configured)
  rcases Pipeline.exists_sublist_of_generate_eq_ok generated with ⟨views, part, processed⟩
  refine ⟨views, part, processed.imp fun document file fileFor => ?_⟩
  rw [← sameOptions]
  exact Pipeline.exists_of_process_eq_ok fileFor

theorem isWrittenTo_of_generate_singleton
    {options : Options}
    {document : Document}
    {file : GeneratedFile}
    (generated : generate options [document] = .ok [file]) :
    document.IsWrittenTo options file := by
  rcases exists_isWrittenTo_of_generate generated with ⟨views, part, written⟩
  rcases List.forall₂_cons_right_iff.mp written with ⟨view, _, isWritten, none, rfl⟩
  rw [List.forall₂_nil_right_iff.mp none, List.singleton_sublist, List.mem_singleton] at part
  exact part ▸ isWritten

/--
A file is made for the view that a document is, and its source holds the fields
for the named elements of the view and the method that assigns them.  What
is assigned under the name of an element is its field exactly if neither the
parameter nor the variable of the method has the same identifier.
-/
def Document.AssignsFields
    (identifier : String → String)
    (options : Options)
    (document : Document)
    (file : GeneratedFile) :
    Prop :=
  ∃ view accessors before after,
    View.ofText? options.namespaces document.text = .ok (some view) ∧
      options.accessorSettings.accessors view.document = .ok accessors ∧
      Rebroken
        (before ++ ((ofRows (Accessor.fieldsRows options.language accessors
          ++ (Initializer.ofAccessors options.language accessors).rows
            options.language)).toList ++ after))
        file.content.toList ∧
      ∀ accessor ∈ accessors,
        Initializer.assignmentOf options.language accessor ∈
            (Initializer.ofAccessors options.language accessors).statements ∧
          (StandsFor identifier
              (Initializer.ofAccessors options.language accessors).ownVariables
              (accessors.map Accessor.name) accessor.name (.ofClass accessor.name) ↔
            ∀ own ∈ [Initializer.loadParameter, Initializer.scopeVariable options.language],
              identifier own ≠ identifier accessor.name)

/--
With fields, the files of a run are made for a part of the documents.  Each of
them assigns the fields of its document in a method whose parameter is called
`loadXaml` and whose variable has a name that depends on the language.  An
assignment assigns the field of its name unless one of these two has the same
identifier.
-/
theorem generate_assigns_fields
    {options : Options}
    {documents : List Document}
    {files : List GeneratedFile}
    (identifier : String → String)
    (withFields : options.style = .fields)
    (generated : generate options documents = .ok files) :
    ∃ views, views.Sublist documents ∧
      List.Forall₂ (Document.AssignsFields identifier options) views files := by
  rcases exists_isWrittenTo_of_generate generated with ⟨views, part, written⟩
  refine ⟨views, part, written.imp fun document file isWritten => ?_⟩
  rcases isWritten with ⟨view, accessors, isView, resolved, written⟩
  rcases SourceSettings.exists_rebroken_code written with ⟨before, after, rebroken⟩
  rw [SourceSettings.ofRows_memberRows withFields] at rebroken
  refine ⟨view, accessors, before, after, isView, resolved, rebroken, fun accessor member => ?_⟩
  refine ⟨Initializer.assignmentOf_mem_ofAccessors member, ?_⟩
  rw [standsFor_ofClass_iff (List.mem_map_of_mem member),
    Initializer.ownVariables_ofAccessors (List.ne_nil_of_mem member)]

/-- The field of a document with one named element is assigned. -/
theorem generate_assigns_fields_send :
    let options : Options := { Options.standard with style := .fields }
    let documents : List Document := [⟨"Main.xaml",
      "<A xmlns:x=\"http://schemas.microsoft.com/winfx/2006/xaml\" x:Class=\"App.Main\">"
        ++ "<B xmlns=\"using:C\" Name=\"send\"/></A>"⟩]
    ∃ files, generate options documents = .ok files ∧ files.length = 1 ∧
      ∃ views, views.Sublist documents ∧
        List.Forall₂ (Document.AssignsFields (Language.csharp.identifier Char.toLower) options)
          views files := by
  intro options documents
  have counted : (generate options documents).map List.length = .ok 1 := by
    -- with the generator of the settings at hand, no template text is read
    delta generate Pipeline.generate Pipeline.process Pipeline.fileFor
    simp only [SourceSettings.code_eq]
    decide +kernel
  rcases map_eq_ok_iff.mp counted with ⟨files, generated, single⟩
  exact ⟨files, generated, single, generate_assigns_fields _ rfl generated⟩

/--
A field can have the name of the parameter.  Then the parameter is assigned in
its place, whatever names a language takes for the same.
-/
theorem generate_assigns_parameter :
    let options : Options := { Options.standard with style := .fields }
    let document : Document := ⟨"Main.xaml",
      "<Window xmlns=\"using:App\" xmlns:x=\"http://schemas.microsoft.com/winfx/2006/xaml\" "
        ++ "x:Class=\"Main\" Name=\"loadXaml\"/>"⟩
    let accessor : Accessor := ⟨"global::App.Window", "loadXaml", .ownClass⟩
    let initializer := Initializer.ofAccessors .csharp [accessor]
    (View.ofText? options.namespaces document.text).map
          (Option.map fun view => options.accessorSettings.accessors view.document) =
        .ok (some (.ok [accessor])) ∧
      generate options [document] =
        .ok [⟨"Main.g.cs", ofRows (
          ["// <auto-generated />", "// Root: global::App.Window", "",
            "using Avalonia.Controls;", "using Avalonia.Markup.Xaml;", "",
            "partial class Main", "\x7b",
            "    private global::App.Window loadXaml;", ""]
          ++ initializer.rows .csharp ++ ["\x7d"])⟩] ∧
      ∀ identifier,
        StandsFor identifier initializer.ownVariables ["loadXaml"] "loadXaml"
            (.ofMethod "loadXaml") ∧
          ¬ StandsFor identifier initializer.ownVariables ["loadXaml"] "loadXaml"
            (.ofClass "loadXaml") := by
  intro options document accessor initializer
  have isOwn : "loadXaml" ∈ initializer.ownVariables := List.mem_cons_self
  have resolves : (View.ofText? options.namespaces document.text).map
      (Option.map fun view => options.accessorSettings.accessors view.document) =
      .ok (some (.ok [accessor])) := by
    decide +kernel
  have describes : (View.ofText? options.namespaces document.text).map
      (Option.map fun view =>
        (view.namespaceName, view.className, view.rootType.qualified .csharp)) =
      .ok (some ("", "Main", "global::App.Window")) := by
    decide +kernel
  have counted : (generate options [document]).map (List.map GeneratedFile.name) =
      .ok ["Main.g.cs"] := by
    delta generate Pipeline.generate Pipeline.process Pipeline.fileFor
    simp only [SourceSettings.code_eq]
    decide +kernel
  refine ⟨resolves, ?_, fun identifier => ⟨.ofMethod isOwn rfl, ?_⟩⟩
  · rcases map_eq_ok_iff.mp counted with ⟨files, generated, named⟩
    rcases List.map_eq_singleton_iff.mp named with ⟨⟨_, content⟩, rfl, rfl⟩
    rcases isWrittenTo_of_generate_singleton generated with
      ⟨view, accessors, isView, resolved, written⟩
    rw [isView] at resolves describes
    have same : accessors = [accessor] :=
      Except.ok.inj (resolved.symm.trans (Option.some.inj (Except.ok.inj resolves)))
    have parts := Option.some.inj (Except.ok.inj describes)
    simp only [Prod.mk.injEq] at parts
    rcases parts with ⟨hasNamespace, hasClass, hasRoot⟩
    have head : options.sourceSettings.headRows view.rootType =
        ["// <auto-generated />", "// Root: global::App.Window", "",
          "using Avalonia.Controls;", "using Avalonia.Markup.Xaml;", ""] := by
      rw [SourceSettings.headRows]
      show Layout.topRows (view.rootType.qualified .csharp) .csharp ++ _ ++ _ = _
      rw [hasRoot]
      rfl
    rw [same, hasNamespace, hasClass, SourceSettings.code_fields_outside_namespaces rfl,
      head] at written
    have isContent : _ = content := Except.ok.inj written
    rw [generated, ← isContent]
    rfl
  · rw [standsFor_ofClass_iff List.mem_cons_self]
    exact fun free => free _ isOwn rfl

end ViewAccessors
