import Mathlib.Data.List.Basic
import ViewAccessors.Proofs.Outcomes
import ViewAccessors.Proofs.Markup.Scanning
import ViewAccessors.Source.Code

/-!
# The templates of generated sources, as they are read

The templates of files and classes are well formed.  So a generator can be
made for all settings, and each name by which it asks for a template is the
name of the one for its language and style.
-/

namespace ViewAccessors

/-! ## Reading written templates -/

theorem append_eq_ofList
    {first second : String}
    {begins goesOn : List Char}
    (isFirst : first = String.ofList begins)
    (isSecond : second = String.ofList goesOn) :
    first ++ second = String.ofList (begins ++ goesOn) := by
  rw [isFirst, isSecond, String.ofList_append]

namespace Template

theorem ofText_of_readPieces?
    {source : String}
    {characters : List Char}
    {template : Template}
    (written : source = String.ofList characters)
    (read : readPieces? characters = some template.pieces) :
    ofText source = .ok template := by
  rw [ofText, written, String.toList_ofList, read]

/--
A text breaks at two opening braces if they do not occur before, not even with
the first of these braces.
-/
theorem breakOn_slotOpening
    {before : List Char}
    (absent : ¬ slotOpening <:+: before ++ ['\x7b'])
    (after : List Char) :
    Text.breakOn slotOpening (before ++ (slotOpening ++ after)) = some (before, after) := by
  induction before with
  | nil => rfl
  | cons first before hypothesis =>
      rw [List.cons_append, List.infix_cons_iff, not_or] at absent
      have notHere : Text.dropStart? slotOpening
          (first :: (before ++ (slotOpening ++ after))) = none := by
        rw [Option.eq_none_iff_forall_ne_some]
        intro rest begins
        have same := Text.dropStart?_eq_some_iff.mp begins
        apply absent.1
        cases before with
        | nil =>
            cases same
            exact List.prefix_rfl
        | cons second before =>
            cases same
            exact ⟨_, rfl⟩
      rw [List.cons_append, Text.breakOn, notHere, hypothesis absent.2, Option.map_some]

/-- A text without a slot is one piece. -/
theorem readPieces?_text
    {source : List Char}
    (unopened : Text.breakOn slotOpening source = none) :
    readPieces? source = some [.text (String.ofList source)] := by
  rw [readPieces?]
  split
  · rfl
  · rename_i before after opened
    rw [unopened] at opened
    cases opened

/-- A slot is read between the text before it and what follows it. -/
theorem readPieces?_slot
    {source before after slot rest : List Char}
    {piece : Piece}
    {others : List Piece}
    (opened : Text.breakOn slotOpening source = some (before, after))
    (unescaped : trailingBackslashes before = 0)
    (closed : Text.breakOn slotClosing after = some (slot, rest))
    (isSlot : readSlot? slot = some piece)
    (goesOn : readPieces? rest = some others) :
    readPieces? source = some (.text (String.ofList before) :: piece :: others) := by
  rw [readPieces?]
  split
  · rename_i unopened
    rw [opened] at unopened
    cases unopened
  · rename_i early late again
    rw [opened] at again
    cases again
    simp only [unescaped, Nat.zero_ne_one, if_false, if_true]
    split
    · rename_i unclosed
      rw [closed] at unclosed
      cases unclosed
    · rename_i inside last again
      rw [closed] at again
      cases again
      rw [isSlot, goesOn]
      rfl

/--
A text stands before a slot as it is: no slot begins in it, and no backslash
at its end takes the meaning from the braces that follow.
-/
def IsPlain (text : String) : Prop :=
  ∃ characters, text = String.ofList characters ∧ trailingBackslashes characters = 0 ∧
    ¬ slotOpening <:+: characters ++ ['\x7b']

end Template

namespace Layout

/-! ## The templates -/

/-- A C# file with the class inside a namespace. -/
def csharpFile : Template where
  pieces := [
    .text "// <auto-generated />\n// Root: ",
    .value "root_type",
    .text "\n\n",
    .value "imports",
    .text "\nnamespace ",
    .value "namespace",
    .text "\n\x7b\n",
    .indented "body" 4,
    .text "\n\x7d\n"]

/-- A C# file with the class outside every namespace. -/
def csharpGlobalFile : Template where
  pieces := [
    .text "// <auto-generated />\n// Root: ",
    .value "root_type",
    .text "\n\n",
    .value "imports",
    .text "\n",
    .value "body",
    .text "\n"]

/-- A Visual Basic file with the class inside a namespace. -/
def visualBasicFile : Template where
  pieces := [
    .text "' <auto-generated />\n' Root: ",
    .value "root_type",
    .text "\n\n",
    .value "imports",
    .text "\nNamespace ",
    .value "namespace",
    .text "\n",
    .indented "body" 4,
    .text "\nEnd Namespace\n"]

/-- A Visual Basic file with the class outside every namespace. -/
def visualBasicGlobalFile : Template where
  pieces := [
    .text "' <auto-generated />\n' Root: ",
    .value "root_type",
    .text "\n\n",
    .value "imports",
    .text "\n",
    .value "body",
    .text "\n"]

/-- A C# class with a property for each name. -/
def csharpProperties : Template where
  pieces := [
    .text "partial class ",
    .value "class_name",
    .text "\n\x7b\n",
    .value "members",
    .text "\n\x7d\n"]

/-- A Visual Basic class with a property for each name. -/
def visualBasicProperties : Template where
  pieces := [
    .text "Partial Class ",
    .value "class_name",
    .text "\n",
    .value "members",
    .text "\nEnd Class\n"]

/-- A C# class with a field for each name and the method that assigns the fields. -/
def csharpFields : Template where
  pieces := [
    .text "partial class ",
    .value "class_name",
    .text "\n\x7b\n",
    .value "fields",
    .text Written.csharpMethod,
    .value "assignments",
    .text "\n    \x7d\n\x7d\n"]

/-- A Visual Basic class with a field for each name and the method that assigns the fields. -/
def visualBasicFields : Template where
  pieces := [
    .text "Partial Class ",
    .value "class_name",
    .text "\n",
    .value "fields",
    .text Written.visualBasicMethod,
    .value "assignments",
    .text "\n    End Sub\nEnd Class\n"]

/-- The template of a file, whose class is inside a namespace or outside every one. -/
def file : Language → (global : Bool) → Template
  | .csharp, false => csharpFile
  | .csharp, true => csharpGlobalFile
  | .visualBasic, false => visualBasicFile
  | .visualBasic, true => visualBasicGlobalFile

/-- The template of a class. -/
def classBody : Language → AccessorStyle → Template
  | .csharp, .properties => csharpProperties
  | .csharp, .fields => csharpFields
  | .visualBasic, .properties => visualBasicProperties
  | .visualBasic, .fields => visualBasicFields

/-- The templates of files under their names, as they are read. -/
def files : List (String × Template) :=
  [("cs_file", csharpFile), ("cs_file_global", csharpGlobalFile),
    ("vb_file", visualBasicFile), ("vb_file_global", visualBasicGlobalFile)]

/-- The templates of classes in a style under their names, as they are read. -/
def classes : AccessorStyle → List (String × Template)
  | .properties =>
    [("cs_properties", csharpProperties), ("vb_properties", visualBasicProperties)]
  | .fields =>
    [("cs_initialize", csharpFields), ("vb_initialize", visualBasicFields)]

/-! ## Reading the templates -/

theorem isPlain_csharpMethod : Template.IsPlain Written.csharpMethod := by
  apply Exists.intro
  apply And.intro
  · repeat' apply append_eq_ofList
    all_goals rfl
  · decide +kernel

theorem isPlain_visualBasicMethod : Template.IsPlain Written.visualBasicMethod := by
  apply Exists.intro
  apply And.intro
  · repeat' apply append_eq_ofList
    all_goals rfl
  · decide +kernel

/-- The slot for an indented body. -/
theorem readSlot?_indented :
    Template.readSlot? ['i', 'n', 'd', 'e', 'n', 't', ' ', 'b', 'o', 'd', 'y', ' ', '4'] =
      some (.indented "body" 4) := by
  decide +kernel

-- The templates are read slot by slot, for comparing long texts takes the kernel long.

theorem ofText_csharpFields : Template.ofText Written.csharpFields = .ok csharpFields := by
  rcases isPlain_csharpMethod with ⟨characters, method, unescaped, unopened⟩
  have opened := Template.breakOn_slotOpening unopened
  apply Template.ofText_of_readPieces? (append_eq_ofList (append_eq_ofList rfl method) rfl)
  rw [csharpFields, method]
  apply Template.readPieces?_slot rfl rfl rfl rfl
  apply Template.readPieces?_slot rfl rfl rfl rfl
  apply Template.readPieces?_slot (opened _) unescaped rfl rfl
  exact Template.readPieces?_text rfl

theorem ofText_visualBasicFields :
    Template.ofText Written.visualBasicFields = .ok visualBasicFields := by
  rcases isPlain_visualBasicMethod with ⟨characters, method, unescaped, unopened⟩
  have opened := Template.breakOn_slotOpening unopened
  apply Template.ofText_of_readPieces? (append_eq_ofList (append_eq_ofList rfl method) rfl)
  rw [visualBasicFields, method]
  apply Template.readPieces?_slot rfl rfl rfl rfl
  apply Template.readPieces?_slot rfl rfl rfl rfl
  apply Template.readPieces?_slot (opened _) unescaped rfl rfl
  exact Template.readPieces?_text rfl

theorem ofText_csharpFile : Template.ofText Written.csharpFile = .ok csharpFile := by
  apply Template.ofText_of_readPieces? (append_eq_ofList rfl rfl)
  apply Template.readPieces?_slot rfl rfl rfl rfl
  apply Template.readPieces?_slot rfl rfl rfl rfl
  apply Template.readPieces?_slot rfl rfl rfl rfl
  apply Template.readPieces?_slot rfl rfl rfl readSlot?_indented
  exact Template.readPieces?_text rfl

theorem ofText_csharpGlobalFile :
    Template.ofText Written.csharpGlobalFile = .ok csharpGlobalFile := by
  apply Template.ofText_of_readPieces? rfl
  apply Template.readPieces?_slot rfl rfl rfl rfl
  apply Template.readPieces?_slot rfl rfl rfl rfl
  apply Template.readPieces?_slot rfl rfl rfl rfl
  exact Template.readPieces?_text rfl

theorem ofText_visualBasicFile :
    Template.ofText Written.visualBasicFile = .ok visualBasicFile := by
  apply Template.ofText_of_readPieces? (append_eq_ofList rfl rfl)
  apply Template.readPieces?_slot rfl rfl rfl rfl
  apply Template.readPieces?_slot rfl rfl rfl rfl
  apply Template.readPieces?_slot rfl rfl rfl rfl
  apply Template.readPieces?_slot rfl rfl rfl readSlot?_indented
  exact Template.readPieces?_text rfl

theorem ofText_visualBasicGlobalFile :
    Template.ofText Written.visualBasicGlobalFile = .ok visualBasicGlobalFile := by
  apply Template.ofText_of_readPieces? rfl
  apply Template.readPieces?_slot rfl rfl rfl rfl
  apply Template.readPieces?_slot rfl rfl rfl rfl
  apply Template.readPieces?_slot rfl rfl rfl rfl
  exact Template.readPieces?_text rfl

theorem ofText_csharpProperties :
    Template.ofText Written.csharpProperties = .ok csharpProperties := by
  apply Template.ofText_of_readPieces? rfl
  apply Template.readPieces?_slot rfl rfl rfl rfl
  apply Template.readPieces?_slot rfl rfl rfl rfl
  exact Template.readPieces?_text rfl

theorem ofText_visualBasicProperties :
    Template.ofText Written.visualBasicProperties = .ok visualBasicProperties := by
  apply Template.ofText_of_readPieces? rfl
  apply Template.readPieces?_slot rfl rfl rfl rfl
  apply Template.readPieces?_slot rfl rfl rfl rfl
  exact Template.readPieces?_text rfl

end Layout

/-! ## Libraries -/

namespace Template.Library

/-- A written template and a template have the same name, and one is read as the other. -/
def IsRead
    (source : String × String)
    (template : String × Template) :
    Prop :=
  source.1 = template.1 ∧ ofText source.2 = .ok template.2

/-- Well-formed templates are registered under their names, whatever these are. -/
theorem registerAll_eq_ok
    {sources : List (String × String)}
    {templates : List (String × Template)}
    (read : List.Forall₂ IsRead sources templates)
    (library : Library) :
    library.registerAll sources =
      .ok ⟨templates.foldl (fun map (name, template) => map.insert name template)
        library.templates⟩ := by
  induction read generalizing library with
  | nil => rfl
  | @cons source template sources templates isRead read hypothesis =>
      rcases source with ⟨name, source⟩
      rcases template with ⟨other, template⟩
      rcases isRead with ⟨rfl, isRead⟩
      have registered : library.register name source =
          .ok ⟨library.templates.insert name template⟩ := by
        show (ofText source).map _ = _
        rw [show ofText source = .ok template from isRead]
        rfl
      rw [registerAll, List.foldlM_cons]
      show (library.register name source).bind _ = _
      rw [registered]
      exact hypothesis _

theorem render_eq
    {library : Library}
    {name : String}
    {template : Template}
    (found : library.templates.get? name = some template)
    (fields : Fields) :
    library.render name fields = template.render fields := by
  rw [render, found]

end Template.Library

namespace Layout

/-- The library with all templates of a style. -/
def completeLibrary (style : AccessorStyle) : Template.Library :=
  ⟨(classes style).foldl (fun map (name, template) => map.insert name template)
    (files.foldl (fun map (name, template) => map.insert name template) .empty)⟩

theorem library_eq (style : AccessorStyle) :
    library style = .ok (completeLibrary style) := by
  have readFiles : List.Forall₂ Template.Library.IsRead writtenFiles files :=
    .cons ⟨rfl, ofText_csharpFile⟩ (.cons ⟨rfl, ofText_csharpGlobalFile⟩
      (.cons ⟨rfl, ofText_visualBasicFile⟩ (.cons ⟨rfl, ofText_visualBasicGlobalFile⟩ .nil)))
  have readClasses : List.Forall₂ Template.Library.IsRead (writtenClasses style)
      (classes style) := by
    cases style with
    | properties =>
        exact .cons ⟨rfl, ofText_csharpProperties⟩
          (.cons ⟨rfl, ofText_visualBasicProperties⟩ .nil)
    | fields =>
        exact .cons ⟨rfl, ofText_csharpFields⟩ (.cons ⟨rfl, ofText_visualBasicFields⟩ .nil)
  rw [library, Template.Library.registerAll_eq_ok readFiles]
  exact Template.Library.registerAll_eq_ok readClasses _

theorem get?_fileKey
    (style : AccessorStyle)
    (language : Language)
    (global : Bool) :
    (completeLibrary style).templates.get? (fileKey language global) =
      some (file language global) := by
  cases style <;> cases language <;> cases global <;> rfl

theorem get?_classKey
    (style : AccessorStyle)
    (language : Language) :
    (completeLibrary style).templates.get? (classKey language style) =
      some (classBody language style) := by
  cases style <;> cases language <;> rfl

end Layout

/-! ## Generators -/

namespace Generator

/-- The generator for settings, with all the templates that are registered for them. -/
def complete (settings : SourceSettings) : Generator :=
  ⟨settings, Layout.completeLibrary settings.style⟩

/-- A generator can be made for all settings. -/
theorem ofSettings_eq (settings : SourceSettings) :
    ofSettings settings = .ok (complete settings) := by
  rw [ofSettings, Layout.library_eq]
  rfl

theorem classBody_complete
    (settings : SourceSettings)
    (className : String)
    (accessors : List Accessor) :
    (complete settings).classBody className accessors =
      ((Layout.classBody settings.language settings.style).render
        (settings.classFields className accessors)).map fun body =>
          String.ofList (Text.trimEnd body.toList) := by
  have rendered := Template.Library.render_eq
    (Layout.get?_classKey settings.style settings.language)
    (settings.classFields className accessors)
  show ((Layout.completeLibrary settings.style).render _ _).map _ = _
  rw [← rendered]
  rfl

theorem code_complete
    (settings : SourceSettings)
    (namespaceName className : String)
    (rootType : TypeRef)
    (accessors : List Accessor) :
    (complete settings).code namespaceName className rootType accessors =
      ((complete settings).classBody className accessors).bind fun body =>
        (Layout.file settings.language (namespaceName == "")).render
          [("root_type", rootType.qualified settings.language),
            ("imports", settings.imports),
            ("namespace", namespaceName),
            ("body", body)] := by
  refine congrArg (Except.bind _) (funext fun body => ?_)
  exact Template.Library.render_eq
    (Layout.get?_fileKey settings.style settings.language (namespaceName == "")) _

end Generator

/-- A source is written by the generator for the settings. -/
theorem SourceSettings.code_eq
    (settings : SourceSettings)
    (namespaceName className : String)
    (rootType : TypeRef)
    (accessors : List Accessor) :
    settings.code namespaceName className rootType accessors =
      (Generator.complete settings).code namespaceName className rootType accessors := by
  rw [code, Generator.ofSettings_eq]
  rfl

end ViewAccessors
