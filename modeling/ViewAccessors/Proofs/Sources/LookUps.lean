import ViewAccessors.Proofs.Outcomes
import ViewAccessors.Proofs.Sources.LineBreaks
import ViewAccessors.Proofs.Sources.Literals
import ViewAccessors.Proofs.Sources.Rows

/-!
# Look-ups in generated sources

A generated source looks up the elements of its accessors one after the other,
in every language and style.  The key of a look-up is the name between quotes.
If the class stands inside a namespace, it is indented, which changes a key
only if the name holds a line feed.
-/

namespace ViewAccessors

open Text

/-! ## Parts in their order -/

/-- Parts for the members of a list stand in a text one after the other. -/
inductive InOrder
    {Member : Type}
    (IsPart : Member → List Char → Prop) :
    List Member → List Char → Prop where
  | nil (text : List Char) : InOrder IsPart [] text
  | cons
      {member : Member}
      {members : List Member}
      (before : List Char)
      {part after : List Char}
      (isPart : IsPart member part)
      (others : InOrder IsPart members after) :
      InOrder IsPart (member :: members) (before ++ (part ++ after))

namespace InOrder

variable
    {Member : Type}
    {IsPart IsOther : Member → List Char → Prop}
    {members : List Member}
    {text : List Char}

theorem append_left
    (before : List Char)
    (inOrder : InOrder IsPart members text) :
    InOrder IsPart members (before ++ text) := by
  cases inOrder with
  | nil => exact .nil _
  | cons first isPart others =>
      rw [← List.append_assoc]
      exact .cons _ isPart others

theorem append_right
    (inOrder : InOrder IsPart members text)
    (after : List Char) :
    InOrder IsPart members (text ++ after) := by
  induction inOrder with
  | nil => exact .nil _
  | cons before isPart others hypothesis =>
      rw [List.append_assoc, List.append_assoc]
      exact .cons before isPart hypothesis

/-- Members that are written with their parts and joined stand in order. -/
theorem intercalate
    {write : Member → String}
    (writes : ∀ member, ∃ before part after,
      write member = before ++ (part ++ after) ∧ IsPart member part.toList)
    (separator : String)
    (members : List Member) :
    InOrder IsPart members (separator.intercalate (members.map write)).toList := by
  rw [String.toList_intercalate, List.map_map]
  induction members with
  | nil => exact .nil _
  | cons member members hypothesis =>
      rcases writes member with ⟨before, part, after, written, isPart⟩
      have single : ∀ {text : List Char}, InOrder IsPart members text →
          InOrder IsPart (member :: members) ((write member).toList ++ text) := by
        intro text others
        rw [written, String.toList_append, String.toList_append, List.append_assoc,
          List.append_assoc]
        exact .cons _ isPart (others.append_left after.toList)
      cases members with
      | nil => simpa using single (.nil [])
      | cons second members =>
          rw [List.map_cons, List.map_cons, List.intercalate_cons_cons, List.append_assoc]
          exact single (hypothesis.append_left separator.toList)

/-- Parts that neither begin nor end with a blank stay in order when a text is broken anew. -/
theorem rebroken
    (tight : ∀ member part, IsPart member part → part ≠ [] ∧ Tight part)
    (changes : ∀ member part changed, IsPart member part → Rebroken part changed →
      IsOther member changed)
    (inOrder : InOrder IsPart members text)
    {changed : List Char}
    (rebroken : Rebroken text changed) :
    InOrder IsOther members changed := by
  induction inOrder generalizing changed with
  | nil => exact .nil _
  | @cons member members before part after isPart others hypothesis =>
      rcases tight member part isPart with ⟨nonempty, tight⟩
      rcases rebroken.exists_append_tight nonempty tight with
        ⟨changedBefore, changedPart, changedAfter, rfl, same, later⟩
      exact .cons changedBefore (changes member part changedPart isPart same)
        (hypothesis later)

end InOrder

/-! ## Look-ups -/

namespace Accessor

/-- What stands before and behind the type in the call that looks an element up. -/
def callAround : Language → String × String
  | .csharp => ("Find<", ">(")
  | .visualBasic => ("Find(Of ", ")(")

/-- The call that looks the element up, up to its key. -/
def call
    (accessor : Accessor)
    (language : Language) :
    String :=
  (callAround language).1 ++ accessor.typeName ++ (callAround language).2

/-- The call with the name between quotes as its key. -/
def lookUp
    (accessor : Accessor)
    (language : Language) :
    String :=
  accessor.call language ++ ("\"" ++ accessor.name ++ "\"" ++ ")")

variable
    (accessor : Accessor)
    {language : Language}

/-- The texts around the type and the name begin and end with the texts of the call. -/
theorem exists_eq_append_lookUp
    (start receiver rest : String)
    {opening key closing : String}
    (opens : opening = receiver ++ (callAround language).1)
    (asks : key = (callAround language).2 ++ "\"")
    (closes : closing = "\"" ++ (")" ++ rest)) :
    ∃ before after,
      start ++ opening ++ accessor.typeName ++ key ++ accessor.name ++ closing =
        before ++ (accessor.lookUp language ++ after) := by
  refine ⟨start ++ receiver, rest, ?_⟩
  rw [opens, asks, closes, lookUp, call]
  simp only [String.append_assoc]

/-- What stands in a text stands in every text that goes on behind it. -/
theorem exists_append
    {text part : String}
    (more : String)
    (holds : ∃ before after, text = before ++ (part ++ after)) :
    ∃ before after, text ++ more = before ++ (part ++ after) := by
  rcases holds with ⟨before, after, rfl⟩
  exact ⟨before, after ++ more, by simp only [String.append_assoc]⟩

/-- A property holds the look-up. -/
theorem exists_property_eq (language : Language) :
    ∃ before after,
      accessor.property language = before ++ (accessor.lookUp language ++ after) := by
  cases language with
  | csharp =>
      exact accessor.exists_eq_append_lookUp _ " => this.FindNameScope()?." ";"
        (by simp [callAround]) (by simp [callAround]) (by simp)
  | visualBasic =>
      exact exists_append _ (exists_append _
        (accessor.exists_eq_append_lookUp _ "            Return Me.FindNameScope()?." "\n"
          (by simp [callAround]) (by simp [callAround]) (by simp)))

/-- The assignment of a field holds the look-up. -/
theorem exists_assignment_eq (language : Language) :
    ∃ before after,
      accessor.assignment language = before ++ (accessor.lookUp language ++ after) := by
  cases language with
  | csharp =>
      exact accessor.exists_eq_append_lookUp _ " = __thisNameScope__?." ";"
        (by simp [callAround]) (by simp [callAround]) (by simp)
  | visualBasic =>
      exact accessor.exists_eq_append_lookUp _ " = thisNameScope?." ""
        (by simp [callAround]) (by simp [callAround]) (by simp)

/-- A part is the look-up of the element of an accessor. -/
def IsLookUp
    (language : Language)
    (accessor : Accessor)
    (part : List Char) :
    Prop :=
  part = (accessor.lookUp language).toList

theorem inOrder_properties
    (language : Language)
    (accessors : List Accessor) :
    InOrder (IsLookUp language) accessors (properties language accessors).toList := by
  apply InOrder.intercalate
  intro accessor
  rcases accessor.exists_property_eq language with ⟨before, after, written⟩
  exact ⟨before, _, after, written, rfl⟩

theorem inOrder_assignments
    (language : Language)
    (accessors : List Accessor) :
    InOrder (IsLookUp language) accessors (assignments language accessors).toList := by
  have statements : InOrder (IsLookUp language) accessors
      ("\n".intercalate (accessors.map (·.assignment language))).toList := by
    apply InOrder.intercalate
    intro accessor
    rcases accessor.exists_assignment_eq language with ⟨before, after, written⟩
    exact ⟨before, _, after, written, rfl⟩
  cases accessors with
  | nil => exact .nil _
  | cons first others =>
      rw [String.toList_intercalate] at statements
      rw [assignments, if_neg (by simp), String.toList_append, String.toList_intercalate,
        List.map_cons, List.map_cons, List.map_cons, List.intercalate_cons_cons]
      exact (statements.append_left _).append_left _

end Accessor

namespace SourceSettings

/-- The members that look elements up, in the style of the settings. -/
def members
    (settings : SourceSettings)
    (accessors : List Accessor) :
    String :=
  match settings.style with
  | .properties => Accessor.properties settings.language accessors
  | .fields => Accessor.assignments settings.language accessors

theorem inOrder_members
    (settings : SourceSettings)
    (accessors : List Accessor) :
    InOrder (Accessor.IsLookUp settings.language) accessors
      (settings.members accessors).toList := by
  rw [members]
  cases settings.style with
  | properties => exact Accessor.inOrder_properties settings.language accessors
  | fields => exact Accessor.inOrder_assignments settings.language accessors

/-- The class is written with its members before the rows that close it. -/
theorem exists_render_classBody
    (settings : SourceSettings)
    (className : String)
    (accessors : List Accessor) :
    ∃ before after,
      (Layout.classBody settings.language settings.style).render
          (settings.classFields className accessors) =
        .ok (before ++ settings.members accessors ++ after) ∧
      ∃ character ∈ after.toList, isBlank character = false := by
  rcases settings with ⟨language, style, namespaces⟩
  rcases Layout.exists_visible_closingRow language with ⟨character, member, visible⟩
  cases style with
  | properties =>
      refine ⟨ofRows (Layout.beginningRows className language),
        "\n" ++ ofRows [Layout.closingRow language],
        (Layout.render_properties language className _).trans (congrArg Except.ok ?_),
        character, by simp [member], visible⟩
      simp only [members, String.append_assoc]
  | fields =>
      refine ⟨ofRows (Layout.beginningRows className language)
          ++ (Accessor.fieldDeclarations language accessors ++ Layout.method language),
        "\n" ++ ofRows [Layout.methodEnd language, Layout.closingRow language],
        (Layout.render_fields language className _ _).trans (congrArg Except.ok ?_),
        character, by simp [member], visible⟩
      simp only [members, String.append_assoc]

/-- The class is always written, and looks the elements up in their order. -/
theorem exists_classBody
    (settings : SourceSettings)
    (className : String)
    (accessors : List Accessor) :
    ∃ body, (Generator.complete settings).classBody className accessors = .ok body ∧
      InOrder (Accessor.IsLookUp settings.language) accessors body.toList := by
  rcases settings.exists_render_classBody className accessors with
    ⟨before, after, rendered, character, member, visible⟩
  refine ⟨_, by rw [Generator.classBody_complete, rendered]; rfl, ?_⟩
  rw [String.toList_ofList, String.toList_append, String.toList_append,
    trimEnd_append member visible]
  exact ((settings.inOrder_members accessors).append_left _).append_right _

/-- Between rows the body is indented, which breaks the text anew. -/
theorem exists_rebroken_indented
    (width : Nat)
    (start opening body rest : String) :
    ∃ before after, Rebroken (before ++ (body.toList ++ after))
      (start ++ (opening ++ "\n") ++ (String.ofList (indent width body.toList) ++ "\n")
        ++ rest).toList := by
  refine ⟨(start ++ opening).toList ++ ['\n'], '\n' :: rest.toList, ?_⟩
  have lineFeed : "\n".toList = ['\n'] := rfl
  have rebroken := (rebroken_indent width body.toList rest.toList).append_left
    (start ++ opening).toList
  simpa only [String.toList_append, String.toList_ofList, lineFeed, List.append_assoc,
    List.cons_append, List.nil_append] using rebroken

/-- The file is always written, and its text is the body, broken anew, between other texts. -/
theorem exists_render_file
    (settings : SourceSettings)
    (namespaceName body : String)
    (rootType : TypeRef) :
    ∃ content,
      (Layout.file settings.language (namespaceName == "")).render
          [("root_type", rootType.qualified settings.language),
            ("imports", settings.imports),
            ("namespace", namespaceName),
            ("body", body)] =
        .ok content ∧
      ∃ before after, Rebroken (before ++ (body.toList ++ after)) content.toList := by
  have unchanged : ∀ start rest : String, ∃ before after,
      Rebroken (before ++ (body.toList ++ after)) (start ++ (body ++ rest)).toList := by
    intro start rest
    refine ⟨start.toList, rest.toList, ?_⟩
    rw [String.toList_append, String.toList_append]
    exact .refl _
  cases namespaceName == "" with
  | true => exact ⟨_, Layout.render_file_global settings.language _ _ _ _, unchanged _ "\n"⟩
  | false =>
      have named := Layout.namespaceRows_ne_nil namespaceName settings.language
      rcases exists_eq_append_lineFeed named with ⟨opening, opens⟩
      refine ⟨_, Layout.render_file_namespaced settings.language _ _ _ _, ?_⟩
      rw [opens]
      exact exists_rebroken_indented 4 _ opening body _

end SourceSettings

end ViewAccessors
