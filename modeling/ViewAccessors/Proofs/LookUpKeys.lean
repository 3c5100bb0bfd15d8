import ViewAccessors.Proofs.Batches
import ViewAccessors.Proofs.Sources.LookUps

/-!
# The keys of look-ups

A generated source looks the named elements of its document up one after the
other.  The key of each look-up is a string literal with the name put between
quotes as it is, so the literal denotes the name as long as no character of
the name is special inside a literal.
-/

namespace ViewAccessors

open Text

namespace Accessor

variable
    {language : Language}
    {accessor : Accessor}

theorem toList_lookUp
    (accessor : Accessor)
    (language : Language) :
    (accessor.lookUp language).toList =
      (accessor.call language).toList ++
        (Language.literalOf accessor.name.toList ++ [')']) := by
  have quote : "\"".toList = ['"'] := rfl
  have parenthesis : ")".toList = [')'] := rfl
  rw [lookUp, Language.literalOf]
  simp only [String.toList_append, quote, parenthesis, List.cons_append, List.nil_append,
    List.append_assoc]

/-- A look-up neither begins nor ends with a blank. -/
theorem IsLookUp.tight
    {part : List Char}
    (isLookUp : IsLookUp language accessor part) :
    part ≠ [] ∧ Tight part := by
  have begins : part.head? = some 'F' := by
    rw [isLookUp, lookUp, call, String.toList_append, String.toList_append,
      String.toList_append]
    cases language <;> rfl
  have ends : part.getLast? = some ')' := by
    rw [isLookUp, toList_lookUp, ← List.append_assoc, List.getLast?_append]
    rfl
  refine ⟨?_, tight_of_ends (by decide) (by decide) begins ends⟩
  rintro rfl
  cases begins

/--
A part of a source calls `Find` with the type of an accessor, and the key
denotes the name of the accessor exactly if no character of the name is
special.  The texts are as they were written but for blanks around line feeds.
-/
def LooksUp
    (language : Language)
    (accessor : Accessor)
    (part : List Char) :
    Prop :=
  ∃ call key, part = call ++ (key ++ [')']) ∧
    Rebroken (accessor.call language).toList call ∧
    Rebroken (Language.literalOf accessor.name.toList) key ∧
    ∀ rest, language.literal? (key ++ ')' :: rest) =
        some (units accessor.name.toList, ')' :: rest) ↔
      ∀ character ∈ accessor.name.toList, language.isSpecial character = false

theorem looksUp_of_rebroken
    {part changed : List Char}
    (isLookUp : IsLookUp language accessor part)
    (rebroken : Rebroken part changed) :
    LooksUp language accessor changed := by
  have beforeKey : Stops isBlank (Language.literalOf accessor.name.toList ++ [')']) :=
    stops_cons (by decide) _
  have behindKey : Stops isBlank [')'] :=
    stops_cons (by decide) _
  rw [isLookUp, toList_lookUp] at rebroken
  rcases rebroken.exists_append beforeKey with ⟨call, _, rfl, sameCall, later⟩
  rcases later.exists_append behindKey with ⟨key, _, rfl, sameKey, last⟩
  rcases last.exists_cons (by decide) with ⟨_, rfl, none⟩
  have empty := none.eq_of_lineFeed_notMem List.not_mem_nil
  subst empty
  refine ⟨call, key, rfl, sameCall, sameKey, fun rest => ?_⟩
  have stops : Stops language.isQuote (')' :: rest) :=
    stops_cons (by cases language <;> rfl) rest
  by_cases breaks : '\n' ∈ accessor.name.toList
  · have keyBreaks : '\n' ∈ key :=
      sameKey.lineFeed_mem (by simp [Language.literalOf, breaks])
    constructor
    · intro read
      exact absurd keyBreaks (Language.lineFeed_notMem_of_literal? read)
    · intro plain
      have notSpecial := plain _ breaks
      have special : language.isSpecial '\n' = true := by cases language <;> rfl
      rw [special] at notSpecial
      cases notSpecial
  · have unchanged : key = Language.literalOf accessor.name.toList :=
      sameKey.eq_of_lineFeed_notMem (by simp [Language.literalOf, breaks])
    rw [unchanged, Language.literal?_literalOf_iff stops]

end Accessor

namespace SourceSettings

/-- A source is always written, and looks the elements up in their order. -/
theorem exists_code
    (settings : SourceSettings)
    (namespaceName className : String)
    (rootType : TypeRef)
    (accessors : List Accessor) :
    ∃ content, settings.code namespaceName className rootType accessors = .ok content ∧
      InOrder (Accessor.LooksUp settings.language) accessors content.toList := by
  rcases settings.exists_classBody className accessors with ⟨body, written, inOrder⟩
  rcases settings.exists_render_file namespaceName body rootType with
    ⟨content, rendered, before, after, rebroken⟩
  refine ⟨content, ?_, ?_⟩
  · rw [code_eq, Generator.code_complete, written]
    exact rendered
  · have whole := (inOrder.append_right after).append_left before
    have tight : ∀ accessor part, Accessor.IsLookUp settings.language accessor part →
        part ≠ [] ∧ Tight part :=
      fun accessor part isLookUp => Accessor.IsLookUp.tight isLookUp
    have changes : ∀ accessor part changed, Accessor.IsLookUp settings.language accessor part →
        Rebroken part changed → Accessor.LooksUp settings.language accessor changed :=
      fun accessor part changed isLookUp => Accessor.looksUp_of_rebroken isLookUp
    exact InOrder.rebroken tight changes whole rebroken

end SourceSettings

/-- The accessors for the view that a text is, and the source for them. -/
theorem Pipeline.exists_of_process_eq_ok
    {pipeline : Pipeline}
    {document : Document}
    {file : GeneratedFile}
    (processed : pipeline.process document = .ok (some file)) :
    ∃ view accessors,
      View.ofText? pipeline.options.namespaces document.text = .ok (some view) ∧
        pipeline.options.accessorSettings.accessors view.document = .ok accessors ∧
          pipeline.options.sourceSettings.code view.namespaceName view.className view.rootType
            accessors = .ok file.content := by
  rcases bind_eq_ok_iff.mp processed with ⟨found, read, rest⟩
  cases found with
  | none => cases rest
  | some view =>
      simp only at rest
      split at rest
      · rcases map_eq_ok_iff.mp rest with ⟨_, generated, same⟩
        cases same
        rcases bind_eq_ok_iff.mp generated with ⟨accessors, resolved, generated⟩
        rcases bind_eq_ok_iff.mp generated with ⟨content, written, named⟩
        cases named
        exact ⟨view, accessors, mapError_eq_ok_iff.mp read, mapError_eq_ok_iff.mp resolved,
          mapError_eq_ok_iff.mp written⟩
      · cases rest

/--
A file is made for the view that a document is, and looks the named elements
of the view up in their order.
-/
def Document.LooksUpNames
    (options : Options)
    (document : Document)
    (file : GeneratedFile) :
    Prop :=
  ∃ view accessors,
    View.ofText? options.namespaces document.text = .ok (some view) ∧
      options.accessorSettings.accessors view.document = .ok accessors ∧
        InOrder (Accessor.LooksUp options.language) accessors file.content.toList

/--
The files of a run are made for a part of the documents.  Each of them looks
the named elements of its document up in their order, and the key of a look-up
denotes the name exactly if no character of the name is special in a literal
of the language.
-/
theorem generate_looks_up_names
    {options : Options}
    {documents : List Document}
    {files : List GeneratedFile}
    (generated : generate options documents = .ok files) :
    ∃ views, views.Sublist documents ∧
      List.Forall₂ (Document.LooksUpNames options) views files := by
  rcases bind_eq_ok_iff.mp generated with ⟨pipeline, configured, generated⟩
  have sameOptions := Pipeline.options_of_ofOptions (mapError_eq_ok_iff.mp configured)
  rcases Pipeline.exists_sublist_of_generate_eq_ok generated with ⟨views, part, processed⟩
  refine ⟨views, part, processed.imp fun document file fileFor => ?_⟩
  rcases Pipeline.exists_of_process_eq_ok fileFor with ⟨view, accessors, isView, resolved, written⟩
  rw [sameOptions] at isView resolved written
  rcases options.sourceSettings.exists_code view.namespaceName view.className view.rootType
    accessors with ⟨content, again, inOrder⟩
  rw [written, Except.ok.injEq] at again
  subst again
  exact ⟨view, accessors, isView, resolved, inOrder⟩

/-- A document with a named element has a file with a look-up. -/
theorem generate_looks_up_names_send :
    let documents : List Document := [⟨"Main.xaml",
      "<A xmlns:x=\"http://schemas.microsoft.com/winfx/2006/xaml\" x:Class=\"App.Main\">"
        ++ "<B xmlns=\"using:C\" Name=\"send\"/></A>"⟩]
    ∃ files, generate .standard documents = .ok files ∧ files.length = 1 ∧
      ∃ views, views.Sublist documents ∧
        List.Forall₂ (Document.LooksUpNames .standard) views files := by
  intro documents
  have counted : (generate .standard documents).map List.length = .ok 1 := by
    -- with the generator of the settings at hand, no template text is read
    delta generate Pipeline.generate Pipeline.process Pipeline.fileFor
    simp only [SourceSettings.code_eq]
    decide +kernel
  rcases map_eq_ok_iff.mp counted with ⟨files, generated, single⟩
  exact ⟨files, generated, single, generate_looks_up_names generated⟩

/--
The key for a name with a backslash need not denote the name.  Here it denotes
another name, although the source is a correct one.
-/
theorem generate_looks_up_other_name :
    let document : Document := ⟨"Main.xaml",
      "<A xmlns:x=\"http://schemas.microsoft.com/winfx/2006/xaml\" x:Class=\"Main\">"
        ++ "<B xmlns=\"using:C\" Name=\"n\\u0061me\"/></A>"⟩
    let accessor : Accessor := ⟨"global::C.B", "n\\u0061me", .ownClass⟩
    let before :=
      "// <auto-generated />\n// Root: A\n\nusing Avalonia.Controls;\n\n"
        ++ "partial class Main\n\x7b\n"
        ++ "    private global::C.B n\\u0061me => this.FindNameScope()?."
    let after := "\"n\\u0061me\");\n\x7d\n"
    (View.ofText? Options.standard.namespaces document.text).map
          (Option.map fun view => Options.standard.accessorSettings.accessors view.document) =
        .ok (some (.ok [accessor])) ∧
      generate .standard [document] =
        .ok [⟨"Main.g.cs", before ++ (accessor.call .csharp ++ after)⟩] ∧
      Language.csharp.literal? after.toList =
        some (units "name".toList, ");\n\x7d\n".toList) ∧
      units "name".toList ≠ units accessor.name.toList := by
  intro document accessor before after
  refine ⟨by decide +kernel, ?_, by decide +kernel, by decide +kernel⟩
  delta generate Pipeline.generate Pipeline.process Pipeline.fileFor
  simp only [SourceSettings.code_eq]
  decide +kernel

end ViewAccessors
