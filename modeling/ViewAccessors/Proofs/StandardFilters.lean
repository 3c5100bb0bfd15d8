import ViewAccessors.Proofs.Batches
import ViewAccessors.Proofs.Globs.Matching

/-!
# What the standard filters let through

By the standard options, the path of a document and the namespace of its view
have to match two stars.  Two stars match the texts of one line, so a run
reports on every document with an ending for views that is faulty markup or a
view, except where there is a line feed in the path or in the namespace.
-/

namespace ViewAccessors

namespace Text

/-- Whether there is no line feed in a text. -/
def isOneLine (text : String) : Bool :=
  !text.toList.contains '\n'

end Text

open Text

namespace Glob

theorem runThen_isEmpty
    (member : Char → Bool)
    (text : List Char) :
    runThen member List.isEmpty text = text.all member := by
  induction text with
  | nil => rfl
  | cons character text hypothesis =>
      rw [runThen_cons, hypothesis, List.isEmpty_cons, Bool.false_or, List.all_cons]

/-- Two stars. -/
def twoStars : Glob :=
  ⟨"**", [.acrossSegments]⟩

/-- Two stars match a text exactly if it is one line. -/
theorem matchesText_twoStars (text : String) :
    twoStars.matchesText text = isOneLine text := by
  rw [matchesText, twoStars, matchItems_cons, matchItems_nil, Item.acrossSegments, Item.before,
    runThen_isEmpty, CharacterClass.accepts_allBut_eq, isOneLine, Bool.eq_iff_iff,
    List.all_eq_true, Bool.not_eq_true', List.contains_eq_mem, decide_eq_false_iff_not]
  constructor
  · intro accepted member
    exact of_decide_eq_true (accepted '\n' member) rfl
  · intro absent character member
    exact decide_eq_true fun same => absent (same ▸ member)

theorem matchesText_group_twoStars (text : String) :
    (Group.mk [twoStars]).matchesText text = isOneLine text := by
  rw [Group.matchesText, List.any_cons, List.any_nil, Bool.or_false, matchesText_twoStars]

end Glob

/--
Whether the text of a document is faulty markup, or has a root that names a
class in a namespace of the given kind.
-/
def Document.isFaultyOrViewIn
    (isKnown : String → Bool)
    (document : Document) :
    Bool :=
  match Markup.parse document.text with
  | .error _ => true
  | .ok root => (View.classOf? root).any fun (namespaceName, _) => isKnown namespaceName

namespace Pipeline

/-- The pipeline of the standard options. -/
def standard : Pipeline :=
  ⟨.standard, ⟨[Glob.twoStars]⟩, ⟨[Glob.twoStars]⟩⟩

theorem ofOptions_standard :
    ofOptions .standard = .ok standard := by
  have read : Glob.Group.ofPatterns ["**"] = .ok ⟨[Glob.twoStars]⟩ := by decide +kernel
  simp only [ofOptions, Options.standard, read]
  rfl

section

variable (pipeline : Pipeline)

/-- A run reports on the documents that have a report, each under its path. -/
theorem map_fst_generateEach (documents : List Document) :
    (pipeline.generateEach documents).map Prod.fst =
      (documents.filter fun document =>
        pipeline.accepts document && (pipeline.report? document).isSome).map Document.path := by
  induction documents with
  | nil => rfl
  | cons document others hypothesis =>
      cases accepted : pipeline.accepts document with
      | false =>
          rw [generateEach_cons_of_not_accepted accepted, hypothesis,
            List.filter_cons_of_neg (by simp [accepted])]
      | true =>
          rw [generateEach_cons_of_accepted accepted, List.map_append, hypothesis]
          cases reported : pipeline.report? document with
          | none =>
              rw [List.filter_cons_of_neg (by simp [reported])]
              rfl
          | some entry =>
              have samePath : entry.1 = document.path := by
                cases reports_of_report? accepted reported <;> rfl
              rw [List.filter_cons_of_pos (by simp [accepted, reported]), List.map_cons,
                ← samePath]
              rfl

/-- What the work on a document comes to, once its text has been read. -/
theorem process_eq (document : Document) :
    pipeline.process document =
      match Markup.parse document.text with
      | .error error => .error (.document (.markup error))
      | .ok root =>
        match View.ofDocument? pipeline.options.namespaces root with
        | none => .ok none
        | some view =>
          if pipeline.namespaceFilter.matchesText view.namespaceName then
            (pipeline.fileFor view).map some
          else
            .ok none := by
  rw [process, View.ofText?]
  cases Markup.parse document.text <;> rfl

/-- There is a report on faulty markup and on views in namespaces that count. -/
theorem isSome_report? (document : Document) :
    (pipeline.report? document).isSome =
      document.isFaultyOrViewIn pipeline.namespaceFilter.matchesText := by
  rw [report?, process_eq, Document.isFaultyOrViewIn]
  cases Markup.parse document.text with
  | error error => rfl
  | ok root =>
      simp only [View.ofDocument?]
      cases View.classOf? root with
      | none => rfl
      | some found =>
          rcases found with ⟨namespaceName, className⟩
          simp only [Option.map_some, Option.any_some]
          cases pipeline.namespaceFilter.matchesText namespaceName with
          | false => rfl
          | true =>
              rw [if_pos rfl]
              cases pipeline.fileFor _ <;> rfl

end

/--
The standard filters: a run reports exactly on the documents with an ending
for views that are faulty markup or views, as long as there is no line feed in
their paths and namespaces.
-/
theorem map_fst_generateEach_standard (documents : List Document) :
    (ofOptions .standard).map (fun pipeline =>
        (pipeline.generateEach documents).map Prod.fst) =
      .ok ((documents.filter fun document =>
        document.hasViewEnding && isOneLine document.slashedPath &&
          document.isFaultyOrViewIn isOneLine).map Document.path) := by
  have matchesLines : (Glob.Group.mk [Glob.twoStars]).matchesText = isOneLine :=
    funext Glob.matchesText_group_twoStars
  have sameTest : (fun document =>
      standard.accepts document && (standard.report? document).isSome) = fun document =>
        document.hasViewEnding && isOneLine document.slashedPath &&
          document.isFaultyOrViewIn isOneLine := by
    funext document
    rw [isSome_report?, accepts, standard, matchesLines]
  rw [ofOptions_standard, Except.map, map_fst_generateEach, sameTest]

/--
Two stars do not match everything.  There is no report on a faulty document
with a line feed in its path, nor on a view with one in its namespace.
-/
theorem generateEach_standard_lineFeed :
    let faulty : Document := ⟨"a\nb.xaml", "<Window"⟩
    let view : Document := ⟨"a.xaml",
      "<Window xmlns:x=\"http://schemas.microsoft.com/winfx/2006/xaml\" "
        ++ "x:Class=\"A&#10;B.C\"/>"⟩
    ∃ pipeline, ofOptions .standard = .ok pipeline ∧
      (faulty.hasViewEnding && faulty.isFaultyOrViewIn fun _ => true) = true ∧
        (view.hasViewEnding && view.isFaultyOrViewIn fun _ => true) = true ∧
          pipeline.generateEach [faulty, view] = [] := by
  exact ⟨standard, ofOptions_standard, by decide +kernel, by decide +kernel, by decide +kernel⟩

end Pipeline

end ViewAccessors
