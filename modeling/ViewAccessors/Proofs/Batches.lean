import Mathlib.Data.List.Forall2
import ViewAccessors.Generation
import ViewAccessors.Proofs.Outcomes

/-!
# Batches of documents

`generate` stops at the first error of a batch and `generateEach` reports on
every document.  Both are described here by what one document contributes to
a batch, from which it follows that they agree on every batch.
-/

namespace ViewAccessors.Pipeline

/-- `entry` is what a run reports on a document that counts. -/
inductive Reports
    (pipeline : Pipeline)
    (document : Document) :
    String × Except GenerationError GeneratedFile → Prop where
  | file
      {file : GeneratedFile}
      (accepted : pipeline.accepts document = true)
      (processed : pipeline.process document = .ok (some file)) :
      Reports pipeline document (document.path, .ok file)
  | failure
      {error : GenerationError}
      (accepted : pipeline.accepts document = true)
      (processed : pipeline.process document = .error error) :
      Reports pipeline document (document.path, .error error)

/-- A pipeline keeps the options that it is made from. -/
theorem options_of_ofOptions
    {options : Options}
    {pipeline : Pipeline}
    (configured : ofOptions options = .ok pipeline) :
    pipeline.options = options := by
  rcases bind_eq_ok_iff.mp configured with ⟨pathFilter, -, configured⟩
  rcases bind_eq_ok_iff.mp configured with ⟨namespaceFilter, -, rest⟩
  cases rest
  rfl

/-! ## One more document -/

section

variable {pipeline : Pipeline} {document : Document}

/-- A document that is not accepted contributes nothing. -/
theorem generateEach_cons_of_not_accepted
    (refused : pipeline.accepts document = false)
    (others : List Document) :
    pipeline.generateEach (document :: others) = pipeline.generateEach others := by
  rw [generateEach, List.filter_cons_of_neg (by simp [refused])]
  rfl

theorem generate_cons_of_not_accepted
    (refused : pipeline.accepts document = false)
    (others : List Document) :
    pipeline.generate (document :: others) = pipeline.generate others := by
  rw [generate, List.filter_cons_of_neg (by simp [refused])]
  rfl

/-- An accepted document contributes its report, if there is one. -/
theorem generateEach_cons_of_accepted
    (accepted : pipeline.accepts document = true)
    (others : List Document) :
    pipeline.generateEach (document :: others) =
      (pipeline.report? document).toList ++ pipeline.generateEach others := by
  rw [generateEach, List.filter_cons_of_pos accepted, List.filterMap_cons]
  cases pipeline.report? document <;> rfl

/-- An accepted document contributes its file, if there is one, or its error. -/
theorem generate_cons_of_accepted
    (accepted : pipeline.accepts document = true)
    (others : List Document) :
    pipeline.generate (document :: others) =
      (pipeline.process document).bind fun file =>
        (pipeline.generate others).map fun files => file.toList ++ files := by
  rw [generate, generate, List.filter_cons_of_pos accepted, List.mapM_cons]
  cases pipeline.process document with
  | error error => rfl
  | ok file =>
      show Except.map _ (Except.bind ((others.filter pipeline.accepts).mapM
        pipeline.process) _) = Except.map _ (Except.map _ ((others.filter
          pipeline.accepts).mapM pipeline.process))
      cases (others.filter pipeline.accepts).mapM pipeline.process with
      | error error => rfl
      | ok files => cases file <;> rfl

/-- What is reported on a document comes from the document. -/
theorem reports_of_report?
    (accepted : pipeline.accepts document = true)
    {entry : String × Except GenerationError GeneratedFile}
    (reported : pipeline.report? document = some entry) :
    pipeline.Reports document entry := by
  rw [report?] at reported
  split at reported
  · cases reported
  · rename_i file processed
    cases reported
    exact .file accepted processed
  · rename_i error processed
    cases reported
    exact .failure accepted processed

end

/-! ## Whole batches -/

/-- The files of a list of reports, or the first error among them. -/
def collected :
    List (String × Except GenerationError GeneratedFile) →
    Except GenerationError (List GeneratedFile)
  | [] => .ok []
  | (_, .error error) :: _ => .error error
  | (_, .ok file) :: entries => (collected entries).map (file :: ·)

/-- A run collects the reports on its documents. -/
theorem generate_eq_collected
    (pipeline : Pipeline)
    (documents : List Document) :
    pipeline.generate documents = collected (pipeline.generateEach documents) := by
  induction documents with
  | nil => rfl
  | cons document others hypothesis =>
      cases accepted : pipeline.accepts document with
      | false =>
          rw [generate_cons_of_not_accepted accepted, generateEach_cons_of_not_accepted accepted,
            hypothesis]
      | true =>
          rw [generate_cons_of_accepted accepted, generateEach_cons_of_accepted accepted,
            hypothesis, report?]
          cases pipeline.process document with
          | error error => rfl
          | ok result =>
              cases result with
              | none =>
                  show (collected (pipeline.generateEach others)).map (fun files => files) =
                    collected (pipeline.generateEach others)
                  cases collected (pipeline.generateEach others) with
                  | error error => rfl
                  | ok files => rfl
              | some file => rfl

theorem collected_eq_ok_iff
    (entries : List (String × Except GenerationError GeneratedFile))
    (files : List GeneratedFile) :
    collected entries = .ok files ↔ entries.map Prod.snd = files.map Except.ok := by
  induction entries generalizing files with
  | nil => cases files <;> simp [collected]
  | cons entry others hypothesis =>
      rcases entry with ⟨path, result⟩
      cases result with
      | error error => cases files <;> simp [collected]
      | ok file =>
          rw [collected]
          cases rest : collected others with
          | error error =>
              cases files with
              | nil => simp [Except.map]
              | cons first files => simp [Except.map, ← hypothesis, rest]
          | ok later =>
              cases files with
              | nil => simp [Except.map]
              | cons first files => simp [Except.map, ← hypothesis, rest]

theorem collected_eq_error_iff
    (entries : List (String × Except GenerationError GeneratedFile))
    (error : GenerationError) :
    collected entries = .error error ↔
      ∃ before path after, entries = before ++ (path, .error error) :: after ∧
        ∀ entry ∈ before, ∃ file, entry.2 = .ok file := by
  induction entries with
  | nil => simp [collected]
  | cons entry others hypothesis =>
      rcases entry with ⟨path, result⟩
      cases result with
      | error first =>
          constructor
          · intro failed
            cases failed
            exact ⟨[], path, others, rfl, by simp⟩
          · rintro ⟨before, place, after, split, files⟩
            cases before with
            | nil =>
                cases split
                rfl
            | cons entry before =>
                rcases files entry List.mem_cons_self with ⟨file, isFile⟩
                cases split
                cases isFile
      | ok file =>
          have passed : collected ((path, .ok file) :: others) = .error error ↔
              collected others = .error error := by
            rw [collected]
            cases collected others <;> simp [Except.map]
          rw [passed, hypothesis]
          constructor
          · rintro ⟨before, place, after, rfl, files⟩
            refine ⟨(path, .ok file) :: before, place, after, rfl, ?_⟩
            rintro entry (_ | ⟨_, member⟩)
            · exact ⟨file, rfl⟩
            · exact files entry member
          · rintro ⟨before, place, after, split, files⟩
            cases before with
            | nil => cases split
            | cons entry before =>
                cases split
                exact ⟨before, place, after, rfl,
                  fun entry member => files entry (List.mem_cons_of_mem _ member)⟩

theorem generateEach_append
    (pipeline : Pipeline)
    (first second : List Document) :
    pipeline.generateEach (first ++ second) =
      pipeline.generateEach first ++ pipeline.generateEach second := by
  simp only [generateEach, List.filter_append, List.filterMap_append]

/-- The reports come from a part of the documents, in the order of the documents. -/
theorem exists_sublist_reports
    (pipeline : Pipeline)
    (documents : List Document) :
    ∃ reported, reported.Sublist documents ∧
      List.Forall₂ pipeline.Reports reported (pipeline.generateEach documents) := by
  induction documents with
  | nil => exact ⟨[], .slnil, .nil⟩
  | cons document others hypothesis =>
      rcases hypothesis with ⟨reported, part, reports⟩
      cases accepted : pipeline.accepts document with
      | false =>
          rw [generateEach_cons_of_not_accepted accepted]
          exact ⟨reported, part.cons document, reports⟩
      | true =>
          rw [generateEach_cons_of_accepted accepted]
          cases found : pipeline.report? document with
          | none => exact ⟨reported, part.cons document, reports⟩
          | some entry =>
              exact ⟨document :: reported, part.cons_cons document,
                .cons (reports_of_report? accepted found) reports⟩

/-- The files of a run are those of a part of the documents, in the order of the documents. -/
theorem exists_sublist_of_generate_eq_ok
    {pipeline : Pipeline}
    {documents : List Document}
    {files : List GeneratedFile}
    (generated : pipeline.generate documents = .ok files) :
    ∃ views, views.Sublist documents ∧
      List.Forall₂ (fun document file => pipeline.process document = .ok (some file))
        views files := by
  rw [generate_eq_collected, collected_eq_ok_iff] at generated
  rcases pipeline.exists_sublist_reports documents with ⟨views, part, reports⟩
  refine ⟨views, part, ?_⟩
  have results : List.Forall₂
      (fun document result => ∃ path, pipeline.Reports document (path, result))
      views (files.map Except.ok) := by
    rw [← generated, List.forall₂_map_right_iff]
    exact reports.imp fun document entry reported => ⟨entry.1, reported⟩
  rw [List.forall₂_map_right_iff] at results
  refine results.imp ?_
  rintro document file ⟨path, reported⟩
  cases reported with
  | file accepted processed => exact processed

/--
The two ways to run a batch agree.  A run has files exactly when every report
is a file, and then the files are those of the reports in the same order;
otherwise its error is the first one that is reported.  The reports come in
the order of the documents, and those on a batch in two parts are those on
the first part followed by those on the second.
-/
theorem generate_agrees_with_generateEach (pipeline : Pipeline) :
    (∀ documents files, pipeline.generate documents = .ok files ↔
      (pipeline.generateEach documents).map Prod.snd = files.map Except.ok) ∧
    (∀ documents error, pipeline.generate documents = .error error ↔
      ∃ before path after,
        pipeline.generateEach documents = before ++ (path, .error error) :: after ∧
          ∀ entry ∈ before, ∃ file, entry.2 = .ok file) ∧
    (∀ documents, ∃ reported, reported.Sublist documents ∧
      List.Forall₂ pipeline.Reports reported (pipeline.generateEach documents)) ∧
    ∀ first second, pipeline.generateEach (first ++ second) =
      pipeline.generateEach first ++ pipeline.generateEach second := by
  refine ⟨?_, ?_, pipeline.exists_sublist_reports, pipeline.generateEach_append⟩
  · intro documents files
    rw [pipeline.generate_eq_collected, collected_eq_ok_iff]
  · intro documents error
    rw [pipeline.generate_eq_collected, collected_eq_error_iff]

end ViewAccessors.Pipeline
