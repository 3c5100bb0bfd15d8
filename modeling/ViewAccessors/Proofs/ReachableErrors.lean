import ViewAccessors.Proofs.LookUpKeys

/-!
# The errors that a run can report

Options are refused for their globs and for nothing else: templates are always
registered.  Sources are always written, so a run reports errors in documents
only, either in the markup or in the types and names of a view.
-/

namespace ViewAccessors

namespace Pipeline

/-! ## Options -/

/-- Options are refused for the first of their patterns that is none. -/
theorem ofOptions_eq_error_iff
    (options : Options)
    (error : ConfigurationError) :
    ofOptions options = .error error ↔
      ∃ invalid, (options.pathPatterns ++ options.namespacePatterns).mapM Glob.ofText =
        .error invalid ∧ .invalidPattern invalid = error := by
  rw [ofOptions, List.mapM_append, Glob.Group.ofPatterns, Glob.Group.ofPatterns]
  cases options.pathPatterns.mapM Glob.ofText with
  | error invalid =>
      constructor
      · intro refused
        cases refused
        exact ⟨invalid, rfl, rfl⟩
      · rintro ⟨_, refused, rfl⟩
        cases refused
        rfl
  | ok paths =>
      cases options.namespacePatterns.mapM Glob.ofText with
      | error invalid =>
          constructor
          · intro refused
            cases refused
            exact ⟨invalid, rfl, rfl⟩
          · rintro ⟨_, refused, rfl⟩
            cases refused
            rfl
      | ok namespaces => exact ⟨nofun, nofun⟩

/-- A run can be prepared unless its options are refused. -/
theorem prepare_eq_error_iff
    (options : Options)
    (error : GenerationError) :
    prepare options = .error error ↔
      ∃ cause, ofOptions options = .error cause ∧ .configuration cause = error := by
  rw [prepare, Generator.ofSettings_eq]
  exact mapError_bind_eq_error_iff fun pipeline => ⟨_, rfl⟩

/-! ## Documents -/

variable (pipeline : Pipeline)

/--
The work on a document fails: the text is no markup, or it is a view whose
namespace counts, and a type or a name of the view is at fault.
-/
inductive Faults (document : Document) : DocumentError → Prop where
  | markup
      {error : Markup.MarkupError}
      (unread : View.ofText? pipeline.options.namespaces document.text = .error error) :
      Faults document (.markup error)
  | resolution
      {error : ResolutionError}
      {view : View}
      (isView : View.ofText? pipeline.options.namespaces document.text = .ok (some view))
      (counts : pipeline.namespaceFilter.matchesText view.namespaceName = true)
      (unresolved :
        pipeline.options.accessorSettings.accessors view.document = .error error) :
      Faults document (.resolution error)

/-- A view has a file unless it has no accessors: the source is always written. -/
theorem fileFor_eq_error_iff
    (view : View)
    (error : GenerationError) :
    pipeline.fileFor view = .error error ↔
      ∃ cause, pipeline.options.accessorSettings.accessors view.document = .error cause ∧
        .document (.resolution cause) = error := by
  apply mapError_bind_eq_error_iff
  intro accessors
  rcases pipeline.options.sourceSettings.exists_code view.namespaceName view.className
    view.rootType accessors with ⟨content, written, -⟩
  rw [written]
  exact ⟨_, rfl⟩

theorem process_eq_error_iff
    (document : Document)
    (error : GenerationError) :
    pipeline.process document = .error error ↔
      ∃ fault, pipeline.Faults document fault ∧ .document fault = error := by
  constructor
  · intro failed
    rcases bind_eq_error_iff.mp failed with failed | ⟨found, read, failed⟩
    · rcases mapError_eq_error_iff.mp failed with ⟨cause, unread, rfl⟩
      exact ⟨_, .markup unread, rfl⟩
    · cases found with
      | none => cases failed
      | some view =>
          simp only at failed
          split at failed
          · rename_i counts
            rcases (pipeline.fileFor_eq_error_iff view error).mp (map_eq_error_iff.mp failed) with
              ⟨cause, unresolved, rfl⟩
            exact ⟨_, .resolution (mapError_eq_ok_iff.mp read) counts unresolved, rfl⟩
          · cases failed
  · rintro ⟨fault, isFault, rfl⟩
    cases isFault with
    | markup unread =>
        exact bind_eq_error_iff.mpr (.inl (mapError_eq_error_iff.mpr ⟨_, unread, rfl⟩))
    | @resolution _ view isView counts unresolved =>
        refine bind_eq_error_iff.mpr (.inr ⟨some view, mapError_eq_ok_iff.mpr isView, ?_⟩)
        have failed := (pipeline.fileFor_eq_error_iff view _).mpr ⟨_, unresolved, rfl⟩
        simp only [if_pos counts]
        exact map_eq_error_iff.mpr failed

/-- A run fails at the first document at fault, with what is wrong with this document. -/
theorem generate_eq_error_iff
    (documents : List Document)
    (error : GenerationError) :
    pipeline.generate documents = .error error ↔
      ∃ before document after, documents.filter pipeline.accepts = before ++ document :: after ∧
        (∀ earlier ∈ before, ∀ fault, ¬ pipeline.Faults earlier fault) ∧
          ∃ fault, pipeline.Faults document fault ∧ .document fault = error := by
  have works : ∀ document, (∃ file, pipeline.process document = .ok file) ↔
      ∀ fault, ¬ pipeline.Faults document fault := by
    intro document
    constructor
    · rintro ⟨file, processed⟩ fault isFault
      have failed := (pipeline.process_eq_error_iff document _).mpr ⟨fault, isFault, rfl⟩
      rw [processed] at failed
      cases failed
    · intro faultless
      cases processed : pipeline.process document with
      | ok file => exact ⟨file, rfl⟩
      | error error =>
          rcases (pipeline.process_eq_error_iff document error).mp processed with
            ⟨fault, isFault, -⟩
          exact absurd isFault (faultless fault)
  rw [generate, map_eq_error_iff, mapM_eq_error_iff]
  simp only [works, process_eq_error_iff]

/-- The documents at fault are reported under their paths, with what is wrong with them. -/
theorem error_mem_generateEach_iff
    (documents : List Document)
    (path : String)
    (error : GenerationError) :
    (path, .error error) ∈ pipeline.generateEach documents ↔
      ∃ document ∈ documents, pipeline.accepts document = true ∧ document.path = path ∧
        ∃ fault, pipeline.Faults document fault ∧ .document fault = error := by
  have reported : ∀ document, pipeline.report? document = some (path, .error error) ↔
      document.path = path ∧ pipeline.process document = .error error := by
    intro document
    rw [report?]
    cases pipeline.process document with
    | error other => simp
    | ok found => cases found <;> simp
  rw [generateEach, List.mem_filterMap]
  simp only [List.mem_filter, reported, process_eq_error_iff, and_assoc]

/--
Nothing but a pattern keeps a run from being prepared: the patterns for paths
come first, then those for namespaces, and the first text that is no pattern
is the error.  Templates are registered for all settings, and a generator
writes every source that it is asked for.  So whatever a run reports, at once
or document by document, is what is wrong with a document.
-/
theorem reachable_errors :
    (∀ options error, prepare options = .error error ↔
      ∃ before pattern after invalid,
        options.pathPatterns ++ options.namespacePatterns = before ++ pattern :: after ∧
          (∀ earlier ∈ before, ∃ glob, Glob.ofText earlier = .ok glob) ∧
            Glob.ofText pattern = .error invalid ∧
              error = .configuration (.invalidPattern invalid)) ∧
    (∀ settings, ∃ generator, Generator.ofSettings settings = .ok generator ∧
      ∀ namespaceName className rootType accessors, ∃ content,
        generator.code namespaceName className rootType accessors = .ok content) ∧
    (∀ (pipeline : Pipeline) documents error, pipeline.generate documents = .error error ↔
      ∃ before document after, documents.filter pipeline.accepts = before ++ document :: after ∧
        (∀ earlier ∈ before, ∀ fault, ¬ pipeline.Faults earlier fault) ∧
          ∃ fault, pipeline.Faults document fault ∧ .document fault = error) ∧
    ∀ (pipeline : Pipeline) documents path error,
      (path, .error error) ∈ pipeline.generateEach documents ↔
        ∃ document ∈ documents, pipeline.accepts document = true ∧ document.path = path ∧
          ∃ fault, pipeline.Faults document fault ∧ .document fault = error := by
  refine ⟨?_, ?_, generate_eq_error_iff, error_mem_generateEach_iff⟩
  · intro options error
    simp only [prepare_eq_error_iff, ofOptions_eq_error_iff, mapM_eq_error_iff]
    constructor
    · rintro ⟨_, ⟨invalid, ⟨before, pattern, after, split, earlier, refused⟩, rfl⟩, rfl⟩
      exact ⟨before, pattern, after, invalid, split, earlier, refused, rfl⟩
    · rintro ⟨before, pattern, after, invalid, split, earlier, refused, rfl⟩
      exact ⟨_, ⟨invalid, ⟨before, pattern, after, split, earlier, refused⟩, rfl⟩, rfl⟩
  · intro settings
    refine ⟨.complete settings, Generator.ofSettings_eq settings, ?_⟩
    intro namespaceName className rootType accessors
    rcases settings.exists_code namespaceName className rootType accessors with
      ⟨content, written, -⟩
    exact ⟨content, settings.code_eq namespaceName className rootType accessors ▸ written⟩

end Pipeline

end ViewAccessors
