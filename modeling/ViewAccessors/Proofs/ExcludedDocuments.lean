import ViewAccessors.Proofs.ClassNames
import ViewAccessors.Proofs.NamedElements
import ViewAccessors.Proofs.StandardFilters

/-!
# Documents that do not count

A document that is left out by its path, or by the class of its view, leaves
no trace in a run: the run is the same without the document, even if its text
or the names in it are faulty.  No other document can be taken out of every
run unnoticed.
-/

namespace ViewAccessors

open Markup

/-- The root of a document names no class by a `Class` directive. -/
def Markup.Element.LacksClass (root : Element) : Prop :=
  ∀ entry, IsFirst ((Scope.empty.enter root.toTag).IsDirectiveNamed "Class")
      root.attributes entry →
    View.NamesNoClass entry.value.toList

theorem View.classOf?_eq_none_iff (root : Element) :
    classOf? root = none ↔ root.LacksClass := by
  simp only [classOf?, Option.bind_eq_none_iff, className?_eq_none_iff,
    Scope.directive?_eq_some_iff, Element.LacksClass]

theorem Document.hasViewEnding_eq_false_iff (document : Document) :
    document.hasViewEnding = false ↔
      ∀ ending ∈ viewEndings, ¬ ending.toList <:+ document.slashedPath.toList := by
  simp [hasViewEnding, List.any_eq_false]

/-- A document is neither faulty nor a view in a known namespace. -/
theorem Document.isFaultyOrViewIn_eq_false_iff
    (isKnown : String → Bool)
    (document : Document) :
    document.isFaultyOrViewIn isKnown = false ↔
      ∃ root, parse document.text = .ok root ∧
        ∀ namespaceName className, View.classOf? root = some (namespaceName, className) →
          isKnown namespaceName = false := by
  rw [isFaultyOrViewIn]
  cases parse document.text with
  | error error => simp
  | ok root =>
      simp only [Except.ok.injEq, exists_eq_left']
      cases View.classOf? root with
      | none => simp
      | some found => simp [Prod.ext_iff]

namespace Pipeline

/-- A document does not count in runs with the given filters. -/
inductive Excludes
    (pipeline : Pipeline)
    (document : Document) :
    Prop where
  | ending
      (other : ∀ ending ∈ viewEndings, ¬ ending.toList <:+ document.slashedPath.toList)
  | path
      (refused : pipeline.pathFilter.matchesText document.slashedPath = false)
  | noClass
      {root : Element}
      (parsed : parse document.text = .ok root)
      (lacks : root.LacksClass)
  | namespaceName
      {root : Element}
      {namespaceName className : String}
      (parsed : parse document.text = .ok root)
      (names : View.classOf? root = some (namespaceName, className))
      (refused : pipeline.namespaceFilter.matchesText namespaceName = false)

variable (pipeline : Pipeline) (document : Document)

/-- The documents that do not count are those on which a run has nothing to report. -/
theorem excludes_iff :
    pipeline.Excludes document ↔
      pipeline.accepts document = false ∨ pipeline.report? document = none := by
  have unreported : pipeline.report? document = none ↔
      document.isFaultyOrViewIn pipeline.namespaceFilter.matchesText = false := by
    rw [← isSome_report?, Option.isSome_eq_false_iff, Option.isNone_iff_eq_none]
  rw [unreported, accepts, Bool.and_eq_false_iff, Document.hasViewEnding_eq_false_iff,
    Document.isFaultyOrViewIn_eq_false_iff]
  constructor
  · rintro (other | refused | ⟨parsed, lacks⟩ | ⟨parsed, names, refused⟩)
    · exact .inl (.inl other)
    · exact .inl (.inr refused)
    · refine .inr ⟨_, parsed, fun namespaceName className names => ?_⟩
      rw [(View.classOf?_eq_none_iff _).mpr lacks] at names
      cases names
    · refine .inr ⟨_, parsed, fun other className again => ?_⟩
      rw [names] at again
      cases again
      exact refused
  · rintro ((other | refused) | ⟨root, parsed, unknown⟩)
    · exact .ending other
    · exact .path refused
    · cases names : View.classOf? root with
      | none => exact .noClass parsed ((View.classOf?_eq_none_iff root).mp names)
      | some found => exact .namespaceName parsed names (unknown _ _ names)

/-- What one document contributes to the reports of a run. -/
theorem generateEach_singleton :
    pipeline.generateEach [document] =
      if pipeline.accepts document then (pipeline.report? document).toList else [] := by
  cases accepted : pipeline.accepts document with
  | false => rw [generateEach_cons_of_not_accepted accepted]; rfl
  | true => rw [generateEach_cons_of_accepted accepted]; exact List.append_nil _

theorem generateEach_singleton_eq_nil_iff :
    pipeline.generateEach [document] = [] ↔ pipeline.Excludes document := by
  rw [generateEach_singleton, excludes_iff]
  cases pipeline.accepts document <;> simp

/--
The documents that do not count are those that leave no trace, wherever they
stand in a batch: with and without such a document a run generates the same
files or fails with the same error, and reports the same.
-/
theorem excludes_iff_traceless :
    pipeline.Excludes document ↔
      ∀ before after,
        pipeline.generate (before ++ [document] ++ after) =
            pipeline.generate (before ++ after) ∧
          pipeline.generateEach (before ++ [document] ++ after) =
            pipeline.generateEach (before ++ after) := by
  rw [← generateEach_singleton_eq_nil_iff]
  constructor
  · intro untouched before after
    have sameReports : pipeline.generateEach (before ++ [document] ++ after) =
        pipeline.generateEach (before ++ after) := by
      simp only [generateEach_append, untouched, List.append_nil]
    refine ⟨?_, sameReports⟩
    rw [generate_eq_collected, generate_eq_collected, sameReports]
  · intro traceless
    exact (traceless [] []).2

end Pipeline

end ViewAccessors
