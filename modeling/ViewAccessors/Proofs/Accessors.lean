import Mathlib.Data.List.Forall2
import ViewAccessors.Proofs.NamedElements
import ViewAccessors.Proofs.Outcomes

/-!
# Which accessors a document gets

The walk through a document succeeds exactly when the declared names are
distinct and the type of every named element resolves, and its accessors are
then those of the named elements, one for each and in their order.
-/

namespace ViewAccessors

open Markup

namespace AccessorSettings

/-- `accessor` is the accessor that a named element gets. -/
structure Describes
    (settings : AccessorSettings)
    (element : NamedElement)
    (accessor : Accessor) :
    Prop where
  /-- It has the type of the element, written in the language. -/
  type : ∃ type,
    Resolver.elementType ⟨settings.namespaces, element.scope⟩ element.tag = .ok type ∧
      accessor.typeName = type.qualified settings.language
  name : accessor.name = element.name
  /-- It has the visibility that the element asks for, or else the standard one. -/
  visibility :
    element.scope.Requests element.tag accessor.visibility ∨
      accessor.visibility = settings.visibility ∧
        ∀ requested, ¬ element.scope.Requests element.tag requested

theorem accessor_eq_ok_iff
    (settings : AccessorSettings)
    (element : NamedElement)
    (accessor : Accessor) :
    settings.accessor element = .ok accessor ↔ settings.Describes element accessor := by
  rcases accessor with ⟨typeName, name, visibility⟩
  rw [AccessorSettings.accessor]
  constructor
  · intro succeeded
    cases resolved : Resolver.elementType ⟨settings.namespaces, element.scope⟩ element.tag with
    | error error =>
        rw [resolved] at succeeded
        cases succeeded
    | ok type =>
        rw [resolved] at succeeded
        cases succeeded
        exact ⟨⟨type, resolved, rfl⟩, rfl, (element.visibility_eq_iff _ _).mp rfl⟩
  · rintro ⟨⟨type, resolved, rfl⟩, rfl, requested⟩
    have asked : element.visibility settings.visibility = visibility :=
      (element.visibility_eq_iff _ _).mpr requested
    rw [resolved, ← asked]
    rfl

/-- The entry that a named element and its accessor make in the map of the walk. -/
def entry
    (element : NamedElement)
    (accessor : Accessor) :
    String × Accessor × Nat :=
  (element.name, accessor, element.tag.span.line)

/-- What recording a named element needs, and what it adds. -/
theorem record_eq_ok_iff
    (settings : AccessorSettings)
    (found next : OrderedMap (Accessor × Nat))
    (element : NamedElement) :
    settings.record found element = .ok next ↔
      found.get? element.name = none ∧
        ∃ accessor, settings.Describes element accessor ∧
          next.entries = found.entries ++ [entry element accessor] := by
  simp only [← accessor_eq_ok_iff]
  rw [record]
  cases absent : found.get? element.name with
  | some earlier => simp
  | none =>
      cases described : settings.accessor element with
      | error error => simp [Except.map]
      | ok accessor =>
          simp [Except.map, entry, ← OrderedMap.entries_insert_of_get?_eq_none absent,
            ← OrderedMap.ext_iff, eq_comm]

/-- Only the name of the recorded element is taken by recording it. -/
theorem get?_eq_none_of_entries
    {found next : OrderedMap (Accessor × Nat)}
    {element : NamedElement}
    {accessor : Accessor}
    (added : next.entries = found.entries ++ [entry element accessor])
    (name : String) :
    next.get? name = none ↔ found.get? name = none ∧ name ≠ element.name := by
  simp only [OrderedMap.get?_eq_none_iff, added, entry, List.map_append, List.mem_append,
    List.map_cons, List.map_nil, List.mem_singleton, not_or]

/--
Recording `elements` takes the map `found` to `last`: their names are new and
distinct, and each of them adds its accessor to the end of the map.
-/
structure Records
    (settings : AccessorSettings)
    (elements : List NamedElement)
    (found last : OrderedMap (Accessor × Nat)) :
    Prop where
  untaken : ∀ element ∈ elements, found.get? element.name = none
  distinct : (elements.map NamedElement.name).Nodup
  accessors : ∃ accessors, List.Forall₂ settings.Describes elements accessors ∧
    last.entries = found.entries ++ List.zipWith entry elements accessors

namespace Records

variable
    {settings : AccessorSettings}
    {element : NamedElement}
    {others : List NamedElement}
    {found last : OrderedMap (Accessor × Nat)}

theorem nil_iff :
    settings.Records [] found last ↔ found = last := by
  constructor
  · intro records
    rcases records.accessors with ⟨accessors, described, listed⟩
    cases described
    rw [List.zipWith_nil_left, List.append_nil] at listed
    exact (OrderedMap.ext listed).symm
  · rintro rfl
    exact ⟨fun _ member => absurd member List.not_mem_nil, .nil, [], .nil, by simp⟩

/-- The first element is recorded, and then the others. -/
theorem cons
    {next : OrderedMap (Accessor × Nat)}
    (recorded : settings.record found element = .ok next)
    (records : settings.Records others next last) :
    settings.Records (element :: others) found last := by
  rcases (settings.record_eq_ok_iff found next element).mp recorded with
    ⟨absent, accessor, describes, added⟩
  rcases records with ⟨untaken, distinct, accessors, describe, listed⟩
  have separate : ∀ other ∈ others,
      found.get? other.name = none ∧ other.name ≠ element.name := by
    intro other member
    exact (get?_eq_none_of_entries added _).mp (untaken other member)
  refine ⟨?_, ?_, accessor :: accessors, .cons describes describe, ?_⟩
  · intro other member
    cases member with
    | head => exact absent
    | tail _ later => exact (separate other later).1
  · rw [List.map_cons, List.nodup_cons]
    refine ⟨?_, distinct⟩
    intro repeated
    rcases List.mem_map.mp repeated with ⟨other, member, same⟩
    exact (separate other member).2 same
  · rw [listed, added, List.append_assoc]
    rfl

theorem exists_of_cons
    (records : settings.Records (element :: others) found last) :
    ∃ next, settings.record found element = .ok next ∧ settings.Records others next last := by
  rcases records with ⟨untaken, distinct, accessors, describe, listed⟩
  cases describe with
  | @cons _ accessor _ accessors describes describe =>
      have absent := untaken element List.mem_cons_self
      have added : (found.insert element.name
          (accessor, element.tag.span.line)).entries =
            found.entries ++ [entry element accessor] :=
        OrderedMap.entries_insert_of_get?_eq_none absent _
      have recorded := (settings.record_eq_ok_iff found _ element).mpr
        ⟨absent, accessor, describes, added⟩
      rw [List.map_cons, List.nodup_cons] at distinct
      refine ⟨_, recorded, ?_, distinct.2, accessors, describe, ?_⟩
      · intro other member
        apply (get?_eq_none_of_entries added _).mpr
        refine ⟨untaken other (List.mem_cons_of_mem _ member), ?_⟩
        intro same
        exact distinct.1 (same ▸ List.mem_map_of_mem member)
      · rw [listed, added, List.append_assoc]
        rfl

end Records

/--
Recording named elements one after the other succeeds exactly when their
names are new and distinct and each of them has an accessor.
-/
theorem foldlM_record_eq_ok_iff
    (settings : AccessorSettings)
    (elements : List NamedElement)
    (found last : OrderedMap (Accessor × Nat)) :
    elements.foldlM settings.record found = .ok last ↔
      settings.Records elements found last := by
  induction elements generalizing found with
  | nil =>
      rw [List.foldlM_nil, Records.nil_iff]
      constructor
      · intro finished
        cases finished
        rfl
      · rintro rfl
        rfl
  | cons element others hypothesis =>
      rw [List.foldlM_cons]
      constructor
      · intro succeeded
        rcases bind_eq_ok_iff.mp succeeded with ⟨next, recorded, recordedOthers⟩
        exact .cons recorded ((hypothesis next).mp recordedOthers)
      · intro records
        rcases records.exists_of_cons with ⟨next, recorded, recordsOthers⟩
        exact bind_eq_ok_iff.mpr ⟨next, recorded, (hypothesis next).mpr recordsOthers⟩

theorem accessors_of_entries
    {settings : AccessorSettings}
    {elements : List NamedElement}
    {accessors : List Accessor}
    (describe : List.Forall₂ settings.Describes elements accessors) :
    (List.zipWith entry elements accessors).map (fun (_, accessor, _) => accessor) =
      accessors := by
  induction describe with
  | nil => rfl
  | cons describes describe hypothesis => exact congrArg (List.cons _) hypothesis

theorem names_of_entries
    {settings : AccessorSettings}
    {elements : List NamedElement}
    {accessors : List Accessor}
    (describe : List.Forall₂ settings.Describes elements accessors) :
    (List.zipWith entry elements accessors).map Prod.fst =
      elements.map NamedElement.name := by
  induction describe with
  | nil => rfl
  | cons describes describe hypothesis => exact congrArg (List.cons _) hypothesis

/-- The walk through a document records its named elements, none being taken before. -/
theorem accessors_eq_foldlM
    (settings : AccessorSettings)
    (root : Element) :
    settings.accessors root =
      (root.namedElements.foldlM settings.record .empty).map fun found =>
        found.entries.map fun (_, accessor, _) => accessor := by
  have visited := Walk.visit_eq_foldlM settings [] .empty root.toNode
  rw [AccessorSettings.accessors, Walk.start, ← Scope.inside_nil, visited]
  show Except.map _ (Except.map _ (root.namedElements.foldlM settings.record .empty)) = _
  cases root.namedElements.foldlM settings.record .empty with
  | error error => rfl
  | ok found => rfl

theorem accessors_eq_ok_iff
    (settings : AccessorSettings)
    (root : Element)
    (accessors : List Accessor) :
    settings.accessors root = .ok accessors ↔
      (root.namedElements.map NamedElement.name).Nodup ∧
        List.Forall₂ settings.Describes root.namedElements accessors := by
  rw [accessors_eq_foldlM]
  constructor
  · intro succeeded
    cases recorded : root.namedElements.foldlM settings.record .empty with
    | error error =>
        rw [recorded] at succeeded
        cases succeeded
    | ok last =>
        rw [recorded] at succeeded
        rcases (settings.foldlM_record_eq_ok_iff _ _ _).mp recorded with
          ⟨-, distinct, found, describe, listed⟩
        have same : found = accessors := by
          rw [← accessors_of_entries describe]
          cases succeeded
          exact congrArg (List.map _) listed.symm
        exact ⟨distinct, same ▸ describe⟩
  · rintro ⟨distinct, describe⟩
    have names := names_of_entries describe
    have recorded : root.namedElements.foldlM settings.record .empty =
        .ok ⟨List.zipWith entry root.namedElements accessors, names ▸ distinct⟩ := by
      apply (settings.foldlM_record_eq_ok_iff _ _ _).mpr
      exact ⟨fun _ _ => rfl, distinct, accessors, describe, rfl⟩
    rw [recorded]
    exact congrArg Except.ok (accessors_of_entries describe)

/-- Accessors can be found for all elements if one can be found for each. -/
theorem exists_describes
    {settings : AccessorSettings}
    {elements : List NamedElement}
    (resolve : ∀ element ∈ elements, ∃ type,
      Resolver.elementType ⟨settings.namespaces, element.scope⟩ element.tag = .ok type) :
    ∃ accessors, List.Forall₂ settings.Describes elements accessors := by
  induction elements with
  | nil => exact ⟨[], .nil⟩
  | cons element others hypothesis =>
      rcases resolve element List.mem_cons_self with ⟨type, resolved⟩
      rcases hypothesis fun other member => resolve other (List.mem_cons_of_mem _ member) with
        ⟨accessors, describe⟩
      have described : settings.accessor element = .ok
          ⟨type.qualified settings.language, element.name,
            element.visibility settings.visibility⟩ := by
        rw [accessor, resolved]
        rfl
      exact ⟨_ :: accessors, .cons ((settings.accessor_eq_ok_iff _ _).mp described) describe⟩

/-- Every element that has an accessor has a type. -/
theorem exists_type_of_describes
    {settings : AccessorSettings}
    {elements : List NamedElement}
    {accessors : List Accessor}
    (describe : List.Forall₂ settings.Describes elements accessors)
    (element : NamedElement)
    (member : element ∈ elements) :
    ∃ type,
      Resolver.elementType ⟨settings.namespaces, element.scope⟩ element.tag = .ok type := by
  induction describe with
  | nil => cases member
  | cons describes describe hypothesis =>
      cases member with
      | head =>
          rcases describes.type with ⟨type, resolved, -⟩
          exact ⟨type, resolved⟩
      | tail _ later => exact hypothesis later

/--
A document gets its accessors exactly when the declared names of its object
elements are distinct and the type of every named element resolves under the
declarations of the element and of the elements around it; the accessors are
then those of the named elements, one for each and in the order of the text.
-/
theorem accessors_exactly_of_namedElements
    (settings : AccessorSettings)
    (root : Element) :
    ((∃ accessors, settings.accessors root = .ok accessors) ↔
      (root.namedElements.map NamedElement.name).Nodup ∧
        ∀ element ∈ root.namedElements, ∃ type,
          Resolver.elementType ⟨settings.namespaces, element.scope⟩ element.tag = .ok type) ∧
    (∀ accessors, settings.accessors root = .ok accessors →
      List.Forall₂ settings.Describes root.namedElements accessors) ∧
    ∀ tag around element,
      NamedElement.ofLineage? (tag, around) = some element ↔
        '.' ∉ tag.name.localName.toList ∧ element.tag = tag ∧
          element.scope = .inside (tag :: around) ∧
            element.scope.Declares tag element.name := by
  refine ⟨⟨?_, ?_⟩, ?_, NamedElement.ofLineage?_eq_some_iff⟩
  · rintro ⟨accessors, succeeded⟩
    rcases (settings.accessors_eq_ok_iff root accessors).mp succeeded with ⟨distinct, describe⟩
    exact ⟨distinct, exists_type_of_describes describe⟩
  · rintro ⟨distinct, resolve⟩
    rcases exists_describes resolve with ⟨accessors, describe⟩
    exact ⟨accessors, (settings.accessors_eq_ok_iff root accessors).mpr ⟨distinct, describe⟩⟩
  · intro accessors succeeded
    exact ((settings.accessors_eq_ok_iff root accessors).mp succeeded).2

end AccessorSettings

end ViewAccessors
