import ViewAccessors.Proofs.Accessors

/-!
# Which error a document gets

A document without accessors has a first named element with which something is
wrong: its name is taken by an element before it, or else its type does not
resolve.  The error is the one of this element, whatever follows it, and
elements without a name are never to blame.
-/

namespace ViewAccessors

open Markup

/-! ## Errors about types -/

namespace ResolutionError

/-- The error says why a type does not resolve. -/
inductive IsAboutType : ResolutionError → Prop where
  | undeclaredQualifier (qualifier : String) (span : Span) :
      IsAboutType (.undeclaredQualifier qualifier span)
  | unmappedNamespace (uri element : String) (span : Span) :
      IsAboutType (.unmappedNamespace uri element span)
  | invalidTypeArguments (value : String) (fault : TypeArguments.Fault) (span : Span) :
      IsAboutType (.invalidTypeArguments value fault span)

end ResolutionError

namespace Resolver

variable
    (resolver : Resolver)
    {error : ResolutionError}

theorem isAboutType_of_typeNamed
    {span : Span}
    {name : Name}
    (failed : resolver.typeNamed span name = .error error) :
    error.IsAboutType := by
  rw [typeNamed] at failed
  split at failed
  · cases failed
    exact .undeclaredQualifier _ _
  · dsimp only at failed
    split at failed
    · cases failed
    · cases failed
      exact .unmappedNamespace _ _ _

theorem isAboutType_of_typeArgument
    {span : Span}
    {value part : List Char}
    {nested : List Char → Except ResolutionError (List TypeRef)}
    (inside : ∀ text other, nested text = .error other → other.IsAboutType)
    (failed : resolver.typeArgument span value nested part = .error error) :
    error.IsAboutType := by
  rw [typeArgument] at failed
  split at failed
  · cases failed
    exact .invalidTypeArguments _ _ _
  · rename_i name inner isPart
    rcases bind_eq_error_iff.mp failed with unnamed | ⟨type, named, failed⟩
    · exact resolver.isAboutType_of_typeNamed unnamed
    · cases inner with
      | none => cases failed
      | some text =>
          rcases bind_eq_error_iff.mp failed with unresolved | ⟨arguments, resolved, failed⟩
          · exact inside text error unresolved
          · cases failed

theorem isAboutType_of_typeArguments
    {span : Span}
    {room : Nat}
    {value : List Char}
    (failed : resolver.typeArguments span room value = .error error) :
    error.IsAboutType := by
  induction room generalizing value error with
  | zero =>
      cases failed
      exact .invalidTypeArguments _ _ _
  | succ room hypothesis =>
      rw [typeArguments] at failed
      split at failed
      · cases failed
        exact .invalidTypeArguments _ _ _
      · rcases mapM_eq_error_iff.mp failed with ⟨before, part, after, -, -, failed⟩
        exact resolver.isAboutType_of_typeArgument (fun text other => hypothesis) failed

/-- If an element has no type, the error says why. -/
theorem isAboutType_of_elementType
    {tag : Tag}
    (failed : resolver.elementType tag = .error error) :
    error.IsAboutType := by
  rcases bind_eq_error_iff.mp failed with unnamed | ⟨type, named, failed⟩
  · exact resolver.isAboutType_of_typeNamed unnamed
  · split at failed
    · cases failed
    · rcases bind_eq_error_iff.mp failed with unresolved | ⟨arguments, resolved, failed⟩
      · exact resolver.isAboutType_of_typeArguments unresolved
      · cases failed

end Resolver

/-! ## What is wrong with one named element -/

namespace AccessorSettings

/--
What is wrong with a named element, which follows the elements `before`.  A
name that is taken comes first: the type of such an element is not looked at.
-/
inductive Offence
    (settings : AccessorSettings)
    (before : List NamedElement)
    (element : NamedElement) :
    ResolutionError → Prop where
  | taken
      {earlier later : List NamedElement}
      {first : NamedElement}
      (split : before = earlier ++ first :: later)
      (unnamed : ∀ other ∈ earlier, other.name ≠ element.name)
      (named : first.name = element.name) :
      Offence settings before element
        (.duplicateName element.name first.tag.span.line element.tag.span)
  | untyped
      {error : ResolutionError}
      (free : ∀ other ∈ before, other.name ≠ element.name)
      (unresolved :
        Resolver.elementType ⟨settings.namespaces, element.scope⟩ element.tag = .error error) :
      Offence settings before element error

/-- Nothing is wrong with any of the elements. -/
def Accepts
    (settings : AccessorSettings)
    (elements : List NamedElement) :
    Prop :=
  ∀ before element after, elements = before ++ element :: after →
    ∀ error, ¬ settings.Offence before element error

theorem accessor_eq_error_iff
    (settings : AccessorSettings)
    (element : NamedElement)
    (error : ResolutionError) :
    settings.accessor element = .error error ↔
      Resolver.elementType ⟨settings.namespaces, element.scope⟩ element.tag = .error error := by
  constructor
  · intro failed
    rcases bind_eq_error_iff.mp failed with unresolved | ⟨type, resolved, impossible⟩
    · exact unresolved
    · cases impossible
  · exact fun unresolved => bind_eq_error_iff.mpr (.inl unresolved)

/-- The map of the walk keeps the line of the first element of every name. -/
theorem lookup_entries
    {settings : AccessorSettings}
    {elements : List NamedElement}
    {accessors : List Accessor}
    (describe : List.Forall₂ settings.Describes elements accessors)
    (name : String) :
    ((List.zipWith entry elements accessors).lookup name).map Prod.snd =
      (elements.find? fun element => element.name = name).map (·.tag.span.line) := by
  induction describe with
  | nil => rfl
  | @cons element accessor elements accessors describes describe hypothesis =>
      rw [List.zipWith_cons_cons, entry, lookup_cons_eq_ite, List.find?_cons]
      by_cases same : element.name = name
      · simp [same]
      · simp [same, Ne.symm same, hypothesis]

/-- An element declares a name first exactly if it is found first under the name. -/
theorem find?_eq_some_iff_split
    (elements : List NamedElement)
    (name : String)
    (first : NamedElement) :
    (elements.find? fun element => element.name = name) = some first ↔
      ∃ earlier later, elements = earlier ++ first :: later ∧
        (∀ other ∈ earlier, other.name ≠ name) ∧ first.name = name := by
  rw [List.find?_eq_some_iff_append]
  constructor
  · rintro ⟨named, earlier, later, split, unnamed⟩
    exact ⟨earlier, later, split, by simpa using unnamed, by simpa using named⟩
  · rintro ⟨earlier, later, split, unnamed, named⟩
    exact ⟨by simpa using named, earlier, later, split, by simpa using unnamed⟩

/-- Once elements are recorded, recording the next one fails if something is wrong with it. -/
theorem record_eq_error_iff
    {settings : AccessorSettings}
    {before : List NamedElement}
    {found : OrderedMap (Accessor × Nat)}
    (records : settings.Records before .empty found)
    (element : NamedElement)
    (error : ResolutionError) :
    settings.record found element = .error error ↔ settings.Offence before element error := by
  rcases records.accessors with ⟨accessors, describe, listed⟩
  have lines := lookup_entries describe element.name
  rw [← List.nil_append (List.zipWith entry before accessors)] at lines
  change (List.lookup _ (OrderedMap.empty.entries ++ _)).map _ = _ at lines
  rw [← listed] at lines
  change (found.get? element.name).map _ = _ at lines
  rw [record]
  cases declared : found.get? element.name with
  | none =>
      rw [declared, Option.map_none, eq_comm, Option.map_eq_none_iff, List.find?_eq_none] at lines
      have free : ∀ other ∈ before, other.name ≠ element.name := by
        intro other member
        simpa using lines other member
      rw [map_eq_error_iff, accessor_eq_error_iff]
      constructor
      · exact .untyped free
      · rintro (⟨rfl, unnamed, named⟩ | ⟨-, unresolved⟩)
        · exact absurd named (free _ (List.mem_append_right _ List.mem_cons_self))
        · exact unresolved
  | some earliest =>
      rcases earliest with ⟨accessor, line⟩
      rw [declared, Option.map_some, eq_comm, Option.map_eq_some_iff] at lines
      rcases lines with ⟨first, isFirst, rfl⟩
      constructor
      · intro refused
        cases refused
        rcases (find?_eq_some_iff_split _ _ _).mp isFirst with
          ⟨earlier, later, split, unnamed, named⟩
        exact .taken split unnamed named
      · rintro (⟨split, unnamed, named⟩ | ⟨free, -⟩)
        · have again := (find?_eq_some_iff_split _ _ _).mpr ⟨_, _, split, unnamed, named⟩
          rw [isFirst, Option.some.injEq] at again
          rw [again]
        · have member := List.mem_of_find?_eq_some isFirst
          rcases (find?_eq_some_iff_split _ _ _).mp isFirst with ⟨-, -, -, -, named⟩
          exact absurd named (free first member)

theorem accepts_iff
    (settings : AccessorSettings)
    (elements : List NamedElement) :
    settings.Accepts elements ↔
      ∃ found, elements.foldlM settings.record .empty = .ok found := by
  -- Both ways an offence is where the walk along the elements stops.
  constructor
  · intro accepts
    cases recorded : elements.foldlM settings.record .empty with
    | ok found => exact ⟨found, rfl⟩
    | error error =>
        rcases foldlM_eq_error_iff.mp recorded with
          ⟨before, element, after, found, split, recorded, refused⟩
        have records := (settings.foldlM_record_eq_ok_iff before .empty found).mp recorded
        exact absurd ((record_eq_error_iff records element error).mp refused)
          (accepts before element after split error)
  · rintro ⟨last, recorded⟩ before element after rfl error offence
    rw [List.foldlM_append] at recorded
    rcases bind_eq_ok_iff.mp recorded with ⟨found, recordedBefore, recordedAfter⟩
    have records := (settings.foldlM_record_eq_ok_iff before .empty found).mp recordedBefore
    rw [List.foldlM_cons, (record_eq_error_iff records element error).mpr offence] at recordedAfter
    cases recordedAfter

/-- The first element with which something is wrong decides on the error. -/
theorem accessors_eq_error_iff
    (settings : AccessorSettings)
    (root : Element)
    (error : ResolutionError) :
    settings.accessors root = .error error ↔
      ∃ before element after, root.namedElements = before ++ element :: after ∧
        settings.Accepts before ∧ settings.Offence before element error := by
  rw [accessors_eq_foldlM, map_eq_error_iff, foldlM_eq_error_iff]
  constructor
  · rintro ⟨before, element, after, found, split, recorded, refused⟩
    have records := (settings.foldlM_record_eq_ok_iff before .empty found).mp recorded
    exact ⟨before, element, after, split, (settings.accepts_iff before).mpr ⟨found, recorded⟩,
      (record_eq_error_iff records element error).mp refused⟩
  · rintro ⟨before, element, after, split, accepts, offence⟩
    rcases (settings.accepts_iff before).mp accepts with ⟨found, recorded⟩
    have records := (settings.foldlM_record_eq_ok_iff before .empty found).mp recorded
    exact ⟨before, element, after, found, split, recorded,
      (record_eq_error_iff records element error).mpr offence⟩

/--
A document gets an error exactly if something is wrong with one of its
elements and with no element before it in the order of the text; what follows
makes no difference.  Only object elements that declare a name are looked at.
Such an element is refused if an element before it has the same name, with the
line of the first one that has it, and otherwise if its own type does not
resolve, with the reason.
-/
theorem first_offence_is_reported
    (settings : AccessorSettings)
    (root : Element) :
    (∀ error, settings.accessors root = .error error ↔
      ∃ before tag around after element,
        root.lineages = before ++ (tag, around) :: after ∧
          NamedElement.ofLineage? (tag, around) = some element ∧
            settings.Accepts (before.filterMap NamedElement.ofLineage?) ∧
              settings.Offence (before.filterMap NamedElement.ofLineage?) element error) ∧
    (∀ resolver tag error, Resolver.elementType resolver tag = .error error →
      error.IsAboutType) ∧
    ∀ tag around element,
      NamedElement.ofLineage? (tag, around) = some element ↔
        '.' ∉ tag.name.localName.toList ∧ element.tag = tag ∧
          element.scope = .inside (tag :: around) ∧
            element.scope.Declares tag element.name := by
  refine ⟨fun error => ?_, fun resolver tag error => resolver.isAboutType_of_elementType,
    NamedElement.ofLineage?_eq_some_iff⟩
  rw [accessors_eq_error_iff, Element.namedElements]
  constructor
  · rintro ⟨before, element, after, split, accepts, offence⟩
    rcases List.filterMap_eq_append_iff.mp split with ⟨early, late, cut, rfl, rest⟩
    rcases List.filterMap_eq_cons_iff.mp rest with
      ⟨unnamed, ⟨tag, around⟩, after, rfl, nameless, named, -⟩
    have noMore : unnamed.filterMap NamedElement.ofLineage? = [] :=
      List.filterMap_eq_nil_iff.mpr nameless
    refine ⟨early ++ unnamed, tag, around, after, element, ?_, named, ?_⟩
    · rw [cut, List.append_assoc]
    · rw [List.filterMap_append, noMore, List.append_nil]
      exact ⟨accepts, offence⟩
  · rintro ⟨before, tag, around, after, element, split, named, accepts, offence⟩
    refine ⟨_, element, after.filterMap NamedElement.ofLineage?, ?_, accepts, offence⟩
    rw [split, List.filterMap_append, List.filterMap_cons_some named]

/-- A name that is taken is reported even if the element has no type either. -/
example :
    (parse "<A xmlns=\"using:App\" Name=\"a\">\n<B/><q:B Name=\" a\"/><q:C Name=\"c\"/></A>").map
        (AccessorSettings.accessors ⟨.wellKnown, .csharp, default⟩) =
      .ok (.error (.duplicateName "a" 1 ⟨⟨35, 2, 5⟩, ⟨51, 2, 21⟩⟩)) := by
  decide +kernel

end AccessorSettings

end ViewAccessors
