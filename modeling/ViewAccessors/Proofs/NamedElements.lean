import ViewAccessors.Accessor
import ViewAccessors.Proofs.Markup.Lineages

/-!
# The named elements of a document

The walk through a document keeps a stack of namespace declarations and a map
of the accessors found so far.  Here the elements of a document are listed
without a walk: in the order of the text, each with the elements around it.
From this list the walk does one thing only, which is to record the named
elements from the first to the last.
-/

namespace ViewAccessors

open Markup

/-! ## The declarations around an element -/

/-- The namespace declarations of elements, of which each stands inside the next. -/
def Scope.inside (tags : List Tag) : Scope :=
  ⟨tags.map Tag.namespaceDeclarations⟩

@[simp]
theorem Scope.inside_nil :
    Scope.inside [] = .empty :=
  rfl

@[simp]
theorem Scope.enter_inside
    (tag : Tag)
    (around : List Tag) :
    (Scope.inside around).enter tag = .inside (tag :: around) :=
  rfl

namespace NamedElement

/-- An element as a named one, under its own declarations and those of the elements around it. -/
def ofLineage? : Tag × List Tag → Option NamedElement
  | (tag, around) => ofTag? tag (.inside (tag :: around))

end NamedElement

/-- The named elements of a document in the order of the text. -/
def Markup.Element.namedElements (root : Element) : List NamedElement :=
  root.lineages.filterMap NamedElement.ofLineage?

/-! ## What declares a name, and what asks for a visibility -/

namespace Scope

/-- The attribute `entry` is a directive of the given local name. -/
def IsDirectiveNamed
    (scope : Scope)
    (localName : String)
    (entry : Attribute) :
    Prop :=
  entry.name.localName = localName ∧
    ∃ qualifier, entry.name.qualifier = some qualifier ∧
      scope.uri? qualifier = some xamlNamespace

end Scope

/-- `entry` is the first of the attributes with the given property. -/
def IsFirst
    (holds : Attribute → Prop)
    (attributes : List Attribute)
    (entry : Attribute) :
    Prop :=
  holds entry ∧
    ∃ before after, attributes = before ++ entry :: after ∧ ∀ earlier ∈ before, ¬ holds earlier

namespace Scope

/--
The attribute that may name an element: the first `Name` directive, or the
attribute `Name` without a qualifier on an element without such a directive.
-/
inductive NamedBy
    (scope : Scope)
    (tag : Tag)
    (entry : Attribute) :
    Prop where
  | directive
      (first : IsFirst (scope.IsDirectiveNamed "Name") tag.attributes entry)
  | plain
      (undirected : ∀ other ∈ tag.attributes, ¬ scope.IsDirectiveNamed "Name" other)
      (first : IsFirst (fun other => other.name = ⟨none, "Name"⟩) tag.attributes entry)

/-- The element declares `name`, which is neither blank nor an expression in braces. -/
def Declares
    (scope : Scope)
    (tag : Tag)
    (name : String) :
    Prop :=
  ∃ entry, scope.NamedBy tag entry ∧ name = Text.trimmed entry.value ∧
    name ≠ "" ∧ name.toList.head? ≠ some '\x7b'

/-- The first `FieldModifier` directive of the element is a word for `visibility`. -/
def Requests
    (scope : Scope)
    (tag : Tag)
    (visibility : Visibility) :
    Prop :=
  ∃ entry, IsFirst (scope.IsDirectiveNamed "FieldModifier") tag.attributes entry ∧
    Visibility.ofText? entry.value = some visibility

end Scope

theorem find?_eq_some_iff_isFirst
    {holds : Attribute → Prop}
    {test : Attribute → Bool}
    (decides : ∀ entry, test entry = true ↔ holds entry)
    {attributes : List Attribute}
    {entry : Attribute} :
    attributes.find? test = some entry ↔ IsFirst holds attributes entry := by
  simp [List.find?_eq_some_iff_append, IsFirst, ← decides]

namespace Scope

/-- The test by which directives are found, as a property of the attribute. -/
theorem isDirectiveNamed_iff
    (scope : Scope)
    (localName : String)
    (entry : Attribute) :
    (entry.name.localName == localName && scope.isDirective entry.name) = true ↔
      scope.IsDirectiveNamed localName entry := by
  simp [IsDirectiveNamed, isDirective, Option.any_eq_true]

theorem directive?_eq_some_iff
    (scope : Scope)
    (tag : Tag)
    (localName : String)
    (entry : Attribute) :
    scope.directive? tag localName = some entry ↔
      IsFirst (scope.IsDirectiveNamed localName) tag.attributes entry :=
  find?_eq_some_iff_isFirst (scope.isDirectiveNamed_iff localName)

theorem directive?_eq_none_iff
    (scope : Scope)
    (tag : Tag)
    (localName : String) :
    scope.directive? tag localName = none ↔
      ∀ other ∈ tag.attributes, ¬ scope.IsDirectiveNamed localName other := by
  simp only [directive?, List.find?_eq_none, isDirectiveNamed_iff]

theorem namedBy_iff
    (scope : Scope)
    (tag : Tag)
    (entry : Attribute) :
    (scope.directive? tag "Name").or (tag.attribute? none "Name") = some entry ↔
      scope.NamedBy tag entry := by
  have plain : tag.attribute? none "Name" = some entry ↔
      IsFirst (fun other => other.name = ⟨none, "Name"⟩) tag.attributes entry :=
    find?_eq_some_iff_isFirst (by simp)
  rw [Option.or_eq_some_iff, directive?_eq_some_iff, directive?_eq_none_iff, plain]
  constructor
  · rintro (first | ⟨undirected, first⟩)
    · exact .directive first
    · exact .plain undirected first
  · intro named
    cases named with
    | directive first => exact .inl first
    | plain undirected first => exact .inr ⟨undirected, first⟩

end Scope

theorem NamedElement.nameOfValue?_eq_some_iff
    (value name : String) :
    nameOfValue? value = some name ↔
      name = Text.trimmed value ∧ name ≠ "" ∧ name.toList.head? ≠ some '\x7b' := by
  rw [nameOfValue?, Text.trimmed]
  split
  · rename_i blank
    rw [blank]
    constructor
    · intro impossible
      cases impossible
    · rintro ⟨rfl, notBlank, -⟩
      exact absurd rfl notBlank
  · rename_i others expression
    rw [expression]
    constructor
    · intro impossible
      cases impossible
    · rintro ⟨rfl, -, notExpression⟩
      simp at notExpression
  · rename_i notBlank notExpression
    rw [Option.some.injEq, eq_comm]
    constructor
    · rintro rfl
      refine ⟨rfl, ?_, ?_⟩
      · simpa using notBlank
      · rw [String.toList_ofList, ne_eq, List.head?_eq_some_iff]
        rintro ⟨others, expression⟩
        exact notExpression others expression
    · exact And.left

theorem NamedElement.declaredName?_eq_some_iff
    (scope : Scope)
    (tag : Tag)
    (name : String) :
    declaredName? tag scope = some name ↔ scope.Declares tag name := by
  simp only [declaredName?, Option.bind_eq_some_iff, scope.namedBy_iff,
    nameOfValue?_eq_some_iff, Scope.Declares]

/-- The object elements that declare a name, under all the declarations around them. -/
theorem NamedElement.ofLineage?_eq_some_iff
    (tag : Tag)
    (around : List Tag)
    (element : NamedElement) :
    ofLineage? (tag, around) = some element ↔
      '.' ∉ tag.name.localName.toList ∧ element.tag = tag ∧
        element.scope = .inside (tag :: around) ∧
          element.scope.Declares tag element.name := by
  rcases element with ⟨own, scope, name⟩
  rw [ofLineage?, ofTag?, Tag.isProperty]
  by_cases property : '.' ∈ tag.name.localName.toList
  · simp [property]
  · simp only [property, List.contains_eq_mem, decide_false, Bool.false_eq_true, if_false,
      Option.map_eq_some_iff, declaredName?_eq_some_iff, NamedElement.mk.injEq,
      not_false_eq_true, true_and]
    constructor
    · rintro ⟨_, declares, rfl, rfl, rfl⟩
      exact ⟨rfl, rfl, declares⟩
    · rintro ⟨rfl, rfl, declares⟩
      exact ⟨name, declares, rfl, rfl, rfl⟩

/-- An element has the visibility it asks for, and the standard one if it asks for none. -/
theorem NamedElement.visibility_eq_iff
    (element : NamedElement)
    (standard visibility : Visibility) :
    element.visibility standard = visibility ↔
      element.scope.Requests element.tag visibility ∨
        visibility = standard ∧
          ∀ requested, ¬ element.scope.Requests element.tag requested := by
  have requested : ∀ requested,
      ((element.scope.directive? element.tag "FieldModifier").bind fun entry =>
        Visibility.ofText? entry.value) = some requested ↔
          element.scope.Requests element.tag requested := by
    simp [Option.bind_eq_some_iff, Scope.directive?_eq_some_iff, Scope.Requests]
  simp only [NamedElement.visibility, ← requested]
  generalize (element.scope.directive? element.tag "FieldModifier").bind _ = found
  cases found with
  | none => simp [eq_comm]
  | some found => simp

/-! ## What the walk does -/

namespace Walk

/-- Entering an element records it, if it is a named one. -/
theorem enter_eq_foldlM
    (settings : AccessorSettings)
    (around : List Tag)
    (found : OrderedMap (Accessor × Nat))
    (tag : Tag) :
    enter settings ⟨.inside around, found⟩ tag =
      ((NamedElement.ofLineage? (tag, around)).toList.foldlM
        settings.record found).map fun found => ⟨.inside (tag :: around), found⟩ := by
  rw [enter, Scope.enter_inside, NamedElement.ofLineage?]
  cases NamedElement.ofTag? tag (.inside (tag :: around)) with
  | none => rfl
  | some element =>
      show (settings.record found element).map _ = _
      rw [Option.toList_some, List.foldlM_cons]
      cases settings.record found element with
      | error error => rfl
      | ok recorded => rfl

mutual

/--
Walking through a node records its named elements from the first to the last
and leaves the scope as it was.
-/
theorem visit_eq_foldlM
    (settings : AccessorSettings)
    (around : List Tag)
    (found : OrderedMap (Accessor × Nat)) :
    ∀ node : Node,
      visit settings ⟨.inside around, found⟩ node =
        (((node.lineages around).filterMap NamedElement.ofLineage?).foldlM
          settings.record found).map fun found => ⟨.inside around, found⟩
  | .text content => rfl
  | .element tag children => by
      have listed : (Node.lineages around (.element tag children)).filterMap
            NamedElement.ofLineage? =
          (NamedElement.ofLineage? (tag, around)).toList ++
            (Node.lineagesOfAll (tag :: around) children).filterMap NamedElement.ofLineage? := by
        rw [Node.lineages, List.filterMap_cons]
        cases NamedElement.ofLineage? (tag, around) <;> rfl
      rw [visit, enter_eq_foldlM, listed, List.foldlM_append]
      cases (NamedElement.ofLineage? (tag, around)).toList.foldlM settings.record found with
      | error error => rfl
      | ok recorded =>
          show ((visitAll settings ⟨.inside (tag :: around), recorded⟩ children).bind
            fun visited => .ok visited.leave) = _
          rw [visitAll_eq_foldlM]
          show _ = Except.map _
            (((Node.lineagesOfAll (tag :: around) children).filterMap
              NamedElement.ofLineage?).foldlM settings.record recorded)
          cases ((Node.lineagesOfAll (tag :: around) children).filterMap
              NamedElement.ofLineage?).foldlM settings.record recorded with
          | error error => rfl
          | ok recordedInside => rfl

/-- The same for nodes one after the other. -/
theorem visitAll_eq_foldlM
    (settings : AccessorSettings)
    (around : List Tag)
    (found : OrderedMap (Accessor × Nat)) :
    ∀ nodes : List Node,
      visitAll settings ⟨.inside around, found⟩ nodes =
        (((Node.lineagesOfAll around nodes).filterMap NamedElement.ofLineage?).foldlM
          settings.record found).map fun found => ⟨.inside around, found⟩
  | [] => rfl
  | node :: others => by
      rw [visitAll, visit_eq_foldlM, Node.lineagesOfAll, List.filterMap_append, List.foldlM_append]
      cases ((node.lineages around).filterMap NamedElement.ofLineage?).foldlM
          settings.record found with
      | error error => rfl
      | ok recorded => exact visitAll_eq_foldlM settings around recorded others

end

end Walk

end ViewAccessors
