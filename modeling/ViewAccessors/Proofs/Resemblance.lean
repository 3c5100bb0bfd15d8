import Mathlib.Data.List.Forall2
import ViewAccessors.Proofs.Accessors

/-!
# Documents that are read alike

Of a tag, the name and the place are read, the declarations for each qualifier,
the qualified attributes under each name of a directive, and the plain `Name`.
Two tags that agree on these resemble each other, and so do two documents
whose elements resemble each other one by one, together with the elements
around them.  Such documents are the same view and have the same accessors, or
the same error.
-/

namespace ViewAccessors

open Markup

/-! ## What is read of a tag -/

namespace Markup

/-- The local names under which attributes are looked up. -/
def directiveNames : List String :=
  ["Name", "Class", "FieldModifier", "TypeArguments"]

namespace Attribute

/-- The qualifier that the attribute declares if it is a declaration, empty for the default. -/
def declaredQualifier (entry : Attribute) : String :=
  if entry.name.qualifier.isSome then entry.name.localName else ""

/-- Whether the attribute declares what the given qualifier stands for. -/
def declares
    (entry : Attribute)
    (qualifier : String) :
    Bool :=
  entry.name.declaresNamespace && qualifier == entry.declaredQualifier

/-- Whether the attribute has a qualifier before the given local name. -/
def isQualified
    (entry : Attribute)
    (localName : String) :
    Bool :=
  entry.name.qualifier.isSome && entry.name.localName == localName

end Attribute

/-- The tags agree on everything that is read of them. -/
structure Tag.Resembles (first second : Tag) : Prop where
  name : first.name = second.name
  span : first.span = second.span
  declarations : ∀ qualifier,
    first.attributes.filter (·.declares qualifier) =
      second.attributes.filter (·.declares qualifier)
  directives : ∀ localName ∈ directiveNames,
    first.attributes.filter (·.isQualified localName) =
      second.attributes.filter (·.isQualified localName)
  plainName : first.attribute? none "Name" = second.attribute? none "Name"

/-- The elements resemble each other, and so do those around them, one by one. -/
def Tag.ResemblesInside (first second : Tag × List Tag) : Prop :=
  List.Forall₂ Resembles (first.1 :: first.2) (second.1 :: second.2)

/-- The last declaration for a qualifier is the one that counts. -/
theorem Tag.lookup_namespaceDeclarations
    (tag : Tag)
    (qualifier : String) :
    tag.namespaceDeclarations.reverse.lookup qualifier =
      (tag.attributes.filter (·.declares qualifier)).getLast?.map Attribute.value := by
  have declared : tag.namespaceDeclarations =
      (tag.attributes.filter (·.name.declaresNamespace)).map fun entry =>
        (entry.declaredQualifier, entry.value) := rfl
  -- Both sides search the attributes from the last to the first.
  rw [declared, ← List.map_reverse, ← List.filter_reverse, List.getLast?_filter]
  induction tag.attributes.reverse with
  | nil => rfl
  | cons entry earlier hypothesis =>
      rw [List.filter_cons, List.find?_cons, Attribute.declares]
      cases entry.name.declaresNamespace with
      | false => exact hypothesis
      | true =>
          rw [if_pos rfl, List.map_cons, List.lookup_cons, Bool.true_and]
          cases qualifier == entry.declaredQualifier with
          | false => exact hypothesis
          | true => rfl

end Markup

/-! ## Look-ups -/

namespace Scope

variable {first second : Scope}

/-- A qualifier stands for the same URI, if the elements around resemble each other. -/
theorem uri?_inside_congr
    {tags others : List Tag}
    (resemble : List.Forall₂ Tag.Resembles tags others) :
    (inside tags).uri? = (inside others).uri? := by
  funext qualifier
  have sameFrames :
      (tags.map Tag.namespaceDeclarations).findSome? (·.reverse.lookup qualifier) =
        (others.map Tag.namespaceDeclarations).findSome? (·.reverse.lookup qualifier) := by
    induction resemble with
    | nil => rfl
    | cons resembles resemble hypothesis =>
        simp only [List.map_cons, List.findSome?_cons, Tag.lookup_namespaceDeclarations,
          resembles.declarations qualifier, hypothesis]
  rw [uri?, uri?, inside, inside, sameFrames]

/-- Only qualified attributes of the local name are searched for a directive. -/
theorem directive?_eq_find?_filter
    (scope : Scope)
    (tag : Tag)
    (localName : String) :
    scope.directive? tag localName =
      (tag.attributes.filter (·.isQualified localName)).find?
        fun entry => scope.isDirective entry.name := by
  rw [directive?, List.find?_filter]
  congr 1
  funext entry
  rw [Attribute.isQualified, isDirective, Bool.decide_and, Bool.decide_eq_true,
    Bool.decide_eq_true]
  cases entry.name.qualifier with
  | none => exact Bool.and_false _
  | some qualifier => rw [Option.isSome_some, Bool.true_and]

theorem directive?_congr
    (sameUris : first.uri? = second.uri?)
    {tag other : Tag}
    (resembles : tag.Resembles other)
    {localName : String}
    (isRead : localName ∈ directiveNames) :
    first.directive? tag localName = second.directive? other localName := by
  have sameTest : first.isDirective = second.isDirective := by
    funext name
    rw [isDirective, isDirective, sameUris]
  rw [directive?_eq_find?_filter, directive?_eq_find?_filter,
    resembles.directives localName isRead, sameTest]

end Scope

/-! ## Elements -/

/-- The type of an element depends on what its tag resembles and what qualifiers stand for. -/
theorem Resolver.elementType_congr_of_resembles
    (namespaces : NamespaceMap)
    {first second : Scope}
    (sameUris : first.uri? = second.uri?)
    {tag other : Tag}
    (resembles : tag.Resembles other) :
    elementType ⟨namespaces, first⟩ tag = elementType ⟨namespaces, second⟩ other := by
  have sameNames : typeNamed ⟨namespaces, first⟩ = typeNamed ⟨namespaces, second⟩ := by
    funext span name
    rw [typeNamed, typeNamed, sameUris]
  have sameDirective := Scope.directive?_congr sameUris resembles
    (show "TypeArguments" ∈ directiveNames by decide)
  rw [elementType, elementType, sameNames, typeArguments_congr sameNames, resembles.name,
    resembles.span, sameDirective]

namespace NamedElement

/-- The named elements resemble each other, and qualifiers stand for the same URIs in them. -/
structure Resembles (first second : NamedElement) : Prop where
  tag : first.tag.Resembles second.tag
  uris : first.scope.uri? = second.scope.uri?
  name : first.name = second.name

theorem visibility_congr
    {first second : NamedElement}
    (resembles : first.Resembles second) :
    first.visibility = second.visibility := by
  funext standard
  rw [visibility, visibility, Scope.directive?_congr resembles.uris resembles.tag
    (show "FieldModifier" ∈ directiveNames by decide)]

/-- An element that resembles a named one declares the same name. -/
theorem rel_ofLineage?
    {lineage other : Tag × List Tag}
    (resemble : Tag.ResemblesInside lineage other) :
    Option.Rel Resembles (ofLineage? lineage) (ofLineage? other) := by
  rcases lineage with ⟨tag, around⟩
  rcases other with ⟨otherTag, otherAround⟩
  have sameUris := Scope.uri?_inside_congr resemble
  have resembles : tag.Resembles otherTag := (List.forall₂_cons.mp resemble).1
  have sameName : declaredName? tag (.inside (tag :: around)) =
      declaredName? otherTag (.inside (otherTag :: otherAround)) := by
    rw [declaredName?, declaredName?, resembles.plainName,
      Scope.directive?_congr sameUris resembles (show "Name" ∈ directiveNames by decide)]
  rw [ofLineage?, ofLineage?, ofTag?, ofTag?, sameName, Tag.isProperty, Tag.isProperty,
    resembles.name]
  split
  · exact .none
  · cases declaredName? otherTag (.inside (otherTag :: otherAround)) with
    | none => exact .none
    | some name => exact .some ⟨resembles, sameUris, rfl⟩

end NamedElement

namespace AccessorSettings

/-- Elements that resemble each other are recorded alike. -/
theorem record_congr_of_resembles
    (settings : AccessorSettings)
    (found : OrderedMap (Accessor × Nat))
    {element other : NamedElement}
    (resembles : element.Resembles other) :
    settings.record found element = settings.record found other := by
  have sameAccessor : settings.accessor element = settings.accessor other := by
    rw [accessor, accessor, NamedElement.visibility_congr resembles, resembles.name,
      Resolver.elementType_congr_of_resembles settings.namespaces resembles.uris resembles.tag]
  rw [record, record, sameAccessor, resembles.name, resembles.tag.span]

theorem foldlM_record_congr
    (settings : AccessorSettings)
    {elements others : List NamedElement}
    (resemble : List.Forall₂ NamedElement.Resembles elements others)
    (found : OrderedMap (Accessor × Nat)) :
    elements.foldlM settings.record found = others.foldlM settings.record found := by
  induction resemble generalizing found with
  | nil => rfl
  | cons resembles resemble hypothesis =>
      rw [List.foldlM_cons, List.foldlM_cons, settings.record_congr_of_resembles found resembles]
      congr 1
      funext next
      exact hypothesis next

end AccessorSettings

/-! ## Documents -/

namespace Markup.Element

/-- The elements of the documents resemble each other, and so do those around them. -/
def Resembles (first second : Element) : Prop :=
  List.Forall₂ Tag.ResemblesInside first.lineages second.lineages

variable {first second : Element}

theorem Resembles.toTag (resemble : first.Resembles second) :
    first.toTag.Resembles second.toTag :=
  (List.forall₂_cons.mp (List.forall₂_cons.mp resemble).1).1

/-- A document has the accessors, or the error, of every document that it resembles. -/
theorem Resembles.accessors_eq
    (resemble : first.Resembles second)
    (settings : AccessorSettings) :
    settings.accessors first = settings.accessors second := by
  have resembleNamed :
      List.Forall₂ NamedElement.Resembles first.namedElements second.namedElements :=
    List.rel_filterMap (fun _ _ resemble => NamedElement.rel_ofLineage? resemble) resemble
  rw [settings.accessors_eq_foldlM, settings.accessors_eq_foldlM,
    settings.foldlM_record_congr resembleNamed]

/-- A document is the view that every document it resembles is, but for the document itself. -/
theorem Resembles.ofDocument?_eq
    (resemble : first.Resembles second)
    (namespaces : NamespaceMap) :
    View.ofDocument? namespaces first =
      (View.ofDocument? namespaces second).map fun view => { view with document := first } := by
  have resembles := resemble.toTag
  have sameUris : (Scope.empty.enter first.toTag).uri? = (Scope.empty.enter second.toTag).uri? :=
    Scope.uri?_inside_congr (.cons resembles .nil)
  have sameClass : View.classOf? first = View.classOf? second := by
    rw [View.classOf?, View.classOf?, Scope.directive?_congr sameUris resembles
      (show "Class" ∈ directiveNames by decide)]
  have sameType : View.typeOfRoot namespaces first = View.typeOfRoot namespaces second := by
    rw [View.typeOfRoot, View.typeOfRoot, resembles.name,
      Resolver.elementType_congr_of_resembles namespaces sameUris resembles]
  rw [View.ofDocument?, View.ofDocument?, sameClass, sameType, Option.map_map]
  rfl

end Markup.Element

end ViewAccessors
