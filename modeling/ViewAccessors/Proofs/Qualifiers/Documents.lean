import ViewAccessors.Proofs.Accessors
import ViewAccessors.Proofs.Qualifiers.Types

/-!
# Documents under other qualifiers

The named elements of a renamed document are the renamed named elements, so
the accessors are recorded in the same order, under the same names and with
the same types.  The class of a renamed document is the class of the document.
-/

namespace ViewAccessors

open Markup

namespace Agree

/-- Computations that agree have the same result, if any. -/
theorem toOption_eq
    {Result : Type}
    {first second : Except ResolutionError Result}
    (agree : Agree first second) :
    first.toOption = second.toOption := by
  rcases agree.cases_of_agree with ⟨result, rfl, rfl⟩ | ⟨error, other, rfl, rfl, -⟩ <;> rfl

/-- Lists are folded alike if their members act alike. -/
theorem foldlM
    {Source State : Type}
    {step stepOther : State → Source → Except ResolutionError State}
    {sources : List Source}
    (agree : ∀ source ∈ sources, ∀ state, Agree (step state source) (stepOther state source))
    (state : State) :
    Agree (sources.foldlM step state) (sources.foldlM stepOther state) := by
  induction sources generalizing state with
  | nil => exact refl _
  | cons source others hypothesis =>
      rw [List.forall_mem_cons] at agree
      rw [List.foldlM_cons, List.foldlM_cons]
      exact (agree.1 state).bind fun next => hypothesis agree.2 next

end Agree

/-- The values of all directives for type arguments change as type arguments do. -/
def Markup.Element.RenamesArguments
    (root : Element)
    (change : String → String) :
    Prop :=
  ∀ lineage ∈ root.lineages,
    (Scope.inside (lineage.1 :: lineage.2)).RenamesArguments lineage.1 change

section

variable (exchange : Renaming)

/-! ## Directives with a plain value -/

/-- A directive that holds no type arguments has the value it has. -/
theorem Scope.directiveValue_requalify
    {word : String}
    (reserved : word ∈ reservedWords)
    (notArguments : word ≠ "TypeArguments")
    (scope : Scope)
    (tag : Tag) :
    ((scope.requalify exchange.change).directive? (tag.requalify exchange.change) word).map
        Attribute.value =
      (scope.directive? tag word).map Attribute.value := by
  rw [directive?_requalify exchange reserved, Option.map_map]
  cases found : scope.directive? tag word with
  | none => rfl
  | some entry =>
      have named : entry.name.localName = word :=
        ((directive?_eq_some_iff scope tag word entry).mp found).1.1
      have holdsNone : entry.holdsTypeArguments = false :=
        Attribute.holdsTypeArguments_of_ne (named ▸ notArguments)
      exact congrArg some (Attribute.value_requalify holdsNone exchange.change)

theorem Markup.Tag.attributeValue_requalify (tag : Tag) :
    ((tag.requalify exchange.change).attribute? none "Name").map Attribute.value =
      (tag.attribute? none "Name").map Attribute.value := by
  rw [attribute?_requalify, Option.map_map]
  cases found : tag.attribute? none "Name" with
  | none => rfl
  | some entry =>
      have named : entry.name = ⟨none, "Name"⟩ := by
        simpa using List.find?_some found
      have holdsNone : entry.holdsTypeArguments = false :=
        Attribute.holdsTypeArguments_of_ne (by rw [named]; decide)
      exact congrArg some (Attribute.value_requalify holdsNone exchange.change)

/-! ## Named elements -/

namespace NamedElement

/-- The named element with its qualifiers and those in scope changed. -/
def requalify
    (change : String → String)
    (element : NamedElement) :
    NamedElement where
  tag := element.tag.requalify change
  scope := element.scope.requalify change
  name := element.name

/-- A renamed element declares the name that the element declares. -/
theorem declaredName?_requalify
    (tag : Tag)
    (scope : Scope) :
    declaredName? (tag.requalify exchange.change) (scope.requalify exchange.change) =
      declaredName? tag scope := by
  have byValue : ∀ (tag : Tag) (scope : Scope), declaredName? tag scope =
      (((scope.directive? tag "Name").map Attribute.value).or
        ((tag.attribute? none "Name").map Attribute.value)).bind nameOfValue? := by
    intro tag scope
    rw [declaredName?]
    cases scope.directive? tag "Name" with
    | some entry => rfl
    | none => cases tag.attribute? none "Name" <;> rfl
  rw [byValue, byValue, Scope.directiveValue_requalify exchange (by simp [reservedWords])
    (by decide), tag.attributeValue_requalify exchange]

theorem ofLineage?_requalify
    (tag : Tag)
    (around : List Tag) :
    ofLineage? (tag.requalify exchange.change, around.map (Tag.requalify exchange.change)) =
      (ofLineage? (tag, around)).map (requalify exchange.change) := by
  rw [ofLineage?, ofLineage?, ← List.map_cons, Scope.inside_requalify, ofTag?, ofTag?,
    declaredName?_requalify]
  change (if tag.isProperty then none else _) = _
  split
  · rfl
  · rw [Option.map_map]
    rfl

/-- A renamed element asks for the visibility that the element asks for. -/
theorem visibility_requalify
    (element : NamedElement)
    (standard : Visibility) :
    (element.requalify exchange.change).visibility standard = element.visibility standard := by
  have byValue : ∀ element : NamedElement, element.visibility standard =
      (((element.scope.directive? element.tag "FieldModifier").map Attribute.value).bind
        Visibility.ofText?).getD standard := by
    intro element
    rw [visibility]
    cases element.scope.directive? element.tag "FieldModifier" <;> rfl
  rw [byValue, byValue]
  simp only [requalify]
  rw [Scope.directiveValue_requalify exchange (by simp [reservedWords]) (by decide)]

end NamedElement

/-- The named elements of a renamed document are its named elements, renamed. -/
theorem Markup.Element.namedElements_requalify (root : Element) :
    (root.requalify exchange.change).namedElements =
      root.namedElements.map (NamedElement.requalify exchange.change) := by
  rw [namedElements, namedElements, root.lineages_requalify, List.filterMap_map,
    List.map_filterMap]
  congr 1
  funext lineage
  exact NamedElement.ofLineage?_requalify exchange lineage.1 lineage.2

/-! ## Accessors -/

namespace AccessorSettings

variable (settings : AccessorSettings)

theorem agree_accessor
    {element : NamedElement}
    (renamed : element.scope.RenamesArguments element.tag exchange.change) :
    Agree (settings.accessor (element.requalify exchange.change)) (settings.accessor element) := by
  rw [accessor, accessor, element.visibility_requalify exchange]
  exact (Resolver.agree_elementType exchange ⟨settings.namespaces, element.scope⟩ renamed).bind
    fun type => Agree.refl _

theorem agree_record
    {element : NamedElement}
    (renamed : element.scope.RenamesArguments element.tag exchange.change)
    (found : OrderedMap (Accessor × Nat)) :
    Agree (settings.record found (element.requalify exchange.change))
      (settings.record found element) := by
  have sameName : (element.requalify exchange.change).name = element.name := rfl
  rw [record, record, sameName]
  cases found.get? element.name with
  | some taken => exact Agree.error rfl
  | none => exact (settings.agree_accessor exchange renamed).map _

/-- A renamed document has the accessors of the document, or none for the same kind of reason. -/
theorem agree_accessors
    {root : Element}
    (renamed : root.RenamesArguments exchange.change) :
    Agree (settings.accessors (root.requalify exchange.change)) (settings.accessors root) := by
  rw [accessors_eq_foldlM, accessors_eq_foldlM, root.namedElements_requalify exchange,
    List.foldlM_map]
  refine (Agree.foldlM ?_ _).map _
  intro element member found
  rcases List.mem_filterMap.mp member with ⟨lineage, inside, named⟩
  rcases (NamedElement.ofLineage?_eq_some_iff lineage.1 lineage.2 element).mp named with
    ⟨-, sameTag, sameScope, -⟩
  apply settings.agree_record exchange
  rw [sameTag, sameScope]
  exact renamed lineage inside

end AccessorSettings

/-! ## Views -/

namespace View

theorem classOf?_requalify (root : Element) :
    classOf? (root.requalify exchange.change) = classOf? root := by
  have byValue : ∀ root : Element, classOf? root =
      (((Scope.inside [root.toTag]).directive? root.toTag "Class").map Attribute.value).bind
        className? := by
    intro root
    change ((Scope.inside [root.toTag]).directive? root.toTag "Class").bind _ = _
    cases (Scope.inside [root.toTag]).directive? root.toTag "Class" <;> rfl
  have sameScope : Scope.inside [(root.requalify exchange.change).toTag] =
      (Scope.inside [root.toTag]).requalify exchange.change :=
    Scope.inside_requalify exchange [root.toTag]
  rw [byValue, byValue, sameScope]
  exact congrArg (Option.bind · className?)
    (Scope.directiveValue_requalify exchange (by simp [reservedWords]) (by decide) _ root.toTag)

theorem typeOfRoot_requalify
    (namespaces : NamespaceMap)
    {root : Element}
    (renamed : root.RenamesArguments exchange.change) :
    typeOfRoot namespaces (root.requalify exchange.change) = typeOfRoot namespaces root := by
  have isListed : (root.toTag, []) ∈ root.lineages := List.mem_cons_self
  have agree := Resolver.agree_elementType exchange ⟨namespaces, .inside [root.toTag]⟩
    (renamed _ isListed)
  rw [Resolver.requalify, ← Scope.inside_requalify exchange [root.toTag]] at agree
  have byType : ∀ root : Element, typeOfRoot namespaces root =
      (Resolver.elementType ⟨namespaces, .inside [root.toTag]⟩ root.toTag).toOption.getD
        ⟨"", root.name.localName, []⟩ := by
    intro root
    rw [typeOfRoot, ← Scope.inside_nil, Scope.enter_inside]
    cases Resolver.elementType ⟨namespaces, .inside [root.toTag]⟩ root.toTag <;> rfl
  rw [byType, byType, ← agree.toOption_eq]
  rfl

/-- A renamed document is a view exactly if the document is, of the same class and type. -/
theorem ofDocument?_requalify
    (namespaces : NamespaceMap)
    {root : Element}
    (renamed : root.RenamesArguments exchange.change) :
    ofDocument? namespaces (root.requalify exchange.change) =
      (ofDocument? namespaces root).map fun view =>
        { view with document := root.requalify exchange.change } := by
  rw [ofDocument?, ofDocument?, classOf?_requalify, typeOfRoot_requalify exchange _ renamed,
    Option.map_map]
  rfl

end View

end

end ViewAccessors
