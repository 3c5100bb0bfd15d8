import ViewAccessors.Proofs.Resemblance

/-!
# Markup without influence

Texts are never read, and neither are attributes that declare no namespace and
have no local name of a directive.  Without them a document is the same view
and has the same accessors, or the same error.
-/

namespace ViewAccessors

namespace Markup

/-! ## Documents without the markup that is not read -/

namespace Attribute

/-- Whether the attribute declares a namespace or has the local name of a directive. -/
def isRelevant (entry : Attribute) : Bool :=
  entry.name.declaresNamespace || directiveNames.contains entry.name.localName

theorem isRelevant_of_declares
    {entry : Attribute}
    {qualifier : String}
    (declares : entry.declares qualifier = true) :
    entry.isRelevant = true := by
  rw [Attribute.declares, Bool.and_eq_true] at declares
  rw [isRelevant, declares.1, Bool.true_or]

theorem isRelevant_of_mem_directiveNames
    {entry : Attribute}
    (isRead : entry.name.localName ∈ directiveNames) :
    entry.isRelevant = true := by
  rw [isRelevant, List.contains_iff_mem.mpr isRead, Bool.or_true]

end Attribute

/-- The element without its irrelevant attributes. -/
def Tag.stripped (tag : Tag) : Tag :=
  { tag with attributes := tag.attributes.filter Attribute.isRelevant }

mutual

/-- What is left of a node without texts and irrelevant attributes: nothing, if it is a text. -/
def Node.stripped : Node → List Node
  | .text _ => []
  | .element tag children => [.element tag.stripped (Node.strippedAll children)]

/-- What is left of a list of nodes without texts and irrelevant attributes. -/
def Node.strippedAll : List Node → List Node
  | [] => []
  | node :: others => node.stripped ++ Node.strippedAll others

end

/-- The document without texts and irrelevant attributes, at every level. -/
def Element.stripped (root : Element) : Element :=
  { root.toTag.stripped with children := Node.strippedAll root.children }

/-- A width and a text go, a name that may be a directive stays. -/
example :
    Node.strippedAll [
      .element ⟨⟨none, "Box"⟩, [⟨⟨none, "Width"⟩, "1", default⟩,
        ⟨⟨some "x", "Name"⟩, "box", default⟩], default⟩ [.text "content"]] =
      [.element ⟨⟨none, "Box"⟩, [⟨⟨some "x", "Name"⟩, "box", default⟩], default⟩ []] := by
  rfl

/-! ## The elements that are left -/

mutual

theorem Node.lineages_stripped
    (around : List Tag) :
    ∀ node : Node,
      Node.lineagesOfAll (around.map Tag.stripped) node.stripped =
        (node.lineages around).map fun (tag, around) => (tag.stripped, around.map Tag.stripped)
  | .text _ => rfl
  | .element tag children => by
      rw [stripped, lineagesOfAll, lineagesOfAll, List.append_nil, lineages, lineages,
        List.map_cons, ← List.map_cons, Node.lineagesOfAll_stripped (tag :: around) children]

theorem Node.lineagesOfAll_stripped
    (around : List Tag) :
    ∀ nodes : List Node,
      Node.lineagesOfAll (around.map Tag.stripped) (Node.strippedAll nodes) =
        (Node.lineagesOfAll around nodes).map fun (tag, around) =>
          (tag.stripped, around.map Tag.stripped)
  | [] => rfl
  | node :: others => by
      rw [strippedAll, lineagesOfAll_append, lineagesOfAll, List.map_append,
        Node.lineages_stripped around node, Node.lineagesOfAll_stripped around others]

end

/-- No element is lost, and the elements around it stay around it. -/
theorem Element.lineages_stripped (root : Element) :
    root.stripped.lineages =
      root.lineages.map fun (tag, around) => (tag.stripped, around.map Tag.stripped) := by
  have whole := Node.lineages_stripped [] root.toNode
  rw [toNode, Node.stripped, Node.lineagesOfAll, Node.lineagesOfAll, List.append_nil] at whole
  exact whole

/-! ## What is read of them -/

/-- Every attribute that is read is relevant, so the others can go unnoticed. -/
theorem Tag.stripped_resembles (tag : Tag) : tag.stripped.Resembles tag where
  name := rfl
  span := rfl
  declarations qualifier := by
    rw [stripped, List.filter_filter]
    apply List.filter_congr
    intro entry _
    cases declares : entry.declares qualifier with
    | false => rfl
    | true => rw [Attribute.isRelevant_of_declares declares, Bool.and_true]
  directives localName isRead := by
    rw [stripped, List.filter_filter]
    apply List.filter_congr
    intro entry _
    cases qualified : entry.isQualified localName with
    | false => rfl
    | true =>
        rw [Attribute.isQualified, Bool.and_eq_true, beq_iff_eq] at qualified
        rw [Attribute.isRelevant_of_mem_directiveNames (qualified.2 ▸ isRead), Bool.and_true]
  plainName := by
    rw [attribute?, attribute?, stripped, List.find?_filter]
    congr 1
    funext entry
    rw [decide_eq_decide, decide_eq_true_iff, and_iff_right_iff_imp]
    intro isPlainName
    apply Attribute.isRelevant_of_mem_directiveNames
    rw [isPlainName]
    exact List.mem_cons_self

theorem Element.stripped_resembles (root : Element) : root.stripped.Resembles root := by
  rw [Resembles, lineages_stripped, List.forall₂_map_left_iff, List.forall₂_same]
  rintro ⟨tag, around⟩ _
  show List.Forall₂ Tag.Resembles ((tag :: around).map Tag.stripped) (tag :: around)
  rw [List.forall₂_map_left_iff, List.forall₂_same]
  intro ancestor _
  exact ancestor.stripped_resembles

/--
Texts and irrelevant attributes have no influence.  Without them, at every
level of a document, it is a view of the same class with a root of the same
type, or none as before, and it has the same accessors in the same order or
fails with the same error.
-/
theorem Element.same_results_of_stripped (root : Element) :
    (∀ namespaces,
      View.ofDocument? namespaces root.stripped =
        (View.ofDocument? namespaces root).map fun view =>
          { view with document := root.stripped }) ∧
    ∀ settings : AccessorSettings, settings.accessors root.stripped = settings.accessors root :=
  ⟨root.stripped_resembles.ofDocument?_eq, root.stripped_resembles.accessors_eq⟩

end Markup

end ViewAccessors
