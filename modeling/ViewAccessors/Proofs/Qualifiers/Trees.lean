import ViewAccessors.Proofs.Markup.Lineages
import ViewAccessors.Proofs.Qualifiers.Runs

/-!
# Qualifiers in trees

A qualifier occurs in a tree before the local name of an element or of an
attribute, as the name that a namespace declaration declares, and in the value
of an attribute that holds type arguments.  Changing the qualifiers of a tree
changes all of these and nothing else.
-/

namespace ViewAccessors.Markup

namespace Name

/-- The name with its qualifier changed. -/
def requalify
    (change : String → String)
    (name : Name) :
    Name :=
  { name with qualifier := name.qualifier.map change }

end Name

namespace Attribute

/-- Whether the attribute declares a namespace under a qualifier. -/
def declaresQualifier (entry : Attribute) : Bool :=
  entry.name.qualifier == some "xmlns"

/-- Whether the value is a list of type arguments and no namespace that is declared. -/
def holdsTypeArguments (entry : Attribute) : Bool :=
  entry.name.localName == "TypeArguments" && !entry.declaresQualifier

/-- The attribute with the qualifiers in its name and in its type arguments changed. -/
def requalify
    (change : String → String)
    (entry : Attribute) :
    Attribute where
  name :=
    if entry.declaresQualifier then
      { entry.name with localName := change entry.name.localName }
    else
      entry.name.requalify change
  value :=
    if entry.holdsTypeArguments then
      String.ofList (TypeArguments.requalify change entry.value.toList)
    else
      entry.value
  span := entry.span

/--
The qualifiers that occur in an attribute.  Those in the value of any
attribute called `TypeArguments` count, even if it declares a namespace.
-/
def qualifiers (entry : Attribute) : List String :=
  entry.name.qualifier.toList
    ++ (if entry.declaresQualifier then [entry.name.localName] else [])
    ++ (if entry.name.localName = "TypeArguments" then
          TypeArguments.qualifiers entry.value.toList
        else
          [])

end Attribute

namespace Tag

/-- The element with the qualifiers of its name and of its attributes changed. -/
def requalify
    (change : String → String)
    (tag : Tag) :
    Tag where
  name := tag.name.requalify change
  attributes := tag.attributes.map (Attribute.requalify change)
  span := tag.span

/-- The qualifiers that occur in a tag. -/
def qualifiers (tag : Tag) : List String :=
  tag.name.qualifier.toList ++ tag.attributes.flatMap Attribute.qualifiers

end Tag

mutual

/-- The node with the qualifiers of all elements in it changed. -/
def Node.requalify
    (change : String → String) :
    Node → Node
  | .text content => .text content
  | .element tag children => .element (tag.requalify change) (Node.requalifyAll change children)

/-- Nodes with the qualifiers of all elements in them changed. -/
def Node.requalifyAll
    (change : String → String) :
    List Node → List Node
  | [] => []
  | node :: others => node.requalify change :: Node.requalifyAll change others

end

namespace Element

/-- The document with all its qualifiers changed. -/
def requalify
    (change : String → String)
    (root : Element) :
    Element :=
  { root.toTag.requalify change with children := Node.requalifyAll change root.children }

/-- The qualifier occurs in some element of the document. -/
def Mentions
    (root : Element)
    (qualifier : String) :
    Prop :=
  ∃ lineage ∈ root.lineages, qualifier ∈ lineage.1.qualifiers

end Element

/-- The change of one qualifier into another. -/
def replacement
    (old new qualifier : String) :
    String :=
  if qualifier = old then new else qualifier

/-! ## Changes that agree on what occurs -/

section

variable {first second : String → String}

theorem Name.requalify_congr
    {name : Name}
    (agree : ∀ qualifier ∈ name.qualifier, first qualifier = second qualifier) :
    name.requalify first = name.requalify second := by
  rw [requalify, requalify]
  cases found : name.qualifier with
  | none => rfl
  | some qualifier => rw [Option.map_some, Option.map_some, agree qualifier found]

theorem Attribute.requalify_congr
    {entry : Attribute}
    (agree : ∀ qualifier ∈ entry.qualifiers, first qualifier = second qualifier) :
    entry.requalify first = entry.requalify second := by
  simp only [qualifiers, List.forall_mem_append, Option.mem_toList] at agree
  rcases agree with ⟨⟨agreeName, agreeDeclared⟩, agreeArguments⟩
  rw [requalify, requalify, Attribute.mk.injEq]
  refine ⟨?_, ?_, rfl⟩
  · split
    · rename_i declares
      rw [if_pos declares, List.forall_mem_singleton] at agreeDeclared
      rw [agreeDeclared]
    · exact Name.requalify_congr agreeName
  · split
    · rename_i holds
      rw [holdsTypeArguments, Bool.and_eq_true, beq_iff_eq] at holds
      rw [if_pos holds.1] at agreeArguments
      rw [TypeArguments.requalify_congr agreeArguments]
    · rfl

theorem Tag.requalify_congr
    {tag : Tag}
    (agree : ∀ qualifier ∈ tag.qualifiers, first qualifier = second qualifier) :
    tag.requalify first = tag.requalify second := by
  simp only [qualifiers, List.forall_mem_append, Option.mem_toList, List.forall_mem_flatMap]
    at agree
  rcases agree with ⟨agreeName, agreeAttributes⟩
  rw [requalify, requalify, Name.requalify_congr agreeName]
  congr 1
  exact List.map_congr_left fun entry member =>
    Attribute.requalify_congr (agreeAttributes entry member)

mutual

theorem Node.requalify_congr
    (around : List Tag) :
    ∀ node : Node,
      (∀ lineage ∈ node.lineages around, ∀ qualifier ∈ lineage.1.qualifiers,
        first qualifier = second qualifier) →
      node.requalify first = node.requalify second
  | .text content => fun _ => rfl
  | .element tag children => by
      intro agree
      rw [lineages, List.forall_mem_cons] at agree
      rw [Node.requalify, Node.requalify, Tag.requalify_congr agree.1,
        Node.requalifyAll_congr (tag :: around) children agree.2]

theorem Node.requalifyAll_congr
    (around : List Tag) :
    ∀ nodes : List Node,
      (∀ lineage ∈ Node.lineagesOfAll around nodes, ∀ qualifier ∈ lineage.1.qualifiers,
        first qualifier = second qualifier) →
      Node.requalifyAll first nodes = Node.requalifyAll second nodes
  | [] => fun _ => rfl
  | node :: others => by
      intro agree
      rw [lineagesOfAll, List.forall_mem_append] at agree
      rw [Node.requalifyAll, Node.requalifyAll, Node.requalify_congr around node agree.1,
        Node.requalifyAll_congr around others agree.2]

end

/-- Changes that agree on the qualifiers that occur change a document in the same way. -/
theorem Element.requalify_congr
    {root : Element}
    (agree : ∀ qualifier, root.Mentions qualifier → first qualifier = second qualifier) :
    root.requalify first = root.requalify second := by
  have agreeInside : ∀ lineage ∈ root.lineages, ∀ qualifier ∈ lineage.1.qualifiers,
      first qualifier = second qualifier :=
    fun lineage member qualifier occurs => agree qualifier ⟨lineage, member, occurs⟩
  rw [lineages, toNode, Node.lineages, List.forall_mem_cons] at agreeInside
  rw [requalify, requalify, Tag.requalify_congr agreeInside.1,
    Node.requalifyAll_congr _ root.children agreeInside.2]

end

/-! ## The elements of a changed document -/

section

variable (change : String → String)

mutual

theorem Node.lineages_requalify
    (around : List Tag) :
    ∀ node : Node,
      (node.requalify change).lineages (around.map (Tag.requalify change)) =
        (node.lineages around).map fun (tag, around) =>
          (tag.requalify change, around.map (Tag.requalify change))
  | .text _ => rfl
  | .element tag children => by
      rw [requalify, lineages, lineages, List.map_cons, ← List.map_cons,
        Node.lineagesOfAll_requalify (tag :: around) children]

theorem Node.lineagesOfAll_requalify
    (around : List Tag) :
    ∀ nodes : List Node,
      Node.lineagesOfAll (around.map (Tag.requalify change)) (Node.requalifyAll change nodes) =
        (Node.lineagesOfAll around nodes).map fun (tag, around) =>
          (tag.requalify change, around.map (Tag.requalify change))
  | [] => rfl
  | node :: others => by
      rw [requalifyAll, lineagesOfAll, lineagesOfAll, List.map_append,
        Node.lineages_requalify around node, Node.lineagesOfAll_requalify around others]

end

/-- The elements of a changed document are the changed elements, those around them changed too. -/
theorem Element.lineages_requalify (root : Element) :
    (root.requalify change).lineages =
      root.lineages.map fun (tag, around) =>
        (tag.requalify change, around.map (Tag.requalify change)) :=
  root.toNode.lineages_requalify change []

end

end ViewAccessors.Markup
