import ViewAccessors.Markup.Tree

/-!
# Elements and the elements around them

The elements of a tree are listed in the order of the text, each with the
elements around it.  How deep an element stands is the number of the elements
around it.
-/

namespace ViewAccessors.Markup

/-! ## Lineages -/

mutual

/--
The elements in a node in the order of the text, each with the elements
around it, the innermost first.  `around` are the elements around the node.
-/
def Node.lineages
    (around : List Tag) :
    Node → List (Tag × List Tag)
  | .text _ => []
  | .element tag children => (tag, around) :: Node.lineagesOfAll (tag :: around) children

/-- The elements in a list of nodes in the order of the text, each with the elements around it. -/
def Node.lineagesOfAll
    (around : List Tag) :
    List Node → List (Tag × List Tag)
  | [] => []
  | node :: others => node.lineages around ++ Node.lineagesOfAll around others

end

/-- The elements of a document in the order of the text, each with the elements around it. -/
def Element.lineages (root : Element) : List (Tag × List Tag) :=
  root.toNode.lineages []

theorem Node.lineagesOfAll_append
    (around : List Tag)
    (first second : List Node) :
    Node.lineagesOfAll around (first ++ second) =
      Node.lineagesOfAll around first ++ Node.lineagesOfAll around second := by
  induction first with
  | nil => rfl
  | cons node others hypothesis =>
      rw [List.cons_append, lineagesOfAll, lineagesOfAll, hypothesis, List.append_assoc]

/-! ## Depth -/

/-- The first of the listed elements that has the given number of elements around it. -/
def firstAtDepth?
    (depth : Nat)
    (lineages : List (Tag × List Tag)) :
    Option Tag :=
  (lineages.find? fun (_, around) => around.length = depth).map Prod.fst

@[simp]
theorem firstAtDepth?_nil (depth : Nat) :
    firstAtDepth? depth [] = none :=
  rfl

theorem firstAtDepth?_append
    (depth : Nat)
    (first second : List (Tag × List Tag)) :
    firstAtDepth? depth (first ++ second) =
      (firstAtDepth? depth first).or (firstAtDepth? depth second) := by
  rw [firstAtDepth?, List.find?_append]
  cases found : first.find? fun (_, around) => around.length = depth with
  | none => simp [firstAtDepth?, found]
  | some lineage => simp [firstAtDepth?, found]

theorem firstAtDepth?_element_of_eq
    {depth : Nat}
    {around : List Tag}
    (here : around.length = depth)
    (tag : Tag)
    (children : List Node) :
    firstAtDepth? depth (Node.lineages around (.element tag children)) = some tag := by
  simp [Node.lineages, firstAtDepth?, here]

theorem firstAtDepth?_element_of_ne
    {depth : Nat}
    {around : List Tag}
    (elsewhere : around.length ≠ depth)
    (tag : Tag)
    (children : List Node) :
    firstAtDepth? depth (Node.lineages around (.element tag children)) =
      firstAtDepth? depth (Node.lineagesOfAll (tag :: around) children) := by
  simp [Node.lineages, firstAtDepth?, elsewhere]

mutual

/-- An element that is too deep stands in one that is just too deep. -/
theorem Node.length_lt_of_firstAtDepth?
    {depth : Nat}
    {around : List Tag}
    (within : around.length ≤ depth) :
    ∀ node : Node,
      firstAtDepth? depth (node.lineages around) = none →
      ∀ lineage ∈ node.lineages around, lineage.2.length < depth
  | .text _ => by
      intro _ lineage member
      cases member
  | .element tag children => by
      intro absent lineage member
      have elsewhere : around.length ≠ depth := by
        intro here
        rw [firstAtDepth?_element_of_eq here] at absent
        cases absent
      rw [firstAtDepth?_element_of_ne elsewhere] at absent
      have closer : around.length < depth := Nat.lt_of_le_of_ne within elsewhere
      rw [lineages] at member
      cases member with
      | head => exact closer
      | tail _ later => exact length_lt_of_firstAtDepth?_all closer children absent lineage later

/-- The same for nodes one after the other. -/
theorem Node.length_lt_of_firstAtDepth?_all
    {depth : Nat}
    {around : List Tag}
    (within : around.length ≤ depth) :
    ∀ nodes : List Node,
      firstAtDepth? depth (Node.lineagesOfAll around nodes) = none →
      ∀ lineage ∈ Node.lineagesOfAll around nodes, lineage.2.length < depth
  | [] => by
      intro _ lineage member
      cases member
  | node :: others => by
      intro absent lineage member
      rw [lineagesOfAll, firstAtDepth?_append, Option.or_eq_none_iff] at absent
      rcases List.mem_append.mp member with early | late
      · exact length_lt_of_firstAtDepth? within node absent.1 lineage early
      · exact length_lt_of_firstAtDepth?_all within others absent.2 lineage late

end

/-- No element stands at some depth exactly if no element stands at that depth or deeper. -/
theorem Element.firstAtDepth?_lineages_eq_none_iff
    (root : Element)
    (depth : Nat) :
    firstAtDepth? depth root.lineages = none ↔
      ∀ lineage ∈ root.lineages, lineage.2.length < depth := by
  constructor
  · exact root.toNode.length_lt_of_firstAtDepth? (Nat.zero_le depth)
  · intro shallow
    rw [firstAtDepth?, Option.map_eq_none_iff, List.find?_eq_none]
    intro lineage member
    simpa using Nat.ne_of_lt (shallow lineage member)

end ViewAccessors.Markup
