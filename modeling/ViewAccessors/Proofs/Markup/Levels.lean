import ViewAccessors.Proofs.Markup.Soundness

/-!
# How many levels elements take

An element takes one level more than the elements inside it.  A writing takes
as many levels as the tree that it writes, wherever it stands, and it is read
back exactly if there is room for its levels.
-/

namespace ViewAccessors.Markup

/-! ## Levels of trees -/

mutual

/-- How many elements stand inside one another in a node. -/
def Node.levels : Node → Nat
  | .text _ => 0
  | .element _ children => Node.levelsOfAll children + 1

/-- How many elements stand inside one another in one of the nodes. -/
def Node.levelsOfAll : List Node → Nat
  | [] => 0
  | node :: others => max node.levels (Node.levelsOfAll others)

end

/-- How many elements stand inside one another in an element, itself included. -/
def Element.levels (element : Element) : Nat :=
  element.toNode.levels

theorem Node.levelsOfAll_append (first second : List Node) :
    Node.levelsOfAll (first ++ second) =
      max (Node.levelsOfAll first) (Node.levelsOfAll second) := by
  induction first with
  | nil => exact (Nat.zero_max _).symm
  | cons node others hypothesis =>
      rw [List.cons_append, levelsOfAll, levelsOfAll, hypothesis, Nat.max_assoc]

theorem Node.levels_le_of_mem
    {node : Node}
    {nodes : List Node}
    (member : node ∈ nodes) :
    node.levels ≤ Node.levelsOfAll nodes := by
  induction nodes with
  | nil => cases member
  | cons first others hypothesis =>
      rw [levelsOfAll]
      cases member with
      | head => exact Nat.le_max_left _ _
      | tail _ later => exact Nat.le_trans (hypothesis later) (Nat.le_max_right _ _)

mutual

/-- No element stands too deep exactly if there is room for all levels. -/
theorem Node.firstAtDepth?_lineages_eq_none_iff
    {depth room : Nat}
    {around : List Tag}
    (level : around.length + room = depth) :
    ∀ node : Node,
      firstAtDepth? depth (node.lineages around) = none ↔ node.levels ≤ room
  | .text _ => by
      simp [lineages, levels]
  | .element tag children => by
      cases room with
      | zero =>
          rw [firstAtDepth?_element_of_eq level]
          simp [levels]
      | succ room =>
          have elsewhere : around.length ≠ depth := by
            omega
          have inside : (tag :: around).length + room = depth := by
            rw [List.length_cons]
            omega
          rw [firstAtDepth?_element_of_ne elsewhere, levels, Nat.add_le_add_iff_right]
          exact firstAtDepth?_lineagesOfAll_eq_none_iff inside children

/-- The same for nodes one after the other. -/
theorem Node.firstAtDepth?_lineagesOfAll_eq_none_iff
    {depth room : Nat}
    {around : List Tag}
    (level : around.length + room = depth) :
    ∀ nodes : List Node,
      firstAtDepth? depth (Node.lineagesOfAll around nodes) = none ↔
        Node.levelsOfAll nodes ≤ room
  | [] => by
      simp [lineagesOfAll, levelsOfAll]
  | node :: others => by
      rw [lineagesOfAll, firstAtDepth?_append, Option.or_eq_none_iff, levelsOfAll, Nat.max_le,
        firstAtDepth?_lineages_eq_none_iff level node,
        firstAtDepth?_lineagesOfAll_eq_none_iff level others]

end

/-! ## Levels of writings -/

namespace Writing

mutual

/-- How many elements are written inside one another, this one included. -/
def Element.levels : Element → Nat
  | .closed _ => 1
  | .filled _ content _ => content.levels + 1

/-- How many elements are written inside one another in a content. -/
def Content.levels : Content → Nat
  | .last _ => 0
  | .enclosed _ _ others => others.levels
  | .child _ element others => max element.levels others.levels

end

theorem CharacterData.levelsOfAll_nodes (data : CharacterData) :
    Node.levelsOfAll data.nodes = 0 := by
  cases data with
  | blank run => rfl
  | visible phrase notBlank => rfl

theorem Enclosed.levelsOfAll_nodes
    {allowed : List Enclosure}
    (construct : Enclosed allowed) :
    Node.levelsOfAll construct.nodes = 0 := by
  rw [nodes]
  split <;> rfl

mutual

/-- The place where an element is written does not change its levels. -/
theorem Element.levels_elementAt :
    ∀ (element : Element) (opening : Position),
      (element.elementAt opening).levels = element.levels
  | .closed tag, opening => rfl
  | .filled tag content blanks, opening => by
      rw [Element.levels, ← Content.levelsOfAll_nodesAt content]
      rfl

/-- The same for content. -/
theorem Content.levelsOfAll_nodesAt :
    ∀ (content : Content) (place : Position),
      Node.levelsOfAll (content.nodesAt place) = content.levels
  | .last data, place =>
      data.levelsOfAll_nodes
  | .enclosed data construct others, place => by
      rw [Content.nodesAt, Node.levelsOfAll_append, Node.levelsOfAll_append,
        data.levelsOfAll_nodes, construct.levelsOfAll_nodes, Content.levelsOfAll_nodesAt others,
        Content.levels, Nat.max_self, Nat.zero_max]
  | .child data element others, place => by
      rw [Content.nodesAt, Node.levelsOfAll_append, data.levelsOfAll_nodes, Nat.zero_max,
        Node.levelsOfAll, Content.levelsOfAll_nodesAt others, Content.levels]
      exact congrArg (max · others.levels) (element.levels_elementAt _)

end

end Writing

/-! ## Room for levels -/

/-- An element is read back if there is room for its levels, and fails otherwise. -/
theorem outcome_readElement_eq
    {room : Nat}
    (within : room ≤ maximumNesting)
    (element : Writing.Element)
    (opening : Position)
    (rest : List Char) :
    ∃ offender : Option Tag,
      outcome (readElement room opening ⟨opening.step '<', element.tail ++ rest⟩) =
          unlessTooDeep offender
            (element.elementAt opening, ⟨opening.after element.text, rest⟩) ∧
        (offender = none ↔ element.levels ≤ room) := by
  -- Any elements around will do, as long as they take up what is missing of the room.
  let around : List Tag :=
    List.replicate (maximumNesting - room) (element.elementAt opening).toTag
  have level : around.length + room = maximumNesting := by
    rw [List.length_replicate]
    omega
  refine ⟨_, outcome_readElement_append element level opening rest, ?_⟩
  rw [Node.firstAtDepth?_lineages_eq_none_iff level, ← element.levels_elementAt opening]
  rfl

theorem outcome_readElement_of_levels_le
    {room : Nat}
    (within : room ≤ maximumNesting)
    {element : Writing.Element}
    (fits : element.levels ≤ room)
    (opening : Position)
    (rest : List Char) :
    outcome (readElement room opening ⟨opening.step '<', element.tail ++ rest⟩) =
      .ok (element.elementAt opening, ⟨opening.after element.text, rest⟩) := by
  rcases outcome_readElement_eq within element opening rest with ⟨offender, read, shallow⟩
  rw [read, shallow.mpr fits]
  rfl

/-- What is read as an element is written as one for which there was room. -/
theorem exists_levels_le_of_readElement
    {room : Nat}
    (within : room ≤ maximumNesting)
    {opening : Position}
    {inside next : Cursor}
    {element : Element}
    (begins : inside.place = opening.step '<')
    (read : outcome (readElement room opening inside) = .ok (element, next)) :
    ∃ written : Writing.Element,
      written.elementAt opening = element ∧ inside.Passes written.tail next ∧
        written.levels ≤ room := by
  rcases exists_of_readElement room begins read with ⟨written, isElement, passes⟩
  refine ⟨written, isElement, passes, ?_⟩
  rcases outcome_readElement_eq within written opening next.rest with
    ⟨offender, readBack, shallow⟩
  have same : inside = ⟨opening.step '<', written.tail ++ next.rest⟩ := by
    rw [← passes.1, ← begins]
  rw [← same, read] at readBack
  apply shallow.mp
  cases offender with
  | none => rfl
  | some tag => cases readBack

/-! ## Documents -/

/-- No element of a document is too deep exactly if there is room for its levels. -/
theorem Writing.Document.firstAtDepth?_tree_eq_none_iff (document : Writing.Document) :
    firstAtDepth? maximumNesting document.tree.lineages = none ↔
      document.root.levels ≤ maximumNesting := by
  have level : ([] : List Tag).length + maximumNesting = maximumNesting :=
    Nat.zero_add maximumNesting
  rw [Element.lineages, Node.firstAtDepth?_lineages_eq_none_iff level, tree,
    ← document.root.levels_elementAt (Position.start.after document.before.text)]
  rfl

/-- A document is read back if its elements take no more levels than are allowed. -/
theorem readDocument_of_levels_le
    {document : Writing.Document}
    (fits : document.root.levels ≤ maximumNesting) :
    readDocument document.body = .ok document.tree := by
  rw [readDocument_body, document.firstAtDepth?_tree_eq_none_iff.mpr fits]
  rfl

theorem parse_of_levels_le
    (before after : Writing.Misc)
    {root : Writing.Element}
    (fits : root.levels ≤ maximumNesting) :
    parse (String.ofList (before.text ++ (root.text ++ after.text))) =
      .ok (root.elementAt (Position.start.after before.text)) := by
  let document : Writing.Document := ⟨false, before, root, after⟩
  have unmarked : withoutByteOrderMark document.text = document.body :=
    withoutByteOrderMark_text document
  rw [parse, String.toList_ofList]
  change readDocument (withoutByteOrderMark document.text) = .ok document.tree
  rw [unmarked, readDocument_of_levels_le fits]

/-- What is read as a document is written as one that takes no more levels than are allowed. -/
theorem exists_levels_le_of_readDocument
    {text : List Char}
    {root : Element}
    (read : readDocument text = .ok root) :
    ∃ document : Writing.Document,
      document.body = text ∧ document.tree = root ∧ document.root.levels ≤ maximumNesting := by
  rcases exists_of_readDocument read false with ⟨document, -, rfl, rfl⟩
  refine ⟨document, rfl, rfl, ?_⟩
  apply document.firstAtDepth?_tree_eq_none_iff.mp
  rw [readDocument_body] at read
  cases offender : firstAtDepth? maximumNesting document.tree.lineages with
  | none => rfl
  | some tag =>
      rw [offender] at read
      cases read

end ViewAccessors.Markup
