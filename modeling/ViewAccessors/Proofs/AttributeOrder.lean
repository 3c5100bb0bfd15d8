import Mathlib.Data.List.Nodup
import ViewAccessors.Proofs.Markup.Soundness
import ViewAccessors.Proofs.Markup.Writable
import ViewAccessors.Proofs.Resemblance

/-!
# The order of attributes

The order of two attributes of an element counts only if both are qualified
and share their local name, or if both declare the same qualifier.  A
reordering of a document keeps the order of such attributes and permutes the
attributes of every element apart from that.  As no element of a parsed
document has two attributes of the same name, a reordering is the same view
and has the same accessors, or the same error.
-/

namespace ViewAccessors

namespace Markup

/-! ## Reorderings -/

/--
The same element with its attributes in another order, which is the same among
the qualified attributes of each local name and among the declarations for
each qualifier.
-/
structure Tag.Reordered (tag other : Tag) : Prop where
  name : tag.name = other.name
  span : tag.span = other.span
  attributes : tag.attributes.Perm other.attributes
  qualified : ∀ localName,
    tag.attributes.filter (·.isQualified localName) =
      other.attributes.filter (·.isQualified localName)
  declarations : ∀ qualifier,
    tag.attributes.filter (·.declares qualifier) =
      other.attributes.filter (·.declares qualifier)

/-- The same node with the attributes of the elements in it reordered. -/
inductive Node.Reordered : Node → Node → Prop where
  | text (content : String) :
      Reordered (.text content) (.text content)
  | element
      {tag other : Tag}
      {children others : List Node}
      (tags : tag.Reordered other)
      (nodes : List.Forall₂ Node.Reordered children others) :
      Reordered (.element tag children) (.element other others)

/-- The same document with the attributes of its elements reordered. -/
def Element.Reordered (root other : Element) : Prop :=
  root.toNode.Reordered other.toNode

/-! ## Attributes that may change places -/

/-- Whether the attributes share a local name behind qualifiers, or declare one qualifier. -/
def Attribute.isOrderedWith (first second : Attribute) : Bool :=
  first.isQualified second.name.localName && second.name.qualifier.isSome ||
    first.declares second.declaredQualifier && second.name.declaresNamespace

theorem filter_swap_of_not_and
    {holds : Attribute → Bool}
    {first second : Attribute}
    (notBoth : ¬ (holds first = true ∧ holds second = true))
    (before after : List Attribute) :
    (before ++ first :: second :: after).filter holds =
      (before ++ second :: first :: after).filter holds := by
  rw [List.filter_append, List.filter_append]
  congr 1
  cases isFirst : holds first with
  | false => simp [List.filter_cons, isFirst]
  | true =>
      cases isSecond : holds second with
      | false => simp [isFirst, isSecond]
      | true => exact absurd ⟨isFirst, isSecond⟩ notBoth

/--
Neighbours change places in a reordering, unless they share a local name
behind qualifiers or declare one qualifier.
-/
theorem Tag.reordered_swap
    {tag : Tag}
    {before after : List Attribute}
    {first second : Attribute}
    (placed : tag.attributes = before ++ first :: second :: after)
    (apart : first.isOrderedWith second = false) :
    tag.Reordered { tag with attributes := before ++ second :: first :: after } where
  name := rfl
  span := rfl
  attributes := by
    rw [placed]
    exact (List.Perm.swap second first after).append_left before
  qualified localName := by
    rw [placed]
    apply filter_swap_of_not_and
    rintro ⟨isFirst, isSecond⟩
    rw [Attribute.isQualified, Bool.and_eq_true, beq_iff_eq] at isSecond
    rw [Attribute.isOrderedWith, isSecond.2, isFirst, isSecond.1, Bool.true_and,
      Bool.true_or] at apart
    cases apart
  declarations qualifier := by
    rw [placed]
    apply filter_swap_of_not_and
    rintro ⟨isFirst, isSecond⟩
    rw [Attribute.declares, Bool.and_eq_true, beq_iff_eq] at isSecond
    rw [Attribute.isOrderedWith, ← isSecond.2, isFirst, isSecond.1, Bool.true_and,
      Bool.or_true] at apart
    cases apart

/-! ## What is read of a reordering -/

/-- Among attributes of distinct names, the one of a given name is found wherever it stands. -/
theorem Tag.attribute?_eq_some_iff
    {tag : Tag}
    (distinct : (tag.attributes.map Attribute.name).Nodup)
    {qualifier : Option String}
    {localName : String}
    {entry : Attribute} :
    tag.attribute? qualifier localName = some entry ↔
      entry ∈ tag.attributes ∧ entry.name = ⟨qualifier, localName⟩ := by
  rw [attribute?]
  constructor
  · intro found
    exact ⟨List.mem_of_find?_eq_some found, by simpa using List.find?_some found⟩
  · rintro ⟨member, isNamed⟩
    cases found : tag.attributes.find? fun entry => entry.name = ⟨qualifier, localName⟩ with
    | none => exact absurd (decide_eq_true isNamed) (List.find?_eq_none.mp found entry member)
    | some other =>
        have sameName : other.name = entry.name := by
          rw [isNamed]
          simpa using List.find?_some found
        rw [List.inj_on_of_nodup_map distinct (List.mem_of_find?_eq_some found) member sameName]

theorem Tag.Reordered.resembles
    {tag other : Tag}
    (reordered : tag.Reordered other)
    (distinct : (tag.attributes.map Attribute.name).Nodup) :
    other.Resembles tag where
  name := reordered.name.symm
  span := reordered.span.symm
  declarations qualifier := (reordered.declarations qualifier).symm
  directives localName _ := (reordered.qualified localName).symm
  plainName := by
    -- Nothing keeps unqualified attributes in order, but there is one `Name` at most.
    have otherDistinct := (reordered.attributes.map Attribute.name).nodup_iff.mp distinct
    apply Option.ext
    intro entry
    rw [attribute?_eq_some_iff distinct, attribute?_eq_some_iff otherDistinct,
      reordered.attributes.mem_iff]

mutual

/--
The elements of a reordered node resemble those of the node, if no element of
it has two attributes of the same name.
-/
theorem Node.Reordered.lineages
    {around others : List Tag}
    (resemble : List.Forall₂ Tag.Resembles others around) :
    ∀ {node other : Node}, node.Reordered other →
      (∀ lineage ∈ node.lineages around, (lineage.1.attributes.map Attribute.name).Nodup) →
      List.Forall₂ Tag.ResemblesInside (other.lineages others) (node.lineages around)
  | .text _, _, reordered => by
      intro _
      cases reordered with
      | text => exact .nil
  | .element tag children, _, reordered => by
      intro distinct
      cases reordered with
      | element tags nodes =>
          rw [Node.lineages, List.forall_mem_cons] at distinct
          have resembleInside := List.Forall₂.cons (tags.resembles distinct.1) resemble
          exact .cons resembleInside
            (Node.Reordered.lineagesOfAll resembleInside nodes distinct.2)

/-- The same for nodes one after the other. -/
theorem Node.Reordered.lineagesOfAll
    {around others : List Tag}
    (resemble : List.Forall₂ Tag.Resembles others around) :
    ∀ {nodes otherNodes : List Node}, List.Forall₂ Node.Reordered nodes otherNodes →
      (∀ lineage ∈ Node.lineagesOfAll around nodes,
        (lineage.1.attributes.map Attribute.name).Nodup) →
      List.Forall₂ Tag.ResemblesInside (Node.lineagesOfAll others otherNodes)
        (Node.lineagesOfAll around nodes)
  | [], _, reordered => by
      intro _
      cases reordered with
      | nil => exact .nil
  | node :: later, _, reordered => by
      intro distinct
      cases reordered with
      | cons first reordered =>
          rw [Node.lineagesOfAll, List.forall_mem_append] at distinct
          exact List.rel_append (Node.Reordered.lineages resemble first distinct.1)
            (Node.Reordered.lineagesOfAll resemble reordered distinct.2)

end

/-- No element of a parsed document has two attributes of the same name. -/
theorem nodup_names_of_parse
    {text : String}
    {root : Element}
    (read : parse text = .ok root)
    {lineage : Tag × List Tag}
    (listed : lineage ∈ root.lineages) :
    (lineage.1.attributes.map Attribute.name).Nodup := by
  rcases exists_of_parse read with ⟨document, -, rfl⟩
  exact (Writing.writable_elementAt [] document.root _ lineage listed).distinct

/--
The order of attributes does not matter.  Whichever attributes of a parsed
document change places, as long as the qualified ones of each local name and
the declarations for each qualifier stay in their order, it is a view of the
same class with a root of the same type, or none as before, and it has the
same accessors in the same order or fails with the same error.
-/
theorem Element.same_results_of_reordered
    {text : String}
    {root other : Element}
    (read : parse text = .ok root)
    (reordered : root.Reordered other) :
    (∀ namespaces,
      View.ofDocument? namespaces other =
        (View.ofDocument? namespaces root).map fun view => { view with document := other }) ∧
    ∀ settings : AccessorSettings, settings.accessors other = settings.accessors root := by
  have resemble : other.Resembles root :=
    Node.Reordered.lineages .nil reordered fun _ => nodup_names_of_parse read
  exact ⟨resemble.ofDocument?_eq, resemble.accessors_eq⟩

namespace Button

def standardDeclaration : Attribute :=
  ⟨⟨none, "xmlns"⟩, "using:App", ⟨⟨8, 1, 9⟩, ⟨25, 1, 26⟩⟩⟩

def declaration : Attribute :=
  ⟨⟨some "xmlns", "x"⟩, xamlNamespace, ⟨⟨26, 1, 27⟩, ⟨80, 1, 81⟩⟩⟩

def directive : Attribute :=
  ⟨⟨some "x", "Name"⟩, "ok", ⟨⟨81, 1, 82⟩, ⟨92, 1, 93⟩⟩⟩

def plainName : Attribute :=
  ⟨⟨none, "Name"⟩, "plain", ⟨⟨93, 1, 94⟩, ⟨105, 1, 106⟩⟩⟩

/-- The attributes in the order in which they are written. -/
def attributes : List Attribute :=
  [standardDeclaration, declaration, directive, plainName]

/-- The button with its attributes in some order. -/
def element (attributes : List Attribute) : Element where
  name := ⟨none, "Button"⟩
  attributes := attributes
  span := ⟨⟨0, 1, 1⟩, ⟨107, 1, 108⟩⟩
  children := []

/-- The button as it is written. -/
def sourceText : String :=
  "<Button xmlns=\"using:App\" xmlns:x=\"http://schemas.microsoft.com/winfx/2006/xaml\" " ++
    "x:Name=\"ok\" Name=\"plain\"/>"

end Button

open Button in
/--
A button keeps the name of its directive when the qualifier is declared behind
the directive, and when the plain name comes before it.
-/
theorem Element.same_results_of_reordered_button :
    let settings : AccessorSettings := ⟨.wellKnown, default, default⟩
    let accessor : Accessor := ⟨"global::App.Button", "ok", .ownClass⟩
    parse sourceText = .ok (element attributes) ∧
      settings.accessors (element [standardDeclaration, directive, declaration, plainName]) =
        .ok [accessor] ∧
      settings.accessors (element [standardDeclaration, declaration, plainName, directive]) =
        .ok [accessor] := by
  intro settings accessor
  have read : (parse sourceText).map (fun root => (root.toTag, root.children.isEmpty)) =
      .ok ((element attributes).toTag, true) := by
    decide +kernel
  rcases map_eq_ok_iff.mp read with ⟨⟨tag, children⟩, parsed, same⟩
  rw [Prod.mk.injEq, List.isEmpty_iff] at same
  rcases same with ⟨rfl, rfl⟩
  have named : settings.accessors (element attributes) = .ok [accessor] := by
    decide +kernel
  have besideDeclaration : (element attributes).attributes =
      [standardDeclaration] ++ declaration :: directive :: [plainName] := rfl
  have besideName : (element attributes).attributes =
      [standardDeclaration, declaration] ++ directive :: plainName :: [] := rfl
  have declaredLater : (element attributes).Reordered
      (element [standardDeclaration, directive, declaration, plainName]) :=
    .element (Tag.reordered_swap besideDeclaration (by decide)) .nil
  have plainFirst : (element attributes).Reordered
      (element [standardDeclaration, declaration, plainName, directive]) :=
    .element (Tag.reordered_swap besideName (by decide)) .nil
  refine ⟨parsed, ?_, ?_⟩
  · exact ((same_results_of_reordered parsed declaredLater).2 settings).trans named
  · exact ((same_results_of_reordered parsed plainFirst).2 settings).trans named

end Markup

end ViewAccessors
