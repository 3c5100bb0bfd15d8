import Mathlib.Data.List.Nodup
import ViewAccessors.Proofs.Markup.Completeness

/-!
# The trees that can be written

A tree can be written exactly if its names can be written and no element has
two attributes of the same name.  One way to write such a tree is chosen here:
a text of blanks is written as character data, every other text with
references for brackets and ampersands and with an empty comment after it.
The places in a tree depend on how it is written and are left out.
-/

namespace ViewAccessors.Markup

/-! ## Trees without places -/

def Attribute.withoutPlaces (entry : Attribute) : Attribute :=
  { entry with span := default }

def Tag.withoutPlaces (tag : Tag) : Tag :=
  ⟨tag.name, tag.attributes.map Attribute.withoutPlaces, default⟩

mutual

/-- The node without the places of what is in it. -/
def Node.withoutPlaces : Node → Node
  | .text content => .text content
  | .element tag children => .element tag.withoutPlaces (Node.allWithoutPlaces children)

def Node.allWithoutPlaces : List Node → List Node
  | [] => []
  | node :: others => node.withoutPlaces :: Node.allWithoutPlaces others

end

/-- The element without the places of what is in it. -/
def Element.withoutPlaces (element : Element) : Element :=
  ⟨element.toTag.withoutPlaces, Node.allWithoutPlaces element.children⟩

/-! ## What can be written -/

/-- A name that is the name of an element or an attribute in some writing. -/
def Name.Writable (name : Name) : Prop :=
  ∃ written : Writing.Name, Name.ofText written.string = name

/-- A start tag of which the names can be written and no two attributes have the same name. -/
structure Tag.Writable (tag : Tag) : Prop where
  name : tag.name.Writable
  attributes : ∀ entry ∈ tag.attributes, entry.name.Writable
  distinct : (tag.attributes.map Attribute.name).Nodup

/-- An element of which every start tag can be written. -/
def Element.Writable (root : Element) : Prop :=
  ∀ lineage ∈ root.lineages, lineage.1.Writable

/-! ## A way to write a text -/

namespace Writing

theorem denotes_of_find?
    {character : Char}
    {entry : List Char × Char}
    (found : Reference.named.find? (fun entry => entry.2 = character) = some entry) :
    Reference.Denotes entry.1 character := by
  have isCharacter : entry.2 = character := by
    simpa using List.find?_some found
  have member := List.mem_of_find?_eq_some found
  cases isCharacter
  exact .named member

/-- The character under its name, if it has one, or else itself. -/
def Symbol.standard (character : Char) : Symbol :=
  match found : Reference.named.find? fun entry => entry.2 = character with
  | some (body, _) => .reference body character (denotes_of_find? found)
  | none =>
    .plain character (by
      rintro rfl
      cases found)

theorem Symbol.character_standard (character : Char) :
    (Symbol.standard character).character = character := by
  rw [standard]
  split
  · rfl
  · rfl

theorem Symbol.notMem_text_standard
    {delimiter : Char}
    (known : delimiter = '<' ∨ delimiter = '"')
    (character : Char) :
    delimiter ∉ (Symbol.standard character).text := by
  rw [standard]
  split
  · rename_i body _ found
    have noReference : ∀ entry ∈ Reference.named,
        '<' ∉ '&' :: entry.1 ++ [';'] ∧ '"' ∉ '&' :: entry.1 ++ [';'] := by decide
    rcases known with rfl | rfl
    · exact (noReference _ (List.mem_of_find?_eq_some found)).1
    · exact (noReference _ (List.mem_of_find?_eq_some found)).2
  · rename_i unnamed
    intro member
    cases List.mem_singleton.mp member
    rcases known with rfl | rfl
    · cases unnamed
    · cases unnamed

/-- A visible character is written with a visible character. -/
theorem Symbol.exists_visible
    {symbol : Symbol}
    (visible : ¬ Text.isBlank symbol.character = true) :
    ∃ written ∈ symbol.text, ¬ Text.isBlank written = true := by
  cases symbol with
  | plain character notReference => exact ⟨character, List.mem_cons_self, visible⟩
  | reference body character denotes => exact ⟨'&', List.mem_cons_self, by decide⟩

/-- A text that is not blank is not written with blanks only. -/
theorem Phrase.all_isBlank_text
    {delimiter : Char}
    (phrase : Phrase delimiter)
    (notBlank : phrase.value.toList.all Text.isBlank = false) :
    phrase.text.all Text.isBlank = false := by
  rw [value, String.toList_ofList, List.all_eq_false] at notBlank
  rcases notBlank with ⟨character, member, visible⟩
  rcases List.mem_map.mp member with ⟨symbol, isSymbol, rfl⟩
  rcases Symbol.exists_visible visible with ⟨written, inText, isVisible⟩
  rw [List.all_eq_false]
  exact ⟨written, List.mem_flatMap_of_mem isSymbol inText, isVisible⟩

/-- A text in which every character that has a name is written under it. -/
def Phrase.standard
    {delimiter : Char}
    (known : delimiter = '<' ∨ delimiter = '"')
    (content : String) :
    Phrase delimiter where
  symbols := content.toList.map Symbol.standard
  undelimited := by
    intro member
    rcases List.mem_flatMap.mp member with ⟨symbol, isSymbol, inText⟩
    rcases List.mem_map.mp isSymbol with ⟨character, -, rfl⟩
    exact Symbol.notMem_text_standard known character inText

theorem Phrase.value_standard
    {delimiter : Char}
    (known : delimiter = '<' ∨ delimiter = '"')
    (content : String) :
    (Phrase.standard known content).value = content := by
  rw [value, standard, List.map_map]
  have same : Symbol.character ∘ Symbol.standard = id :=
    funext Symbol.character_standard
  rw [same, List.map_id, String.ofList_toList]

/-- Every text can be written before other content, and is kept apart from it. -/
theorem exists_content_text
    (content : String)
    (others : Content) :
    ∃ written : Content, ∀ place, ∃ later,
      written.nodesAt place = .text content :: others.nodesAt later := by
  cases isBlank : content.toList.all Text.isBlank with
  | true =>
      have unclosed : ¬ Enclosure.characterData.closing <:+: content.toList := by
        intro closes
        have member : ']' ∈ content.toList := closes.subset (by decide)
        have blank := List.all_eq_true.mp isBlank ']' member
        revert blank
        decide
      let section' : Enclosed Enclosure.insideElement :=
        ⟨.characterData, by simp [Enclosure.insideElement], content.toList, unclosed⟩
      refine ⟨.enclosed .none section' others, ?_⟩
      intro place
      refine ⟨place.after section'.text, ?_⟩
      have isText : section'.nodes = [.text content] := by
        rw [← String.ofList_toList (s := content)]
        rfl
      rw [Content.nodesAt, isText]
      rfl
  | false =>
      let phrase : Phrase '<' := .standard (.inl rfl) content
      have isContent : phrase.value = content := Phrase.value_standard _ content
      have visible : phrase.text.all Text.isBlank = false := by
        apply Phrase.all_isBlank_text
        rw [isContent]
        exact isBlank
      let comment : Enclosed Enclosure.insideElement :=
        ⟨.comment, by simp [Enclosure.insideElement], [], by decide⟩
      refine ⟨.enclosed (.visible phrase visible) comment others, ?_⟩
      intro place
      refine ⟨place.after (phrase.text ++ comment.text), ?_⟩
      rw [← isContent]
      rfl

/-! ## A way to write an element -/

theorem exists_attributes
    (attributes : List Markup.Attribute)
    (writable : ∀ entry ∈ attributes, entry.name.Writable) :
    ∃ written : List Attribute,
      (written.map fun entry => Markup.Name.ofText entry.name.string) =
          attributes.map Markup.Attribute.name ∧
        ∀ place, (StartTag.attributesAt place written).map Markup.Attribute.withoutPlaces =
          attributes.map Markup.Attribute.withoutPlaces := by
  induction attributes with
  | nil => exact ⟨[], rfl, fun _ => rfl⟩
  | cons entry others hypothesis =>
      rcases writable entry List.mem_cons_self with ⟨name, isName⟩
      rcases hypothesis fun later member => writable later (List.mem_cons_of_mem _ member) with
        ⟨written, sameNames, sameOthers⟩
      let own : Attribute := {
        blanks := ⟨[' '], rfl⟩
        separated := List.cons_ne_nil _ _
        name
        beforeSign := ⟨[], rfl⟩
        afterSign := ⟨[], rfl⟩
        quote := '"'
        quotes := .inl rfl
        value := .standard (.inr rfl) entry.value }
      refine ⟨own :: written, ?_, ?_⟩
      · rw [List.map_cons, List.map_cons, sameNames, isName]
      · intro place
        rw [StartTag.attributesAt, List.map_cons, List.map_cons, sameOthers]
        rw [Attribute.attributeAt, Phrase.value_standard, isName]
        rfl

theorem exists_startTag
    {tag : Tag}
    (writable : tag.Writable) :
    ∃ written : StartTag, ∀ opening text,
      (written.tagAt opening text).withoutPlaces = tag.withoutPlaces := by
  rcases writable.name with ⟨name, isName⟩
  rcases exists_attributes tag.attributes writable.attributes with
    ⟨attributes, sameNames, sameAttributes⟩
  have distinct : (attributes.map (·.name.text)).Nodup := by
    have distinctNames := writable.distinct
    rw [← sameNames] at distinctNames
    apply List.Nodup.of_map fun text => Markup.Name.ofText (String.ofList text)
    rw [List.map_map]
    exact distinctNames
  refine ⟨⟨name, attributes, distinct, ⟨[], rfl⟩⟩, ?_⟩
  intro opening text
  rw [Tag.withoutPlaces, StartTag.tagAt, sameAttributes, isName]
  rfl

/-- An element can be written if its start tag and its content can. -/
theorem exists_element
    {tag : Tag}
    {children : List Node}
    (writable : tag.Writable)
    {content : Content}
    (written : ∀ place,
      Node.allWithoutPlaces (content.nodesAt place) = Node.allWithoutPlaces children) :
    ∃ element : Element, ∀ opening,
      (element.elementAt opening).withoutPlaces = Markup.Element.withoutPlaces ⟨tag, children⟩ := by
  rcases exists_startTag writable with ⟨start, sameTag⟩
  refine ⟨.filled start content ⟨[], rfl⟩, ?_⟩
  intro opening
  rw [Markup.Element.withoutPlaces, Element.elementAt, sameTag, written]
  rfl

mutual

/-- A node can be written before other content. -/
theorem exists_content_node
    (around : List Tag) :
    ∀ (node : Node)
      (_writable : ∀ lineage ∈ node.lineages around, lineage.1.Writable)
      (others : Content),
      ∃ written : Content, ∀ place, ∃ later,
        Node.allWithoutPlaces (written.nodesAt place) =
          node.withoutPlaces :: Node.allWithoutPlaces (others.nodesAt later)
  | .text content, _, others => by
      rcases exists_content_text content others with ⟨written, isWritten⟩
      refine ⟨written, ?_⟩
      intro place
      rcases isWritten place with ⟨later, sameNodes⟩
      exact ⟨later, by rw [sameNodes]; rfl⟩
  | .element tag children, writable, others => by
      rw [Node.lineages, List.forall_mem_cons] at writable
      rcases exists_content (tag :: around) children writable.2 with ⟨content, isContent⟩
      rcases exists_element writable.1 isContent with ⟨element, isElement⟩
      refine ⟨.child .none element others, ?_⟩
      intro place
      refine ⟨place.after element.text, ?_⟩
      have same := congrArg Markup.Element.toNode (isElement place)
      change (element.elementAt place).toNode.withoutPlaces = _ at same
      rw [Content.nodesAt]
      show (element.elementAt place).toNode.withoutPlaces :: _ = _
      rw [same]
      rfl

/-- Nodes can be written as the content of an element. -/
theorem exists_content
    (around : List Tag) :
    ∀ (nodes : List Node)
      (_writable : ∀ lineage ∈ Node.lineagesOfAll around nodes, lineage.1.Writable),
      ∃ content : Content, ∀ place,
        Node.allWithoutPlaces (content.nodesAt place) = Node.allWithoutPlaces nodes
  | [], _ => ⟨.last .none, fun _ => rfl⟩
  | node :: others, writable => by
      rw [Node.lineagesOfAll, List.forall_mem_append] at writable
      rcases exists_content around others writable.2 with ⟨content, isContent⟩
      rcases exists_content_node around node writable.1 content with ⟨written, isWritten⟩
      refine ⟨written, ?_⟩
      intro place
      rcases isWritten place with ⟨later, sameNodes⟩
      rw [sameNodes, isContent]
      rfl

end

/-! ## What is written can be written -/

theorem map_name_attributesAt
    (place : Position)
    (attributes : List Attribute) :
    (StartTag.attributesAt place attributes).map Markup.Attribute.name =
      attributes.map fun entry => Markup.Name.ofText entry.name.string := by
  induction attributes generalizing place with
  | nil => rfl
  | cons entry others hypothesis =>
      rw [StartTag.attributesAt, List.map_cons, List.map_cons, hypothesis]
      rfl

theorem writable_tagAt
    (tag : StartTag)
    (opening : Position)
    (text : List Char) :
    (tag.tagAt opening text).Writable where
  name := ⟨tag.name, rfl⟩
  attributes := by
    intro entry member
    have isName := List.mem_map_of_mem (f := Markup.Attribute.name) member
    rw [StartTag.tagAt, map_name_attributesAt] at isName
    rcases List.mem_map.mp isName with ⟨written, -, same⟩
    exact ⟨written.name, same⟩
  distinct := by
    rw [StartTag.tagAt, map_name_attributesAt]
    have injective : Function.Injective fun text => Markup.Name.ofText (String.ofList text) :=
      Markup.Name.ofText_injective.comp fun _ _ => String.ofList_injective
    have distinctNames := tag.distinct.map injective
    rw [List.map_map] at distinctNames
    exact distinctNames

mutual

theorem writable_elementAt
    (around : List Tag) :
    ∀ (element : Element)
      (opening : Position),
      ∀ lineage ∈ (element.elementAt opening).toNode.lineages around, lineage.1.Writable
  | .closed tag, opening => by
      intro lineage member
      cases member with
      | head => exact writable_tagAt tag opening _
      | tail _ inside => cases inside
  | .filled tag content blanks, opening => by
      intro lineage member
      cases member with
      | head => exact writable_tagAt tag opening _
      | tail _ inside => exact writable_nodesAt _ content _ lineage inside

theorem writable_nodesAt
    (around : List Tag) :
    ∀ (content : Content)
      (place : Position),
      ∀ lineage ∈ Node.lineagesOfAll around (content.nodesAt place), lineage.1.Writable
  | .last data, place => by
      intro lineage member
      rw [Content.nodesAt, data.makes_item.lineages_eq_nil] at member
      cases member
  | .enclosed data construct others, place => by
      intro lineage member
      rw [Content.nodesAt, Node.lineagesOfAll_append, Node.lineagesOfAll_append,
        data.makes_item.lineages_eq_nil, construct.makes_item.lineages_eq_nil] at member
      exact writable_nodesAt around others _ lineage member
  | .child data element others, place => by
      intro lineage member
      rw [Content.nodesAt, Node.lineagesOfAll_append, data.makes_item.lineages_eq_nil,
        List.nil_append] at member
      rcases List.mem_append.mp member with inside | after
      · exact writable_elementAt around element _ lineage inside
      · exact writable_nodesAt around others _ lineage after

end

end Writing

/-! ## Places do not matter -/

theorem Tag.writable_withoutPlaces_iff (tag : Tag) :
    tag.withoutPlaces.Writable ↔ tag.Writable := by
  have sameNames : tag.withoutPlaces.attributes.map Attribute.name =
      tag.attributes.map Attribute.name := by
    rw [withoutPlaces, List.map_map]
    rfl
  constructor
  · intro writable
    refine ⟨writable.name, ?_, sameNames ▸ writable.distinct⟩
    intro entry member
    exact writable.attributes entry.withoutPlaces (List.mem_map_of_mem member)
  · intro writable
    refine ⟨writable.name, ?_, sameNames ▸ writable.distinct⟩
    intro entry member
    rcases List.mem_map.mp member with ⟨placed, isPlaced, rfl⟩
    exact writable.attributes placed isPlaced

mutual

theorem Node.map_lineages_withoutPlaces
    (around aroundPlaced : List Tag) :
    ∀ node : Node,
      (node.withoutPlaces.lineages around).map Prod.fst =
        (node.lineages aroundPlaced).map fun lineage => lineage.1.withoutPlaces
  | .text _ => rfl
  | .element tag children => by
      rw [withoutPlaces, lineages, lineages, List.map_cons, List.map_cons,
        map_lineagesOfAll_withoutPlaces (tag.withoutPlaces :: around) (tag :: aroundPlaced)
          children]

theorem Node.map_lineagesOfAll_withoutPlaces
    (around aroundPlaced : List Tag) :
    ∀ nodes : List Node,
      (Node.lineagesOfAll around (Node.allWithoutPlaces nodes)).map Prod.fst =
        (Node.lineagesOfAll aroundPlaced nodes).map fun lineage => lineage.1.withoutPlaces
  | [] => rfl
  | node :: others => by
      rw [allWithoutPlaces, lineagesOfAll, lineagesOfAll, List.map_append, List.map_append,
        map_lineages_withoutPlaces around aroundPlaced node,
        map_lineagesOfAll_withoutPlaces around aroundPlaced others]

end

theorem Element.writable_withoutPlaces_iff (root : Element) :
    root.withoutPlaces.Writable ↔ root.Writable := by
  have sameTags := Node.map_lineages_withoutPlaces [] [] root.toNode
  have unplaced : ∀ tag, tag ∈ (root.toNode.withoutPlaces.lineages []).map Prod.fst ↔
      ∃ lineage ∈ root.lineages, lineage.1.withoutPlaces = tag := by
    intro tag
    rw [sameTags, List.mem_map]
    rfl
  constructor
  · intro writable lineage member
    rcases List.mem_map.mp ((unplaced _).mpr ⟨lineage, member, rfl⟩) with
      ⟨other, isOther, same⟩
    have writableTag := writable other isOther
    rw [same] at writableTag
    exact lineage.1.writable_withoutPlaces_iff.mp writableTag
  · intro writable lineage member
    rcases (unplaced lineage.1).mp (List.mem_map_of_mem member) with ⟨other, isOther, same⟩
    rw [← same]
    exact other.1.writable_withoutPlaces_iff.mpr (writable other isOther)

/-- The trees that can be written are those that are written by some document. -/
theorem Element.exists_document_iff (root : Element) :
    (∃ document : Writing.Document, document.tree.withoutPlaces = root.withoutPlaces) ↔
      root.Writable := by
  constructor
  · rintro ⟨document, same⟩
    rw [← root.writable_withoutPlaces_iff, ← same, writable_withoutPlaces_iff]
    exact Writing.writable_elementAt [] document.root _
  · intro writable
    rw [Element.Writable, lineages, toNode, Node.lineages, List.forall_mem_cons] at writable
    rcases Writing.exists_content _ root.children writable.2 with ⟨content, isContent⟩
    rcases Writing.exists_element writable.1 isContent with ⟨element, isElement⟩
    exact ⟨⟨false, ⟨[], ⟨[], rfl⟩⟩, element, ⟨[], ⟨[], rfl⟩⟩⟩, isElement _⟩

end ViewAccessors.Markup
