import ViewAccessors.Proofs.Markup.Positions
import ViewAccessors.Proofs.Markup.Soundness

/-!
# Where elements and attributes stand

Every element of a parsed document covers the text from the first bracket of
its start tag to the last bracket of its end.  Attributes stand between the
brackets of the start tag and child elements between the tags, in their order
and apart from each other.
-/

namespace ViewAccessors.Markup

/-! ## What is claimed of an element -/

/--
An element with the start tag `tag` is made up of `head`, `content` and
`ending`.  An element that its start tag closes has nothing but this tag;
otherwise a closing tag of the same name ends it.
-/
inductive Writing.StartTag.Begins
    (tag : Writing.StartTag) :
    (head content ending : List Char) → Prop where
  | closed :
      Begins tag ('<' :: (tag.text ++ ['/', '>'])) [] []
  | filled
      (content : List Char)
      (blanks : Writing.Run Text.isTagBlank) :
      Begins tag ('<' :: (tag.text ++ ['>'])) content (Writing.closingTag tag.name blanks)

/--
The start tag of the element `tag` is written as `written` behind the
characters `before` of a text.  Each attribute covers its name, the sign and
the quoted value, and stands between the brackets of the start tag.
-/
structure Tag.IsPlaced
    (text before : List Char)
    (written : Writing.StartTag)
    (tag : Tag) :
    Prop where
  name : tag.name = .ofText written.name.string
  attributes : ∀ entry ∈ tag.attributes, ∃ early own late,
    written.text = early ++ (Writing.Attribute.ownText own ++ late) ∧
      entry.name = .ofText own.name.string ∧ entry.value = own.value.value ∧
        entry.span.Covers text (before ++ '<' :: early) own.ownText
  inOrder : tag.attributes.Pairwise fun one other =>
    one.span.stop.offset < other.span.start.offset

/--
An element covers `head`, `content` and `ending` behind the characters
`before` of a text.  Its child elements stand in the content.
-/
structure Element.IsPlaced
    (text before head content ending : List Char)
    (element : Element) :
    Prop where
  covers : element.span.Covers text before (head ++ (content ++ ending))
  children : ∀ child ∈ element.childElements, ∃ early own late,
    content = early ++ (own ++ late) ∧ child.span.Covers text (before ++ (head ++ early)) own
  inOrder : element.childElements.Pairwise fun one other =>
    one.span.stop.offset ≤ other.span.start.offset

/-- An element is the root or is reached from it by going to child elements. -/
inductive Element.Holds (root : Element) : Element → Prop where
  | root :
      Holds root root
  | child
      {parent child : Element}
      (held : Holds root parent)
      (isChild : child ∈ parent.childElements) :
      Holds root child

/-! ## Parts of a text -/

/-- What stands in a part of a text stands in the text. -/
theorem part_isPrefix
    {text before whole early own : List Char}
    (within : before ++ whole <+: text)
    (part : early ++ own <+: whole) :
    (before ++ early) ++ own <+: text := by
  rw [List.append_assoc]
  exact ((List.prefix_append_right_inj before).mpr part).trans within

/-! ## Attributes -/

namespace Writing

namespace StartTag

/-- Each attribute of a start tag is written somewhere in it, behind a blank at least. -/
theorem exists_of_mem_attributesAt
    {place : Position}
    {entries : List Attribute}
    {entry : Markup.Attribute}
    (member : entry ∈ attributesAt place entries) :
    ∃ (early : List Char) (own : Attribute) (late : List Char),
      entries.flatMap Attribute.text = early ++ (own.ownText ++ late) ∧
        early ≠ [] ∧ entry = own.attributeAt (place.after early) := by
  induction entries generalizing place with
  | nil => cases member
  | cons first others hypothesis =>
      rw [attributesAt] at member
      rcases List.mem_cons.mp member with rfl | later
      · refine ⟨first.blanks.text, first, others.flatMap Attribute.text, ?_, first.separated, rfl⟩
        rw [List.flatMap_cons, Attribute.text, List.append_assoc]
      · rcases hypothesis later with ⟨early, own, late, split, -, rfl⟩
        refine ⟨first.text ++ early, own, late, ?_, ?_, ?_⟩
        · rw [List.flatMap_cons, split, List.append_assoc]
        · exact List.append_ne_nil_of_left_ne_nil first.text_ne_nil early
        · rw [Position.after_append]

/-- Blanks separate the attributes of a start tag. -/
theorem pairwise_attributesAt
    (place : Position)
    (entries : List Attribute) :
    (attributesAt place entries).Pairwise fun one other =>
      one.span.stop.offset < other.span.start.offset := by
  induction entries generalizing place with
  | nil => exact .nil
  | cons first others hypothesis =>
      rw [attributesAt, List.pairwise_cons]
      refine ⟨?_, hypothesis _⟩
      intro other later
      rcases exists_of_mem_attributesAt later with ⟨early, own, late, -, nonempty, rfl⟩
      show ((place.after first.blanks.text).after first.ownText).offset <
        ((place.after first.text).after early).offset
      rw [← Position.after_append, ← Attribute.text]
      exact Position.offset_lt_after _ nonempty

/-- The start tag of an element is placed where it is written. -/
theorem isPlaced_tagAt
    {text before rest : List Char}
    (tag : StartTag)
    (whole : List Char)
    (within : before ++ '<' :: (tag.text ++ rest) <+: text) :
    (tag.tagAt (Position.start.after before) whole).IsPlaced text before tag where
  name := rfl
  attributes := by
    intro entry member
    rcases exists_of_mem_attributesAt member with ⟨early, own, late, split, -, rfl⟩
    have inTag : tag.text =
        (tag.name.text ++ early) ++ (own.ownText ++ (late ++ tag.blanks.text)) := by
      rw [StartTag.text, split]
      simp only [List.append_assoc]
    refine ⟨tag.name.text ++ early, own, late ++ tag.blanks.text, inTag, rfl, rfl, ?_⟩
    have reached : ((((Position.start.after before).step '<').after tag.name.text).after early) =
        Position.start.after (before ++ '<' :: (tag.name.text ++ early)) := by
      simp only [Position.after_append, Position.after_cons]
    rw [reached]
    apply Span.covers_after
    refine part_isPrefix within ⟨late ++ tag.blanks.text ++ rest, ?_⟩
    rw [inTag]
    simp only [List.append_assoc, List.cons_append]
  inOrder := pairwise_attributesAt _ _

end StartTag

/-! ## Child elements -/

theorem CharacterData.filterMap_element?_nodes (data : CharacterData) :
    data.nodes.filterMap Node.element? = [] := by
  cases data with
  | blank run => rfl
  | visible phrase notBlank => rfl

theorem Enclosed.filterMap_element?_nodes
    {allowed : List Enclosure}
    (construct : Enclosed allowed) :
    construct.nodes.filterMap Node.element? = [] := by
  rw [Enclosed.nodes]
  split
  · rfl
  · rfl

theorem Element.span_elementAt
    (place : Position)
    (element : Element) :
    (element.elementAt place).span = ⟨place, place.after element.text⟩ := by
  cases element with
  | closed tag => rfl
  | filled tag content blanks => rfl

theorem Element.text_closed (tag : StartTag) :
    (Element.closed tag).text = '<' :: (tag.text ++ ['/', '>']) ++ ([] ++ []) := by
  rw [List.append_nil, List.append_nil]
  rfl

theorem Element.text_filled
    (tag : StartTag)
    (content : Content)
    (blanks : Run Text.isTagBlank) :
    (Element.filled tag content blanks).text =
      '<' :: (tag.text ++ ['>']) ++ (content.text ++ closingTag tag.name blanks) := by
  rw [List.cons_append, List.append_assoc]
  rfl

namespace Content

/-- The elements among the nodes that are written from `place` on. -/
def elementsAt
    (place : Position)
    (content : Content) :
    List Markup.Element :=
  (content.nodesAt place).filterMap Node.element?

theorem elementsAt_last
    (place : Position)
    (data : CharacterData) :
    (last data).elementsAt place = [] :=
  data.filterMap_element?_nodes

theorem elementsAt_enclosed
    (place : Position)
    (data : CharacterData)
    (construct : Enclosed Enclosure.insideElement)
    (others : Content) :
    (enclosed data construct others).elementsAt place =
      others.elementsAt (place.after (data.text ++ construct.text)) := by
  rw [elementsAt, nodesAt, List.filterMap_append, List.filterMap_append,
    data.filterMap_element?_nodes, construct.filterMap_element?_nodes]
  rfl

theorem elementsAt_child
    (place : Position)
    (data : CharacterData)
    (element : Element)
    (others : Content) :
    (child data element others).elementsAt place =
      element.elementAt (place.after data.text) ::
        others.elementsAt (place.after (data.text ++ element.text)) := by
  rw [elementsAt, nodesAt, List.filterMap_append, data.filterMap_element?_nodes]
  rfl

theorem text_child
    (data : CharacterData)
    (element : Element)
    (others : Content) :
    (child data element others).text = data.text ++ (element.text ++ others.text) :=
  rfl

/-- Each element in a content is written somewhere in it. -/
theorem exists_of_mem_elementsAt
    {place : Position}
    {element : Markup.Element} :
    ∀ content : Content, element ∈ content.elementsAt place →
      ∃ early own late, content.text = early ++ (Element.text own ++ late) ∧
        element = own.elementAt (place.after early)
  | last data => by
      intro member
      rw [elementsAt_last] at member
      cases member
  | enclosed data construct others => by
      intro member
      rw [elementsAt_enclosed] at member
      rcases exists_of_mem_elementsAt others member with ⟨early, own, late, split, rfl⟩
      refine ⟨data.text ++ construct.text ++ early, own, late, ?_, ?_⟩
      · rw [Content.text, split]
        simp only [List.append_assoc]
      · rw [Position.after_append _ _ early]
  | child data first others => by
      intro member
      rw [elementsAt_child] at member
      rcases List.mem_cons.mp member with rfl | later
      · exact ⟨data.text, first, others.text, rfl, rfl⟩
      · rcases exists_of_mem_elementsAt others later with ⟨early, own, late, split, rfl⟩
        refine ⟨data.text ++ first.text ++ early, own, late, ?_, ?_⟩
        · rw [text_child, split]
          simp only [List.append_assoc]
        · rw [Position.after_append _ _ early]

/-- An element in a content ends before the elements that follow it. -/
theorem pairwise_elementsAt
    (place : Position) :
    ∀ content : Content, (content.elementsAt place).Pairwise fun one other =>
      one.span.stop.offset ≤ other.span.start.offset
  | last data => by
      rw [elementsAt_last]
      exact .nil
  | enclosed data construct others => by
      rw [elementsAt_enclosed]
      exact pairwise_elementsAt _ others
  | child data first others => by
      rw [elementsAt_child, List.pairwise_cons]
      refine ⟨?_, pairwise_elementsAt _ others⟩
      intro other later
      rcases exists_of_mem_elementsAt others later with ⟨early, own, late, -, rfl⟩
      rw [Element.span_elementAt, Element.span_elementAt]
      show ((place.after data.text).after first.text).offset ≤ _
      rw [← Position.after_append]
      exact Position.offset_le_after _ _

end Content

/-- Each child element of a written element is written in the content, in the same text. -/
theorem Element.exists_of_mem_childElements
    {text before : List Char}
    {tag : StartTag}
    {content : Content}
    {blanks : Run Text.isTagBlank}
    (within : before ++ (Element.filled tag content blanks).text <+: text)
    {child : Markup.Element}
    (isChild : child ∈ ((Element.filled tag content blanks).elementAt
      (Position.start.after before)).childElements) :
    ∃ (early : List Char) (own : Element) (late : List Char),
      content.text = early ++ (own.text ++ late) ∧
        (before ++ ('<' :: (tag.text ++ ['>']) ++ early)) ++ own.text <+: text ∧
          child = own.elementAt
            (Position.start.after (before ++ ('<' :: (tag.text ++ ['>']) ++ early))) := by
  rcases content.exists_of_mem_elementsAt isChild with ⟨early, own, late, split, rfl⟩
  refine ⟨early, own, late, split, part_isPrefix within ?_, ?_⟩
  · rw [text_filled, split]
    exact ⟨late ++ closingTag tag.name blanks, by simp only [List.append_assoc]⟩
  · rw [Position.after_append _ before, Position.after_append _ _ early]
    rfl

end Writing

/-! ## Elements -/

namespace Element

/-- The element is written in a text behind some of its characters, which place it. -/
def IsWrittenIn
    (text : List Char)
    (element : Element) :
    Prop :=
  ∃ (before : List Char) (written : Writing.Element),
    before ++ written.text <+: text ∧
      element = written.elementAt (Position.start.after before)

/-- A child element of a written element is written in the content, in the same text. -/
theorem IsWrittenIn.child
    {text : List Char}
    {parent child : Element}
    (isWritten : parent.IsWrittenIn text)
    (isChild : child ∈ parent.childElements) :
    child.IsWrittenIn text := by
  rcases isWritten with ⟨before, written, within, rfl⟩
  cases written with
  | closed tag => cases isChild
  | filled tag content blanks =>
      rcases Writing.Element.exists_of_mem_childElements within isChild with
        ⟨early, own, late, -, within, rfl⟩
      exact ⟨_, own, within, rfl⟩

/-- All elements of a written element are written in the same text. -/
theorem IsWrittenIn.held
    {text : List Char}
    {root element : Element}
    (isWritten : root.IsWrittenIn text)
    (held : root.Holds element) :
    element.IsWrittenIn text := by
  induction held with
  | root => exact isWritten
  | child held isChild hypothesis => exact hypothesis.child isChild

/-- An element is placed where it is written. -/
theorem IsWrittenIn.exists_isPlaced
    {text : List Char}
    {element : Element}
    (isWritten : element.IsWrittenIn text) :
    ∃ before written head content ending,
      Writing.StartTag.Begins written head content ending ∧
        element.toTag.IsPlaced text before written ∧
          element.IsPlaced text before head content ending := by
  rcases isWritten with ⟨before, written, within, rfl⟩
  have covers := Span.covers_after within
  cases written with
  | closed tag =>
      refine ⟨before, tag, _, _, _, .closed, tag.isPlaced_tagAt _ within, ?_, ?_, .nil⟩
      · rw [← Writing.Element.text_closed]
        exact covers
      · intro child isChild
        cases isChild
  | filled tag content blanks =>
      refine ⟨before, tag, _, _, _, .filled content.text blanks, tag.isPlaced_tagAt _ within,
        ?_, ?_, content.pairwise_elementsAt _⟩
      · rw [← Writing.Element.text_filled]
        exact covers
      · intro child isChild
        rcases Writing.Element.exists_of_mem_childElements within isChild with
          ⟨early, own, late, split, within, rfl⟩
        refine ⟨early, own.text, late, split, ?_⟩
        rw [Writing.Element.span_elementAt]
        exact Span.covers_after within

end Element

/-! ## Documents -/

/-- The root of a parsed document is written in the text that follows a byte order mark. -/
theorem isWrittenIn_of_parse
    {text : String}
    {root : Element}
    (read : parse text = .ok root) :
    root.IsWrittenIn (withoutByteOrderMark text.toList) := by
  rcases exists_of_readDocument read false with ⟨document, -, isBody, rfl⟩
  refine ⟨document.before.text, document.root, ⟨document.after.text, ?_⟩, rfl⟩
  rw [← isBody, Writing.Document.body, List.append_assoc]

/--
Every element of a parsed document covers the text, which no byte order mark
belongs to, from the bracket that opens its start tag to the bracket that ends
the element, and the places of this stretch count the bytes, the line feeds
and the characters of the last line that precede them.  Its attributes cover
their names, signs and quoted values, between the brackets of the start tag,
and its child elements stand between the two tags; attributes and child
elements follow each other in their order and do not overlap.
-/
theorem exists_isPlaced_of_parse
    {text : String}
    {root : Element}
    (read : parse text = .ok root)
    {element : Element}
    (held : root.Holds element) :
    ∃ before written head content ending,
      Writing.StartTag.Begins written head content ending ∧
        element.toTag.IsPlaced (withoutByteOrderMark text.toList) before written ∧
          element.IsPlaced (withoutByteOrderMark text.toList) before head content ending :=
  ((isWrittenIn_of_parse read).held held).exists_isPlaced

/-- The label inside a window, behind a byte order mark, a carriage return and an umlaut. -/
theorem exists_isPlaced_of_parse_label :
    ∃ text root label,
      text = "\ufeff<Fenster>ü\r\n <Label Name = 'a'></Label></Fenster>" ∧
        parse text = .ok root ∧ root.Holds label ∧
          label.span = ⟨⟨14, 2, 2⟩, ⟨40, 2, 28⟩⟩ ∧
            ∃ before written head content ending,
              Writing.StartTag.Begins written head content ending ∧
                label.toTag.IsPlaced (withoutByteOrderMark text.toList) before written ∧
                  label.IsPlaced (withoutByteOrderMark text.toList) before head content
                    ending := by
  have spans : (parse "\ufeff<Fenster>ü\r\n <Label Name = 'a'></Label></Fenster>").map
      (fun root => root.childElements.map (·.span)) = .ok [⟨⟨14, 2, 2⟩, ⟨40, 2, 28⟩⟩] := by
    decide +kernel
  rcases map_eq_ok_iff.mp spans with ⟨root, read, spans⟩
  rcases List.map_eq_singleton_iff.mp spans with ⟨label, isOnly, span⟩
  have held : root.Holds label := .child .root (isOnly ▸ List.mem_singleton_self label)
  exact ⟨_, root, label, rfl, read, held, span, exists_isPlaced_of_parse read held⟩

end ViewAccessors.Markup
