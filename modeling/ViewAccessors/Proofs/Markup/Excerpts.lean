import Mathlib.Data.List.Forall2
import ViewAccessors.Proofs.Markup.Levels
import ViewAccessors.Proofs.Markup.Places

/-!
# Elements on their own

What an element covers in a text is a document of its own, whatever comments
and the like stand around it.  It is read as the same element, in which every
place is moved by the same number of bytes and of lines.
-/

namespace ViewAccessors.Markup

/-! ## Excerpts -/

/-- The characters of a text that begin at one offset or behind it, and before another one. -/
def excerpt
    (start stop : Nat)
    (text : List Char) :
    List Char :=
  ((indexed 0 text).filter fun entry => start ≤ entry.1 ∧ entry.1 < stop).map Prod.snd

/-- What a stretch covers in a text. -/
def Span.excerpt
    (span : Span)
    (text : List Char) :
    List Char :=
  Markup.excerpt span.start.offset span.stop.offset text

theorem map_snd_indexed
    (offset : Nat)
    (text : List Char) :
    (indexed offset text).map Prod.snd = text := by
  induction text generalizing offset with
  | nil => rfl
  | cons character text hypothesis =>
      rw [indexed, List.map_cons, hypothesis]

/-- An excerpt whose ends stand between characters is what stands between them. -/
theorem excerpt_append (before stretch after : List Char) :
    excerpt (String.ofList before).utf8ByteSize (String.ofList (before ++ stretch)).utf8ByteSize
        (before ++ (stretch ++ after)) =
      stretch := by
  have size : (String.ofList (before ++ stretch)).utf8ByteSize =
      (String.ofList before).utf8ByteSize + (String.ofList stretch).utf8ByteSize := by
    rw [String.ofList_append, String.utf8ByteSize_append]
  have early : (indexed 0 before).filter (fun entry =>
      (String.ofList before).utf8ByteSize ≤ entry.1 ∧
        entry.1 < (String.ofList (before ++ stretch)).utf8ByteSize) = [] := by
    rw [List.filter_eq_nil_iff]
    intro entry member
    have bounds := bounds_of_mem_indexed member
    have positive := entry.2.utf8Size_pos
    rw [decide_eq_true_iff]
    omega
  have inside : (indexed (String.ofList before).utf8ByteSize stretch).filter (fun entry =>
      (String.ofList before).utf8ByteSize ≤ entry.1 ∧
        entry.1 < (String.ofList (before ++ stretch)).utf8ByteSize) =
      indexed (String.ofList before).utf8ByteSize stretch := by
    rw [List.filter_eq_self]
    intro entry member
    have bounds := bounds_of_mem_indexed member
    have positive := entry.2.utf8Size_pos
    rw [decide_eq_true_iff]
    omega
  have late : (indexed ((String.ofList before).utf8ByteSize +
      (String.ofList stretch).utf8ByteSize) after).filter (fun entry =>
        (String.ofList before).utf8ByteSize ≤ entry.1 ∧
          entry.1 < (String.ofList (before ++ stretch)).utf8ByteSize) = [] := by
    rw [List.filter_eq_nil_iff]
    intro entry member
    have bounds := bounds_of_mem_indexed member
    rw [decide_eq_true_iff]
    omega
  rw [excerpt, indexed_append, indexed_append, Nat.zero_add, List.filter_append,
    List.filter_append, early, inside, late, List.nil_append, List.append_nil, map_snd_indexed]

/-- The excerpt of a stretch is what the stretch covers. -/
theorem Span.Covers.excerpt_eq
    {span : Span}
    {text before stretch : List Char}
    (covers : span.Covers text before stretch) :
    span.excerpt text = stretch := by
  rcases covers.within with ⟨after, rfl⟩
  rw [Span.excerpt, covers.start.offset, covers.stop.offset, List.append_assoc]
  exact excerpt_append before stretch after

/-! ## Places that are moved -/

/-- `moved` has more bytes and lines before it than `place`, or fewer if they are negative. -/
structure Position.Shifted
    (bytes lines : Int)
    (place moved : Position) :
    Prop where
  offset : (moved.offset : Int) = place.offset + bytes
  line : (moved.line : Int) = place.line + lines

/-- A stretch of which both ends are moved. -/
structure Span.Shifted
    (bytes lines : Int)
    (span moved : Span) :
    Prop where
  start : span.start.Shifted bytes lines moved.start
  stop : span.stop.Shifted bytes lines moved.stop

/-- The same attribute at another place. -/
structure Attribute.Shifted
    (bytes lines : Int)
    (entry moved : Attribute) :
    Prop where
  name : entry.name = moved.name
  value : entry.value = moved.value
  span : entry.span.Shifted bytes lines moved.span

/-- The same start tag at another place. -/
structure Tag.Shifted
    (bytes lines : Int)
    (tag moved : Tag) :
    Prop where
  name : tag.name = moved.name
  attributes : List.Forall₂ (Attribute.Shifted bytes lines) tag.attributes moved.attributes
  span : tag.span.Shifted bytes lines moved.span

/-- The same node at another place: texts are equal and elements have the same nodes in them. -/
inductive Node.Shifted (bytes lines : Int) : Node → Node → Prop where
  | text (content : String) :
      Shifted bytes lines (.text content) (.text content)
  | element
      {tag moved : Tag}
      {children others : List Node}
      (tags : tag.Shifted bytes lines moved)
      (nodes : List.Forall₂ (Node.Shifted bytes lines) children others) :
      Shifted bytes lines (.element tag children) (.element moved others)

/-- The same element at another place. -/
def Element.Shifted
    (bytes lines : Int)
    (element moved : Element) :
    Prop :=
  element.toNode.Shifted bytes lines moved.toNode

section

variable
    {bytes lines : Int}
    {place moved : Position}

theorem Position.Shifted.after
    (shifted : place.Shifted bytes lines moved)
    (text : List Char) :
    (place.after text).Shifted bytes lines (moved.after text) where
  offset := by
    have offset := shifted.offset
    rw [Position.offset_after, Position.offset_after]
    omega
  line := by
    have line := shifted.line
    rw [Position.line_after, Position.line_after]
    omega

/-! ## Writings that are moved -/

namespace Writing

theorem StartTag.shifted_attributesAt
    (shifted : place.Shifted bytes lines moved)
    (entries : List Attribute) :
    List.Forall₂ (Attribute.Shifted bytes lines) (attributesAt place entries)
      (attributesAt moved entries) := by
  induction entries generalizing place moved with
  | nil => exact .nil
  | cons entry others hypothesis =>
      refine .cons ⟨rfl, rfl, ?_⟩ (hypothesis (shifted.after entry.text))
      have own := shifted.after entry.blanks.text
      exact ⟨own, own.after entry.ownText⟩

theorem StartTag.shifted_tagAt
    (shifted : place.Shifted bytes lines moved)
    (tag : StartTag)
    (text : List Char) :
    (tag.tagAt place text).Shifted bytes lines (tag.tagAt moved text) where
  name := rfl
  attributes := shifted_attributesAt ((shifted.after ['<']).after tag.name.text) tag.attributes
  span := ⟨shifted, shifted.after text⟩

theorem CharacterData.shifted_nodes (data : CharacterData) :
    List.Forall₂ (Node.Shifted bytes lines) data.nodes data.nodes := by
  cases data with
  | blank run => exact .nil
  | visible phrase notBlank => exact .cons (.text _) .nil

theorem Enclosed.shifted_nodes
    {allowed : List Enclosure}
    (construct : Enclosed allowed) :
    List.Forall₂ (Node.Shifted bytes lines) construct.nodes construct.nodes := by
  rw [nodes]
  split
  · exact .cons (.text _) .nil
  · exact .nil

mutual

/-- An element that is written elsewhere is the same element at another place. -/
theorem Element.shifted_elementAt
    {bytes lines : Int} :
    ∀ (element : Element)
      {place moved : Position}
      (_shifted : place.Shifted bytes lines moved),
      (element.elementAt place).Shifted bytes lines (element.elementAt moved)
  | .closed tag, _, _, shifted =>
      .element (tag.shifted_tagAt shifted _) .nil
  | .filled tag content _, _, _, shifted =>
      .element (tag.shifted_tagAt shifted _) (Content.shifted_nodesAt content (shifted.after _))

/-- The same for content. -/
theorem Content.shifted_nodesAt
    {bytes lines : Int} :
    ∀ (content : Content)
      {place moved : Position}
      (_shifted : place.Shifted bytes lines moved),
      List.Forall₂ (Node.Shifted bytes lines) (content.nodesAt place) (content.nodesAt moved)
  | .last data, place, moved, shifted =>
      data.shifted_nodes
  | .enclosed data construct others, place, moved, shifted => by
      rw [Content.nodesAt, Content.nodesAt]
      refine List.rel_append (List.rel_append data.shifted_nodes construct.shifted_nodes) ?_
      exact Content.shifted_nodesAt others (shifted.after _)
  | .child data element others, place, moved, shifted => by
      rw [Content.nodesAt, Content.nodesAt]
      refine List.rel_append data.shifted_nodes (.cons ?_ ?_)
      · exact Element.shifted_elementAt element (shifted.after _)
      · exact Content.shifted_nodesAt others (shifted.after _)

end

end Writing

end

/-! ## Elements of documents -/

/-- An element of a tree takes no more levels than the root. -/
theorem Element.Holds.levels_le
    {root element : Element}
    (held : root.Holds element) :
    element.levels ≤ root.levels := by
  induction held with
  | root => exact Nat.le_refl _
  | @child parent child held isChild hypothesis =>
      rcases List.mem_filterMap.mp isChild with ⟨node, member, isElement⟩
      cases node with
      | text content => cases isElement
      | element tag children =>
          cases isElement
          refine Nat.le_trans (Node.levels_le_of_mem member) (Nat.le_trans ?_ hypothesis)
          exact Nat.le_succ _

/--
Parsing is local.  What an element of a parsed document covers in the text,
which no byte order mark belongs to, is read as this element when it stands
on its own between blanks, comments, processing instructions and document type
declarations: names, values, texts and the order of the children are the same,
and all places are moved by the same number of bytes and the same number of
lines.
-/
theorem parse_excerpt
    {text : String}
    {root : Element}
    (read : parse text = .ok root)
    {element : Element}
    (held : root.Holds element)
    (before after : Writing.Misc) :
    ∃ moved,
      parse (String.ofList (before.text ++
          (element.span.excerpt (withoutByteOrderMark text.toList) ++ after.text))) = .ok moved ∧
        element.Shifted
          ((Position.start.after before.text).offset - element.span.start.offset)
          ((Position.start.after before.text).line - element.span.start.line)
          moved := by
  rcases exists_levels_le_of_readDocument read with ⟨document, -, rfl, fits⟩
  have rootFits : document.tree.levels ≤ maximumNesting := by
    rw [Writing.Document.tree, Writing.Element.levels_elementAt]
    exact fits
  have elementFits := Nat.le_trans held.levels_le rootFits
  rcases (isWrittenIn_of_parse read).held held with ⟨early, written, within, rfl⟩
  rw [Writing.Element.levels_elementAt] at elementFits
  have covers := Span.covers_after within
  rw [Writing.Element.span_elementAt, covers.excerpt_eq]
  refine ⟨_, parse_of_levels_le before after elementFits, ?_⟩
  apply written.shifted_elementAt
  constructor
  · dsimp only
    omega
  · dsimp only
    omega

/-- A label that is read behind a comment is the one inside the window, five bytes further up. -/
theorem parse_excerpt_label :
    ∃ root label,
      parse "\ufeff<Fenster>ü\r\n <Label Name = 'a'></Label></Fenster>" = .ok root ∧
        root.Holds label ∧
          ∃ moved, parse " <!--a--><Label Name = 'a'></Label>\n" = .ok moved ∧
            label.Shifted (-5) (-1) moved := by
  have spans : (parse "\ufeff<Fenster>ü\r\n <Label Name = 'a'></Label></Fenster>").map
      (fun root => root.childElements.map (·.span)) = .ok [⟨⟨14, 2, 2⟩, ⟨40, 2, 28⟩⟩] := by
    decide +kernel
  rcases map_eq_ok_iff.mp spans with ⟨root, read, spans⟩
  rcases List.map_eq_singleton_iff.mp spans with ⟨label, isOnly, span⟩
  have held : root.Holds label := .child .root (isOnly ▸ List.mem_singleton_self label)
  let comment : Writing.Enclosed Enclosure.aroundRoot :=
    ⟨.comment, List.mem_cons_self, ['a'], by decide⟩
  have alone := parse_excerpt read held ⟨[(⟨[' '], rfl⟩, comment)], ⟨[], rfl⟩⟩
    ⟨[], ⟨['\n'], rfl⟩⟩
  rw [span] at alone
  exact ⟨root, label, read, held, alone⟩

end ViewAccessors.Markup
