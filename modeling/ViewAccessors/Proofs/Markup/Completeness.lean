import ViewAccessors.Proofs.Markup.Contents
import ViewAccessors.Proofs.Markup.Lineages

/-!
# Writings are read back

Every writing is read back as the tree that it writes, unless an element
stands too deep in it.  Then reading fails at the first such element in the
order of the text, as reading an element never fails behind a deeper one that
comes first.
-/

namespace ViewAccessors.Markup

open Text

/-! ## The limit on depth -/

section

variable {Value Result : Type}

/-- Reading yields `value`, unless it fails because of an element that stands too deep. -/
def unlessTooDeep
    (offender : Option Tag)
    (value : Value) :
    Except MarkupError Value :=
  match offender with
  | none => .ok value
  | some tag => .error (.nestedTooDeep maximumNesting tag.span.line)

theorem map_unlessTooDeep
    (offender : Option Tag)
    (value : Value)
    (change : Value → Result) :
    (unlessTooDeep offender value).map change = unlessTooDeep offender (change value) := by
  cases offender with
  | none => rfl
  | some tag => rfl

/-- The first of two offenders is the one that counts. -/
theorem bind_unlessTooDeep
    (first second : Option Tag)
    (value : Value)
    {result : Result}
    {next : Value → Except MarkupError Result}
    (continues : next value = unlessTooDeep second result) :
    (unlessTooDeep first value).bind next = unlessTooDeep (first.or second) result := by
  cases first with
  | none => exact continues
  | some tag => rfl

end

theorem ContentItem.Makes.lineages_eq_nil
    {item : ContentItem}
    {nodes : List Node}
    (makes : item.Makes nodes)
    (around : List Tag) :
    Node.lineagesOfAll around nodes = [] := by
  cases makes with
  | nothing => rfl
  | text content => rfl

/-! ## How constructs and elements begin -/

namespace Writing

theorem Enclosed.exists_text_eq
    {allowed : List Enclosure}
    (recognizable : Enclosure.Recognizable allowed)
    (construct : Enclosed allowed) :
    ∃ others, construct.text = '<' :: others := by
  rcases recognizable.opens construct.enclosure construct.isAllowed with
    ⟨second, more, -, opens⟩
  rw [Enclosed.text, opens]
  exact ⟨_, rfl⟩

theorem Enclosed.text_ne_nil
    {allowed : List Enclosure}
    (construct : Enclosed allowed) :
    construct.text ≠ [] := by
  intro empty
  exact construct.enclosure.opening_ne_nil (List.append_eq_nil_iff.mp empty).1

theorem Element.exists_tail_eq (element : Element) :
    ∃ first others, element.tail = first :: others ∧ isNameStart first = true := by
  cases element with
  | closed tag =>
      rcases tag.name.exists_eq_cons with ⟨first, others, begins, starts⟩
      exact ⟨first, _, by rw [tail, StartTag.text, begins]; rfl, starts⟩
  | filled tag content blanks =>
      rcases tag.name.exists_eq_cons with ⟨first, others, begins, starts⟩
      exact ⟨first, _, by rw [tail, StartTag.text, begins]; rfl, starts⟩

/-- The place where an element begins is kept in the tree. -/
theorem Element.line_elementAt
    (opening : Position)
    (element : Element) :
    (element.elementAt opening).span.line = opening.line := by
  cases element with
  | closed tag => rfl
  | filled tag content blanks => rfl

end Writing

/-! ## Between two tags -/

/-- Nodes together with those that were read after them. -/
def withNodes
    (nodes : List Node)
    (read : List Node × Cursor) :
    List Node × Cursor :=
  (nodes ++ read.1, read.2)

section

variable
    (child : Position → (inside : Cursor) → Except MarkupError (Reading Element inside))
    (name : String)
    (opening : Position)

/-- Reading goes on after an item that is neither a tag nor the beginning of one. -/
theorem outcome_readContent_of_makes
    {cursor next : Cursor}
    {item : ContentItem}
    {nodes : List Node}
    (found : outcome? (readItem cursor) = .ok (some (item, next)))
    (makes : item.Makes nodes) :
    outcome (readContent child name opening cursor) =
      (outcome (readContent child name opening next)).map (withNodes nodes) := by
  rw [outcome_readContent, found]
  cases makes with
  | nothing =>
      dsimp only
      cases outcome (readContent child name opening next) <;> rfl
  | text content =>
      dsimp only
      cases outcome (readContent child name opening next) <;> rfl

theorem outcome_readContent_data
    (place : Position)
    (data : Writing.CharacterData)
    (others : List Char) :
    outcome (readContent child name opening ⟨place, data.text ++ '<' :: others⟩) =
      (outcome (readContent child name opening ⟨place.after data.text, '<' :: others⟩)).map
        (withNodes data.nodes) := by
  by_cases empty : data.text = []
  · rw [data.nodes_eq_nil_of_text empty, empty, List.nil_append, Position.after_nil]
    cases outcome (readContent child name opening ⟨place, '<' :: others⟩) <;> rfl
  · exact outcome_readContent_of_makes child name opening
      (outcome?_readItem_data place data empty others) data.makes_item

theorem outcome_readContent_construct
    (place : Position)
    (construct : Writing.Enclosed Enclosure.insideElement)
    (rest : List Char) :
    outcome (readContent child name opening ⟨place, construct.text ++ rest⟩) =
      (outcome (readContent child name opening ⟨place.after construct.text, rest⟩)).map
        (withNodes construct.nodes) :=
  outcome_readContent_of_makes child name opening
    (outcome?_readItem_construct place construct rest) construct.makes_item

theorem outcome_readContent_child
    (place : Position)
    {first : Char}
    (starts : isNameStart first = true)
    (others : List Char) :
    outcome (readContent child name opening ⟨place, '<' :: first :: others⟩) =
      (outcome (child place ⟨place.step '<', first :: others⟩)).bind fun (element, next) =>
        (outcome (readContent child name opening next)).map (withNodes [element.toNode]) := by
  rw [outcome_readContent, outcome?_readItem_tag place starts]
  rfl

theorem outcome_readContent_closingTag
    (place : Position)
    (written : Writing.Name)
    (blanks : Writing.Run isTagBlank)
    (rest : List Char) :
    outcome (readContent child written.string opening
        ⟨place, Writing.closingTag written blanks ++ rest⟩) =
      .ok ([], ⟨place.after (Writing.closingTag written blanks), rest⟩) := by
  rw [outcome_readContent, outcome?_readItem_closingTag]
  exact if_pos rfl

/-- The last character data of an element are followed by its closing tag. -/
theorem outcome_readContent_last
    (place : Position)
    (data : Writing.CharacterData)
    (written : Writing.Name)
    (blanks : Writing.Run isTagBlank)
    (rest : List Char) :
    outcome (readContent child written.string opening
        ⟨place, data.text ++ (Writing.closingTag written blanks ++ rest)⟩) =
      .ok (data.nodes, ⟨place.after (data.text ++ Writing.closingTag written blanks), rest⟩) := by
  have read := outcome_readContent_data child written.string opening place data
    ('/' :: (written.text ++ (blanks.text ++ ['>']) ++ rest))
  have closing := outcome_readContent_closingTag child opening (place.after data.text)
    written blanks rest
  change outcome (readContent child written.string opening
    ⟨place, data.text ++ (Writing.closingTag written blanks ++ rest)⟩) = _ at read
  rw [read]
  show (outcome (readContent child written.string opening
    ⟨place.after data.text, Writing.closingTag written blanks ++ rest⟩)).map _ = _
  rw [closing, Position.after_append]
  simp [Except.map, withNodes]

theorem outcome_readContent_enclosed
    (place : Position)
    (data : Writing.CharacterData)
    (construct : Writing.Enclosed Enclosure.insideElement)
    (rest : List Char) :
    outcome (readContent child name opening
        ⟨place, data.text ++ (construct.text ++ rest)⟩) =
      (outcome (readContent child name opening
        ⟨place.after (data.text ++ construct.text), rest⟩)).map
          (withNodes (data.nodes ++ construct.nodes)) := by
  rcases construct.exists_text_eq Enclosure.recognizable_insideElement with ⟨more, begins⟩
  have read := outcome_readContent_data child name opening place data (more ++ rest)
  rw [← List.cons_append, ← begins, outcome_readContent_construct] at read
  rw [read, Position.after_append]
  cases outcome (readContent child name opening
      ⟨(place.after data.text).after construct.text, rest⟩) with
  | error error => rfl
  | ok others => simp [Except.map, withNodes]

/-- A child is read by the reader for children, and then reading goes on after it. -/
theorem outcome_readContent_element
    (place : Position)
    (data : Writing.CharacterData)
    (element : Writing.Element)
    (rest : List Char) :
    outcome (readContent child name opening ⟨place, data.text ++ (element.text ++ rest)⟩) =
      (outcome (child (place.after data.text)
          ⟨(place.after data.text).step '<', element.tail ++ rest⟩)).bind fun (read, next) =>
        (outcome (readContent child name opening next)).map
          (withNodes (data.nodes ++ [read.toNode])) := by
  rcases element.exists_tail_eq with ⟨first, more, begins, starts⟩
  have read := outcome_readContent_data child name opening place data (element.tail ++ rest)
  have inner := outcome_readContent_child child name opening (place.after data.text) starts
    (more ++ rest)
  rw [← List.cons_append, ← begins] at inner
  rw [Writing.Element.text, List.cons_append, read, inner]
  cases outcome (child (place.after data.text)
      ⟨(place.after data.text).step '<', element.tail ++ rest⟩) with
  | error error => rfl
  | ok found =>
      rcases found with ⟨read, next⟩
      rw [bind_ok, bind_ok]
      dsimp only
      cases outcome (readContent child name opening next) with
      | error error => rfl
      | ok others => simp [Except.map, withNodes]

end

/-! ## Elements -/

/-- A start tag is read, and then the content unless the tag closes the element. -/
theorem outcome_readElement_tag
    (room : Nat)
    (opening : Position)
    (tag : Writing.StartTag)
    (closed : Bool)
    (rest : List Char) :
    outcome (readElement (room + 1) opening
        ⟨opening.step '<', tag.text ++ (tagEnd closed ++ rest)⟩) =
      (if closed then
        .ok ([], ⟨opening.after ('<' :: (tag.text ++ tagEnd closed)), rest⟩)
      else
        outcome (readContent (readElement room) tag.name.string opening
          ⟨opening.after ('<' :: (tag.text ++ tagEnd closed)), rest⟩)).map
        fun (children, next) =>
          (⟨⟨Name.ofText tag.name.string,
            Writing.StartTag.attributesAt ((opening.step '<').after tag.name.text) tag.attributes,
            ⟨opening, next.place⟩⟩, children⟩, next) := by
  have nameEnds := stops_isNameCharacter_attributes tag.attributes tag.blanks closed rest
  have named := Cursor.name?_append (opening.step '<') tag.name nameEnds
  have fresh : Fresh [] tag.attributes := by
    intro entry _ earlier member
    cases member
  have read := outcome_readAttributes_append ((opening.step '<').after tag.name.text)
    tag.distinct fresh tag.blanks closed rest
  have written : tag.text ++ (tagEnd closed ++ rest) =
      tag.name.text ++ (tag.attributes.flatMap Writing.Attribute.text ++
        (tag.blanks.text ++ (tagEnd closed ++ rest))) := by
    simp [Writing.StartTag.text]
  have reached : ((opening.step '<').after tag.name.text).after
        (tag.attributes.flatMap Writing.Attribute.text ++ (tag.blanks.text ++ tagEnd closed)) =
      opening.after ('<' :: (tag.text ++ tagEnd closed)) := by
    simp [Writing.StartTag.text]
  rw [reached] at read
  rw [outcome_readElement_succ, written, named]
  dsimp only
  rw [read]
  rfl

mutual

/-- An element is read back, unless it or an element inside it stands too deep. -/
theorem outcome_readElement_append :
    ∀ (element : Writing.Element)
      {room : Nat}
      {around : List Tag}
      (_level : around.length + room = maximumNesting)
      (opening : Position)
      (rest : List Char),
      outcome (readElement room opening ⟨opening.step '<', element.tail ++ rest⟩) =
        unlessTooDeep
          (firstAtDepth? maximumNesting ((element.elementAt opening).toNode.lineages around))
          (element.elementAt opening, ⟨opening.after element.text, rest⟩)
  -- The recursion is on the writing.  Each level takes from the room what it adds to the
  -- elements around, so that the room is used up exactly at the greatest depth.
  | element, 0, around, level, opening, rest => by
      rw [outcome_readElement_zero, Element.toNode, firstAtDepth?_element_of_eq level]
      rw [unlessTooDeep, element.line_elementAt]
  | .closed tag, room + 1, around, level, opening, rest => by
      have elsewhere : around.length ≠ maximumNesting := by
        omega
      have read := outcome_readElement_tag room opening tag true rest
      have written : (Writing.Element.closed tag).tail ++ rest =
          tag.text ++ (tagEnd true ++ rest) := by
        rw [Writing.Element.tail, List.append_assoc]
        rfl
      rw [Element.toNode, firstAtDepth?_element_of_ne elsewhere, written, read]
      rfl
  | .filled tag content blanks, room + 1, around, level, opening, rest => by
      have elsewhere : around.length ≠ maximumNesting := by
        omega
      have read := outcome_readElement_tag room opening tag false
        (content.text ++ (Writing.closingTag tag.name blanks ++ rest))
      have written : (Writing.Element.filled tag content blanks).tail ++ rest =
          tag.text ++ (tagEnd false ++
            (content.text ++ (Writing.closingTag tag.name blanks ++ rest))) := by
        simp [Writing.Element.tail, tagEnd]
      have reached : (opening.after ('<' :: (tag.text ++ tagEnd false))).after
            (content.text ++ Writing.closingTag tag.name blanks) =
          opening.after (Writing.Element.filled tag content blanks).text := by
        simp [Writing.Element.text, Writing.Element.tail, tagEnd]
      have inside (own : Tag) : (own :: around).length + room = maximumNesting := by
        rw [List.length_cons]
        omega
      rw [Element.toNode, firstAtDepth?_element_of_ne elsewhere, written, read, if_neg (by decide),
        outcome_readContent_append content (inside _), map_unlessTooDeep, reached]
      rfl

/-- Content is read back, unless an element in it stands too deep. -/
theorem outcome_readContent_append :
    ∀ (content : Writing.Content)
      {room : Nat}
      {around : List Tag}
      (_level : around.length + room = maximumNesting)
      (name : Writing.Name)
      (blanks : Writing.Run isTagBlank)
      (opening place : Position)
      (rest : List Char),
      outcome (readContent (readElement room) name.string opening
          ⟨place, content.text ++ (Writing.closingTag name blanks ++ rest)⟩) =
        unlessTooDeep
          (firstAtDepth? maximumNesting (Node.lineagesOfAll around (content.nodesAt place)))
          (content.nodesAt place,
            ⟨place.after (content.text ++ Writing.closingTag name blanks), rest⟩)
  | .last data, room, around, level, name, blanks, opening, place, rest => by
      rw [Writing.Content.text, outcome_readContent_last, Writing.Content.nodesAt,
        data.makes_item.lineages_eq_nil around]
      rfl
  | .enclosed data construct others, room, around, level, name, blanks, opening, place, rest => by
      have ending := outcome_readContent_append others level name blanks opening
        (place.after (data.text ++ construct.text)) rest
      rw [Writing.Content.text, List.append_assoc, List.append_assoc,
        outcome_readContent_enclosed, ending, map_unlessTooDeep, Writing.Content.nodesAt,
        Node.lineagesOfAll_append, Node.lineagesOfAll_append,
        data.makes_item.lineages_eq_nil around, construct.makes_item.lineages_eq_nil around]
      simp [withNodes]
  | .child data element others, room, around, level, name, blanks, opening, place, rest => by
      have ending := outcome_readContent_append others level name blanks opening
        ((place.after data.text).after element.text) rest
      have inner := outcome_readElement_append element level (place.after data.text)
        (others.text ++ (Writing.closingTag name blanks ++ rest))
      have next := congrArg (Except.map (withNodes
        (data.nodes ++ [(element.elementAt (place.after data.text)).toNode]))) ending
      rw [map_unlessTooDeep] at next
      have written : (Writing.Content.child data element others).text ++
            (Writing.closingTag name blanks ++ rest) =
          data.text ++ (element.text ++
            (others.text ++ (Writing.closingTag name blanks ++ rest))) := by
        simp [Writing.Content.text, Writing.Element.text]
      rw [written, outcome_readContent_element, inner, Writing.Content.nodesAt,
        Node.lineagesOfAll_append, data.makes_item.lineages_eq_nil around, List.nil_append,
        Node.lineagesOfAll, firstAtDepth?_append, Position.after_append]
      refine Eq.trans (bind_unlessTooDeep _ _ _ next) ?_
      simp [withNodes, Writing.Content.text, Writing.Element.text]

end

/-! ## Documents -/

/-- Neither blanks nor a construct that may stand around the root element follow. -/
def EndsMisc (rest : List Char) : Prop :=
  Stops isBlank rest ∧
    ∀ place, (Cursor.mk place rest).enclosed Enclosure.aroundRoot = .ok none

theorem endsMisc_nil :
    EndsMisc [] := by
  refine ⟨stops_nil isBlank, fun place => ?_⟩
  exact Cursor.enclosed_unbracketed Enclosure.recognizable_aroundRoot (stops_nil _)

theorem endsMisc_element
    (element : Writing.Element)
    (rest : List Char) :
    EndsMisc (element.text ++ rest) := by
  rcases element.exists_tail_eq with ⟨first, more, begins, starts⟩
  rw [Writing.Element.text, begins]
  refine ⟨stops_cons (by decide) _, fun place => ?_⟩
  exact Cursor.enclosed_tag Enclosure.recognizable_aroundRoot place starts (more ++ rest)

theorem Writing.Misc.text_cons_append
    (run : Writing.Run isBlank)
    (enclosed : Writing.Enclosed Enclosure.aroundRoot)
    (others : List (Writing.Run isBlank × Writing.Enclosed Enclosure.aroundRoot))
    (blanks : Writing.Run isBlank)
    (rest : List Char) :
    text ⟨(run, enclosed) :: others, blanks⟩ ++ rest =
      run.text ++ (enclosed.text ++ (text ⟨others, blanks⟩ ++ rest)) := by
  simp [text]

theorem passMisc_append
    (place : Position)
    (misc : Writing.Misc)
    {rest : List Char}
    (ends : EndsMisc rest) :
    (Cursor.mk place (misc.text ++ rest)).passMisc = .ok ⟨place.after misc.text, rest⟩ := by
  rcases misc with ⟨constructs, blanks⟩
  induction constructs generalizing place with
  | nil =>
      have passed := Cursor.passBlanks_append place blanks.members ends.1
      rw [passMisc_eq, Writing.Misc.text, List.flatMap_nil, List.nil_append, passed, ends.2]
  | cons construct others hypothesis =>
      rcases construct with ⟨run, enclosed⟩
      rcases enclosed.exists_text_eq Enclosure.recognizable_aroundRoot with ⟨more, begins⟩
      have blanksEnd : Stops isBlank (enclosed.text ++
          (Writing.Misc.text ⟨others, blanks⟩ ++ rest)) := by
        rw [begins]
        exact stops_cons (by decide) _
      have passed := Cursor.passBlanks_append place run.members blanksEnd
      rw [passMisc_eq, Writing.Misc.text_cons_append, passed,
        Cursor.enclosed_append Enclosure.recognizable_aroundRoot]
      dsimp only
      rw [hypothesis]
      simp [Writing.Misc.text]

/-- A document is read back from its first character on, unless it is too deep. -/
theorem readDocument_body (document : Writing.Document) :
    readDocument document.body =
      unlessTooDeep (firstAtDepth? maximumNesting document.tree.lineages) document.tree := by
  have before := passMisc_append .start document.before
    (endsMisc_element document.root document.after.text)
  rw [readDocument_eq, Writing.Document.body, Cursor.ofText, before, bind_ok,
    Writing.Document.tree]
  generalize Position.start.after document.before.text = opening
  have opened := Cursor.pass?_append opening ['<'] (document.root.tail ++ document.after.text)
  have level : ([] : List Tag).length + maximumNesting = maximumNesting :=
    Nat.zero_add maximumNesting
  have root := outcome_readElement_append document.root level opening document.after.text
  have after := passMisc_append (opening.after document.root.text) document.after endsMisc_nil
  rw [List.append_nil] at after
  rw [List.singleton_append] at opened
  simp only [Writing.Element.text, List.cons_append, List.isEmpty_cons, Bool.false_eq_true,
    if_false, opened]
  rw [Position.after_cons, Position.after_nil, root, Element.lineages]
  cases firstAtDepth? maximumNesting
      ((document.root.elementAt opening).toNode.lineages []) with
  | some tag => rfl
  | none =>
      rw [unlessTooDeep, bind_ok]
      dsimp only
      rw [after, bind_ok]
      rfl

theorem withoutByteOrderMark_of_stops
    {text : List Char}
    (unmarked : Stops (· == '\ufeff') text) :
    withoutByteOrderMark text = text := by
  rw [withoutByteOrderMark.eq_def]
  split
  · cases unmarked '\ufeff' rfl
  · rfl

/-- Misc begins with a blank or with a bracket. -/
theorem Writing.Misc.stops_append
    (misc : Writing.Misc)
    {member : Char → Bool}
    (outside : ∀ character, isBlank character = true → member character = false)
    (bracket : member '<' = false)
    {rest : List Char}
    (stops : Stops member rest) :
    Stops member (misc.text ++ rest) := by
  rcases misc with ⟨constructs, blanks⟩
  cases constructs with
  | nil =>
      rw [text, List.flatMap_nil, List.nil_append]
      exact Text.stops_append blanks.members outside stops
  | cons construct others =>
      rcases construct with ⟨run, enclosed⟩
      rcases enclosed.exists_text_eq Enclosure.recognizable_aroundRoot with ⟨more, begins⟩
      rw [text_cons_append, begins]
      exact Text.stops_append run.members outside (stops_cons bracket _)

/-- No byte order mark stands where misc and an element begin. -/
theorem stops_byteOrderMark
    (before : Writing.Misc)
    (root : Writing.Element)
    (rest : List Char) :
    Stops (· == '\ufeff') (before.text ++ (root.text ++ rest)) := by
  have noBlank : ∀ character, isBlank character = true → (character == '\ufeff') = false := by
    intro character blank
    rw [beq_eq_false_iff_ne]
    rintro rfl
    revert blank
    decide
  exact before.stops_append noBlank (by decide) (stops_cons (by decide) _)

/-- A byte order mark before a document is not read as a part of it. -/
theorem withoutByteOrderMark_text (document : Writing.Document) :
    withoutByteOrderMark document.text = document.body := by
  rw [Writing.Document.text]
  cases document.marked with
  | true => rfl
  | false =>
      exact withoutByteOrderMark_of_stops
        (stops_byteOrderMark document.before document.root document.after.text)

theorem parse_text (document : Writing.Document) :
    parse (String.ofList document.text) =
      unlessTooDeep (firstAtDepth? maximumNesting document.tree.lineages) document.tree := by
  rw [parse, String.toList_ofList, withoutByteOrderMark_text, readDocument_body]

end ViewAccessors.Markup
