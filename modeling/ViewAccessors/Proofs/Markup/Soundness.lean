import ViewAccessors.Proofs.Markup.Completeness

/-!
# What is read is written

Whatever is read as an element, as content or as a document is a writing of
it, from the first character that is passed to the last one.  Reading goes
through the content of an element item by item; the character data just
before the cursor are kept until it is known what follows them.
-/

namespace ViewAccessors.Markup

open Text

/-! ## Content -/

/-- `child` reads as an element only what is written as one. -/
def ReadsElements
    (child : Position → (inside : Cursor) → Except MarkupError (Reading Element inside)) :
    Prop :=
  ∀ {opening : Position} {inside next : Cursor} {element : Element},
    inside.place = opening.step '<' →
    outcome (child opening inside) = .ok (element, next) →
    ∃ written : Writing.Element,
      written.elementAt opening = element ∧ inside.Passes written.tail next

/-- Character data follow a cursor only if none end there. -/
theorem Writing.CharacterData.text_eq_nil_of_passes
    {before data : Writing.CharacterData}
    {cursor later : Cursor}
    (ended : before.text ≠ [] → Stops (· != '<') cursor.rest)
    (nonempty : data.text ≠ [])
    (passes : cursor.Passes data.text later) :
    before.text = [] := by
  by_contra notEmpty
  rcases List.exists_cons_of_ne_nil nonempty with ⟨first, more, begins⟩
  have isBracket := ended notEmpty first (by rw [passes.1, begins]; rfl)
  have member : first ∈ data.text := begins ▸ List.mem_cons_self
  rw [bne_eq_false_iff_eq] at isBracket
  exact data.bracket_notMem_text (isBracket ▸ member)

/-- Content of the given nodes and the closing tag of `name` are written from `start` to `next`. -/
def WritesContent
    (name : String)
    (start next : Cursor)
    (nodes : List Node) :
    Prop :=
  ∃ (content : Writing.Content) (closing : Writing.Name) (blanks : Writing.Run isTagBlank),
    closing.string = name ∧ content.nodesAt start.place = nodes ∧
      start.Passes (content.text ++ Writing.closingTag closing blanks) next

namespace WritesContent

variable
    {name : String}
    {start later next : Cursor}
    {others : List Node}

theorem last
    (before : Writing.CharacterData)
    (closing : Writing.Name)
    (blanks : Writing.Run isTagBlank)
    (passes : start.Passes (before.text ++ Writing.closingTag closing blanks) next) :
    WritesContent closing.string start next before.nodes :=
  ⟨.last before, closing, blanks, rfl, rfl, passes⟩

theorem enclosed
    (before : Writing.CharacterData)
    (construct : Writing.Enclosed Enclosure.insideElement)
    (passes : start.Passes (before.text ++ construct.text) later)
    (written : WritesContent name later next others) :
    WritesContent name start next (before.nodes ++ (construct.nodes ++ others)) := by
  rcases written with ⟨content, closing, blanks, same, rfl, passesOthers⟩
  refine ⟨.enclosed before construct content, closing, blanks, same, ?_, ?_⟩
  · rw [Writing.Content.nodesAt, ← passes.2, List.append_assoc]
  · have passesAll := passes.trans passesOthers
    simpa only [Writing.Content.text, List.append_assoc] using passesAll

theorem child
    (before : Writing.CharacterData)
    (element : Writing.Element)
    (passes : start.Passes (before.text ++ element.text) later)
    (written : WritesContent name later next others) :
    WritesContent name start next
      (before.nodes ++
        (element.elementAt (start.place.after before.text)).toNode :: others) := by
  rcases written with ⟨content, closing, blanks, same, rfl, passesOthers⟩
  refine ⟨.child before element content, closing, blanks, same, ?_, ?_⟩
  · rw [Writing.Content.nodesAt, ← passes.2]
  · have passesAll := passes.trans passesOthers
    simpa [Writing.Content.text, Writing.Element.text] using passesAll

end WritesContent

/--
The content that is read after the character data `before`, which begin at
`start` and reach to the cursor, is written from `start` on.
-/
theorem writesContent_of_readContent
    {child : Position → (inside : Cursor) → Except MarkupError (Reading Element inside)}
    (sound : ReadsElements child)
    {name : String}
    {opening : Position}
    {start cursor next : Cursor}
    {nodes : List Node}
    (before : Writing.CharacterData)
    (passesBefore : start.Passes before.text cursor)
    (ended : before.text ≠ [] → Stops (· != '<') cursor.rest)
    (read : outcome (readContent child name opening cursor) = .ok (nodes, next)) :
    WritesContent name start next (before.nodes ++ nodes) := by
  -- The induction is on the text that is left.  Character data are handed on as `before`,
  -- as they cannot be content of their own where other character data might follow.
  induction size : cursor.rest.length using Nat.strongRecOn
    generalizing start cursor before nodes with
  | ind size hypothesis =>
      subst size
      -- After a construct or a child nothing is kept.
      have afresh : ∀ {later : Cursor} {others : List Node},
          later.rest.length < cursor.rest.length →
          outcome (readContent child name opening later) = .ok (others, next) →
          WritesContent name later next others := by
        intro later others shorter readOthers
        exact hypothesis _ shorter .none (.refl later) (absurd rfl) readOthers rfl
      have readItem := read
      rw [outcome_readContent] at readItem
      generalize isItem : outcome? (Markup.readItem cursor) = found at readItem
      rcases found with error | none | ⟨item, later⟩
      · cases readItem
      · cases readItem
      · rcases exists_of_readItem isItem with
          ⟨closing, blanks, rfl, passes⟩ | ⟨construct, makes, passes⟩ | ⟨rfl, passes⟩ |
          ⟨data, makes, nonempty, ends, passes⟩
        · dsimp only at readItem
          split at readItem
          · rename_i same
            cases readItem
            rw [List.append_nil, ← same]
            exact .last before closing blanks (passesBefore.trans passes)
          · cases readItem
        · rw [outcome_readContent_of_makes child name opening isItem makes] at read
          rcases map_eq_ok_iff.mp read with ⟨⟨others, last⟩, readOthers, same⟩
          cases same
          exact .enclosed before construct (passesBefore.trans passes)
            (afresh (passes.length_lt construct.text_ne_nil) readOthers)
        · rcases bind_eq_ok_iff.mp readItem with ⟨⟨element, after⟩, readChild, readAfter⟩
          rcases map_eq_ok_iff.mp readAfter with ⟨⟨others, last⟩, readOthers, same⟩
          cases same
          rcases sound passes.2 readChild with ⟨written, rfl, passesChild⟩
          have passesTag := passes.trans passesChild
          rw [passesBefore.2]
          exact .child before written (passesBefore.trans passesTag)
            (afresh (passesTag.length_lt (List.cons_ne_nil _ _)) readOthers)
        · rw [outcome_readContent_of_makes child name opening isItem makes] at read
          rcases map_eq_ok_iff.mp read with ⟨⟨others, last⟩, readOthers, same⟩
          cases same
          have empty := Writing.CharacterData.text_eq_nil_of_passes ended nonempty passes
          have passesBoth := passesBefore.trans passes
          rw [empty, List.nil_append] at passesBoth
          rw [before.nodes_eq_nil_of_text empty]
          exact hypothesis _ (passes.length_lt nonempty) data passesBoth (fun _ => ends)
            readOthers rfl

/-! ## Elements -/

theorem Writing.Name.eq_of_string_eq
    {first second : Writing.Name}
    (same : first.string = second.string) :
    first = second := by
  have sameText : first.text = second.text := String.ofList_injective same
  cases first
  cases second
  cases sameText
  rfl

/-- Whatever is read as an element is written as one, however much room there is. -/
theorem exists_of_readElement (room : Nat) :
    ReadsElements (readElement room) := by
  induction room with
  | zero =>
      intro opening inside next element begins read
      rw [outcome_readElement_zero] at read
      cases read
  | succ room hypothesis =>
      intro opening inside next element begins read
      rw [outcome_readElement_succ] at read
      split at read
      · cases read
      · rename_i name afterName named
        rcases bind_eq_ok_iff.mp read with ⟨⟨⟨all, closed⟩, start⟩, readTag, readInside⟩
        rcases map_eq_ok_iff.mp readInside with ⟨⟨children, last⟩, readChildren, same⟩
        cases same
        rcases Cursor.exists_of_name? named with ⟨written, rfl, passesName⟩
        rcases exists_of_readAttributes readTag with
          ⟨attributes, blanks, rfl, distinct, -, passesAttributes⟩
        have passesTag := passesName.trans passesAttributes
        let tag : Writing.StartTag := ⟨written, attributes, distinct, blanks⟩
        cases closed with
        | true =>
            cases readChildren
            have passes : inside.Passes (Writing.Element.closed tag).tail next := by
              simpa [Writing.Element.tail, Writing.StartTag.text, tag, tagEnd] using passesTag
            refine ⟨.closed tag, ?_, passes⟩
            rw [passes.2, passesName.2, begins]
            rfl
        | false =>
            rcases writesContent_of_readContent hypothesis .none (.refl start) (absurd rfl)
                readChildren with
              ⟨content, closing, closingBlanks, same, writtenChildren, passesContent⟩
            cases Writing.Name.eq_of_string_eq same
            have passes : inside.Passes (Writing.Element.filled tag content closingBlanks).tail
                next := by
              have passesAll := passesTag.trans passesContent
              simpa [Writing.Element.tail, Writing.StartTag.text, tag, tagEnd] using passesAll
            have reached : start.place = opening.after ('<' :: tag.text ++ ['>']) := by
              rw [passesTag.2, begins]
              simp [Writing.StartTag.text, tag, tagEnd]
            refine ⟨.filled tag content closingBlanks, ?_, passes⟩
            rw [Writing.Element.elementAt, ← reached, writtenChildren, passes.2, passesName.2,
              begins]
            rfl

/-! ## Documents -/

theorem exists_of_passMisc
    {cursor later : Cursor}
    (passed : cursor.passMisc = .ok later) :
    ∃ misc : Writing.Misc, cursor.Passes misc.text later := by
  fun_induction Cursor.passMisc cursor with
  | case1 cursor error found => cases passed
  | case2 cursor found =>
      cases passed
      rcases cursor.exists_blanks with ⟨blanks, passes, -⟩
      exact ⟨⟨[], blanks⟩, passes⟩
  | case3 cursor enclosure content inner found hypothesis =>
      rcases cursor.exists_blanks with ⟨run, passesRun, -⟩
      rcases Cursor.exists_of_enclosed Enclosure.recognizable_aroundRoot found with
        ⟨construct, -, -, passesConstruct⟩
      rcases hypothesis passed with ⟨⟨others, blanks⟩, passesOthers⟩
      refine ⟨⟨(run, construct) :: others, blanks⟩, ?_⟩
      have passesAll := passesRun.trans (passesConstruct.trans passesOthers)
      rw [← List.append_nil (Writing.Misc.text _), Writing.Misc.text_cons_append,
        List.append_nil]
      exact passesAll

theorem exists_of_readDocument
    {text : List Char}
    {root : Element}
    (read : readDocument text = .ok root)
    (marked : Bool) :
    ∃ document : Writing.Document,
      document.marked = marked ∧ document.body = text ∧ document.tree = root := by
  rw [readDocument_eq] at read
  rcases bind_eq_ok_iff.mp read with ⟨start, passedBefore, readRoot⟩
  rcases exists_of_passMisc passedBefore with ⟨before, passesBefore⟩
  split at readRoot
  · cases readRoot
  · split at readRoot
    · cases readRoot
    · rename_i inside opened
      rcases bind_eq_ok_iff.mp readRoot with ⟨⟨element, next⟩, readElement, readAfter⟩
      rcases bind_eq_ok_iff.mp readAfter with ⟨last, passedAfter, readEnd⟩
      rcases exists_of_passMisc passedAfter with ⟨after, passesAfter⟩
      have passesBracket := Cursor.pass?_eq_some_iff.mp opened
      rcases exists_of_readElement maximumNesting passesBracket.2 readElement with
        ⟨written, rfl, passesRoot⟩
      split at readEnd
      · rename_i ended
        cases readEnd
        have passesAll := passesBefore.trans
          (passesBracket.trans (passesRoot.trans passesAfter))
        refine ⟨⟨marked, before, written, after⟩, rfl, ?_, ?_⟩
        · have whole := passesAll.1
          rw [List.isEmpty_iff.mp ended, List.append_nil] at whole
          exact whole.symm
        · rw [passesBefore.2]
          rfl
      · cases readEnd

/-- Whatever is read from a text as a document, the text is a writing of it. -/
theorem exists_of_parse
    {text : String}
    {root : Element}
    (read : parse text = .ok root) :
    ∃ document : Writing.Document, document.text = text.toList ∧ document.tree = root := by
  rw [parse, withoutByteOrderMark.eq_def] at read
  split at read
  · rename_i others marked
    rcases exists_of_readDocument read true with ⟨document, isMarked, rfl, rfl⟩
    refine ⟨document, ?_, rfl⟩
    rw [Writing.Document.text, isMarked, marked]
    rfl
  · rcases exists_of_readDocument read false with ⟨document, isUnmarked, isBody, rfl⟩
    refine ⟨document, ?_, rfl⟩
    rw [Writing.Document.text, isUnmarked, isBody]
    rfl

end ViewAccessors.Markup
