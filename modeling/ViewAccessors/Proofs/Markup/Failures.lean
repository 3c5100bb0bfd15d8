import ViewAccessors.Proofs.Markup.Beginnings
import ViewAccessors.Proofs.Markup.Endings

/-!
# Where reading fails

When reading fails, what has been read up to some place is the beginning of a
document, and what stands at this place cannot be read there.  For every cause
of a failure a rule says which beginning has been read and what is reported;
every text that is not read fails by one of the rules.
-/

namespace ViewAccessors.Markup

open Text

/-! ## The rules -/

/--
Reading an element that begins at `opening` fails with the error at `stop`,
behind what is written of the element.
-/
inductive Writing.Beginning.Fails :
    (beginning : Writing.Beginning) →
    (opening : Position) →
    (stop : Cursor) →
    (error : MarkupError) →
    Prop where
  | elementName
      {opening : Position}
      {stop : Cursor}
      (absent : stop.name? = none) :
      Fails .unnamed opening stop (stop.unexpected .elementName)
  | tagEnded
      {tag : StartTag}
      {opening : Position}
      {stop : Cursor}
      (ended : stop.rest = []) :
      Fails (.startTag tag) opening stop (.unterminated .startTag stop.place.line)
  | unseparated
      {tag : StartTag}
      {opening : Position}
      {stop : Cursor}
      (joined : tag.blanks.text = [])
      (more : stop.rest ≠ []) :
      Fails (.startTag tag) opening stop (stop.unexpected .blankBeforeAttribute)
  | attributeName
      {tag : StartTag}
      {opening : Position}
      {stop : Cursor}
      (absent : stop.name? = none)
      (more : stop.rest ≠ []) :
      Fails (.startTag tag) opening stop (stop.unexpected .attributeName)
  | attributeValue
      {tag : StartTag}
      {separated : tag.blanks.text ≠ []}
      {name : Name}
      {opening : Position}
      {stop : Cursor}
      (absent : stop.attributeValue? = none) :
      Fails (.attributeName tag separated name) opening stop (stop.unexpected .attributeValue)
  | valueReference
      {tag : StartTag}
      {opening : Position}
      {stop : Cursor}
      {raw rest reference : List Char}
      (separated : tag.blanks.text ≠ [])
      (name : Name)
      (beforeSign afterSign : Run isTagBlank)
      {quote : Char}
      (quotes : quote = '"' ∨ quote = '\'')
      (isRest : stop.rest = name.text ++ (beforeSign.text ++ '=' :: (afterSign.text ++
        quote :: (raw ++ quote :: rest))))
      (unquoted : quote ∉ raw)
      (faulty : Reference.decode raw = .error reference) :
      Fails (.startTag tag) opening stop
        (.invalidReference (String.ofList reference) stop.place.line)
  | duplicateAttribute
      {tag : StartTag}
      {opening : Position}
      {stop next : Cursor}
      (entry : Attribute)
      (repeated : entry.name.text ∈ tag.attributes.map (·.name.text))
      (passes : stop.Passes entry.ownText next) :
      Fails (.startTag tag) opening stop
        (.duplicateAttribute entry.name.string (stop.spanTo next))
  | contentEnded
      {tag : StartTag}
      {content : Content}
      {opening : Position}
      {stop : Cursor}
      (ended : stop.rest = []) :
      Fails (.inContent tag content) opening stop
        (.unterminated (.element tag.name.string) opening.line)
  | closingTag
      {tag : StartTag}
      {content : Content}
      {opening : Position}
      {stop inside : Cursor}
      (passes : stop.Passes ['<', '/'] inside)
      (absent : inside.closingName? = none) :
      Fails (.inContent tag content) opening stop (stop.unexpected .closingTag)
  | mismatchedTag
      {tag : StartTag}
      {content : Content}
      {opening : Position}
      {stop next : Cursor}
      (closing : Name)
      (blanks : Run isTagBlank)
      (different : closing.string ≠ tag.name.string)
      (passes : stop.Passes (Writing.closingTag closing blanks) next) :
      Fails (.inContent tag content) opening stop
        (.mismatchedTag tag.name.string closing.string (stop.spanTo next))
  | construct
      {tag : StartTag}
      {content : Content}
      {opening : Position}
      {stop : Cursor}
      {enclosure : Enclosure}
      (isAllowed : enclosure ∈ Enclosure.insideElement)
      (isOpen : enclosure.IsOpenIn stop.rest) :
      Fails (.inContent tag content) opening stop
        (.unterminated enclosure.construct stop.place.line)
  | textReference
      {tag : StartTag}
      {content : Content}
      {opening : Position}
      {stop : Cursor}
      {raw rest reference : List Char}
      (atTag : content.lastData.text = [])
      (isRest : stop.rest = raw ++ rest)
      (unbracketed : '<' ∉ raw)
      (ends : Stops (· != '<') rest)
      (faulty : Reference.decode raw = .error reference) :
      Fails (.inContent tag content) opening stop
        (.invalidReference (String.ofList reference) stop.place.line)
  | inChild
      {tag : StartTag}
      {content : Content}
      {inner : Beginning}
      {opening : Position}
      {stop : Cursor}
      {error : MarkupError}
      (fails : Fails inner (opening.after ('<' :: (tag.text ++ '>' :: content.text))) stop
        error) :
      Fails (.inChild tag content inner) opening stop error

/--
Reading an element for which there is some room fails because an element
stands too deep in it, or behind a beginning of it that fits into the room.
-/
def BreaksOff
    (room : Nat)
    (opening : Position)
    (inside : Cursor)
    (error : MarkupError) :
    Prop :=
  (∃ line, error = .nestedTooDeep maximumNesting line) ∨
    ∃ (beginning : Writing.Beginning) (stop : Cursor),
      inside.Passes beginning.tail stop ∧ beginning.levels ≤ room ∧
        beginning.Fails opening stop error

theorem BreaksOff.of_le
    {room larger : Nat}
    {opening : Position}
    {inside : Cursor}
    {error : MarkupError}
    (breaksOff : BreaksOff room opening inside error)
    (isLarger : room ≤ larger) :
    BreaksOff larger opening inside error := by
  rcases breaksOff with deep | ⟨beginning, stop, passes, fits, fails⟩
  · exact .inl deep
  · exact .inr ⟨beginning, stop, passes, Nat.le_trans fits isLarger, fails⟩

/-- What is unexpected is either the end of the text or a text that the error shows. -/
theorem Cursor.unexpected_ne
    {stop : Cursor}
    {expected : Expectation}
    {error : MarkupError}
    (notEnd : error ≠ .unexpectedEnd)
    (notToken : ∀ found place, error ≠ .unexpectedToken found expected place) :
    stop.unexpected expected ≠ error := by
  rw [unexpected]
  split
  · exact notEnd.symm
  · exact (notToken _ _).symm

/-! ## Start tags -/

theorem exists_of_decodeText_eq_error
    {raw : List Char}
    {line : Nat}
    {error : MarkupError}
    (failed : decodeText raw line = .error error) :
    ∃ reference, Reference.decode raw = .error reference ∧
      error = .invalidReference (String.ofList reference) line := by
  rw [decodeText] at failed
  split at failed
  · cases failed
  · rename_i reference faulty
    cases failed
    exact ⟨reference, faulty, rfl⟩

section

variable
    (opening : Position)
    {inside cursor : Cursor}
    {error : MarkupError}

/-- Where an attribute cannot be read, its name, its value or a reference in it is at fault. -/
theorem breaksOff_of_readAttribute
    (tag : Writing.StartTag)
    (separated : tag.blanks.text ≠ [])
    (passes : inside.Passes tag.text cursor)
    (more : cursor.rest ≠ [])
    (failed : outcome (readAttribute cursor) = .error error) :
    BreaksOff 1 opening inside error := by
  rw [outcome_readAttribute] at failed
  split at failed
  · rename_i unnamed
    cases failed
    exact .inr ⟨.startTag tag, cursor, passes, Nat.le_refl 1, .attributeName unnamed more⟩
  · rename_i name afterName named
    rcases Cursor.exists_of_name? named with ⟨written, rfl, passesName⟩
    split at failed
    · rename_i unvalued
      cases failed
      exact .inr ⟨.attributeName tag separated written, afterName, passes.trans passesName,
        Nat.le_refl 1, .attributeValue unvalued⟩
    · rename_i raw next valued
      rcases exists_of_decodeText_eq_error (map_eq_error_iff.mp failed) with
        ⟨reference, faulty, rfl⟩
      rcases Cursor.exists_of_attributeValue? valued with
        ⟨beforeSign, afterSign, quote, quotes, unquoted, passesValue⟩
      have isRest : cursor.rest = written.text ++ (beforeSign.text ++
          '=' :: (afterSign.text ++ quote :: (raw ++ quote :: next.rest))) := by
        rw [passesName.1, passesValue.1]
        simp
      exact .inr ⟨.startTag tag, cursor, passes, Nat.le_refl 1,
        .valueReference separated written beforeSign afterSign quotes isRest unquoted faulty⟩

theorem breaksOff_of_readTagItem
    (tag : Writing.StartTag)
    {spaced : Bool}
    (separated : spaced = true ↔ tag.blanks.text ≠ [])
    (passes : inside.Passes tag.text cursor)
    (failed : outcome (readTagItem spaced cursor) = .error error) :
    BreaksOff 1 opening inside error := by
  rw [outcome_readTagItem] at failed
  split at failed
  · cases failed
  · split at failed
    · cases failed
    · split at failed
      · rename_i ended
        cases failed
        exact .inr ⟨.startTag tag, cursor, passes, Nat.le_refl 1,
          .tagEnded (List.isEmpty_iff.mp ended)⟩
      · rename_i notEnded
        have more : cursor.rest ≠ [] := fun ended => notEnded (List.isEmpty_iff.mpr ended)
        split at failed
        · rename_i unspaced
          cases failed
          have joined : tag.blanks.text = [] := by
            by_contra blank
            simp [separated.mpr blank] at unspaced
          exact .inr ⟨.startTag tag, cursor, passes, Nat.le_refl 1, .unseparated joined more⟩
        · rename_i isSpaced
          have blank := separated.mp (by simpa using isSpaced)
          exact breaksOff_of_readAttribute opening tag blank passes more
            (map_eq_error_iff.mp failed)

/-- The blanks at a cursor are no blanks exactly if it does not stand before one. -/
theorem Cursor.exists_blanks_iff (cursor : Cursor) :
    ∃ blanks : Writing.Run isBlank, cursor.Passes blanks.text cursor.passBlanks ∧
      (cursor.rest.head?.any isBlank = true ↔ blanks.text ≠ []) := by
  rcases cursor.exists_blanks with ⟨blanks, passes, separated⟩
  refine ⟨blanks, passes, separated, ?_⟩
  intro nonempty
  rcases List.exists_cons_of_ne_nil nonempty with ⟨first, others, begins⟩
  have isBlank := blanks.members
  rw [begins, List.all_cons, Bool.and_eq_true] at isBlank
  rw [passes.1, begins]
  exact isBlank.1

/-- The name and some attributes of a start tag are read up to a cursor. -/
structure ReadsAttributes
    (inside : Cursor)
    (name : Writing.Name)
    (found : List Attribute)
    (attributes : List Writing.Attribute)
    (cursor : Cursor) :
    Prop where
  passes : inside.Passes (name.text ++ attributes.flatMap Writing.Attribute.text) cursor
  distinct : (attributes.map (·.name.text)).Nodup
  named : found.map Attribute.name =
    attributes.map fun entry => Name.ofText entry.name.string

namespace ReadsAttributes

variable
    {name : Writing.Name}
    {found : List Attribute}
    {attributes : List Writing.Attribute}

/-- A name is found among the attributes before it exactly if it is written there. -/
theorem any_name_eq_iff
    (reads : ReadsAttributes inside name found attributes cursor)
    (added : Writing.Name) :
    (found.any fun earlier => earlier.name = Name.ofText added.string) = true ↔
      added.text ∈ attributes.map (·.name.text) := by
  have injective : Function.Injective fun text => Name.ofText (String.ofList text) :=
    Name.ofText_injective.comp fun _ _ => String.ofList_injective
  have inTree : (found.any fun earlier => earlier.name = Name.ofText added.string) = true ↔
      Name.ofText added.string ∈ found.map Attribute.name := by
    simp only [List.any_eq_true, decide_eq_true_eq, List.mem_map]
  have written : (attributes.map fun entry => Name.ofText entry.name.string) =
      (attributes.map (·.name.text)).map fun text => Name.ofText (String.ofList text) := by
    rw [List.map_map]
    rfl
  rw [inTree, reads.named, written]
  exact List.mem_map_of_injective injective

theorem thenAttribute
    (reads : ReadsAttributes inside name found attributes cursor)
    {entry : Writing.Attribute}
    (fresh : entry.name.text ∉ attributes.map (·.name.text))
    (place : Position)
    {later : Cursor}
    (passesEntry : cursor.Passes entry.text later) :
    ReadsAttributes inside name (found ++ [entry.attributeAt place]) (attributes ++ [entry])
      later where
  passes := by
    have passesBoth := reads.passes.trans passesEntry
    rwa [List.append_assoc, ← List.flatMap_singleton Writing.Attribute.text entry,
      ← List.flatMap_append] at passesBoth
  distinct := Writing.nodup_names_append reads.distinct fresh
  named := by
    rw [List.map_append, List.map_append, reads.named]
    rfl

end ReadsAttributes

/-- Where the attributes of a start tag cannot be read, the tag is begun. -/
theorem breaksOff_of_readAttributes
    (name : Writing.Name)
    {found : List Attribute}
    {attributes : List Writing.Attribute}
    (reads : ReadsAttributes inside name found attributes cursor)
    (failed : outcome (readAttributes found cursor) = .error error) :
    BreaksOff 1 opening inside error := by
  -- The induction is on the text that is left.
  induction size : cursor.rest.length using Nat.strongRecOn
    generalizing found attributes cursor with
  | ind size hypothesis =>
      subst size
      rcases cursor.exists_blanks_iff with ⟨blanks, passesBlanks, separated⟩
      let tag : Writing.StartTag := ⟨name, attributes, reads.distinct, blanks⟩
      have passesTag : inside.Passes tag.text cursor.passBlanks := by
        have passesBoth := reads.passes.trans passesBlanks
        rwa [List.append_assoc] at passesBoth
      rw [outcome_readAttributes] at failed
      generalize isItem : outcome (readTagItem (cursor.rest.head?.any isBlank)
        cursor.passBlanks) = foundItem at failed
      cases foundItem with
      | error fault =>
          cases failed
          exact breaksOff_of_readTagItem opening tag separated passesTag isItem
      | ok itemAndNext =>
          rcases itemAndNext with ⟨item, later⟩
          rcases exists_of_readTagItem blanks separated.mp isItem with
            ⟨ending, rfl, passesEnd⟩ | ⟨entry, rfl, rfl, passesEntry⟩
          · cases failed
          · have repeatedIff := reads.any_name_eq_iff entry.name
            dsimp only at failed
            split at failed
            · rename_i repeated
              cases failed
              have span : (entry.attributeAt cursor.passBlanks.place).span =
                  cursor.passBlanks.spanTo later := by
                rw [Cursor.spanTo, passesEntry.2]
                rfl
              rw [span, Writing.Attribute.name_attributeAt, Name.toText_ofText]
              exact .inr ⟨.startTag tag, cursor.passBlanks, passesTag, Nat.le_refl 1,
                .duplicateAttribute entry (repeatedIff.mp repeated) passesEntry⟩
            · rename_i unrepeated
              have fresh : entry.name.text ∉ attributes.map (·.name.text) :=
                fun member => unrepeated (repeatedIff.mpr member)
              have passesAll : cursor.Passes entry.text later := by
                rw [entry.text_eq]
                exact passesBlanks.trans passesEntry
              exact hypothesis _ (passesAll.length_lt entry.text_ne_nil)
                (reads.thenAttribute fresh _ passesAll) failed rfl

/-! ## Content -/

/-- Where nothing can be read in a content, a rule says why. -/
theorem fails_of_readItem
    (tag : Writing.StartTag)
    {content : Writing.Content}
    (readUpTo : content.lastData.text ≠ [] → Stops (· != '<') cursor.rest)
    (failed : outcome? (readItem cursor) = .error error) :
    (Writing.Beginning.inContent tag content).Fails opening cursor error := by
  rw [outcome?_readItem] at failed
  split at failed
  · rename_i within closing
    split at failed
    · rename_i absent
      cases failed
      exact .closingTag (Cursor.pass?_eq_some_iff.mp closing) absent
    · cases failed
  · split at failed
    · rename_i fault enclosed
      cases failed
      rw [outcome?_readEnclosed] at enclosed
      rcases Cursor.exists_of_enclosed_eq_error (map_eq_error_iff.mp enclosed) with
        ⟨enclosure, isAllowed, isOpen, rfl⟩
      exact .construct isAllowed isOpen
    · cases failed
    · split at failed
      · cases failed
      · have passes := cursor.passes_passWhile (· != '<')
        have ends := cursor.stops_passWhile (· != '<')
        have unbracketed := List.all_eq_true.mp (cursor.all_passWhile (· != '<'))
        rw [outcome?_readText] at failed
        split at failed
        · cases failed
        · rename_i first others later passed
          rw [passed] at passes ends unbracketed
          split at failed
          · cases failed
          · rcases exists_of_decodeText_eq_error (map_eq_error_iff.mp failed) with
              ⟨reference, faulty, rfl⟩
            have notBracket : '<' ∉ first :: others := by
              intro member
              simpa using unbracketed '<' member
            refine .textReference ?_ passes.1 notBracket ends faulty
            by_contra nonempty
            have isBracket := readUpTo nonempty first (by rw [passes.1]; rfl)
            rw [bne_eq_false_iff_eq] at isBracket
            exact notBracket (isBracket ▸ List.mem_cons_self)

/-- Nothing is read only at the end of the text. -/
theorem rest_eq_nil_of_readItem
    (nothing : outcome? (readItem cursor) = .ok none) :
    cursor.rest = [] := by
  rw [outcome?_readItem] at nothing
  split at nothing
  · split at nothing
    · cases nothing
    · cases nothing
  · split at nothing
    · cases nothing
    · cases nothing
    · split at nothing
      · cases nothing
      · rename_i unopened
        have passes := cursor.passes_passWhile (· != '<')
        have ends := cursor.stops_passWhile (· != '<')
        rw [outcome?_readText] at nothing
        split at nothing
        · rename_i later passed
          rw [passed] at passes ends
          cases begins : cursor.rest with
          | nil => rfl
          | cons first others =>
              have sameRest : later.rest = first :: others := passes.1.symm.trans begins
              have isBracket := ends first (congrArg List.head? sameRest)
              rw [bne_eq_false_iff_eq] at isBracket
              have opened : cursor.Passes ['<'] ⟨cursor.place.after ['<'], others⟩ := by
                refine ⟨?_, rfl⟩
                rw [begins, isBracket]
                rfl
              rw [Cursor.pass?_eq_some_iff.mpr opened] at unopened
              cases unopened
        · split at nothing
          · cases nothing
          · rcases map_eq_ok_iff.mp nothing with ⟨content, -, same⟩
            cases same

/--
An element is read up to a cursor in its content, which fits into the room for
the elements in it.
-/
structure ReadsContent
    (room : Nat)
    (inside : Cursor)
    (tag : Writing.StartTag)
    (content : Writing.Content)
    (cursor : Cursor) :
    Prop where
  passes : inside.Passes (tag.text ++ '>' :: content.text) cursor
  fits : content.levels ≤ room
  readUpTo : content.lastData.text ≠ [] → Stops (· != '<') cursor.rest

namespace ReadsContent

variable
    {room : Nat}
    {tag : Writing.StartTag}
    {content : Writing.Content}
    {later : Cursor}

theorem thenEnclosed
    (reads : ReadsContent room inside tag content cursor)
    {construct : Writing.Enclosed Enclosure.insideElement}
    (passesConstruct : cursor.Passes construct.text later) :
    ReadsContent room inside tag (content.thenEnclosed construct) later where
  passes := by
    have longer := reads.passes.trans passesConstruct
    rwa [List.append_assoc, List.cons_append, ← content.text_thenEnclosed] at longer
  fits := by
    rw [content.levels_thenEnclosed]
    exact reads.fits
  readUpTo := by
    rw [content.lastData_thenEnclosed]
    exact absurd rfl

theorem thenChild
    (reads : ReadsContent room inside tag content cursor)
    {child : Writing.Element}
    (childFits : child.levels ≤ room)
    (passesChild : cursor.Passes child.text later) :
    ReadsContent room inside tag (content.thenChild child) later where
  passes := by
    have longer := reads.passes.trans passesChild
    rwa [List.append_assoc, List.cons_append, ← content.text_thenChild] at longer
  fits := by
    rw [content.levels_thenChild]
    exact Nat.max_le.mpr ⟨reads.fits, childFits⟩
  readUpTo := by
    rw [content.lastData_thenChild]
    exact absurd rfl

theorem thenData
    (reads : ReadsContent room inside tag content cursor)
    {data : Writing.CharacterData}
    (nonempty : data.text ≠ [])
    (ends : Stops (· != '<') later.rest)
    (passesData : cursor.Passes data.text later) :
    ReadsContent room inside tag (content.thenData data) later where
  passes := by
    have atTag := Writing.CharacterData.text_eq_nil_of_passes reads.readUpTo nonempty passesData
    have longer := reads.passes.trans passesData
    rwa [List.append_assoc, List.cons_append,
      ← Writing.Content.text_thenData atTag data] at longer
  fits := by
    rw [content.levels_thenData]
    exact reads.fits
  readUpTo := fun _ => ends

/-- Where an element in the content is begun, the element around it is. -/
theorem breaksOff_of_child
    (reads : ReadsContent room inside tag content cursor)
    (begins : inside.place = opening.step '<')
    {inner : Cursor}
    (opens : cursor.Passes ['<'] inner)
    (breaksOff : BreaksOff room cursor.place inner error) :
    BreaksOff (room + 1) opening inside error := by
  rcases breaksOff with deep | ⟨beginning, stop, passesInner, innerFits, fails⟩
  · exact .inl deep
  · refine .inr ⟨.inChild tag content beginning, stop, ?_, ?_, .inChild ?_⟩
    · have passesAll := reads.passes.trans (opens.trans passesInner)
      rwa [List.append_assoc, List.cons_append] at passesAll
    · exact Nat.succ_le_succ (Nat.max_le.mpr ⟨reads.fits, innerFits⟩)
    · have reached := reads.passes.2
      rw [begins, ← Position.after_cons] at reached
      rw [← reached]
      exact fails

end ReadsContent

/-- Where the content of an element cannot be read, the element is begun. -/
theorem breaksOff_of_readContent
    {room : Nat}
    (within : room ≤ maximumNesting)
    (sound : ∀ {opening : Position} {inside : Cursor} {error : MarkupError},
      inside.place = opening.step '<' →
      outcome (readElement room opening inside) = .error error →
      BreaksOff room opening inside error)
    (begins : inside.place = opening.step '<')
    (tag : Writing.StartTag)
    {content : Writing.Content}
    (reads : ReadsContent room inside tag content cursor)
    (failed : outcome (readContent (readElement room) tag.name.string opening cursor) =
      .error error) :
    BreaksOff (room + 1) opening inside error := by
  -- The induction is on the text that is left.  What has been read grows at its end.
  induction size : cursor.rest.length using Nat.strongRecOn generalizing content cursor with
  | ind size hypothesis =>
      subst size
      have failedHere : ∀ {fault : MarkupError},
          (Writing.Beginning.inContent tag content).Fails opening cursor fault →
            BreaksOff (room + 1) opening inside fault := by
        intro fault fails
        exact .inr ⟨.inContent tag content, cursor, reads.passes,
          Nat.succ_le_succ reads.fits, fails⟩
      have failedItem := failed
      rw [outcome_readContent] at failedItem
      generalize isItem : outcome? (Markup.readItem cursor) = found at failedItem
      rcases found with fault | none | ⟨item, later⟩
      · cases failedItem
        exact failedHere (fails_of_readItem opening tag reads.readUpTo isItem)
      · cases failedItem
        exact failedHere (.contentEnded (rest_eq_nil_of_readItem isItem))
      · rcases exists_of_readItem isItem with
          ⟨closing, blanks, rfl, passesItem⟩ | ⟨construct, makes, passesItem⟩ | ⟨rfl, passesItem⟩ |
          ⟨data, makes, nonempty, ends, passesItem⟩
        · dsimp only at failedItem
          split at failedItem
          · cases failedItem
          · rename_i different
            cases failedItem
            exact failedHere (.mismatchedTag closing blanks different passesItem)
        · rw [outcome_readContent_of_makes _ _ _ isItem makes, map_eq_error_iff] at failed
          exact hypothesis _ (passesItem.length_lt construct.text_ne_nil)
            (reads.thenEnclosed passesItem) failed rfl
        · rcases bind_eq_error_iff.mp failedItem with
            failedChild | ⟨⟨element, after⟩, readChild, failedAfter⟩
          · exact reads.breaksOff_of_child opening begins passesItem
              (sound passesItem.2 failedChild)
          · rcases exists_levels_le_of_readElement within passesItem.2 readChild with
              ⟨child, -, passesTail, childFits⟩
            have passesChild : cursor.Passes child.text after := passesItem.trans passesTail
            exact hypothesis _ (passesChild.length_lt (List.cons_ne_nil _ _))
              (reads.thenChild childFits passesChild) (map_eq_error_iff.mp failedAfter) rfl
        · rw [outcome_readContent_of_makes _ _ _ isItem makes, map_eq_error_iff] at failed
          exact hypothesis _ (passesItem.length_lt nonempty)
            (reads.thenData nonempty ends passesItem) failed rfl

end

/-! ## Elements -/

/-- Where an element cannot be read, it is too deep or begun. -/
theorem breaksOff_of_readElement
    {room : Nat}
    (within : room ≤ maximumNesting)
    {opening : Position}
    {inside : Cursor}
    {error : MarkupError}
    (begins : inside.place = opening.step '<')
    (failed : outcome (readElement room opening inside) = .error error) :
    BreaksOff room opening inside error := by
  induction room generalizing opening inside error with
  | zero =>
      rw [outcome_readElement_zero] at failed
      cases failed
      exact .inl ⟨opening.line, rfl⟩
  | succ room hypothesis =>
      rw [outcome_readElement_succ] at failed
      split at failed
      · rename_i unnamed
        cases failed
        exact .inr ⟨.unnamed, inside, .refl inside, Nat.le_add_left 1 room, .elementName unnamed⟩
      · rename_i name afterName named
        rcases Cursor.exists_of_name? named with ⟨written, rfl, passesName⟩
        rcases bind_eq_error_iff.mp failed with
          failedTag | ⟨⟨⟨all, closed⟩, start⟩, readTag, failedInside⟩
        · have reads : ReadsAttributes inside written [] [] afterName := by
            refine ⟨?_, List.nodup_nil, rfl⟩
            rw [List.flatMap_nil, List.append_nil]
            exact passesName
          exact (breaksOff_of_readAttributes opening written reads failedTag).of_le
            (Nat.le_add_left 1 room)
        · rcases exists_of_readAttributes readTag with
            ⟨attributes, blanks, -, distinct, -, passesAttributes⟩
          have passesTag := passesName.trans passesAttributes
          let tag : Writing.StartTag := ⟨written, attributes, distinct, blanks⟩
          cases closed with
          | true => cases failedInside
          | false =>
              have reads : ReadsContent room inside tag (.last .none) start := by
                refine ⟨?_, Nat.zero_le room, absurd rfl⟩
                simpa [Writing.StartTag.text, tag, tagEnd, Writing.Content.text,
                  Writing.CharacterData.text, Writing.CharacterData.none] using passesTag
              exact breaksOff_of_readContent opening (Nat.le_of_succ_le within)
                (hypothesis (Nat.le_of_succ_le within)) begins tag reads
                (map_eq_error_iff.mp failedInside)

/-! ## Documents -/

/-- Reading a text as a document fails with the error. -/
inductive DocumentFails (text : List Char) : (error : MarkupError) → Prop where
  | missingRoot
      {misc : Writing.Misc}
      {stop : Cursor}
      (passes : (Cursor.ofText text).Passes misc.text stop)
      (ended : stop.rest = []) :
      DocumentFails text .missingRoot
  | rootElement
      {misc : Writing.Misc}
      {stop : Cursor}
      (passes : (Cursor.ofText text).Passes misc.text stop)
      (more : stop.rest ≠ []) :
      DocumentFails text (stop.unexpected .rootElement)
  | constructBefore
      {misc : Writing.Misc}
      {stop : Cursor}
      {enclosure : Enclosure}
      (passes : (Cursor.ofText text).Passes misc.text stop)
      (isAllowed : enclosure ∈ Enclosure.aroundRoot)
      (isOpen : enclosure.IsOpenIn stop.rest) :
      DocumentFails text (.unterminated enclosure.construct stop.place.line)
  | inRoot
      {misc : Writing.Misc}
      {beginning : Writing.Beginning}
      {stop : Cursor}
      {error : MarkupError}
      (passes : (Cursor.ofText text).Passes (misc.text ++ '<' :: beginning.tail) stop)
      (fits : beginning.levels ≤ maximumNesting)
      (fails : beginning.Fails (Position.start.after misc.text) stop error) :
      DocumentFails text error
  | nestedTooDeep
      (line : Nat) :
      DocumentFails text (.nestedTooDeep maximumNesting line)
  | constructBehind
      {before after : Writing.Misc}
      {root : Writing.Element}
      {stop : Cursor}
      {enclosure : Enclosure}
      (passes : (Cursor.ofText text).Passes (before.text ++ (root.text ++ after.text)) stop)
      (isAllowed : enclosure ∈ Enclosure.aroundRoot)
      (isOpen : enclosure.IsOpenIn stop.rest) :
      DocumentFails text (.unterminated enclosure.construct stop.place.line)
  | trailingContent
      {before after : Writing.Misc}
      {root : Writing.Element}
      {stop : Cursor}
      (passes : (Cursor.ofText text).Passes (before.text ++ (root.text ++ after.text)) stop)
      (more : stop.rest ≠ []) :
      DocumentFails text (.trailingContent stop.place.line)

/-- What is not read as a document fails by one of the rules. -/
theorem documentFails_of_readDocument
    {text : List Char}
    {error : MarkupError}
    (failed : readDocument text = .error error) :
    DocumentFails text error := by
  rw [readDocument_eq] at failed
  rcases bind_eq_error_iff.mp failed with failedBefore | ⟨start, passedBefore, failedRoot⟩
  · rcases exists_of_passMisc_eq_error failedBefore with
      ⟨misc, stop, passes, enclosure, isAllowed, isOpen, rfl⟩
    exact .constructBefore passes isAllowed isOpen
  · rcases exists_of_passMisc passedBefore with ⟨misc, passes⟩
    split at failedRoot
    · rename_i ended
      cases failedRoot
      exact .missingRoot passes (List.isEmpty_iff.mp ended)
    · rename_i more
      split at failedRoot
      · cases failedRoot
        exact .rootElement passes fun ended => more (List.isEmpty_iff.mpr ended)
      · rename_i inside opened
        have passesBracket := Cursor.pass?_eq_some_iff.mp opened
        rcases bind_eq_error_iff.mp failedRoot with
          failedElement | ⟨⟨root, next⟩, read, failedBehind⟩
        · rcases breaksOff_of_readElement (Nat.le_refl _) passesBracket.2 failedElement with
            ⟨line, rfl⟩ | ⟨beginning, stop, passesRoot, fits, fails⟩
          · exact .nestedTooDeep line
          · rw [passes.2] at fails
            exact .inRoot (passes.trans (passesBracket.trans passesRoot)) fits fails
        · rcases exists_of_readElement maximumNesting passesBracket.2 read with
            ⟨element, -, passesElement⟩
          have passesRoot := passesBracket.trans passesElement
          rcases bind_eq_error_iff.mp failedBehind with
            failedMisc | ⟨last, passedMisc, failedEnd⟩
          · rcases exists_of_passMisc_eq_error failedMisc with
              ⟨after, stop, passesAfter, enclosure, isAllowed, isOpen, rfl⟩
            have passesAll : (Cursor.ofText text).Passes
                (misc.text ++ (element.text ++ after.text)) stop :=
              passes.trans (passesRoot.trans passesAfter)
            exact .constructBehind passesAll isAllowed isOpen
          · rcases exists_of_passMisc passedMisc with ⟨after, passesAfter⟩
            split at failedEnd
            · cases failedEnd
            · rename_i moreBehind
              cases failedEnd
              have passesAll : (Cursor.ofText text).Passes
                  (misc.text ++ (element.text ++ after.text)) last :=
                passes.trans (passesRoot.trans passesAfter)
              exact .trailingContent passesAll
                fun ended => moreBehind (List.isEmpty_iff.mpr ended)

end ViewAccessors.Markup
