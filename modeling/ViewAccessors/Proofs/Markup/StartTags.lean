import Mathlib.Logic.Function.Basic
import ViewAccessors.Proofs.Markup.Lexemes
import ViewAccessors.Proofs.Markup.Reading
import ViewAccessors.Proofs.Markup.References

/-!
# Reading start tags

The attributes of a start tag are read back as they were written.  What is
read as attributes has been written as attributes, with blanks before each of
them and without one name twice.
-/

namespace ViewAccessors.Markup

open Text

/-! ## Names in the tree -/

namespace Name

theorem toText_ofText (text : String) :
    (ofText text).toText = text := by
  rw [ofText]
  split
  · rename_i qualifier localName cut
    apply String.toList_inj.mp
    rw [eq_append_of_splitFirst cut]
    simp [toText]
  · rfl

theorem ofText_injective :
    Function.Injective ofText :=
  Function.LeftInverse.injective toText_ofText

end Name

/-! ## Values -/

theorem decodeText_phrase
    {delimiter : Char}
    (phrase : Writing.Phrase delimiter)
    (line : Nat) :
    decodeText phrase.text line = .ok phrase.value := by
  rw [decodeText, Writing.Phrase.text, Reference.decode_symbols]
  rfl

theorem exists_of_decodeText
    {delimiter : Char}
    {raw : List Char}
    {line : Nat}
    {content : String}
    (undelimited : delimiter ∉ raw)
    (decoded : decodeText raw line = .ok content) :
    ∃ phrase : Writing.Phrase delimiter, phrase.text = raw ∧ phrase.value = content := by
  rw [decodeText] at decoded
  split at decoded
  · rename_i value isValue
    cases decoded
    rcases Reference.exists_symbols_of_decode isValue with ⟨symbols, rfl, rfl⟩
    exact ⟨⟨symbols, undelimited⟩, rfl, rfl⟩
  · cases decoded

/-! ## One attribute -/

namespace Writing.Attribute

theorem ownText_eq (entry : Writing.Attribute) :
    entry.ownText = entry.name.text ++ entry.signAndValue :=
  rfl

theorem text_eq (entry : Writing.Attribute) :
    entry.text = entry.blanks.text ++ entry.ownText :=
  rfl

@[simp]
theorem name_attributeAt
    (place : Position)
    (entry : Writing.Attribute) :
    (entry.attributeAt place).name = Name.ofText entry.name.string :=
  rfl

theorem exists_blanks_eq (entry : Writing.Attribute) :
    ∃ first others, entry.blanks.text = first :: others ∧ isBlank first = true := by
  rcases List.exists_cons_of_ne_nil entry.separated with ⟨first, others, begins⟩
  have members := entry.blanks.members
  rw [begins, List.all_cons, Bool.and_eq_true] at members
  exact ⟨first, others, begins, members.1⟩

theorem text_ne_nil (entry : Writing.Attribute) :
    entry.text ≠ [] := by
  intro empty
  exact entry.separated (List.append_eq_nil_iff.mp empty).1

theorem ownText_ne_nil (entry : Writing.Attribute) :
    entry.ownText ≠ [] := by
  intro empty
  exact entry.name.ne_nil (List.append_eq_nil_iff.mp empty).1

end Writing.Attribute

theorem outcome_readAttribute_append
    (place : Position)
    (entry : Writing.Attribute)
    (rest : List Char) :
    outcome (readAttribute ⟨place, entry.ownText ++ rest⟩) =
      .ok (entry.attributeAt place, ⟨place.after entry.ownText, rest⟩) := by
  have nameEnds : Stops isNameCharacter (entry.signAndValue ++ rest) := by
    rw [Writing.Attribute.signAndValue, List.append_assoc, List.cons_append]
    exact stops_isNameCharacter_append entry.beforeSign.all_isBlank (stops_cons (by decide) _)
  have named := Cursor.name?_append place entry.name nameEnds
  have valued := Cursor.attributeValue?_append (place.after entry.name.text) entry rest
  rw [← List.append_assoc, ← entry.ownText_eq] at named
  simp only [outcome_readAttribute, named, valued, decodeText_phrase]
  simp [Except.map, Writing.Attribute.attributeAt, Writing.Attribute.ownText_eq,
    Writing.Name.string, Cursor.spanTo]

theorem exists_of_readAttribute
    {cursor next : Cursor}
    {read : Attribute}
    (blanks : Writing.Run isBlank)
    (separated : blanks.text ≠ [])
    (found : outcome (readAttribute cursor) = .ok (read, next)) :
    ∃ entry : Writing.Attribute, entry.blanks = blanks ∧
      entry.attributeAt cursor.place = read ∧ cursor.Passes entry.ownText next := by
  rw [outcome_readAttribute] at found
  split at found
  · cases found
  · rename_i name afterName named
    split at found
    · cases found
    · rename_i raw after valued
      rcases map_eq_ok_iff.mp found with ⟨value, decoded, same⟩
      cases same
      rcases Cursor.exists_of_name? named with ⟨written, rfl, passesName⟩
      rcases Cursor.exists_of_attributeValue? valued with
        ⟨beforeSign, afterSign, quote, quotes, unquoted, passesValue⟩
      rcases exists_of_decodeText unquoted decoded with ⟨phrase, rfl, rfl⟩
      have passes := passesName.trans passesValue
      refine ⟨⟨blanks, separated, written, beforeSign, afterSign, quote, quotes, phrase⟩,
        rfl, ?_, passes⟩
      rw [Writing.Attribute.attributeAt, Cursor.spanTo, passes.2]
      rfl

/-! ## The attributes up to the end of the tag -/

/-- How a start tag ends. -/
def tagEnd (closed : Bool) : List Char :=
  if closed then ['/', '>'] else ['>']

theorem stops_tagEnd
    {member : Char → Bool}
    (slash : member '/' = false)
    (bracket : member '>' = false)
    (closed : Bool)
    (rest : List Char) :
    Stops member (tagEnd closed ++ rest) := by
  cases closed with
  | false => exact stops_cons bracket _
  | true => exact stops_cons slash _

/-- The name of an element ends where attributes or the end of the tag follow. -/
theorem stops_isNameCharacter_attributes
    (attributes : List Writing.Attribute)
    (blanks : Writing.Run isBlank)
    (closed : Bool)
    (rest : List Char) :
    Stops isNameCharacter (attributes.flatMap Writing.Attribute.text ++
      (blanks.text ++ (tagEnd closed ++ rest))) := by
  cases attributes with
  | nil =>
      have endStops : Stops isNameCharacter (tagEnd closed ++ rest) :=
        stops_tagEnd (by decide) (by decide) closed rest
      rw [List.flatMap_nil, List.nil_append]
      exact stops_isNameCharacter_append blanks.members endStops
  | cons entry others =>
      rcases entry.exists_blanks_eq with ⟨first, more, begins, isFirstBlank⟩
      rw [List.flatMap_cons, entry.text_eq, begins]
      exact stops_cons (isNameCharacter_eq_false_of_isBlank isFirstBlank) _

theorem outcome_readTagItem_end
    (spaced : Bool)
    (place : Position)
    (closed : Bool)
    (rest : List Char) :
    outcome (readTagItem spaced ⟨place, tagEnd closed ++ rest⟩) =
      .ok (.ending closed, ⟨place.after (tagEnd closed), rest⟩) := by
  rw [outcome_readTagItem]
  cases closed with
  | false => rfl
  | true => rfl

/-- After blanks, whatever begins with the first character of a name is an attribute. -/
theorem outcome_readTagItem_of_starts
    {place : Position}
    {first : Char}
    {others : List Char}
    (starts : isNameStart first = true) :
    outcome (readTagItem true ⟨place, first :: others⟩) =
      (outcome (readAttribute ⟨place, first :: others⟩)).map fun (read, next) =>
        (.entry read, next) := by
  have notEnd : ∀ last, isNameStart last = false →
      ∀ more, (Cursor.mk place (first :: others)).pass? (last :: more) = none := by
    intro last outside more
    have different : last ≠ first := by
      rintro rfl
      rw [outside] at starts
      cases starts
    simp [Cursor.pass?, dropStart?, different]
  rw [outcome_readTagItem, notEnd '/' (by decide), notEnd '>' (by decide)]
  rfl

theorem outcome_readTagItem_append
    (place : Position)
    (entry : Writing.Attribute)
    (rest : List Char) :
    outcome (readTagItem true ⟨place, entry.ownText ++ rest⟩) =
      .ok (.entry (entry.attributeAt place), ⟨place.after entry.ownText, rest⟩) := by
  have read := outcome_readAttribute_append place entry rest
  rcases entry.name.exists_eq_cons with ⟨first, others, same, starts⟩
  rw [entry.ownText_eq, same, List.cons_append, List.cons_append] at read ⊢
  rw [outcome_readTagItem_of_starts starts, read]
  rfl

/-- An attribute is read where its own blanks are passed. -/
theorem outcome_readTagItem_passBlanks
    (place : Position)
    (entry : Writing.Attribute)
    (rest : List Char) :
    outcome (readTagItem ((entry.text ++ rest).head?.any isBlank)
        (Cursor.mk place (entry.text ++ rest)).passBlanks) =
      .ok (.entry (entry.attributeAt (place.after entry.blanks.text)),
        ⟨place.after entry.text, rest⟩) := by
  have spaced : (entry.text ++ rest).head?.any isBlank = true := by
    rcases entry.exists_blanks_eq with ⟨first, more, begins, isFirstBlank⟩
    rw [entry.text_eq, begins]
    exact isFirstBlank
  have passed := Cursor.passBlanks_append place entry.blanks.members
    (entry.name.stops_append (fun _ => isBlank_eq_false_of_isNameStart)
      (entry.signAndValue ++ rest))
  rw [← List.append_assoc entry.name.text, ← entry.ownText_eq, ← List.append_assoc,
    ← entry.text_eq] at passed
  rw [spaced, passed, outcome_readTagItem_append, ← Position.after_append, ← entry.text_eq]

/-- No attribute is written under a name that is already found. -/
def Fresh
    (found : List Attribute)
    (attributes : List Writing.Attribute) :
    Prop :=
  ∀ entry ∈ attributes, ∀ earlier ∈ found, earlier.name ≠ Name.ofText entry.name.string

/--
Checking each name against those found before finds every repeated name, as
names that differ as texts differ in the tree.
-/
theorem fresh_cons_iff
    (found : List Attribute)
    (place : Position)
    (entry : Writing.Attribute)
    (others : List Writing.Attribute) :
    Fresh found (entry :: others) ∧ entry.name.text ∉ others.map (·.name.text) ↔
      (found.any fun earlier => earlier.name = (entry.attributeAt place).name) = false ∧
        Fresh (found ++ [entry.attributeAt place]) others := by
  rw [List.any_eq_false]
  constructor
  · rintro ⟨fresh, different⟩
    constructor
    · intro earlier member
      rw [decide_eq_true_eq]
      exact fresh entry List.mem_cons_self earlier member
    · intro later laterMember earlier earlierMember
      rcases List.mem_append.mp earlierMember with before | itself
      · exact fresh later (List.mem_cons_of_mem _ laterMember) earlier before
      · cases List.mem_singleton.mp itself
        intro sameName
        have sameText := String.ofList_injective (Name.ofText_injective sameName)
        exact different (List.mem_map.mpr ⟨later, laterMember, sameText.symm⟩)
  · rintro ⟨unrepeated, fresh⟩
    constructor
    · intro later laterMember earlier earlierMember
      cases laterMember with
      | head =>
          have notSame := unrepeated earlier earlierMember
          rwa [decide_eq_true_eq] at notSame
      | tail _ laterMember =>
          exact fresh later laterMember earlier (List.mem_append_left _ earlierMember)
    · intro member
      rcases List.mem_map.mp member with ⟨later, laterMember, sameText⟩
      refine fresh later laterMember _ (List.mem_append_right _ List.mem_cons_self) ?_
      rw [Writing.Attribute.name_attributeAt, Writing.Name.string, Writing.Name.string, sameText]

/-- The attributes of a tag are read after those found before. -/
theorem outcome_readAttributes_append
    {found : List Attribute}
    (place : Position)
    {attributes : List Writing.Attribute}
    (distinct : (attributes.map (·.name.text)).Nodup)
    (fresh : Fresh found attributes)
    (blanks : Writing.Run isBlank)
    (closed : Bool)
    (rest : List Char) :
    outcome (readAttributes found
        ⟨place, attributes.flatMap Writing.Attribute.text ++
          (blanks.text ++ (tagEnd closed ++ rest))⟩) =
      .ok ((found ++ Writing.StartTag.attributesAt place attributes, closed),
        ⟨place.after (attributes.flatMap Writing.Attribute.text ++
          (blanks.text ++ tagEnd closed)), rest⟩) := by
  induction attributes generalizing found place with
  | nil =>
      have passed := Cursor.passBlanks_append place blanks.members
        (stops_tagEnd (by decide) (by decide) closed rest)
      rw [List.flatMap_nil, List.nil_append, outcome_readAttributes, passed,
        outcome_readTagItem_end]
      simp [Writing.StartTag.attributesAt]
  | cons entry others hypothesis =>
      rw [List.map_cons, List.nodup_cons] at distinct
      rcases (fresh_cons_iff found (place.after entry.blanks.text) entry others).mp
            ⟨fresh, distinct.1⟩ with
        ⟨unrepeated, stillFresh⟩
      rw [List.flatMap_cons, List.append_assoc, outcome_readAttributes,
        outcome_readTagItem_passBlanks]
      simp only [unrepeated, Bool.false_eq_true, if_false]
      rw [hypothesis _ distinct.2 stillFresh]
      simp [Writing.StartTag.attributesAt]

/-- Where an end or an attribute was read, it is written. -/
theorem exists_of_readTagItem
    {cursor next : Cursor}
    {item : TagItem}
    (blanks : Writing.Run isBlank)
    {spaced : Bool}
    (separated : spaced = true → blanks.text ≠ [])
    (found : outcome (readTagItem spaced cursor) = .ok (item, next)) :
    (∃ closed, item = .ending closed ∧ cursor.Passes (tagEnd closed) next) ∨
      ∃ entry : Writing.Attribute, entry.blanks = blanks ∧
        item = .entry (entry.attributeAt cursor.place) ∧
          cursor.Passes entry.ownText next := by
  rw [outcome_readTagItem] at found
  split at found
  · rename_i later ended
    cases found
    exact .inl ⟨true, rfl, Cursor.pass?_eq_some_iff.mp ended⟩
  · split at found
    · rename_i later ended
      cases found
      exact .inl ⟨false, rfl, Cursor.pass?_eq_some_iff.mp ended⟩
    · split at found
      · cases found
      · split at found
        · cases found
        · rename_i isSpaced
          rcases map_eq_ok_iff.mp found with ⟨⟨read, later⟩, foundAttribute, same⟩
          cases same
          obtain ⟨entry, sameBlanks, rfl, passes⟩ :=
            exists_of_readAttribute blanks (separated (by simpa using isSpaced)) foundAttribute
          exact .inr ⟨entry, sameBlanks, rfl, passes⟩

/-- Attributes are written where they were read, after those found before. -/
theorem exists_of_readAttributes
    {found all : List Attribute}
    {cursor next : Cursor}
    {closed : Bool}
    (read : outcome (readAttributes found cursor) = .ok ((all, closed), next)) :
    ∃ (attributes : List Writing.Attribute) (blanks : Writing.Run isBlank),
      all = found ++ Writing.StartTag.attributesAt cursor.place attributes ∧
        (attributes.map (·.name.text)).Nodup ∧ Fresh found attributes ∧
          cursor.Passes (attributes.flatMap Writing.Attribute.text ++
            (blanks.text ++ tagEnd closed)) next := by
  induction size : cursor.rest.length using Nat.strongRecOn generalizing found cursor with
  | ind size hypothesis =>
      subst size
      rcases cursor.exists_blanks with ⟨blanks, passesBlanks, separated⟩
      rw [outcome_readAttributes] at read
      generalize isItem : outcome (readTagItem (cursor.rest.head?.any isBlank)
        cursor.passBlanks) = foundItem at read
      cases foundItem with
      | error error => cases read
      | ok itemAndNext =>
          rcases itemAndNext with ⟨item, later⟩
          rcases exists_of_readTagItem blanks separated isItem with
            ⟨ending, rfl, passesEnd⟩ | ⟨entry, rfl, rfl, passesEntry⟩
          · cases read
            refine ⟨[], blanks, ?_, List.nodup_nil, ?_, passesBlanks.trans passesEnd⟩
            · rw [Writing.StartTag.attributesAt, List.append_nil]
            · intro entry member
              cases member
          · dsimp only at read
            split at read
            · cases read
            · rename_i unrepeated
              have passesAttribute := passesBlanks.trans passesEntry
              have shorter := passesAttribute.length_lt entry.text_ne_nil
              rcases hypothesis _ shorter read rfl with
                ⟨others, blanks, rfl, distinct, fresh, passesOthers⟩
              obtain ⟨freshAll, different⟩ := (fresh_cons_iff found cursor.passBlanks.place
                entry others).mpr ⟨Bool.eq_false_iff.mpr unrepeated, fresh⟩
              refine ⟨entry :: others, blanks, ?_, List.nodup_cons.mpr ⟨different, distinct⟩,
                freshAll, ?_⟩
              · rw [passesAttribute.2, passesBlanks.2]
                simp [Writing.StartTag.attributesAt, entry.text_eq]
              · rw [List.flatMap_cons, List.append_assoc]
                exact passesAttribute.trans passesOthers

end ViewAccessors.Markup
