import ViewAccessors.Proofs.Markup.StartTags

/-!
# Reading what stands inside an element

Closing tags, constructs, character data and the beginnings of child elements
are told apart as they were written, and what is read between two tags is
written there.
-/

namespace ViewAccessors.Markup

open Text

/-- An item that is neither a tag nor the beginning of one, with the nodes it makes. -/
inductive ContentItem.Makes : (item : ContentItem) → (nodes : List Node) → Prop where
  | nothing : Makes .nothing []
  | text (content : String) : Makes (.text content) [.text content]

/-! ## Constructs -/

/-- What is read where a construct stands. -/
def Writing.Enclosed.item
    {allowed : List Enclosure}
    (construct : Writing.Enclosed allowed) :
    ContentItem :=
  if construct.enclosure.construct = .characterData then
    .text (String.ofList construct.content)
  else
    .nothing

theorem Writing.Enclosed.makes_item
    {allowed : List Enclosure}
    (construct : Writing.Enclosed allowed) :
    construct.item.Makes construct.nodes := by
  rw [item, nodes]
  split
  · exact .text _
  · exact .nothing

theorem outcome?_readEnclosed_append
    (place : Position)
    (construct : Writing.Enclosed Enclosure.insideElement)
    (rest : List Char) :
    outcome? (readEnclosed ⟨place, construct.text ++ rest⟩) =
      .ok (some (construct.item, ⟨place.after construct.text, rest⟩)) := by
  rw [outcome?_readEnclosed, Cursor.enclosed_append Enclosure.recognizable_insideElement]
  rfl

theorem outcome?_readItem_construct
    (place : Position)
    (construct : Writing.Enclosed Enclosure.insideElement)
    (rest : List Char) :
    outcome? (readItem ⟨place, construct.text ++ rest⟩) =
      .ok (some (construct.item, ⟨place.after construct.text, rest⟩)) := by
  have notClosing : (Cursor.mk place (construct.text ++ rest)).pass? ['<', '/'] = none := by
    rcases Enclosure.recognizable_insideElement.opens construct.enclosure construct.isAllowed with
      ⟨second, more, isSecond, opens⟩
    rw [Cursor.pass?, Writing.Enclosed.text, opens]
    rcases isSecond with rfl | rfl
    · rfl
    · rfl
  rw [outcome?_readItem, notClosing, outcome?_readEnclosed_append]

/-! ## Character data -/

namespace Writing.CharacterData

/-- No character data. -/
def none : CharacterData :=
  .blank ⟨[], rfl⟩

/-- What is read where character data stand. -/
def item : CharacterData → ContentItem
  | blank _ => .nothing
  | visible phrase _ => .text phrase.value

theorem makes_item (data : CharacterData) :
    data.item.Makes data.nodes := by
  cases data with
  | blank run => exact .nothing
  | visible phrase notBlank => exact .text _

theorem bracket_notMem_text (data : CharacterData) :
    '<' ∉ data.text := by
  cases data with
  | blank run =>
      intro member
      have blank := List.all_eq_true.mp run.members '<' member
      revert blank
      decide
  | visible phrase notBlank => exact phrase.notMem_text

/-- Nothing is written only where there are no nodes. -/
theorem nodes_eq_nil_of_text
    {data : CharacterData}
    (empty : data.text = []) :
    data.nodes = [] := by
  cases data with
  | blank run => rfl
  | visible phrase notBlank =>
      change phrase.text = [] at empty
      rw [empty] at notBlank
      cases notBlank

end Writing.CharacterData

theorem outcome?_readText_append
    (place : Position)
    (data : Writing.CharacterData)
    (nonempty : data.text ≠ [])
    (others : List Char) :
    outcome? (readText ⟨place, data.text ++ '<' :: others⟩) =
      .ok (some (data.item, ⟨place.after data.text, '<' :: others⟩)) := by
  have members : data.text.all (· != '<') = true := by
    rw [List.all_eq_true]
    intro character member
    rw [bne_iff_ne]
    rintro rfl
    exact data.bracket_notMem_text member
  have bracketEnds : Stops (· != '<') ('<' :: others) := stops_cons (by decide) others
  have passed := Cursor.passWhile_append place members bracketEnds
  rcases List.exists_cons_of_ne_nil nonempty with ⟨first, more, begins⟩
  rw [outcome?_readText, passed, begins]
  dsimp only
  rw [← begins]
  cases data with
  | blank run =>
      have isBlank : run.text.all isBlank = true := run.members
      simp [Writing.CharacterData.text, Writing.CharacterData.item, isBlank]
  | visible phrase notBlank =>
      simp only [Writing.CharacterData.text, notBlank, Bool.false_eq_true, if_false,
        decodeText_phrase]
      rfl

/-- Only character data begin with another character than a bracket. -/
theorem outcome?_readItem_unbracketed
    {cursor : Cursor}
    (unbracketed : Stops (· == '<') cursor.rest) :
    outcome? (readItem cursor) = outcome? (readText cursor) := by
  have noBracket : ∀ more, cursor.pass? ('<' :: more) = none := by
    intro more
    rw [Cursor.pass?, unbracketed.dropStart?_eq_none, Option.map_none]
  rw [outcome?_readItem, noBracket, noBracket, outcome?_readEnclosed,
    Cursor.enclosed_unbracketed Enclosure.recognizable_insideElement unbracketed]
  rfl

theorem outcome?_readItem_data
    (place : Position)
    (data : Writing.CharacterData)
    (nonempty : data.text ≠ [])
    (others : List Char) :
    outcome? (readItem ⟨place, data.text ++ '<' :: others⟩) =
      .ok (some (data.item, ⟨place.after data.text, '<' :: others⟩)) := by
  rw [outcome?_readItem_unbracketed, outcome?_readText_append place data nonempty]
  rcases List.exists_cons_of_ne_nil nonempty with ⟨first, more, begins⟩
  have notBracket : first ≠ '<' := by
    rintro rfl
    apply data.bracket_notMem_text
    rw [begins]
    exact List.mem_cons_self
  rw [begins, List.cons_append]
  exact stops_cons (by simpa using notBracket) _

/-! ## Tags -/

theorem outcome?_readItem_closingTag
    (place : Position)
    (name : Writing.Name)
    (blanks : Writing.Run isTagBlank)
    (rest : List Char) :
    outcome? (readItem ⟨place, Writing.closingTag name blanks ++ rest⟩) =
      .ok (some (.closingTag name.string,
        ⟨place.after (Writing.closingTag name blanks), rest⟩)) := by
  have opened := Cursor.pass?_append place ['<', '/']
    (name.text ++ (blanks.text ++ '>' :: rest))
  have closed := Cursor.closingName?_append (place.after ['<', '/']) name blanks rest
  have written : Writing.closingTag name blanks ++ rest =
      ['<', '/'] ++ (name.text ++ (blanks.text ++ '>' :: rest)) := by
    simp [Writing.closingTag]
  rw [outcome?_readItem, written, opened]
  dsimp only
  rw [closed]
  simp [Writing.closingTag]

theorem outcome?_readItem_tag
    (place : Position)
    {first : Char}
    (starts : isNameStart first = true)
    (others : List Char) :
    outcome? (readItem ⟨place, '<' :: first :: others⟩) =
      .ok (some (.opening, ⟨place.step '<', first :: others⟩)) := by
  have notClosing : (Cursor.mk place ('<' :: first :: others)).pass? ['<', '/'] = none := by
    have different : '/' ≠ first := by
      rintro rfl
      revert starts
      decide
    simp [Cursor.pass?, dropStart?, different]
  have opened := Cursor.pass?_append place ['<'] (first :: others)
  rw [outcome?_readItem, notClosing, outcome?_readEnclosed,
    Cursor.enclosed_tag Enclosure.recognizable_insideElement place starts]
  dsimp only [Except.map, Option.map_none]
  rw [List.singleton_append] at opened
  rw [opened]
  rfl

/-! ## What is read is written -/

theorem exists_of_readEnclosed
    {cursor next : Cursor}
    {item : ContentItem}
    (found : outcome? (readEnclosed cursor) = .ok (some (item, next))) :
    ∃ construct : Writing.Enclosed Enclosure.insideElement,
      item.Makes construct.nodes ∧ cursor.Passes construct.text next := by
  rw [outcome?_readEnclosed] at found
  rcases map_eq_ok_iff.mp found with ⟨read, enclosed, same⟩
  rcases Option.map_eq_some_iff.mp same with ⟨⟨enclosure, content, later⟩, rfl, same⟩
  cases same
  rcases Cursor.exists_of_enclosed Enclosure.recognizable_insideElement enclosed with
    ⟨construct, rfl, rfl, passes⟩
  exact ⟨construct, construct.makes_item, passes⟩

theorem exists_of_readText
    {cursor next : Cursor}
    {item : ContentItem}
    (found : outcome? (readText cursor) = .ok (some (item, next))) :
    ∃ data : Writing.CharacterData, item.Makes data.nodes ∧ data.text ≠ [] ∧
      Stops (· != '<') next.rest ∧ cursor.Passes data.text next := by
  have passes := cursor.passes_passWhile (· != '<')
  have ends := cursor.stops_passWhile (· != '<')
  have unbracketed := List.all_eq_true.mp (cursor.all_passWhile (· != '<'))
  rw [outcome?_readText] at found
  split at found
  · cases found
  · rename_i first others later passed
    rw [passed] at passes ends unbracketed
    split at found
    · rename_i isBlank
      cases found
      exact ⟨.blank ⟨_, isBlank⟩, .nothing, List.cons_ne_nil _ _, ends, passes⟩
    · rename_i notBlank
      rcases map_eq_ok_iff.mp found with ⟨content, decoded, same⟩
      cases same
      have absent : '<' ∉ first :: others := by
        intro member
        simpa using unbracketed '<' member
      rcases exists_of_decodeText absent decoded with ⟨phrase, isRaw, rfl⟩
      rw [← isRaw] at passes notBlank
      refine ⟨.visible phrase (Bool.eq_false_iff.mpr notBlank), .text _, ?_, ends, passes⟩
      show phrase.text ≠ []
      rw [isRaw]
      exact List.cons_ne_nil _ _

/-- Whatever is read inside an element is written there in one of four ways. -/
theorem exists_of_readItem
    {cursor next : Cursor}
    {item : ContentItem}
    (found : outcome? (readItem cursor) = .ok (some (item, next))) :
    (∃ (name : Writing.Name) (blanks : Writing.Run isTagBlank),
        item = .closingTag name.string ∧
          cursor.Passes (Writing.closingTag name blanks) next) ∨
      (∃ construct : Writing.Enclosed Enclosure.insideElement,
        item.Makes construct.nodes ∧ cursor.Passes construct.text next) ∨
      (item = .opening ∧ cursor.Passes ['<'] next) ∨
      ∃ data : Writing.CharacterData, item.Makes data.nodes ∧ data.text ≠ [] ∧
        Stops (· != '<') next.rest ∧ cursor.Passes data.text next := by
  rw [outcome?_readItem] at found
  split at found
  · rename_i inside closing
    split at found
    · cases found
    · rename_i read later named
      cases found
      rcases Cursor.exists_of_closingName? named with ⟨name, blanks, rfl, passes⟩
      exact .inl ⟨name, blanks, rfl, (Cursor.pass?_eq_some_iff.mp closing).trans passes⟩
  · split at found
    · cases found
    · rename_i enclosed
      cases found
      exact .inr (.inl (exists_of_readEnclosed enclosed))
    · split at found
      · rename_i later opened
        cases found
        exact .inr (.inr (.inl ⟨rfl, Cursor.pass?_eq_some_iff.mp opened⟩))
      · exact .inr (.inr (.inr (exists_of_readText found)))

end ViewAccessors.Markup
