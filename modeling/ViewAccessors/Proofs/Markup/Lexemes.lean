import ViewAccessors.Proofs.Markup.Scanning
import ViewAccessors.Proofs.Markup.Writing

/-!
# Reading names, values and delimited constructs

Each of the smallest parts of a writing is read back as it was written, and
what is read has been written so.
-/

namespace ViewAccessors.Markup

open Text

/-! ## Blanks -/

/-- The blanks at a cursor, of which there are some if the first character is a blank. -/
theorem Cursor.exists_blanks (cursor : Cursor) :
    ∃ blanks : Writing.Run isBlank, cursor.Passes blanks.text cursor.passBlanks ∧
      (cursor.rest.head?.any isBlank = true → blanks.text ≠ []) := by
  have passes := cursor.passes_passWhile isBlank
  refine ⟨⟨_, cursor.all_passWhile isBlank⟩, passes, ?_⟩
  intro begins empty
  change (cursor.passWhile isBlank).1 = [] at empty
  rw [passes.1, empty, List.nil_append, (cursor.stops_passWhile isBlank).head?_any] at begins
  cases begins

/-! ## Names -/

namespace Writing.Name

theorem ne_nil (name : Writing.Name) :
    name.text ≠ [] := by
  intro empty
  have starts := name.starts
  rw [empty] at starts
  cases starts

theorem exists_eq_cons (name : Writing.Name) :
    ∃ first others, name.text = first :: others ∧ isNameStart first = true := by
  rcases name with ⟨text, starts, continues⟩
  cases text with
  | nil => cases starts
  | cons first others => exact ⟨first, others, rfl, starts⟩

/-- A name begins with a character that nothing else begins with. -/
theorem stops_append
    (name : Writing.Name)
    {member : Char → Bool}
    (outside : ∀ character, isNameStart character = true → member character = false)
    (rest : List Char) :
    Stops member (name.text ++ rest) := by
  rcases name.exists_eq_cons with ⟨first, others, same, starts⟩
  rw [same, List.cons_append]
  exact stops_cons (outside first starts) _

end Writing.Name

/-- A name ends where blanks or a character of no name follow. -/
theorem stops_isNameCharacter_append
    {blanks rest : List Char}
    (areBlanks : blanks.all isBlank = true)
    (stops : Stops isNameCharacter rest) :
    Stops isNameCharacter (blanks ++ rest) :=
  stops_append areBlanks (fun _ => isNameCharacter_eq_false_of_isBlank) stops

theorem Writing.Run.all_isBlank (run : Writing.Run isTagBlank) :
    run.text.all isBlank = true := by
  have tagBlanks := List.all_eq_true.mp run.members
  exact List.all_eq_true.mpr fun character member =>
    isBlank_of_isTagBlank (tagBlanks character member)

namespace Cursor

theorem name?_append
    (place : Position)
    (name : Writing.Name)
    {rest : List Char}
    (stops : Stops isNameCharacter rest) :
    (Cursor.mk place (name.text ++ rest)).name? =
      some (name.string, ⟨place.after name.text, rest⟩) := by
  rw [name?, passWhile_append place name.continues stops]
  exact if_pos name.starts

theorem exists_of_name?
    {cursor later : Cursor}
    {read : String}
    (found : cursor.name? = some (read, later)) :
    ∃ name : Writing.Name, name.string = read ∧ cursor.Passes name.text later := by
  simp only [name?] at found
  split at found
  · rename_i starts
    cases found
    exact ⟨⟨_, starts, cursor.all_passWhile isNameCharacter⟩, rfl,
      cursor.passes_passWhile isNameCharacter⟩
  · cases found

/-! ## Values -/

theorem quotedValue?_append
    (place : Position)
    {quote : Char}
    (quotes : quote = '"' ∨ quote = '\'')
    {value : List Char}
    (unquoted : quote ∉ value)
    (rest : List Char) :
    (Cursor.mk place (quote :: (value ++ quote :: rest))).quotedValue? =
      some (value, ⟨place.after (quote :: (value ++ [quote])), rest⟩) := by
  have passed : ∀ place, (Cursor.mk place (value ++ quote :: rest)).passThrough? [quote] =
      some (value, ⟨place.after (value ++ [quote]), rest⟩) := by
    intro place
    rw [passThrough?, breakOn_singleton_iff.mpr ⟨rfl, unquoted⟩, Option.map_some]
  rw [quotedValue?]
  rcases quotes with rfl | rfl
  · exact passed (place.step '"')
  · exact passed (place.step '\'')

theorem exists_of_quotedValue?
    {cursor later : Cursor}
    {value : List Char}
    (found : cursor.quotedValue? = some (value, later)) :
    ∃ quote, (quote = '"' ∨ quote = '\'') ∧ quote ∉ value ∧
      cursor.Passes (quote :: (value ++ [quote])) later := by
  have unquoted : ∀ {inside : Cursor} {quote : Char},
      inside.passThrough? [quote] = some (value, later) → quote ∉ value := by
    intro inside quote passed
    rcases Option.map_eq_some_iff.mp passed with ⟨⟨_, _⟩, broken, same⟩
    cases same
    exact (breakOn_singleton_iff.mp broken).2
  rw [quotedValue?] at found
  split at found
  · rename_i inside opened
    exact ⟨'"', .inl rfl, unquoted found,
      (pass?_eq_some_iff.mp opened).trans (passes_of_passThrough? found)⟩
  · rcases Option.bind_eq_some_iff.mp found with ⟨inside, opened, closed⟩
    exact ⟨'\'', .inr rfl, unquoted closed,
      (pass?_eq_some_iff.mp opened).trans (passes_of_passThrough? closed)⟩

end Cursor

namespace Writing

theorem Phrase.notMem_text
    {delimiter : Char}
    (phrase : Phrase delimiter) :
    delimiter ∉ phrase.text :=
  phrase.undelimited

/-- What follows the name of an attribute. -/
def Attribute.signAndValue (entry : Attribute) : List Char :=
  entry.beforeSign.text ++ '=' :: (entry.afterSign.text ++
    entry.quote :: (entry.value.text ++ [entry.quote]))

end Writing

namespace Cursor

theorem attributeValue?_append
    (place : Position)
    (entry : Writing.Attribute)
    (rest : List Char) :
    (Cursor.mk place (entry.signAndValue ++ rest)).attributeValue? =
      some (entry.value.text, ⟨place.after entry.signAndValue, rest⟩) := by
  have quoteIsNoBlank : isTagBlank entry.quote = false := by
    rcases entry.quotes with same | same <;> rw [same] <;> rfl
  have split : entry.signAndValue ++ rest =
      entry.beforeSign.text ++ ('=' :: (entry.afterSign.text ++
        (entry.quote :: (entry.value.text ++ entry.quote :: rest)))) := by
    simp [Writing.Attribute.signAndValue]
  have sign : ∀ place others,
      (Cursor.mk place ('=' :: others)).pass? ['='] = some ⟨place.after ['='], others⟩ :=
    fun place others => pass?_append place ['='] others
  rw [attributeValue?, split,
    passWhile_append place entry.beforeSign.members (stops_cons rfl _)]
  simp only [sign, Option.bind_some,
    passWhile_append _ entry.afterSign.members (stops_cons quoteIsNoBlank _),
    quotedValue?_append _ entry.quotes entry.value.notMem_text]
  simp [Writing.Attribute.signAndValue]

theorem exists_of_attributeValue?
    {cursor later : Cursor}
    {value : List Char}
    (found : cursor.attributeValue? = some (value, later)) :
    ∃ (beforeSign afterSign : Writing.Run isTagBlank) (quote : Char),
      (quote = '"' ∨ quote = '\'') ∧ quote ∉ value ∧
        cursor.Passes (beforeSign.text ++ '=' :: (afterSign.text ++
          quote :: (value ++ [quote]))) later := by
  rcases Option.bind_eq_some_iff.mp found with ⟨next, sign, quoted⟩
  rcases exists_of_quotedValue? quoted with ⟨quote, quotes, unquoted, passes⟩
  have passesAll := (cursor.passes_passWhile isTagBlank).trans
    ((pass?_eq_some_iff.mp sign).trans ((next.passes_passWhile isTagBlank).trans passes))
  exact ⟨⟨_, cursor.all_passWhile isTagBlank⟩, ⟨_, next.all_passWhile isTagBlank⟩,
    quote, quotes, unquoted, passesAll⟩

/-! ## Closing tags -/

theorem closingName?_append
    (place : Position)
    (name : Writing.Name)
    (blanks : Writing.Run isTagBlank)
    (rest : List Char) :
    (Cursor.mk place (name.text ++ (blanks.text ++ '>' :: rest))).closingName? =
      some (name.string, ⟨place.after (name.text ++ (blanks.text ++ ['>'])), rest⟩) := by
  have ended : ∀ place, (Cursor.mk place ('>' :: rest)).pass? ['>'] =
      some ⟨place.after ['>'], rest⟩ :=
    fun place => pass?_append place ['>'] rest
  rw [closingName?, name?_append place name
    (stops_isNameCharacter_append blanks.all_isBlank (stops_cons (by decide) _))]
  have bracketIsNoBlank : isTagBlank '>' = false := by decide
  simp only [Option.bind_some,
    passWhile_append _ blanks.members (stops_cons bracketIsNoBlank _), ended]
  simp

theorem exists_of_closingName?
    {cursor later : Cursor}
    {read : String}
    (found : cursor.closingName? = some (read, later)) :
    ∃ (name : Writing.Name) (blanks : Writing.Run isTagBlank), name.string = read ∧
      cursor.Passes (name.text ++ (blanks.text ++ ['>'])) later := by
  rcases Option.bind_eq_some_iff.mp found with ⟨⟨_, next⟩, named, ended⟩
  rcases Option.map_eq_some_iff.mp ended with ⟨last, closed, same⟩
  cases same
  rcases exists_of_name? named with ⟨name, isRead, passes⟩
  exact ⟨name, ⟨_, next.all_passWhile isTagBlank⟩, isRead,
    passes.trans ((next.passes_passWhile isTagBlank).trans (pass?_eq_some_iff.mp closed))⟩

end Cursor

/-! ## Delimited constructs -/

namespace Enclosure

/-- Two constructs that begin in different ways. -/
def Apart (first second : Enclosure) : Prop :=
  ∀ rest, dropStart? first.opening (second.opening ++ rest) = none

/-- Constructs that are told apart by how they begin, and from tags by their second character. -/
structure Recognizable (allowed : List Enclosure) : Prop where
  apart : allowed.Pairwise Apart
  opens : ∀ enclosure ∈ allowed, ∃ second more,
    (second = '!' ∨ second = '?') ∧ enclosure.opening = '<' :: second :: more
  endsOnce : ∀ enclosure ∈ allowed, EndsOnce enclosure.closing

theorem recognizable_aroundRoot :
    Recognizable aroundRoot where
  apart := by
    simp [aroundRoot, Apart, comment, instruction, doctype, dropStart?]
  opens := by
    simp [aroundRoot, comment, instruction, doctype]
  endsOnce := by
    simp only [aroundRoot, List.forall_mem_cons, List.not_mem_nil, false_implies,
      implies_true, and_true]
    exact ⟨⟨['-', '-'], '>', rfl, by decide⟩, ⟨['?'], '>', rfl, by decide⟩,
      ⟨[], '>', rfl, by decide⟩⟩

theorem recognizable_insideElement :
    Recognizable insideElement where
  apart := by
    simp [insideElement, Apart, comment, instruction, characterData, dropStart?]
  opens := by
    simp [insideElement, comment, instruction, characterData]
  endsOnce := by
    simp only [insideElement, List.forall_mem_cons, List.not_mem_nil, false_implies,
      implies_true, and_true]
    exact ⟨⟨['-', '-'], '>', rfl, by decide⟩, ⟨[']', ']'], '>', rfl, by decide⟩,
      ⟨['?'], '>', rfl, by decide⟩⟩

/-- The text begins with the opening of the construct and does not close it. -/
def IsOpenIn
    (enclosure : Enclosure)
    (text : List Char) :
    Prop :=
  ∃ content, text = enclosure.opening ++ content ∧ ¬ enclosure.closing <:+: content

end Enclosure

namespace Cursor

variable {allowed : List Enclosure}

/-- Nothing is enclosed where no construct begins. -/
theorem enclosed_eq_none
    {cursor : Cursor}
    (absent : ∀ enclosure ∈ allowed, dropStart? enclosure.opening cursor.rest = none) :
    cursor.enclosed allowed = .ok none := by
  induction allowed with
  | nil => rfl
  | cons first others hypothesis =>
      rw [enclosed, pass?, absent first List.mem_cons_self, Option.map_none]
      exact hypothesis fun enclosure member => absent enclosure (List.mem_cons_of_mem _ member)

/-- Nothing is enclosed before a start tag. -/
theorem enclosed_tag
    (recognizable : Enclosure.Recognizable allowed)
    (place : Position)
    {first : Char}
    (starts : isNameStart first = true)
    (others : List Char) :
    (Cursor.mk place ('<' :: first :: others)).enclosed allowed = .ok none := by
  apply enclosed_eq_none
  intro enclosure member
  rcases recognizable.opens enclosure member with ⟨second, more, isSecond, opens⟩
  have different : second ≠ first := by
    rintro rfl
    rcases isSecond with rfl | rfl
    · exact absurd starts (by decide)
    · exact absurd starts (by decide)
  simp [opens, dropStart?, different]

/-- Nothing is enclosed where no bracket stands. -/
theorem enclosed_unbracketed
    (recognizable : Enclosure.Recognizable allowed)
    {cursor : Cursor}
    (unbracketed : Stops (· == '<') cursor.rest) :
    cursor.enclosed allowed = .ok none := by
  apply enclosed_eq_none
  intro enclosure member
  rcases recognizable.opens enclosure member with ⟨second, more, -, opens⟩
  rw [opens]
  exact unbracketed.dropStart?_eq_none _

theorem enclosed_append
    (recognizable : Enclosure.Recognizable allowed)
    (place : Position)
    (construct : Writing.Enclosed allowed)
    (rest : List Char) :
    (Cursor.mk place (construct.text ++ rest)).enclosed allowed =
      .ok (some (construct.enclosure, construct.content,
        ⟨place.after construct.text, rest⟩)) := by
  rcases construct with ⟨enclosure, member, content, unclosed⟩
  rcases recognizable with ⟨apart, -, endsOnce⟩
  simp only [Writing.Enclosed.text, List.append_assoc]
  induction allowed with
  | nil => cases member
  | cons first others hypothesis =>
      rw [List.pairwise_cons] at apart
      rw [enclosed]
      cases member with
      | head =>
          simp only [pass?_append, passThrough?_append _ (endsOnce _ List.mem_cons_self) unclosed]
          simp
      | tail _ later =>
          have notFirst := apart.1 enclosure later
          rw [pass?, notFirst, Option.map_none]
          exact hypothesis later apart.2 fun other otherMember =>
            endsOnce other (List.mem_cons_of_mem _ otherMember)

theorem unclosed_of_enclosed
    {cursor later : Cursor}
    {enclosure : Enclosure}
    {content : List Char}
    (nonempty : enclosure.closing ≠ [])
    (found : cursor.enclosed allowed = .ok (some (enclosure, content, later))) :
    ¬ enclosure.closing <:+: content := by
  induction allowed with
  | nil => cases found
  | cons first others hypothesis =>
      rw [enclosed] at found
      split at found
      · exact hypothesis found
      · split at found
        · cases found
        · rename_i closed
          cases found
          exact not_isInfix_of_passThrough? nonempty closed

theorem exists_of_enclosed
    (recognizable : Enclosure.Recognizable allowed)
    {cursor later : Cursor}
    {enclosure : Enclosure}
    {content : List Char}
    (found : cursor.enclosed allowed = .ok (some (enclosure, content, later))) :
    ∃ construct : Writing.Enclosed allowed, construct.enclosure = enclosure ∧
      construct.content = content ∧ cursor.Passes construct.text later := by
  rcases passes_of_enclosed found with ⟨member, passes⟩
  have nonempty := (recognizable.endsOnce enclosure member).ne_nil
  refine ⟨⟨enclosure, member, content, unclosed_of_enclosed nonempty found⟩, rfl, rfl, ?_⟩
  rw [Writing.Enclosed.text, ← List.append_assoc]
  exact passes

/-- A construct that is not closed opens where nothing can be read. -/
theorem exists_of_enclosed_eq_error
    {cursor : Cursor}
    {error : MarkupError}
    (failed : cursor.enclosed allowed = .error error) :
    ∃ enclosure ∈ allowed, enclosure.IsOpenIn cursor.rest ∧
      error = .unterminated enclosure.construct cursor.place.line := by
  induction allowed with
  | nil => cases failed
  | cons first others hypothesis =>
      rw [enclosed] at failed
      split at failed
      · rcases hypothesis failed with ⟨enclosure, member, isOpen, same⟩
        exact ⟨enclosure, List.mem_cons_of_mem _ member, isOpen, same⟩
      · rename_i inside opened
        split at failed
        · rename_i unclosed
          cases failed
          have absent := not_isInfix_of_breakOn_eq_none (Option.map_eq_none_iff.mp unclosed)
          exact ⟨first, List.mem_cons_self,
            ⟨inside.rest, (pass?_eq_some_iff.mp opened).1, absent⟩, rfl⟩
        · cases failed

end Cursor

end ViewAccessors.Markup
