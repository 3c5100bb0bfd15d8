import ViewAccessors.Markup.Cursor
import ViewAccessors.Markup.Error
import ViewAccessors.Text.Letter

/-!
# Names, values and delimited constructs

The smallest parts of a markup text: names, quoted attribute values, closing
tags, and the constructs between fixed delimiters.
-/

namespace ViewAccessors.Markup

/-- Whether a name may begin with `character`. -/
def isNameStart (character : Char) : Bool :=
  Text.isLetter character || character == '_' || character == ':'

/-- Whether a name may go on with `character`. -/
def isNameCharacter (character : Char) : Bool :=
  Text.isAlphanumeric character || character == '_' || character == ':'
    || character == '-' || character == '.'

/--
A construct that begins with one fixed text and ends with the first
occurrence of another.
-/
structure Enclosure where
  construct : Construct
  opening : List Char
  closing : List Char
  opening_ne_nil : opening ≠ [] := by decide

namespace Enclosure

def comment : Enclosure where
  construct := .comment
  opening := ['<', '!', '-', '-']
  closing := ['-', '-', '>']

def instruction : Enclosure where
  construct := .instruction
  opening := ['<', '?']
  closing := ['?', '>']

def doctype : Enclosure where
  construct := .doctype
  opening := ['<', '!', 'D', 'O', 'C', 'T', 'Y', 'P', 'E']
  closing := ['>']

def characterData : Enclosure where
  construct := .characterData
  opening := ['<', '!', '[', 'C', 'D', 'A', 'T', 'A', '[']
  closing := [']', ']', '>']

/-- What may stand before and after the root element, besides blanks. -/
def aroundRoot : List Enclosure :=
  [comment, instruction, doctype]

/-- What may stand between the nodes of an element, and character data. -/
def insideElement : List Enclosure :=
  [comment, characterData, instruction]

end Enclosure

namespace Cursor

/-- The error that something else than `expected` stands at the cursor. -/
def unexpected
    (cursor : Cursor)
    (expected : Expectation) :
    MarkupError :=
  if cursor.rest.isEmpty then
    .unexpectedEnd
  else
    let run := cursor.rest.takeWhile fun character => !Text.isBlank character
    .unexpectedToken (String.ofList (run.take 24)) expected cursor.place

/-- Passes the longest name at the cursor. -/
def name? (cursor : Cursor) : Option (String × Cursor) :=
  let (run, next) := cursor.passWhile isNameCharacter
  if run.head?.any isNameStart then
    some (String.ofList run, next)
  else
    none

/-- Passes a value between two quotes or between two apostrophes. -/
def quotedValue? (cursor : Cursor) : Option (List Char × Cursor) :=
  match cursor.pass? ['"'] with
  | some inside => inside.passThrough? ['"']
  | none => (cursor.pass? ['\'']).bind (·.passThrough? ['\''])

/-- Passes an equals sign and a quoted value, with blanks around the sign. -/
def attributeValue? (cursor : Cursor) : Option (List Char × Cursor) :=
  ((cursor.passWhile Text.isTagBlank).2.pass? ['=']).bind fun next =>
    (next.passWhile Text.isTagBlank).2.quotedValue?

/-- Passes the name and the end of a closing tag, whose first two characters are passed. -/
def closingName? (cursor : Cursor) : Option (String × Cursor) :=
  cursor.name?.bind fun (name, next) =>
    ((next.passWhile Text.isTagBlank).2.pass? ['>']).map fun last => (name, last)

/--
Passes the first of the enclosures that opens at the cursor, and returns it
with what it encloses.
-/
def enclosed
    (cursor : Cursor) :
    List Enclosure → Except MarkupError (Option (Enclosure × List Char × Cursor))
  | [] => .ok none
  | enclosure :: others =>
    match cursor.pass? enclosure.opening with
    | none => cursor.enclosed others
    | some inside =>
      match inside.passThrough? enclosure.closing with
      | none => .error (.unterminated enclosure.construct cursor.place.line)
      | some (content, later) => .ok (some (enclosure, content, later))

theorem passes_of_name?
    {cursor later : Cursor}
    {name : String}
    (found : cursor.name? = some (name, later)) :
    name.toList ≠ [] ∧ cursor.Passes name.toList later := by
  simp only [name?] at found
  split at found
  · rename_i starts
    simp only [Option.some.injEq, Prod.mk.injEq] at found
    obtain ⟨rfl, rfl⟩ := found
    rw [String.toList_ofList]
    refine ⟨fun empty => ?_, cursor.passes_passWhile isNameCharacter⟩
    simp [empty] at starts
  · exact absurd found (by simp)

theorem passes_of_quotedValue?
    {cursor later : Cursor}
    {value : List Char}
    (found : cursor.quotedValue? = some (value, later)) :
    ∃ quote, (quote = '"' ∨ quote = '\'') ∧
      cursor.Passes (quote :: value ++ [quote]) later := by
  rw [quotedValue?] at found
  split at found
  · rename_i inside opened
    exact ⟨'"', .inl rfl,
      (pass?_eq_some_iff.1 opened).trans (passes_of_passThrough? found)⟩
  · obtain ⟨inside, opened, closed⟩ := Option.bind_eq_some_iff.1 found
    exact ⟨'\'', .inr rfl,
      (pass?_eq_some_iff.1 opened).trans (passes_of_passThrough? closed)⟩

theorem passes_of_attributeValue?
    {cursor later : Cursor}
    {value : List Char}
    (found : cursor.attributeValue? = some (value, later)) :
    ∃ before after quote, (quote = '"' ∨ quote = '\'') ∧
      cursor.Passes (before ++ ('=' :: after) ++ (quote :: value ++ [quote])) later := by
  obtain ⟨next, sign, quoted⟩ := Option.bind_eq_some_iff.1 found
  obtain ⟨quote, isQuote, passes⟩ := passes_of_quotedValue? quoted
  refine ⟨(cursor.passWhile Text.isTagBlank).1, (next.passWhile Text.isTagBlank).1,
    quote, isQuote, ?_⟩
  exact ((cursor.passes_passWhile Text.isTagBlank).trans
    ((pass?_eq_some_iff.1 sign).trans (next.passes_passWhile Text.isTagBlank))).trans passes

theorem passes_of_closingName?
    {cursor later : Cursor}
    {name : String}
    (found : cursor.closingName? = some (name, later)) :
    ∃ blanks, cursor.Passes (name.toList ++ blanks ++ ['>']) later := by
  obtain ⟨⟨_, next⟩, named, ended⟩ := Option.bind_eq_some_iff.1 found
  obtain ⟨last, closed, same⟩ := Option.map_eq_some_iff.1 ended
  simp only [Prod.mk.injEq] at same
  obtain ⟨rfl, rfl⟩ := same
  exact ⟨_, ((passes_of_name? named).2.trans (next.passes_passWhile _)).trans
    (pass?_eq_some_iff.1 closed)⟩

theorem passes_of_enclosed
    {cursor later : Cursor}
    {enclosures : List Enclosure}
    {enclosure : Enclosure}
    {content : List Char}
    (found : cursor.enclosed enclosures = .ok (some (enclosure, content, later))) :
    enclosure ∈ enclosures ∧
      cursor.Passes (enclosure.opening ++ content ++ enclosure.closing) later := by
  induction enclosures with
  | nil => simp [enclosed] at found
  | cons first others hypothesis =>
    rw [enclosed] at found
    split at found
    · have := hypothesis found
      exact ⟨List.mem_cons_of_mem _ this.1, this.2⟩
    · rename_i inside opened
      split at found
      · exact absurd found (by simp)
      · rename_i closed
        simp only [Except.ok.injEq, Option.some.injEq, Prod.mk.injEq] at found
        obtain ⟨rfl, rfl, rfl⟩ := found
        have passes := (pass?_eq_some_iff.1 opened).trans (passes_of_passThrough? closed)
        exact ⟨List.mem_cons_self, by simpa using passes⟩

end Cursor

end ViewAccessors.Markup
