import ViewAccessors.Json.Token

/-!
# Ways to write JSON

A JSON text can be written in many ways: there may be blanks around every
token, and a string may escape whatever it likes.  Reading gives back the same
tokens from each of these texts.
-/

namespace ViewAccessors.Json

/-! ## The ways to write tokens -/

/-- A unit of sixteen bits as four hexadecimal digits behind a backslash and a `u`. -/
inductive SpellsUnit : Nat → List Char → Prop where
  | digits
      {unit : Nat}
      {first second third fourth : Char}
      (value : Text.digits? 16 0 [first, second, third, fourth] = some unit) :
      SpellsUnit unit ['\\', 'u', first, second, third, fourth]

/-- A character of a string as itself, by a letter behind a backslash, by one unit or by two. -/
inductive SpellsCharacter : Char → List Char → Prop where
  | plain
      {character : Char}
      (noQuote : character ≠ '"')
      (noBackslash : character ≠ '\\')
      (noControl : ¬ character.toNat < 0x20) :
      SpellsCharacter character [character]
  | short
      {letter character : Char}
      (listed : shortEscapes.lookup letter = some character) :
      SpellsCharacter character ['\\', letter]
  | unit
      {character : Char}
      {spelling : List Char}
      (spelled : SpellsUnit character.toNat spelling) :
      SpellsCharacter character spelling
  | pair
      {character : Char}
      {high low : Nat}
      {first second : List Char}
      (spelledHigh : SpellsUnit high first)
      (spelledLow : SpellsUnit low second)
      (isHigh : isHighSurrogate high = true)
      (isLow : isLowSurrogate low = true)
      (value : character.toNat = 0x10000 + (high - 0xD800) * 0x400 + (low - 0xDC00)) :
      SpellsCharacter character (first ++ second)

/-- The characters of a string one after the other. -/
inductive SpellsContent : List Char → List Char → Prop where
  | nil : SpellsContent [] []
  | cons
      {character : Char}
      {content spelling others : List Char}
      (first : SpellsCharacter character spelling)
      (rest : SpellsContent content others) :
      SpellsContent (character :: content) (spelling ++ others)

/-- One token, a string standing between quotes. -/
inductive SpellsToken : Token → List Char → Prop where
  | mark
      {character : Char}
      {token : Token}
      (listed : punctuation.lookup character = some token) :
      SpellsToken token [character]
  | text
      {content spelling : List Char}
      (spelled : SpellsContent content spelling) :
      SpellsToken (.text (String.ofList content)) ('"' :: (spelling ++ ['"']))

/-- Tokens one after the other, with blanks anywhere between and around them. -/
inductive Spells : List Token → List Char → Prop where
  | nil : Spells [] []
  | blank
      {all : List Token}
      {character : Char}
      {text : List Char}
      (isBlank : isJsonBlank character = true)
      (rest : Spells all text) :
      Spells all (character :: text)
  | token
      {token : Token}
      {others : List Token}
      {spelling text : List Char}
      (first : SpellsToken token spelling)
      (rest : Spells others text) :
      Spells (token :: others) (spelling ++ text)

/-! ## Strings -/

/-- A string goes on with the character of an escape. -/
theorem decode?_escape
    {escape rest : List Char}
    {character : Char}
    (read : readEscape? escape = some (character, rest)) :
    decode? ('\\' :: escape) =
      (decode? rest).map fun (content, after) => (character :: content, after) := by
  rw [decode?]
  split
  · rename_i unread
    rw [read] at unread
    cases unread
  · rename_i again
    rw [read] at again
    cases again
    rfl

/-- A string goes on with a character that stands for itself. -/
theorem decode?_plain
    {character : Char}
    (noQuote : character ≠ '"')
    (noBackslash : character ≠ '\\')
    (noControl : ¬ character.toNat < 0x20)
    (rest : List Char) :
    decode? (character :: rest) =
      (decode? rest).map fun (content, after) => (character :: content, after) := by
  rw [decode?, if_neg noControl]
  · exact noQuote
  · exact noBackslash

/-- A letter that stands for a character is not the mark of a unit. -/
theorem readEscape?_short
    {letter character : Char}
    (listed : shortEscapes.lookup letter = some character)
    (text : List Char) :
    readEscape? (letter :: text) = some (character, text) := by
  have absent : shortEscapes.lookup 'u' = none := by decide
  have noUnit : letter ≠ 'u' := by
    rintro rfl
    rw [absent] at listed
    cases listed
  rw [readEscape?, listed]
  · rfl
  · exact noUnit

/-- No character is half of a pair. -/
theorem not_isSurrogate_toNat (character : Char) :
    isHighSurrogate character.toNat = false ∧ isLowSurrogate character.toNat = false := by
  have valid : character.toNat < 0xD800 ∨ 0xDFFF < character.toNat := by
    rcases character.valid with below | ⟨above, -⟩
    · exact .inl below
    · exact .inr above
  simp only [isHighSurrogate, isLowSurrogate, Bool.and_eq_false_iff, decide_eq_false_iff_not]
  omega

theorem readEscape?_unit
    {character first second third fourth : Char}
    (value : Text.digits? 16 0 [first, second, third, fourth] = some character.toNat)
    (text : List Char) :
    readEscape? ('u' :: first :: second :: third :: fourth :: text) = some (character, text) := by
  rcases not_isSurrogate_toNat character with ⟨noHigh, noLow⟩
  simp [readEscape?, readUnit?, value, noHigh, noLow]

theorem readEscape?_pair
    {high low : Nat}
    {a b c d e f g h : Char}
    (highValue : Text.digits? 16 0 [a, b, c, d] = some high)
    (lowValue : Text.digits? 16 0 [e, f, g, h] = some low)
    (isHigh : isHighSurrogate high = true)
    (isLow : isLowSurrogate low = true)
    (text : List Char) :
    readEscape? ('u' :: a :: b :: c :: d :: '\\' :: 'u' :: e :: f :: g :: h :: text) =
      some (Char.ofNat (0x10000 + (high - 0xD800) * 0x400 + (low - 0xDC00)), text) := by
  simp [readEscape?, readUnit?, Text.dropStart?, highValue, lowValue, isHigh, isLow]

/-- A string goes on with a character, however it is written. -/
theorem decode?_of_spellsCharacter
    {character : Char}
    {spelling : List Char}
    (spelled : SpellsCharacter character spelling)
    (text : List Char) :
    decode? (spelling ++ text) =
      (decode? text).map fun (content, after) => (character :: content, after) := by
  cases spelled with
  | plain noQuote noBackslash noControl =>
      exact decode?_plain noQuote noBackslash noControl text
  | short listed => exact decode?_escape (readEscape?_short listed text)
  | unit spelled =>
      cases spelled with
      | digits value => exact decode?_escape (readEscape?_unit value text)
  | pair spelledHigh spelledLow isHigh isLow value =>
      cases spelledHigh with
      | digits highValue =>
          cases spelledLow with
          | digits lowValue =>
              have read := readEscape?_pair highValue lowValue isHigh isLow text
              rw [← value, Char.ofNat_toNat] at read
              exact decode?_escape read

/-- A string is read from between its quotes, however it is written. -/
theorem decode?_of_spellsContent
    {content spelling : List Char}
    (spelled : SpellsContent content spelling)
    (after : List Char) :
    decode? (spelling ++ '"' :: after) = some (content, after) := by
  induction spelled with
  | nil => rw [List.nil_append, decode?]
  | cons first rest hypothesis =>
      rw [List.append_assoc, decode?_of_spellsCharacter first, hypothesis]
      rfl

/-! ## Tokens -/

theorem lookup_punctuation_of_isJsonBlank
    {character : Char}
    (isBlank : isJsonBlank character = true) :
    punctuation.lookup character = none := by
  simp only [isJsonBlank, Bool.or_eq_true, beq_iff_eq] at isBlank
  rcases isBlank with ((rfl | rfl) | rfl) | rfl <;> decide

/-- A mark is a token, whatever follows it. -/
theorem tokens_mark
    {character : Char}
    {token : Token}
    (listed : punctuation.lookup character = some token)
    (text : List Char) :
    tokens (character :: text) = token :: tokens text := by
  have noBlank : ¬ isJsonBlank character = true := by
    intro isBlank
    rw [lookup_punctuation_of_isJsonBlank isBlank] at listed
    cases listed
  have noQuote : character ≠ '"' := by
    have absent : punctuation.lookup '"' = none := by decide
    rintro rfl
    rw [absent] at listed
    cases listed
  rw [tokens, if_neg noBlank, listed]
  exact noQuote

theorem tokens_of_spellsToken
    {token : Token}
    {spelling : List Char}
    (spelled : SpellsToken token spelling)
    (text : List Char) :
    tokens (spelling ++ text) = token :: tokens text := by
  cases spelled with
  | mark listed => exact tokens_mark listed text
  | text spelled =>
      rw [List.cons_append, List.append_assoc, List.singleton_append, tokens]
      have read := decode?_of_spellsContent spelled text
      split
      · rename_i again
        rw [read] at again
        cases again
        rfl
      · rename_i unread
        rw [read] at unread
        cases unread

theorem tokens_blank
    {character : Char}
    (isBlank : isJsonBlank character = true)
    (text : List Char) :
    tokens (character :: text) = tokens text := by
  have noQuote : character ≠ '"' := by
    rintro rfl
    exact absurd isBlank (by decide)
  rw [tokens, if_pos isBlank]
  exact noQuote

/-- The tokens are read from every text in which they are written. -/
theorem tokens_of_spells
    {all : List Token}
    {text : List Char}
    (spelled : Spells all text) :
    tokens text = all := by
  induction spelled with
  | nil => rw [tokens]
  | blank isBlank rest hypothesis => rw [tokens_blank isBlank, hypothesis]
  | token first rest hypothesis => rw [tokens_of_spellsToken first, hypothesis]

end ViewAccessors.Json
