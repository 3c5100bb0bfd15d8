import ViewAccessors.Proofs.Markup.Scanning
import ViewAccessors.Setting.Language
import ViewAccessors.Text.Number

/-!
# String literals

How the two languages read a string literal: a regular literal with escapes in
C#, a literal with doubled quotes in Visual Basic, neither of which may span
lines.  What stands between the quotes denotes itself exactly if none of its
characters is special in a literal of the language.
-/

namespace ViewAccessors

/-! ## Units of strings -/

namespace Text

/-- The units of UTF-16 for a code point. -/
def codeUnits (code : Nat) : List Nat :=
  if code < 0x10000 then
    [code]
  else
    [0xD800 + (code - 0x10000) / 0x400, 0xDC00 + (code - 0x10000) % 0x400]

/-- A text as the strings of both languages hold it. -/
def units (text : List Char) : List Nat :=
  text.flatMap fun character => codeUnits character.toNat

theorem units_cons
    (character : Char)
    (text : List Char) :
    units (character :: text) = codeUnits character.toNat ++ units text :=
  rfl

theorem units_singleton (character : Char) :
    units [character] = codeUnits character.toNat :=
  List.append_nil _

theorem units_append (first second : List Char) :
    units (first ++ second) = units first ++ units second :=
  List.flatMap_append

theorem codeUnits_ne_nil (code : Nat) :
    codeUnits code ≠ [] := by
  rw [codeUnits]
  split <;> simp

theorem length_codeUnits_le (code : Nat) :
    (codeUnits code).length ≤ 2 := by
  rw [codeUnits]
  split <;> simp

/-- A text has at least as many units as characters. -/
theorem length_le_length_units (text : List Char) :
    text.length ≤ (units text).length := by
  induction text with
  | nil => exact Nat.le_refl 0
  | cons character text hypothesis =>
      have positive := List.length_pos_iff.mpr (codeUnits_ne_nil character.toNat)
      rw [units_cons, List.length_append, List.length_cons]
      omega

/-- Whether `character` ends a line in the sources of both languages. -/
def isLineEnd (character : Char) : Bool :=
  let code := character.toNat
  code == 0x0A || code == 0x0D || code == 0x85 || code == 0x2028 || code == 0x2029

/-- Whether `character` is a hexadecimal digit. -/
def isHexDigit (character : Char) : Bool :=
  (digitValue character).isSome

theorem isLineEnd_eq_false_of_isHexDigit
    {character : Char}
    (isDigit : isHexDigit character = true) :
    isLineEnd character = false := by
  have range : 0x30 ≤ character.toNat ∧ character.toNat ≤ 0x66 := by
    simp only [isHexDigit, digitValue, Char.le_def, UInt32.le_iff_toNat_le] at isDigit
    split at isDigit
    · rename_i decimal
      exact ⟨decimal.1, Nat.le_trans decimal.2 (by decide)⟩
    · split at isDigit
      · rename_i lower
        exact ⟨Nat.le_trans (by decide) lower.1, lower.2⟩
      · split at isDigit
        · rename_i upper
          exact ⟨Nat.le_trans (by decide) upper.1, Nat.le_trans upper.2 (by decide)⟩
        · cases isDigit
  simp only [isLineEnd, Bool.or_eq_false_iff, beq_eq_false_iff_ne]
  omega

end Text

namespace Language

open Text

/-! ## Reading literals -/

/-- Whether `character` is a quote of string literals. -/
def isQuote : Language → Char → Bool
  | csharp, character => character == '"'
  | visualBasic, character =>
    let code := character.toNat
    code == 0x22 || code == 0x201C || code == 0x201D || code == 0xFF02

/-- Whether `character` begins an escape. -/
def isEscape : Language → Char → Bool
  | csharp, character => character == '\\'
  | visualBasic, _ => false

/-- Whether `character` does not simply stand for itself in a literal. -/
def isSpecial
    (language : Language)
    (character : Char) :
    Bool :=
  language.isQuote character || isLineEnd character || language.isEscape character

/-- The escapes of one letter with their units. -/
def letterEscapes : List (Char × Nat) :=
  [('\'', 0x27), ('"', 0x22), ('\\', 0x5C), ('0', 0x00), ('a', 0x07), ('b', 0x08),
    ('f', 0x0C), ('n', 0x0A), ('r', 0x0D), ('t', 0x09), ('v', 0x0B)]

/-- The letters that code points follow, with the least and the largest number of digits. -/
def codeEscapes : List (Char × Nat × Nat) :=
  [('x', 1, 4), ('u', 4, 4), ('U', 8, 8)]

/-- Reads a code point with at least `least` and at most `most` hexadecimal digits. -/
def readCode?
    (least most : Nat)
    (text : List Char) :
    Option (List Nat × List Char) :=
  let digits := (text.take most).takeWhile isHexDigit
  if digits.length < least then
    none
  else
    ((number? 16 digits).filter (· ≤ 0x10FFFF)).map fun code =>
      (codeUnits code, text.drop digits.length)

/-- Reads the escape after a backslash. -/
def readEscape? : List Char → Option (List Nat × List Char)
  | [] => none
  | letter :: text =>
    match letterEscapes.lookup letter with
    | some unit => some ([unit], text)
    | none =>
      (codeEscapes.lookup letter).bind fun (least, most) => readCode? least most text

/-- How a literal goes on. -/
inductive Step where
  /-- It ends before `rest`. -/
  | close (rest : List Char)
  /-- It denotes `units` and goes on with `rest`. -/
  | content (units : List Nat) (rest : List Char)

/-- What a quote inside a literal means, with the text after the quote. -/
def quoteStep : Language → List Char → Step
  | visualBasic, second :: rest =>
    if visualBasic.isQuote second then .content [0x22] rest else .close (second :: rest)
  | _, rest => .close rest

/-- Goes one step on in a literal. -/
def step? (language : Language) : List Char → Option Step
  | [] => none
  | character :: rest =>
    if language.isQuote character then
      some (language.quoteStep rest)
    else if isLineEnd character then
      none
    else if language.isEscape character then
      (readEscape? rest).map fun (units, after) => .content units after
    else
      some (.content (codeUnits character.toNat) rest)

/-! ## What a step takes -/

theorem readCode?_eq_some
    {least most : Nat}
    {text rest : List Char}
    {units : List Nat}
    (read : readCode? least most text = some (units, rest)) :
    ∃ digits, text = digits ++ rest ∧ least ≤ digits.length ∧ units.length ≤ 2 ∧
      ∀ digit ∈ digits, isLineEnd digit = false := by
  rw [readCode?] at read
  split at read
  · cases read
  · rename_i enough
    rcases Option.map_eq_some_iff.mp read with ⟨code, _, same⟩
    cases same
    have isPrefix : (text.take most).takeWhile isHexDigit <+: text :=
      (List.takeWhile_prefix _).trans (List.take_prefix most text)
    refine ⟨_, (List.prefix_iff_eq_append.mp isPrefix).symm, Nat.le_of_not_lt enough,
      length_codeUnits_le code, ?_⟩
    intro digit member
    exact isLineEnd_eq_false_of_isHexDigit
      (List.all_eq_true.mp List.all_takeWhile digit member)

/-- What is looked up in a table is one of its entries. -/
theorem mem_of_lookup_eq_some
    {Value : Type}
    {entries : List (Char × Value)}
    {letter : Char}
    {value : Value}
    (found : entries.lookup letter = some value) :
    (letter, value) ∈ entries := by
  rcases List.lookup_eq_some_iff.mp found with ⟨before, after, split, _⟩
  rw [split]
  simp

/-- An escape denotes no more units than it has characters after the backslash. -/
theorem readEscape?_eq_some
    {text rest : List Char}
    {units : List Nat}
    (read : readEscape? text = some (units, rest)) :
    ∃ taken, text = taken ++ rest ∧ units.length ≤ taken.length ∧
      ∀ character ∈ taken, isLineEnd character = false := by
  cases text with
  | nil => cases read
  | cons letter text =>
      rw [readEscape?] at read
      split at read
      · rename_i unit found
        cases read
        have inLine : ∀ entry ∈ letterEscapes, isLineEnd entry.1 = false := by decide
        refine ⟨[letter], rfl, Nat.le_refl 1, List.forall_mem_singleton.mpr ?_⟩
        exact inLine (letter, unit) (mem_of_lookup_eq_some found)
      · rcases Option.bind_eq_some_iff.mp read with ⟨⟨least, most⟩, found, readCode⟩
        have inLine : ∀ entry ∈ codeEscapes, isLineEnd entry.1 = false ∧ 1 ≤ entry.2.1 := by
          decide
        have escape : isLineEnd letter = false ∧ 1 ≤ least :=
          inLine (letter, least, most) (mem_of_lookup_eq_some found)
        rcases readCode?_eq_some readCode with ⟨digits, rfl, enough, few, digitsInLine⟩
        refine ⟨letter :: digits, rfl, ?_, List.forall_mem_cons.mpr ⟨escape.1, digitsInLine⟩⟩
        rw [List.length_cons]
        omega

/-- A quote is in its line. -/
theorem isLineEnd_eq_false_of_isQuote
    {language : Language}
    {character : Char}
    (quote : language.isQuote character = true) :
    isLineEnd character = false := by
  cases language with
  | csharp =>
      rw [isQuote, beq_iff_eq] at quote
      rw [quote]
      decide
  | visualBasic =>
      simp only [isQuote, Bool.or_eq_true, beq_iff_eq] at quote
      simp only [isLineEnd, Bool.or_eq_false_iff, beq_eq_false_iff_ne]
      omega

/-- The ways in which a literal goes on. -/
inductive Goes (language : Language) : List Char → Step → Prop where
  | close
      {quote : Char}
      {rest : List Char}
      (isQuote : language.isQuote quote = true) :
      Goes language (quote :: rest) (.close rest)
  | doubled
      {first second : Char}
      {rest : List Char}
      (isFirst : language.isQuote first = true)
      (isSecond : language.isQuote second = true) :
      Goes language (first :: second :: rest) (.content [0x22] rest)
  | escape
      {backslash : Char}
      {text rest : List Char}
      {units : List Nat}
      (inLine : isLineEnd backslash = false)
      (read : readEscape? text = some (units, rest)) :
      Goes language (backslash :: text) (.content units rest)
  | plain
      {character : Char}
      {rest : List Char}
      (notSpecial : language.isSpecial character = false) :
      Goes language (character :: rest) (.content (codeUnits character.toNat) rest)

theorem goes_quoteStep
    {language : Language}
    {quote : Char}
    (isQuote : language.isQuote quote = true)
    (rest : List Char) :
    language.Goes (quote :: rest) (language.quoteStep rest) := by
  cases language with
  | csharp => exact .close isQuote
  | visualBasic =>
      cases rest with
      | nil => exact .close isQuote
      | cons second rest =>
          rw [quoteStep]
          split
          · rename_i isSecond
            exact .doubled isQuote isSecond
          · exact .close isQuote

theorem goes_of_step?
    {language : Language}
    {text : List Char}
    {step : Step}
    (goesOn : language.step? text = some step) :
    language.Goes text step := by
  cases text with
  | nil => cases goesOn
  | cons character rest =>
      rw [step?] at goesOn
      split at goesOn
      · rename_i isQuote
        cases goesOn
        exact goes_quoteStep isQuote rest
      · rename_i noQuote
        split at goesOn
        · cases goesOn
        · rename_i noLineEnd
          rw [Bool.not_eq_true] at noQuote noLineEnd
          split at goesOn
          · rcases Option.map_eq_some_iff.mp goesOn with ⟨_, read, rfl⟩
            exact .escape noLineEnd read
          · rename_i noEscape
            cases goesOn
            rw [Bool.not_eq_true] at noEscape
            refine .plain ?_
            rw [isSpecial, noQuote, noLineEnd, noEscape]
            rfl

/-- A literal is closed by a quote. -/
theorem step?_eq_close
    {language : Language}
    {text rest : List Char}
    (closes : language.step? text = some (.close rest)) :
    ∃ quote, text = quote :: rest ∧ isLineEnd quote = false := by
  cases goes_of_step? closes with
  | close isQuote => exact ⟨_, rfl, isLineEnd_eq_false_of_isQuote isQuote⟩

/-- What a step takes denotes no more than it would if it stood for itself. -/
structure Takes
    (language : Language)
    (text : List Char)
    (denoted : List Nat)
    (rest taken : List Char) :
    Prop where
  whole : text = taken ++ rest
  nonempty : taken ≠ []
  inLine : ∀ character ∈ taken, isLineEnd character = false
  atMost : denoted.length ≤ (units taken).length
  /-- It denotes less if it begins with a character that is special. -/
  lessThan :
    ∀ character, text.head? = some character → language.isSpecial character = true →
      denoted.length < (units taken).length

theorem Takes.length_lt
    {language : Language}
    {text rest taken : List Char}
    {denoted : List Nat}
    (takes : language.Takes text denoted rest taken) :
    rest.length < text.length := by
  have positive := List.length_pos_iff.mpr takes.nonempty
  rw [takes.whole, List.length_append]
  omega

theorem step?_eq_content
    {language : Language}
    {text rest : List Char}
    {denoted : List Nat}
    (goesOn : language.step? text = some (.content denoted rest)) :
    ∃ taken, language.Takes text denoted rest taken := by
  cases goes_of_step? goesOn with
  | @doubled first second _ isFirst isSecond =>
      have longer := length_le_length_units [first, second]
      refine ⟨[first, second], rfl, List.cons_ne_nil _ _, ?_, Nat.le_of_succ_le longer,
        fun _ _ _ => longer⟩
      exact List.forall_mem_cons.mpr ⟨isLineEnd_eq_false_of_isQuote isFirst,
        List.forall_mem_singleton.mpr (isLineEnd_eq_false_of_isQuote isSecond)⟩
  | @escape backslash _ _ _ inLine read =>
      rcases readEscape?_eq_some read with ⟨taken, rfl, few, takenInLine⟩
      have longer := length_le_length_units (backslash :: taken)
      rw [List.length_cons] at longer
      exact ⟨backslash :: taken, rfl, List.cons_ne_nil _ _,
        List.forall_mem_cons.mpr ⟨inLine, takenInLine⟩, by omega, fun _ _ _ => by omega⟩
  | @plain character _ notSpecial =>
      have inLine : isLineEnd character = false := by
        simp only [isSpecial, Bool.or_eq_false_iff] at notSpecial
        exact notSpecial.1.2
      refine ⟨[character], rfl, List.cons_ne_nil _ _, List.forall_mem_singleton.mpr inLine,
        Nat.le_of_eq (congrArg List.length (units_singleton character)).symm, ?_⟩
      intro first isHead special
      cases isHead
      rw [notSpecial] at special
      cases special

/-! ## Whole literals -/

/-- What a literal denotes from here on, and the text after its closing quote. -/
def content?
    (language : Language)
    (text : List Char) :
    Option (List Nat × List Char) :=
  match _step : language.step? text with
  | none => none
  | some (.close rest) => some ([], rest)
  | some (.content denoted rest) =>
    (content? language rest).map fun (later, after) => (denoted ++ later, after)
termination_by text.length
decreasing_by
  rcases step?_eq_content _step with ⟨taken, takes⟩
  exact takes.length_lt

/-- What the literal at the front of a text denotes, and the text after it. -/
def literal? (language : Language) : List Char → Option (List Nat × List Char)
  | [] => none
  | opening :: text => if language.isQuote opening then language.content? text else none

section

variable
    {language : Language}
    {text rest : List Char}

theorem content?_of_close
    (closes : language.step? text = some (.close rest)) :
    language.content? text = some ([], rest) := by
  rw [content?]
  split <;> rename_i found <;> rw [closes] at found <;> cases found
  rfl

theorem content?_of_content
    {denoted : List Nat}
    (goesOn : language.step? text = some (.content denoted rest)) :
    language.content? text =
      (language.content? rest).map fun (later, after) => (denoted ++ later, after) := by
  rw [content?]
  split <;> rename_i found <;> rw [goesOn] at found <;> cases found
  rfl

/-- What is read up to the closing quote is in one line and denotes no more than itself. -/
theorem content?_eq_some
    {denoted : List Nat}
    (read : language.content? text = some (denoted, rest)) :
    ∃ taken quote, text = taken ++ quote :: rest ∧
      (∀ character ∈ taken, isLineEnd character = false) ∧ isLineEnd quote = false ∧
        denoted.length ≤ (units taken).length := by
  fun_induction content? language text generalizing denoted with
  | case1 => cases read
  | case2 text after closes =>
      cases read
      rcases step?_eq_close closes with ⟨quote, rfl, inLine⟩
      exact ⟨[], quote, rfl, fun _ none => absurd none List.not_mem_nil, inLine, Nat.le_refl 0⟩
  | case3 text first later goesOn hypothesis =>
      rcases Option.map_eq_some_iff.mp read with ⟨⟨others, _⟩, readOthers, same⟩
      cases same
      rcases step?_eq_content goesOn with ⟨front, takes⟩
      rcases hypothesis readOthers with ⟨taken, quote, rfl, inLine, quoteInLine, atMost⟩
      refine ⟨front ++ taken, quote, ?_, ?_, quoteInLine, ?_⟩
      · rw [takes.whole, List.append_assoc]
      · intro character member
        rcases List.mem_append.mp member with inFront | inOthers
        · exact takes.inLine character inFront
        · exact inLine character inOthers
      · rw [units_append, List.length_append, List.length_append]
        exact Nat.add_le_add takes.atMost atMost

/-- A character that is not special stands for itself. -/
theorem content?_cons
    {character : Char}
    (plain : language.isSpecial character = false)
    (text : List Char) :
    language.content? (character :: text) =
      (language.content? text).map fun (later, after) =>
        (codeUnits character.toNat ++ later, after) := by
  apply content?_of_content
  simp only [isSpecial, Bool.or_eq_false_iff] at plain
  simp [step?, plain.1.1, plain.1.2, plain.2]

/-- What begins with a special character does not denote itself. -/
theorem content?_ne_units
    {character : Char}
    (special : language.isSpecial character = true)
    (content rest : List Char) :
    language.content? (character :: (content ++ '"' :: rest)) ≠
      some (units (character :: content), rest) := by
  intro read
  rw [content?] at read
  split at read
  · cases read
  · rw [Option.some.injEq, Prod.mk.injEq, units_cons] at read
    exact codeUnits_ne_nil _ (List.append_eq_nil_iff.mp read.1.symm).1
  · rename_i denoted later goesOn
    rcases Option.map_eq_some_iff.mp read with ⟨⟨others, after⟩, readOthers, same⟩
    rw [Prod.mk.injEq] at same
    rcases same with ⟨same, rfl⟩
    rcases step?_eq_content goesOn with ⟨front, takes⟩
    rcases content?_eq_some readOthers with ⟨taken, quote, rfl, -, -, atMost⟩
    -- What was taken is the content, so its units outnumber those that are denoted.
    have split : (character :: content) ++ ['"'] ++ after =
        front ++ taken ++ [quote] ++ after := by
      simpa using takes.whole
    have whole := (List.append_inj' (List.append_cancel_right split) rfl).1
    have lengths := congrArg List.length same
    have fewer := takes.lessThan character rfl special
    rw [whole, units_append, List.length_append, List.length_append] at lengths
    omega

/-- A quote closes a literal, unless it is doubled. -/
theorem content?_quote (stops : Stops language.isQuote rest) :
    language.content? ('"' :: rest) = some ([], rest) := by
  apply content?_of_close
  cases language with
  | csharp => rfl
  | visualBasic =>
      cases rest with
      | nil => rfl
      | cons second rest =>
          rw [step?, if_pos (by decide), quoteStep, if_neg (by simp [stops second rfl])]

/-- A content that is put between quotes as it is denotes itself if it has nothing special. -/
theorem content?_append_quote_iff
    (stops : Stops language.isQuote rest)
    (content : List Char) :
    language.content? (content ++ '"' :: rest) = some (units content, rest) ↔
      ∀ character ∈ content, language.isSpecial character = false := by
  induction content with
  | nil => simp [content?_quote stops, units]
  | cons character content hypothesis =>
      rw [List.forall_mem_cons]
      cases special : language.isSpecial character with
      | true => simp [content?_ne_units special]
      | false =>
          rw [List.cons_append, content?_cons special, ← hypothesis]
          simp [units_cons, Prod.ext_iff]

end

/-- The literal with a content that is put between quotes as it is. -/
def literalOf (content : List Char) : List Char :=
  '"' :: (content ++ ['"'])

/--
The literal with a content that is put between quotes as it is denotes the
content if and only if no character of the content is special.
-/
theorem literal?_literalOf_iff
    {language : Language}
    {rest : List Char}
    (stops : Stops language.isQuote rest)
    (content : List Char) :
    language.literal? (literalOf content ++ rest) = some (units content, rest) ↔
      ∀ character ∈ content, language.isSpecial character = false := by
  have whole : literalOf content ++ rest = '"' :: (content ++ '"' :: rest) := by
    simp [literalOf]
  have isOpening : language.isQuote '"' = true := by
    cases language <;> rfl
  rw [whole, literal?, if_pos isOpening, content?_append_quote_iff stops]

example : csharp.literal? (literalOf "n\\u0061me".toList) = some (units "name".toList, []) := by
  decide +kernel

example : visualBasic.literal? (literalOf "a\"\"b".toList) = some (units "a\"b".toList, []) := by
  decide +kernel

/-- A literal does not span lines. -/
theorem lineFeed_notMem_of_literal?
    {language : Language}
    {literal rest : List Char}
    {denoted : List Nat}
    (read : language.literal? (literal ++ rest) = some (denoted, rest)) :
    '\n' ∉ literal := by
  cases begins : literal ++ rest with
  | nil =>
      rw [begins] at read
      cases read
  | cons opening text =>
      rw [begins, literal?] at read
      split at read
      · rename_i isOpening
        rcases content?_eq_some read with ⟨taken, quote, rfl, inLine, quoteInLine, -⟩
        have same : literal ++ rest = (opening :: (taken ++ [quote])) ++ rest := by
          simp [begins]
        have allInLine : ∀ character ∈ literal, isLineEnd character = false := by
          rw [List.append_cancel_right same, List.forall_mem_cons, List.forall_mem_append,
            List.forall_mem_singleton]
          exact ⟨isLineEnd_eq_false_of_isQuote isOpening, inLine, quoteInLine⟩
        intro member
        exact absurd (allInLine _ member) (by decide)
      · cases read

end Language

end ViewAccessors
