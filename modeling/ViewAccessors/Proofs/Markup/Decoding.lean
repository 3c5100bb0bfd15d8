import ViewAccessors.Proofs.Markup.References

/-!
# What is decoded

Decoding goes through a text once, from left to right, and replaces each
reference by its character.  The references are those of the markup language
and, beyond these, numbers with a plus sign before their digits.
-/

namespace ViewAccessors.Markup.Reference

/-! ## References and texts with references -/

/--
The text between an ampersand and a semicolon is a reference of the markup
language: one of the five names, or a number written with nothing but digits.
-/
inductive Names : (body : List Char) → (character : Char) → Prop where
  | named
      {body : List Char}
      {character : Char}
      (known : (body, character) ∈ Reference.named) :
      Names body character
  | numbered
      {mark digits : List Char}
      {base : Nat}
      {character : Char}
      (marked : (mark, base) ∈ baseMarks)
      (number : Text.Numeral base digits character.toNat) :
      Names ('#' :: (mark ++ digits)) character

/--
The text `value` is `raw` with a character in place of each reference.  Every
ampersand of `raw` begins a reference, and no other character changes.
-/
inductive Replaces
    (isReference : List Char → Char → Prop) :
    (raw value : List Char) →
    Prop where
  | nil :
      Replaces isReference [] []
  | plain
      {character : Char}
      {raw value : List Char}
      (notReference : character ≠ '&')
      (others : Replaces isReference raw value) :
      Replaces isReference (character :: raw) (character :: value)
  | reference
      {body raw value : List Char}
      {character : Char}
      (denotes : isReference body character)
      (others : Replaces isReference raw value) :
      Replaces isReference ('&' :: (body ++ ';' :: raw)) (character :: value)

theorem Replaces.mono
    {isReference isOther : List Char → Char → Prop}
    (weaker : ∀ {body character}, isReference body character → isOther body character)
    {raw value : List Char}
    (replaces : Replaces isReference raw value) :
    Replaces isOther raw value := by
  induction replaces with
  | nil => exact .nil
  | plain notReference others hypothesis => exact .plain notReference hypothesis
  | reference denotes others hypothesis => exact .reference (weaker denotes) hypothesis

/-! ## Texts that are decoded -/

theorem replaces_symbols (symbols : List Writing.Symbol) :
    Replaces Denotes (symbols.flatMap Writing.Symbol.text)
      (symbols.map Writing.Symbol.character) := by
  induction symbols with
  | nil => exact .nil
  | cons symbol others hypothesis =>
      rw [List.flatMap_cons, List.map_cons]
      cases symbol with
      | plain character notReference => exact .plain notReference hypothesis
      | reference body character denotes =>
          rw [Writing.Symbol.text, List.append_assoc]
          exact .reference denotes hypothesis

theorem Replaces.exists_symbols
    {raw value : List Char}
    (replaces : Replaces Denotes raw value) :
    ∃ symbols : List Writing.Symbol, symbols.flatMap Writing.Symbol.text = raw ∧
      symbols.map Writing.Symbol.character = value := by
  induction replaces with
  | nil => exact ⟨[], rfl, rfl⟩
  | @plain character _ _ notReference others hypothesis =>
      rcases hypothesis with ⟨symbols, rfl, rfl⟩
      exact ⟨.plain character notReference :: symbols, rfl, rfl⟩
  | @reference body _ _ character denotes others hypothesis =>
      rcases hypothesis with ⟨symbols, rfl, rfl⟩
      refine ⟨.reference body character denotes :: symbols, ?_, rfl⟩
      rw [List.flatMap_cons, Writing.Symbol.text, List.append_assoc]
      rfl

/-- A text is decoded exactly if its ampersands begin references, which are then replaced. -/
theorem decode_eq_ok_iff_replaces
    (raw value : List Char) :
    decode raw = .ok value ↔ Replaces Denotes raw value := by
  constructor
  · intro decoded
    rcases exists_symbols_of_decode decoded with ⟨symbols, rfl, rfl⟩
    exact replaces_symbols symbols
  · intro replaces
    rcases replaces.exists_symbols with ⟨symbols, rfl, rfl⟩
    exact decode_symbols symbols

/-! ## Signs -/

/-- A plus sign stands before the digits of the number. -/
def IsSigned (body : List Char) : Prop :=
  ∃ entry ∈ baseMarks, '#' :: (entry.1 ++ ['+']) <+: body

/-- Somewhere in the text, a plus sign stands behind what begins a reference by a number. -/
def HasSign (text : List Char) : Prop :=
  ∃ entry ∈ baseMarks, '&' :: '#' :: (entry.1 ++ ['+']) <:+: text

theorem IsSigned.plus_mem
    {body : List Char}
    (signed : IsSigned body) :
    '+' ∈ body := by
  rcases signed with ⟨entry, -, begins⟩
  exact begins.subset (by simp)

/-- The references of the markup language are those without a sign. -/
theorem names_iff
    {body : List Char}
    {character : Char} :
    Names body character ↔ Denotes body character ∧ ¬ IsSigned body := by
  constructor
  · intro names
    cases names with
    | named known =>
        have noName : ∀ entry ∈ Reference.named, '+' ∉ entry.1 := by decide
        exact ⟨.named known, fun signed => noName _ known signed.plus_mem⟩
    | @numbered mark digits base _ marked number =>
        have denotes : Denotes ('#' :: mark ++ [] ++ digits) character :=
          .numbered marked (by simp [signs]) number
        rw [List.append_nil] at denotes
        refine ⟨denotes, fun signed => ?_⟩
        have noMark : ∀ entry ∈ baseMarks, '+' ∉ '#' :: entry.1 := by decide
        rcases List.mem_append.mp (show '+' ∈ ('#' :: mark) ++ digits from signed.plus_mem) with
          inMark | inDigits
        · exact noMark _ marked inMark
        · rcases number.isDigit inDigits with ⟨digit, -, isDigit⟩
          cases isDigit
  · rintro ⟨denotes, unsigned⟩
    cases denotes with
    | named known => exact .named known
    | @numbered mark sign digits base _ marked signed number =>
        simp only [signs, List.mem_cons, List.not_mem_nil, or_false] at signed
        rcases signed with rfl | rfl
        · rw [List.append_nil]
          exact .numbered marked number
        · exact absurd ⟨(mark, base), marked, digits, rfl⟩ unsigned

/-- What begins with a character that does not occur before a text lies in the text. -/
theorem isInfix_append_iff_of_notMem
    {first : Char}
    {others before text : List Char}
    (absent : first ∉ before) :
    first :: others <:+: before ++ text ↔ first :: others <:+: text := by
  induction before with
  | nil => rfl
  | cons character before hypothesis =>
      rw [List.mem_cons, not_or] at absent
      rw [List.cons_append, List.infix_cons_iff, hypothesis absent.2, List.cons_prefix_cons]
      exact or_iff_right fun begins => absent.1 begins.1

/-- What lacks a delimiter and begins a text begins it before the delimiter. -/
theorem isPrefix_append_cons_iff_of_notMem
    {delimiter : Char}
    {start before text : List Char}
    (absent : delimiter ∉ start) :
    start <+: before ++ delimiter :: text ↔ start <+: before := by
  constructor
  · intro begins
    rcases List.prefix_or_prefix_of_prefix begins (List.prefix_append before _) with
      shorter | ⟨more, rfl⟩
    · exact shorter
    · rw [List.prefix_append_right_inj] at begins
      cases more with
      | nil => exact ⟨[], by simp⟩
      | cons character more =>
          rw [List.cons_prefix_cons] at begins
          refine absurd (List.mem_append_right _ ?_) absent
          rw [begins.1]
          exact List.mem_cons_self
  · exact fun begins => begins.trans (List.prefix_append before _)

theorem not_hasSign_nil :
    ¬ HasSign [] := by
  rintro ⟨entry, -, inside⟩
  cases List.infix_nil.mp inside

theorem hasSign_cons_iff
    {character : Char}
    (notReference : character ≠ '&')
    (text : List Char) :
    HasSign (character :: text) ↔ HasSign text := by
  have absent : '&' ∉ [character] := by
    simpa using notReference.symm
  simp only [HasSign, ← List.singleton_append (l := text), isInfix_append_iff_of_notMem absent]

/-- A sign behind a reference stands in the reference or in the text that follows it. -/
theorem hasSign_reference_iff
    {body : List Char}
    {character : Char}
    (denotes : Denotes body character)
    (text : List Char) :
    HasSign ('&' :: (body ++ ';' :: text)) ↔ IsSigned body ∨ HasSign text := by
  have absent : '&' ∉ body ++ [';'] := by
    have inBody : '&' ∉ body := denotes.notMem (by decide) (by decide) (by decide) rfl
    simpa using inBody
  have noMark : ∀ entry ∈ baseMarks, ';' ∉ '#' :: (entry.1 ++ ['+']) := by decide
  have here : ∀ entry ∈ baseMarks,
      ('&' :: '#' :: (entry.1 ++ ['+']) <:+: '&' :: (body ++ ';' :: text) ↔
        '#' :: (entry.1 ++ ['+']) <+: body ∨ '&' :: '#' :: (entry.1 ++ ['+']) <:+: text) := by
    intro entry isMark
    rw [List.infix_cons_iff, List.cons_prefix_cons, and_iff_right rfl,
      isPrefix_append_cons_iff_of_notMem (noMark entry isMark), List.append_cons body ';' text,
      isInfix_append_iff_of_notMem absent]
  constructor
  · rintro ⟨entry, isMark, inside⟩
    exact ((here entry isMark).mp inside).imp (⟨entry, isMark, ·⟩) (⟨entry, isMark, ·⟩)
  · rintro (⟨entry, isMark, begins⟩ | ⟨entry, isMark, later⟩)
    · exact ⟨entry, isMark, (here entry isMark).mpr (.inl begins)⟩
    · exact ⟨entry, isMark, (here entry isMark).mpr (.inr later)⟩

/-- All references are those of the markup language exactly if none of them has a sign. -/
theorem replaces_names_iff
    (raw value : List Char) :
    Replaces Names raw value ↔ Replaces Denotes raw value ∧ ¬ HasSign raw := by
  constructor
  · intro replaces
    refine ⟨replaces.mono fun names => (names_iff.mp names).1, ?_⟩
    induction replaces with
    | nil => exact not_hasSign_nil
    | plain notReference others hypothesis => rwa [hasSign_cons_iff notReference]
    | reference names others hypothesis =>
        rw [hasSign_reference_iff (names_iff.mp names).1, not_or]
        exact ⟨(names_iff.mp names).2, hypothesis⟩
  · rintro ⟨replaces, unsigned⟩
    induction replaces with
    | nil => exact .nil
    | plain notReference others hypothesis =>
        rw [hasSign_cons_iff notReference] at unsigned
        exact .plain notReference (hypothesis unsigned)
    | reference denotes others hypothesis =>
        rw [hasSign_reference_iff denotes, not_or] at unsigned
        exact .reference (names_iff.mpr ⟨denotes, unsigned.1⟩) (hypothesis unsigned.2)

/-! ## All texts -/

/--
A text is decoded exactly if each ampersand in it begins a reference; the
result is the text with each reference replaced by its character, once.  If no
plus sign stands before the digits of a number, the references are those of the
markup language, and otherwise they are not.
-/
theorem decode_exactly_of_references
    (raw value : List Char) :
    (decode raw = .ok value ↔ Replaces Denotes raw value) ∧
      (Replaces Names raw value ↔ decode raw = .ok value ∧ ¬ HasSign raw) := by
  have decodes := decode_eq_ok_iff_replaces raw value
  rw [decodes]
  exact ⟨Iff.rfl, replaces_names_iff raw value⟩

/-- What has been decoded is not decoded again. -/
example : decode "&amp;lt;&#x26;".toList = .ok "&lt;&".toList := by
  decide +kernel

/-- A number with a plus sign is decoded, but is no reference of the markup language. -/
theorem decode_plus_sign :
    decode "&#+65;".toList = .ok ['A'] ∧
      ¬ ∃ value, Replaces Names "&#+65;".toList value := by
  refine ⟨by decide +kernel, ?_⟩
  rintro ⟨value, replaces⟩
  apply ((replaces_names_iff _ value).mp replaces).2
  exact ⟨([], 10), by simp [baseMarks], [], ['6', '5', ';'], rfl⟩

end ViewAccessors.Markup.Reference
