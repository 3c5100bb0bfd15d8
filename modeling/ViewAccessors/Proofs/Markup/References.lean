import Mathlib.Data.List.Induction
import ViewAccessors.Proofs.Markup.Scanning
import ViewAccessors.Proofs.Markup.Writing
import ViewAccessors.Proofs.Outcomes

/-!
# Reading references

`Reference.character?` knows exactly the references that denote a character,
and `Reference.decode` reads exactly the texts that are written as symbols.
-/

namespace ViewAccessors

/-! ## Numbers -/

namespace Text

theorem Numeral.ne_nil
    {base value : Nat}
    {digits : List Char}
    (numeral : Numeral base digits value) :
    digits ≠ [] := by
  cases numeral with
  | single isDigit small => exact List.cons_ne_nil _ _
  | more before isDigit small =>
      exact List.append_ne_nil_of_right_ne_nil _ (List.cons_ne_nil _ _)

/-- Every character of a numeral is a digit. -/
theorem Numeral.isDigit
    {base value : Nat}
    {digits : List Char}
    (numeral : Numeral base digits value)
    {character : Char}
    (member : character ∈ digits) :
    ∃ digit < base, digitValue character = some digit := by
  induction numeral with
  | single isDigit small =>
      cases List.mem_singleton.mp member
      exact ⟨_, small, isDigit⟩
  | more before isDigit small hypothesis =>
      rcases List.mem_append.mp member with early | last
      · exact hypothesis early
      · cases List.mem_singleton.mp last
        exact ⟨_, small, isDigit⟩

/-- The last digit counts once and the digits before it count `base` times. -/
theorem digits?_append_singleton
    (base value : Nat)
    (digits : List Char)
    (character : Char) :
    digits? base value (digits ++ [character]) =
      (digits? base value digits).bind fun before =>
        (digitValue character).bind fun digit =>
          if digit < base then some (before * base + digit) else none := by
  induction digits generalizing value with
  | nil =>
      rw [List.nil_append, digits?, digits?]
      cases digitValue character <;> rfl
  | cons first others hypothesis =>
      rw [List.cons_append, digits?, digits?]
      cases digitValue first with
      | none => rfl
      | some digit =>
          by_cases small : digit < base
          · simp only [small, if_true, hypothesis]
          · simp only [small, if_false, Option.bind_none]

theorem digits?_of_numeral
    {base value : Nat}
    {digits : List Char}
    (numeral : Numeral base digits value) :
    digits? base 0 digits = some value := by
  induction numeral with
  | single isDigit small => simp [digits?, isDigit, small]
  | more before isDigit small hypothesis =>
      simp [digits?_append_singleton, hypothesis, isDigit, small]

theorem numeral_of_digits?
    {base value : Nat}
    {digits : List Char}
    (nonempty : digits ≠ [])
    (read : digits? base 0 digits = some value) :
    Numeral base digits value := by
  induction digits using List.reverseRecOn generalizing value with
  | nil => exact absurd rfl nonempty
  | append_singleton before character hypothesis =>
      rw [digits?_append_singleton] at read
      simp only [Option.bind_eq_some_iff, Option.ite_none_right_eq_some,
        Option.some.injEq] at read
      rcases read with ⟨earlier, readBefore, digit, isDigit, small, rfl⟩
      by_cases empty : before = []
      · subst empty
        cases readBefore
        simpa using Numeral.single isDigit small
      · exact .more (hypothesis empty readBefore) isDigit small

/-- A text reads as a number exactly if it is a numeral. -/
theorem number?_eq_some_iff
    {base value : Nat}
    {digits : List Char} :
    number? base digits = some value ↔ Numeral base digits value := by
  rw [number?]
  constructor
  · intro read
    split at read
    · cases read
    · rename_i nonempty
      exact numeral_of_digits? (by simpa using nonempty) read
  · intro numeral
    rw [if_neg (by simpa using numeral.ne_nil)]
    exact digits?_of_numeral numeral

end Text

/-! ## References -/

namespace Markup.Reference

/-- A numeral may stand after a plus sign. -/
theorem number?_eq_some_iff
    {base value : Nat}
    {text : List Char} :
    number? base text = some value ↔
      ∃ sign ∈ signs, ∃ digits, text = sign ++ digits ∧ Text.Numeral base digits value := by
  rw [number?.eq_def, Text.number?_eq_some_iff]
  constructor
  · intro numeral
    split at numeral
    · rename_i unsigned
      exact ⟨['+'], by simp [signs], unsigned, rfl, numeral⟩
    · exact ⟨[], by simp [signs], text, rfl, numeral⟩
  · rintro ⟨sign, isSign, digits, rfl, numeral⟩
    simp only [signs, List.mem_cons, List.not_mem_nil, or_false] at isSign
    rcases isSign with rfl | rfl
    · rw [List.nil_append]
      split
      · rcases numeral.isDigit List.mem_cons_self with ⟨digit, -, isDigit⟩
        cases isDigit
      · exact numeral
    · exact numeral

theorem characterOfNumber_eq_some_iff
    {code : Nat}
    {character : Char} :
    characterOfNumber code = some character ↔ code = character.toNat := by
  rw [characterOfNumber]
  constructor
  · intro found
    by_cases valid : code.isValidChar
    · rw [dif_pos valid] at found
      cases found
      rfl
    · rw [dif_neg valid] at found
      cases found
  · rintro rfl
    have valid : character.toNat.isValidChar := character.valid
    rw [dif_pos valid]
    have whole := Char.ofNat_toNat character
    rw [Char.ofNat, dif_pos valid] at whole
    rw [whole]

/-- A number in a reference, whatever its mark, is not one of the names. -/
theorem lookup_numbered (text : List Char) :
    named.lookup ('#' :: text) = none :=
  rfl

theorem character?_of_denotes
    {body : List Char}
    {character : Char}
    (denotes : Denotes body character) :
    character? body = some character := by
  cases denotes with
  | named known =>
      simp only [named, List.mem_cons, List.not_mem_nil, or_false, Prod.mk.injEq] at known
      rcases known with ⟨rfl, rfl⟩ | ⟨rfl, rfl⟩ | ⟨rfl, rfl⟩ | ⟨rfl, rfl⟩ | ⟨rfl, rfl⟩ <;> rfl
  | @numbered mark sign digits base _ marked signed number =>
      have read : (number? base (sign ++ digits)).bind characterOfNumber = some character := by
        rw [number?_eq_some_iff.mpr ⟨sign, signed, digits, rfl, number⟩]
        exact characterOfNumber_eq_some_iff.mpr rfl
      have noSign : ∀ sign ∈ signs, 'x' ∉ sign ∧ 'X' ∉ sign := by decide
      have unmarked : ∀ mark ∉ sign, Text.digitValue mark = none →
          ∀ others, sign ++ digits ≠ mark :: others := by
        intro mark notInSign noDigit others same
        have member : mark ∈ sign ++ digits := same ▸ List.mem_cons_self
        rcases List.mem_append.mp member with inSign | inDigits
        · exact notInSign inSign
        · rcases number.isDigit inDigits with ⟨digit, -, isDigit⟩
          rw [noDigit] at isDigit
          cases isDigit
      rw [List.append_assoc, List.cons_append]
      simp only [baseMarks, List.mem_cons, List.not_mem_nil, or_false, Prod.mk.injEq] at marked
      rcases marked with ⟨rfl, rfl⟩ | ⟨rfl, rfl⟩ | ⟨rfl, rfl⟩
      · rw [List.nil_append, character?, lookup_numbered]
        · exact read
        · exact unmarked 'x' (noSign sign signed).1 rfl
        · exact unmarked 'X' (noSign sign signed).2 rfl
      · exact read
      · exact read

theorem denotes_of_character?
    {body : List Char}
    {character : Char}
    (found : character? body = some character) :
    Denotes body character := by
  have numbered : ∀ (mark : List Char) {text : List Char} {base : Nat},
      (mark, base) ∈ baseMarks →
      (number? base text).bind characterOfNumber = some character →
      Denotes ('#' :: (mark ++ text)) character := by
    intro mark text base marked read
    rcases Option.bind_eq_some_iff.mp read with ⟨code, isNumber, isCharacter⟩
    rcases number?_eq_some_iff.mp isNumber with ⟨sign, signed, digits, rfl, numeral⟩
    cases characterOfNumber_eq_some_iff.mp isCharacter
    have denotes := Denotes.numbered marked signed numeral
    rwa [List.append_assoc] at denotes
  rw [character?.eq_def] at found
  split at found
  · rename_i known
    cases found
    rcases List.lookup_eq_some_iff.mp known with ⟨before, after, listed, -⟩
    exact .named (listed ▸ List.mem_append_right _ List.mem_cons_self)
  · split at found
    · exact numbered ['x'] (by simp [baseMarks]) found
    · exact numbered ['X'] (by simp [baseMarks]) found
    · exact numbered [] (by simp [baseMarks]) found
    · cases found

/-- A reference is made of letters of the names, of marks, signs and digits. -/
theorem Denotes.notMem
    {body : List Char}
    {character other : Char}
    (denotes : Denotes body character)
    (noName : ∀ entry ∈ Reference.named, other ∉ entry.1)
    (noMark : ∀ entry ∈ baseMarks, other ∉ '#' :: entry.1)
    (noSign : ∀ sign ∈ signs, other ∉ sign)
    (noDigit : Text.digitValue other = none) :
    other ∉ body := by
  cases denotes with
  | named known => exact noName _ known
  | @numbered mark sign digits base _ marked signed number =>
      intro member
      rcases List.mem_append.mp member with beforeDigits | inDigits
      · rcases List.mem_append.mp beforeDigits with inMark | inSign
        · exact noMark _ marked inMark
        · exact noSign _ signed inSign
      · rcases number.isDigit inDigits with ⟨digit, -, isDigit⟩
        rw [noDigit] at isDigit
        cases isDigit

/-- A reference ends with its first semicolon. -/
theorem Denotes.semicolon_notMem
    {body : List Char}
    {character : Char}
    (denotes : Denotes body character) :
    ';' ∉ body :=
  denotes.notMem (by decide) (by decide) (by decide) rfl

/-! ## Symbols -/

open Writing

/-- Decoding replaces the symbol at the beginning of a text by its character. -/
theorem decode_symbol
    (symbol : Symbol)
    (raw : List Char) :
    decode (symbol.text ++ raw) = (decode raw).map (symbol.character :: ·) := by
  cases symbol with
  | plain character notReference =>
      rw [Symbol.text, List.singleton_append, decode.eq_def]
      split
      · rename_i impossible
        cases impossible
      · rename_i same
        cases same
        exact absurd rfl notReference
      · rename_i same
        cases same
        rfl
  | reference body character denotes =>
      have broken : Text.breakOn [';'] (body ++ ';' :: raw) = some (body, raw) :=
        Text.breakOn_singleton_iff.mpr ⟨rfl, denotes.semicolon_notMem⟩
      have written : Symbol.text (.reference body character denotes) ++ raw =
          '&' :: (body ++ ';' :: raw) := by
        simp [Symbol.text]
      rw [written, decode.eq_def]
      split
      · rename_i impossible
        cases impossible
      · rename_i same
        cases same
        split
        · rename_i unbroken
          rw [broken] at unbroken
          cases unbroken
        · rename_i found
          rw [broken] at found
          cases found
          rw [character?_of_denotes denotes]
          rfl
      · rename_i notReference same
        cases same
        exact absurd rfl notReference

theorem decode_symbols (symbols : List Symbol) :
    decode (symbols.flatMap Symbol.text) = .ok (symbols.map Symbol.character) := by
  induction symbols with
  | nil => rw [List.flatMap_nil, decode, List.map_nil]
  | cons symbol others hypothesis =>
      rw [List.flatMap_cons, decode_symbol, hypothesis]
      rfl

/-- A text that can be decoded is written as symbols. -/
theorem exists_symbols_of_decode
    {raw value : List Char}
    (decoded : decode raw = .ok value) :
    ∃ symbols : List Symbol,
      symbols.flatMap Symbol.text = raw ∧ symbols.map Symbol.character = value := by
  fun_induction decode raw generalizing value with
  | case1 =>
      cases decoded
      exact ⟨[], rfl, rfl⟩
  | case2 rest broken => cases decoded
  | case3 rest body after broken unknown => cases decoded
  | case4 rest body after broken character known hypothesis =>
      rcases map_eq_ok_iff.mp decoded with ⟨later, decodedLater, rfl⟩
      rcases hypothesis decodedLater with ⟨symbols, rfl, rfl⟩
      refine ⟨.reference body character (denotes_of_character? known) :: symbols, ?_, rfl⟩
      rw [Text.eq_append_of_breakOn broken]
      simp [Symbol.text]
  | case5 character rest notReference hypothesis =>
      rcases map_eq_ok_iff.mp decoded with ⟨later, decodedLater, rfl⟩
      rcases hypothesis decodedLater with ⟨symbols, rfl, rfl⟩
      exact ⟨.plain character notReference :: symbols, rfl, rfl⟩

/-! ## Texts that cannot be decoded -/

/-- What follows an ampersand is no reference, and an error shows a part of it. -/
inductive Faulty : (after shown : List Char) → Prop where
  | unended
      {after : List Char}
      (absent : ';' ∉ after) :
      Faulty after (after.take shownLength)
  | unknown
      {body others : List Char}
      (isFirst : ';' ∉ body)
      (denotesNothing : ∀ character, ¬ Denotes body character) :
      Faulty (body ++ ';' :: others) body

/-- Decoding fails at the first ampersand without a reference. -/
theorem exists_of_decode_eq_error
    {raw shown : List Char}
    (failed : decode raw = .error shown) :
    ∃ (symbols : List Symbol) (after : List Char),
      raw = symbols.flatMap Symbol.text ++ '&' :: after ∧ Faulty after shown := by
  fun_induction decode raw with
  | case1 => cases failed
  | case2 rest unbroken =>
      cases failed
      exact ⟨[], rest, rfl, .unended ((Text.splitFirst_eq_none_iff ';' rest).mp unbroken)⟩
  | case3 rest body after broken unknown =>
      cases failed
      rcases Text.breakOn_singleton_iff.mp broken with ⟨rfl, isFirst⟩
      refine ⟨[], _, rfl, .unknown isFirst ?_⟩
      intro character denotes
      rw [character?_of_denotes denotes] at unknown
      cases unknown
  | case4 rest body after broken character known hypothesis =>
      rcases hypothesis (map_eq_error_iff.mp failed) with ⟨symbols, later, rfl, faulty⟩
      refine ⟨.reference body character (denotes_of_character? known) :: symbols, later, ?_,
        faulty⟩
      rw [Text.eq_append_of_breakOn broken]
      simp [Symbol.text]
  | case5 character rest notReference hypothesis =>
      rcases hypothesis (map_eq_error_iff.mp failed) with ⟨symbols, later, rfl, faulty⟩
      exact ⟨.plain character notReference :: symbols, later, rfl, faulty⟩

end Markup.Reference

end ViewAccessors
