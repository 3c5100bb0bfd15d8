import ViewAccessors.Markup.Lexeme

/-!
# Characters of names and blanks

Reading a name goes as far as it can, and so does reading blanks.  Both end at
the right place because no character belongs to a name and is a blank or one
of the characters that follow a name.
-/

namespace ViewAccessors.Markup

/-- What a name begins with, it may go on with. -/
theorem isNameCharacter_of_isNameStart
    {character : Char}
    (starts : isNameStart character = true) :
    isNameCharacter character = true := by
  simp only [isNameStart, isNameCharacter, Text.isAlphanumeric, Bool.or_eq_true] at starts ⊢
  rcases starts with (letter | underscore) | colon
  · exact .inl (.inl (.inl (.inl (.inl letter))))
  · exact .inl (.inl (.inl (.inr underscore)))
  · exact .inl (.inl (.inr colon))

/-- The code points of the blanks. -/
def blankCodes : List Nat :=
  [0x09, 0x0A, 0x0B, 0x0C, 0x0D, 0x20, 0x85, 0xA0, 0x1680, 0x2000, 0x2001, 0x2002, 0x2003,
    0x2004, 0x2005, 0x2006, 0x2007, 0x2008, 0x2009, 0x200A, 0x2028, 0x2029, 0x202F, 0x205F,
    0x3000]

theorem toNat_mem_blankCodes
    {character : Char}
    (blank : Text.isBlank character = true) :
    character.toNat ∈ blankCodes := by
  simp only [Text.isBlank, Bool.or_eq_true, Bool.and_eq_true, decide_eq_true_eq,
    beq_iff_eq] at blank
  simp only [blankCodes, List.mem_cons, List.not_mem_nil, or_false]
  omega

/-- No blank belongs to a name. -/
theorem isNameCharacter_eq_false_of_isBlank
    {character : Char}
    (blank : Text.isBlank character = true) :
    isNameCharacter character = false := by
  have noCode : ∀ code ∈ blankCodes, isNameCharacter (Char.ofNat code) = false := by
    decide +kernel
  simpa using noCode character.toNat (toNat_mem_blankCodes blank)

theorem isBlank_eq_false_of_isNameStart
    {character : Char}
    (starts : isNameStart character = true) :
    Text.isBlank character = false := by
  cases blank : Text.isBlank character with
  | false => rfl
  | true =>
      have inName := isNameCharacter_of_isNameStart starts
      rw [isNameCharacter_eq_false_of_isBlank blank] at inName
      cases inName

end ViewAccessors.Markup
