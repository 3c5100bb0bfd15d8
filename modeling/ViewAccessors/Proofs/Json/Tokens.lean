import Mathlib.Tactic.SplitIfs
import ViewAccessors.Proofs.Json.Spellings

/-!
# Reading back written tokens

Every text can be written as a JSON string, whatever its characters are, and
tokens can be written one after the other.  What is written is one of the ways
to write the tokens, so it is read back as the same tokens.
-/

namespace ViewAccessors.Json

/-! ## Strings -/

/-- The number of a control character is read from its two digits. -/
theorem digits?_of_control :
    ∀ code < 0x20, Text.digits? 16 0
      ['0', '0', Nat.digitChar (code / 16), Nat.digitChar (code % 16)] = some code := by
  decide

theorem spellsCharacter_encodeCharacter (character : Char) :
    SpellsCharacter character (encodeCharacter character) := by
  rw [encodeCharacter]
  split_ifs with isQuote isBackslash isBackspace isFormFeed isLineFeed isReturn isTab isControl
  · subst isQuote
    exact .short rfl
  · subst isBackslash
    exact .short rfl
  · subst isBackspace
    exact .short rfl
  · subst isFormFeed
    exact .short rfl
  · subst isLineFeed
    exact .short rfl
  · subst isReturn
    exact .short rfl
  · subst isTab
    exact .short rfl
  · exact .unit (.digits (digits?_of_control _ isControl))
  · exact .plain isQuote isBackslash isControl

theorem spellsContent_encode (content : List Char) :
    SpellsContent content (encode content) := by
  induction content with
  | nil => exact .nil
  | cons character content hypothesis =>
      exact .cons (spellsCharacter_encodeCharacter character) hypothesis

/-! ## Tokens -/

/-- A token is written in one of its ways, unless it stands for what is no token. -/
theorem spellsToken_write
    {token : Token}
    (isToken : token ≠ .other) :
    SpellsToken token token.write := by
  cases token with
  | text content =>
      have spelled := SpellsToken.text (spellsContent_encode content.toList)
      rwa [String.ofList_toList] at spelled
  | other => exact absurd rfl isToken
  | openBrace | closeBrace | openBracket | closeBracket | comma | colon =>
      exact .mark (by decide)

theorem spells_writeAll
    {all : List Token}
    (areTokens : .other ∉ all) :
    Spells all (writeAll all) := by
  induction all with
  | nil => exact .nil
  | cons token others hypothesis =>
      rw [List.mem_cons, not_or] at areTokens
      exact .token (spellsToken_write (Ne.symm areTokens.1)) (hypothesis areTokens.2)

/-- Written tokens are read back. -/
theorem tokens_writeAll
    {all : List Token}
    (areTokens : .other ∉ all) :
    tokens (writeAll all) = all :=
  tokens_of_spells (spells_writeAll areTokens)

end ViewAccessors.Json
