import ViewAccessors.Text.Number
import ViewAccessors.Text.Split

/-!
# Strings in JSON

A JSON string stands between double quotes.  `encode` writes the characters
between the quotes, with a backslash before every character that cannot stand
there as it is; `decode?` reads them, with every way of escaping a character,
and stops after the closing quote.
-/

namespace ViewAccessors.Json

/-- The characters with an escape of one letter, under that letter. -/
def shortEscapes : List (Char × Char) :=
  [('"', '"'), ('\\', '\\'), ('/', '/'), ('b', '\x08'), ('f', '\x0c'), ('n', '\n'),
    ('r', '\r'), ('t', '\t')]

/-- Reads four hexadecimal digits. -/
def readUnit? : List Char → Option (Nat × List Char)
  | first :: second :: third :: fourth :: rest =>
    (Text.digits? 16 0 [first, second, third, fourth]).map fun unit => (unit, rest)
  | _ => none

/-- Whether a unit is the first half of a surrogate pair. -/
def isHighSurrogate (unit : Nat) : Bool :=
  0xD800 ≤ unit && unit < 0xDC00

/-- Whether a unit is the second half of a surrogate pair. -/
def isLowSurrogate (unit : Nat) : Bool :=
  0xDC00 ≤ unit && unit < 0xE000

/-- Reads the escape after a backslash.  Surrogates stand for a character in pairs only. -/
def readEscape? : List Char → Option (Char × List Char)
  | 'u' :: digits => do
    let (unit, rest) ← readUnit? digits
    if isHighSurrogate unit then
      let digits ← Text.dropStart? ['\\', 'u'] rest
      let (second, rest) ← readUnit? digits
      if isLowSurrogate second then
        some (Char.ofNat (0x10000 + (unit - 0xD800) * 0x400 + (second - 0xDC00)), rest)
      else
        none
    else if isLowSurrogate unit then
      none
    else
      some (Char.ofNat unit, rest)
  | letter :: rest => (shortEscapes.lookup letter).map fun character => (character, rest)
  | [] => none

theorem length_of_readUnit?
    {text rest : List Char}
    {unit : Nat}
    (read : readUnit? text = some (unit, rest)) :
    text.length = rest.length + 4 := by
  unfold readUnit? at read
  split at read
  · obtain ⟨_, -, same⟩ := Option.map_eq_some_iff.1 read
    have remaining := congrArg Prod.snd same
    simp only at remaining
    simp [remaining]
  · exact absurd read (by simp)

theorem length_lt_of_readEscape?
    {text rest : List Char}
    {character : Char}
    (read : readEscape? text = some (character, rest)) :
    rest.length < text.length := by
  unfold readEscape? at read
  split at read
  · rename_i digits
    obtain ⟨⟨unit, afterUnit⟩, readFirst, read⟩ := Option.bind_eq_some_iff.1 read
    have first := length_of_readUnit? readFirst
    simp only at read
    split at read
    · obtain ⟨later, dropped, read⟩ := Option.bind_eq_some_iff.1 read
      obtain ⟨⟨second, afterSecond⟩, readSecond, read⟩ := Option.bind_eq_some_iff.1 read
      have between := congrArg List.length (Text.dropStart?_eq_some_iff.1 dropped)
      have last := length_of_readUnit? readSecond
      simp only at read
      split at read
      · have remaining := congrArg Prod.snd (Option.some.inj read)
        simp only at remaining
        simp only [List.length_append, List.length_cons, ← remaining] at *
        omega
      · exact absurd read (by simp)
    · split at read
      · exact absurd read (by simp)
      · have remaining := congrArg Prod.snd (Option.some.inj read)
        simp only at remaining
        simp only [List.length_cons, ← remaining]
        omega
  · obtain ⟨_, -, same⟩ := Option.map_eq_some_iff.1 read
    have remaining := congrArg Prod.snd same
    simp only at remaining
    simp [remaining]
  · exact absurd read (by simp)

/--
Reads the characters of a string up to and including the closing quote, and
returns them with the text after the quote.  Control characters must be
escaped.
-/
def decode? (text : List Char) : Option (List Char × List Char) :=
  match text with
  | [] => none
  | '"' :: rest => some ([], rest)
  | '\\' :: escape =>
    match _read : readEscape? escape with
    | none => none
    | some (character, rest) =>
      (decode? rest).map fun (content, after) => (character :: content, after)
  | character :: rest =>
    if character.toNat < 0x20 then
      none
    else
      (decode? rest).map fun (content, after) => (character :: content, after)
termination_by text.length
decreasing_by
  · have := length_lt_of_readEscape? _read
    simp
    omega
  · simp

theorem length_lt_of_decode?
    {text content after : List Char}
    (read : decode? text = some (content, after)) :
    after.length < text.length := by
  fun_induction decode? text generalizing content with
  | case1 => exact absurd read (by simp)
  | case2 rest =>
    have remaining := congrArg Prod.snd (Option.some.inj read)
    simp only at remaining
    simp [remaining]
  | case3 => exact absurd read (by simp)
  | case4 escape character rest readEscape hypothesis =>
    obtain ⟨⟨_, later⟩, found, same⟩ := Option.map_eq_some_iff.1 read
    have remaining : later = after := congrArg Prod.snd same
    have := hypothesis (remaining ▸ found)
    have := length_lt_of_readEscape? readEscape
    simp only [List.length_cons]
    omega
  | case5 => exact absurd read (by simp)
  | case6 character rest _ _ _ hypothesis =>
    obtain ⟨⟨_, later⟩, found, same⟩ := Option.map_eq_some_iff.1 read
    have remaining : later = after := congrArg Prod.snd same
    have := hypothesis (remaining ▸ found)
    simp only [List.length_cons]
    omega

/-- How one character is written between the quotes. -/
def encodeCharacter (character : Char) : List Char :=
  if character = '"' then ['\\', '"']
  else if character = '\\' then ['\\', '\\']
  else if character = '\x08' then ['\\', 'b']
  else if character = '\x0c' then ['\\', 'f']
  else if character = '\n' then ['\\', 'n']
  else if character = '\r' then ['\\', 'r']
  else if character = '\t' then ['\\', 't']
  else if character.toNat < 0x20 then
    ['\\', 'u', '0', '0', Nat.digitChar (character.toNat / 16),
      Nat.digitChar (character.toNat % 16)]
  else [character]

/-- The characters of a string as they are written between the quotes. -/
def encode (content : List Char) : List Char :=
  content.flatMap encodeCharacter

end ViewAccessors.Json
