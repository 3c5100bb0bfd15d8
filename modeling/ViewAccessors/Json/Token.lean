import ViewAccessors.Json.Quoted

/-!
# The tokens of JSON texts

Options consist of strings, lists and objects, so that numbers, truth values
and null need not be told apart: all of them, and everything that is no JSON
at all, are `other`, which no reader accepts.  Reading a text as tokens ends
with the first such token.
-/

namespace ViewAccessors.Json

/-- A token of a JSON text. -/
inductive Token where
  | openBrace
  | closeBrace
  | openBracket
  | closeBracket
  | comma
  | colon
  | text (content : String)
  /-- Anything else, and everything after it. -/
  | other
  deriving DecidableEq, Repr

/-- The tokens of one character. -/
def punctuation : List (Char × Token) :=
  [('\x7b', .openBrace), ('\x7d', .closeBrace), ('[', .openBracket), (']', .closeBracket),
    (',', .comma), (':', .colon)]

/-- Whether `character` may stand between tokens. -/
def isJsonBlank (character : Char) : Bool :=
  character == ' ' || character == '\t' || character == '\n' || character == '\r'

/-- The tokens of a text. -/
def tokens (source : List Char) : List Token :=
  match source with
  | [] => []
  | '"' :: rest =>
    match _read : decode? rest with
    | some (content, after) => .text (String.ofList content) :: tokens after
    | none => [.other]
  | character :: rest =>
    if isJsonBlank character then
      tokens rest
    else
      match punctuation.lookup character with
      | some token => token :: tokens rest
      | none => [.other]
termination_by source.length
decreasing_by
  · have := length_lt_of_decode? _read
    simp
    omega
  · simp
  · simp

namespace Token

/-- A token as it is written. -/
def write : Token → List Char
  | openBrace => ['\x7b']
  | closeBrace => ['\x7d']
  | openBracket => ['[']
  | closeBracket => [']']
  | comma => [',']
  | colon => [':']
  | text content => '"' :: encode content.toList ++ ['"']
  | other => ['?']

end Token

/-- Tokens as they are written one after the other. -/
def writeAll (all : List Token) : List Char :=
  all.flatMap Token.write

end ViewAccessors.Json
