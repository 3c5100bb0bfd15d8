import ViewAccessors.OrderedMap
import ViewAccessors.Template.Basic
import ViewAccessors.Template.Numeral

/-!
# Written templates

A template can be written as a text in which two opening braces begin a slot
and two closing braces end it.  A slot holds the name of a field, or the word
`indent` and what it is applied to: a field and the number of spaces.  After
`indent` a number never names a field.  Braces after a single backslash begin
no slot.  A library keeps templates under names.
-/

namespace ViewAccessors.Template

/-- The text that begins a slot. -/
def slotOpening : List Char := ['\x7b', '\x7b']

/-- The text that ends a slot. -/
def slotClosing : List Char := ['\x7d', '\x7d']

/-- The number of spaces if a slot gives none. -/
def standardWidth : Nat := 4

/-- Whether `character` can stand in the name of a field. -/
def isFieldCharacter (character : Char) : Bool :=
  character.isAlphanum || character == '_' || character == '-' || character == '$'
    || 0x80 ≤ character.toNat

/-- Whether `character` separates the words of a slot. -/
def isSlotBlank (character : Char) : Bool :=
  character == ' ' || character == '\t' || character == '\r' || character == '\n'

/-- The words of a slot. -/
def slotWords (text : List Char) : List (List Char) :=
  (text.splitOnP isSlotBlank).filter (!·.isEmpty)

/-- A word to which `indent` is applied. -/
inductive Parameter where
  | field (name : String)
  | number (numeral : Numeral)
  /-- A constant that is neither a text nor a number. -/
  | constant
  deriving DecidableEq, Repr

/-- The words that stand for constants, and the word for the fields as a whole. -/
def constantWords : List (List Char) :=
  ["true".toList, "false".toList, "null".toList, "this".toList]

/-- The words that join two other words and cannot stand at the end of a slot. -/
def joiningWords : List (List Char) :=
  ["as".toList, "else".toList]

/-- Reads a word to which `indent` is applied. -/
def readParameter? (word : List Char) : Option Parameter :=
  if word ∈ constantWords then
    some .constant
  else
    match Numeral.ofWord? word with
    | some numeral => if numeral.isValid then some (.number numeral) else none
    | none => if word.all isFieldCharacter then some (.field (String.ofList word)) else none

/-- Reads the words to which `indent` is applied. -/
def readParameters? (words : List (List Char)) : Option (List Parameter) :=
  if words.getLast?.any (· ∈ joiningWords) then
    none
  else
    words.mapM readParameter?

/-- The width that is given by the words after the field. -/
def widthOf : List Parameter → Nat
  | .number numeral :: _ => numeral.count?.getD standardWidth
  | _ => standardWidth

/-- What `indent` inserts for the words to which it is applied. -/
def indentPiece : List Parameter → Piece
  | .field name :: others => .indented name (widthOf others)
  | _ => .text ""

/-- The operations that insert nothing. -/
def silentOperations : List (List Char) :=
  ["log".toList, "raw".toList]

/-- The operations that need something to work on. -/
def demandingOperations : List (List Char) :=
  ["if".toList, "unless".toList, "each".toList, "with".toList, "lookup".toList,
    "eq".toList, "ne".toList, "gt".toList, "gte".toList, "lt".toList, "lte".toList,
    "and".toList, "or".toList, "not".toList, "len".toList]

/--
The piece for a slot of a single word: the name of a field, unless the word
has a meaning of its own.
-/
def wordPiece (word : List Char) : Piece :=
  if word = "this".toList then .text "[object]"
  else if word ∈ silentOperations then .text ""
  else if word ∈ demandingOperations then .inapplicable (String.ofList word)
  else .value (String.ofList word)

/-- The piece for a slot of a word and what it is applied to. -/
def operationPiece
    (word : List Char)
    (parameters : List Parameter) :
    Piece :=
  if word = "indent".toList then indentPiece parameters
  else if word ∈ silentOperations then .text ""
  else .inapplicable (String.ofList word)

/-- Reads what stands between the braces of a slot.  No slot begins with `else`. -/
def readSlot? (text : List Char) : Option Piece :=
  match slotWords text with
  | [] => none
  | word :: parameters =>
    if !word.all isFieldCharacter || "else".toList.isPrefixOf word then
      none
    else if parameters.isEmpty ∧ word ≠ "indent".toList then
      some (wordPiece word)
    else
      (readParameters? parameters).map (operationPiece word)

/-- The number of backslashes at the end of a text. -/
def trailingBackslashes (text : List Char) : Nat :=
  (text.reverse.takeWhile (· == '\\')).length

/--
Reads the pieces of a written template.  Of the backslashes before two opening
braces one is left out; if it was the only one, the braces and two more that
follow them stand for themselves.
-/
def readPieces? (source : List Char) : Option (List Piece) :=
  match _opened : Text.breakOn slotOpening source with
  | none => some [.text (String.ofList source)]
  | some (before, after) =>
    let backslashes := trailingBackslashes before
    let shown := if backslashes = 0 then before else before.dropLast
    if backslashes = 1 then
      let more := if slotOpening.isPrefixOf after then slotOpening else []
      (readPieces? (after.drop more.length)).map fun others =>
        .text (String.ofList (shown ++ slotOpening ++ more)) :: others
    else
      match _closed : Text.breakOn slotClosing after with
      | none => none
      | some (slot, rest) => do
        let piece ← readSlot? slot
        let others ← readPieces? rest
        some (.text (String.ofList shown) :: piece :: others)
termination_by source.length
decreasing_by
  all_goals
    have early := congrArg List.length (Text.eq_append_of_breakOn _opened)
    simp only [slotOpening, List.length_append, List.length_cons] at early
  · simp only [List.length_drop]
    omega
  · have late := congrArg List.length (Text.eq_append_of_breakOn _closed)
    simp only [slotClosing, List.length_append, List.length_cons] at late
    omega

/-- Reads a written template. -/
def ofText (source : String) : Except TemplateError Template :=
  match readPieces? source.toList with
  | some pieces => .ok ⟨pieces⟩
  | none => .error .malformed

/-- Templates under names. -/
structure Library where
  templates : OrderedMap Template

namespace Library

/-- The library without templates. -/
def empty : Library :=
  ⟨.empty⟩

/-- The library with a written template under a name, in place of an earlier one. -/
def register
    (library : Library)
    (name source : String) :
    Except TemplateError Library :=
  (ofText source).map fun template => ⟨library.templates.insert name template⟩

/-- The library with written templates under their names, registered one after the other. -/
def registerAll
    (library : Library)
    (sources : List (String × String)) :
    Except TemplateError Library :=
  sources.foldlM (fun library (name, source) => library.register name source) library

/-- The text of the template under a name. -/
def render
    (library : Library)
    (name : String)
    (fields : Fields) :
    Except TemplateError String :=
  match library.templates.get? name with
  | some template => template.render fields
  | none => .error (.notFound name)

end Library

end ViewAccessors.Template
