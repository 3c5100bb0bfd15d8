import ViewAccessors.Json.Token
import ViewAccessors.OrderedMap

/-!
# Reading and writing lists and objects of JSON

A reader takes the tokens of one value off the front of a list of tokens.
Writers are given beside the readers.
-/

namespace ViewAccessors.Json

/-- A value read from `source`, and the tokens after it. -/
structure Reading (Value : Type) (source : List Token) where
  value : Value
  rest : List Token
  shorter : rest.length < source.length

/-- Takes a value off the front of a list of tokens. -/
abbrev Reader (Value : Type) : Type :=
  (source : List Token) → Option (Reading Value source)

/-- Reads a string. -/
def readText? : Reader String
  | .text content :: rest => some ⟨content, rest, by simp⟩
  | _ => none

/-- Reads items with commas between them up to and including a closing bracket. -/
def readItems?
    {Value : Type}
    (item : Reader Value)
    (source : List Token) :
    Option (Reading (List Value) source) :=
  match item source with
  | some ⟨first, .closeBracket :: rest, shorter⟩ =>
    some ⟨[first], rest, by simp only [List.length_cons] at shorter; omega⟩
  | some ⟨first, .comma :: others, shorter⟩ =>
    match readItems? item others with
    | some ⟨items, rest, furtherOn⟩ =>
      some ⟨first :: items, rest, by simp only [List.length_cons] at shorter; omega⟩
    | none => none
  | _ => none
termination_by source.length
decreasing_by
  simp only [List.length_cons] at shorter
  omega

/-- Reads a list. -/
def readList?
    {Value : Type}
    (item : Reader Value) :
    Reader (List Value)
  | .openBracket :: .closeBracket :: rest =>
    some ⟨[], rest, by simp only [List.length_cons]; omega⟩
  | .openBracket :: items =>
    match readItems? item items with
    | some ⟨values, rest, shorter⟩ =>
      some ⟨values, rest, by simp only [List.length_cons]; omega⟩
    | none => none
  | _ => none

/-- Reads a key, a colon and a value. -/
def readPair?
    {Value : Type}
    (value : Reader Value) :
    Reader (String × Value)
  | .text key :: .colon :: source =>
    match value source with
    | some ⟨found, rest, shorter⟩ =>
      some ⟨(key, found), rest, by simp only [List.length_cons]; omega⟩
    | none => none
  | _ => none

/-- Reads entries with commas between them up to and including a closing brace. -/
def readEntries?
    {Value : Type}
    (value : Reader Value)
    (source : List Token) :
    Option (Reading (List (String × Value)) source) :=
  match readPair? value source with
  | some ⟨first, .closeBrace :: rest, shorter⟩ =>
    some ⟨[first], rest, by simp only [List.length_cons] at shorter; omega⟩
  | some ⟨first, .comma :: others, shorter⟩ =>
    match readEntries? value others with
    | some ⟨entries, rest, furtherOn⟩ =>
      some ⟨first :: entries, rest, by simp only [List.length_cons] at shorter; omega⟩
    | none => none
  | _ => none
termination_by source.length
decreasing_by
  simp only [List.length_cons] at shorter
  omega

/-- Reads an object as a map.  A repeated key keeps its first place and its last value. -/
def readMap?
    {Value : Type}
    (value : Reader Value) :
    Reader (OrderedMap Value)
  | .openBrace :: .closeBrace :: rest =>
    some ⟨.empty, rest, by simp only [List.length_cons]; omega⟩
  | .openBrace :: entries =>
    match readEntries? value entries with
    | some ⟨found, rest, shorter⟩ =>
      some ⟨.ofList found, rest, by simp only [List.length_cons]; omega⟩
    | none => none
  | _ => none

/-- The tokens of items with commas between them. -/
def separated : List (List Token) → List Token
  | [] => []
  | [last] => last
  | first :: others => first ++ .comma :: separated others

/-- The tokens of a list. -/
def writeList
    {Value : Type}
    (item : Value → List Token)
    (values : List Value) :
    List Token :=
  .openBracket :: separated (values.map item) ++ [.closeBracket]

/-- The tokens of an object. -/
def writeEntries
    {Value : Type}
    (value : Value → List Token)
    (entries : List (String × Value)) :
    List Token :=
  .openBrace :: separated (entries.map fun (key, content) =>
    .text key :: .colon :: value content) ++ [.closeBrace]

/-- The tokens of a map as an object. -/
def writeMap
    {Value : Type}
    (value : Value → List Token)
    (map : OrderedMap Value) :
    List Token :=
  writeEntries value map.entries

end ViewAccessors.Json
