import ViewAccessors.Json.Reader
import ViewAccessors.Options.Fault

/-!
# Options as JSON

Options are written as an object with one entry for each field.  They are
read from such an object, in which fields may be missing and may stand in any
order, or from a list of the values in the order of the fields, which may end
early.  What is missing is as in the standard options.  Errors are found in
the order of the text.
-/

namespace ViewAccessors.Options

open Json

/-- Options read from `source`, and the tokens after them. -/
abbrev Reading (source : List Token) : Type :=
  Json.Reading Options source

/-- Reads a value of one kind and stores it. -/
def readValue
    {Value : Type}
    (reader : Reader Value)
    (store : Value → Options)
    (source : List Token) :
    Except Fault (Reading source) :=
  match reader source with
  | some ⟨value, rest, shorter⟩ => .ok ⟨store value, rest, shorter⟩
  | none => .error .malformed

/-- Reads the word of a setting and stores what it means. -/
def readWord
    {Value : Type}
    (meaning : String → Except UnknownValue Value)
    (store : Value → Options)
    (source : List Token) :
    Except Fault (Reading source) :=
  match readText? source with
  | none => .error .malformed
  | some ⟨word, rest, shorter⟩ =>
    match meaning word with
    | .ok value => .ok ⟨store value, rest, shorter⟩
    | .error unknown => .error (.rejected unknown)

/-- Reads the value of one field into the options. -/
def readField
    (options : Options) :
    Field →
    (source : List Token) →
    Except Fault (Reading source)
  | .style => readWord AccessorStyle.ofText ({ options with style := · })
  | .visibility => readWord Visibility.ofText ({ options with visibility := · })
  | .pathPatterns => readValue (readList? readText?) ({ options with pathPatterns := · })
  | .namespacePatterns =>
    readValue (readList? readText?) ({ options with namespacePatterns := · })
  | .fileNaming => readWord FileNaming.ofText ({ options with fileNaming := · })
  | .language => readWord Language.ofText ({ options with language := · })
  | .additionalNamespaces =>
    readValue (readList? readText?) ({ options with additionalNamespaces := · })
  | .namespaceMappings =>
    readValue (readMap? readText?) ({ options with namespaceMappings := · })
  | .typeMappings =>
    readValue (readMap? (readMap? readText?)) ({ options with typeMappings := · })

/--
Reads the entries of an object up to and including the closing brace.  `seen`
are the fields before them.
-/
def readObject
    (seen : List Field)
    (options : Options)
    (source : List Token) :
    Except Fault (Reading source) :=
  match source with
  | .text key :: afterKey =>
    match Field.ofKey? key with
    | none => .error (.unknownField key)
    | some field =>
      if field ∈ seen then
        .error (.duplicateField field)
      else
        match afterKey with
        | .colon :: value =>
          match readField options field value with
          | .error fault => .error fault
          | .ok ⟨options, .closeBrace :: rest, shorter⟩ =>
            .ok ⟨options, rest, by simp only [List.length_cons] at shorter ⊢; omega⟩
          | .ok ⟨options, .comma :: others, shorter⟩ =>
            match readObject (field :: seen) options others with
            | .error fault => .error fault
            | .ok ⟨options, rest, furtherOn⟩ =>
              .ok ⟨options, rest, by simp only [List.length_cons] at shorter ⊢; omega⟩
          | .ok _ => .error .malformed
        | _ => .error .malformed
  | _ => .error .malformed
termination_by source.length
decreasing_by
  simp only [List.length_cons] at shorter ⊢
  omega

/-- Reads the values of the fields one after the other up to and including a closing bracket. -/
def readPositions
    (options : Options)
    (source : List Token) :
    List Field →
    Except Fault (Reading source)
  | [] => .error .malformed
  | field :: fields =>
    match readField options field source with
    | .error fault => .error fault
    | .ok ⟨options, .closeBracket :: rest, shorter⟩ =>
      .ok ⟨options, rest, by simp only [List.length_cons] at shorter; omega⟩
    | .ok ⟨options, .comma :: others, shorter⟩ =>
      match readPositions options others fields with
      | .error fault => .error fault
      | .ok ⟨options, rest, furtherOn⟩ =>
        .ok ⟨options, rest, by simp only [List.length_cons] at shorter; omega⟩
    | .ok _ => .error .malformed

/-- Reads options that no tokens follow. -/
def ofTokens (source : List Token) : Except Fault Options :=
  let read : Except Fault (Options × List Token) :=
    match source with
    | .openBrace :: .closeBrace :: rest => .ok (standard, rest)
    | .openBracket :: .closeBracket :: rest => .ok (standard, rest)
    | .openBrace :: entries =>
      (readObject [] standard entries).map fun reading => (reading.value, reading.rest)
    | .openBracket :: values =>
      (readPositions standard values Field.all).map fun reading =>
        (reading.value, reading.rest)
    | _ => .error .malformed
  match read with
  | .error fault => .error fault
  | .ok (options, []) => .ok options
  | .ok _ => .error .malformed

/-- Reads options from a JSON text. -/
def ofJson (text : String) : Except Fault Options :=
  ofTokens (tokens text.toList)

/-- The tokens of a string. -/
def writeText (content : String) : List Token :=
  [.text content]

/-- The tokens of the value of one field. -/
def writeField
    (options : Options) :
    Field → List Token
  | .style => writeText options.style.toText
  | .visibility => writeText options.visibility.toText
  | .pathPatterns => writeList writeText options.pathPatterns
  | .namespacePatterns => writeList writeText options.namespacePatterns
  | .fileNaming => writeText options.fileNaming.toText
  | .language => writeText options.language.toText
  | .additionalNamespaces => writeList writeText options.additionalNamespaces
  | .namespaceMappings => writeMap writeText options.namespaceMappings
  | .typeMappings => writeMap (writeMap writeText) options.typeMappings

/-- The tokens of an object with the given fields of the options. -/
def writeObject
    (options : Options)
    (fields : List Field) :
    List Token :=
  writeEntries options.writeField (fields.map fun field => (field.key, field))

/-- The options as a JSON text. -/
def toJson (options : Options) : String :=
  String.ofList (writeAll (options.writeObject Field.all))

end ViewAccessors.Options
