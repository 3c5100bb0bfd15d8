import ViewAccessors.Markup.Lexeme
import ViewAccessors.Markup.Reference
import ViewAccessors.Markup.Tree

/-!
# Reading markup documents

`parse` reads a text as a document.  Elements are read by descent: `readElement`
reads one element, and is handed the number of levels that may still be
opened; `readContent` reads the children of an element, and is handed the
reader for a child.  Every reader returns the place where reading goes on together
with the fact that it lies further on, which is what ends the recursion.
-/

namespace ViewAccessors.Markup

/-- How deep elements may stand inside one another, the root included. -/
def maximumNesting : Nat := 256

/-- A value read at `cursor`, and the later place where reading goes on. -/
structure Reading (Value : Type) (cursor : Cursor) where
  value : Value
  next : Cursor
  shorter : next.rest.length < cursor.rest.length

namespace Cursor

/-- Passes blanks, comments, processing instructions and document type declarations. -/
def passMisc (cursor : Cursor) : Except MarkupError Cursor :=
  match _found : cursor.passBlanks.enclosed Enclosure.aroundRoot with
  | .error error => .error error
  | .ok none => .ok cursor.passBlanks
  | .ok (some (_enclosure, _content, later)) => later.passMisc
termination_by cursor.rest.length
decreasing_by
  have passes := (passes_of_enclosed _found).2.length_eq
  have opened := List.length_pos_iff.2 _enclosure.opening_ne_nil
  have blanks := cursor.length_passBlanks_le
  simp only [List.length_append] at passes
  omega

end Cursor

/-- Replaces the references in `raw`, which begins on the given line. -/
def decodeText
    (raw : List Char)
    (line : Nat) :
    Except MarkupError String :=
  match Reference.decode raw with
  | .ok decoded => .ok (String.ofList decoded)
  | .error reference => .error (.invalidReference (String.ofList reference) line)

/-- Reads a name and a value. -/
def readAttribute (cursor : Cursor) : Except MarkupError (Reading Attribute cursor) :=
  match named : cursor.name? with
  | none => .error (cursor.unexpected .attributeName)
  | some (name, afterName) =>
    match valued : afterName.attributeValue? with
    | none => .error (afterName.unexpected .attributeValue)
    | some (raw, next) =>
      match decodeText raw cursor.place.line with
      | .error error => .error error
      | .ok value =>
        .ok {
          value := ⟨Name.ofText name, value, cursor.spanTo next⟩
          next
          shorter := by
            have early := (Cursor.passes_of_name? named).2.length_eq
            obtain ⟨_, _, _, _, passes⟩ := Cursor.passes_of_attributeValue? valued
            have late := passes.length_eq
            simp only [List.length_append, List.length_cons] at late
            omega }

/-- What stands at one place of a start tag after the name. -/
inductive TagItem where
  | entry (read : Attribute)
  /-- The end of the tag, with a slash if the element has no content. -/
  | ending (closed : Bool)

/--
Reads an attribute or the end of the tag.  `spaced` tells whether blanks
precede the cursor, as they must before an attribute.
-/
def readTagItem
    (spaced : Bool)
    (cursor : Cursor) :
    Except MarkupError (Reading TagItem cursor) :=
  match closed : cursor.pass? ['/', '>'] with
  | some next =>
    .ok {
      value := .ending true
      next
      shorter := by
        have := (Cursor.pass?_eq_some_iff.1 closed).length_eq
        simp only [List.length_cons] at this
        omega }
  | none =>
    match opened : cursor.pass? ['>'] with
    | some next =>
      .ok {
        value := .ending false
        next
        shorter := by
          have := (Cursor.pass?_eq_some_iff.1 opened).length_eq
          simp only [List.length_cons] at this
          omega }
    | none =>
      if cursor.rest.isEmpty then
        .error (.unterminated .startTag cursor.place.line)
      else if !spaced then
        .error (cursor.unexpected .blankBeforeAttribute)
      else
        match readAttribute cursor with
        | .error error => .error error
        | .ok ⟨read, next, shorter⟩ => .ok ⟨.entry read, next, shorter⟩

/--
Reads the attributes of a start tag and its end, and returns with the
attributes whether the end has a slash.  `found` are the attributes before
the cursor.
-/
def readAttributes
    (found : List Attribute)
    (cursor : Cursor) :
    Except MarkupError (Reading (List Attribute × Bool) cursor) :=
  have notLonger := cursor.length_passBlanks_le
  match readTagItem (cursor.rest.head?.any Text.isBlank) cursor.passBlanks with
  | .error error => .error error
  | .ok ⟨.ending closed, next, shorter⟩ => .ok ⟨(found, closed), next, by omega⟩
  | .ok ⟨.entry read, next, shorter⟩ =>
    if found.any fun earlier => earlier.name = read.name then
      .error (.duplicateAttribute read.name.toText read.span)
    else
      match readAttributes (found ++ [read]) next with
      | .error error => .error error
      | .ok ⟨result, last, furtherOn⟩ => .ok ⟨result, last, by omega⟩
termination_by cursor.rest.length

/-- What stands at one place of an element's content. -/
inductive ContentItem where
  /-- A closing tag. -/
  | closingTag (name : String)
  /-- A comment, a processing instruction or a run of blanks. -/
  | nothing
  | text (content : String)
  /-- The first character of a start tag. -/
  | opening

/-- Reads the comment, instruction or character data section at the cursor, if one stands there. -/
def readEnclosed (cursor : Cursor) :
    Except MarkupError (Option (Reading ContentItem cursor)) :=
  match found : cursor.enclosed Enclosure.insideElement with
  | .error error => .error error
  | .ok none => .ok none
  | .ok (some (enclosure, content, next)) =>
    .ok (some {
      value :=
        if enclosure.construct = .characterData then
          .text (String.ofList content)
        else
          .nothing
      next
      shorter := by
        have passes := (Cursor.passes_of_enclosed found).2.length_eq
        have opened := List.length_pos_iff.2 enclosure.opening_ne_nil
        simp only [List.length_append] at passes
        omega })

/--
Reads the text up to the next tag, unless it is empty.  A text of blanks only
counts as nothing.
-/
def readText (cursor : Cursor) :
    Except MarkupError (Option (Reading ContentItem cursor)) :=
  match passed : cursor.passWhile (· != '<') with
  | ([], _) => .ok none
  | (first :: others, next) =>
    have shorter : next.rest.length < cursor.rest.length := by
      have passes := cursor.passes_passWhile (· != '<')
      rw [passed] at passes
      simp [passes.length_eq]
    if (first :: others).all Text.isBlank then
      .ok (some ⟨.nothing, next, shorter⟩)
    else
      match decodeText (first :: others) cursor.place.line with
      | .error error => .error error
      | .ok content => .ok (some ⟨.text content, next, shorter⟩)

/-- Reads what stands at the cursor inside an element; nothing at the end of the text. -/
def readItem (cursor : Cursor) :
    Except MarkupError (Option (Reading ContentItem cursor)) :=
  match closing : cursor.pass? ['<', '/'] with
  | some inside =>
    match named : inside.closingName? with
    | none => .error (cursor.unexpected .closingTag)
    | some (name, next) =>
      .ok (some {
        value := .closingTag name
        next
        shorter := by
          have early := (Cursor.pass?_eq_some_iff.1 closing).length_eq
          obtain ⟨_, passes⟩ := Cursor.passes_of_closingName? named
          have late := passes.length_eq
          simp only [List.length_append, List.length_cons] at early late
          omega })
  | none =>
    match readEnclosed cursor with
    | .error error => .error error
    | .ok (some item) => .ok (some item)
    | .ok none =>
      match opened : cursor.pass? ['<'] with
      | some next =>
        .ok (some {
          value := .opening
          next
          shorter := by
            have := (Cursor.pass?_eq_some_iff.1 opened).length_eq
            simp only [List.length_cons] at this
            omega })
      | none => readText cursor

/--
Reads the children of an element up to and including its closing tag.
`child` reads an element inside it, `name` is its name as written and
`opening` the place where it begins.
-/
def readContent
    (child : Position → (inside : Cursor) → Except MarkupError (Reading Element inside))
    (name : String)
    (opening : Position)
    (cursor : Cursor) :
    Except MarkupError (Reading (List Node) cursor) :=
  match readItem cursor with
  | .error error => .error error
  | .ok none => .error (.unterminated (.element name) opening.line)
  | .ok (some ⟨.closingTag found, next, shorter⟩) =>
    if found = name then
      .ok ⟨[], next, shorter⟩
    else
      .error (.mismatchedTag name found (cursor.spanTo next))
  | .ok (some ⟨.nothing, next, shorter⟩) =>
    match readContent child name opening next with
    | .error error => .error error
    | .ok ⟨nodes, last, furtherOn⟩ => .ok ⟨nodes, last, by omega⟩
  | .ok (some ⟨.text text, next, shorter⟩) =>
    match readContent child name opening next with
    | .error error => .error error
    | .ok ⟨nodes, last, furtherOn⟩ => .ok ⟨.text text :: nodes, last, by omega⟩
  | .ok (some ⟨.opening, inside, shorter⟩) =>
    match child cursor.place inside with
    | .error error => .error error
    | .ok ⟨element, next, childShorter⟩ =>
      match readContent child name opening next with
      | .error error => .error error
      | .ok ⟨nodes, last, furtherOn⟩ =>
        .ok ⟨element.toNode :: nodes, last, by omega⟩
termination_by cursor.rest.length

/--
Reads an element whose first character stands at `opening` and is passed.
`room` is the number of levels that may still be opened.
-/
def readElement :
    (room : Nat) →
    (opening : Position) →
    (inside : Cursor) →
    Except MarkupError (Reading Element inside)
  | 0, opening, _ => .error (.nestedTooDeep maximumNesting opening.line)
  | room + 1, opening, inside =>
    match named : inside.name? with
    | none => .error (inside.unexpected .elementName)
    | some (name, afterName) =>
      have shortened := (Cursor.passes_of_name? named).2.length_eq
      match readAttributes [] afterName with
      | .error error => .error error
      | .ok ⟨(attributes, true), next, shorter⟩ =>
        .ok {
          value := {
            name := Name.ofText name
            attributes
            span := ⟨opening, next.place⟩
            children := [] }
          next
          shorter := by omega }
      | .ok ⟨(attributes, false), start, shorter⟩ =>
        match readContent (readElement room) name opening start with
        | .error error => .error error
        | .ok ⟨children, next, furtherOn⟩ =>
          .ok {
            value := {
              name := Name.ofText name
              attributes
              span := ⟨opening, next.place⟩
              children }
            next
            shorter := by omega }

/-- Reads a document from the first character on: one element, with misc around it. -/
def readDocument (text : List Char) : Except MarkupError Element :=
  match (Cursor.ofText text).passMisc with
  | .error error => .error error
  | .ok start =>
    if start.rest.isEmpty then
      .error .missingRoot
    else
      match start.pass? ['<'] with
      | none => .error (start.unexpected .rootElement)
      | some inside =>
        match readElement maximumNesting start.place inside with
        | .error error => .error error
        | .ok ⟨root, next, _⟩ =>
          match next.passMisc with
          | .error error => .error error
          | .ok last =>
            if last.rest.isEmpty then
              .ok root
            else
              .error (.trailingContent last.place.line)

/-- `text` without a byte order mark at its start. -/
def withoutByteOrderMark : List Char → List Char
  | '\ufeff' :: text => text
  | text => text

/-- Reads a text as a markup document.  A byte order mark before it is no part of it. -/
def parse (text : String) : Except MarkupError Element :=
  readDocument (withoutByteOrderMark text.toList)

end ViewAccessors.Markup
