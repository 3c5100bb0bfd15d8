import ViewAccessors.Markup.Position
import ViewAccessors.Text.Quoted

/-!
# Why a text is not a markup document

Each error names its cause and the place where reading stopped.  The wording
of the errors is in `MarkupError.message` and nowhere else.
-/

namespace ViewAccessors.Markup

/-- What was to stand at the place where something else was found. -/
inductive Expectation where
  | rootElement
  | elementName
  | blankBeforeAttribute
  | attributeName
  | attributeValue
  | closingTag
  deriving DecidableEq, Repr

namespace Expectation

/-- The expectation as messages name it. -/
def describe : Expectation → String
  | rootElement => "root element"
  | elementName => "element name"
  | blankBeforeAttribute => "whitespace before attribute"
  | attributeName => "attribute name"
  | attributeValue => "quoted attribute value"
  | closingTag => "closing tag"

end Expectation

/-- What a text can leave open at its end. -/
inductive Construct where
  | comment
  | instruction
  | doctype
  | characterData
  | startTag
  | element (name : String)
  deriving DecidableEq, Repr

namespace Construct

/-- The construct as messages name it. -/
def describe : Construct → String
  | comment => "comment"
  | instruction => "processing instruction"
  | doctype => "doctype"
  | characterData => "CDATA section"
  | startTag => "start tag"
  | element name => "element <" ++ name ++ ">"

end Construct

/-- Why a text is not a markup document. -/
inductive MarkupError where
  /-- Something else stands where `expected` had to stand. -/
  | unexpectedToken (found : String) (expected : Expectation) (place : Position)
  /-- An element is closed under another name than it was opened. -/
  | mismatchedTag (expected found : String) (span : Span)
  /-- The text ends inside `construct`. -/
  | unterminated (construct : Construct) (line : Nat)
  /-- A reference names no character. -/
  | invalidReference (reference : String) (line : Nat)
  /-- A start tag gives two attributes the same name. -/
  | duplicateAttribute (name : String) (span : Span)
  /-- The text holds no element. -/
  | missingRoot
  /-- Something other than comments and the like follows the root element. -/
  | trailingContent (line : Nat)
  /-- The text ends where something had to stand. -/
  | unexpectedEnd
  /-- Elements stand inside one another more than `limit` deep. -/
  | nestedTooDeep (limit line : Nat)
  deriving DecidableEq, Repr

namespace MarkupError

/-- The wording of the error. -/
def message : MarkupError → String
  | unexpectedToken found expected place =>
    s!"Unexpected token at line {place.line}, column {place.column}: "
      ++ "expected " ++ expected.describe ++ ", found " ++ Text.quoted found
  | mismatchedTag expected found span =>
    s!"Mismatched closing tag at line {span.line}: "
      ++ "expected </" ++ expected ++ ">, found </" ++ found ++ ">"
  | unterminated construct line =>
    "Unterminated " ++ construct.describe ++ s!" starting at line {line}"
  | invalidReference reference line =>
    "Invalid entity reference '&" ++ reference ++ s!";' at line {line}"
  | duplicateAttribute name span =>
    "Duplicate attribute '" ++ name ++ s!"' at line {span.line}"
  | missingRoot => "Document has no root element"
  | trailingContent line =>
    s!"Unexpected content after the root element at line {line}"
  | unexpectedEnd => "Unexpected end of input"
  | nestedTooDeep limit line =>
    s!"Elements nested deeper than {limit} levels at line {line}"

/-- The stretch of text that the error is about, for the errors that name one. -/
def span? : MarkupError → Option Span
  | mismatchedTag _ _ span | duplicateAttribute _ span => some span
  | _ => none

end MarkupError

end ViewAccessors.Markup
