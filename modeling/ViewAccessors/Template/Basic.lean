import ViewAccessors.Text.Indent

/-!
# Templates

A template is a list of pieces: texts that stand as they are and slots for
the values of named fields.  A value is inserted as it is, or indented, and
is never read as a template itself.
-/

namespace ViewAccessors

/-- Why a text cannot be made from a template. -/
inductive TemplateError where
  /-- No template has the name. -/
  | notFound (name : String)
  /-- A slot has no value. -/
  | missingField (field : String)
  /-- A slot asks for an operation that is unknown or lacks what it works on. -/
  | inapplicable (operation : String)
  /-- The text is not a template. -/
  | malformed
  deriving DecidableEq, Repr

namespace TemplateError

/-- The wording of the error. -/
def message : TemplateError → String
  | notFound name => "Template not found: " ++ name
  | missingField field => "Template error: no value for " ++ field
  | inapplicable operation => "Template error: cannot apply " ++ operation
  | malformed => "Invalid template"

end TemplateError

/-- One piece of a template. -/
inductive Template.Piece where
  | text (content : String)
  /-- The value of a field. -/
  | value (field : String)
  /-- The value of a field, indented; nothing if the field has no value. -/
  | indented (field : String) (width : Nat)
  /-- An operation that cannot be applied. -/
  | inapplicable (operation : String)
  deriving DecidableEq, Repr

/-- A text with slots for the values of fields. -/
structure Template where
  pieces : List Template.Piece
  deriving DecidableEq, Repr

namespace Template

/-- The values of fields by their names. -/
abbrev Fields := List (String × String)

/-- The text of one piece. -/
def Piece.render
    (fields : Fields) :
    Piece → Except TemplateError String
  | text content => .ok content
  | value field =>
    match fields.lookup field with
    | some content => .ok content
    | none => .error (.missingField field)
  | indented field width =>
    let content := (fields.lookup field).getD ""
    .ok (String.ofList (Text.indent width content.toList))
  | inapplicable operation => .error (.inapplicable operation)

/-- The text of a template.  The first piece without a text is the error. -/
def render
    (template : Template)
    (fields : Fields) :
    Except TemplateError String :=
  (template.pieces.mapM (Piece.render fields)).map String.join

end Template

end ViewAccessors
