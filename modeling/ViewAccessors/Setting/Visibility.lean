import ViewAccessors.Setting.Language

/-!
# The visibility of generated members
-/

namespace ViewAccessors

/-- Who may use a generated member. -/
inductive Visibility where
  | everyone
  | ownClass
  | derivedClasses
  | ownAssembly
  deriving DecidableEq, Repr

namespace Visibility

instance : Inhabited Visibility :=
  ⟨ownClass⟩

/-- The words for the visibilities, in lower case. -/
def words : List (String × Visibility) :=
  [("public", everyone), ("private", ownClass), ("protected", derivedClasses),
    ("internal", ownAssembly), ("friend", ownAssembly), ("notpublic", ownAssembly)]

/-- Reads a visibility in any letter case and with blanks around it. -/
def ofText? (text : String) : Option Visibility :=
  words.lookup (lowered text)

/-- Reads a visibility, and reports a text that is none. -/
def ofText (text : String) : Except UnknownValue Visibility :=
  match ofText? text with
  | some visibility => .ok visibility
  | none => .error ⟨.visibility, text⟩

/-- The keyword for the visibility. -/
def keyword (visibility : Visibility) (language : Language) : String :=
  match language, visibility with
  | .csharp, everyone => "public"
  | .csharp, ownClass => "private"
  | .csharp, derivedClasses => "protected"
  | .csharp, ownAssembly => "internal"
  | .visualBasic, everyone => "Public"
  | .visualBasic, ownClass => "Private"
  | .visualBasic, derivedClasses => "Protected"
  | .visualBasic, ownAssembly => "Friend"

/-- The visibility as options spell it. -/
def toText (visibility : Visibility) : String :=
  visibility.keyword .csharp

end Visibility

end ViewAccessors
