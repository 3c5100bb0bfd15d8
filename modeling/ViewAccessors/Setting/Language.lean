import ViewAccessors.Setting.Unknown

/-!
# The languages of generated sources

Sources are written in C# or in Visual Basic.  What the two languages spell
differently inside a type name is kept here.
-/

namespace ViewAccessors

/-- The language of a generated source. -/
inductive Language where
  | csharp
  | visualBasic
  deriving DecidableEq, Repr, Inhabited

namespace Language

/-- The words for the languages, in lower case. -/
def words : List (String × Language) :=
  [("csharp", csharp), ("c#", csharp), ("cs", csharp),
    ("visualbasic", visualBasic), ("vb", visualBasic)]

/-- Reads a language in any letter case and with blanks around it. -/
def ofText (text : String) : Except UnknownValue Language :=
  match words.lookup (lowered text) with
  | some language => .ok language
  | none => .error ⟨.language, text⟩

/-- The language as options spell it. -/
def toText : Language → String
  | csharp => "CSharp"
  | visualBasic => "VisualBasic"

/-- The ending of source file names, without the dot. -/
def extension : Language → String
  | csharp => "cs"
  | visualBasic => "vb"

/-- What stands before a name that begins at the outermost namespace. -/
def globalMark : Language → String
  | csharp => "global::"
  | visualBasic => "Global."

/-- What stands before the type arguments of a generic type. -/
def argumentsOpening : Language → String
  | csharp => "<"
  | visualBasic => "(Of "

/-- What stands after the type arguments of a generic type. -/
def argumentsClosing : Language → String
  | csharp => ">"
  | visualBasic => ")"

end Language

end ViewAccessors
