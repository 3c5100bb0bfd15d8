import ViewAccessors.Text.Split

/-!
# Indenting texts

Indenting puts spaces before every line of a text.  Lines of blanks become
empty, so that no line ends with the spaces.
-/

namespace ViewAccessors.Text

/-- One line behind `width` spaces, or nothing if the line is blank. -/
def indentLine
    (width : Nat)
    (line : List Char) :
    List Char :=
  if line.all isBlank then [] else List.replicate width ' ' ++ line

/-- The lines of a text, each indented, with line feeds between them. -/
def indent
    (width : Nat)
    (text : List Char) :
    List Char :=
  ['\n'].intercalate ((lines text).map (indentLine width))

end ViewAccessors.Text
