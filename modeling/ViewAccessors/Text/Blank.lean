/-!
# Blank characters

Two classes of blanks occur in markup.  `isBlank` is the Unicode property
White_Space; it separates what stands between tags and attributes, and it is
what trimming removes.  `isTagBlank` is the smaller class of the space, the
tab, the carriage return and the line feed, which may surround an equals sign
and precede the end of a closing tag.
-/

namespace ViewAccessors.Text

/-- Whether `character` has the Unicode property White_Space. -/
def isBlank (character : Char) : Bool :=
  let code := character.toNat
  (0x09 ≤ code && code ≤ 0x0D) || code == 0x20 || code == 0x85 || code == 0xA0
    || code == 0x1680 || (0x2000 ≤ code && code ≤ 0x200A) || code == 0x2028
    || code == 0x2029 || code == 0x202F || code == 0x205F || code == 0x3000

/-- Whether `character` is a space, a tab, a carriage return or a line feed. -/
def isTagBlank (character : Char) : Bool :=
  character == ' ' || character == '\t' || character == '\r' || character == '\n'

/-- Every blank of a tag is a blank. -/
theorem isBlank_of_isTagBlank
    {character : Char}
    (tagBlank : isTagBlank character = true) :
    isBlank character = true := by
  simp only [isTagBlank, Bool.or_eq_true, beq_iff_eq] at tagBlank
  rcases tagBlank with ((rfl | rfl) | rfl) | rfl <;> decide

/-- `text` without the blanks at its start. -/
def trimStart (text : List Char) : List Char :=
  text.dropWhile isBlank

/-- `text` without the blanks at its end. -/
def trimEnd (text : List Char) : List Char :=
  (trimStart text.reverse).reverse

/-- `text` without the blanks at either end. -/
def trim (text : List Char) : List Char :=
  trimEnd (trimStart text)

/-- `text` without the blanks at either end. -/
def trimmed (text : String) : String :=
  String.ofList (trim text.toList)

@[simp]
theorem toList_trimmed (text : String) :
    (trimmed text).toList = trim text.toList := by
  simp [trimmed]

end ViewAccessors.Text
