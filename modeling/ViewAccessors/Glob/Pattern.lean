import ViewAccessors.Glob.CharacterClass
import ViewAccessors.Text.Split

/-!
# Patterns

A pattern is written with stars, question marks, character classes in
brackets, and characters that stand for themselves.  Reading it from left to
right gives a list of items; the only texts that are no patterns are those
with a faulty character class.
-/

namespace ViewAccessors.Glob

/-- Why a text is not a pattern. -/
inductive Fault where
  | unterminatedClass
  | invalidRange (low high : Char)
  deriving DecidableEq, Repr

namespace Fault

/-- The fault as messages name it. -/
def describe : Fault → String
  | unterminatedClass => "unterminated character class"
  | invalidRange low high =>
    "invalid range " ++ String.ofList [low] ++ "-" ++ String.ofList [high]

end Fault

/-- What one part of a pattern stands for. -/
inductive Item where
  /-- One character of the class. -/
  | one (chars : CharacterClass)
  /-- Any number of characters of the class. -/
  | run (chars : CharacterClass)
  /-- Nothing, or any number of characters other than line feeds and then a slash. -/
  | directories
  deriving DecidableEq, Repr

namespace Item

/-- A star: a run inside one segment of a path. -/
def insideSegment : Item :=
  .run (.allBut '/')

/-- Two stars: a run across segments, but inside one line. -/
def acrossSegments : Item :=
  .run (.allBut '\n')

/-- A question mark: one character of a segment. -/
def anyOne : Item :=
  .one (.allBut '/')

/-- A character that stands for itself. -/
def exactly (character : Char) : Item :=
  .one (.only character)

end Item

/--
Reads the members of a class: ranges, written with a hyphen between their
ends, and single characters.
-/
def readMembers : List Char → Except Fault (List CharacterRange)
  | [] => .ok []
  | low :: '-' :: high :: rest =>
    if high < low then
      .error (.invalidRange low high)
    else
      (readMembers rest).map (⟨low, high⟩ :: ·)
  | single :: rest => (readMembers rest).map (⟨single, single⟩ :: ·)

/--
Cuts a class off the text after its opening bracket and its negation mark.
The first character is a member, even if it is a closing bracket.
-/
def cutClass? : List Char → Option (List Char × List Char)
  | [] => none
  | first :: rest =>
    (Text.splitFirst ']' rest).map fun (members, after) => (first :: members, after)

/-- Whether the text after an opening bracket begins with a negation mark, and what follows. -/
def cutNegation : List Char → Bool × List Char
  | '!' :: rest => (true, rest)
  | '^' :: rest => (true, rest)
  | text => (false, text)

/-- The class with the given members.  A negated class leaves out the slash as well. -/
def classOf
    (negated : Bool)
    (members : List CharacterRange) :
    CharacterClass :=
  ⟨if negated then ⟨'/', '/'⟩ :: members else members, negated⟩

/-- Reads a class after its opening bracket, and returns it with the text after the class. -/
def readClass (text : List Char) : Except Fault (CharacterClass × List Char) :=
  match cutClass? (cutNegation text).2 with
  | none => .error .unterminatedClass
  | some (members, after) =>
    (readMembers members).map fun ranges => (classOf (cutNegation text).1 ranges, after)

theorem length_cutNegation_le (text : List Char) :
    (cutNegation text).2.length ≤ text.length := by
  unfold cutNegation
  split <;> simp

theorem length_lt_of_cutClass?
    {text members after : List Char}
    (found : cutClass? text = some (members, after)) :
    after.length < text.length := by
  cases text with
  | nil => simp [cutClass?] at found
  | cons first rest =>
    obtain ⟨⟨_, later⟩, cut, same⟩ := Option.map_eq_some_iff.1 found
    have remaining : later = after := congrArg Prod.snd same
    simp [Text.eq_append_of_splitFirst cut, remaining]
    omega

theorem length_lt_of_readClass
    {text after : List Char}
    {chars : CharacterClass}
    (found : readClass text = .ok (chars, after)) :
    after.length < text.length := by
  rw [readClass] at found
  split at found
  · exact absurd found (by simp)
  · rename_i members later cut
    have shorter := length_lt_of_cutClass? cut
    have notLonger := length_cutNegation_le text
    cases read : readMembers members with
    | error fault => simp [read, Except.map] at found
    | ok ranges =>
      simp only [read, Except.map, Except.ok.injEq, Prod.mk.injEq] at found
      obtain ⟨-, rfl⟩ := found
      omega

/-- Reads the items of a pattern. -/
def readItems (pattern : List Char) : Except Fault (List Item) :=
  match pattern with
  | [] => .ok []
  | '*' :: '*' :: '/' :: rest => (readItems rest).map (.directories :: ·)
  | '*' :: '*' :: rest => (readItems rest).map (.acrossSegments :: ·)
  | '*' :: rest => (readItems rest).map (.insideSegment :: ·)
  | '?' :: rest => (readItems rest).map (.anyOne :: ·)
  | '[' :: rest =>
    match _read : readClass rest with
    | .error fault => .error fault
    | .ok (chars, after) => (readItems after).map (.one chars :: ·)
  | character :: rest => (readItems rest).map (.exactly character :: ·)
termination_by pattern.length
decreasing_by
  all_goals simp only [List.length_cons]
  all_goals try have := length_lt_of_readClass _read
  all_goals omega

end ViewAccessors.Glob
