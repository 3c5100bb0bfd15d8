import ViewAccessors.Glob.Matching

/-!
# Globs and groups of globs

A glob is a pattern together with its items.  A group of globs matches a text
if one of its members does, and an empty group matches nothing.
-/

namespace ViewAccessors

/-- A pattern that has been read. -/
structure Glob where
  /-- The pattern as it is written. -/
  pattern : String
  items : List Glob.Item
  deriving DecidableEq, Repr

namespace Glob

/-- A text that is not a pattern, and why. -/
structure InvalidPattern where
  pattern : String
  fault : Fault
  deriving DecidableEq, Repr

namespace InvalidPattern

/-- The wording of the error. -/
def message (invalid : InvalidPattern) : String :=
  "Invalid glob pattern '" ++ invalid.pattern ++ "': " ++ invalid.fault.describe

end InvalidPattern

/-- Reads a pattern. -/
def ofText (pattern : String) : Except InvalidPattern Glob :=
  match readItems pattern.toList with
  | .ok items => .ok ⟨pattern, items⟩
  | .error fault => .error ⟨pattern, fault⟩

theorem ofText_eq_ok_iff
    (pattern : String)
    (glob : Glob) :
    Glob.ofText pattern = .ok glob ↔
      glob.pattern = pattern ∧ readItems pattern.toList = .ok glob.items := by
  rcases glob with ⟨own, items⟩
  rw [Glob.ofText]
  cases readItems pattern.toList with
  | error fault => simp
  | ok others =>
      simp only [Except.ok.injEq, Glob.mk.injEq]
      exact and_congr_left fun _ => eq_comm

/-- Whether the whole text matches. -/
def matchesText
    (glob : Glob)
    (text : String) :
    Bool :=
  matchItems glob.items text.toList

/-- Several globs of which one has to match. -/
structure Group where
  members : List Glob
  deriving DecidableEq, Repr

namespace Group

/-- Reads patterns.  The first text that is no pattern is the error. -/
def ofPatterns (patterns : List String) : Except InvalidPattern Group :=
  (patterns.mapM Glob.ofText).map Group.mk

/-- Reads patterns that are separated by semicolons. -/
def ofText (text : String) : Except InvalidPattern Group :=
  ofPatterns (Text.listItems text)

/-- The patterns as they are written. -/
def patterns (group : Group) : List String :=
  group.members.map Glob.pattern

/-- Whether the group has no members. -/
def isEmpty (group : Group) : Bool :=
  group.members.isEmpty

/-- Whether a member matches the whole text. -/
def matchesText
    (group : Group)
    (text : String) :
    Bool :=
  group.members.any (·.matchesText text)

end Group

end Glob

end ViewAccessors
