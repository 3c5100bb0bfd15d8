import Mathlib.Data.List.Basic
import ViewAccessors.Glob.Group
import ViewAccessors.Proofs.ClassNames
import ViewAccessors.Proofs.Outcomes

/-!
# Items of lists

A text can list items between semicolons.  They are the same items with and
without blanks around the text, and a group of globs that is read from the text
has them as its patterns.
-/

namespace ViewAccessors

namespace Text

/-- The text has the trimmed parts between its semicolons as items, except for blank parts. -/
def Lists
    (text : String)
    (items : List String) :
    Prop :=
  ∃ parts : List (List Char), parts ≠ [] ∧ (∀ part ∈ parts, ';' ∉ part) ∧
    text.toList = [';'].intercalate parts ∧
      items = ((parts.map trim).filter (· ≠ [])).map String.ofList

/-- The items are read as the text lists them. -/
theorem lists_iff
    {text : String}
    {items : List String} :
    Lists text items ↔ listItems text = items := by
  have selected : ∀ parts : List (List Char),
      (parts.filterMap fun item => if item.isEmpty then none else some (String.ofList item)) =
        (parts.filter (· ≠ [])).map String.ofList := by
    intro parts
    induction parts with
    | nil => rfl
    | cons part others hypothesis =>
        cases part with
        | nil => simpa using hypothesis
        | cons first characters => simpa using hypothesis
  rw [listItems, selected]
  constructor
  · rintro ⟨parts, nonempty, unbroken, whole, rfl⟩
    rw [whole, List.splitOn_intercalate _ unbroken nonempty]
  · rintro rfl
    exact ⟨text.toList.splitOn ';', List.splitOn_ne_nil _ _, fun _ => notMem_of_mem_splitOn,
      (List.intercalate_splitOn ';').symm, rfl⟩

/-- Blanks around a text belong to its first and its last part, which are trimmed. -/
theorem map_trim_splitOn_surrounded
    {before after : List Char}
    {parts : List (List Char)}
    (blankBefore : before.all isBlank = true)
    (nonempty : parts ≠ [])
    (unbroken : ∀ part ∈ parts, ';' ∉ part)
    (blankAfter : after.all isBlank = true) :
    ((before ++ ([';'].intercalate parts ++ after)).splitOn ';').map trim =
      parts.map trim := by
  have absentBefore : ';' ∉ before := notMem_of_all_isBlank blankBefore rfl
  have absentAfter : ';' ∉ after := notMem_of_all_isBlank blankAfter rfl
  induction parts generalizing before with
  | nil => exact absurd rfl nonempty
  | cons part others hypothesis =>
      have absent := unbroken part List.mem_cons_self
      cases others with
      | nil =>
          have unbrokenWhole : ';' ∉ before ++ (part ++ after) := by
            simp [absentBefore, absent, absentAfter]
          rw [List.intercalate_singleton, List.splitOn_eq_singleton unbrokenWhole,
            List.map_singleton, List.map_singleton, trim_append_append blankBefore part blankAfter]
      | cons second others =>
          have unbrokenFirst : ';' ∉ before ++ part := by
            simp [absentBefore, absent]
          have later := @hypothesis [] rfl (List.cons_ne_nil second others)
            (fun other member => unbroken other (List.mem_cons_of_mem _ member))
            List.not_mem_nil
          have trimmedFirst : trim (before ++ part) = trim part := by
            simpa using @trim_append_append before [] blankBefore part rfl
          have whole : before ++ ([';'].intercalate (part :: second :: others) ++ after) =
              (before ++ part) ++
                ';' :: ([] ++ ([';'].intercalate (second :: others) ++ after)) := by
            simp [List.intercalate_cons_cons]
          rw [whole, List.splitOn_append_cons_self_of_not_mem unbrokenFirst, List.map_cons,
            later, trimmedFirst, List.map_cons (a := part)]

/-- Blanks around a text change none of its items. -/
theorem listItems_trimmed (text : String) :
    listItems (trimmed text) = listItems text := by
  rcases exists_surrounded text.toList with ⟨before, after, blankBefore, blankAfter, whole⟩
  have parted : [';'].intercalate ((trim text.toList).splitOn ';') = trim text.toList :=
    List.intercalate_splitOn ';'
  have same := map_trim_splitOn_surrounded blankBefore
    (List.splitOn_ne_nil ';' (trim text.toList)) (fun _ => notMem_of_mem_splitOn) blankAfter
  rw [parted, ← whole] at same
  rw [listItems, listItems, toList_trimmed, same]

theorem lists_trimmed_iff
    {text : String}
    {items : List String} :
    Lists (trimmed text) items ↔ Lists text items := by
  rw [lists_iff, lists_iff, listItems_trimmed]

end Text

namespace Glob

/-- A group that is read has the patterns from which it is read. -/
theorem Group.patterns_of_ofPatterns
    {patterns : List String}
    {group : Group}
    (read : Group.ofPatterns patterns = .ok group) :
    group.patterns = patterns := by
  rcases map_eq_ok_iff.mp read with ⟨members, readMembers, rfl⟩
  clear read
  induction patterns generalizing members with
  | nil =>
      cases readMembers
      rfl
  | cons pattern others hypothesis =>
      rcases mapM_cons_eq_ok_iff.mp readMembers with ⟨glob, later, readFirst, readLater, rfl⟩
      have written : glob.pattern = pattern :=
        ((ofText_eq_ok_iff pattern glob).mp readFirst).1
      have writtenLater := hypothesis later readLater
      rw [Group.patterns, List.map_cons, written]
      exact congrArg (pattern :: ·) writtenLater

/-- The text lists the patterns, which are also those of the group that is read from it. -/
structure ListsPatterns
    (text : String)
    (patterns : List String) :
    Prop where
  listed : Text.Lists text patterns
  read : Group.ofText text = Group.ofPatterns patterns
  same : ∀ group, Group.ofText text = .ok group → group.patterns = patterns

theorem listsPatterns_iff
    {text : String}
    {patterns : List String} :
    ListsPatterns text patterns ↔ Text.listItems text = patterns := by
  constructor
  · exact fun lists => Text.lists_iff.mp lists.listed
  · rintro rfl
    exact ⟨Text.lists_iff.mpr rfl, rfl, fun group => Group.patterns_of_ofPatterns⟩

theorem listsPatterns_trimmed_iff
    {text : String}
    {patterns : List String} :
    ListsPatterns (Text.trimmed text) patterns ↔ ListsPatterns text patterns := by
  rw [listsPatterns_iff, listsPatterns_iff, Text.listItems_trimmed]

end Glob

end ViewAccessors
