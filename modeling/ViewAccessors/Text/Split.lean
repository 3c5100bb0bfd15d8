import ViewAccessors.Text.Blank

/-!
# Cutting texts

The ways in which a text is cut in two or into parts: at the first occurrence
of a delimiter, at the first or last occurrence of a character, at every line
end, and into the items of a list whose items are separated by semicolons.
-/

namespace ViewAccessors.Text

/-- What follows `start` in a text that begins with it. -/
def dropStart? : (start text : List Char) → Option (List Char)
  | [], text => some text
  | _ :: _, [] => none
  | first :: start, character :: text =>
    if first = character then dropStart? start text else none

theorem dropStart?_eq_some_iff
    {start text rest : List Char} :
    dropStart? start text = some rest ↔ text = start ++ rest := by
  induction start generalizing text with
  | nil => simp [dropStart?, eq_comm]
  | cons first start hypothesis =>
    cases text with
    | nil => simp [dropStart?]
    | cons character text =>
      by_cases same : first = character
      · simp [dropStart?, same, hypothesis]
      · simp [dropStart?, same, Ne.symm same]

/--
The text before the first occurrence of `delimiter` and the text after that
occurrence.
-/
def breakOn
    (delimiter : List Char) :
    List Char → Option (List Char × List Char)
  | [] => (dropStart? delimiter []).map fun after => ([], after)
  | first :: rest =>
    match dropStart? delimiter (first :: rest) with
    | some after => some ([], after)
    | none => (breakOn delimiter rest).map fun (before, after) => (first :: before, after)

/-- A text that breaks on a delimiter is the delimiter between its two parts. -/
theorem eq_append_of_breakOn
    {delimiter text before after : List Char}
    (broken : breakOn delimiter text = some (before, after)) :
    text = before ++ delimiter ++ after := by
  induction text generalizing before with
  | nil =>
    simp only [breakOn, Option.map_eq_some_iff, Prod.mk.injEq] at broken
    obtain ⟨_, found, rfl, rfl⟩ := broken
    simpa using dropStart?_eq_some_iff.1 found
  | cons first rest hypothesis =>
    rw [breakOn] at broken
    split at broken
    · rename_i found
      simp only [Option.some.injEq, Prod.mk.injEq] at broken
      obtain ⟨rfl, rfl⟩ := broken
      simpa using dropStart?_eq_some_iff.1 found
    · simp only [Option.map_eq_some_iff, Prod.mk.injEq] at broken
      obtain ⟨⟨_, _⟩, found, rfl, rfl⟩ := broken
      simp [hypothesis found]

/-- The texts before and after the first `separator`. -/
def splitFirst
    (separator : Char)
    (text : List Char) :
    Option (List Char × List Char) :=
  breakOn [separator] text

/-- A text that splits at a separator is the separator between its two parts. -/
theorem eq_append_of_splitFirst
    {separator : Char}
    {text before after : List Char}
    (split : splitFirst separator text = some (before, after)) :
    text = before ++ separator :: after := by
  simpa using eq_append_of_breakOn split

/-- The texts before and after the last `separator`. -/
def splitLast
    (separator : Char)
    (text : List Char) :
    Option (List Char × List Char) :=
  (splitFirst separator text.reverse).map fun (after, before) =>
    (before.reverse, after.reverse)

/--
The lines of a text.  A line ends before a line feed, or before a carriage
return and the line feed that follows it; text after the last line feed is a
line unless it is empty.
-/
def lines (text : List Char) : List (List Char) :=
  let parts := text.splitOn '\n'
  let ended := parts.dropLast.map fun line =>
    if line.getLast? = some '\r' then line.dropLast else line
  match parts.getLast? with
  | none | some [] => ended
  | some last => ended ++ [last]

/-- No part of a text that is cut at every separator has the separator in it. -/
theorem notMem_of_mem_splitOn
    {separator : Char}
    {text part : List Char}
    (member : part ∈ text.splitOn separator) :
    separator ∉ part := by
  induction text generalizing part with
  | nil =>
      rw [List.splitOn_nil, List.mem_singleton] at member
      rw [member]
      exact List.not_mem_nil
  | cons character text hypothesis =>
      rw [List.splitOn_cons_eq_if_modifyHead] at member
      split at member
      · rcases List.mem_cons.mp member with rfl | later
        · exact List.not_mem_nil
        · exact hypothesis later
      · rename_i noBreak
        cases parts : text.splitOn separator with
        | nil => exact absurd parts (List.splitOn_ne_nil separator text)
        | cons first others =>
            rw [parts, List.modifyHead_cons] at member
            rcases List.mem_cons.mp member with rfl | later
            · intro breaks
              rcases List.mem_cons.mp breaks with rfl | inFirst
              · exact noBreak (beq_self_eq_true _)
              · exact hypothesis (parts ▸ List.mem_cons_self) inFirst
            · exact hypothesis (parts ▸ List.mem_cons_of_mem first later)

/-- The trimmed parts between semicolons that are not blank. -/
def listItems (text : String) : List String :=
  ((text.toList.splitOn ';').map trim).filterMap fun item =>
    if item.isEmpty then none else some (String.ofList item)

end ViewAccessors.Text
