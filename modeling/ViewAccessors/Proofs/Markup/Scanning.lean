import Mathlib.Data.List.Basic
import ViewAccessors.Markup.Cursor
import ViewAccessors.Proofs.Markup.Characters

/-!
# Scanning a text

What the movements of a cursor do on a text whose parts are known: on a run of
characters of a class that ends there, on a given text, and on a text up to
the first occurrence of a delimiter.
-/

namespace ViewAccessors

namespace Text

/-- A text does not begin with a character of the class. -/
def Stops
    (member : Char → Bool)
    (text : List Char) :
    Prop :=
  ∀ character, text.head? = some character → member character = false

theorem stops_nil (member : Char → Bool) :
    Stops member [] := by
  intro character isHead
  cases isHead

theorem stops_cons
    {member : Char → Bool}
    {character : Char}
    (outside : member character = false)
    (text : List Char) :
    Stops member (character :: text) := by
  intro other isHead
  cases isHead
  exact outside

/-- Characters of one class outside of another stop the latter. -/
theorem stops_append
    {kind member : Char → Bool}
    {run rest : List Char}
    (members : run.all kind = true)
    (outside : ∀ character, kind character = true → member character = false)
    (stops : Stops member rest) :
    Stops member (run ++ rest) := by
  cases run with
  | nil => exact stops
  | cons first others =>
      rw [List.all_cons, Bool.and_eq_true] at members
      exact stops_cons (outside first members.1) _

theorem Stops.head?_any
    {member : Char → Bool}
    {text : List Char}
    (stops : Stops member text) :
    text.head?.any member = false := by
  cases text with
  | nil => rfl
  | cons first others => exact stops first rfl

/-- What does not begin with a character does not begin with a text that does. -/
theorem Stops.dropStart?_eq_none
    {first : Char}
    {text : List Char}
    (stops : Stops (· == first) text)
    (others : List Char) :
    dropStart? (first :: others) text = none := by
  cases text with
  | nil => rfl
  | cons character rest =>
      have different := stops character rfl
      rw [beq_eq_false_iff_ne] at different
      rw [dropStart?, if_neg different.symm]

theorem takeWhile_append_of_stops
    {member : Char → Bool}
    {run rest : List Char}
    (members : run.all member = true)
    (stops : Stops member rest) :
    (run ++ rest).takeWhile member = run ∧ (run ++ rest).dropWhile member = rest := by
  have all := List.all_eq_true.mp members
  rw [List.takeWhile_append_of_pos all, List.dropWhile_append_of_pos all]
  cases rest with
  | nil => simp
  | cons character rest =>
      have outside := stops character rfl
      simp [outside]

theorem stops_dropWhile
    (member : Char → Bool)
    (text : List Char) :
    Stops member (text.dropWhile member) := by
  intro character isHead
  have := List.head?_dropWhile_not member text
  rw [isHead] at this
  simpa using this

/-- A delimiter of which the last character occurs nowhere else in it. -/
def EndsOnce (delimiter : List Char) : Prop :=
  ∃ start last, delimiter = start ++ [last] ∧ last ∉ start

theorem EndsOnce.ne_nil
    {delimiter : List Char}
    (endsOnce : EndsOnce delimiter) :
    delimiter ≠ [] := by
  rcases endsOnce with ⟨start, last, rfl, -⟩
  simp

theorem endsOnce_singleton (character : Char) :
    EndsOnce [character] :=
  ⟨[], character, rfl, List.not_mem_nil⟩

/-- A delimiter that ends once does not begin again before its end. -/
theorem EndsOnce.eq_nil_of_append
    {delimiter early late after rest : List Char}
    (endsOnce : EndsOnce delimiter)
    (split : delimiter = early ++ late)
    (nonempty : late ≠ [])
    (again : delimiter ++ after = late ++ rest) :
    early = [] := by
  rcases endsOnce with ⟨start, last, ends, absent⟩
  -- The last character of the late part is that of the delimiter.
  rcases (List.eq_nil_or_concat' late).resolve_left nonempty with ⟨body, final, rfl⟩
  have sameEnd : start ++ [last] = (early ++ body) ++ [final] := by
    rw [← ends, split, List.append_assoc]
  rcases List.append_inj' sameEnd rfl with ⟨sameStart, sameLast⟩
  cases sameLast
  rcases List.append_eq_append_iff.mp again with ⟨more, longer, -⟩ | ⟨more, shorter, -⟩
  · have lengths := congrArg List.length longer
    simp only [split, List.length_append] at lengths
    exact List.eq_nil_of_length_eq_zero (by omega)
  · cases List.eq_nil_or_concat' more with
    | inl empty =>
        have lengths := congrArg List.length (split.symm.trans shorter)
        rw [empty, List.append_nil, List.length_append] at lengths
        exact List.eq_nil_of_length_eq_zero (by omega)
    | inr extended =>
        -- Otherwise the delimiter holds that character before its end.
        rcases extended with ⟨others, _, rfl⟩
        rw [ends, ← List.append_assoc] at shorter
        refine absurd ?_ absent
        rw [(List.append_inj' shorter rfl).1]
        simp

theorem breakOn_of_dropStart?
    {delimiter text after : List Char}
    (begins : dropStart? delimiter text = some after) :
    breakOn delimiter text = some ([], after) := by
  cases text with
  | nil => rw [breakOn, begins, Option.map_some]
  | cons first rest => rw [breakOn, begins]

/--
A text breaks before a delimiter that does not occur in it, if the delimiter
ends once, so that it cannot begin in the text and end behind it.
-/
theorem breakOn_append
    {delimiter before : List Char}
    (endsOnce : EndsOnce delimiter)
    (absent : ¬ delimiter <:+: before)
    (after : List Char) :
    breakOn delimiter (before ++ (delimiter ++ after)) = some (before, after) := by
  induction before with
  | nil => exact breakOn_of_dropStart? (dropStart?_eq_some_iff.mpr rfl)
  | cons first before hypothesis =>
      rw [List.infix_cons_iff, not_or] at absent
      have notHere : dropStart? delimiter (first :: (before ++ (delimiter ++ after))) = none := by
        rw [Option.eq_none_iff_forall_ne_some]
        intro rest begins
        have same : (first :: before) ++ (delimiter ++ after) = delimiter ++ rest :=
          dropStart?_eq_some_iff.mp begins
        rcases List.append_eq_append_iff.mp same with
          ⟨late, split, again⟩ | ⟨late, split, -⟩
        · by_cases nonempty : late = []
          · rw [nonempty, List.append_nil] at split
            exact absent.1 (split ▸ List.prefix_rfl)
          · cases endsOnce.eq_nil_of_append split nonempty again
        · exact absent.1 ⟨late, split.symm⟩
      rw [List.cons_append, breakOn, notHere, hypothesis absent.2, Option.map_some]

/-- What stands before the first occurrence of a delimiter has no occurrence in it. -/
theorem not_isInfix_of_breakOn
    {delimiter text before after : List Char}
    (nonempty : delimiter ≠ [])
    (broken : breakOn delimiter text = some (before, after)) :
    ¬ delimiter <:+: before := by
  induction text generalizing before with
  | nil =>
      simp only [breakOn, Option.map_eq_some_iff, Prod.mk.injEq] at broken
      rcases broken with ⟨_, -, rfl, -⟩
      simpa using nonempty
  | cons first rest hypothesis =>
      have whole := eq_append_of_breakOn broken
      rw [breakOn] at broken
      split at broken
      · cases broken
        simpa using nonempty
      · rename_i notHere
        rcases Option.map_eq_some_iff.mp broken with ⟨⟨later, _⟩, found, same⟩
        cases same
        rw [List.infix_cons_iff, not_or]
        refine ⟨?_, hypothesis found⟩
        rintro ⟨others, begins⟩
        have isHere : first :: rest = delimiter ++ (others ++ delimiter ++ after) := by
          rw [whole, ← begins]
          simp
        rw [dropStart?_eq_some_iff.mpr isHere] at notHere
        cases notHere

/-- A text that does not break on a delimiter has no occurrence of it. -/
theorem not_isInfix_of_breakOn_eq_none
    {delimiter text : List Char}
    (unbroken : breakOn delimiter text = none) :
    ¬ delimiter <:+: text := by
  have notAtStart : ∀ {text : List Char}, dropStart? delimiter text = none →
      ¬ delimiter <+: text := by
    rintro text absent ⟨rest, rfl⟩
    rw [dropStart?_eq_some_iff.mpr rfl] at absent
    cases absent
  induction text with
  | nil =>
      rw [List.infix_nil, ← List.prefix_nil]
      exact notAtStart (Option.map_eq_none_iff.mp unbroken)
  | cons first rest hypothesis =>
      rw [breakOn] at unbroken
      split at unbroken
      · cases unbroken
      · rename_i absent
        rw [List.infix_cons_iff, not_or]
        exact ⟨notAtStart absent, hypothesis (Option.map_eq_none_iff.mp unbroken)⟩

/-- A text breaks at the first occurrence of a character. -/
theorem breakOn_singleton_iff
    {character : Char}
    {text before after : List Char} :
    breakOn [character] text = some (before, after) ↔
      text = before ++ character :: after ∧ character ∉ before := by
  have isMember : [character] <:+: before ↔ character ∈ before := by
    constructor
    · rintro ⟨early, late, rfl⟩
      simp
    · intro member
      rcases List.append_of_mem member with ⟨early, late, rfl⟩
      exact ⟨early, late, by simp⟩
  rw [← isMember]
  constructor
  · intro broken
    refine ⟨?_, not_isInfix_of_breakOn (List.cons_ne_nil _ _) broken⟩
    simpa using eq_append_of_breakOn broken
  · rintro ⟨rfl, absent⟩
    exact breakOn_append (endsOnce_singleton character) absent after

theorem splitFirst_eq_some_iff
    {separator : Char}
    {text before after : List Char} :
    splitFirst separator text = some (before, after) ↔
      text = before ++ separator :: after ∧ separator ∉ before :=
  breakOn_singleton_iff

theorem splitFirst_eq_none_iff
    (separator : Char)
    (text : List Char) :
    splitFirst separator text = none ↔ separator ∉ text := by
  constructor
  · intro unsplit member
    rcases List.eq_append_cons_of_mem member with ⟨before, after, whole, absent⟩
    rw [splitFirst_eq_some_iff.mpr ⟨whole, absent⟩] at unsplit
    cases unsplit
  · intro absent
    rw [Option.eq_none_iff_forall_ne_some]
    rintro ⟨before, after⟩ split
    rw [(splitFirst_eq_some_iff.mp split).1] at absent
    simp at absent

end Text

namespace Markup.Cursor

open Text

theorem Passes.length_lt
    {cursor later : Cursor}
    {text : List Char}
    (passes : cursor.Passes text later)
    (nonempty : text ≠ []) :
    later.rest.length < cursor.rest.length := by
  have whole := passes.length_eq
  have positive := List.length_pos_iff.mpr nonempty
  omega

theorem pass?_append
    (place : Position)
    (text rest : List Char) :
    (Cursor.mk place (text ++ rest)).pass? text = some ⟨place.after text, rest⟩ :=
  pass?_eq_some_iff.mpr ⟨rfl, rfl⟩

theorem passWhile_append
    (place : Position)
    {member : Char → Bool}
    {run rest : List Char}
    (members : run.all member = true)
    (stops : Stops member rest) :
    (Cursor.mk place (run ++ rest)).passWhile member = (run, ⟨place.after run, rest⟩) := by
  rcases takeWhile_append_of_stops members stops with ⟨taken, dropped⟩
  rw [passWhile, taken, dropped]

theorem passBlanks_append
    (place : Position)
    {blanks rest : List Char}
    (members : blanks.all isBlank = true)
    (stops : Stops isBlank rest) :
    (Cursor.mk place (blanks ++ rest)).passBlanks = ⟨place.after blanks, rest⟩ := by
  rw [passBlanks, passWhile_append place members stops]

theorem all_passWhile
    (cursor : Cursor)
    (member : Char → Bool) :
    (cursor.passWhile member).1.all member = true :=
  List.all_takeWhile

theorem stops_passWhile
    (cursor : Cursor)
    (member : Char → Bool) :
    Stops member (cursor.passWhile member).2.rest :=
  stops_dropWhile member cursor.rest

theorem passThrough?_append
    (place : Position)
    {delimiter before : List Char}
    (endsOnce : EndsOnce delimiter)
    (absent : ¬ delimiter <:+: before)
    (after : List Char) :
    (Cursor.mk place (before ++ (delimiter ++ after))).passThrough? delimiter =
      some (before, ⟨place.after (before ++ delimiter), after⟩) := by
  rw [passThrough?, breakOn_append endsOnce absent, Option.map_some]

theorem not_isInfix_of_passThrough?
    {cursor later : Cursor}
    {delimiter before : List Char}
    (nonempty : delimiter ≠ [])
    (passed : cursor.passThrough? delimiter = some (before, later)) :
    ¬ delimiter <:+: before := by
  rcases Option.map_eq_some_iff.mp passed with ⟨⟨_, _⟩, broken, same⟩
  cases same
  exact not_isInfix_of_breakOn nonempty broken

end Markup.Cursor

end ViewAccessors
