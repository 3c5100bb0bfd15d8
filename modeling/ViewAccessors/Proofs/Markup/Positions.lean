import Mathlib.Data.List.Induction
import ViewAccessors.Markup.LineTable

/-!
# Positions and the text before them

A position that is reached by stepping over a text is determined by this text:
its offset is the number of bytes, its line is one more than the number of
line feeds, and its column is one more than the number of characters behind
the last line feed.  A table of the beginnings of lines finds the same
position by its offset.
-/

namespace ViewAccessors.Markup

theorem utf8ByteSize_cons
    (character : Char)
    (text : List Char) :
    (String.ofList (character :: text)).utf8ByteSize =
      character.utf8Size + (String.ofList text).utf8ByteSize := by
  rw [← List.singleton_append, String.ofList_append, String.utf8ByteSize_append,
    ← String.singleton_eq_ofList, String.utf8ByteSize_singleton]

theorem utf8ByteSize_concat
    (text : List Char)
    (character : Char) :
    (String.ofList (text ++ [character])).utf8ByteSize =
      (String.ofList text).utf8ByteSize + character.utf8Size := by
  rw [String.ofList_append, String.utf8ByteSize_append, ← String.singleton_eq_ofList,
    String.utf8ByteSize_singleton]

namespace Position

/-- `place` is the place behind the characters `before`, with which the text begins. -/
structure IsBehind
    (place : Position)
    (before : List Char) :
    Prop where
  offset : place.offset = (String.ofList before).utf8ByteSize
  line : place.line = 1 + before.count '\n'
  column : place.column = 1 + (before.reverse.takeWhile (· ≠ '\n')).length

theorem isBehind_start :
    start.IsBehind [] :=
  ⟨rfl, rfl, rfl⟩

theorem IsBehind.step
    {place : Position}
    {before : List Char}
    (behind : place.IsBehind before)
    (character : Char) :
    (place.step character).IsBehind (before ++ [character]) := by
  have bytes : (String.ofList (before ++ [character])).utf8ByteSize =
      place.offset + character.utf8Size := by
    rw [behind.offset, utf8ByteSize_concat]
  by_cases lineFeed : character = '\n'
  · -- A line feed begins a line of which no character has been passed.
    subst lineFeed
    refine ⟨bytes.symm, ?_, ?_⟩
    · rw [List.count_append, ← Nat.add_assoc, ← behind.line]
      rfl
    · simp [Position.step]
  · refine ⟨?_, ?_, ?_⟩
    · rw [bytes]
      simp [Position.step, lineFeed]
    · simp [Position.step, lineFeed, behind.line]
    · simp [Position.step, lineFeed, behind.column]
      omega

theorem IsBehind.after
    {place : Position}
    {before : List Char}
    (behind : place.IsBehind before)
    (text : List Char) :
    (place.after text).IsBehind (before ++ text) := by
  induction text generalizing place before with
  | nil =>
      rw [List.append_nil]
      exact behind
  | cons character text hypothesis =>
      have stepped := hypothesis (behind.step character)
      rw [List.append_assoc] at stepped
      exact stepped

/-- Stepping over a text from the start leads to the place behind it. -/
theorem isBehind_after (before : List Char) :
    (start.after before).IsBehind before :=
  isBehind_start.after before

/-- Stepping over a text counts its bytes. -/
theorem offset_after
    (place : Position)
    (text : List Char) :
    (place.after text).offset = place.offset + (String.ofList text).utf8ByteSize := by
  induction text generalizing place with
  | nil => rfl
  | cons character text hypothesis =>
      have stepped : (place.step character).offset = place.offset + character.utf8Size := by
        rw [step]
        split <;> rfl
      rw [after_cons, hypothesis, stepped, utf8ByteSize_cons, Nat.add_assoc]

theorem offset_le_after
    (place : Position)
    (text : List Char) :
    place.offset ≤ (place.after text).offset := by
  rw [offset_after]
  exact Nat.le_add_right _ _

theorem offset_lt_after
    (place : Position)
    {text : List Char}
    (nonempty : text ≠ []) :
    place.offset < (place.after text).offset := by
  rcases List.exists_cons_of_ne_nil nonempty with ⟨character, others, rfl⟩
  have size : 0 < character.utf8Size := character.utf8Size_pos
  rw [offset_after, utf8ByteSize_cons]
  omega

end Position

/-! ## Positions that are looked up -/

theorem indexed_append
    (offset : Nat)
    (first second : List Char) :
    indexed offset (first ++ second) =
      indexed offset first ++
        indexed (offset + (String.ofList first).utf8ByteSize) second := by
  induction first generalizing offset with
  | nil => rfl
  | cons character text hypothesis =>
      rw [List.cons_append, indexed, indexed, hypothesis, utf8ByteSize_cons, Nat.add_assoc]
      rfl

/-- The characters of a text stand between its two ends. -/
theorem bounds_of_mem_indexed
    {offset : Nat}
    {text : List Char}
    {entry : Nat × Char}
    (member : entry ∈ indexed offset text) :
    offset ≤ entry.1 ∧
      entry.1 + entry.2.utf8Size ≤ offset + (String.ofList text).utf8ByteSize := by
  induction text generalizing offset with
  | nil => cases member
  | cons character text hypothesis =>
      rw [utf8ByteSize_cons]
      cases member with
      | head =>
          constructor
          · exact Nat.le_refl offset
          · show offset + character.utf8Size ≤ _
            omega
      | tail _ later =>
          have inside := hypothesis later
          constructor <;> omega

namespace LineTable

theorem startsAmong_append (first second : List (Nat × Char)) :
    startsAmong (first ++ second) = startsAmong first ++ startsAmong second := by
  rw [startsAmong, List.filter_append, List.map_append]
  rfl

/-- The lines of a text begin behind its start and not behind its end. -/
theorem bounds_of_mem_startsAmong
    {offset start : Nat}
    {text : List Char}
    (member : start ∈ startsAmong (indexed offset text)) :
    offset < start ∧ start ≤ offset + (String.ofList text).utf8ByteSize := by
  rcases List.mem_map.mp member with ⟨⟨index, character⟩, listed, rfl⟩
  rcases List.mem_filter.mp listed with ⟨inside, isLineFeed⟩
  cases of_decide_eq_true isLineFeed
  have bounds : offset ≤ index ∧ index + 1 ≤ offset + (String.ofList text).utf8ByteSize :=
    bounds_of_mem_indexed inside
  constructor <;> omega

theorem length_startsAmong
    (offset : Nat)
    (text : List Char) :
    (startsAmong (indexed offset text)).length = text.count '\n' := by
  induction text generalizing offset with
  | nil => rfl
  | cons character text hypothesis =>
      have counted := hypothesis (offset + character.utf8Size)
      by_cases lineFeed : character = '\n'
      · simpa [indexed, startsAmong, lineFeed] using counted
      · simpa [indexed, startsAmong, lineFeed] using counted

theorem starts_append (first second : List Char) :
    (ofText (first ++ second)).starts = (ofText first).starts ++
      startsAmong (indexed (String.ofList first).utf8ByteSize second) := by
  rw [ofText, indexed_append, startsAmong_append, Nat.zero_add]
  rfl

theorem start_le_of_mem_starts
    {text : List Char}
    {start : Nat}
    (member : start ∈ (ofText text).starts) :
    start ≤ (String.ofList text).utf8ByteSize := by
  cases member with
  | head => exact Nat.zero_le _
  | tail _ later =>
      have bounds := bounds_of_mem_startsAmong later
      omega

/-- The lines that do not begin behind the end of `before` are the lines of `before`. -/
theorem takeWhile_starts (before after : List Char) :
    (ofText (before ++ after)).starts.takeWhile
        (· ≤ (String.ofList before).utf8ByteSize) =
      (ofText before).starts := by
  rw [starts_append, List.takeWhile_append_of_pos]
  · cases late : startsAmong (indexed (String.ofList before).utf8ByteSize after) with
    | nil => exact List.append_nil _
    | cons start others =>
        have bounds := bounds_of_mem_startsAmong (late ▸ List.mem_cons_self)
        rw [List.takeWhile_cons_of_neg, List.append_nil]
        exact fun within => Nat.not_lt.mpr (of_decide_eq_true within) bounds.1
  · intro start member
    exact decide_eq_true (start_le_of_mem_starts member)

/-- The offset at which the last line of a text begins. -/
def lastStart (text : List Char) : Nat :=
  (ofText text).starts.getLastD 0

theorem lastStart_le (text : List Char) :
    lastStart text ≤ (String.ofList text).utf8ByteSize := by
  rw [lastStart, ofText, List.getLastD_cons]
  exact start_le_of_mem_starts List.getLastD_mem_cons

theorem lastStart_append_lineFeed (text : List Char) :
    lastStart (text ++ ['\n']) = (String.ofList text).utf8ByteSize + 1 := by
  rw [lastStart, starts_append]
  exact List.getLastD_concat

theorem lastStart_append_of_ne
    (text : List Char)
    {character : Char}
    (noLineFeed : character ≠ '\n') :
    lastStart (text ++ [character]) = lastStart text := by
  have noStart : startsAmong (indexed (String.ofList text).utf8ByteSize [character]) = [] := by
    simp [indexed, startsAmong, noLineFeed]
  rw [lastStart, starts_append, noStart, List.append_nil]
  rfl

/-- The last line of a text consists of the characters behind its last line feed. -/
theorem countP_lastStart_le (text : List Char) :
    (indexed 0 text).countP (fun entry => lastStart text ≤ entry.1) =
      (text.reverse.takeWhile (· ≠ '\n')).length := by
  induction text using List.reverseRecOn with
  | nil => rfl
  | append_singleton text character hypothesis =>
      rw [indexed_append, Nat.zero_add, List.countP_append, List.reverse_append]
      by_cases lineFeed : character = '\n'
      · subst lineFeed
        have none : (indexed 0 text).countP (fun entry =>
            (String.ofList text).utf8ByteSize + 1 ≤ entry.1) = 0 := by
          apply List.countP_eq_zero.mpr
          intro entry member
          have bounds := bounds_of_mem_indexed member
          rw [decide_eq_true_iff]
          omega
        rw [lastStart_append_lineFeed, none]
        simp [indexed]
      · rw [lastStart_append_of_ne text lineFeed, hypothesis]
        simp [indexed, lineFeed, lastStart_le text]

/-- A table finds the place to which stepping over the text before it leads. -/
theorem position_ofText
    {text before : List Char}
    (within : before <+: text)
    {place : Position}
    (behind : place.IsBehind before) :
    (ofText text).position place.offset = place := by
  rcases within with ⟨after, rfl⟩
  rcases place with ⟨offset, line, column⟩
  rcases behind with ⟨rfl, rfl, rfl⟩
  have early : (indexed 0 before).countP (fun entry =>
      lastStart before ≤ entry.1 ∧ entry.1 < (String.ofList before).utf8ByteSize) =
        (before.reverse.takeWhile (· ≠ '\n')).length := by
    rw [← countP_lastStart_le]
    apply List.countP_congr
    intro entry member
    have bounds := bounds_of_mem_indexed member
    have size := entry.2.utf8Size_pos
    rw [decide_eq_true_iff, decide_eq_true_iff]
    omega
  have late : (indexed (0 + (String.ofList before).utf8ByteSize) after).countP (fun entry =>
      lastStart before ≤ entry.1 ∧ entry.1 < (String.ofList before).utf8ByteSize) = 0 := by
    apply List.countP_eq_zero.mpr
    intro entry member
    have bounds := bounds_of_mem_indexed member
    rw [decide_eq_true_iff]
    omega
  have lines : (ofText before).starts.length = 1 + before.count '\n' := by
    rw [ofText, List.length_cons, length_startsAmong, Nat.add_comm]
  have column : (ofText (before ++ after)).characters.countP (fun entry =>
      lastStart before ≤ entry.1 ∧ entry.1 < (String.ofList before).utf8ByteSize) =
        (before.reverse.takeWhile (· ≠ '\n')).length := by
    rw [ofText, indexed_append, List.countP_append, early, late, Nat.add_zero]
  rw [position, takeWhile_starts, lines, Nat.add_comm 1 (List.length _), ← column]
  rfl

end LineTable

/-! ## Stretches of text -/

namespace Span

/--
`span` covers the characters `stretch` of a text, behind the characters
`before`.  Its ends stand between characters of the text, and the table of the
lines of the text finds its beginning.
-/
structure Covers
    (span : Span)
    (text before stretch : List Char) :
    Prop where
  within : before ++ stretch <+: text
  start : span.start.IsBehind before
  stop : span.stop.IsBehind (before ++ stretch)
  found : (LineTable.ofText text).position span.start.offset = span.start

theorem covers_after
    {text before stretch : List Char}
    (within : before ++ stretch <+: text) :
    Covers ⟨Position.start.after before, (Position.start.after before).after stretch⟩
      text before stretch where
  within := within
  start := Position.isBehind_after before
  stop := (Position.isBehind_after before).after stretch
  found := by
    apply LineTable.position_ofText _ (Position.isBehind_after before)
    exact (List.prefix_append before stretch).trans within

end Span

end ViewAccessors.Markup
