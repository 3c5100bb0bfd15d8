import ViewAccessors.Proofs.Markup.Slices
import ViewAccessors.Proofs.TypeArguments.Balance

/-!
# Cutting by offset

The parts of type arguments can also be cut out of the text in one pass over
its characters, which keeps the depth, the offset at which the current part
begins and the parts that are complete.  Every part is a slice of the text,
and it would be an error if a slice did not begin and end between characters.
This never happens: the pass finds the parts that are found by recursion, and
it fails for the texts whose parentheses do not pair up and for no others.
-/

namespace ViewAccessors.TypeArguments

open Markup (indexed slice? slice?_eq_some_iff utf8ByteSize_concat)

/-- Why a text is not cut. -/
inductive ScanFault where
  | unbalanced
  /-- A slice does not begin and end between characters. -/
  | brokenSlice
  deriving DecidableEq, Repr

/-- What is known of a text that has been passed in part. -/
structure Scan where
  /-- How many parentheses are open. -/
  depth : Nat
  /-- The offset at which the current part begins. -/
  start : Nat
  /-- The parts before the current one. -/
  parts : List (List Char)
  deriving DecidableEq, Repr

namespace Scan

/-- The current part, if it ends at `stop`. -/
def currentPart
    (text : List Char)
    (scan : Scan)
    (stop : Nat) :
    Except ScanFault (List Char) :=
  (slice? text scan.start stop).elim (.error .brokenSlice) .ok

/-- Passes a character of the text. -/
def pass
    (text : List Char)
    (scan : Scan)
    (entry : Nat × Char) :
    Except ScanFault Scan :=
  if entry.2 = '(' then
    .ok { scan with depth := scan.depth + 1 }
  else if entry.2 = ')' then
    if scan.depth = 0 then .error .unbalanced else .ok { scan with depth := scan.depth - 1 }
  else if entry.2 = ',' ∧ scan.depth = 0 then
    (scan.currentPart text entry.1).map fun part =>
      { scan with start := entry.1 + 1, parts := scan.parts ++ [part] }
  else
    .ok scan

/-- The parts of a text that has been passed. -/
def complete
    (text : List Char)
    (scan : Scan) :
    Except ScanFault (List (List Char)) :=
  if scan.depth = 0 then
    (scan.currentPart text (String.ofList text).utf8ByteSize).map fun part => scan.parts ++ [part]
  else
    .error .unbalanced

end Scan

/-- The parts of a text between the commas outside parentheses, cut by offset. -/
def scanParts (text : List Char) : Except ScanFault (List (List Char)) := do
  let scan ← (indexed 0 text).foldlM (Scan.pass text) ⟨0, 0, []⟩
  scan.complete text

/-! ## What a scan has found -/

theorem intercalate_concat
    (parts : List (List Char))
    (last : List Char) :
    [','].intercalate (parts ++ [last]) = parts.flatMap (· ++ [',']) ++ last := by
  induction parts with
  | nil => simp
  | cons first others hypothesis =>
      rw [List.cons_append, List.intercalate_cons_of_ne_nil (List.concat_ne_nil _ _), hypothesis,
        List.flatMap_cons]
      simp only [List.append_assoc]

namespace Scan

/-- The text before the current part. -/
def front (scan : Scan) : List Char :=
  scan.parts.flatMap (· ++ [','])

/--
The scan tells the parts of the text that has been passed.  The depth is that
of the current part, which has to close before it ends, and that of the whole
text, whose parentheses are the ones that have to pair up.
-/
structure Covers (scan : Scan) (passed : List Char) : Prop where
  start_eq : scan.start = (String.ofList scan.front).utf8ByteSize
  areParts : ∀ part ∈ scan.parts, IsPart part
  current : ∃ current, passed = scan.front ++ current ∧ depthAfterAll? 0 current = some scan.depth
  leavesOpen : LeavesOpen scan.depth passed
  commas : outerCommas passed = scan.parts.length

theorem covers_start : Covers ⟨0, 0, []⟩ [] where
  start_eq := rfl
  areParts := List.forall_mem_nil _
  current := ⟨[], rfl, rfl⟩
  leavesOpen := leavesOpen_nil
  commas := rfl

/--
One character of a text that is scanned: a character that is counted changes
the depth, a comma that is not counted ends the current part, and a
parenthesis that closes nothing ends the scan.
-/
theorem pass_eq
    (text : List Char)
    (scan : Scan)
    (offset : Nat)
    (character : Char) :
    scan.pass text (offset, character) =
      match depthAfter? scan.depth character with
      | some next => .ok { scan with depth := next }
      | none =>
        if character = ',' then
          (scan.currentPart text offset).map fun part =>
            { scan with start := offset + 1, parts := scan.parts ++ [part] }
        else
          .error .unbalanced := by
  rcases scan with ⟨depth, start, parts⟩
  by_cases isOpening : character = '('
  · subst isOpening
    simp [pass, depthAfter?]
  · by_cases isClosing : character = ')'
    · subst isClosing
      cases depth <;> simp [pass, depthAfter?]
    · by_cases isComma : character = ','
      · subst isComma
        cases depth <;> simp [pass, depthAfter?]
      · simp [pass, depthAfter?, isOpening, isClosing, isComma]

section

variable
    {scan : Scan}
    {text passed : List Char}
    {character : Char}

/-- The current part is a slice of the text, wherever it ends. -/
theorem Covers.exists_currentPart
    (covers : scan.Covers passed)
    (within : passed <+: text) :
    ∃ current, scan.currentPart text (String.ofList passed).utf8ByteSize = .ok current ∧
      passed = scan.front ++ current ∧ depthAfterAll? 0 current = some scan.depth := by
  rcases covers.current with ⟨current, rfl, counted⟩
  rcases within with ⟨after, rfl⟩
  have slice : slice? (scan.front ++ current ++ after) scan.start
      (String.ofList (scan.front ++ current)).utf8ByteSize = some current :=
    slice?_eq_some_iff.mpr ⟨scan.front, after, rfl, covers.start_eq.symm, rfl⟩
  exact ⟨current, by rw [currentPart, slice]; rfl, rfl, counted⟩

/-- A character that is counted belongs to the current part. -/
theorem Covers.count
    {next : Nat}
    (covers : scan.Covers passed)
    (counted : depthAfter? scan.depth character = some next) :
    Covers { scan with depth := next } (passed ++ [character]) where
  start_eq := covers.start_eq
  areParts := covers.areParts
  current := by
    rcases covers.current with ⟨current, rfl, earlier⟩
    refine ⟨current ++ [character], List.append_assoc _ _ _, ?_⟩
    rw [depthAfterAll?_append, earlier, Option.bind_some, depthAfterAll?_cons, counted]
    rfl
  leavesOpen := (covers.leavesOpen.counts_iff.mp counted).1
  commas := by
    rw [outerCommas_concat, if_neg (covers.leavesOpen.counts_iff.mp counted).2, covers.commas,
      Nat.add_zero]

theorem front_append_part
    (depth start : Nat)
    (part : List Char) :
    front ⟨depth, start, scan.parts ++ [part]⟩ = scan.front ++ part ++ [','] := by
  simp [front]

/-- A comma outside parentheses ends the current part, and the next one begins behind it. -/
theorem Covers.endPart
    {part : List Char}
    (covers : scan.Covers (scan.front ++ part))
    (outside : scan.depth = 0)
    (isPart : IsPart part) :
    Covers
      { scan with
        start := (String.ofList (scan.front ++ part)).utf8ByteSize + 1
        parts := scan.parts ++ [part] }
      (scan.front ++ part ++ [',']) where
  start_eq := by
    rw [front_append_part, utf8ByteSize_concat]
    rfl
  areParts := List.forall_mem_append.mpr ⟨covers.areParts, List.forall_mem_singleton.mpr isPart⟩
  current := ⟨[], by rw [front_append_part, List.append_nil], congrArg some outside.symm⟩
  leavesOpen := by
    have balanced := covers.leavesOpen
    rw [outside] at balanced ⊢
    exact isBalanced_comma.behind balanced
  commas := by
    have counts := covers.leavesOpen.count_eq
    rw [outside] at counts
    rw [outerCommas_concat, if_pos ⟨rfl, counts⟩, covers.commas, List.length_append,
      List.length_singleton]

/-- The next character is passed unless it closes a parenthesis that is not open. -/
theorem Covers.pass_cases
    (covers : scan.Covers passed)
    (within : passed ++ [character] <+: text) :
    (∃ next, scan.pass text ((String.ofList passed).utf8ByteSize, character) = .ok next ∧
      next.Covers (passed ++ [character])) ∨
    scan.pass text ((String.ofList passed).utf8ByteSize, character) = .error .unbalanced ∧
      (passed ++ [character]).count '(' < (passed ++ [character]).count ')' := by
  rw [pass_eq]
  cases counted : depthAfter? scan.depth character with
  | some next => exact Or.inl ⟨_, rfl, covers.count counted⟩
  | none =>
      rcases depthAfter?_eq_none_iff.mp counted with ⟨outside, rfl | rfl⟩
      · rcases covers.exists_currentPart ((List.prefix_append _ _).trans within) with
          ⟨current, slice, rfl, closes⟩
        simp only [if_pos, slice]
        rw [outside] at closes
        exact Or.inl ⟨_, rfl, covers.endPart outside closes⟩
      · right
        have counts := covers.leavesOpen.count_eq
        refine ⟨rfl, ?_⟩
        rw [List.count_append, List.count_append, counts, outside]
        exact Nat.lt_add_of_pos_right (by decide)

/--
The rest of the text is passed, and the scan tells its parts, unless the
parentheses of the text do not pair up.
-/
theorem Covers.foldlM_pass_cases
    {rest : List Char}
    (covers : scan.Covers passed)
    (whole : passed ++ rest = text) :
    (∃ last, (indexed (String.ofList passed).utf8ByteSize rest).foldlM (Scan.pass text) scan =
      .ok last ∧ last.Covers text) ∨
    (indexed (String.ofList passed).utf8ByteSize rest).foldlM (Scan.pass text) scan =
      .error .unbalanced ∧ ¬ IsBalanced text := by
  -- What has been passed grows by the character that the rest loses.
  induction rest generalizing scan passed with
  | nil =>
      rw [List.append_nil] at whole
      exact Or.inl ⟨scan, rfl, whole ▸ covers⟩
  | cons character rest hypothesis =>
      have further : passed ++ [character] ++ rest = text := by
        rw [← whole, List.append_assoc, List.singleton_append]
      have within : passed ++ [character] <+: text := ⟨rest, further⟩
      rw [indexed, List.foldlM_cons, ← utf8ByteSize_concat]
      rcases covers.pass_cases within with ⟨next, found, coversNext⟩ | ⟨failed, more⟩
      · rw [found]
        exact hypothesis coversNext further
      · rw [failed]
        exact Or.inr ⟨rfl, (not_isBalanced_iff text).mpr (Or.inl ⟨_, within, more⟩)⟩

/-- Behind the whole text the current part is the last one. -/
theorem Covers.complete_cases
    (covers : scan.Covers text) :
    (∃ parts, scan.complete text = .ok parts ∧ parts? text = some parts ∧
      parts.length = outerCommas text + 1) ∨
    scan.complete text = .error .unbalanced ∧ ¬ IsBalanced text := by
  rw [complete]
  split
  · rename_i outside
    rcases covers.exists_currentPart (List.prefix_refl text) with ⟨last, slice, whole, closes⟩
    rw [outside] at closes
    have areParts : ∀ part ∈ scan.parts ++ [last], IsPart part :=
      List.forall_mem_append.mpr ⟨covers.areParts, List.forall_mem_singleton.mpr closes⟩
    left
    refine ⟨scan.parts ++ [last], by rw [slice]; rfl, ?_, ?_⟩
    · rw [parts?_eq_some_iff, intercalate_concat]
      exact ⟨List.concat_ne_nil _ _, areParts, whole.symm⟩
    · rw [List.length_append, List.length_singleton, covers.commas]
  · rename_i inside
    right
    refine ⟨rfl, fun balanced => inside ?_⟩
    have counts := covers.leavesOpen.count_eq
    rw [balanced.count_eq] at counts
    exact (Nat.add_left_cancel counts).symm

end

end Scan

/-- A text that has parts is balanced, for so are its parts. -/
theorem isBalanced_of_parts?
    {text : List Char}
    {parts : List (List Char)}
    (found : parts? text = some parts) :
    IsBalanced text := by
  rcases (parts?_eq_some_iff text parts).mp found with ⟨-, areParts, rfl⟩
  exact isBalanced_intercalate fun part listed => ((isPart_iff part).mp (areParts part listed)).1

/--
A scan finds the parts of the text, one more than there are commas outside
parentheses, unless the parentheses do not pair up.
-/
theorem scanParts_cases (text : List Char) :
    (∃ parts, scanParts text = .ok parts ∧ parts? text = some parts ∧
      parts.length = outerCommas text + 1) ∨
    scanParts text = .error .unbalanced ∧ ¬ IsBalanced text := by
  rcases Scan.covers_start.foldlM_pass_cases (List.nil_append text) with
    ⟨last, passed, covers⟩ | ⟨failed, unbalanced⟩
  · have completed : scanParts text = last.complete text :=
      congrArg (Except.bind · (Scan.complete text)) passed
    rw [completed]
    exact covers.complete_cases
  · have ended : scanParts text = .error .unbalanced :=
      congrArg (Except.bind · (Scan.complete text)) failed
    exact Or.inr ⟨ended, unbalanced⟩

theorem parts?_eq_none_iff (text : List Char) :
    parts? text = none ↔ ¬ IsBalanced text := by
  constructor
  · intro uncut
    rcases scanParts_cases text with ⟨parts, -, cut, -⟩ | ⟨-, unbalanced⟩
    · rw [uncut] at cut
      cases cut
    · exact unbalanced
  · intro unbalanced
    exact Option.eq_none_iff_forall_ne_some.mpr fun parts found =>
      unbalanced (isBalanced_of_parts? found)

theorem length_of_parts?
    {text : List Char}
    {parts : List (List Char)}
    (found : parts? text = some parts) :
    parts.length = outerCommas text + 1 := by
  rcases scanParts_cases text with ⟨others, -, cut, counted⟩ | ⟨-, unbalanced⟩
  · rw [found] at cut
    cases cut
    exact counted
  · exact absurd (isBalanced_of_parts? found) unbalanced

/-- A scan finds the same parts as the recursion, and all its slices are parts of the text. -/
theorem scanParts_eq (text : List Char) :
    scanParts text = (parts? text).elim (.error .unbalanced) .ok := by
  rcases scanParts_cases text with ⟨parts, scanned, cut, -⟩ | ⟨failed, unbalanced⟩
  · rw [scanned, cut]
    rfl
  · rw [failed, (parts?_eq_none_iff text).mpr unbalanced]
    rfl

/--
A text has no parts exactly if some beginning of it closes more parentheses
than it opens, or if the whole text does not close as many as it opens.  The
parts of any other text are the texts that give it with commas between them,
in which the parentheses pair up and no comma stands outside them, and of
which there is one more than there are commas outside parentheses in the text.
Cutting by offset finds the same parts and fails for no other reason.
-/
theorem parts?_exactly_by_counting (text : List Char) :
    (parts? text = none ↔
      (∃ start, start <+: text ∧ start.count '(' < start.count ')') ∨
        text.count '(' ≠ text.count ')') ∧
    (∀ parts, parts? text = some parts ↔
      [','].intercalate parts = text ∧
        (∀ part ∈ parts, IsBalanced part ∧ outerCommas part = 0) ∧
          parts.length = outerCommas text + 1) ∧
    scanParts text = (parts? text).elim (.error .unbalanced) .ok := by
  refine ⟨?uncut, fun parts => ⟨?soundness, ?completeness⟩, scanParts_eq text⟩
  case uncut =>
    rw [parts?_eq_none_iff, not_isBalanced_iff]
  case soundness =>
    intro found
    rcases (parts?_eq_some_iff text parts).mp found with ⟨-, areParts, whole⟩
    exact ⟨whole, fun part listed => (isPart_iff part).mp (areParts part listed),
      length_of_parts? found⟩
  case completeness =>
    rintro ⟨whole, areParts, counted⟩
    have nonempty : parts ≠ [] := List.ne_nil_of_length_eq_add_one counted
    exact (parts?_eq_some_iff text parts).mpr
      ⟨nonempty, fun part listed => (isPart_iff part).mpr (areParts part listed), whole⟩

/-- A comma outside parentheses behind a character of two bytes, and one inside. -/
example : scanParts "ü(b, c), d".toList = .ok ["ü(b, c)".toList, " d".toList] := by
  decide +kernel

end ViewAccessors.TypeArguments
