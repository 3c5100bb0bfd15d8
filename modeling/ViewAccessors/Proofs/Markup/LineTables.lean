import Mathlib.Data.List.TakeWhile
import ViewAccessors.Proofs.Markup.Slices

/-!
# Looking positions up

The line of an offset is found by halving the table of the beginnings of
lines, and its column by cutting the line out of the text.  Both steps can go
wrong: no line may begin before the offset, and the ends of the line may not
stand between characters.  They go right for every offset between two
characters of the text.

The line and the column are told in 32 bits.  In a text whose bytes can be
counted in 32 bits they are those to which reading the text leads, with two
exceptions: the end of a text of as many bytes as possible has no such line
number if all of them are line feeds, and no such column if they are
characters of a single line.
-/

namespace ViewAccessors.Markup

/-! ## The order of positions -/

namespace Position

/-- The place stands on an earlier line, or further left on the same line. -/
def Precedes (first second : Position) : Prop :=
  first.line < second.line ∨ first.line = second.line ∧ first.column < second.column

theorem precedes_irrefl (place : Position) : ¬ place.Precedes place := by
  unfold Precedes
  omega

theorem Precedes.trans
    {first second third : Position}
    (early : first.Precedes second)
    (late : second.Precedes third) :
    first.Precedes third := by
  unfold Precedes at *
  omega

theorem precedes_step
    (place : Position)
    (character : Char) :
    place.Precedes (place.step character) := by
  by_cases lineFeed : character = '\n'
  · simp [Precedes, step, lineFeed]
  · simp [Precedes, step, lineFeed]

/-- Every character that is passed leads to a later place. -/
theorem precedes_after
    (place : Position)
    {text : List Char}
    (nonempty : text ≠ []) :
    place.Precedes (place.after text) := by
  induction text generalizing place with
  | nil => exact absurd rfl nonempty
  | cons character text hypothesis =>
      have stepped := place.precedes_step character
      rw [after_cons]
      by_cases last : text = []
      · rwa [last]
      · exact stepped.trans (hypothesis _ last)

/-- A place is determined by the text before it. -/
theorem IsBehind.eq_after
    {place : Position}
    {before : List Char}
    (behind : place.IsBehind before) :
    place = start.after before := by
  rcases place with ⟨offset, line, column⟩
  rcases behind with ⟨rfl, rfl, rfl⟩
  have reached := isBehind_after before
  rw [← reached.offset, ← reached.line, ← reached.column]

section

variable
    {text before longer : List Char}
    {place other : Position}

/-- Of two places in a text the one with the smaller offset precedes the other. -/
theorem precedes_of_offset_lt
    (within : before <+: text)
    (longerWithin : longer <+: text)
    (behind : place.IsBehind before)
    (otherBehind : other.IsBehind longer)
    (less : place.offset < other.offset) :
    place.Precedes other := by
  rcases List.prefix_or_prefix_of_prefix within longerWithin with ⟨rest, rfl⟩ | ⟨rest, rfl⟩
  · have nonempty : rest ≠ [] := by
      rintro rfl
      rw [behind.offset, otherBehind.offset, List.append_nil] at less
      exact Nat.lt_irrefl _ less
    rw [behind.eq_after, otherBehind.eq_after, after_append]
    exact precedes_after _ nonempty
  · have notLess := offset_le_after other rest
    rw [otherBehind.eq_after, ← after_append, ← behind.eq_after, ← otherBehind.eq_after] at notLess
    exact absurd less (Nat.not_lt.mpr notLess)

theorem offset_lt_iff_precedes
    (within : before <+: text)
    (longerWithin : longer <+: text)
    (behind : place.IsBehind before)
    (otherBehind : other.IsBehind longer) :
    place.offset < other.offset ↔ place.Precedes other := by
  constructor
  · exact precedes_of_offset_lt within longerWithin behind otherBehind
  · intro precedes
    rcases Nat.lt_trichotomy place.offset other.offset with less | same | greater
    · exact less
    · have alike : place = other := by
        have found := LineTable.position_ofText within behind
        rw [same, LineTable.position_ofText longerWithin otherBehind] at found
        exact found.symm
      exact absurd (alike ▸ precedes) (precedes_irrefl other)
    · have reversed := precedes_of_offset_lt longerWithin within otherBehind behind greater
      exact absurd (precedes.trans reversed) (precedes_irrefl place)

end

theorem length_le_utf8ByteSize (text : List Char) :
    text.length ≤ (String.ofList text).utf8ByteSize := by
  induction text with
  | nil => exact Nat.zero_le _
  | cons character text hypothesis =>
      have size := character.utf8Size_pos
      rw [utf8ByteSize_cons, List.length_cons]
      omega

end Position

/-! ## Halving -/

/--
The first index from `low` on that does not belong to `member`, or `high`, if
the indexes that belong come first.  It is found by halving.
-/
def partitionPoint
    (member : Nat → Bool)
    (low high : Nat) :
    Nat :=
  if low < high then
    let middle := (low + high) / 2
    if member middle then partitionPoint member (middle + 1) high
    else partitionPoint member low middle
  else
    low
termination_by high - low

/-- Halving finds the index up to which all indexes belong to `member`. -/
theorem partitionPoint_eq
    {member : Nat → Bool}
    {low high point : Nat}
    (above : low ≤ point)
    (below : point ≤ high)
    (partitioned : ∀ index < high, member index = true ↔ index < point) :
    partitionPoint member low high = point := by
  fun_induction partitionPoint member low high with
  | case1 low high shrinks middle isMember hypothesis =>
      have inside : middle < high := by omega
      exact hypothesis ((partitioned middle inside).mp isMember) below partitioned
  | case2 low high shrinks middle noMember hypothesis =>
      have inside : middle < high := by omega
      have behind : point ≤ middle := by
        rw [← Nat.not_lt, ← partitioned middle inside]
        exact noMember
      exact hypothesis above behind fun index early => partitioned index (by omega)
  | case3 low high done => omega

/-! ## Lines and columns in 32 bits -/

/-- A line and a column as they are reported, both counted from one. -/
structure Coordinates where
  line : UInt32
  column : UInt32
  deriving DecidableEq, Repr

namespace Coordinates

/--
The coordinates for the index of a line and for a column, both of which are
cut down to 32 bits.  The line is one more than the index.  If there is no such
number, the line begins again at zero, or there are no coordinates where
overflows are checked.
-/
def ofIndex?
    (checked : Bool)
    (index column : Nat) :
    Option Coordinates :=
  let line := UInt32.ofNat index + 1
  if checked ∧ line = 0 then none else some ⟨line, UInt32.ofNat column⟩

/-- The coordinates are the line and the column of a place. -/
structure Tell
    (found : Coordinates)
    (place : Position) :
    Prop where
  line : found.line.toNat = place.line
  column : found.column.toNat = place.column

theorem toNat_ofNat_add_one
    {index : Nat}
    (fits : index + 1 < UInt32.size) :
    (UInt32.ofNat index + 1).toNat = index + 1 := by
  rw [UInt32.toNat_add, UInt32.toNat_ofNat_of_lt' (Nat.lt_of_succ_lt fits)]
  exact Nat.mod_eq_of_lt fits

/-- Coordinates are exact if and only if both numbers fit into 32 bits. -/
theorem exists_ofIndex?_tell_iff
    {checked : Bool}
    {index : Nat}
    {place : Position}
    (line : place.line = index + 1) :
    (∃ found, ofIndex? checked index place.column = some found ∧ found.Tell place) ↔
      place.line < UInt32.size ∧ place.column < UInt32.size := by
  constructor
  · rintro ⟨found, -, tells⟩
    rw [← tells.line, ← tells.column]
    exact ⟨found.line.toNat_lt_size, found.column.toNat_lt_size⟩
  · rintro ⟨lineFits, columnFits⟩
    rw [line] at lineFits
    have exactLine := toNat_ofNat_add_one lineFits
    have nonzero : ¬ (checked = true ∧ UInt32.ofNat index + 1 = 0) := by
      rintro ⟨-, zero⟩
      rw [zero] at exactLine
      exact Nat.succ_ne_zero index exactLine.symm
    refine ⟨_, if_neg nonzero, ?_, UInt32.toNat_ofNat_of_lt' columnFits⟩
    rw [line]
    exact exactLine

/-- Exact coordinates are in the order of their places. -/
theorem Tell.precedes_iff
    {found other : Coordinates}
    {place later : Position}
    (tells : found.Tell place)
    (otherTells : other.Tell later) :
    (found.line < other.line ∨
      found.line = other.line ∧ found.column < other.column) ↔ place.Precedes later := by
  simp only [UInt32.lt_iff_toNat_lt, ← UInt32.toNat_inj, tells.line, tells.column,
    otherTells.line, otherTells.column]
  rfl

end Coordinates

/--
There are as many characters as 32 bits can count, and either each of them
ends a line or none does.
-/
def Overflows (before : List Char) : Prop :=
  before.length + 1 = UInt32.size ∧
    ((∀ character ∈ before, character = '\n') ∨ '\n' ∉ before)

section

variable
    {before : List Char}
    (short : before.length < UInt32.size)

include short

theorem line_fits_iff :
    1 + before.count '\n' < UInt32.size ↔
      ¬ (before.length + 1 = UInt32.size ∧ ∀ character ∈ before, character = '\n') := by
  have bound : before.count '\n' ≤ before.length := List.count_le_length
  have all : (∀ character ∈ before, character = '\n') ↔
      before.count '\n' = before.length := by
    rw [List.count_eq_length]
    simp only [eq_comm]
  rw [all]
  omega

theorem column_fits_iff :
    1 + (before.reverse.takeWhile (· ≠ '\n')).length < UInt32.size ↔
      ¬ (before.length + 1 = UInt32.size ∧ '\n' ∉ before) := by
  have sublist := List.takeWhile_sublist (· ≠ '\n') (l := before.reverse)
  have bound := sublist.length_le
  have none : '\n' ∉ before ↔
      (before.reverse.takeWhile (· ≠ '\n')).length = before.reverse.length := by
    rw [sublist.length_eq, List.takeWhile_eq_self_iff]
    constructor
    · intro absent character member
      rw [decide_eq_true_iff]
      rintro rfl
      exact absent (List.mem_reverse.mp member)
    · intro differs member
      exact of_decide_eq_true (differs _ (List.mem_reverse.mpr member)) rfl
  rw [List.length_reverse] at bound none
  rw [none]
  omega

/-- The line and the column of a place fit into 32 bits with those two exceptions. -/
theorem Position.IsBehind.fits_iff
    {place : Position}
    (behind : place.IsBehind before) :
    (place.line < UInt32.size ∧ place.column < UInt32.size) ↔ ¬ Overflows before := by
  rw [behind.line, behind.column, line_fits_iff short, column_fits_iff short, Overflows,
    and_or_left, not_or]

end

/-! ## Looking up -/

namespace LineTable

/--
The coordinates of an offset: on the last line that does not begin behind it,
as many columns to the right as there are characters from the beginning of
this line.  There are none if every line begins behind the offset, or if the
line cannot be cut out of the text.
-/
def lookUp?
    (checked : Bool)
    (text : List Char)
    (offset : Nat) :
    Option Coordinates := do
  let starts := (ofText text).starts
  let lines := partitionPoint (fun index => starts[index]?.any (· ≤ offset)) 0 starts.length
  if lines = 0 then
    none
  else
    let start ← starts[lines - 1]?
    let line ← slice? text start offset
    Coordinates.ofIndex? checked (lines - 1) (line.length + 1)

/-- The lines that do not begin behind a place in the text are the lines of the text before it. -/
theorem start_le_iff
    (before after : List Char)
    {index : Nat}
    (inside : index < (ofText (before ++ after)).starts.length) :
    (ofText (before ++ after)).starts[index] ≤ (String.ofList before).utf8ByteSize ↔
      index < (ofText before).starts.length := by
  have whole := starts_append before after
  by_cases early : index < (ofText before).starts.length
  · have member : (ofText (before ++ after)).starts[index] ∈ (ofText before).starts := by
      simp only [whole, List.getElem_append_left early, List.getElem_mem]
    exact iff_of_true (start_le_of_mem_starts member) early
  · have member : (ofText (before ++ after)).starts[index] ∈
        startsAmong (indexed (String.ofList before).utf8ByteSize after) := by
      simp only [whole, List.getElem_append_right (Nat.not_lt.mp early), List.getElem_mem]
    exact iff_of_false (Nat.not_le.mpr (bounds_of_mem_startsAmong member).1) early

/-- A text is cut at the beginning of its last line. -/
theorem exists_lastLine (text : List Char) :
    ∃ before line, text = before ++ line ∧
      (String.ofList before).utf8ByteSize = lastStart text ∧
        line.length = (text.reverse.takeWhile (· ≠ '\n')).length := by
  induction text using List.reverseRecOn with
  | nil => exact ⟨[], [], rfl, rfl, rfl⟩
  | append_singleton text character hypothesis =>
      by_cases lineFeed : character = '\n'
      · subst lineFeed
        refine ⟨text ++ ['\n'], [], (List.append_nil _).symm, ?_, by simp⟩
        rw [lastStart_append_lineFeed, String.ofList_append, String.utf8ByteSize_append]
        rfl
      · rcases hypothesis with ⟨before, line, whole, starts, columns⟩
        refine ⟨before, line ++ [character], ?_, ?_, ?_⟩
        · rw [whole, List.append_assoc]
        · rw [lastStart_append_of_ne text lineFeed, starts]
        · simp [lineFeed, columns]

/-- What is looked up for a place is told by the text before it. -/
theorem lookUp?_eq_ofIndex?
    (checked : Bool)
    {text before : List Char}
    (within : before <+: text) :
    lookUp? checked text (String.ofList before).utf8ByteSize =
      Coordinates.ofIndex? checked (before.count '\n')
        ((before.reverse.takeWhile (· ≠ '\n')).length + 1) := by
  rcases within with ⟨after, rfl⟩
  have counted : (ofText before).starts.length = before.count '\n' + 1 := by
    rw [ofText, List.length_cons, length_startsAmong]
  have notBehind : (ofText before).starts.length ≤ (ofText (before ++ after)).starts.length := by
    rw [starts_append, List.length_append]
    exact Nat.le_add_right _ _
  have halved : partitionPoint
      (fun index => (ofText (before ++ after)).starts[index]?.any
        (· ≤ (String.ofList before).utf8ByteSize)) 0 (ofText (before ++ after)).starts.length =
        (ofText before).starts.length := by
    apply partitionPoint_eq (Nat.zero_le _) notBehind
    intro index inside
    rw [List.getElem?_eq_getElem inside, Option.any_some, decide_eq_true_iff, start_le_iff]
  have start : (ofText (before ++ after)).starts[(ofText before).starts.length - 1]? =
      some (lastStart before) := by
    rw [starts_append, List.getElem?_append_left (by omega), ← List.getLast?_eq_getElem?,
      lastStart, ofText, List.getLast?_cons, List.getLastD_cons, List.getLastD_eq_getLast?]
  rcases exists_lastLine before with ⟨early, line, whole, starts, columns⟩
  have cut : slice? (before ++ after) (lastStart before) (String.ofList before).utf8ByteSize =
      some line :=
    slice?_eq_some_iff.mpr ⟨early, after, by rw [← whole], starts, by rw [← whole]⟩
  have nonzero : (ofText before).starts.length ≠ 0 := by omega
  simp only [lookUp?, halved, if_neg nonzero, start, Option.bind_eq_bind, Option.bind_some, cut]
  rw [counted, columns, Nat.add_sub_cancel]

/-- What is looked up is a place: the offset stands between two characters of the text. -/
theorem exists_prefix_of_lookUp?
    {checked : Bool}
    {text : List Char}
    {offset : Nat}
    {found : Coordinates}
    (looked : lookUp? checked text offset = some found) :
    ∃ before, before <+: text ∧ (String.ofList before).utf8ByteSize = offset := by
  simp only [lookUp?] at looked
  split at looked
  · cases looked
  · simp only [bind, Option.bind_eq_some_iff] at looked
    rcases looked with ⟨start, -, line, cut, -⟩
    rcases slice?_eq_some_iff.mp cut with ⟨before, after, rfl, -, stops⟩
    exact ⟨before ++ line, List.prefix_append _ _, stops⟩

/-- What is looked up is exact if and only if the line and the column fit into 32 bits. -/
theorem exists_tell_iff
    (checked : Bool)
    {text before : List Char}
    (within : before <+: text)
    {place : Position}
    (behind : place.IsBehind before) :
    (∃ found, lookUp? checked text (String.ofList before).utf8ByteSize = some found ∧
      found.Tell place) ↔ place.line < UInt32.size ∧ place.column < UInt32.size := by
  have line : place.line = before.count '\n' + 1 := behind.line.trans (Nat.add_comm _ _)
  have column : place.column = (before.reverse.takeWhile (· ≠ '\n')).length + 1 :=
    behind.column.trans (Nat.add_comm _ _)
  rw [lookUp?_eq_ofIndex? checked within, ← column]
  exact Coordinates.exists_ofIndex?_tell_iff line

theorem utf8ByteSize_replicate
    {character : Char}
    (oneByte : character.utf8Size = 1)
    (count : Nat) :
    (String.ofList (List.replicate count character)).utf8ByteSize = count := by
  induction count with
  | zero => rfl
  | succ count hypothesis =>
      rw [List.replicate_succ, utf8ByteSize_cons, hypothesis, oneByte, Nat.add_comm]

theorem length_lastLine_replicate
    {character : Char}
    (noLineFeed : character ≠ '\n')
    (count : Nat) :
    ((List.replicate count character).reverse.takeWhile (· ≠ '\n')).length = count := by
  rw [List.reverse_replicate, List.takeWhile_replicate, if_pos (decide_eq_true noLineFeed),
    List.length_replicate]

/-- In a text of one line an offset is told as the column before it. -/
theorem lookUp?_replicate
    (checked : Bool)
    {character : Char}
    (oneByte : character.utf8Size = 1)
    (noLineFeed : character ≠ '\n')
    {offset count : Nat}
    (within : offset ≤ count) :
    lookUp? checked (List.replicate count character) offset =
      Coordinates.ofIndex? checked 0 (offset + 1) := by
  have early : List.replicate offset character <+: List.replicate count character := by
    rw [List.prefix_replicate_iff, List.length_replicate]
    exact ⟨within, rfl⟩
  have noneCounted : (List.replicate offset character).count '\n' = 0 := by
    rw [List.count_eq_zero, List.mem_replicate]
    exact fun member => noLineFeed member.2.symm
  have looked := lookUp?_eq_ofIndex? checked early
  rwa [utf8ByteSize_replicate oneByte, length_lastLine_replicate noLineFeed, noneCounted] at looked

/--
In a text whose bytes can be counted in 32 bits, the look-up by the offset of
a place gives a line that is one more than the number of line feeds before the
place, and a column that is one more than the number of characters behind the
last of them, unless the place is the end of a text of as many bytes as
possible, which are line feeds or characters of one line.  The numbers are
those to which reading the text leads.  The halving and the cutting succeed at
every place, also at those two, and nowhere else.  Away from them, places with
greater offsets stand on later lines, or further right on the same line, so
that line and column tell the offset.
-/
theorem lookUp?_exactly_at_places
    (checked : Bool)
    {text : List Char}
    (short : (String.ofList text).utf8ByteSize < UInt32.size) :
    (∀ before, before <+: text →
      ((∃ found,
          lookUp? checked text (String.ofList before).utf8ByteSize = some found ∧
            found.line.toNat = 1 + before.count '\n' ∧
              found.column.toNat = 1 + (before.reverse.takeWhile (· ≠ '\n')).length ∧
                found.Tell (Position.start.after before)) ↔
        ¬ Overflows before)) ∧
    (∀ offset,
      (∃ found, lookUp? false text offset = some found) ↔
        ∃ before, before <+: text ∧ (String.ofList before).utf8ByteSize = offset) ∧
    ∀ before longer, before <+: text → longer <+: text →
      ¬ Overflows before → ¬ Overflows longer →
        ∃ found other,
          lookUp? checked text (String.ofList before).utf8ByteSize = some found ∧
            lookUp? checked text (String.ofList longer).utf8ByteSize = some other ∧
              ((String.ofList before).utf8ByteSize < (String.ofList longer).utf8ByteSize ↔
                found.line < other.line ∨
                  found.line = other.line ∧ found.column < other.column) := by
  have shortBefore : ∀ before, before <+: text → before.length < UInt32.size := by
    intro before within
    have bytes := Position.length_le_utf8ByteSize text
    have length := within.length_le
    omega
  have exactly : ∀ before, before <+: text → ¬ Overflows before →
      ∃ found, lookUp? checked text (String.ofList before).utf8ByteSize = some found ∧
        found.Tell (Position.start.after before) := by
    intro before within noOverflow
    have behind := Position.isBehind_after before
    exact (exists_tell_iff checked within behind).mpr
      ((behind.fits_iff (shortBefore before within)).mpr noOverflow)
  refine ⟨?places, ?boundaries, ?order⟩
  case places =>
    intro before within
    have behind := Position.isBehind_after before
    constructor
    · rintro ⟨found, looked, -, -, tells⟩
      exact (behind.fits_iff (shortBefore before within)).mp
        ((exists_tell_iff checked within behind).mp ⟨found, looked, tells⟩)
    · intro noOverflow
      rcases exactly before within noOverflow with ⟨found, looked, tells⟩
      exact ⟨found, looked, tells.line.trans behind.line, tells.column.trans behind.column, tells⟩
  case boundaries =>
    intro offset
    constructor
    · rintro ⟨found, looked⟩
      exact exists_prefix_of_lookUp? looked
    · rintro ⟨before, within, rfl⟩
      rw [lookUp?_eq_ofIndex? false within]
      exact ⟨_, rfl⟩
  case order =>
    intro before longer within longerWithin noOverflow noLongerOverflow
    rcases exactly before within noOverflow with ⟨found, looked, tells⟩
    rcases exactly longer longerWithin noLongerOverflow with ⟨other, otherLooked, otherTells⟩
    have behind := Position.isBehind_after before
    have otherBehind := Position.isBehind_after longer
    refine ⟨found, other, looked, otherLooked, ?_⟩
    rw [tells.precedes_iff otherTells, ← behind.offset, ← otherBehind.offset]
    exact Position.offset_lt_iff_precedes within longerWithin behind otherBehind

/-- Places before and behind a line feed and at the end of a text with an umlaut. -/
theorem lookUp?_exactly_at_places_umlaut :
    let text := ['ü', '\n', 'a', 'ü']
    (String.ofList text).utf8ByteSize < UInt32.size ∧
      ['ü'] <+: text ∧ ¬ Overflows ['ü'] ∧ text <+: text ∧ ¬ Overflows text ∧
      (∃ found, lookUp? true text 6 = some found ∧
        found.line.toNat = 2 ∧ found.column.toNat = 3) ∧
      (∃ found other, lookUp? true text 2 = some found ∧ lookUp? true text 6 = some other ∧
        (2 < 6 ↔
          found.line < other.line ∨
            found.line = other.line ∧ found.column < other.column)) ∧
      lookUp? true text 2 = some ⟨1, 2⟩ ∧ lookUp? true text 3 = some ⟨2, 1⟩ ∧
      lookUp? true text 1 = none ∧ lookUp? true text 7 = none := by
  intro text
  have short : (String.ofList text).utf8ByteSize < UInt32.size := by decide +kernel
  have within : text <+: text := List.prefix_refl text
  have early : ['ü'] <+: text := ⟨['\n', 'a', 'ü'], rfl⟩
  have noOverflow : ¬ Overflows text := fun overflows => absurd overflows.1 (by decide)
  have noEarlyOverflow : ¬ Overflows ['ü'] := fun overflows => absurd overflows.1 (by decide)
  rcases lookUp?_exactly_at_places true short with ⟨places, -, order⟩
  rcases (places text within).mpr noOverflow with ⟨found, looked, line, column, -⟩
  exact ⟨short, early, noEarlyOverflow, within, noOverflow, ⟨found, looked, line, column⟩,
    order ['ü'] text early within noEarlyOverflow noOverflow,
    by decide +kernel, by decide +kernel, by decide +kernel, by decide +kernel⟩

/--
A text of one line with as many characters as 32 bits can count: the column of
its end is none of 32 bits, and it is reported as zero.
-/
theorem lookUp?_overflows_longLine :
    let text := List.replicate 4294967295 'a'
    (String.ofList text).utf8ByteSize = 4294967295 ∧ 4294967295 < UInt32.size ∧
      lookUp? false text 4294967294 = some ⟨1, 4294967295⟩ ∧
      lookUp? true text 4294967294 = some ⟨1, 4294967295⟩ ∧
      lookUp? false text 4294967295 = some ⟨1, 0⟩ ∧
      lookUp? true text 4294967295 = some ⟨1, 0⟩ ∧
      (0 : UInt32).toNat ≠ 1 + (text.reverse.takeWhile (· ≠ '\n')).length ∧
      ¬ ((1 : UInt32) < 1 ∨ (1 : UInt32) = 1 ∧ (4294967295 : UInt32) < 0) := by
  have looked : ∀ checked offset, offset ≤ 4294967295 →
      lookUp? checked (List.replicate 4294967295 'a') offset =
        Coordinates.ofIndex? checked 0 (offset + 1) :=
    fun checked offset within => lookUp?_replicate checked rfl (by decide) within
  have early : 4294967294 ≤ 4294967295 := by decide
  intro text
  refine ⟨utf8ByteSize_replicate rfl _, by decide, ?_, ?_, ?_, ?_, ?_, by decide⟩
  · exact (looked false _ early).trans rfl
  · exact (looked true _ early).trans rfl
  · exact (looked false _ (Nat.le_refl _)).trans rfl
  · exact (looked true _ (Nat.le_refl _)).trans rfl
  · rw [length_lastLine_replicate (by decide)]
    decide

end LineTable

end ViewAccessors.Markup
