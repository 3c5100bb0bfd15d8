import ViewAccessors.Proofs.Globs.Agreement
import ViewAccessors.Proofs.Globs.Faults

/-!
# Translating patterns by index

A pattern can also be translated by two loops over its characters that look
ahead by index: one for the parts of the pattern and one for the members of a
class.  A class without members is refused by a branch of its own, but the
index of the closing bracket is found in such a way that there is always a
member before it.
-/

namespace ViewAccessors.Glob

open Text

/-- Why a pattern is refused when it is scanned. -/
inductive ScanFault where
  | unterminatedClass
  | emptyClass
  | invalidRange (low high : Char)
  deriving DecidableEq, Repr

/-- The fault of a pattern, as scanning reports it. -/
def Fault.scanned : Fault → ScanFault
  | unterminatedClass => .unterminatedClass
  | invalidRange low high => .invalidRange low high

/-! ## Scanning -/

/-- The first index from `index` on at which a closing bracket stands, or the end of the text. -/
def closingFrom
    (chars : List Char)
    (index : Nat) :
    Nat :=
  if _within : index < chars.length then
    if chars[index] = ']' then index else closingFrom chars (index + 1)
  else
    index

/-- The members of a class from `index` on, translated. -/
def scanMembers
    (members : List Char)
    (index : Nat) :
    Except ScanFault (List Char) :=
  if _within : index < members.length then
    if _ranged : members[index + 1]? = some '-' ∧ index + 2 < members.length then
      if members[index + 2] < members[index] then
        .error (.invalidRange members[index] members[index + 2])
      else
        (scanMembers members (index + 3)).map
          (escaped members[index] ++ '-' :: escaped members[index + 2] ++ ·)
    else
      (scanMembers members (index + 1)).map (escaped members[index] ++ ·)
  else
    .ok []

/-- Whether a class that begins at `start` begins with a mark for negation. -/
def isNegated
    (chars : List Char)
    (start : Nat) :
    Bool :=
  chars[start]? = some '!' || chars[start]? = some '^'

/-- The index of the first member of a class that begins at `start`. -/
def membersIndex
    (chars : List Char)
    (start : Nat) :
    Nat :=
  if isNegated chars start then start + 1 else start

/-- The index at which a class that begins at `start` is closed, or the end of the text. -/
def closingIndex
    (chars : List Char)
    (start : Nat) :
    Nat :=
  closingFrom chars
    (if chars[membersIndex chars start]? = some ']' then membersIndex chars start + 1
      else membersIndex chars start)

/-- The characters between the first member of a class and its closing bracket. -/
def membersOf
    (chars : List Char)
    (start : Nat) :
    List Char :=
  (chars.take (closingIndex chars start)).drop (membersIndex chars start)

/-- The class that begins at `start`, translated, and the index at which it is closed. -/
def scanClass
    (chars : List Char)
    (start : Nat) :
    Except ScanFault (List Char × Nat) :=
  if chars.length ≤ closingIndex chars start then
    .error .unterminatedClass
  else if membersOf chars start = [] then
    .error .emptyClass
  else
    (scanMembers (membersOf chars start) 0).map fun written =>
      ((if isNegated chars start then ['[', '^', '/'] else ['[']) ++ written ++ [']'],
        closingIndex chars start)

theorem le_closingFrom
    (chars : List Char)
    (index : Nat) :
    index ≤ closingFrom chars index := by
  fun_induction closingFrom chars index with
  | case1 index within isClosing => exact Nat.le_refl index
  | case2 index within noClosing hypothesis => exact Nat.le_of_succ_le hypothesis
  | case3 index outside => exact Nat.le_refl index

theorem membersIndex_le_closingIndex
    (chars : List Char)
    (start : Nat) :
    membersIndex chars start ≤ closingIndex chars start := by
  refine Nat.le_trans ?_ (le_closingFrom _ _)
  split_ifs <;> omega

theorem le_closingIndex
    (chars : List Char)
    (start : Nat) :
    start ≤ closingIndex chars start := by
  refine Nat.le_trans ?_ (membersIndex_le_closingIndex chars start)
  rw [membersIndex]
  split_ifs <;> omega

/-- A class that is translated is closed inside the text. -/
theorem bounds_of_scanClass
    {chars written : List Char}
    {start closing : Nat}
    (scanned : scanClass chars start = .ok (written, closing)) :
    start ≤ closing ∧ closing < chars.length := by
  rw [scanClass] at scanned
  split at scanned
  · cases scanned
  · rename_i inside
    split at scanned
    · cases scanned
    · rcases map_eq_ok_iff.mp scanned with ⟨others, -, same⟩
      cases same
      exact ⟨le_closingIndex chars start, Nat.not_le.mp inside⟩

/-- The parts of a pattern from `index` on, translated. -/
def scanParts
    (chars : List Char)
    (index : Nat) :
    Except ScanFault (List Char) :=
  if _within : index < chars.length then
    if chars[index] = '*' then
      if chars[index + 1]? = some '*' then
        if chars[index + 2]? = some '/' then
          (scanParts chars (index + 3)).map (['(', '?', ':', '.', '*', '/', ')', '?'] ++ ·)
        else
          (scanParts chars (index + 2)).map (['.', '*'] ++ ·)
      else
        (scanParts chars (index + 1)).map (['[', '^', '/', ']', '*'] ++ ·)
    else if chars[index] = '?' then
      (scanParts chars (index + 1)).map (['[', '^', '/', ']'] ++ ·)
    else if chars[index] = '[' then
      match _scanned : scanClass chars (index + 1) with
      | .error fault => .error fault
      | .ok (written, closing) => (scanParts chars (closing + 1)).map (written ++ ·)
    else
      (scanParts chars (index + 1)).map (escaped chars[index] ++ ·)
  else
    .ok []
termination_by chars.length - index
decreasing_by
  all_goals try have := bounds_of_scanClass _scanned
  all_goals omega

/-- A pattern as a regular expression that is anchored at both ends. -/
def scan (pattern : List Char) : Except ScanFault (List Char) :=
  (scanParts pattern 0).map fun written => '^' :: written ++ ['$']

/-! ## Indexes behind a beginning of the text -/

/-- What succeeds is changed in the same way before and after the faults are renamed. -/
theorem mapError_map
    (computation : Except Fault (List Char))
    (change : List Char → List Char) :
    (computation.map change).mapError Fault.scanned =
      (computation.mapError Fault.scanned).map change := by
  cases computation <;> rfl

/-- What is found behind every text is found behind one that goes on for a bit. -/
theorem eq_behind
    {Value : Type}
    {findFrom : List Char → Nat → Value}
    {rest : List Char}
    {value : Value}
    (behind : ∀ before, findFrom (before ++ rest) before.length = value)
    (before front : List Char) :
    findFrom (before ++ (front ++ rest)) (before.length + front.length) = value := by
  rw [← List.append_assoc, ← List.length_append]
  exact behind (before ++ front)

section

variable (before rest : List Char)

theorem getElem?_length_add (index : Nat) :
    (before ++ rest)[before.length + index]? = rest[index]? := by
  rw [List.getElem?_append_right (Nat.le_add_right _ _), Nat.add_sub_cancel_left]

theorem getElem?_length :
    (before ++ rest)[before.length]? = rest.head? := by
  rw [← Nat.add_zero before.length, getElem?_length_add, List.head?_eq_getElem?]

theorem closingFrom_length :
    closingFrom (before ++ rest) before.length =
      before.length + (rest.takeWhile (· ≠ ']')).length := by
  induction rest generalizing before with
  | nil => simp [closingFrom]
  | cons character rest hypothesis =>
      have later : closingFrom (before ++ character :: rest) (before.length + 1) =
          before.length + 1 + (rest.takeWhile (· ≠ ']')).length := by
        simpa using hypothesis (before ++ [character])
      rw [closingFrom, dif_pos (by simp)]
      by_cases isClosing : character = ']'
      · simp [isClosing]
      · rw [if_neg (by simpa using isClosing), later,
          List.takeWhile_cons_of_pos (by simpa using isClosing), List.length_cons]
        omega

/-- Members are scanned as they are translated. -/
theorem scanMembers_length :
    scanMembers (before ++ rest) before.length =
      (translateMembers rest).mapError Fault.scanned := by
  fun_induction translateMembers rest generalizing before with
  | case1 =>
      rw [scanMembers, dif_neg (by simp)]
      rfl
  | case2 low high rest reversed =>
      have ranged : (before ++ low :: '-' :: high :: rest)[before.length + 1]? = some '-' ∧
          before.length + 2 < (before ++ low :: '-' :: high :: rest).length := by
        simp
      rw [scanMembers, dif_pos (by simp), dif_pos ranged]
      simp only [List.getElem_append_right, Nat.le_refl, Nat.le_add_right, Nat.sub_self,
        Nat.add_sub_cancel_left, List.getElem_cons_zero, List.getElem_cons_succ, if_pos reversed]
      rfl
  | case3 low high rest ordered hypothesis =>
      have ranged : (before ++ low :: '-' :: high :: rest)[before.length + 1]? = some '-' ∧
          before.length + 2 < (before ++ low :: '-' :: high :: rest).length := by
        simp
      have later : scanMembers (before ++ low :: '-' :: high :: rest) (before.length + 3) =
          (translateMembers rest).mapError Fault.scanned :=
        eq_behind hypothesis before [low, '-', high]
      rw [scanMembers, dif_pos (by simp), dif_pos ranged, later, mapError_map]
      simp only [List.getElem_append_right, Nat.le_refl, Nat.le_add_right, Nat.sub_self,
        Nat.add_sub_cancel_left, List.getElem_cons_zero, List.getElem_cons_succ, if_neg ordered]
  | case4 single rest noRange hypothesis =>
      have later : scanMembers (before ++ single :: rest) (before.length + 1) =
          (translateMembers rest).mapError Fault.scanned :=
        eq_behind hypothesis before [single]
      have unranged : ¬ ((before ++ single :: rest)[before.length + 1]? = some '-' ∧
          before.length + 2 < (before ++ single :: rest).length) := by
        rw [getElem?_length_add, List.length_append]
        rintro ⟨hyphen, inside⟩
        rw [List.getElem?_cons_succ, ← List.head?_eq_getElem?, List.head?_eq_some_iff] at hyphen
        rcases hyphen with ⟨_ | ⟨high, others⟩, rfl⟩
        · simp at inside
        · exact noRange high others rfl
      rw [scanMembers, dif_pos (by simp), dif_neg unranged, later, mapError_map]
      simp only [List.getElem_append_right, Nat.le_refl, Nat.sub_self, List.getElem_cons_zero]

/-! ## Classes -/

theorem isNegated_length :
    isNegated (before ++ rest) before.length = (cutNegation rest).1 := by
  rw [isNegated, getElem?_length]
  unfold cutNegation
  split
  · rfl
  · rfl
  · rename_i noExclamation noCaret
    cases rest with
    | nil => rfl
    | cons first others =>
        have notExclamation : first ≠ '!' := fun same => noExclamation others (by rw [same])
        have notCaret : first ≠ '^' := fun same => noCaret others (by rw [same])
        simp [notExclamation, notCaret]

/-- The members of a class begin behind its mark for negation. -/
theorem exists_membersIndex :
    ∃ mark, rest = mark ++ (cutNegation rest).2 ∧
      membersIndex (before ++ rest) before.length = (before ++ mark).length := by
  rw [membersIndex, isNegated_length]
  unfold cutNegation
  split
  · exact ⟨['!'], rfl, by simp⟩
  · exact ⟨['^'], rfl, by simp⟩
  · exact ⟨[], rfl, by simp⟩

/-- The search for a closing bracket begins behind the first member, or finds it no bracket. -/
theorem closingIndex_length
    {mark members : List Char}
    {first : Char}
    (begins : membersIndex (before ++ rest) before.length = (before ++ mark).length)
    (whole : rest = mark ++ first :: members) :
    closingIndex (before ++ rest) before.length =
      (before ++ mark).length + 1 + (members.takeWhile (· ≠ ']')).length := by
  have text : before ++ rest = before ++ mark ++ first :: members := by
    rw [whole, List.append_assoc]
  rw [closingIndex, begins, text, getElem?_length, List.head?_cons]
  by_cases isBracket : first = ']'
  · subst isBracket
    have later := closingFrom_length (before ++ mark ++ [']']) members
    rw [List.append_assoc _ [']'], List.singleton_append, List.length_append,
      List.length_singleton] at later
    rw [if_pos rfl, later]
  · rw [if_neg (by simpa using isBracket), closingFrom_length,
      List.takeWhile_cons_of_pos (by simpa using isBracket), List.length_cons]
    omega

end

/-- A class that is not closed is refused. -/
theorem scanClass_of_none
    (before : List Char)
    {text : List Char}
    (uncut : cutClass? (cutNegation text).2 = none) :
    scanClass (before ++ text) before.length = .error .unterminatedClass := by
  rcases exists_membersIndex before text with ⟨mark, whole, begins⟩
  rw [cutClass?_eq_none_iff] at uncut
  generalize (cutNegation text).2 = body at uncut whole
  have unclosed : (before ++ text).length ≤ closingIndex (before ++ text) before.length := by
    cases body with
    | nil =>
        rw [whole, List.append_nil, ← begins, whole, List.append_nil]
        exact membersIndex_le_closingIndex _ _
    | cons first rest =>
        rw [List.tail_cons] at uncut
        have all := (takeWhile_append_of_stops (all_ne_of_notMem uncut) (stops_nil _)).1
        rw [List.append_nil] at all
        rw [closingIndex_length before text begins whole, all, whole]
        simp only [List.length_append, List.length_cons]
        omega
  rw [scanClass, if_pos unclosed]

/-- A class that is closed has members, and they are scanned as they are translated. -/
theorem scanClass_of_some
    (before : List Char)
    {text members after : List Char}
    (cut : cutClass? (cutNegation text).2 = some (members, after)) :
    ∃ passed, text = passed ++ ']' :: after ∧
      scanClass (before ++ text) before.length =
        ((translateMembers members).mapError Fault.scanned).map fun written =>
          ((if (cutNegation text).1 then ['[', '^', '/'] else ['[']) ++ written ++ [']'],
            (before ++ passed).length) := by
  rcases exists_membersIndex before text with ⟨mark, whole, begins⟩
  have negated := isNegated_length before text
  generalize (cutNegation text).2 = body at cut whole
  cases body with
  | nil => cases cut
  | cons first rest =>
      rcases Option.map_eq_some_iff.mp cut with ⟨⟨others, later⟩, split, same⟩
      cases same
      rcases splitFirst_eq_some_iff.mp split with ⟨rfl, absent⟩
      have stops : Stops (fun character : Char => decide (character ≠ ']')) (']' :: after) :=
        stops_cons (by decide) after
      have closing : closingIndex (before ++ text) before.length =
          (before ++ (mark ++ first :: others)).length := by
        rw [closingIndex_length before text begins whole,
          (takeWhile_append_of_stops (all_ne_of_notMem absent) stops).1]
        simp only [List.length_append, List.length_cons]
        omega
      have members : membersOf (before ++ text) before.length = first :: others := by
        have parts : before ++ text = before ++ (mark ++ first :: others) ++ ']' :: after := by
          simp [whole]
        rw [membersOf, closing, begins, parts, List.take_left, ← List.append_assoc before,
          List.drop_left]
      have closed : ¬ (before ++ text).length ≤ (before ++ (mark ++ first :: others)).length := by
        simp [whole]
      refine ⟨mark ++ first :: others, by simp [whole], ?_⟩
      rw [scanClass, closing, if_neg closed, members, if_neg (List.cons_ne_nil _ _), negated]
      exact congrArg _ (scanMembers_length [] (first :: others))

theorem scanClass_of_error
    (before : List Char)
    {text : List Char}
    {fault : Fault}
    (failed : translateClass text = .error fault) :
    scanClass (before ++ text) before.length = .error fault.scanned := by
  rw [translateClass] at failed
  split at failed
  · rename_i uncut
    cases failed
    exact scanClass_of_none before uncut
  · rename_i members after cut
    rcases scanClass_of_some before cut with ⟨passed, -, scanned⟩
    rw [scanned, map_eq_error_iff.mp failed]
    rfl

theorem scanClass_of_ok
    (before : List Char)
    {text written after : List Char}
    (translated : translateClass text = .ok (written, after)) :
    ∃ passed, text = passed ++ ']' :: after ∧
      scanClass (before ++ text) before.length = .ok (written, (before ++ passed).length) := by
  rw [translateClass] at translated
  split at translated
  · cases translated
  · rename_i members later cut
    rcases map_eq_ok_iff.mp translated with ⟨others, translatedMembers, same⟩
    cases same
    rcases scanClass_of_some before cut with ⟨passed, whole, scanned⟩
    refine ⟨passed, whole, ?_⟩
    rw [scanned, translatedMembers]
    rfl

/-! ## Patterns -/

/-- The character at an index decides how a pattern goes on from there. -/
theorem scanParts_length_cons
    (before : List Char)
    (character : Char)
    (rest : List Char) :
    scanParts (before ++ character :: rest) before.length =
      if character = '*' then
        if rest[0]? = some '*' then
          if rest[1]? = some '/' then
            (scanParts (before ++ character :: rest) (before.length + 3)).map
              (['(', '?', ':', '.', '*', '/', ')', '?'] ++ ·)
          else
            (scanParts (before ++ character :: rest) (before.length + 2)).map (['.', '*'] ++ ·)
        else
          (scanParts (before ++ character :: rest) (before.length + 1)).map
            (['[', '^', '/', ']', '*'] ++ ·)
      else if character = '?' then
        (scanParts (before ++ character :: rest) (before.length + 1)).map
          (['[', '^', '/', ']'] ++ ·)
      else if character = '[' then
        match scanClass (before ++ character :: rest) (before.length + 1) with
        | .error fault => .error fault
        | .ok (written, closing) =>
          (scanParts (before ++ character :: rest) (closing + 1)).map (written ++ ·)
      else
        (scanParts (before ++ character :: rest) (before.length + 1)).map
          (escaped character ++ ·) := by
  have inside : before.length < (before ++ character :: rest).length := by simp
  have here : (before ++ character :: rest)[before.length] = character := by simp
  rw [scanParts, dif_pos inside, here, getElem?_length_add, getElem?_length_add,
    List.getElem?_cons_succ, List.getElem?_cons_succ]
  congr 3
  split <;> rename_i found <;> rw [found]

/-- Patterns are scanned as they are translated. -/
theorem scanParts_length
    (before rest : List Char) :
    scanParts (before ++ rest) before.length = (translateParts rest).mapError Fault.scanned := by
  fun_induction translateParts rest generalizing before with
  | case1 =>
      rw [scanParts, dif_neg (by simp)]
      rfl
  | case2 rest hypothesis =>
      have later : scanParts (before ++ '*' :: '*' :: '/' :: rest) (before.length + 3) =
          (translateParts rest).mapError Fault.scanned :=
        eq_behind hypothesis before ['*', '*', '/']
      rw [scanParts_length_cons, if_pos rfl, if_pos (by rfl), if_pos (by rfl), later, mapError_map]
  | case3 rest noSlash hypothesis =>
      have later : scanParts (before ++ '*' :: '*' :: rest) (before.length + 2) =
          (translateParts rest).mapError Fault.scanned :=
        eq_behind hypothesis before ['*', '*']
      have slashless : ¬ ('*' :: rest)[1]? = some '/' := by
        rw [List.getElem?_cons_succ, ← List.head?_eq_getElem?, List.head?_eq_some_iff]
        exact fun ⟨others, begins⟩ => noSlash others begins
      rw [scanParts_length_cons, if_pos rfl, if_pos (by rfl), if_neg slashless, later,
        mapError_map]
  | case4 rest noDirectories noStar hypothesis =>
      have later : scanParts (before ++ '*' :: rest) (before.length + 1) =
          (translateParts rest).mapError Fault.scanned :=
        eq_behind hypothesis before ['*']
      have alone : ¬ rest[0]? = some '*' := by
        rw [← List.head?_eq_getElem?, List.head?_eq_some_iff]
        exact fun ⟨others, begins⟩ => noStar others begins
      rw [scanParts_length_cons, if_pos rfl, if_neg alone, later, mapError_map]
  | case5 rest hypothesis =>
      have later : scanParts (before ++ '?' :: rest) (before.length + 1) =
          (translateParts rest).mapError Fault.scanned :=
        eq_behind hypothesis before ['?']
      rw [scanParts_length_cons, if_neg (by decide), if_pos rfl, later, mapError_map]
  | case6 rest fault failed =>
      have scanned : scanClass (before ++ '[' :: rest) (before.length + 1) =
          .error fault.scanned :=
        eq_behind (fun before => scanClass_of_error before failed) before ['[']
      rw [scanParts_length_cons, if_neg (by decide), if_neg (by decide), if_pos rfl, scanned]
      rfl
  | case7 rest written after translated hypothesis =>
      rcases scanClass_of_ok (before ++ ['[']) translated with ⟨passed, rfl, scanned⟩
      have whole : before ++ '[' :: (passed ++ ']' :: after) =
          before ++ ['['] ++ passed ++ ([']'] ++ after) := by
        simp
      have later : scanParts (before ++ '[' :: (passed ++ ']' :: after))
          ((before ++ ['['] ++ passed).length + 1) =
            (translateParts after).mapError Fault.scanned := by
        rw [whole]
        exact eq_behind hypothesis (before ++ ['['] ++ passed) [']']
      have start : (before ++ ['[']).length = before.length + 1 := by
        rw [List.length_append, List.length_singleton]
      rw [List.append_assoc before, List.singleton_append, start] at scanned
      rw [scanParts_length_cons, if_neg (by decide), if_neg (by decide), if_pos rfl, scanned]
      simp only [later, mapError_map]
  | case8 character rest noDirectories noStars noStar noMark noBracket hypothesis =>
      have later : scanParts (before ++ character :: rest) (before.length + 1) =
          (translateParts rest).mapError Fault.scanned :=
        eq_behind hypothesis before [character]
      rw [scanParts_length_cons, if_neg noStar, if_neg noMark, if_neg noBracket, later,
        mapError_map]

/-- Scanning agrees with translation, character by character and fault by fault. -/
theorem scan_eq (pattern : List Char) :
    scan pattern = (translate pattern).mapError Fault.scanned := by
  have parts : scanParts pattern 0 = (translateParts pattern).mapError Fault.scanned :=
    scanParts_length [] pattern
  rw [scan, translate, parts, mapError_map]

theorem scan_of_readItems_eq_error
    {pattern : List Char}
    {fault : Fault}
    (failed : readItems pattern = .error fault) :
    scan pattern = .error fault.scanned := by
  rw [scan_eq, translate, translateParts_eq_error failed]
  rfl

theorem scan_eq_error_iff
    {pattern : List Char}
    {reason : ScanFault} :
    scan pattern = .error reason ↔
      ∃ fault, readItems pattern = .error fault ∧ fault.scanned = reason := by
  cases read : readItems pattern with
  | error fault =>
      rw [scan_of_readItems_eq_error read]
      simp only [Except.error.injEq, exists_eq_left']
  | ok items =>
      rcases ofText?_of_readItems read with ⟨written, translated, -⟩
      rw [scan_eq, translated]
      simp [Except.mapError]

/-- A class that is closed has a member. -/
theorem scan_ne_emptyClass (pattern : List Char) :
    scan pattern ≠ .error .emptyClass := by
  intro failed
  rcases scan_eq_error_iff.mp failed with ⟨fault, -, same⟩
  cases fault <;> cases same

theorem ofText_eq_error_iff
    {pattern : String}
    {invalid : InvalidPattern} :
    Glob.ofText pattern = .error invalid ↔
      invalid.pattern = pattern ∧ readItems pattern.toList = .error invalid.fault := by
  rcases invalid with ⟨own, fault⟩
  rw [Glob.ofText]
  cases readItems pattern.toList with
  | ok items => simp
  | error other =>
      simp only [Except.error.injEq, InvalidPattern.mk.injEq]
      exact and_congr_left fun _ => eq_comm

/--
A text is refused as a pattern exactly if a class of it is faulty, and the
reason is the one of the first such class.  Scanning refuses the same texts
for the same faults, never for a class without members, and the expression
that it writes for any other text can be read and stands for the glob.
-/
theorem ofText_eq_error_iff_firstFault (pattern : String) :
    (∀ reason,
      (∃ invalid, Glob.ofText pattern = .error invalid ∧ invalid.pattern = pattern ∧
        invalid.fault.describe = reason) ↔ FirstFault pattern.toList reason) ∧
    (∀ reason, scan pattern.toList = .error reason ↔
      ∃ invalid, Glob.ofText pattern = .error invalid ∧ invalid.fault.scanned = reason) ∧
    scan pattern.toList ≠ .error .emptyClass ∧
    ∀ written, scan pattern.toList = .ok written →
      ∃ glob, Glob.ofText pattern = .ok glob ∧
        Expression.ofText? written = some (.sequence (glob.items.map Item.expression)) := by
  have failures : ∀ fault, readItems pattern.toList = .error fault ↔
      Glob.ofText pattern = .error ⟨pattern, fault⟩ := by
    intro fault
    rw [ofText_eq_error_iff]
    exact (and_iff_right rfl).symm
  refine ⟨fun reason => ?_, fun reason => ?_, scan_ne_emptyClass _, fun written scanned => ?_⟩
  · rw [firstFault_iff]
    constructor
    · rintro ⟨invalid, failed, -, described⟩
      exact ⟨invalid.fault, (ofText_eq_error_iff.mp failed).2, described⟩
    · rintro ⟨fault, failed, described⟩
      exact ⟨⟨pattern, fault⟩, (failures fault).mp failed, rfl, described⟩
  · rw [scan_eq_error_iff]
    constructor
    · rintro ⟨fault, failed, same⟩
      exact ⟨⟨pattern, fault⟩, (failures fault).mp failed, same⟩
    · rintro ⟨invalid, failed, same⟩
      exact ⟨invalid.fault, (ofText_eq_error_iff.mp failed).2, same⟩
  · cases read : readItems pattern.toList with
    | error fault =>
        rw [scan_of_readItems_eq_error read] at scanned
        cases scanned
    | ok items =>
        rcases ofText?_of_readItems read with ⟨translated, translation, expression⟩
        rw [scan_eq, translation] at scanned
        cases scanned
        exact ⟨⟨pattern, items⟩, (ofText_eq_ok_iff pattern _).mpr ⟨rfl, read⟩, expression⟩

theorem ofText_eq_error_iff_firstFault_brackets :
    FirstFault "**/[]-b]?[^z-a]".toList "invalid range z-a" ∧
      scan "**/[]-b]?[^z-a]".toList = .error (.invalidRange 'z' 'a') ∧
      FirstFault "?[^]".toList "unterminated character class" ∧
      ∃ glob, Glob.ofText "[!]-a&-]*" = .ok glob ∧
        Expression.ofText? "^[^/\\]-a\\&\\-][^/]*$".toList =
          some (.sequence (glob.items.map Item.expression)) := by
  have reversed : Glob.ofText "**/[]-b]?[^z-a]" =
      .error ⟨"**/[]-b]?[^z-a]", .invalidRange 'z' 'a'⟩ := by
    decide +kernel
  have unclosed : Glob.ofText "?[^]" = .error ⟨"?[^]", .unterminatedClass⟩ := by
    decide +kernel
  have written : scan "[!]-a&-]*".toList = .ok "^[^/\\]-a\\&\\-][^/]*$".toList := by
    rw [scan_eq]
    decide +kernel
  refine ⟨?_, ?_, ?_, ?_⟩
  · exact ((ofText_eq_error_iff_firstFault _).1 _).mp ⟨_, reversed, rfl, by decide +kernel⟩
  · exact ((ofText_eq_error_iff_firstFault _).2.1 _).mpr ⟨_, reversed, rfl⟩
  · exact ((ofText_eq_error_iff_firstFault _).1 _).mp ⟨_, unclosed, rfl, rfl⟩
  · exact (ofText_eq_error_iff_firstFault _).2.2.2 _ written

end ViewAccessors.Glob
