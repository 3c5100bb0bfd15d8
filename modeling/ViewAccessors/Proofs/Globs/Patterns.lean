import ViewAccessors.Glob.Group
import ViewAccessors.Proofs.Globs.Matching
import ViewAccessors.Proofs.Markup.Scanning
import ViewAccessors.Proofs.Outcomes

/-!
# Matching a pattern as it is written

Whether a text matches a pattern is described by recursion on the characters
of the pattern, without items and without rows.  Wherever the pattern can be
read, its items match the same texts.
-/

namespace ViewAccessors.Glob

open Text

/-! ## Classes -/

/-- The members of a class as they are written, from the first one up to the closing bracket. -/
def classMembers : List Char → List Char
  | [] => []
  | first :: rest => first :: rest.takeWhile (· ≠ ']')

/-- What follows the closing bracket of a class, the first character being a member. -/
def afterClass : List Char → List Char
  | [] => []
  | _ :: rest => (rest.dropWhile (· ≠ ']')).tail

/-- Whether members list the character, by itself or between the ends of a range. -/
def lists (character : Char) : List Char → Bool
  | [] => false
  | low :: '-' :: high :: rest => (low ≤ character && character ≤ high) || lists character rest
  | single :: rest => character = single || lists character rest

theorem length_afterClass_le (text : List Char) :
    (afterClass text).length ≤ text.length := by
  cases text with
  | nil => exact Nat.le_refl 0
  | cons first rest =>
      have shorter : (rest.dropWhile (· ≠ ']')).length ≤ rest.length :=
        (List.dropWhile_sublist _).length_le
      rw [afterClass, List.length_tail, List.length_cons]
      omega

/-! ## The description -/

/--
Whether the whole text matches the pattern.  Two stars and a slash come before
two stars, and two stars before one star.
-/
def matchPattern
    (pattern : List Char)
    (text : List Char) :
    Bool :=
  match pattern with
  | [] => text.isEmpty
  | '*' :: '*' :: '/' :: rest =>
    matchPattern rest text ||
      runThen (· ≠ '\n') (oneThen (· = '/') (matchPattern rest)) text
  | '*' :: '*' :: rest => runThen (· ≠ '\n') (matchPattern rest) text
  | '*' :: rest => runThen (· ≠ '/') (matchPattern rest) text
  | '?' :: rest => oneThen (· ≠ '/') (matchPattern rest) text
  | '[' :: '!' :: rest =>
    oneThen (fun character => character ≠ '/' && !lists character (classMembers rest))
      (matchPattern (afterClass rest)) text
  | '[' :: '^' :: rest =>
    oneThen (fun character => character ≠ '/' && !lists character (classMembers rest))
      (matchPattern (afterClass rest)) text
  | '[' :: rest => oneThen (lists · (classMembers rest)) (matchPattern (afterClass rest)) text
  | character :: rest => oneThen (· = character) (matchPattern rest) text
termination_by pattern.length
decreasing_by
  all_goals try have := length_afterClass_le rest
  all_goals simp only [List.length_cons]
  all_goals omega

/-! ## Reading classes -/

theorem contains_self
    (member character : Char) :
    (CharacterRange.mk member member).contains character = decide (character = member) := by
  have same := CharacterClass.accepts_only member character
  simpa [CharacterClass.accepts, CharacterClass.only] using same

/-- The ranges that are read contain the characters that are listed. -/
theorem any_contains_of_readMembers
    {members : List Char}
    {ranges : List CharacterRange}
    (read : readMembers members = .ok ranges)
    (character : Char) :
    ranges.any (·.contains character) = lists character members := by
  fun_induction readMembers members generalizing ranges with
  | case1 =>
      cases read
      rfl
  | case2 low high rest reversed => cases read
  | case3 low high rest ordered hypothesis =>
      rcases map_eq_ok_iff.mp read with ⟨others, readRest, rfl⟩
      rw [List.any_cons, hypothesis readRest, lists, CharacterRange.contains]
  | case4 single rest noRange hypothesis =>
      rcases map_eq_ok_iff.mp read with ⟨others, readRest, rfl⟩
      rw [List.any_cons, hypothesis readRest, lists, contains_self]
      exact noRange

theorem all_ne_of_notMem
    {character : Char}
    {text : List Char}
    (absent : character ∉ text) :
    text.all (· ≠ character) = true := by
  rw [List.all_eq_true]
  exact fun member isMember => decide_eq_true fun same => absent (same ▸ isMember)

theorem eq_of_cutClass?
    {text members after : List Char}
    (cut : cutClass? text = some (members, after)) :
    members = classMembers text ∧ after = afterClass text := by
  cases text with
  | nil => cases cut
  | cons first rest =>
      rcases Option.map_eq_some_iff.mp cut with ⟨⟨others, later⟩, split, same⟩
      cases same
      rcases splitFirst_eq_some_iff.mp split with ⟨rfl, absent⟩
      have stops : Stops (fun character : Char => decide (character ≠ ']')) (']' :: after) :=
        stops_cons (by decide) after
      rcases takeWhile_append_of_stops (all_ne_of_notMem absent) stops with ⟨taken, dropped⟩
      rw [classMembers, afterClass, taken, dropped]
      exact ⟨rfl, rfl⟩

/-- A class accepts what its members list, or, if it is negated, everything else but the slash. -/
theorem accepts_of_readClass
    {text after : List Char}
    {chars : CharacterClass}
    (read : readClass text = .ok (chars, after)) :
    chars.accepts = (fun character =>
        if (cutNegation text).1 then
          character ≠ '/' && !lists character (classMembers (cutNegation text).2)
        else
          lists character (classMembers (cutNegation text).2)) ∧
      after = afterClass (cutNegation text).2 := by
  rw [readClass] at read
  split at read
  · cases read
  · rename_i members later cut
    rcases eq_of_cutClass? cut with ⟨rfl, rfl⟩
    rcases map_eq_ok_iff.mp read with ⟨ranges, readRanges, same⟩
    cases same
    refine ⟨funext fun character => ?_, rfl⟩
    have listed := any_contains_of_readMembers readRanges character
    rw [CharacterClass.accepts, classOf]
    cases (cutNegation text).1 with
    | false =>
        rw [if_neg Bool.false_ne_true, if_neg Bool.false_ne_true, listed]
        exact Bool.bne_false _
    | true =>
        rw [if_pos rfl, if_pos rfl, List.any_cons, listed, contains_self]
        by_cases slash : character = '/' <;> simp [slash]

/-! ## Reading items -/

/-- What holds of the patterns that can be read follows from the ways in which a pattern begins. -/
theorem readItems_induction
    {motive : List Char → List Item → Prop}
    (nil : motive [] [])
    (directories : ∀ {rest items}, motive rest items →
      motive ('*' :: '*' :: '/' :: rest) (.directories :: items))
    (acrossSegments : ∀ {rest items}, (∀ others, rest ≠ '/' :: others) → motive rest items →
      motive ('*' :: '*' :: rest) (.acrossSegments :: items))
    (insideSegment : ∀ {rest items}, (∀ others, rest ≠ '*' :: others) → motive rest items →
      motive ('*' :: rest) (.insideSegment :: items))
    (anyOne : ∀ {rest items}, motive rest items → motive ('?' :: rest) (.anyOne :: items))
    (one : ∀ {rest after chars items}, readClass rest = .ok (chars, after) → motive after items →
      motive ('[' :: rest) (.one chars :: items))
    (exactly : ∀ {character rest items}, character ∉ ['*', '?', '['] → motive rest items →
      motive (character :: rest) (.exactly character :: items))
    {pattern : List Char}
    {items : List Item}
    (read : readItems pattern = .ok items) :
    motive pattern items := by
  fun_induction readItems pattern generalizing items with
  | case1 =>
      cases read
      exact nil
  | case2 rest hypothesis =>
      rcases map_eq_ok_iff.mp read with ⟨others, readRest, rfl⟩
      exact directories (hypothesis readRest)
  | case3 rest noSlash hypothesis =>
      rcases map_eq_ok_iff.mp read with ⟨others, readRest, rfl⟩
      exact acrossSegments noSlash (hypothesis readRest)
  | case4 rest noDirectories noStar hypothesis =>
      rcases map_eq_ok_iff.mp read with ⟨others, readRest, rfl⟩
      exact insideSegment noStar (hypothesis readRest)
  | case5 rest hypothesis =>
      rcases map_eq_ok_iff.mp read with ⟨others, readRest, rfl⟩
      exact anyOne (hypothesis readRest)
  | case6 rest fault fails => cases read
  | case7 rest chars after readClass hypothesis =>
      rcases map_eq_ok_iff.mp read with ⟨others, readRest, rfl⟩
      exact one readClass (hypothesis readRest)
  | case8 character rest noDirectories noStars noStar noMark noBracket hypothesis =>
      rcases map_eq_ok_iff.mp read with ⟨others, readRest, rfl⟩
      have plain : character ∉ ['*', '?', '['] := by
        simp only [List.mem_cons, List.not_mem_nil, or_false, not_or]
        exact ⟨noStar, noMark, noBracket⟩
      exact exactly plain (hypothesis readRest)

/-! ## Items and patterns -/

theorem matchPattern_class (text : List Char) :
    matchPattern ('[' :: text) =
      oneThen (fun character =>
          if (cutNegation text).1 then
            character ≠ '/' && !lists character (classMembers (cutNegation text).2)
          else
            lists character (classMembers (cutNegation text).2))
        (matchPattern (afterClass (cutNegation text).2)) := by
  funext whole
  unfold cutNegation
  split
  · rw [matchPattern]
    simp
  · rw [matchPattern]
    simp
  · rename_i notExclamation notCaret
    rw [matchPattern]
    · simp
    · exact notExclamation
    · exact notCaret

/-- A character that stands for itself, as the last of the ways in which a pattern begins. -/
theorem matchPattern_exactly
    {character : Char}
    (plain : character ∉ ['*', '?', '['])
    (rest : List Char) :
    matchPattern (character :: rest) = oneThen (· = character) (matchPattern rest) := by
  simp only [List.mem_cons, List.not_mem_nil, or_false, not_or] at plain
  rcases plain with ⟨noStar, noMark, noBracket⟩
  funext text
  rw [matchPattern]
  · exact fun _ isStar _ => noStar isStar
  · exact fun _ isStar _ => noStar isStar
  · exact noStar
  · exact noMark
  · exact fun _ isBracket _ => noBracket isBracket
  · exact fun _ isBracket _ => noBracket isBracket
  · exact noBracket

/-- The items of a pattern match the texts that match the pattern as it is written. -/
theorem matchItems_of_readItems
    {pattern : List Char}
    {items : List Item}
    (read : readItems pattern = .ok items) :
    matchItems items = matchPattern pattern := by
  refine readItems_induction
    (motive := fun pattern items => matchItems items = matchPattern pattern)
    ?nil ?directories ?acrossSegments ?insideSegment ?anyOne ?one ?exactly read
  case nil =>
    funext text
    rw [matchItems_nil, matchPattern]
  case directories =>
    intro rest items hypothesis
    funext text
    rw [matchItems_cons, hypothesis, matchPattern]
    rfl
  case acrossSegments =>
    intro rest items noSlash hypothesis
    funext text
    rw [matchItems_cons, hypothesis, matchPattern, Item.acrossSegments, Item.before,
      CharacterClass.accepts_allBut_eq]
    exact noSlash
  case insideSegment =>
    intro rest items noStar hypothesis
    funext text
    rw [matchItems_cons, hypothesis, matchPattern, Item.insideSegment, Item.before,
      CharacterClass.accepts_allBut_eq]
    · exact fun _ => noStar _
    · exact noStar
  case anyOne =>
    intro rest items hypothesis
    funext text
    rw [matchItems_cons, hypothesis, matchPattern, Item.anyOne, Item.before,
      CharacterClass.accepts_allBut_eq]
  case one =>
    intro rest after chars items readClass hypothesis
    rcases accepts_of_readClass readClass with ⟨accepts, rfl⟩
    rw [matchItems_cons, hypothesis, matchPattern_class, ← accepts]
    rfl
  case exactly =>
    intro character rest items plain hypothesis
    rw [matchItems_cons, hypothesis, matchPattern_exactly plain, Item.exactly, Item.before,
      CharacterClass.accepts_only_eq]

end ViewAccessors.Glob
