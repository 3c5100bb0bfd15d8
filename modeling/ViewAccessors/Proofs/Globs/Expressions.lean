import ViewAccessors.Proofs.Globs.Matching

/-!
# Regular expressions

The part of the syntax of regular expressions that globs need: characters,
classes in brackets, a dot for any character but a line feed, groups, and the
star and the question mark behind any of these.  A backslash makes a character
with a meaning stand for itself.  The expressions are anchored at both ends,
so that they are about whole texts.
-/

namespace ViewAccessors.Glob

/-- The characters that have a meaning in regular expressions. -/
def metaCharacters : List Char :=
  ['\\', '.', '+', '*', '?', '(', ')', '|', '[', ']', '\x7b', '\x7d', '^', '$', '#', '&', '-', '~']

/-- A regular expression. -/
inductive Expression where
  | empty
  /-- One character of the class. -/
  | one (chars : CharacterClass)
  | both (first second : Expression)
  | star (inner : Expression)
  | optional (inner : Expression)
  deriving DecidableEq, Repr

namespace Expression

/-- The whole text is one for which the expression stands. -/
inductive Matches : Expression → List Char → Prop where
  | empty : Matches .empty []
  | one
      {chars : CharacterClass}
      {character : Char}
      (accepted : chars.accepts character = true) :
      Matches (.one chars) [character]
  | both
      {first second : Expression}
      {text rest : List Char}
      (matchesFirst : Matches first text)
      (matchesSecond : Matches second rest) :
      Matches (.both first second) (text ++ rest)
  | none {inner : Expression} : Matches (.star inner) []
  | more
      {inner : Expression}
      {text rest : List Char}
      (matchesInner : Matches inner text)
      (matchesOthers : Matches (.star inner) rest) :
      Matches (.star inner) (text ++ rest)
  | absent {inner : Expression} : Matches (.optional inner) []
  | present
      {inner : Expression}
      {text : List Char}
      (matchesInner : Matches inner text) :
      Matches (.optional inner) text

/-- Expressions one after the other. -/
def sequence (parts : List Expression) : Expression :=
  parts.foldr both empty

/-! ## Reading expressions -/

/-- A character of an expression, as itself or with its meaning. -/
inductive Sign where
  | literal (character : Char)
  | operator (character : Char)
  deriving DecidableEq, Repr

/-- The signs of an expression.  A backslash has no meaning before a character without one. -/
def signs : List Char → List Sign
  | [] => []
  | '\\' :: character :: rest =>
    (if character ∈ metaCharacters then .literal character else .operator '\\') :: signs rest
  | character :: rest =>
    (if character ∈ metaCharacters then .operator character else .literal character) ::
      signs rest

/-- The members of a class up to its closing bracket, and the signs behind it. -/
def readMembers? : List Sign → Option (List CharacterRange × List Sign)
  | .operator ']' :: rest => some ([], rest)
  | .literal low :: .operator '-' :: .literal high :: rest =>
    if high < low then
      none
    else
      (readMembers? rest).map fun (ranges, after) => (⟨low, high⟩ :: ranges, after)
  | .literal single :: rest =>
    (readMembers? rest).map fun (ranges, after) => (⟨single, single⟩ :: ranges, after)
  | _ => none

/-- Whether the text behind an opening bracket begins with a caret, and what follows. -/
def cutCaret : List Sign → Bool × List Sign
  | .operator '^' :: rest => (true, rest)
  | text => (false, text)

/-- A class behind its opening bracket, and the signs behind the class.  It has members. -/
def readClass? (text : List Sign) : Option (CharacterClass × List Sign) :=
  match readMembers? (cutCaret text).2 with
  | some (range :: ranges, after) => some (⟨range :: ranges, (cutCaret text).1⟩, after)
  | _ => none

theorem length_lt_of_readMembers?
    {text after : List Sign}
    {ranges : List CharacterRange}
    (read : readMembers? text = some (ranges, after)) :
    after.length < text.length := by
  fun_induction readMembers? text generalizing ranges with
  | case1 rest =>
      cases read
      exact Nat.lt_succ_self _
  | case2 low high rest reversed => cases read
  | case3 low high rest ordered hypothesis =>
      rcases Option.map_eq_some_iff.mp read with ⟨⟨others, later⟩, readRest, same⟩
      cases same
      have shorter := hypothesis readRest
      simp only [List.length_cons]
      omega
  | case4 single rest noRange hypothesis =>
      rcases Option.map_eq_some_iff.mp read with ⟨⟨others, later⟩, readRest, same⟩
      cases same
      exact Nat.lt_succ_of_lt (hypothesis readRest)
  | case5 text noClosing noRange noSingle => cases read

theorem length_lt_of_readClass?
    {text after : List Sign}
    {chars : CharacterClass}
    (read : readClass? text = some (chars, after)) :
    after.length < text.length := by
  have notLonger : (cutCaret text).2.length ≤ text.length := by
    unfold cutCaret
    split
    · exact Nat.le_succ _
    · exact Nat.le_refl _
  rw [readClass?] at read
  split at read
  · rename_i range ranges later readMembers
    cases read
    exact Nat.lt_of_lt_of_le (length_lt_of_readMembers? readMembers) notLonger
  · cases read

/--
Reads an expression up to its end anchor.  `outer` are the parts before each
open group, the innermost first, and `parts` the parts that have been read of
the innermost one, the last first.
-/
def readParts
    (outer : List (List Expression))
    (parts : List Expression)
    (text : List Sign) :
    Option Expression :=
  match text with
  | .literal character :: rest => readParts outer (.one (.only character) :: parts) rest
  | .operator '.' :: rest => readParts outer (.one (.allBut '\n') :: parts) rest
  | .operator '[' :: rest =>
    match _read : readClass? rest with
    | some (chars, after) => readParts outer (.one chars :: parts) after
    | none => none
  | .operator '(' :: .operator '?' :: .literal ':' :: rest => readParts (parts :: outer) [] rest
  | .operator ')' :: rest =>
    match outer with
    | before :: outer => readParts outer (sequence parts.reverse :: before) rest
    | [] => none
  | .operator '*' :: rest =>
    match parts with
    | part :: before => readParts outer (.star part :: before) rest
    | [] => none
  | .operator '?' :: rest =>
    match parts with
    | part :: before => readParts outer (.optional part :: before) rest
    | [] => none
  | [.operator '$'] => if outer = [] then some (sequence parts.reverse) else none
  | _ => none
termination_by text.length
decreasing_by
  all_goals try have := length_lt_of_readClass? _read
  all_goals simp only [List.length_cons]
  all_goals omega

/-- Reads an expression that is anchored at both ends. -/
def ofText? : List Char → Option Expression
  | '^' :: rest => readParts [] [] (signs rest)
  | _ => none

/-! ## What expressions match -/

theorem matches_empty_iff (text : List Char) :
    Matches .empty text ↔ text = [] := by
  constructor
  · rintro ⟨⟩
    rfl
  · rintro rfl
    exact .empty

theorem matches_one_iff
    (chars : CharacterClass)
    (text : List Char) :
    Matches (.one chars) text ↔
      ∃ character, chars.accepts character = true ∧ text = [character] := by
  constructor
  · rintro ⟨⟩
    rename_i character accepted
    exact ⟨character, accepted, rfl⟩
  · rintro ⟨character, accepted, rfl⟩
    exact .one accepted

theorem matches_both_iff
    (first second : Expression)
    (text : List Char) :
    Matches (.both first second) text ↔
      ∃ before after, text = before ++ after ∧ Matches first before ∧ Matches second after := by
  constructor
  · rintro ⟨⟩
    rename_i before after matchesFirst matchesSecond
    exact ⟨before, after, rfl, matchesFirst, matchesSecond⟩
  · rintro ⟨before, after, rfl, matchesFirst, matchesSecond⟩
    exact .both matchesFirst matchesSecond

theorem matches_optional_iff
    (inner : Expression)
    (text : List Char) :
    Matches (.optional inner) text ↔ text = [] ∨ Matches inner text := by
  constructor
  · rintro ⟨⟩
    · exact .inl rfl
    · exact .inr ‹_›
  · rintro (rfl | matchesInner)
    · exact .absent
    · exact .present matchesInner

/-- A star behind one character matches the runs of such characters. -/
theorem matches_star_one_iff
    (chars : CharacterClass)
    (text : List Char) :
    Matches (.star (.one chars)) text ↔ text.all chars.accepts = true := by
  constructor
  · intro isRun
    generalize whole : Expression.star (.one chars) = expression at isRun
    induction isRun with
    | none => rfl
    | more matchesInner _ _ hypothesis =>
        cases whole
        rcases (matches_one_iff chars _).mp matchesInner with ⟨character, accepted, rfl⟩
        rw [List.singleton_append, List.all_cons, accepted, hypothesis rfl]
        rfl
    | _ => cases whole
  · intro members
    induction text with
    | nil => exact .none
    | cons character text hypothesis =>
        rw [List.all_cons, Bool.and_eq_true] at members
        exact .more (.one members.1) (hypothesis members.2)

end Expression

/-! ## Items as expressions -/

namespace Item

/-- The expression for an item. -/
def expression : Item → Expression
  | one chars => .one chars
  | run chars => .star (.one chars)
  | directories =>
    .optional (.sequence [.star (.one (.allBut '\n')), .one (.only '/')])

section

variable {answer : List Char → Bool} {rest : Expression}

theorem oneThen_iff
    (answers : ∀ text, answer text = true ↔ rest.Matches text)
    (chars : CharacterClass)
    (text : List Char) :
    oneThen chars.accepts answer text = true ↔
      (Expression.both (.one chars) rest).Matches text := by
  rw [Expression.matches_both_iff]
  constructor
  · intro holds
    cases text with
    | nil => cases holds
    | cons character text =>
        rw [oneThen, Bool.and_eq_true, answers] at holds
        exact ⟨[character], text, rfl, .one holds.1, holds.2⟩
  · rintro ⟨before, after, rfl, isOne, isRest⟩
    rcases (Expression.matches_one_iff chars before).mp isOne with ⟨character, accepted, rfl⟩
    rw [List.singleton_append, oneThen, Bool.and_eq_true, answers]
    exact ⟨accepted, isRest⟩

theorem runThen_iff
    (answers : ∀ text, answer text = true ↔ rest.Matches text)
    (chars : CharacterClass)
    (text : List Char) :
    runThen chars.accepts answer text = true ↔
      (Expression.both (.star (.one chars)) rest).Matches text := by
  simp only [runThen, List.any_eq_true, mem_afterRun_iff, answers, Expression.matches_both_iff,
    Expression.matches_star_one_iff]
  constructor
  · rintro ⟨after, ⟨run, members, rfl⟩, isRest⟩
    exact ⟨run, after, rfl, members, isRest⟩
  · rintro ⟨run, after, rfl, members, isRest⟩
    exact ⟨after, ⟨run, members, rfl⟩, isRest⟩

/-- An item before what `rest` matches is its expression before `rest`. -/
theorem before_iff
    (answers : ∀ text, answer text = true ↔ rest.Matches text)
    (item : Item)
    (text : List Char) :
    item.before answer text = true ↔ (Expression.both item.expression rest).Matches text := by
  cases item with
  | one chars => exact oneThen_iff answers chars text
  | run chars => exact runThen_iff answers chars text
  | directories =>
      rw [before, ← CharacterClass.accepts_allBut_eq, ← CharacterClass.accepts_only_eq,
        Bool.or_eq_true, answers, runThen_iff (oneThen_iff answers _), expression,
        Expression.sequence]
      simp only [List.foldr, Expression.matches_both_iff, Expression.matches_optional_iff,
        Expression.matches_empty_iff]
      constructor
      · rintro (isRest | ⟨run, _, rfl, isRun, slash, after, rfl, isSlash, isRest⟩)
        · exact ⟨[], text, rfl, .inl rfl, isRest⟩
        · refine ⟨run ++ slash, after, (List.append_assoc _ _ _).symm, .inr ?_, isRest⟩
          exact ⟨run, slash, rfl, isRun, slash, [], (List.append_nil _).symm, isSlash, rfl⟩
      · rintro ⟨_, after, rfl, rfl | ⟨run, _, rfl, isRun, slash, _, rfl, isSlash, rfl⟩, isRest⟩
        · exact .inl isRest
        · exact .inr ⟨run, slash ++ after, by simp, isRun, slash, after, rfl, isSlash, isRest⟩

end

end Item

/-- Items match the texts that their expressions match, one after the other. -/
theorem matchItems_iff
    (items : List Item)
    (text : List Char) :
    matchItems items text = true ↔
      (Expression.sequence (items.map Item.expression)).Matches text := by
  induction items generalizing text with
  | nil =>
      rw [matchItems_nil, List.isEmpty_iff, List.map_nil, Expression.sequence, List.foldr_nil,
        Expression.matches_empty_iff]
  | cons item items hypothesis =>
      rw [matchItems_cons]
      exact item.before_iff hypothesis text

end ViewAccessors.Glob
