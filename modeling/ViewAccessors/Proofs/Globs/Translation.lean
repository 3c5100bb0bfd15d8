import ViewAccessors.Proofs.Globs.Expressions
import ViewAccessors.Proofs.Globs.Patterns

/-!
# Patterns as regular expressions

A pattern can be translated into a regular expression, character by character
and class by class.  The expression that is read from the translation stands
for the texts that match the pattern.
-/

namespace ViewAccessors.Glob

open Text

/-- A character with a backslash before it if it would have a meaning. -/
def escaped (character : Char) : List Char :=
  if character ∈ metaCharacters then ['\\', character] else [character]

/-- The members of a class, translated. -/
def translateMembers : List Char → Except Fault (List Char)
  | [] => .ok []
  | low :: '-' :: high :: rest =>
    if high < low then
      .error (.invalidRange low high)
    else
      (translateMembers rest).map (escaped low ++ '-' :: escaped high ++ ·)
  | single :: rest => (translateMembers rest).map (escaped single ++ ·)

/-- A class behind its opening bracket, translated, and the text behind the class. -/
def translateClass (text : List Char) : Except Fault (List Char × List Char) :=
  match cutClass? (cutNegation text).2 with
  | none => .error .unterminatedClass
  | some (members, after) =>
    (translateMembers members).map fun written =>
      ((if (cutNegation text).1 then ['[', '^', '/'] else ['[']) ++ written ++ [']'], after)

theorem length_lt_of_translateClass
    {text written after : List Char}
    (translated : translateClass text = .ok (written, after)) :
    after.length < text.length := by
  rw [translateClass] at translated
  split at translated
  · cases translated
  · rename_i members later cut
    rcases map_eq_ok_iff.mp translated with ⟨others, -, same⟩
    cases same
    exact Nat.lt_of_lt_of_le (length_lt_of_cutClass? cut) (length_cutNegation_le text)

/-- The parts of a pattern, translated. -/
def translateParts (pattern : List Char) : Except Fault (List Char) :=
  match pattern with
  | [] => .ok []
  | '*' :: '*' :: '/' :: rest =>
    (translateParts rest).map (['(', '?', ':', '.', '*', '/', ')', '?'] ++ ·)
  | '*' :: '*' :: rest => (translateParts rest).map (['.', '*'] ++ ·)
  | '*' :: rest => (translateParts rest).map (['[', '^', '/', ']', '*'] ++ ·)
  | '?' :: rest => (translateParts rest).map (['[', '^', '/', ']'] ++ ·)
  | '[' :: rest =>
    match _translated : translateClass rest with
    | .error fault => .error fault
    | .ok (written, after) => (translateParts after).map (written ++ ·)
  | character :: rest => (translateParts rest).map (escaped character ++ ·)
termination_by pattern.length
decreasing_by
  all_goals simp only [List.length_cons]
  all_goals try have := length_lt_of_translateClass _translated
  all_goals omega

/-- A class is translated, and then what follows it. -/
theorem translateParts_class (rest : List Char) :
    translateParts ('[' :: rest) =
      match translateClass rest with
      | .error fault => .error fault
      | .ok (written, after) => (translateParts after).map (written ++ ·) := by
  rw [translateParts]
  split <;> rename_i found <;> rw [found]

theorem translateParts_exactly
    {character : Char}
    (plain : character ∉ ['*', '?', '['])
    (rest : List Char) :
    translateParts (character :: rest) =
      (translateParts rest).map (escaped character ++ ·) := by
  simp only [List.mem_cons, List.not_mem_nil, or_false, not_or] at plain
  rcases plain with ⟨noStar, noMark, noBracket⟩
  rw [translateParts]
  · exact fun _ isStar _ => noStar isStar
  · exact fun _ isStar _ => noStar isStar
  · exact noStar
  · exact noMark
  · exact noBracket

/-- A pattern as a regular expression that is anchored at both ends. -/
def translate (pattern : List Char) : Except Fault (List Char) :=
  (translateParts pattern).map fun written => '^' :: written ++ ['$']

/-! ## Signs -/

namespace Expression

theorem signs_escaped
    (character : Char)
    (rest : List Char) :
    signs (escaped character ++ rest) = .literal character :: signs rest := by
  rw [escaped]
  by_cases isMeta : character ∈ metaCharacters
  · rw [if_pos isMeta, List.cons_append, List.singleton_append, signs, if_pos isMeta]
  · rw [if_neg isMeta, List.singleton_append, signs, if_neg isMeta]
    rintro other others rfl -
    exact isMeta (by decide)

theorem signs_operator
    {character : Char}
    (isMeta : character ∈ metaCharacters)
    (noBackslash : character ≠ '\\')
    (rest : List Char) :
    signs (character :: rest) = .operator character :: signs rest := by
  rw [signs, if_pos isMeta]
  exact fun _ _ isBackslash _ => noBackslash isBackslash

theorem signs_literal
    {character : Char}
    (isPlain : character ∉ metaCharacters)
    (rest : List Char) :
    signs (character :: rest) = .literal character :: signs rest := by
  rw [signs, if_neg isPlain]
  rintro _ _ rfl _
  exact isPlain (by decide)

/-- What is written is read as one expression, whatever stands around it. -/
def ReadsAs
    (written : List Char)
    (part : Expression) :
    Prop :=
  ∀ outer parts rest, readParts outer parts (signs (written ++ rest)) =
    readParts outer (part :: parts) (signs rest)

end Expression

/-! ## Classes -/

open Expression

/-- Translated members do not begin with an operator. -/
theorem eq_of_signs_members
    {members written : List Char}
    (translated : translateMembers members = .ok written)
    {rest : List Char}
    {character : Char}
    {tail : List Sign}
    (begins : signs (written ++ ']' :: rest) = .operator character :: tail) :
    character = ']' := by
  unfold translateMembers at translated
  split at translated
  · cases translated
    rw [List.nil_append, signs_operator (by decide) (by decide)] at begins
    cases begins
    rfl
  · rename_i low high others
    split at translated
    · cases translated
    · rcases map_eq_ok_iff.mp translated with ⟨later, -, rfl⟩
      rw [List.append_assoc, List.append_assoc, signs_escaped] at begins
      cases begins
  · rcases map_eq_ok_iff.mp translated with ⟨later, -, rfl⟩
    rw [List.append_assoc, signs_escaped] at begins
    cases begins

/-- Members are read from their translation as they are read from the pattern. -/
theorem readMembers?_translated
    {members : List Char}
    {ranges : List CharacterRange}
    (read : readMembers members = .ok ranges) :
    ∃ written, translateMembers members = .ok written ∧
      ∀ rest, readMembers? (signs (written ++ ']' :: rest)) = some (ranges, signs rest) := by
  fun_induction readMembers members generalizing ranges with
  | case1 =>
      cases read
      refine ⟨[], rfl, fun rest => ?_⟩
      rw [List.nil_append, signs_operator (by decide) (by decide), readMembers?]
  | case2 low high rest reversed => cases read
  | case3 low high rest ordered hypothesis =>
      rcases map_eq_ok_iff.mp read with ⟨others, readRest, rfl⟩
      rcases hypothesis readRest with ⟨written, translated, readWritten⟩
      refine ⟨escaped low ++ '-' :: escaped high ++ written, ?_, fun after => ?_⟩
      · rw [translateMembers, if_neg ordered, translated]
        rfl
      · rw [List.append_assoc, List.append_assoc, signs_escaped, List.cons_append,
          signs_operator (by decide) (by decide), signs_escaped, readMembers?, if_neg ordered,
          readWritten]
        rfl
  | case4 single rest noRange hypothesis =>
      rcases map_eq_ok_iff.mp read with ⟨others, readRest, rfl⟩
      rcases hypothesis readRest with ⟨written, translated, readWritten⟩
      refine ⟨escaped single ++ written, ?_, fun after => ?_⟩
      · rw [translateMembers, translated]
        · rfl
        · exact noRange
      · rw [List.append_assoc, signs_escaped, readMembers?, readWritten]
        · rfl
        · intro high tail begins
          cases eq_of_signs_members translated begins

/-- A class has members, because its first character is one. -/
theorem exists_cons_of_readMembers
    {text members after : List Char}
    {ranges : List CharacterRange}
    (cut : cutClass? text = some (members, after))
    (read : readMembers members = .ok ranges) :
    ∃ range others, ranges = range :: others := by
  cases text with
  | nil => cases cut
  | cons first rest =>
      rcases Option.map_eq_some_iff.mp cut with ⟨⟨inside, later⟩, -, same⟩
      cases same
      unfold readMembers at read
      split at read
      · contradiction
      · split at read
        · cases read
        · rcases map_eq_ok_iff.mp read with ⟨others, -, rfl⟩
          exact ⟨_, others, rfl⟩
      · rcases map_eq_ok_iff.mp read with ⟨others, -, rfl⟩
        exact ⟨_, others, rfl⟩

/-- Translated members are read as a class, with the slash among them if the class is negated. -/
theorem readClass?_translated
    {members written : List Char}
    {ranges : List CharacterRange}
    (translated : translateMembers members = .ok written)
    (readWritten : ∀ rest, readMembers? (signs (written ++ ']' :: rest)) =
      some (ranges, signs rest))
    (nonempty : ∃ range others, ranges = range :: others)
    (negated : Bool)
    (rest : List Char) :
    readClass? (signs ((if negated then ['^', '/'] else []) ++ (written ++ ']' :: rest))) =
      some (classOf negated ranges, signs rest) := by
  cases negated with
  | true =>
      have readSlash : readMembers? (.literal '/' :: signs (written ++ ']' :: rest)) =
          some (⟨'/', '/'⟩ :: ranges, signs rest) := by
        rw [readMembers?, readWritten]
        · rfl
        · intro high tail begins
          cases eq_of_signs_members translated begins
      rw [if_pos rfl, List.cons_append, List.singleton_append,
        signs_operator (by decide) (by decide), signs_literal (by decide), readClass?, cutCaret,
        readSlash]
      rfl
  | false =>
      have noCaret : cutCaret (signs (written ++ ']' :: rest)) =
          (false, signs (written ++ ']' :: rest)) := by
        rw [cutCaret]
        intro tail begins
        cases eq_of_signs_members translated begins
      rcases nonempty with ⟨range, others, rfl⟩
      rw [if_neg Bool.false_ne_true, List.nil_append, readClass?, noCaret, readWritten]
      rfl

/-- A class is read from its translation as it is read from the pattern. -/
theorem readsAs_of_readClass
    {text after : List Char}
    {chars : CharacterClass}
    (read : readClass text = .ok (chars, after)) :
    ∃ written, translateClass text = .ok (written, after) ∧ ReadsAs written (.one chars) := by
  rw [readClass] at read
  split at read
  · cases read
  · rename_i members later cut
    rcases map_eq_ok_iff.mp read with ⟨ranges, readRanges, same⟩
    cases same
    rcases readMembers?_translated readRanges with ⟨written, translated, readWritten⟩
    have readClass := readClass?_translated translated readWritten
      (exists_cons_of_readMembers cut readRanges) (cutNegation text).1
    rw [translateClass, cut]
    simp only [translated]
    refine ⟨_, rfl, fun outer parts rest => ?_⟩
    have bracketed : (if (cutNegation text).1 then ['[', '^', '/'] else ['[']) ++ written ++
        [']'] ++ rest = '[' :: ((if (cutNegation text).1 then ['^', '/'] else []) ++
          (written ++ ']' :: rest)) := by
      cases (cutNegation text).1 <;> simp
    rw [bracketed, signs_operator (by decide) (by decide), readParts, readClass]

/-! ## Parts -/

namespace Expression

theorem readsAs_directories :
    ReadsAs ['(', '?', ':', '.', '*', '/', ')', '?'] Item.directories.expression := by
  intro outer parts rest
  have read : signs (['(', '?', ':', '.', '*', '/', ')', '?'] ++ rest) =
      .operator '(' :: .operator '?' :: .literal ':' :: .operator '.' :: .operator '*' ::
        .literal '/' :: .operator ')' :: .operator '?' :: signs rest :=
    rfl
  rw [read]
  simp only [readParts]
  rfl

theorem readsAs_acrossSegments :
    ReadsAs ['.', '*'] Item.acrossSegments.expression := by
  intro outer parts rest
  have read : signs (['.', '*'] ++ rest) = .operator '.' :: .operator '*' :: signs rest := rfl
  rw [read, readParts, readParts]
  rfl

theorem readsAs_anyOne :
    ReadsAs ['[', '^', '/', ']'] Item.anyOne.expression := by
  intro outer parts rest
  have read : signs (['[', '^', '/', ']'] ++ rest) = .operator '[' :: .operator '^' ::
      .literal '/' :: .operator ']' :: signs rest :=
    rfl
  rw [read, readParts]
  rfl

theorem readsAs_insideSegment :
    ReadsAs ['[', '^', '/', ']', '*'] Item.insideSegment.expression := by
  intro outer parts rest
  have star : signs ('*' :: rest) = .operator '*' :: signs rest := rfl
  have read := readsAs_anyOne outer parts ('*' :: rest)
  rw [star, readParts] at read
  exact read

theorem readsAs_escaped (character : Char) :
    ReadsAs (escaped character) (Item.exactly character).expression := by
  intro outer parts rest
  rw [signs_escaped, readParts]
  rfl

/-- What is written is read as the expressions for items, one after the other. -/
def ReadsAsItems
    (written : List Char)
    (items : List Item) :
    Prop :=
  ∀ parts rest, readParts [] parts (signs (written ++ rest)) =
    readParts [] ((items.map Item.expression).reverse ++ parts) (signs rest)

theorem ReadsAs.append
    {first written : List Char}
    {item : Item}
    {items : List Item}
    (readsFirst : ReadsAs first item.expression)
    (readsOthers : ReadsAsItems written items) :
    ReadsAsItems (first ++ written) (item :: items) := by
  intro parts rest
  rw [List.append_assoc, readsFirst, readsOthers, List.map_cons, List.reverse_cons,
    List.append_assoc, List.singleton_append]

end Expression

/-- A pattern is read from its translation as its items are read from the pattern. -/
theorem readsAsItems_of_readItems
    {pattern : List Char}
    {items : List Item}
    (read : readItems pattern = .ok items) :
    ∃ written, translateParts pattern = .ok written ∧ ReadsAsItems written items := by
  refine readItems_induction
    (motive := fun pattern items =>
      ∃ written, translateParts pattern = .ok written ∧ ReadsAsItems written items)
    ?nil ?directories ?acrossSegments ?insideSegment ?anyOne ?one ?exactly read
  case nil =>
    refine ⟨[], ?_, fun parts rest => rfl⟩
    rw [translateParts]
  case directories =>
    rintro rest items ⟨written, translated, readsOthers⟩
    refine ⟨_, ?_, readsAs_directories.append readsOthers⟩
    rw [translateParts, translated]
    rfl
  case acrossSegments =>
    rintro rest items noSlash ⟨written, translated, readsOthers⟩
    refine ⟨_, ?_, readsAs_acrossSegments.append readsOthers⟩
    rw [translateParts, translated]
    · rfl
    · exact noSlash
  case insideSegment =>
    rintro rest items noStar ⟨written, translated, readsOthers⟩
    refine ⟨_, ?_, readsAs_insideSegment.append readsOthers⟩
    rw [translateParts, translated]
    · rfl
    · exact fun _ => noStar _
    · exact noStar
  case anyOne =>
    rintro rest items ⟨written, translated, readsOthers⟩
    refine ⟨_, ?_, readsAs_anyOne.append readsOthers⟩
    rw [translateParts, translated]
    rfl
  case one =>
    rintro rest after chars items readClass ⟨written, translated, readsOthers⟩
    rcases readsAs_of_readClass readClass with ⟨first, translatedClass, readsClass⟩
    have readsItem : ReadsAs first (Item.one chars).expression := readsClass
    refine ⟨_, ?_, readsItem.append readsOthers⟩
    rw [translateParts_class, translatedClass]
    simp only [translated]
    rfl
  case exactly =>
    rintro character rest items plain ⟨written, translated, readsOthers⟩
    refine ⟨_, ?_, (readsAs_escaped character).append readsOthers⟩
    rw [translateParts_exactly plain, translated]
    rfl

end ViewAccessors.Glob
