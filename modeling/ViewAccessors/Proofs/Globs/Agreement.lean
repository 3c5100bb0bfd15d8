import ViewAccessors.Proofs.Globs.Translation

/-!
# Three ways of matching

A glob that has been read matches the texts that match its pattern as it is
written, and the texts for which the translation of its pattern stands.  A
pattern is translated if and only if it can be read; otherwise both have the
same fault.
-/

namespace ViewAccessors.Glob

/-! ## Faults -/

/-- Members that cannot be read are not translated, for the same fault. -/
theorem translateMembers_eq_error
    {members : List Char}
    {fault : Fault}
    (failed : readMembers members = .error fault) :
    translateMembers members = .error fault := by
  fun_induction readMembers members with
  | case1 => cases failed
  | case2 low high rest reversed =>
      cases failed
      rw [translateMembers, if_pos reversed]
  | case3 low high rest ordered hypothesis =>
      rw [translateMembers, if_neg ordered, hypothesis (map_eq_error_iff.mp failed)]
      rfl
  | case4 single rest noRange hypothesis =>
      rw [translateMembers, hypothesis (map_eq_error_iff.mp failed)]
      · rfl
      · exact noRange

theorem translateClass_eq_error
    {text : List Char}
    {fault : Fault}
    (failed : readClass text = .error fault) :
    translateClass text = .error fault := by
  rw [readClass] at failed
  rw [translateClass]
  cases cut : cutClass? (cutNegation text).2 with
  | none =>
      rw [cut] at failed
      cases failed
      rfl
  | some pieces =>
      rw [cut] at failed
      simp only [translateMembers_eq_error (map_eq_error_iff.mp failed)]
      rfl

/-- A pattern that cannot be read is not translated, for the same fault. -/
theorem translateParts_eq_error
    {pattern : List Char}
    {fault : Fault}
    (failed : readItems pattern = .error fault) :
    translateParts pattern = .error fault := by
  fun_induction readItems pattern with
  | case1 => cases failed
  | case2 rest hypothesis =>
      rw [translateParts, hypothesis (map_eq_error_iff.mp failed)]
      rfl
  | case3 rest noSlash hypothesis =>
      rw [translateParts, hypothesis (map_eq_error_iff.mp failed)]
      · rfl
      · exact noSlash
  | case4 rest noDirectories noStar hypothesis =>
      rw [translateParts, hypothesis (map_eq_error_iff.mp failed)]
      · rfl
      · exact noDirectories
      · exact noStar
  | case5 rest hypothesis =>
      rw [translateParts, hypothesis (map_eq_error_iff.mp failed)]
      rfl
  | case6 rest other fails =>
      cases failed
      rw [translateParts_class, translateClass_eq_error fails]
  | case7 rest chars after readClass hypothesis =>
      rcases readsAs_of_readClass readClass with ⟨first, translated, -⟩
      rw [translateParts_class, translated]
      simp only [hypothesis (map_eq_error_iff.mp failed)]
      rfl
  | case8 character rest noDirectories noStars noStar noMark noBracket hypothesis =>
      have plain : character ∉ ['*', '?', '['] := by
        simp only [List.mem_cons, List.not_mem_nil, or_false, not_or]
        exact ⟨noStar, noMark, noBracket⟩
      rw [translateParts_exactly plain, hypothesis (map_eq_error_iff.mp failed)]
      rfl

/-! ## Whole patterns -/

/-- The expression that is read from the translation of a pattern is made of its items. -/
theorem ofText?_of_readItems
    {pattern : List Char}
    {items : List Item}
    (read : readItems pattern = .ok items) :
    ∃ written, translate pattern = .ok written ∧
      Expression.ofText? written = some (.sequence (items.map Item.expression)) := by
  rcases readsAsItems_of_readItems read with ⟨written, translated, reads⟩
  refine ⟨'^' :: written ++ ['$'], ?_, ?_⟩
  · rw [translate, translated]
    rfl
  · have anchor : Expression.signs ['$'] = [.operator '$'] := rfl
    rw [List.cons_append, Expression.ofText?, reads, anchor, Expression.readParts, if_pos rfl,
      List.append_nil, List.reverse_reverse]

/--
A text is a pattern if and only if it is translated into a regular expression,
and then these agree on every text: the glob matches it, it matches the
pattern as it is written, the expression matches it.
-/
theorem matchesText_iff_matchPattern (pattern : String) :
    ((∃ glob, Glob.ofText pattern = .ok glob) ↔
      ∃ written expression, translate pattern.toList = .ok written ∧
        Expression.ofText? written = some expression) ∧
    ∀ glob, Glob.ofText pattern = .ok glob →
      (∀ text, glob.matchesText text = matchPattern pattern.toList text.toList) ∧
      ∃ written expression, translate pattern.toList = .ok written ∧
        Expression.ofText? written = some expression ∧
          ∀ text, glob.matchesText text = true ↔ expression.Matches text.toList := by
  refine ⟨⟨?_, ?_⟩, ?_⟩
  · rintro ⟨glob, read⟩
    rcases ofText?_of_readItems ((ofText_eq_ok_iff pattern glob).mp read).2 with
      ⟨written, translated, readWritten⟩
    exact ⟨written, _, translated, readWritten⟩
  · rintro ⟨written, expression, translated, -⟩
    cases read : readItems pattern.toList with
    | ok items => exact ⟨⟨pattern, items⟩, (ofText_eq_ok_iff pattern _).mpr ⟨rfl, read⟩⟩
    | error fault =>
        rw [translate, translateParts_eq_error read] at translated
        cases translated
  · intro glob read
    have readItems := ((ofText_eq_ok_iff pattern glob).mp read).2
    rcases ofText?_of_readItems readItems with ⟨written, translated, readWritten⟩
    refine ⟨fun text => ?_, written, _, translated, readWritten, fun text => ?_⟩
    · rw [matchesText, matchItems_of_readItems readItems]
    · exact matchItems_iff glob.items text.toList

/-- Files in any directory, by classes of the first and of the last character of their names. -/
def sourceFiles : Glob where
  pattern := "**/[!_a-c-]?*.[]x]"
  items := [
    .directories,
    .one ⟨[⟨'/', '/'⟩, ⟨'_', '_'⟩, ⟨'a', 'c'⟩, ⟨'-', '-'⟩], true⟩,
    .anyOne,
    .insideSegment,
    .exactly '.',
    .one ⟨[⟨']', ']'⟩, ⟨'x', 'x'⟩], false⟩]

theorem matchesText_iff_matchPattern_sourceFiles :
    Glob.ofText "**/[!_a-c-]?*.[]x]" = .ok sourceFiles ∧
      (∀ text, sourceFiles.matchesText text =
        matchPattern "**/[!_a-c-]?*.[]x]".toList text.toList) ∧
      sourceFiles.matchesText "a/b/Main.]" = true ∧
      ∃ expression,
        Expression.ofText? "^(?:.*/)?[^/_a-c\\-][^/][^/]*\\.[\\]x]$".toList = some expression ∧
          ∀ text, sourceFiles.matchesText text = true ↔ expression.Matches text.toList := by
  have read : Glob.ofText "**/[!_a-c-]?*.[]x]" = .ok sourceFiles := by decide +kernel
  have asWritten : translate "**/[!_a-c-]?*.[]x]".toList =
      .ok "^(?:.*/)?[^/_a-c\\-][^/][^/]*\\.[\\]x]$".toList := by
    decide +kernel
  rcases (matchesText_iff_matchPattern _).2 _ read with
    ⟨directly, written, expression, translated, readWritten, agree⟩
  refine ⟨read, directly, ?_, expression, ?_, agree⟩
  · rw [directly]
    decide +kernel
  · rw [← readWritten]
    exact congrArg Expression.ofText? (Except.ok.inj (asWritten.symm.trans translated))

end ViewAccessors.Glob
