import ViewAccessors.Proofs.TypeArguments.Reading

/-!
# Qualifiers in type arguments

The qualifiers in a list of type arguments stand at the beginning of its runs,
which are the texts between its marks.  Changing them is described run by run,
without reading the list: blanks stay where they are, and what follows the
first colon of a run is left alone.  A change that is a renaming neither adds
nor removes marks or blanks, so that the parts of a list, their trimmed texts
and their names are those of the changed list up to the change.
-/

namespace ViewAccessors

/-- The words with a meaning of their own, which are not renamed. -/
def reservedWords : List String :=
  ["", "xml", "xmlns", "Name", "Class", "FieldModifier", "TypeArguments"]

/-- A change of qualifiers that can be undone, that keeps reserved words and writes only letters. -/
structure Renaming where
  change : String → String
  injective : Function.Injective change
  fixed : ∀ word ∈ reservedWords, change word = word
  lettered : ∀ qualifier, change qualifier = qualifier ∨
    ∀ character ∈ (change qualifier).toList, Text.isLetter character = true

namespace TypeArguments

open Text

/-! ## Runs -/

/-- The qualifier with which a run begins after its blanks, if it has a colon. -/
def qualifierOfRun? (run : List Char) : Option String :=
  (splitFirst ':' (trimStart run)).map fun (qualifier, _) => String.ofList qualifier

/-- A run with its qualifier changed. -/
def requalifyRun
    (change : String → String)
    (run : List Char) :
    List Char :=
  match splitFirst ':' (trimStart run) with
  | some (qualifier, rest) =>
    run.takeWhile isBlank ++ ((change (String.ofList qualifier)).toList ++ ':' :: rest)
  | none => run

/-- The qualifiers in a list of type arguments. -/
def qualifiers (text : List Char) : List String :=
  (text.splitOnP marks.contains).filterMap qualifierOfRun?

/-- Changes the qualifiers in the rest of a list, `run` being the begun run before it. -/
def requalifyAfter
    (change : String → String)
    (run : List Char) :
    List Char → List Char
  | [] => requalifyRun change run
  | character :: rest =>
    if character ∈ marks then
      requalifyRun change run ++ character :: requalifyAfter change [] rest
    else
      requalifyAfter change (run ++ [character]) rest

/-- A list of type arguments with its qualifiers changed. -/
def requalify
    (change : String → String)
    (text : List Char) :
    List Char :=
  requalifyAfter change [] text

/-- Every text is a run, or a run and a mark before a text. -/
theorem runs_induction
    {motive : List Char → Prop}
    (unmarked : ∀ run, (∀ mark ∈ marks, mark ∉ run) → motive run)
    (marked : ∀ run mark rest, (∀ mark ∈ marks, mark ∉ run) → mark ∈ marks → motive rest →
      motive (run ++ mark :: rest))
    (text : List Char) :
    motive text := by
  -- The induction is on the text behind a begun run.
  have behind : ∀ (rest run : List Char), (∀ mark ∈ marks, mark ∉ run) → motive (run ++ rest) := by
    intro rest
    induction rest with
    | nil =>
        intro run isRun
        rw [List.append_nil]
        exact unmarked run isRun
    | cons character rest hypothesis =>
        intro run isRun
        by_cases isMark : character ∈ marks
        · exact marked run character rest isRun isMark
            (hypothesis [] fun _ _ => List.not_mem_nil)
        · have longer : ∀ mark ∈ marks, mark ∉ run ++ [character] := by
            intro mark member inside
            rcases List.mem_append.mp inside with before | last
            · exact isRun mark member before
            · exact isMark (List.mem_singleton.mp last ▸ member)
          simpa using hypothesis (run ++ [character]) longer
  exact behind text [] fun _ _ => List.not_mem_nil

section

variable {change : String → String} {run : List Char}

theorem requalifyAfter_of_unmarked
    {rest : List Char}
    (unmarked : ∀ mark ∈ marks, mark ∉ rest) :
    requalifyAfter change run rest = requalifyRun change (run ++ rest) := by
  induction rest generalizing run with
  | nil => rw [requalifyAfter, List.append_nil]
  | cons character rest hypothesis =>
      have plain : character ∉ marks :=
        fun isMark => unmarked character isMark List.mem_cons_self
      rw [requalifyAfter, if_neg plain, hypothesis, List.append_assoc, List.singleton_append]
      exact fun mark isMark inside => unmarked mark isMark (List.mem_cons_of_mem _ inside)

theorem requalifyAfter_append
    {mark : Char}
    (isMark : mark ∈ marks)
    (first second : List Char) :
    requalifyAfter change run (first ++ mark :: second) =
      requalifyAfter change run first ++ mark :: requalify change second := by
  induction first generalizing run with
  | nil => simp only [List.nil_append, requalifyAfter, if_pos isMark, requalify]
  | cons character first hypothesis =>
      rw [List.cons_append, requalifyAfter, requalifyAfter]
      split
      · rw [hypothesis, List.append_assoc, List.cons_append]
      · rw [hypothesis]

/-- A text without marks is one run. -/
theorem requalify_of_unmarked (unmarked : ∀ mark ∈ marks, mark ∉ run) :
    requalify change run = requalifyRun change run :=
  requalifyAfter_of_unmarked unmarked

/-- The runs before and behind a mark have nothing to do with each other. -/
theorem requalify_append
    {mark : Char}
    (isMark : mark ∈ marks)
    (first second : List Char) :
    requalify change (first ++ mark :: second) =
      requalify change first ++ mark :: requalify change second :=
  requalifyAfter_append isMark first second

theorem requalify_append_mark
    {mark : Char}
    (isMark : mark ∈ marks)
    (unmarked : ∀ mark ∈ marks, mark ∉ run)
    (rest : List Char) :
    requalify change (run ++ mark :: rest) =
      requalifyRun change run ++ mark :: requalify change rest := by
  rw [requalify_append isMark, requalify_of_unmarked unmarked]

end

/-! ## Changes that make no difference -/

theorem requalifyRun_congr
    {first second : String → String}
    {run : List Char}
    (agree : ∀ qualifier ∈ qualifierOfRun? run, first qualifier = second qualifier) :
    requalifyRun first run = requalifyRun second run := by
  rw [requalifyRun, requalifyRun]
  split
  · rename_i qualifier rest split
    have same := agree (String.ofList qualifier) (by rw [qualifierOfRun?, split]; rfl)
    rw [same]
  · rfl

theorem qualifiers_of_unmarked
    {run : List Char}
    (unmarked : ∀ mark ∈ marks, mark ∉ run) :
    qualifiers run = (qualifierOfRun? run).toList := by
  have noMark : ∀ character ∈ run, marks.contains character = false := by
    intro character member
    rw [List.contains_eq_mem, decide_eq_false_iff_not]
    exact fun isMark => unmarked character isMark member
  rw [qualifiers, List.splitOnP_eq_singleton noMark, List.filterMap_cons]
  cases qualifierOfRun? run <;> rfl

theorem qualifiers_append
    {mark : Char}
    (isMark : mark ∈ marks)
    (first second : List Char) :
    qualifiers (first ++ mark :: second) = qualifiers first ++ qualifiers second := by
  rw [qualifiers, List.splitOnP_append_cons _ _ (List.contains_iff_mem.mpr isMark),
    List.filterMap_append]
  rfl

/-- Changes that agree on the qualifiers in a text change it in the same way. -/
theorem requalify_congr
    {first second : String → String}
    {text : List Char}
    (agree : ∀ qualifier ∈ qualifiers text, first qualifier = second qualifier) :
    requalify first text = requalify second text := by
  induction text using runs_induction with
  | unmarked run unmarked =>
      rw [requalify_of_unmarked unmarked, requalify_of_unmarked unmarked]
      apply requalifyRun_congr
      intro qualifier found
      rw [qualifiers_of_unmarked unmarked] at agree
      exact agree qualifier (Option.mem_toList.mpr found)
  | marked run mark rest unmarked isMark hypothesis =>
      rw [qualifiers_append isMark, List.forall_mem_append, qualifiers_of_unmarked unmarked]
        at agree
      rw [requalify_append_mark isMark unmarked, requalify_append_mark isMark unmarked,
        hypothesis agree.2, requalifyRun_congr]
      exact fun qualifier found => agree.1 qualifier (Option.mem_toList.mpr found)

theorem requalifyRun_id (run : List Char) :
    requalifyRun (fun qualifier => qualifier) run = run := by
  rw [requalifyRun]
  split
  · rename_i qualifier rest split
    rw [String.toList_ofList, ← (splitFirst_eq_some_iff.mp split).1, trimStart,
      List.takeWhile_append_dropWhile]
  · rfl

theorem requalify_id (text : List Char) :
    requalify (fun qualifier => qualifier) text = text := by
  induction text using runs_induction with
  | unmarked run unmarked => rw [requalify_of_unmarked unmarked, requalifyRun_id]
  | marked run mark rest unmarked isMark hypothesis =>
      rw [requalify_append_mark isMark unmarked, hypothesis, requalifyRun_id]

/-! ## Blanks -/

section

variable {change : String → String} {blanks run : List Char}

/-- A run without a colon has no qualifier. -/
theorem requalifyRun_of_notMem (plain : ':' ∉ run) :
    requalifyRun change run = run := by
  have unsplit : splitFirst ':' (trimStart run) = none := by
    rw [splitFirst_eq_none_iff]
    exact fun member => plain ((List.dropWhile_sublist _).subset member)
  rw [requalifyRun, unsplit]

/-- A run begins with its qualifier behind blanks. -/
theorem requalifyRun_qualified
    {qualifier rest : List Char}
    (members : blanks.all isBlank = true)
    (stops : Stops isBlank (qualifier ++ ':' :: rest))
    (absent : ':' ∉ qualifier) :
    requalifyRun change (blanks ++ (qualifier ++ ':' :: rest)) =
      blanks ++ ((change (String.ofList qualifier)).toList ++ ':' :: rest) := by
  rcases takeWhile_append_of_stops members stops with ⟨taken, dropped⟩
  have split : splitFirst ':' (qualifier ++ ':' :: rest) = some (qualifier, rest) :=
    splitFirst_eq_some_iff.mpr ⟨rfl, absent⟩
  rw [requalifyRun, trimStart, dropped, split, taken]

/-- A run has no colon, or it begins with a qualifier behind blanks. -/
theorem run_cases (run : List Char) :
    ':' ∉ run ∨
      ∃ blanks qualifier rest, run = blanks ++ (qualifier ++ ':' :: rest) ∧
        blanks.all isBlank = true ∧ Stops isBlank (qualifier ++ ':' :: rest) ∧
          ':' ∉ qualifier := by
  by_cases member : ':' ∈ run
  · have split : run = run.takeWhile isBlank ++ trimStart run :=
      List.takeWhile_append_dropWhile.symm
    have inside : ':' ∈ trimStart run := by
      rw [split, List.mem_append] at member
      exact member.resolve_left (notMem_of_all_isBlank List.all_takeWhile rfl)
    rcases List.eq_append_cons_of_mem inside with ⟨qualifier, rest, whole, absent⟩
    refine .inr ⟨run.takeWhile isBlank, qualifier, rest, ?_, List.all_takeWhile, ?_, absent⟩
    · rw [← whole]
      exact split
    · rw [← whole]
      exact stops_dropWhile isBlank run
  · exact .inl member

theorem requalifyRun_blanks_append
    (members : blanks.all isBlank = true)
    (run : List Char) :
    requalifyRun change (blanks ++ run) = blanks ++ requalifyRun change run := by
  rcases run_cases run with plain | ⟨first, qualifier, rest, rfl, isBlank, stops, absent⟩
  · have plainAll : ':' ∉ blanks ++ run := by
      rw [List.mem_append, not_or]
      exact ⟨notMem_of_all_isBlank members rfl, plain⟩
    rw [requalifyRun_of_notMem plain, requalifyRun_of_notMem plainAll]
  · have allBlank : (blanks ++ first).all Text.isBlank = true := by
      rw [List.all_append, members, isBlank]
      rfl
    rw [requalifyRun_qualified isBlank stops absent, ← List.append_assoc,
      requalifyRun_qualified allBlank stops absent, List.append_assoc]

theorem requalifyRun_append_blanks
    (members : blanks.all isBlank = true)
    (run : List Char) :
    requalifyRun change (run ++ blanks) = requalifyRun change run ++ blanks := by
  rcases run_cases run with plain | ⟨first, qualifier, rest, rfl, isBlank, stops, absent⟩
  · have plainAll : ':' ∉ run ++ blanks := by
      rw [List.mem_append, not_or]
      exact ⟨plain, notMem_of_all_isBlank members rfl⟩
    rw [requalifyRun_of_notMem plain, requalifyRun_of_notMem plainAll]
  · have stopsAll : Stops Text.isBlank (qualifier ++ ':' :: (rest ++ blanks)) := by
      intro character isHead
      apply stops character
      rw [← isHead, List.head?_append, List.head?_append]
      rfl
    have whole : first ++ (qualifier ++ ':' :: rest) ++ blanks =
        first ++ (qualifier ++ ':' :: (rest ++ blanks)) := by
      simp only [List.append_assoc, List.cons_append]
    rw [whole, requalifyRun_qualified isBlank stopsAll absent,
      requalifyRun_qualified isBlank stops absent]
    simp only [List.append_assoc, List.cons_append]

/-- Blanks before a text stay where they are. -/
theorem requalify_blanks_append
    (members : blanks.all isBlank = true)
    (text : List Char) :
    requalify change (blanks ++ text) = blanks ++ requalify change text := by
  have unmarkedBlanks := Writing.unmarked_of_all_isBlank members
  have unmarkedBefore : ∀ run : List Char, (∀ mark ∈ marks, mark ∉ run) →
      ∀ mark ∈ marks, mark ∉ blanks ++ run := by
    intro run unmarked mark isMark
    rw [List.mem_append, not_or]
    exact ⟨unmarkedBlanks mark isMark, unmarked mark isMark⟩
  induction text using runs_induction with
  | unmarked run unmarked =>
      rw [requalify_of_unmarked unmarked, requalify_of_unmarked (unmarkedBefore run unmarked),
        requalifyRun_blanks_append members]
  | marked run mark rest unmarked isMark _ =>
      rw [requalify_append_mark isMark unmarked, ← List.append_assoc,
        requalify_append_mark isMark (unmarkedBefore run unmarked),
        requalifyRun_blanks_append members, List.append_assoc]

/-- Blanks behind a text stay where they are. -/
theorem requalify_append_blanks
    (members : blanks.all isBlank = true)
    (text : List Char) :
    requalify change (text ++ blanks) = requalify change text ++ blanks := by
  induction text using runs_induction with
  | unmarked run unmarked =>
      have unmarkedAll : ∀ mark ∈ marks, mark ∉ run ++ blanks := by
        intro mark isMark
        rw [List.mem_append, not_or]
        exact ⟨unmarked mark isMark, Writing.unmarked_of_all_isBlank members mark isMark⟩
      rw [requalify_of_unmarked unmarked, requalify_of_unmarked unmarkedAll,
        requalifyRun_append_blanks members]
  | marked run mark rest unmarked isMark hypothesis =>
      rw [requalify_append_mark isMark unmarked, List.append_assoc, List.cons_append,
        requalify_append_mark isMark unmarked, hypothesis, List.append_assoc, List.cons_append]

end

end TypeArguments

end ViewAccessors
