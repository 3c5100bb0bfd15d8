import ViewAccessors.Proofs.Trimming
import ViewAccessors.Text.Indent

/-!
# Texts that are broken into lines anew

Indenting a text changes the blanks around its line feeds and nothing else.
Whatever has no line feed in it is still there afterwards, and in the same
order.
-/

namespace ViewAccessors.Text

theorem all_isBlank_lineFeed :
    ['\n'].all isBlank = true := by
  decide

/-- Two texts differ only in runs of blanks that have line feeds in them. -/
inductive Rebroken : List Char → List Char → Prop where
  | nil : Rebroken [] []
  | cons
      (character : Char)
      {first second : List Char}
      (others : Rebroken first second) :
      Rebroken (character :: first) (character :: second)
  | gap
      {blanks changed first second : List Char}
      (blank : blanks.all isBlank = true)
      (changedBlank : changed.all isBlank = true)
      (breaks : '\n' ∈ blanks)
      (changedBreaks : '\n' ∈ changed)
      (others : Rebroken first second) :
      Rebroken (blanks ++ first) (changed ++ second)

namespace Rebroken

theorem refl (text : List Char) :
    Rebroken text text := by
  induction text with
  | nil => exact .nil
  | cons character text hypothesis => exact .cons character hypothesis

theorem append_left
    {first second : List Char}
    (before : List Char)
    (rebroken : Rebroken first second) :
    Rebroken (before ++ first) (before ++ second) := by
  induction before with
  | nil => exact rebroken
  | cons character before hypothesis => exact .cons character hypothesis

theorem append
    {first second before changed : List Char}
    (early : Rebroken before changed)
    (late : Rebroken first second) :
    Rebroken (before ++ first) (changed ++ second) := by
  induction early with
  | nil => exact late
  | cons character others hypothesis => exact .cons character hypothesis
  | gap blank changedBlank breaks changedBreaks others hypothesis =>
      rw [List.append_assoc, List.append_assoc]
      exact hypothesis.gap blank changedBlank breaks changedBreaks

/-! ## Parts of texts -/

/-- A text falls apart in the same way before a character that is no blank. -/
theorem exists_append
    {before after text : List Char}
    (stops : Stops isBlank after)
    (rebroken : Rebroken (before ++ after) text) :
    ∃ changedBefore changedAfter, text = changedBefore ++ changedAfter ∧
      Rebroken before changedBefore ∧ Rebroken after changedAfter := by
  generalize whole : before ++ after = source at rebroken
  induction rebroken generalizing before with
  | nil =>
      rcases List.append_eq_nil_iff.mp whole with ⟨rfl, rfl⟩
      exact ⟨[], [], rfl, .nil, .nil⟩
  | @cons character first second others hypothesis =>
      cases before with
      | nil =>
          rw [List.nil_append] at whole
          subst whole
          exact ⟨[], _, rfl, .nil, others.cons character⟩
      | cons head before =>
          rcases List.cons.inj whole with ⟨rfl, later⟩
          rcases hypothesis later with ⟨changedBefore, changedAfter, rfl, early, late⟩
          exact ⟨head :: changedBefore, changedAfter, rfl, early.cons head, late⟩
  | @gap blanks changed first second blank changedBlank breaks changedBreaks others hypothesis =>
      rcases List.append_eq_append_iff.mp whole with ⟨more, longer, later⟩ | ⟨more, rfl, later⟩
      · -- The run of blanks ends with the first part, as the second begins with none.
        cases more with
        | nil =>
            rw [List.append_nil] at longer
            rw [List.nil_append] at later
            subst longer later
            refine ⟨changed, second, rfl, ?_, others⟩
            simpa using Rebroken.nil.gap blank changedBlank breaks changedBreaks
        | cons character more =>
            have isBlankHere : isBlank character = true := by
              rw [longer, List.all_append, Bool.and_eq_true, List.all_cons] at blank
              exact (Bool.and_eq_true _ _ ▸ blank.2).1
            have isNot := stops character (by rw [later]; rfl)
            rw [isBlankHere] at isNot
            cases isNot
      · rcases hypothesis later.symm with ⟨changedBefore, changedAfter, rfl, early, late⟩
        exact ⟨changed ++ changedBefore, changedAfter, (List.append_assoc _ _ _).symm,
          early.gap blank changedBlank breaks changedBreaks, late⟩

/-- A text keeps a character at its front that is no blank. -/
theorem exists_cons
    {character : Char}
    {after text : List Char}
    (visible : isBlank character = false)
    (rebroken : Rebroken (character :: after) text) :
    ∃ changed, text = character :: changed ∧ Rebroken after changed := by
  generalize whole : character :: after = source at rebroken
  cases rebroken with
  | nil => cases whole
  | cons head others =>
      cases whole
      exact ⟨_, rfl, others⟩
  | @gap blanks changed first second blank changedBlank breaks changedBreaks others =>
      cases blanks with
      | nil => cases breaks
      | cons head blanks =>
          cases whole
          rw [List.all_cons, visible] at blank
          cases blank

/-- A part that neither begins nor ends with a blank stays apart from the texts around it. -/
theorem exists_append_tight
    {before part after text : List Char}
    (nonempty : part ≠ [])
    (tight : Tight part)
    (rebroken : Rebroken (before ++ (part ++ after)) text) :
    ∃ changedBefore changedPart changedAfter,
      text = changedBefore ++ (changedPart ++ changedAfter) ∧
        Rebroken part changedPart ∧ Rebroken after changedAfter := by
  rcases List.eq_nil_or_concat' part with empty | ⟨front, last, rfl⟩
  · exact absurd empty nonempty
  · have lastVisible : isBlank last = false := tight.finish last (by simp)
    have stops : Stops isBlank (front ++ [last] ++ after) := by
      intro character isHead
      refine tight.start character ?_
      rw [List.head?_append_of_ne_nil _ nonempty] at isHead
      exact isHead
    rcases rebroken.exists_append stops with ⟨changedBefore, _, rfl, -, later⟩
    rw [List.append_assoc] at later
    rcases later.exists_append (stops_cons lastVisible after) with
      ⟨changedFront, _, rfl, sameFront, fromLast⟩
    rcases fromLast.exists_cons lastVisible with ⟨changedAfter, rfl, sameAfter⟩
    exact ⟨changedBefore, changedFront ++ [last], changedAfter, by simp,
      sameFront.append (.refl [last]), sameAfter⟩

/-- What holds no line feed is not changed. -/
theorem eq_of_lineFeed_notMem
    {text changed : List Char}
    (rebroken : Rebroken text changed)
    (inLine : '\n' ∉ text) :
    changed = text := by
  induction rebroken with
  | nil => rfl
  | cons character others hypothesis =>
      rw [hypothesis (fun member => inLine (List.mem_cons_of_mem _ member))]
  | gap blank changedBlank breaks changedBreaks others hypothesis =>
      exact absurd (List.mem_append_left _ breaks) inLine

/-- What holds a line feed still holds one. -/
theorem lineFeed_mem
    {text changed : List Char}
    (rebroken : Rebroken text changed)
    (breaks : '\n' ∈ text) :
    '\n' ∈ changed := by
  induction rebroken with
  | nil => cases breaks
  | cons character others hypothesis =>
      rcases List.mem_cons.mp breaks with here | later
      · exact List.mem_cons.mpr (.inl here)
      · exact List.mem_cons_of_mem _ (hypothesis later)
  | gap blank changedBlank _ changedBreaks others hypothesis =>
      exact List.mem_append_left _ changedBreaks

/-- Blanks before a line feed make no difference. -/
theorem append_blanks
    {blanks first second : List Char}
    (blank : blanks.all isBlank = true)
    (rebroken : Rebroken ('\n' :: first) ('\n' :: second)) :
    Rebroken (blanks ++ '\n' :: first) ('\n' :: second) := by
  generalize whole : '\n' :: first = source at rebroken
  generalize changedWhole : '\n' :: second = target at rebroken
  cases rebroken with
  | nil => cases whole
  | cons character others =>
      cases whole
      cases changedWhole
      have longer : (blanks ++ ['\n']).all isBlank = true := by
        rw [List.all_append, blank, all_isBlank_lineFeed]
        rfl
      simpa using others.gap longer all_isBlank_lineFeed (by simp) (by simp)
  | @gap gap changed first second isGap changedBlank breaks changedBreaks others =>
      have longer : (blanks ++ gap).all isBlank = true := by
        rw [List.all_append, blank, isGap]
        rfl
      rw [← List.append_assoc]
      exact others.gap longer changedBlank (List.mem_append_right _ breaks) changedBreaks

end Rebroken

/-! ## Indenting -/

/-- A line that ends with a carriage return, without it. -/
def withoutReturn (line : List Char) : List Char :=
  if line.getLast? = some '\r' then line.dropLast else line

theorem exists_withoutReturn_append (line : List Char) :
    ∃ blanks, blanks.all isBlank = true ∧ line = withoutReturn line ++ blanks := by
  rw [withoutReturn]
  split
  · rename_i ends
    exact ⟨['\r'], by decide, (List.dropLast_append_getLast? _ ends).symm⟩
  · exact ⟨[], rfl, (List.append_nil line).symm⟩

/-- The lines that the parts between line feeds are. -/
def linesOf : List (List Char) → List (List Char)
  | [] => []
  | [last] => if last = [] then [] else [last]
  | part :: others => withoutReturn part :: linesOf others

theorem lines_eq_linesOf (text : List Char) :
    lines text = linesOf (text.splitOn '\n') := by
  rw [lines]
  generalize text.splitOn '\n' = parts
  induction parts with
  | nil => rfl
  | cons part others hypothesis =>
      cases others with
      | nil => cases part <;> rfl
      | cons second others =>
          have later : linesOf (part :: second :: others) =
              withoutReturn part :: linesOf (second :: others) := rfl
          rw [later, ← hypothesis, List.getLast?_cons_cons, List.dropLast_cons_cons, List.map_cons]
          cases (second :: others).getLast? with
          | none => rfl
          | some last => cases last <;> rfl

/-- Only the empty text has no lines. -/
theorem eq_nil_of_lines_eq_nil
    {text : List Char}
    (noLines : lines text = []) :
    text = [] := by
  have parted : ['\n'].intercalate (text.splitOn '\n') = text :=
    List.intercalate_splitOn '\n'
  rw [lines_eq_linesOf] at noLines
  generalize text.splitOn '\n' = parts at parted noLines
  cases parts with
  | nil => exact parted.symm
  | cons part others =>
      cases others with
      | nil =>
          rw [linesOf] at noLines
          split at noLines
          · rename_i empty
            rw [← parted, empty]
            rfl
          · cases noLines
      | cons second others => cases noLines

/-- Lines with a line feed behind each of them, and what follows them. -/
def ended
    (lines : List (List Char))
    (rest : List Char) :
    List Char :=
  lines.foldr (fun line text => line ++ '\n' :: text) rest

theorem intercalate_append
    {lines : List (List Char)}
    (nonempty : lines ≠ [])
    (rest : List Char) :
    ['\n'].intercalate lines ++ '\n' :: rest = ended lines rest := by
  induction lines with
  | nil => exact absurd rfl nonempty
  | cons line others hypothesis =>
      cases others with
      | nil => simp [ended]
      | cons second others =>
          rw [List.intercalate_cons_cons, List.append_assoc, hypothesis (List.cons_ne_nil _ _)]
          simp [ended]

/-- A line is indented before texts that are broken anew. -/
theorem rebroken_indentLine
    (width : Nat)
    (line : List Char)
    {blanks first second : List Char}
    (blank : blanks.all isBlank = true)
    (others : Rebroken ('\n' :: first) ('\n' :: second)) :
    Rebroken ('\n' :: ((line ++ blanks) ++ '\n' :: first))
      ('\n' :: (indentLine width line ++ '\n' :: second)) := by
  rw [indentLine]
  split
  · rename_i blankLine
    refine .cons '\n' (others.append_blanks ?_)
    rw [List.all_append, blankLine, blank]
    rfl
  · have spaces : ('\n' :: List.replicate width ' ').all isBlank = true := by
      rw [List.all_cons, List.all_replicate]
      simp [isBlank]
    have rebroken := ((others.append_blanks blank).append_left line).gap
      all_isBlank_lineFeed spaces (by simp) (by simp)
    simpa using rebroken

theorem rebroken_ended
    (width : Nat)
    (parts : List (List Char))
    (rest : List Char) :
    Rebroken ('\n' :: ended parts rest)
      ('\n' :: ended ((linesOf parts).map (indentLine width)) rest) := by
  induction parts with
  | nil => exact .refl _
  | cons part others hypothesis =>
      cases others with
      | nil =>
          rw [linesOf]
          split
          · rename_i empty
            subst empty
            exact (Rebroken.refl ('\n' :: rest)).append_blanks all_isBlank_lineFeed
          · have noBlanks : ([] : List Char).all isBlank = true := rfl
            simpa [ended] using
              rebroken_indentLine width part noBlanks (.refl ('\n' :: rest))
      | cons second others =>
          rcases exists_withoutReturn_append part with ⟨blanks, blank, whole⟩
          have rebroken := rebroken_indentLine width (withoutReturn part) blank hypothesis
          rw [← whole] at rebroken
          exact rebroken

/-- An indented text between line feeds is broken anew. -/
theorem rebroken_indent
    (width : Nat)
    (text rest : List Char) :
    Rebroken ('\n' :: (text ++ '\n' :: rest)) ('\n' :: (indent width text ++ '\n' :: rest)) := by
  by_cases noLines : lines text = []
  · rw [eq_nil_of_lines_eq_nil noLines]
    exact .refl _
  · have rebroken := rebroken_ended width (text.splitOn '\n') rest
    rw [← intercalate_append (List.splitOn_ne_nil '\n' text), ← lines_eq_linesOf,
      ← intercalate_append (mt List.map_eq_nil_iff.mp noLines)] at rebroken
    have parted : ['\n'].intercalate (text.splitOn '\n') = text :=
      List.intercalate_splitOn '\n'
    rwa [parted] at rebroken

end ViewAccessors.Text
