import ViewAccessors.Proofs.Outcomes
import ViewAccessors.Proofs.Trimming
import ViewAccessors.View

/-!
# Texts that name classes

A text names a class by what follows its last dot.  It names none exactly if
only blanks follow, which is said here without cutting the text.  The name of
a class holds no dot and has no blanks around it.
-/

namespace ViewAccessors

namespace Text

theorem splitLast_eq_some_iff
    {separator : Char}
    {text before after : List Char} :
    splitLast separator text = some (before, after) ↔
      text = before ++ separator :: after ∧ separator ∉ after := by
  rw [splitLast, Option.map_eq_some_iff]
  constructor
  · rintro ⟨⟨late, early⟩, split, parts⟩
    cases parts
    rcases splitFirst_eq_some_iff.mp split with ⟨reversed, absent⟩
    constructor
    · rw [← List.reverse_reverse text, reversed]
      simp
    · rwa [List.mem_reverse]
  · rintro ⟨rfl, absent⟩
    refine ⟨(after.reverse, before.reverse), splitFirst_eq_some_iff.mpr ⟨by simp, ?_⟩, by simp⟩
    rwa [List.mem_reverse]

theorem splitLast_eq_none_iff
    (separator : Char)
    (text : List Char) :
    splitLast separator text = none ↔ separator ∉ text := by
  rw [splitLast, Option.map_eq_none_iff, splitFirst_eq_none_iff, List.mem_reverse]

/-- A text is blank exactly if nothing remains of it when it is trimmed. -/
theorem trim_eq_nil_iff (text : List Char) :
    trim text = [] ↔ text.all isBlank = true := by
  constructor
  · intro empty
    rcases exists_surrounded text with ⟨before, after, blankBefore, blankAfter, whole⟩
    rw [whole, empty, List.nil_append, List.all_append, blankBefore, blankAfter]
    rfl
  · exact trim_of_all

theorem trim_trim (text : List Char) :
    trim (trim text) = trim text := by
  simpa using @trim_surrounded [] (trim text) [] rfl (tight_trim text) rfl

theorem trimmed_trimmed (text : String) :
    trimmed (trimmed text) = trimmed text := by
  rw [trimmed, toList_trimmed, trim_trim, trimmed]

end Text

namespace View

open Text

/-- Nothing but blanks follows the last dot of the text, or there is nothing but blanks in it. -/
def NamesNoClass (text : List Char) : Prop :=
  ∃ qualifier blanks, text = qualifier ++ blanks ∧ blanks.all isBlank = true ∧
    (qualifier = [] ∨ ∃ before, qualifier = before ++ ['.'])

/-- A text with a last dot names no class exactly if only blanks follow that dot. -/
theorem namesNoClass_iff_of_splitLast
    {text before after : List Char}
    (split : splitLast '.' text = some (before, after)) :
    NamesNoClass text ↔ after.all isBlank = true := by
  have whole := (splitLast_eq_some_iff.mp split).1
  constructor
  · rintro ⟨qualifier, blanks, same, areBlanks, rfl | ⟨first, rfl⟩⟩
    · have undotted : '.' ∉ blanks := notMem_of_all_isBlank areBlanks rfl
      rw [List.nil_append] at same
      simp [← same, whole] at undotted
    · have again : splitLast '.' text = some (first, blanks) :=
        splitLast_eq_some_iff.mpr ⟨by simp [same], notMem_of_all_isBlank areBlanks rfl⟩
      rw [split] at again
      cases again
      exact areBlanks
  · intro areBlanks
    exact ⟨before ++ ['.'], after, by simp [whole], areBlanks, .inr ⟨before, rfl⟩⟩

/-- A text without a dot names no class exactly if it is blank. -/
theorem namesNoClass_iff_of_notMem
    {text : List Char}
    (absent : '.' ∉ text) :
    NamesNoClass text ↔ text.all isBlank = true := by
  constructor
  · rintro ⟨qualifier, blanks, rfl, areBlanks, rfl | ⟨first, rfl⟩⟩
    · exact areBlanks
    · simp at absent
  · intro areBlanks
    exact ⟨[], text, rfl, areBlanks, .inl rfl⟩

/-- Whether a text names a class does not depend on the blanks around it. -/
theorem namesNoClass_trim_iff (text : List Char) :
    NamesNoClass (trim text) ↔ NamesNoClass text := by
  rcases exists_surrounded text with ⟨before, after, blankBefore, blankAfter, whole⟩
  cases split : splitLast '.' (trim text) with
  | none =>
      have absent := (splitLast_eq_none_iff _ _).mp split
      have undotted : '.' ∉ text := by
        rw [whole, List.mem_append, List.mem_append, not_or, not_or]
        exact ⟨notMem_of_all_isBlank blankBefore rfl, absent,
          notMem_of_all_isBlank blankAfter rfl⟩
      rw [namesNoClass_iff_of_notMem absent, namesNoClass_iff_of_notMem undotted,
        ← trim_eq_nil_iff, ← trim_eq_nil_iff, trim_trim]
  | some parts =>
      rcases parts with ⟨early, late⟩
      have shorter := splitLast_eq_some_iff.mp split
      have longer : splitLast '.' text = some (before ++ early, late ++ after) := by
        refine splitLast_eq_some_iff.mpr ⟨?_, ?_⟩
        · conv_lhs => rw [whole, shorter.1]
          simp
        · rw [List.mem_append, not_or]
          exact ⟨shorter.2, notMem_of_all_isBlank blankAfter rfl⟩
      rw [namesNoClass_iff_of_splitLast split, namesNoClass_iff_of_splitLast longer,
        List.all_append, blankAfter, Bool.and_true]

theorem className?_eq_none_iff (text : String) :
    className? text = none ↔ NamesNoClass text.toList := by
  rw [← namesNoClass_trim_iff, className?]
  cases split : splitLast '.' (trim text.toList) with
  | none =>
      have absent := (splitLast_eq_none_iff _ _).mp split
      rw [namesNoClass_iff_of_notMem absent, ← trim_eq_nil_iff, trim_trim]
      simp
  | some parts =>
      rcases parts with ⟨before, after⟩
      rw [namesNoClass_iff_of_splitLast split, ← trim_eq_nil_iff]
      simp

/-- What is known of the name of a class, whatever the text was from which it was taken. -/
structure IsClassName (name : List Char) : Prop where
  nonempty : name ≠ []
  undotted : '.' ∉ name
  tight : Tight name

theorem dot_notMem_trim
    {text : List Char}
    (undotted : '.' ∉ text) :
    '.' ∉ trim text := by
  rcases exists_surrounded text with ⟨before, after, -, -, whole⟩
  rw [whole, List.mem_append, List.mem_append, not_or, not_or] at undotted
  exact undotted.2.1

theorem isClassName_of_className?
    {text namespaceName className : String}
    (named : className? text = some (namespaceName, className)) :
    IsClassName className.toList := by
  have isClassName : ∀ name : List Char, '.' ∉ name → ¬ (trim name).isEmpty →
      IsClassName (trim name) := fun name undotted nonempty =>
    ⟨by simpa using nonempty, dot_notMem_trim undotted, tight_trim name⟩
  rw [className?] at named
  cases cut : splitLast '.' (trim text.toList) with
  | none =>
      have undotted := (splitLast_eq_none_iff _ _).mp cut
      simp only [cut] at named
      split at named
      · cases named
      · rename_i nonempty
        cases named
        rw [← trim_trim] at nonempty
        simpa [trim_trim] using isClassName _ undotted nonempty
  | some parts =>
      rcases parts with ⟨before, after⟩
      have undotted := (splitLast_eq_some_iff.mp cut).2
      simp only [cut] at named
      split at named
      · cases named
      · rename_i nonempty
        cases named
        simpa using isClassName after undotted nonempty

/-- The class of a view has a proper name. -/
theorem isClassName_of_ofText?
    {namespaces : NamespaceMap}
    {text : String}
    {view : View}
    (isView : ofText? namespaces text = .ok (some view)) :
    IsClassName view.className.toList := by
  rcases map_eq_ok_iff.mp isView with ⟨root, -, found⟩
  rcases Option.map_eq_some_iff.mp found with ⟨⟨namespaceName, className⟩, named, rfl⟩
  rcases Option.bind_eq_some_iff.mp named with ⟨entry, -, named⟩
  exact isClassName_of_className? named

end View

end ViewAccessors
