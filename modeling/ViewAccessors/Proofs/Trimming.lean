import Mathlib.Data.List.TakeWhile
import ViewAccessors.Proofs.Markup.Scanning

/-!
# Trimming

A trimmed text is what remains of a text between blanks: it neither begins nor
ends with a blank, and the blanks around it can be put back.  These facts
determine it, so nothing else has to be known about how a text is trimmed.
-/

namespace ViewAccessors.Text

/-- A text neither begins nor ends with a blank. -/
structure Tight (text : List Char) : Prop where
  start : Stops isBlank text
  finish : Stops isBlank text.reverse

/-- A text with other characters than blanks at both ends is tight. -/
theorem tight_of_ends
    {first last : Char}
    {text : List Char}
    (firstIsNoBlank : isBlank first = false)
    (lastIsNoBlank : isBlank last = false)
    (begins : text.head? = some first)
    (ends : text.getLast? = some last) :
    Tight text := by
  constructor
  · intro character isHead
    rw [begins] at isHead
    cases isHead
    exact firstIsNoBlank
  · intro character isHead
    rw [List.head?_reverse, ends] at isHead
    cases isHead
    exact lastIsNoBlank

/-- A character that is no blank does not occur among blanks. -/
theorem notMem_of_all_isBlank
    {blanks : List Char}
    (areBlanks : blanks.all isBlank = true)
    {character : Char}
    (visible : isBlank character = false) :
    character ∉ blanks := by
  intro member
  have isBlank := List.all_eq_true.mp areBlanks character member
  rw [visible] at isBlank
  cases isBlank

theorem trimStart_append
    {blanks text : List Char}
    (members : blanks.all isBlank = true)
    (stops : Stops isBlank text) :
    trimStart (blanks ++ text) = text :=
  (takeWhile_append_of_stops members stops).2

theorem trimStart_of_all
    {blanks : List Char}
    (members : blanks.all isBlank = true) :
    trimStart blanks = [] := by
  simpa using trimStart_append members (stops_nil isBlank)

/-- Blanks alone are trimmed away. -/
theorem trim_of_all
    {blanks : List Char}
    (members : blanks.all isBlank = true) :
    trim blanks = [] := by
  rw [trim, trimStart_of_all members]
  rfl

/-- Trimming gives a tight text back from between blanks. -/
theorem trim_surrounded
    {before text after : List Char}
    (blankBefore : before.all isBlank = true)
    (tight : Tight text)
    (blankAfter : after.all isBlank = true) :
    trim (before ++ (text ++ after)) = text := by
  cases text with
  | nil =>
      apply trim_of_all
      rw [List.nil_append, List.all_append, blankBefore, blankAfter]
      rfl
  | cons first others =>
      have stops : Stops isBlank (first :: others ++ after) :=
        stops_cons (tight.start first rfl) _
      have reversed : after.reverse.all isBlank = true := by
        rwa [List.all_reverse]
      rw [trim, trimStart_append blankBefore stops, trimEnd, List.reverse_append,
        trimStart_append reversed tight.finish, List.reverse_reverse]

/-- The end of a text that trimming cuts off. -/
theorem trimEnd_append_blanks (text : List Char) :
    trimEnd text ++ (text.reverse.takeWhile isBlank).reverse = text :=
  calc
    trimEnd text ++ (text.reverse.takeWhile isBlank).reverse
    _ = (text.reverse.takeWhile isBlank ++ text.reverse.dropWhile isBlank).reverse := by
        rw [List.reverse_append]
        rfl
    _ = text := by
        rw [List.takeWhile_append_dropWhile, List.reverse_reverse]

/-- Nothing is cut off before a character that is no blank. -/
theorem trimEnd_append
    {after : List Char}
    {character : Char}
    (member : character ∈ after)
    (visible : isBlank character = false)
    (before : List Char) :
    trimEnd (before ++ after) = before ++ trimEnd after := by
  have remains : after.reverse.dropWhile isBlank ≠ [] := by
    intro none
    have allBlank := List.dropWhile_eq_nil_iff.mp none character (List.mem_reverse.mpr member)
    rw [visible] at allBlank
    cases allBlank
  rw [trimEnd, trimEnd, trimStart, trimStart, List.reverse_append, List.dropWhile_append,
    if_neg (by simpa using remains), List.reverse_append, List.reverse_reverse]

/-- Every text is its trimmed text between blanks. -/
theorem exists_surrounded (text : List Char) :
    ∃ before after, before.all isBlank = true ∧ after.all isBlank = true ∧
      text = before ++ (trim text ++ after) := by
  refine ⟨text.takeWhile isBlank, ((trimStart text).reverse.takeWhile isBlank).reverse,
    List.all_takeWhile, ?_, ?_⟩
  · rw [List.all_reverse, List.all_takeWhile]
  · rw [trim, trimEnd_append_blanks, trimStart, List.takeWhile_append_dropWhile]

/-- A trimmed text is tight. -/
theorem tight_trim (text : List Char) :
    Tight (trim text) := by
  constructor
  · intro character isHead
    have whole := trimEnd_append_blanks (trimStart text)
    rcases List.head?_eq_some_iff.mp isHead with ⟨others, begins⟩
    change trim text ++ _ = _ at whole
    rw [begins, List.cons_append] at whole
    exact stops_dropWhile isBlank text character (by rw [← trimStart, ← whole, List.head?_cons])
  · rw [trim, trimEnd, List.reverse_reverse]
    exact stops_dropWhile isBlank _

/-- Blanks around a text make no difference to its trimmed text. -/
theorem trim_append_append
    {before after : List Char}
    (blankBefore : before.all isBlank = true)
    (text : List Char)
    (blankAfter : after.all isBlank = true) :
    trim (before ++ (text ++ after)) = trim text := by
  rcases exists_surrounded text with ⟨first, last, blankFirst, blankLast, whole⟩
  have surrounded : before ++ (text ++ after) =
      (before ++ first) ++ (trim text ++ (last ++ after)) := by
    conv_lhs => rw [whole]
    simp only [List.append_assoc]
  rw [surrounded]
  apply trim_surrounded _ (tight_trim text)
  · rw [List.all_append, blankLast, blankAfter]
    rfl
  · rw [List.all_append, blankBefore, blankFirst]
    rfl

end ViewAccessors.Text
