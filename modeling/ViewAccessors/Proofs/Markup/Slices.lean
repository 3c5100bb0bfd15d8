import ViewAccessors.Proofs.Markup.Positions

/-!
# Slices of a text

A text is cut at offsets that count its bytes, which is possible between two
characters and nowhere else.  A slice is what two such cuts leave between
them, so that it is determined by the text before it and by its own length.
-/

namespace ViewAccessors.Markup

/-- The parts of a text before and behind an offset, which has to be between two characters. -/
def cutAt? (offset : Nat) : List Char → Option (List Char × List Char)
  | [] => if offset = 0 then some ([], []) else none
  | character :: text =>
    if offset = 0 then
      some ([], character :: text)
    else if offset < character.utf8Size then
      none
    else
      (cutAt? (offset - character.utf8Size) text).map fun (before, after) =>
        (character :: before, after)

theorem cutAt?_eq_some_iff
    {offset : Nat}
    {text before after : List Char} :
    cutAt? offset text = some (before, after) ↔
      text = before ++ after ∧ (String.ofList before).utf8ByteSize = offset := by
  have size_nil : (String.ofList []).utf8ByteSize = 0 := rfl
  induction text generalizing offset before with
  | nil =>
      rw [cutAt?]
      constructor
      · intro cut
        split at cut
        · cases cut
          exact ⟨rfl, by omega⟩
        · cases cut
      · rintro ⟨empty, rfl⟩
        rcases List.nil_eq_append_iff.mp empty with ⟨rfl, rfl⟩
        rfl
  | cons character text hypothesis =>
      have size := character.utf8Size_pos
      rw [cutAt?]
      constructor
      · intro cut
        split at cut
        · cases cut
          exact ⟨rfl, by omega⟩
        · split at cut
          · cases cut
          · rcases Option.map_eq_some_iff.mp cut with ⟨⟨early, late⟩, cutRest, same⟩
            cases same
            rcases hypothesis.mp cutRest with ⟨rfl, bytes⟩
            refine ⟨rfl, ?_⟩
            rw [utf8ByteSize_cons]
            omega
      · rintro ⟨whole, rfl⟩
        cases before with
        | nil => rw [size_nil, if_pos rfl, whole, List.nil_append]
        | cons first early =>
            rw [List.cons_append, List.cons.injEq] at whole
            rcases whole with ⟨rfl, whole⟩
            rw [utf8ByteSize_cons, if_neg (by omega), if_neg (by omega), Nat.add_sub_cancel_left,
              hypothesis.mpr ⟨whole, rfl⟩]
            rfl

/-- The part of a text between two offsets, which have to be in order and between characters. -/
def slice?
    (text : List Char)
    (start stop : Nat) :
    Option (List Char) := do
  let (before, _) ← cutAt? stop text
  let (_, slice) ← cutAt? start before
  return slice

theorem slice?_eq_some_iff
    {text slice : List Char}
    {start stop : Nat} :
    slice? text start stop = some slice ↔
      ∃ before after, text = before ++ slice ++ after ∧
        (String.ofList before).utf8ByteSize = start ∧
          (String.ofList (before ++ slice)).utf8ByteSize = stop := by
  simp only [slice?, bind, Option.bind_eq_some_iff, Prod.exists, cutAt?_eq_some_iff]
  constructor
  · rintro ⟨_, after, ⟨rfl, stops⟩, before, _, ⟨rfl, starts⟩, same⟩
    cases same
    exact ⟨before, after, rfl, starts, stops⟩
  · rintro ⟨before, after, rfl, starts, stops⟩
    exact ⟨before ++ slice, after, ⟨rfl, stops⟩, before, slice, ⟨rfl, starts⟩, rfl⟩

end ViewAccessors.Markup
