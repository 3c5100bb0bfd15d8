import Mathlib.Data.List.Basic
import Mathlib.Data.List.Induction

/-!
# What a list tells last

Some members of a list tell something about a matter, and the others are silent
about it.  Where what is told last counts, one more member either tells what
counts or leaves it as it is.
-/

namespace ViewAccessors

section

variable {Member Word : Type}

/-- The last member that tells anything tells this. -/
def Latest
    (tells : Member → Word → Prop)
    (members : List Member)
    (word : Word) :
    Prop :=
  ∃ before member after, members = before ++ member :: after ∧ tells member word ∧
    ∀ later ∈ after, ∀ other, ¬ tells later other

variable
    {tells : Member → Word → Prop}
    {members : List Member}
    {member : Member}
    {word : Word}

theorem Latest.exists_mem (latest : Latest tells members word) :
    ∃ member ∈ members, tells member word := by
  rcases latest with ⟨before, member, after, rfl, told, -⟩
  exact ⟨member, List.mem_append_right _ List.mem_cons_self, told⟩

/-- One more member tells what counts if it is not silent, and changes nothing if it is. -/
theorem latest_concat_iff :
    Latest tells (members ++ [member]) word ↔
      tells member word ∨
        (∀ other, ¬ tells member other) ∧ Latest tells members word := by
  constructor
  · rintro ⟨before, last, after, whole, told, silent⟩
    rcases List.eq_nil_or_concat' after with rfl | ⟨early, final, rfl⟩
    · rcases List.append_inj' whole rfl with ⟨-, same⟩
      cases same
      exact .inl told
    · rw [← List.cons_append, ← List.append_assoc] at whole
      rcases List.append_inj' whole rfl with ⟨shorter, same⟩
      cases same
      refine .inr ⟨?_, before, last, early, shorter, told, ?_⟩
      · exact silent member (List.mem_append_right _ (List.mem_singleton_self _))
      · exact fun later present => silent later (List.mem_append_left _ present)
  · rintro (told | ⟨quiet, before, last, after, rfl, told, silent⟩)
    · exact ⟨members, member, [], rfl, told, fun _ present => absurd present List.not_mem_nil⟩
    · refine ⟨before, last, after ++ [member], by simp, told, ?_⟩
      intro later present
      rcases List.mem_append.mp present with early | final
      · exact silent later early
      · rw [List.mem_singleton.mp final]
        exact quiet

/-- Where anything is told, something is told last. -/
theorem exists_latest_of_mem
    (present : member ∈ members)
    (told : tells member word) :
    ∃ latest, Latest tells members latest := by
  induction members using List.reverseRecOn with
  | nil => cases present
  | append_singleton members last hypothesis =>
      simp only [latest_concat_iff]
      by_cases spoken : ∃ latest, tells last latest
      · rcases spoken with ⟨latest, toldLast⟩
        exact ⟨latest, .inl toldLast⟩
      · have quiet : ∀ latest, ¬ tells last latest := not_exists.mp spoken
        rcases List.mem_append.mp present with early | final
        · rcases hypothesis early with ⟨latest, isLatest⟩
          exact ⟨latest, .inr ⟨quiet, isLatest⟩⟩
        · rw [List.mem_singleton.mp final] at told
          exact absurd told (quiet word)

/-- Members that are silent can be left out. -/
theorem latest_filter_iff
    {selected : Member → Bool}
    (speakers : ∀ member word, tells member word → selected member = true) :
    Latest tells (members.filter selected) word ↔ Latest tells members word := by
  induction members using List.reverseRecOn with
  | nil => rfl
  | append_singleton members last hypothesis =>
      rw [latest_concat_iff, List.filter_append, List.filter_cons, List.filter_nil]
      cases kept : selected last with
      | true => rw [if_pos rfl, latest_concat_iff, hypothesis]
      | false =>
          have quiet : ∀ other, ¬ tells last other := by
            intro other told
            rw [speakers last other told] at kept
            cases kept
          rw [if_neg Bool.false_ne_true, List.append_nil, hypothesis]
          simp [quiet]

end

end ViewAccessors
