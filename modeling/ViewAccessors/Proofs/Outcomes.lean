/-!
# Computations that may fail

When a computation that is mapped or continued succeeds, and when it fails.
-/

namespace ViewAccessors

section

variable {Fault First Second : Type}

theorem map_eq_ok_iff
    {computation : Except Fault First}
    {change : First → Second}
    {result : Second} :
    computation.map change = .ok result ↔
      ∃ value, computation = .ok value ∧ change value = result := by
  cases computation with
  | error fault => simp [Except.map]
  | ok value => simp [Except.map]

theorem map_eq_error_iff
    {computation : Except Fault First}
    {change : First → Second}
    {fault : Fault} :
    computation.map change = .error fault ↔ computation = .error fault := by
  cases computation with
  | error other => simp [Except.map]
  | ok value => simp [Except.map]

theorem mapError_eq_ok_iff
    {Other : Type}
    {computation : Except Fault First}
    {change : Fault → Other}
    {result : First} :
    computation.mapError change = .ok result ↔ computation = .ok result := by
  cases computation with
  | error fault => exact ⟨nofun, nofun⟩
  | ok value =>
      constructor
      · intro same
        cases same
        rfl
      · intro same
        cases same
        rfl

theorem mapError_eq_error_iff
    {Other : Type}
    {computation : Except Fault First}
    {change : Fault → Other}
    {fault : Other} :
    computation.mapError change = .error fault ↔
      ∃ cause, computation = .error cause ∧ change cause = fault := by
  cases computation with
  | error cause =>
      constructor
      · intro failed
        cases failed
        exact ⟨cause, rfl, rfl⟩
      · rintro ⟨_, same, rfl⟩
        cases same
        rfl
  | ok value =>
      constructor
      · intro failed
        cases failed
      · rintro ⟨_, same, -⟩
        cases same

theorem bind_ok
    (value : First)
    (next : First → Except Fault Second) :
    (Except.ok value).bind next = next value :=
  rfl

theorem bind_eq_ok_iff
    {computation : Except Fault First}
    {next : First → Except Fault Second}
    {result : Second} :
    computation.bind next = .ok result ↔
      ∃ value, computation = .ok value ∧ next value = .ok result := by
  cases computation with
  | error fault => simp [Except.bind]
  | ok value => simp [Except.bind]

theorem bind_eq_error_iff
    {computation : Except Fault First}
    {next : First → Except Fault Second}
    {fault : Fault} :
    computation.bind next = .error fault ↔
      computation = .error fault ∨
        ∃ value, computation = .ok value ∧ next value = .error fault := by
  cases computation with
  | error other => simp [Except.bind]
  | ok value => simp [Except.bind]

/-- If nothing fails afterwards, a computation fails for its own reasons only. -/
theorem mapError_bind_eq_error_iff
    {Other : Type}
    {computation : Except Fault First}
    {change : Fault → Other}
    {next : First → Except Other Second}
    {fault : Other}
    (works : ∀ value, ∃ result, next value = .ok result) :
    (computation.mapError change).bind next = .error fault ↔
      ∃ cause, computation = .error cause ∧ change cause = fault := by
  rw [bind_eq_error_iff, mapError_eq_error_iff, or_iff_left]
  rintro ⟨value, -, failed⟩
  rcases works value with ⟨result, worked⟩
  rw [worked] at failed
  cases failed

/-- A list is worked through if its first member is and then the others are. -/
theorem mapM_cons_eq_ok_iff
    {step : First → Except Fault Second}
    {first : First}
    {others : List First}
    {results : List Second} :
    (first :: others).mapM step = .ok results ↔
      ∃ result later, step first = .ok result ∧ others.mapM step = .ok later ∧
        result :: later = results := by
  rw [List.mapM_cons]
  change (step first).bind (fun result => (others.mapM step).bind fun later =>
    .ok (result :: later)) = _ ↔ _
  simp only [bind_eq_ok_iff, Except.ok.injEq, exists_and_left]

/-- Working through a list fails at the first member that fails. -/
theorem mapM_eq_error_iff
    {step : First → Except Fault Second}
    {members : List First}
    {fault : Fault} :
    members.mapM step = .error fault ↔
      ∃ before member after, members = before ++ member :: after ∧
        (∀ earlier ∈ before, ∃ result, step earlier = .ok result) ∧
          step member = .error fault := by
  induction members with
  | nil => simp [pure, Except.pure]
  | cons first others hypothesis =>
      rw [List.mapM_cons]
      change (step first).bind (fun result => (others.mapM step).bind fun later =>
        .ok (result :: later)) = _ ↔ _
      simp only [bind_eq_error_iff, reduceCtorEq, and_false, exists_false, or_false, hypothesis]
      constructor
      · rintro (failed | ⟨result, worked, before, member, after, rfl, work, failed⟩)
        · exact ⟨[], first, others, rfl, by simp, failed⟩
        · refine ⟨first :: before, member, after, rfl, ?_, failed⟩
          intro earlier present
          cases present with
          | head => exact ⟨result, worked⟩
          | tail _ later => exact work earlier later
      · rintro ⟨before, member, after, split, work, failed⟩
        cases before with
        | nil =>
            cases split
            exact .inl failed
        | cons earlier before =>
            cases split
            rcases work first List.mem_cons_self with ⟨result, worked⟩
            exact .inr ⟨result, worked, before, member, after, rfl,
              fun other later => work other (List.mem_cons_of_mem _ later), failed⟩

/-- Going through a list fails at one member, up to which it has gone well. -/
theorem foldlM_eq_error_iff
    {step : Second → First → Except Fault Second}
    {members : List First}
    {start : Second}
    {fault : Fault} :
    members.foldlM step start = .error fault ↔
      ∃ before member after state, members = before ++ member :: after ∧
        before.foldlM step start = .ok state ∧ step state member = .error fault := by
  induction members generalizing start with
  | nil => simp [pure, Except.pure]
  | cons first others hypothesis =>
      rw [List.foldlM_cons]
      change (step start first).bind (others.foldlM step) = _ ↔ _
      simp only [bind_eq_error_iff, hypothesis]
      constructor
      · rintro (failed | ⟨next, stepped, before, member, after, state, rfl, gone, failed⟩)
        · exact ⟨[], first, others, start, rfl, rfl, failed⟩
        · refine ⟨first :: before, member, after, state, rfl, ?_, failed⟩
          rw [List.foldlM_cons, stepped]
          exact gone
      · rintro ⟨before, member, after, state, split, gone, failed⟩
        cases before with
        | nil =>
            cases split
            cases gone
            exact .inl failed
        | cons earlier before =>
            cases split
            rw [List.foldlM_cons] at gone
            rcases bind_eq_ok_iff.mp gone with ⟨next, stepped, gone⟩
            exact .inr ⟨next, stepped, before, member, after, state, rfl, gone, failed⟩

/-- Steps that do the same with every member of a list go through the list in the same way. -/
theorem foldlM_congr_of_mem
    {step other : Second → First → Except Fault Second}
    {members : List First}
    (same : ∀ member ∈ members, ∀ state, step state member = other state member)
    (start : Second) :
    members.foldlM step start = members.foldlM other start := by
  induction members generalizing start with
  | nil => rfl
  | cons first others hypothesis =>
      rw [List.foldlM_cons, List.foldlM_cons, same first List.mem_cons_self]
      congr 1
      funext next
      exact hypothesis (fun member later => same member (List.mem_cons_of_mem _ later)) next

end

end ViewAccessors
