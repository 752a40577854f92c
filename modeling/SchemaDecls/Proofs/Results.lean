import Mathlib.Data.List.Forall2

/-!
Results that come about in steps. What a chain of steps gives is told by each of them, and a run over a
list gives what its elements give, or fails where the first of them fails.
-/
namespace SchemaDecls
variable {α β γ δ ε : Type}

section Steps
variable {run : Except ε α}

theorem bind_eq_ok_iff {next : α → Except ε β} {result : β} :
    run >>= next = .ok result ↔ ∃ value, run = .ok value ∧ next value = .ok result := by
  cases run <;> simp [bind, Except.bind]

theorem bind_eq_error_iff {next : α → Except ε β} {failure : ε} :
    run >>= next = .error failure ↔
      run = .error failure ∨ ∃ value, run = .ok value ∧ next value = .error failure := by
  cases run <;> simp [bind, Except.bind]

theorem map_eq_ok_iff {change : α → β} {result : β} :
    run.map change = .ok result ↔ ∃ value, run = .ok value ∧ change value = result := by
  cases run <;> simp [Except.map]

theorem map_eq_error_iff {change : α → β} {failure : ε} :
    run.map change = .error failure ↔ run = .error failure := by
  cases run <;> simp [Except.map]

theorem mapError_eq_ok_iff {report : ε → δ} {result : α} :
    run.mapError report = .ok result ↔ run = .ok result := by
  cases run with
  | error failure => exact ⟨nofun, nofun⟩
  | ok value =>
    constructor <;> intro same
    · cases same
      rfl
    · cases same
      rfl

theorem mapError_eq_error_iff {report : ε → δ} {failure : δ} :
    run.mapError report = .error failure ↔ ∃ fault, run = .error fault ∧ report fault = failure := by
  cases run with
  | ok value => exact ⟨nofun, fun ⟨_, same, _⟩ => nomatch same⟩
  | error fault =>
    constructor
    · intro same
      cases same
      exact ⟨fault, rfl, rfl⟩
    · intro ⟨_, same, reported⟩
      cases same
      exact congrArg Except.error reported

end Steps

section Lists
variable {run : α → Except ε β}

theorem mapM_eq_ok_iff (list : List α) (results : List β) :
    list.mapM run = .ok results ↔
      List.Forall₂ (fun x result => run x = .ok result) list results := by
  induction list generalizing results with
  | nil =>
    rw [List.mapM_nil, List.forall₂_nil_left_iff]
    simp [pure, Except.pure, eq_comm]
  | cons x rest ih =>
    rw [List.mapM_cons, bind_eq_ok_iff, List.forall₂_cons_left_iff]
    simp only [bind_eq_ok_iff, ih]
    constructor
    · intro ⟨result, first, later, others, same⟩
      cases same
      exact ⟨result, later, first, others, rfl⟩
    · intro ⟨result, later, first, others, same⟩
      exact ⟨result, first, later, others, congrArg Except.ok same.symm⟩

/-- A run over a list fails where its first failing element does. -/
theorem mapM_eq_error_iff (list : List α) (failure : ε) :
    list.mapM run = .error failure ↔ ∃ before x after, list = before ++ x :: after ∧
      (∀ earlier ∈ before, ∃ result, run earlier = .ok result) ∧ run x = .error failure := by
  induction list with
  | nil => simp [pure, Except.pure]
  | cons x rest ih =>
    have behind : ∀ result, (rest.mapM run >>= fun later => pure (result :: later)) = .error failure
        ↔ rest.mapM run = .error failure := by
      intro result
      simp [bind_eq_error_iff, pure, Except.pure]
    rw [List.mapM_cons, bind_eq_error_iff]
    simp only [behind, ih]
    constructor
    · rintro (first | ⟨result, first, before, y, after, rfl, fine, failing⟩)
      · exact ⟨[], x, rest, rfl, nofun, first⟩
      · exact ⟨x :: before, y, after, rfl, List.forall_mem_cons.mpr ⟨⟨result, first⟩, fine⟩, failing⟩
    · intro ⟨before, y, after, split, fine, failing⟩
      cases before with
      | nil =>
        obtain ⟨rfl, rfl⟩ := List.cons.inj split
        exact Or.inl failing
      | cons z before =>
        obtain ⟨rfl, rfl⟩ := List.cons.inj split
        obtain ⟨⟨result, first⟩, others⟩ := List.forall_mem_cons.mp fine
        exact Or.inr ⟨result, first, before, y, after, rfl, others, failing⟩

theorem mapM_succeeds_iff (list : List α) :
    (∃ results, list.mapM run = .ok results) ↔ ∀ x ∈ list, ∃ result, run x = .ok result := by
  induction list with
  | nil => exact ⟨fun _ => nofun, fun _ => ⟨[], rfl⟩⟩
  | cons x rest ih =>
    rw [List.forall_mem_cons, ← ih]
    simp only [List.mapM_cons, bind_eq_ok_iff]
    constructor
    · intro ⟨_, result, first, later, others, _⟩
      exact ⟨⟨result, first⟩, later, others⟩
    · intro ⟨⟨result, first⟩, later, others⟩
      exact ⟨_, result, first, later, others, rfl⟩

end Lists
end SchemaDecls
