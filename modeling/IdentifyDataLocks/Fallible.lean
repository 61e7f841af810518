import Mathlib

/-! Successful runs of computations that can throw, with and without a state. -/
namespace IdentifyDataLocks.Fallible

variable {ε σ α β : Type}

/-- A sequence succeeds exactly when both of its halves do. -/
theorem bind_ok_iff {first : Except ε α} {next : α → Except ε β} {b : β} :
    first >>= next = .ok b ↔ ∃ a, first = .ok a ∧ next a = .ok b := by
  cases first with
  | ok a => simp [bind, Except.bind]
  | error ex => simp [bind, Except.bind]

theorem return_ok_iff {a b : α} : (return a : Except ε α) = .ok b ↔ a = b := by
  simp [pure, Except.pure]

theorem run_bind_ok_iff {first : StateT σ (Except ε) α} {next : α → StateT σ (Except ε) β}
    {s : σ} {r : β × σ} :
    (first >>= next).run s = .ok r ↔
      ∃ a s', first.run s = .ok (a, s') ∧ (next a).run s' = .ok r := by
  rw [StateT.run_bind, bind_ok_iff, Prod.exists]

theorem run_return_ok_iff {a : α} {s : σ} {r : α × σ} :
    (return a : StateT σ (Except ε) α).run s = .ok r ↔ (a, s) = r := by
  rw [StateT.run_pure, return_ok_iff]

theorem run_lift_ok_iff {body : Except ε α} {s s' : σ} {a : α} :
    (StateT.lift body : StateT σ (Except ε) α).run s = .ok (a, s') ↔ body = .ok a ∧ s = s' := by
  cases body with
  | ok b => simp [bind, Except.bind, pure, Except.pure]
  | error ex => simp [bind, Except.bind]

/-! Runs that throw. -/

/-- A sequence throws what its first half throws, or else what its second half does. -/
theorem bind_error_iff {first : Except ε α} {next : α → Except ε β} {ex : ε} :
    first >>= next = .error ex ↔
      first = .error ex ∨ ∃ a, first = .ok a ∧ next a = .error ex := by
  cases first with
  | ok a => simp [bind, Except.bind]
  | error ex' => simp [bind, Except.bind]

theorem return_ne_error {a : α} {ex : ε} : (return a : Except ε α) ≠ .error ex := nofun

theorem run_bind_error_iff {first : StateT σ (Except ε) α} {next : α → StateT σ (Except ε) β}
    {s : σ} {ex : ε} :
    (first >>= next).run s = .error ex ↔
      first.run s = .error ex ∨
        ∃ a s', first.run s = .ok (a, s') ∧ (next a).run s' = .error ex := by
  rw [StateT.run_bind, bind_error_iff, Prod.exists]

theorem run_return_ne_error {a : α} {s : σ} {ex : ε} :
    (return a : StateT σ (Except ε) α).run s ≠ .error ex := nofun

theorem run_lift_error_iff {body : Except ε α} {s : σ} {ex : ε} :
    (StateT.lift body : StateT σ (Except ε) α).run s = .error ex ↔ body = .error ex := by
  cases body with
  | ok a => simp [bind, Except.bind, pure, Except.pure]
  | error ex' => simp [bind, Except.bind]

theorem exists_ok_of_no_error {body : Except ε α} (h : ∀ ex, body ≠ .error ex) :
    ∃ a, body = .ok a := by
  cases body with
  | ok a => exact ⟨a, rfl⟩
  | error ex => exact absurd rfl (h ex)

end IdentifyDataLocks.Fallible
