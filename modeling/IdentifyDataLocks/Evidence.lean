import Mathlib

/-! What a report on failures is for, in general terms. Sources submit evidence by period
and failures are recorded against a source and a period. A report takes a view, a set of
sources it may show, and owes the periods and failure codes of that view and no others. -/
namespace IdentifyDataLocks

structure Evidence (U P D : Type*) where
  submitted : Set (U × P)
  failed : Set (U × P × D)

namespace Evidence

variable {U P D : Type*} (E : Evidence U P D)

def periods (view : Set U) : Set P := {p | ∃ u ∈ view, (u, p) ∈ E.submitted}

def codes (view : Set U) (p : P) : Set D :=
  {d | ∃ u ∈ view, (u, p) ∈ E.submitted ∧ (u, p, d) ∈ E.failed}

@[simp] theorem periods_empty : E.periods ∅ = ∅ := by simp [periods]

/-- The view hides neither a period nor a failure of any source. -/
structure Complete (view : Set U) : Prop where
  periods_eq : E.periods view = E.periods Set.univ
  codes_eq : ∀ p, E.codes view p = E.codes Set.univ p

theorem complete_univ : E.Complete Set.univ := ⟨rfl, fun _ => rfl⟩

theorem complete_empty_iff : E.Complete ∅ ↔ E.submitted = ∅ := by
  constructor
  · intro h
    have hp : E.periods Set.univ = ∅ := by simpa using h.periods_eq.symm
    rw [Set.eq_empty_iff_forall_notMem] at hp ⊢
    intro s hs
    exact hp s.2 ⟨s.1, trivial, hs⟩
  · intro h
    exact ⟨by simp [periods, h], fun p => by simp [codes, h]⟩

theorem mem_periods_of_mem_codes {v : Set U} {p : P} {d : D} (h : d ∈ E.codes v p) :
    p ∈ E.periods v := by
  obtain ⟨u, hu, hs, -⟩ := h
  exact ⟨u, hu, hs⟩

/-- In a view with one source on record, any submission stands for its whole period. -/
theorem codes_eq_of_subsingleton {onRecord v : Set U}
    (hr : ∀ u p, (u, p) ∈ E.submitted → u ∈ onRecord)
    (hv : (onRecord ∩ v).Subsingleton) {u : U} {p : P} (hu : u ∈ v) (hs : (u, p) ∈ E.submitted) :
    E.codes v p = {d | (u, p, d) ∈ E.failed} := by
  apply Set.Subset.antisymm
  · intro d h
    obtain ⟨u', hu', hs', hf⟩ := h
    have he : u' = u := hv ⟨hr _ _ hs', hu'⟩ ⟨hr _ _ hs, hu⟩
    exact he ▸ hf
  · intro d hf
    exact ⟨u, hu, hs, hf⟩

/-- Show everything while one source is on record, otherwise the chosen source only. -/
def viewOf (onRecord : Set U) (chosen : Option U) : Set U :=
  {u | onRecord.Subsingleton ∨ chosen = some u}

theorem inter_viewOf_subsingleton (onRecord : Set U) (chosen : Option U) :
    (onRecord ∩ viewOf onRecord chosen).Subsingleton := by
  intro u hu w hw
  obtain ⟨hu, hshown⟩ := hu
  obtain ⟨hw, hshown'⟩ := hw
  cases hshown with
  | inl hs => exact hs hu hw
  | inr hc =>
    cases hshown' with
    | inl hs' => exact hs' hu hw
    | inr hc' => exact Option.some.inj (hc.symm.trans hc')

theorem viewOf_of_subsingleton {onRecord : Set U} (h : onRecord.Subsingleton)
    (chosen : Option U) : viewOf onRecord chosen = Set.univ :=
  Set.eq_univ_of_forall fun _ => Or.inl h

theorem viewOf_none {onRecord : Set U} (h : ¬ onRecord.Subsingleton) :
    viewOf onRecord none = ∅ := by simp [viewOf, h]

/-! Evidence that grows. -/

section Growth
variable {E E' : Evidence U P D} {v v' r r' r'' : Set U} {chosen : Option U} {u : U}

/-- More evidence shows no less in a view of no fewer of the old sources. -/
theorem periods_mono (hs : E.submitted ⊆ E'.submitted)
    (hv : ∀ u p, (u, p) ∈ E.submitted → u ∈ v → u ∈ v') : E.periods v ⊆ E'.periods v' := by
  intro p h
  obtain ⟨u, hu, hsub⟩ := h
  exact ⟨u, hv u p hsub hu, hs hsub⟩

theorem codes_mono (hs : E.submitted ⊆ E'.submitted) (hf : E.failed ⊆ E'.failed)
    (hv : ∀ u p, (u, p) ∈ E.submitted → u ∈ v → u ∈ v') (p : P) :
    E.codes v p ⊆ E'.codes v' p := by
  intro d h
  obtain ⟨u, hu, hsub, hfail⟩ := h
  exact ⟨u, hv u p hsub hu, hs hsub, hf hfail⟩

/-- A second source joins the only one on record, which is not the chosen one. -/
def Overtaken (onRecord onRecord' : Set U) (chosen : Option U) : Prop :=
  onRecord.Subsingleton ∧ ¬ onRecord'.Subsingleton ∧ ∃ u ∈ onRecord, chosen ≠ some u

theorem Overtaken.mono (h : Overtaken r r' chosen) (hr : r' ⊆ r'') : Overtaken r r'' chosen :=
  ⟨h.1, fun hs => h.2.1 (hs.anti hr), h.2.2⟩

theorem Overtaken.notMem_viewOf (h : Overtaken r r' chosen) (hu : u ∈ r) :
    u ∉ viewOf r' chosen := by
  obtain ⟨hone, hmany, w, hw, hchosen⟩ := h
  rintro (hs | hc)
  · exact hmany hs
  · rw [hone hu hw] at hc
    exact hchosen hc

/-- Otherwise a source on record stays in view. -/
theorem mem_viewOf_of_not_overtaken (h : ¬ Overtaken r r' chosen) (hu : u ∈ r)
    (hv : u ∈ viewOf r chosen) : u ∈ viewOf r' chosen := by
  rcases hv with hone | hc
  · by_contra hhidden
    obtain ⟨hmany, hchosen⟩ := not_or.mp hhidden
    exact h ⟨hone, hmany, u, hu, hchosen⟩
  · exact Or.inr hc

end Growth

end Evidence

end IdentifyDataLocks
