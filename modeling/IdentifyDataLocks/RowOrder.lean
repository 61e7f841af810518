import Mathlib

/-! Rows without an order of their own. A query that asks for none may return its rows in any
order, so a result is settled by the stored rows only where all orders give it. -/
namespace IdentifyDataLocks.RowOrder

variable {α β : Type*}

/-- Every order of the rows gives the result of this one. -/
def OrderFree (f : List α → β) (rows : List α) : Prop :=
  ∀ rows' : List α, rows'.Perm rows → f rows' = f rows

theorem orderFree_sum [AddCommMonoid β] (g : α → β) (rows : List α) :
    OrderFree (fun l => (l.map g).sum) rows := by
  intro rows' h
  exact (h.map g).sum_eq

/-- Any matching row can come first, so a result read off the first matching row is
settled exactly when all matching rows give it. -/
theorem orderFree_find_iff {p : α → Bool} {f : Option α → β} {rows : List α} :
    OrderFree (fun l => f (l.find? p)) rows ↔
      ∀ a ∈ rows, ∀ b ∈ rows, p a → p b → f (some a) = f (some b) := by
  constructor
  · intro h
    have hfirst : ∀ a ∈ rows, p a → f (some a) = f (rows.find? p) := by
      intro a ha hpa
      obtain ⟨before, after, rfl⟩ := List.append_of_mem ha
      have hrows := h (a :: (before ++ after)) List.perm_middle.symm
      simpa [hpa] using hrows
    intro a ha b hb hpa hpb
    rw [hfirst a ha hpa, hfirst b hb hpb]
  · intro h rows' hperm
    cases hrow : rows.find? p with
    | none =>
      have hnone : rows'.find? p = none := by
        rw [List.find?_eq_none] at hrow ⊢
        intro a ha
        exact hrow a (hperm.mem_iff.mp ha)
      simp only [hnone, hrow]
    | some b =>
      have hb := List.mem_of_find?_eq_some hrow
      have hpb := List.find?_some hrow
      have hsome : (rows'.find? p).isSome :=
        List.find?_isSome.mpr ⟨b, hperm.mem_iff.mpr hb, hpb⟩
      obtain ⟨a, ha⟩ := Option.isSome_iff_exists.mp hsome
      simp only [ha, hrow]
      exact h a (hperm.mem_iff.mp (List.mem_of_find?_eq_some ha)) b hb (List.find?_some ha) hpb

theorem orderFree_head_iff {f : Option α → β} {rows : List α} :
    OrderFree (fun l => f l.head?) rows ↔
      ∀ a ∈ rows, ∀ b ∈ rows, f (some a) = f (some b) := by
  have hhead : (fun l : List α => f l.head?) = fun l => f (l.find? fun _ => true) := by
    funext l
    cases l with
    | nil => rfl
    | cons a l => rfl
  rw [hhead, orderFree_find_iff]
  simp

/-- A permutation of the positions of a list, for every length it may have. -/
abbrev Rearrangement := ∀ n, Equiv.Perm (Fin n)

namespace Rearrangement

def apply (σ : Rearrangement) (l : List α) : List α := List.ofFn fun i => l.get (σ l.length i)

theorem perm_apply (σ : Rearrangement) (l : List α) : (σ.apply l).Perm l := by
  have h := (σ l.length).ofFn_comp_perm l.get
  rwa [List.ofFn_get] at h

/-- Rows and their images under a map are rearranged alike. -/
theorem map_apply (σ : Rearrangement) (f : α → β) (l : List α) :
    (σ.apply l).map f = σ.apply (l.map f) := by
  have hlength : ∀ n, (h : n = l.length) → ((List.ofFn fun i => l.get (σ l.length i)).map f) =
      List.ofFn fun i : Fin n => f (l.get ((σ n i).cast h)) := by
    intro n h
    subst h
    simp [List.map_ofFn, Function.comp_def]
  rw [apply, apply, hlength (l.map f).length (List.length_map f)]
  simp

/-- Every permutation of a list is the effect of some rearrangement. -/
theorem exists_apply {l l' : List α} (h : l'.Perm l) : ∃ σ : Rearrangement, σ.apply l = l' := by
  have hl : l'.Perm ((List.finRange l.length).map l.get) := by simpa using h
  obtain ⟨positions, hp, rfl⟩ : ∃ m : List (Fin l.length),
      m.Perm (List.finRange l.length) ∧ l' = m.map l.get := by
    have hcomp := List.eq_map_comp_perm l.get
    have hrel := congrFun (congrFun hcomp l') (List.finRange l.length)
    obtain ⟨m, hm, hperm⟩ := hrel.mpr hl
    exact ⟨m, hperm, hm⟩
  have hlen : positions.length = l.length := by simpa using hp.length_eq
  have hinj : Function.Injective fun i : Fin l.length => positions.get (i.cast hlen.symm) := by
    intro i j hij
    have hn : positions.Nodup := hp.nodup_iff.mpr (List.nodup_finRange _)
    have hcast := List.nodup_iff_injective_get.mp hn hij
    simpa [Fin.ext_iff] using hcast
  let σ : Equiv.Perm (Fin l.length) := Equiv.ofBijective _ (Finite.injective_iff_bijective.mp hinj)
  refine ⟨Function.update (fun _ => 1) l.length σ, ?_⟩
  rw [apply, Function.update_self]
  apply List.ext_get
  · simp [hlen]
  · intro n _ _
    simp [σ]

theorem forall_apply_iff {P : List α → Prop} {l : List α} :
    (∀ σ : Rearrangement, P (σ.apply l)) ↔ ∀ l' : List α, l'.Perm l → P l' := by
  constructor
  · intro h l' hperm
    obtain ⟨σ, rfl⟩ := exists_apply hperm
    exact h σ
  · intro h σ
    exact h _ (σ.perm_apply l)

end Rearrangement

end IdentifyDataLocks.RowOrder
