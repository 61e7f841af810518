import IdentifyDataLocks.Linq

/-! Grouped rows: a grouping rearranges its rows, and their order carries over to the rows of
each group and to the groups by their first rows. -/
namespace IdentifyDataLocks.Linq

variable {α κ : Type*} [DecidableEq κ] {f : α → κ} {l : List α}

theorem map_elements_groupBy (f : α → κ) (l : List α) :
    (groupBy f l).map Grouping.elements =
      (distinct (l.map f)).map fun k => l.filter fun a => f a = k := by
  simp [groupBy, List.map_pmap]

/-- Distinct keys that cover all rows divide them, duplicates included. -/
theorem perm_flatMap_filter {keys : List κ} (hkeys : keys.Nodup) (hall : ∀ a ∈ l, f a ∈ keys) :
    (keys.flatMap fun k => l.filter fun a => f a = k).Perm l := by
  induction keys generalizing l with
  | nil =>
    have hnil : l = [] := List.eq_nil_iff_forall_not_mem.mpr fun a ha => by simpa using hall a ha
    simp [hnil]
  | cons k keys ih =>
    rw [List.nodup_cons] at hkeys
    obtain ⟨hk, hkeys⟩ := hkeys
    have hrest : (keys.flatMap fun k' => l.filter fun a => f a = k') =
        keys.flatMap fun k' => (l.filter fun a => !decide (f a = k)).filter fun a => f a = k' := by
      apply List.flatMap_congr
      intro k' hk'
      have hne : k' ≠ k := fun heq => hk (heq ▸ hk')
      rw [List.filter_filter]
      apply List.filter_congr
      intro a _
      by_cases ha : f a = k'
      · simp [ha, hne]
      · simp [ha]
    have hothers : ∀ a ∈ l.filter (fun a => !decide (f a = k)), f a ∈ keys := by
      intro a ha
      simp only [List.mem_filter, Bool.not_eq_true', decide_eq_false_iff_not] at ha
      exact (List.mem_cons.mp (hall a ha.1)).resolve_left ha.2
    rw [List.flatMap_cons, hrest]
    exact ((ih hkeys hothers).append_left _).trans (List.filter_append_perm _ l)

theorem perm_groupBy (f : α → κ) (l : List α) :
    ((groupBy f l).flatMap Grouping.elements).Perm l := by
  rw [List.flatMap_def, map_elements_groupBy, ← List.flatMap_def]
  apply perm_flatMap_filter (nodup_distinct _)
  intro a ha
  exact mem_distinct.mpr (List.mem_map_of_mem ha)

theorem map_some_firstInGroups (f : α → κ) (l : List α) :
    (firstInGroups f l).map some = (distinct (l.map f)).map fun k => l.find? fun a => f a = k := by
  have hhead : ∀ g : Grouping f, some g.first = g.elements.head? :=
    fun g => (List.head?_eq_some_head g.nonempty).symm
  have helements := congrArg (List.map List.head?) (map_elements_groupBy f l)
  simp only [List.map_map, Function.comp_def, List.head?_filter] at helements
  rw [firstInGroups, List.map_map, ← helements]
  exact List.map_congr_left fun g _ => hhead g

/-- The first row leads, and its key plays no part among the rest. -/
theorem firstInGroups_cons (f : α → κ) (a : α) (l : List α) :
    firstInGroups f (a :: l) = a :: firstInGroups f (l.filter fun b => f b ≠ f a) := by
  apply List.map_injective_iff.mpr (Option.some_injective α)
  have hkeys : (l.map f).filter (fun k => !k == f a) = (l.filter fun b => f b ≠ f a).map f := by
    rw [List.filter_map]
    congr 1
    apply List.filter_congr
    intro b _
    by_cases hb : f b = f a
    · simp [hb]
    · simp [hb]
  rw [map_some_firstInGroups, List.map_cons, List.map_cons, map_some_firstInGroups, distinct,
    List.eraseDups_cons, hkeys, List.map_cons]
  congr 1
  · simp
  · apply List.map_congr_left
    intro k hk
    obtain ⟨b, hb, rfl⟩ := List.mem_map.mp (mem_distinct.mp hk)
    have hne : f b ≠ f a := by simpa using (List.mem_filter.mp hb).2
    rw [List.find?_cons_of_neg (by simpa using hne.symm), List.find?_filter]
    congr 1
    funext c
    by_cases hc : f c = f b
    · simp [hc, hne]
    · simp [hc]

theorem sublist_firstInGroups (f : α → κ) : ∀ l : List α, (firstInGroups f l).Sublist l
  | [] => List.Sublist.slnil
  | a :: l => by
    rw [firstInGroups_cons]
    exact ((sublist_firstInGroups f _).trans List.filter_sublist).cons_cons a
  termination_by l => l.length
  decreasing_by
    have := List.length_filter_le (fun b => f b ≠ f a) l
    simp only [List.length_cons]
    omega

theorem pairwise_elements_groupBy {R : α → α → Prop} (h : l.Pairwise R) {g : Grouping f}
    (hg : g ∈ groupBy f l) : g.elements.Pairwise R := by
  rw [elements_of_mem_groupBy hg]
  exact h.sublist List.filter_sublist

/-- A row of a later group comes after the first row of an earlier one. -/
theorem pairwise_groupBy {R : α → α → Prop} (htrans : ∀ a b c, R a b → R b c → R a c)
    (h : l.Pairwise R) :
    (groupBy f l).Pairwise fun g g' => ∀ b ∈ g'.elements, R g.first b := by
  have hfirst : ((groupBy f l).map Grouping.first).Pairwise R :=
    h.sublist (sublist_firstInGroups f l)
  rw [List.pairwise_map] at hfirst
  refine hfirst.imp_of_mem fun {g g'} _ hg' hR b hb => ?_
  have hsorted := pairwise_elements_groupBy h hg'
  have hcons := List.cons_head_tail g'.nonempty
  rw [← hcons, List.pairwise_cons] at hsorted
  rw [← hcons] at hb
  rcases List.mem_cons.mp hb with rfl | hb
  · exact hR
  · exact htrans _ _ _ hR (hsorted.1 b hb)

end IdentifyDataLocks.Linq
