import IdentifyDataLocks.Linq

/-! Indexes of rows by key: a key stands for the first row that carries it, and an index lists
one row for each key, the largest key first. An index is determined by its lookups. -/
namespace IdentifyDataLocks.Index
open Linq

variable {α β κ : Type*}

/-- A repeated row is never the first that satisfies a condition. -/
theorem find?_distinct [DecidableEq α] (p : α → Bool) :
    ∀ l : List α, (distinct l).find? p = l.find? p
  | [] => rfl
  | a :: l => by
    have ih := find?_distinct p (l.filter fun b => !b == a)
    rw [distinct, List.eraseDups_cons, List.find?_cons, List.find?_cons]
    cases hp : p a with
    | true => rfl
    | false =>
      refine ih.trans ?_
      rw [List.find?_filter]
      congr 1
      funext b
      by_cases hb : b = a
      · simp [hb, hp]
      · simp [hb]
  termination_by l => l.length
  decreasing_by
    have := List.length_filter_le (fun b => !b == a) l
    simp only [List.length_cons]
    omega

theorem find?_congr [DecidableEq α] {l l' : List α} (h : distinct l = distinct l')
    (p : α → Bool) : l.find? p = l'.find? p := by
  rw [← find?_distinct p l, h, find?_distinct]

theorem distinct_append_of_subset [DecidableEq α] {l l' : List α} (h : ∀ a ∈ l', a ∈ l) :
    distinct (l ++ l') = distinct l := by
  have hremoved : l'.removeAll l = [] := by
    simpa [List.removeAll, List.filter_eq_nil_iff] using h
  rw [distinct, List.eraseDups_append, hremoved]
  exact List.append_nil _

/-- Rows listed by strictly descending keys are determined by which rows they are. -/
theorem eq_of_pairwise [LinearOrder κ] {key : α → κ} {l l' : List α}
    (h : l.Pairwise fun a b => key b < key a)
    (h' : l'.Pairwise fun a b => key b < key a) (hmem : ∀ a, a ∈ l ↔ a ∈ l') : l = l' := by
  have hirrefl : Std.Irrefl fun a b : α => key b < key a := ⟨fun a => lt_irrefl (key a)⟩
  have hasymm : Std.Antisymm fun a b : α => key b < key a :=
    ⟨fun a b hab hba => absurd hab hba.asymm⟩
  exact h.eq_of_mem_iff h' hmem

variable [DecidableEq κ]

def lookup (key : α → κ) (l : List α) (k : κ) : Option α := l.find? fun a => key a = k

section Lookup
variable {key : α → κ} {l l₁ l₂ : List α} {k : κ} {a : α}

theorem lookup_append : lookup key (l₁ ++ l₂) k = (lookup key l₁ k).or (lookup key l₂ k) :=
  List.find?_append

theorem lookup_map {f : α → β} {key' : β → κ} (h : ∀ a, key' (f a) = key a) :
    lookup key' (l.map f) k = (lookup key l k).map f := by
  rw [lookup, List.find?_map, lookup]
  congr 2
  funext a
  simp [h]

theorem mem_of_lookup (h : lookup key l k = some a) : a ∈ l := List.mem_of_find?_eq_some h

theorem key_of_lookup (h : lookup key l k = some a) : key a = k := by
  simpa using List.find?_some h

theorem lookup_eq_none : lookup key l k = none ↔ ∀ a ∈ l, key a ≠ k := by
  simp [lookup]

theorem lookup_isSome : (lookup key l k).isSome ↔ ∃ a ∈ l, key a = k := by
  simp [lookup]

theorem exists_lookup (ha : a ∈ l) : ∃ b, lookup key l (key a) = some b :=
  Option.isSome_iff_exists.mp (lookup_isSome.mpr ⟨a, ha, rfl⟩)

/-- Where a key has one row, that row stands for it. -/
theorem lookup_of_nodup (h : (l.map key).Nodup) :
    lookup key l k = some a ↔ a ∈ l ∧ key a = k := by
  constructor
  · intro ha
    exact ⟨mem_of_lookup ha, key_of_lookup ha⟩
  · rintro ⟨ha, rfl⟩
    obtain ⟨b, hb⟩ : ∃ b, lookup key l (key a) = some b := exists_lookup ha
    rw [hb, List.inj_on_of_nodup_map h (mem_of_lookup hb) ha (key_of_lookup hb)]

theorem lookup_perm_of_nodup (h : (l₁.map key).Nodup) (hp : l₁.Perm l₂) :
    lookup key l₁ k = lookup key l₂ k := by
  have h' : (l₂.map key).Nodup := (hp.map key).nodup_iff.mp h
  ext a
  rw [lookup_of_nodup h, lookup_of_nodup h', hp.mem_iff]

theorem lookup_firstInGroups : lookup key (firstInGroups key l) k = lookup key l k := by
  ext a
  rw [lookup_of_nodup (nodup_map_firstInGroups key l), mem_firstInGroups]
  constructor
  · rintro ⟨ha, rfl⟩
    exact ha
  · intro ha
    obtain rfl := key_of_lookup ha
    exact ⟨ha, rfl⟩

end Lookup

variable [LinearOrder κ]

def index (key : α → κ) (l : List α) : List α :=
  orderByDescending (.ofLinearOrder κ) key (firstInGroups key l)

section Index
variable {key : α → κ} {l l' : List α}

theorem pairwise_index (key : α → κ) (l : List α) :
    (index key l).Pairwise fun a b => key b < key a := by
  have h := pairwise_orderByDescending_lt (.ofLinearOrder κ) key (firstInGroups key l)
    (fun _ _ => compareTo_eq_zero.mp) (nodup_map_firstInGroups key l)
  exact h.imp compareTo_neg.mp

theorem lookup_index (k : κ) : lookup key (index key l) k = lookup key l k := by
  rw [← lookup_firstInGroups (l := l)]
  exact (lookup_perm_of_nodup (nodup_map_firstInGroups key l)
    (perm_orderByDescending _ _ _).symm).symm

theorem mem_index {a : α} : a ∈ index key l ↔ lookup key l (key a) = some a := by
  rw [index, mem_orderByDescending, mem_firstInGroups]
  exact Iff.rfl

/-- Two indexes are equal when they answer every lookup alike. -/
theorem index_eq_iff : index key l = index key l' ↔ ∀ k, lookup key l k = lookup key l' k := by
  constructor
  · intro h k
    rw [← lookup_index k, h, lookup_index]
  · intro h
    refine eq_of_pairwise (pairwise_index key l) (pairwise_index key l') fun a => ?_
    rw [mem_index, mem_index, h]

theorem index_eq_of_pairwise (h : l.Pairwise fun a b => key b < key a) : index key l = l := by
  have hnodup : (l.map key).Nodup := by
    rw [List.Nodup, List.pairwise_map]
    exact h.imp fun hlt => hlt.ne'
  refine eq_of_pairwise (pairwise_index key l) h fun a => ?_
  rw [mem_index, lookup_of_nodup hnodup, and_iff_left rfl]

/-- Mapped rows with the same keys have the mapped index. -/
theorem map_index {f : α → β} {key' : β → κ} (h : ∀ a, key' (f a) = key a) (l : List α) :
    (index key l).map f = index key' (l.map f) := by
  have hpairwise : ((index key l).map f).Pairwise fun a b => key' b < key' a := by
    rw [List.pairwise_map]
    simpa only [h] using pairwise_index key l
  rw [← index_eq_of_pairwise hpairwise, index_eq_iff]
  intro k
  rw [lookup_map h, lookup_map h, lookup_index]

end Index

end IdentifyDataLocks.Index
