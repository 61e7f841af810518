import IdentifyDataLocks.Fallible

/-! Sequence operators on finite lists: duplicate removal, grouping, stable sorting by
a comparer, and dictionaries. Every operator keeps the order of its source wherever
its result leaves that order open. -/
namespace IdentifyDataLocks.Linq
open Fallible

variable {α κ ν : Type*}

def distinct [DecidableEq α] (l : List α) : List α := l.eraseDups

@[simp] theorem mem_distinct [DecidableEq α] {a : α} {l : List α} :
    a ∈ distinct l ↔ a ∈ l := List.mem_eraseDups

theorem nodup_distinct [DecidableEq α] : ∀ l : List α, (distinct l).Nodup
  | [] => by simp [distinct]
  | a :: l => by
    have ih := nodup_distinct (l.filter fun b => !b == a)
    rw [distinct, List.eraseDups_cons, List.nodup_cons]
    exact ⟨by simp [List.mem_eraseDups], ih⟩
  termination_by l => l.length
  decreasing_by
    have := List.length_filter_le (fun b => !b == a) l
    simp only [List.length_cons]
    omega

theorem distinct_eq_nil [DecidableEq α] {l : List α} : distinct l = [] ↔ l = [] := by
  simp only [List.eq_nil_iff_forall_not_mem, mem_distinct]

theorem distinct_of_nodup [DecidableEq α] {l : List α} (h : l.Nodup) : distinct l = l := by
  induction l with
  | nil => rfl
  | cons a l ih =>
    obtain ⟨ha, hl⟩ := List.nodup_cons.mp h
    have hfilter : l.filter (fun b => !b == a) = l := by
      rw [List.filter_eq_self]
      intro b hb
      simpa using fun heq : b = a => ha (heq ▸ hb)
    rw [distinct, List.eraseDups_cons, hfilter]
    exact congrArg (a :: ·) (ih hl)

/-- One group of a grouping by `f`: its key and the nonempty list of rows carrying it. -/
structure Grouping (f : α → κ) where
  key : κ
  elements : List α
  nonempty : elements ≠ []
  keyed : ∀ a ∈ elements, f a = key

def Grouping.first {f : α → κ} (g : Grouping f) : α := g.elements.head g.nonempty

theorem Grouping.first_mem {f : α → κ} (g : Grouping f) : g.first ∈ g.elements :=
  List.head_mem g.nonempty

theorem Grouping.first_keyed {f : α → κ} (g : Grouping f) : f g.first = g.key :=
  g.keyed _ g.first_mem

def Grouping.singleton (f : α → κ) (a : α) : Grouping f where
  key := f a
  elements := [a]
  nonempty := List.cons_ne_nil a []
  keyed := by simp

section Grouping
variable [DecidableEq κ]

theorem filter_key_eq_singleton {f : α → κ} {l : List α} (h : (l.map f).Nodup) {a : α}
    (ha : a ∈ l) : l.filter (fun b => f b = f a) = [a] := by
  induction l with
  | nil => cases ha
  | cons b l ih =>
    rw [List.map_cons, List.nodup_cons] at h
    obtain ⟨hb, hl⟩ := h
    cases List.mem_cons.mp ha with
    | inl heq =>
      subst heq
      have hnil : l.filter (fun b => f b = f a) = [] := by
        rw [List.filter_eq_nil_iff]
        intro c hc hk
        exact hb (List.mem_map.mpr ⟨c, hc, by simpa using hk⟩)
      simp [hnil]
    | inr hal =>
      have hne : f b ≠ f a := fun heq => hb (heq ▸ List.mem_map_of_mem hal)
      simp [hne, ih hl hal]

/-- Groups stand in the order in which their keys first occur, rows in source order. -/
def groupBy (f : α → κ) (l : List α) : List (Grouping f) :=
  (distinct (l.map f)).pmap
    (fun k hk =>
      { key := k
        elements := l.filter (fun a => f a = k)
        nonempty := by
          obtain ⟨a, ha, rfl⟩ := List.mem_map.mp hk
          exact List.ne_nil_of_mem (List.mem_filter.mpr ⟨ha, by simp⟩)
        keyed := fun a ha => by simpa using (List.mem_filter.mp ha).2 })
    (fun _ hk => mem_distinct.mp hk)

theorem map_key_groupBy (f : α → κ) (l : List α) :
    (groupBy f l).map Grouping.key = distinct (l.map f) := by
  simp [groupBy, List.map_pmap]

theorem nodup_map_key_groupBy (f : α → κ) (l : List α) :
    ((groupBy f l).map Grouping.key).Nodup := by
  rw [map_key_groupBy]
  exact nodup_distinct _

theorem elements_of_mem_groupBy {f : α → κ} {l : List α} {g : Grouping f}
    (hg : g ∈ groupBy f l) : g.elements = l.filter (fun a => f a = g.key) := by
  obtain ⟨k, hk, rfl⟩ := List.mem_pmap.mp hg
  rfl

theorem exists_mem_groupBy {f : α → κ} {l : List α} {a : α} (ha : a ∈ l) :
    ∃ g ∈ groupBy f l, g.key = f a := by
  have hk : f a ∈ (groupBy f l).map Grouping.key := by
    rw [map_key_groupBy, mem_distinct]
    exact List.mem_map_of_mem ha
  exact List.mem_map.mp hk

/-- Rows with pairwise distinct keys are each a group of their own. -/
theorem groupBy_of_nodup {f : α → κ} {l : List α} (h : (l.map f).Nodup) :
    groupBy f l = l.map (Grouping.singleton f) := by
  have hkeys : ∀ g ∈ groupBy f l, ∀ a ∈ l, f a = g.key → g = Grouping.singleton f a := by
    intro g hg a ha hk
    have helements : g.elements = [a] := by
      rw [elements_of_mem_groupBy hg, ← hk]
      exact filter_key_eq_singleton h ha
    cases g
    cases hk
    cases helements
    rfl
  apply List.ext_getElem
  · have hlen := congrArg List.length (map_key_groupBy f l)
    simpa [distinct_of_nodup h] using hlen
  · intro n hn hn'
    have hl : n < l.length := by simpa using hn'
    have hk := congrArg (·[n]?) (map_key_groupBy f l)
    simp only [distinct_of_nodup h, List.getElem?_map, List.getElem?_eq_getElem hn,
      List.getElem?_eq_getElem hl, Option.map_some, Option.some.injEq] at hk
    rw [List.getElem_map]
    exact hkeys _ (List.getElem_mem hn) _ (List.getElem_mem hl) hk.symm

theorem length_groupBy_eq_one {f : α → κ} {l : List α} :
    (groupBy f l).length = 1 ↔ l ≠ [] ∧ ∀ a ∈ l, ∀ b ∈ l, f a = f b := by
  have hlen : (groupBy f l).length = (distinct (l.map f)).length := by
    rw [← map_key_groupBy, List.length_map]
  have hmem : ∀ a ∈ l, f a ∈ distinct (l.map f) := fun a ha =>
    mem_distinct.mpr (List.mem_map_of_mem ha)
  rw [hlen]
  constructor
  · intro h
    obtain ⟨k, hk⟩ := List.length_eq_one_iff.mp h
    refine ⟨fun hl => by simp [hl, distinct] at hk, fun a ha b hb => ?_⟩
    have ha' := hmem a ha
    have hb' := hmem b hb
    rw [hk, List.mem_singleton] at ha' hb'
    rw [ha', hb']
  · intro hkeys
    obtain ⟨hl, hall⟩ := hkeys
    obtain ⟨a, ha⟩ := List.exists_mem_of_ne_nil l hl
    have hkeys : ∀ k ∈ distinct (l.map f), k = f a := by
      intro k hk
      obtain ⟨b, hb, rfl⟩ := List.mem_map.mp (mem_distinct.mp hk)
      exact hall b hb a ha
    rw [List.eq_replicate_of_mem hkeys, List.length_replicate]
    apply le_antisymm _ (List.length_pos_of_mem (hmem a ha))
    exact List.nodup_replicate.mp (List.eq_replicate_of_mem hkeys ▸ nodup_distinct (l.map f))

def firstInGroups (f : α → κ) (l : List α) : List α := (groupBy f l).map Grouping.first

theorem map_firstInGroups (f : α → κ) (l : List α) :
    (firstInGroups f l).map f = distinct (l.map f) := by
  rw [← map_key_groupBy, firstInGroups, List.map_map]
  exact List.map_congr_left fun g _ => g.first_keyed

theorem nodup_map_firstInGroups (f : α → κ) (l : List α) : ((firstInGroups f l).map f).Nodup := by
  rw [map_firstInGroups]
  exact nodup_distinct _

theorem firstInGroups_of_nodup {f : α → κ} {l : List α} (h : (l.map f).Nodup) :
    firstInGroups f l = l := by
  rw [firstInGroups, groupBy_of_nodup h, List.map_map]
  exact List.map_id l

/-- Rows of both lists, in order, without those whose key has occurred before. -/
def unionBy (f : α → κ) (l₁ l₂ : List α) : List α := firstInGroups f (l₁ ++ l₂)

theorem unionBy_of_nodup {f : α → κ} {l₁ l₂ : List α} (h : ((l₁ ++ l₂).map f).Nodup) :
    unionBy f l₁ l₂ = l₁ ++ l₂ := firstInGroups_of_nodup h

/-- A row represents its group exactly when the source has no earlier row of that key. -/
theorem mem_firstInGroups {f : α → κ} {l : List α} {a : α} :
    a ∈ firstInGroups f l ↔ l.find? (fun b => f b = f a) = some a := by
  have hfirst : ∀ g ∈ groupBy f l, l.find? (fun b => f b = g.key) = some g.first := by
    intro g hg
    rw [← List.head?_filter, ← elements_of_mem_groupBy hg]
    exact List.head?_eq_some_head g.nonempty
  constructor
  · intro ha
    obtain ⟨g, hg, rfl⟩ := List.mem_map.mp ha
    rw [g.first_keyed]
    exact hfirst g hg
  · intro ha
    obtain ⟨g, hg, hk⟩ := exists_mem_groupBy (f := f) (List.mem_of_find?_eq_some ha)
    have hf := hfirst g hg
    rw [hk, ha] at hf
    exact List.mem_map.mpr ⟨g, hg, (Option.some.inj hf).symm⟩

end Grouping

/-- A consistent three-way comparison: reversing the arguments reverses the sign, and
"not after" is transitive. A stable sort by it has exactly one result. -/
structure Comparer (κ : Type*) where
  compare : κ → κ → ℤ
  swap : ∀ a b, compare a b < 0 ↔ 0 < compare b a
  trans : ∀ a b c, compare a b ≤ 0 → compare b c ≤ 0 → compare a c ≤ 0

/-- The built-in comparison of a totally ordered type, with results -1, 0 and 1. -/
def compareTo [LinearOrder κ] (a b : κ) : ℤ := if a < b then -1 else if b < a then 1 else 0

theorem compareTo_neg [LinearOrder κ] {a b : κ} : compareTo a b < 0 ↔ a < b := by
  unfold compareTo
  split_ifs with hab hba <;> simp [hab]

theorem compareTo_pos [LinearOrder κ] {a b : κ} : 0 < compareTo a b ↔ b < a := by
  unfold compareTo
  split_ifs with hab hba
  · simp [hab.le]
  · simp [hba]
  · simp [hba]

theorem compareTo_nonpos [LinearOrder κ] {a b : κ} : compareTo a b ≤ 0 ↔ a ≤ b := by
  rw [← not_lt, compareTo_pos, not_lt]

theorem compareTo_eq_zero [LinearOrder κ] {a b : κ} : compareTo a b = 0 ↔ a = b := by
  constructor
  · intro h
    have hle : a ≤ b := compareTo_nonpos.mp h.le
    have hnl : ¬ a < b := fun hlt => (compareTo_neg.mpr hlt).ne h
    exact le_antisymm hle (not_lt.mp hnl)
  · rintro rfl
    simp [compareTo]

theorem compareTo_swap [LinearOrder κ] (a b : κ) : compareTo a b = -compareTo b a := by
  unfold compareTo
  rcases lt_trichotomy a b with h | h | h
  · simp [h, h.not_gt]
  · simp [h]
  · simp [h, h.not_gt]

/-- The laws of a total order, for a three-way comparison. -/
structure TotalComparison (compare : κ → κ → ℤ) : Prop where
  swap : ∀ a b, compare a b = -compare b a
  trans : ∀ a b c, compare a b ≤ 0 → compare b c ≤ 0 → compare a c ≤ 0
  total : ∀ a b, compare a b ≤ 0 ∨ compare b a ≤ 0
  eq_zero : ∀ a b, compare a b = 0 ↔ a = b

theorem totalComparison_compareTo [LinearOrder κ] :
    TotalComparison (compareTo : κ → κ → ℤ) where
  swap := compareTo_swap
  trans a b c := by
    simp only [compareTo_nonpos]
    exact le_trans
  total a b := by
    simp only [compareTo_nonpos]
    exact le_total a b
  eq_zero a b := compareTo_eq_zero

namespace Comparer

def ofLinearOrder (κ : Type*) [LinearOrder κ] : Comparer κ where
  compare := compareTo
  swap _ _ := by rw [compareTo_neg, compareTo_pos]
  trans _ _ _ := by
    simp only [compareTo_nonpos]
    exact le_trans

def comap (f : α → κ) (c : Comparer κ) : Comparer α where
  compare a b := c.compare (f a) (f b)
  swap _ _ := c.swap _ _
  trans _ _ _ := c.trans _ _ _

def reverse (c : Comparer κ) : Comparer κ where
  compare a b := c.compare b a
  swap _ _ := c.swap _ _
  trans _ _ _ hab hbd := c.trans _ _ _ hbd hab

theorem total (c : Comparer κ) (a b : κ) : c.compare a b ≤ 0 ∨ c.compare b a ≤ 0 := by
  by_contra h
  rw [not_or, not_le, not_le, ← c.swap] at h
  exact lt_asymm h.1 h.2

end Comparer

/-- Stable sort by a key: rows whose keys compare equal keep their source order. -/
def orderBy (c : Comparer κ) (key : α → κ) (l : List α) : List α :=
  l.insertionSort (fun a b => c.compare (key a) (key b) ≤ 0)

def orderByDescending (c : Comparer κ) (key : α → κ) (l : List α) : List α :=
  orderBy c.reverse key l

section OrderBy
variable (c : Comparer κ) (key : α → κ) (l : List α)

theorem perm_orderBy : (orderBy c key l).Perm l := List.perm_insertionSort _ _

theorem perm_orderByDescending : (orderByDescending c key l).Perm l :=
  perm_orderBy c.reverse key l

@[simp] theorem mem_orderBy {a : α} : a ∈ orderBy c key l ↔ a ∈ l := (perm_orderBy c key l).mem_iff

@[simp] theorem mem_orderByDescending {a : α} : a ∈ orderByDescending c key l ↔ a ∈ l :=
  mem_orderBy _ _ _

theorem orderByDescending_eq_nil : orderByDescending c key l = [] ↔ l = [] := by
  rw [← List.length_eq_zero_iff, ← List.length_eq_zero_iff,
    (perm_orderByDescending c key l).length_eq]

theorem pairwise_orderBy :
    (orderBy c key l).Pairwise (fun a b => c.compare (key a) (key b) ≤ 0) := by
  have : Std.Total (fun a b : α => c.compare (key a) (key b) ≤ 0) := ⟨fun a b => c.total _ _⟩
  have : IsTrans α (fun a b : α => c.compare (key a) (key b) ≤ 0) := ⟨fun _ _ _ => c.trans _ _ _⟩
  exact List.pairwise_insertionSort _ _

theorem pairwise_orderByDescending [LinearOrder κ] :
    (orderByDescending (.ofLinearOrder κ) key l).Pairwise (fun a b => key b ≤ key a) :=
  (pairwise_orderBy (Comparer.ofLinearOrder κ).reverse key l).imp compareTo_nonpos.mp

/-- A stable sort keeps the source order among rows of which none comes before another. -/
theorem filter_orderBy {p : α → Bool}
    (hp : ∀ a ∈ l, ∀ b ∈ l, p a → p b → c.compare (key a) (key b) ≤ 0) :
    (orderBy c key l).filter p = l.filter p := by
  have hpairwise : (l.filter p).Pairwise fun a b => c.compare (key a) (key b) ≤ 0 := by
    apply List.pairwise_of_forall_mem_list
    intro a ha b hb
    obtain ⟨ha, hpa⟩ := List.mem_filter.mp ha
    obtain ⟨hb, hpb⟩ := List.mem_filter.mp hb
    exact hp a ha b hb hpa hpb
  have hsub : (l.filter p).Sublist (orderBy c key l) :=
    List.sublist_insertionSort hpairwise List.filter_sublist
  have hfilter := hsub.filter p
  simp only [List.filter_filter, Bool.and_self] at hfilter
  have hlength := ((perm_orderBy c key l).filter p).length_eq
  exact (hfilter.eq_of_length hlength.symm).symm

/-- The sort puts the first row that none comes before in front. -/
theorem head?_orderBy :
    (orderBy c key l).head? = l.find? fun a => ∀ b ∈ l, c.compare (key a) (key b) ≤ 0 := by
  have hfilter := filter_orderBy c key l (p := fun a => ∀ b ∈ l, c.compare (key a) (key b) ≤ 0)
    fun a _ b hb ha _ => of_decide_eq_true ha b hb
  rw [← List.head?_filter, ← hfilter]
  have hpairwise := pairwise_orderBy c key l
  have hmem := fun b => mem_orderBy c key l (a := b)
  cases horder : orderBy c key l with
  | nil => rfl
  | cons a t =>
    rw [horder] at hpairwise hmem
    have ha : ∀ b ∈ l, c.compare (key a) (key b) ≤ 0 := by
      intro b hb
      cases List.mem_cons.mp ((hmem b).mpr hb) with
      | inl heq =>
        subst heq
        exact (c.total _ _).elim id id
      | inr ht => exact (List.pairwise_cons.mp hpairwise).1 b ht
    have hp : decide (∀ b ∈ l, c.compare (key a) (key b) ≤ 0) = true := decide_eq_true ha
    rw [List.filter_cons, if_pos hp]
    rfl

theorem head?_orderByDescending [LinearOrder κ] :
    (orderByDescending (.ofLinearOrder κ) key l).head? =
      l.find? fun a => ∀ b ∈ l, key b ≤ key a := by
  rw [orderByDescending, head?_orderBy]
  simp only [Comparer.reverse, Comparer.ofLinearOrder, compareTo_nonpos]

theorem orderBy_map {β : Type*} (f : β → α) (l : List β) :
    orderBy c key (l.map f) = (orderBy c (fun b => key (f b)) l).map f :=
  (List.map_insertionSort _ _ f l fun _ _ _ _ => Iff.rfl).symm

/-- Sorting rows with pairwise distinct keys leaves no ties. -/
theorem pairwise_orderBy_lt (hc : ∀ a b, c.compare a b = 0 → a = b) (hn : (l.map key).Nodup) :
    (orderBy c key l).Pairwise (fun a b => c.compare (key a) (key b) < 0) := by
  have hne : (orderBy c key l).Pairwise (fun a b => key a ≠ key b) := by
    rw [← List.pairwise_map]
    exact ((perm_orderBy c key l).map key).nodup_iff.mpr hn
  refine ((pairwise_orderBy c key l).and hne).imp fun h => ?_
  exact lt_of_le_of_ne h.1 fun h0 => h.2 (hc _ _ h0)

theorem pairwise_orderByDescending_lt (hc : ∀ a b, c.compare a b = 0 → a = b)
    (hn : (l.map key).Nodup) :
    (orderByDescending c key l).Pairwise (fun a b => c.compare (key b) (key a) < 0) :=
  pairwise_orderBy_lt c.reverse key l (fun a b h => (hc b a h).symm) hn

end OrderBy

section LatestInGroups
variable {τ : Type*} [DecidableEq κ] [LinearOrder τ] {key : α → κ} {time : α → τ} {l : List α}

/-- In each group the first of the rows in descending order of their times. -/
def latestInGroups (key : α → κ) (time : α → τ) (l : List α) : List α :=
  (groupBy key l).flatMap fun g => (orderByDescending (.ofLinearOrder τ) time g.elements).take 1

/-- The rows of a key than which no row of the key is later, in source order. -/
def latestOf (key : α → κ) (time : α → τ) (l : List α) (k : κ) : List α :=
  l.filter fun a => key a = k ∧ ∀ b ∈ l, key b = k → time b ≤ time a

theorem head?_latestOf {g : Grouping key} (hg : g ∈ groupBy key l) :
    (orderByDescending (.ofLinearOrder τ) time g.elements).head? =
      (latestOf key time l g.key).head? := by
  rw [head?_orderByDescending, elements_of_mem_groupBy hg, ← List.head?_filter,
    List.filter_filter, latestOf]
  congr 1
  apply List.filter_congr
  intro a _
  simp only [List.mem_filter, decide_eq_true_eq, and_imp, Bool.decide_and, Bool.and_comm]

/-- Ties go to the row that comes first in the source. -/
theorem mem_latestInGroups {a : α} :
    a ∈ latestInGroups key time l ↔ (latestOf key time l (key a)).head? = some a := by
  simp only [latestInGroups, List.mem_flatMap, List.take_one, Option.mem_toList]
  constructor
  · intro ha
    obtain ⟨g, hg, ha⟩ := ha
    rw [head?_latestOf hg] at ha
    have hkey : key a = g.key := by
      have hmem := List.mem_of_mem_head? ha
      simp only [latestOf, List.mem_filter, decide_eq_true_eq] at hmem
      exact hmem.2.1
    rw [hkey]
    exact ha
  · intro ha
    have hmem : a ∈ l := List.mem_of_mem_filter (List.mem_of_mem_head? ha)
    obtain ⟨g, hg, hkey⟩ := exists_mem_groupBy (f := key) hmem
    refine ⟨g, hg, ?_⟩
    rw [head?_latestOf hg, hkey]
    exact ha

/-- One row is kept for each key. -/
theorem map_key_latestInGroups : (latestInGroups key time l).map key = distinct (l.map key) := by
  rw [← map_key_groupBy, latestInGroups, List.map_flatMap, ← List.flatMap_pure_eq_map]
  apply List.flatMap_congr
  intro g _
  cases hsorted : orderByDescending (.ofLinearOrder τ) time g.elements with
  | nil => exact absurd ((orderByDescending_eq_nil _ _ _).mp hsorted) g.nonempty
  | cons a sorted =>
    have ha : a ∈ g.elements := by
      rw [← mem_orderByDescending, hsorted]
      exact List.mem_cons_self
    rw [List.take_succ_cons, List.take_zero, List.map_cons, List.map_nil, g.keyed a ha]
    rfl

end LatestInGroups

section SortedDistinct
variable [LinearOrder α]

def sortedDistinct (l : List α) : List α := orderBy (.ofLinearOrder α) id (distinct l)

@[simp] theorem mem_sortedDistinct {a : α} {l : List α} : a ∈ sortedDistinct l ↔ a ∈ l := by
  simp [sortedDistinct]

theorem pairwise_sortedDistinct (l : List α) : (sortedDistinct l).Pairwise (· < ·) := by
  have h := pairwise_orderBy_lt (.ofLinearOrder α) id (distinct l)
    (fun _ _ => compareTo_eq_zero.mp) (by simpa using nodup_distinct l)
  exact h.imp compareTo_neg.mp

end SortedDistinct

structure Dictionary (κ ν : Type*) where
  entries : List (κ × ν)
  nodup_keys : (entries.map Prod.fst).Nodup

section Dictionary
variable [DecidableEq κ]

def Dictionary.tryGetValue (d : Dictionary κ ν) (k : κ) : Option ν :=
  (d.entries.find? fun e => e.1 = k).map Prod.snd

theorem Dictionary.tryGetValue_of_mem {d : Dictionary κ ν} {k : κ} {v : ν}
    (h : (k, v) ∈ d.entries) : d.tryGetValue k = some v := by
  cases he : d.entries.find? fun e => e.1 = k with
  | none => simpa using List.find?_eq_none.mp he (k, v) h
  | some e =>
    have hk : e.1 = k := by simpa using List.find?_some he
    have hm : e = (k, v) :=
      List.inj_on_of_nodup_map d.nodup_keys (List.mem_of_find?_eq_some he) h hk
    simp [Dictionary.tryGetValue, he, hm]

theorem Dictionary.mem_of_tryGetValue {d : Dictionary κ ν} {k : κ} {v : ν}
    (h : d.tryGetValue k = some v) : (k, v) ∈ d.entries := by
  obtain ⟨e, he, rfl⟩ := Option.map_eq_some_iff.mp h
  have hk : e.1 = k := by simpa using List.find?_some he
  exact hk ▸ List.mem_of_find?_eq_some he

theorem Dictionary.tryGetValue_of_not_mem {d : Dictionary κ ν} {k : κ}
    (h : k ∉ d.entries.map Prod.fst) : d.tryGetValue k = none := by
  have he : d.entries.find? (fun e => e.1 = k) = none := by
    rw [List.find?_eq_none]
    intro e hm hk
    exact h (List.mem_map.mpr ⟨e, hm, by simpa using hk⟩)
  simp [Dictionary.tryGetValue, he]

/-- A repeated key has no dictionary. -/
def toDictionary (key : α → κ) (value : α → ν) (l : List α) : Option (Dictionary κ ν) :=
  if h : (l.map key).Nodup then
    some ⟨l.map fun a => (key a, value a), by simpa [List.map_map, Function.comp_def] using h⟩
  else none

/-- Groups have distinct keys, and looking a key up returns the rows that carry it. -/
theorem toDictionary_groupBy {β : Type*} (f : α → κ) (h : α → β) (l : List α) :
    ∃ d, toDictionary Grouping.key (fun g => g.elements.map h) (groupBy f l) = some d ∧
      d.entries = (groupBy f l).map (fun g => (g.key, g.elements.map h)) ∧
      ∀ k, (d.tryGetValue k).getD [] = (l.filter fun a => f a = k).map h := by
  refine ⟨_, dif_pos (nodup_map_key_groupBy f l), rfl, fun k => ?_⟩
  by_cases hk : k ∈ l.map f
  · obtain ⟨a, ha, rfl⟩ := List.mem_map.mp hk
    obtain ⟨g, hg, hgk⟩ := exists_mem_groupBy (f := f) ha
    rw [Dictionary.tryGetValue_of_mem (v := g.elements.map h), Option.getD_some,
      elements_of_mem_groupBy hg, hgk]
    exact List.mem_map.mpr ⟨g, hg, by rw [hgk]⟩
  · have hnil : l.filter (fun a => f a = k) = [] := by
      rw [List.filter_eq_nil_iff]
      intro a ha hfa
      exact hk (List.mem_map.mpr ⟨a, ha, by simpa using hfa⟩)
    rw [Dictionary.tryGetValue_of_not_mem, hnil]
    · rfl
    · have hkeys : ((groupBy f l).map fun g => (g.key, g.elements.map h)).map Prod.fst =
          distinct (l.map f) := by simp [← map_key_groupBy]
      rw [hkeys, mem_distinct]
      exact hk

end Dictionary

/-- Pair every row with its key, in order; the first key that throws ends the selection. -/
def selectKeys {ε α κ : Type} (key : α → Except ε κ) : List α → Except ε (List (κ × α))
  | [] => .ok []
  | a :: l => do
    let k ← key a
    let pairs ← selectKeys key l
    return (k, a) :: pairs

section SelectKeys
variable {ε α κ : Type} {key : α → Except ε κ} {l : List α}

theorem selectKeys_cons {a : α} {pairs : List (κ × α)} :
    selectKeys key (a :: l) = .ok pairs ↔
      ∃ k, key a = .ok k ∧ ∃ tail, selectKeys key l = .ok tail ∧ (k, a) :: tail = pairs := by
  rw [selectKeys, bind_ok_iff]
  simp only [bind_ok_iff, return_ok_iff]

theorem selectKeys_eq_ok {pairs : List (κ × α)} (h : selectKeys key l = .ok pairs) :
    pairs.map Prod.snd = l ∧ ∀ p ∈ pairs, key p.2 = .ok p.1 := by
  induction l generalizing pairs with
  | nil =>
    obtain rfl := Except.ok.inj h
    simp
  | cons a l ih =>
    obtain ⟨k, hk, tail, ht, rfl⟩ := selectKeys_cons.mp h
    obtain ⟨hl, hkeys⟩ := ih ht
    simpa [hl, hk] using hkeys

theorem exists_selectKeys :
    (∃ pairs, selectKeys key l = .ok pairs) ↔ ∀ a ∈ l, ∃ k, key a = .ok k := by
  induction l with
  | nil => simp [selectKeys]
  | cons a l ih =>
    rw [List.forall_mem_cons, ← ih]
    constructor
    · intro hpairs
      obtain ⟨pairs, h⟩ := hpairs
      obtain ⟨k, hk, tail, ht, -⟩ := selectKeys_cons.mp h
      exact ⟨⟨k, hk⟩, tail, ht⟩
    · intro hexists
      obtain ⟨⟨k, hk⟩, tail, ht⟩ := hexists
      exact ⟨_, selectKeys_cons.mpr ⟨k, hk, tail, ht, rfl⟩⟩

theorem exists_of_selectKeys_error {ex : ε} (h : selectKeys key l = .error ex) :
    ∃ a ∈ l, key a = .error ex := by
  induction l with
  | nil => cases h
  | cons a l ih =>
    rw [selectKeys, bind_error_iff] at h
    rcases h with h | ⟨k, -, h⟩
    · exact ⟨a, by simp, h⟩
    · rw [bind_error_iff] at h
      obtain ⟨b, hb, hkey⟩ := ih (h.resolve_right fun hreturn => hreturn.elim nofun)
      exact ⟨b, by simp [hb], hkey⟩

/-- The rows paired with the key `k` are the rows whose key is `k`, in order. -/
theorem filter_selectKeys [DecidableEq κ] {pairs : List (κ × α)} (h : selectKeys key l = .ok pairs)
    (k : κ) :
    (pairs.filter fun p => p.1 = k).map Prod.snd = l.filter fun a => (key a).toOption = some k := by
  obtain ⟨hl, hkeys⟩ := selectKeys_eq_ok h
  rw [← hl, List.filter_map]
  apply congrArg
  apply List.filter_congr
  intro p hp
  simp [hkeys p hp, Except.toOption]

end SelectKeys

section Sum
variable {M : Type*} [AddCommMonoid M]

theorem sum_map_congr {f g : α → M} {l : List α} (h : ∀ a ∈ l, f a = g a) :
    (l.map f).sum = (l.map g).sum := by
  rw [List.map_congr_left h]

theorem sum_map_flatMap {β : Type*} (f : α → List β) (g : β → M) (l : List α) :
    ((l.flatMap f).map g).sum = (l.map fun a => ((f a).map g).sum).sum := by
  induction l with
  | nil => rfl
  | cons a l ih =>
    rw [List.flatMap_cons, List.map_append, List.sum_append, ih, List.map_cons, List.sum_cons]

theorem sum_filter_or {p q : α → Bool} (f : α → M) {l : List α}
    (h : ∀ a ∈ l, p a = true → q a = false) :
    ((l.filter fun a => p a || q a).map f).sum =
      ((l.filter p).map f).sum + ((l.filter q).map f).sum := by
  induction l with
  | nil => simp
  | cons a l ih =>
    rw [List.forall_mem_cons] at h
    cases hp : p a with
    | true => simp [hp, h.1 hp, ih h.2, add_assoc]
    | false =>
      cases hq : q a with
      | true => simp [hp, hq, ih h.2, add_left_comm]
      | false => simp [hp, hq, ih h.2]

/-- Rows joined to pairwise distinct keys are each counted once. -/
theorem sum_by_key [DecidableEq κ] (key : α → κ) (f : α → M) {keys : List κ} (h : keys.Nodup)
    {p : α → Bool} (hp : ∀ a, p a = true ↔ key a ∈ keys) (l : List α) :
    (keys.map fun k => ((l.filter fun a => key a = k).map f).sum).sum =
      ((l.filter p).map f).sum := by
  induction keys generalizing p with
  | nil =>
    have hnone : l.filter p = [] := by simpa [List.filter_eq_nil_iff] using fun a _ => hp a
    rw [hnone]
    rfl
  | cons k keys ih =>
    obtain ⟨hk, hkeys⟩ := List.nodup_cons.mp h
    have hsplit : l.filter p = l.filter fun a => decide (key a = k) || decide (key a ∈ keys) := by
      apply List.filter_congr
      intro a _
      rw [Bool.eq_iff_iff, hp]
      simp
    rw [List.map_cons, List.sum_cons, ih hkeys (fun a => decide_eq_true_iff), hsplit,
      sum_filter_or]
    intro a _ ha
    simpa [of_decide_eq_true ha] using hk

theorem sum_map_filter_of_eq_zero {p : α → Bool} {f : α → M} {l : List α}
    (h : ∀ a ∈ l, p a = false → f a = 0) : ((l.filter p).map f).sum = (l.map f).sum := by
  induction l with
  | nil => rfl
  | cons a l ih =>
    rw [List.forall_mem_cons] at h
    cases hp : p a with
    | true => rw [List.filter_cons_of_pos hp, List.map_cons, List.sum_cons, ih h.2,
        List.map_cons, List.sum_cons]
    | false => rw [List.filter_cons_of_neg (by simp [hp]), ih h.2, List.map_cons, List.sum_cons,
        h.1 hp, zero_add]

variable [PartialOrder M] [IsOrderedAddMonoid M] {f : α → M} {l : List α}

theorem sum_map_nonneg (h : ∀ a ∈ l, 0 ≤ f a) : 0 ≤ (l.map f).sum := by
  apply List.sum_nonneg
  intro m hm
  obtain ⟨a, ha, rfl⟩ := List.mem_map.mp hm
  exact h a ha

theorem sum_map_eq_zero_iff (h : ∀ a ∈ l, 0 ≤ f a) :
    (l.map f).sum = 0 ↔ ∀ a ∈ l, f a = 0 := by
  induction l with
  | nil => simp
  | cons a l ih =>
    rw [List.forall_mem_cons] at h ⊢
    rw [List.map_cons, List.sum_cons, add_eq_zero_iff_of_nonneg h.1 (sum_map_nonneg h.2), ih h.2]

end Sum

/-- A list whose `p` rows all precede its `q` rows is its two halves in order. -/
theorem filter_append_filter {p q : α → Bool} {l : List α} (hpq : ∀ a ∈ l, q a = !p a)
    (hs : l.Pairwise fun a b => p b → p a) : l.filter p ++ l.filter q = l := by
  induction l with
  | nil => rfl
  | cons a l ih =>
    obtain ⟨ha, hl⟩ := List.pairwise_cons.mp hs
    have ih' := ih (fun b hb => hpq b (List.mem_cons_of_mem _ hb)) hl
    have hqa := hpq a List.mem_cons_self
    cases hp : p a with
    | true => simp [hp, hqa, ih']
    | false =>
      -- no later row can satisfy `p`, so the whole list is the second half
      have hnil : l.filter p = [] := by
        rw [List.filter_eq_nil_iff]
        intro b hb hpb
        simpa [hp] using ha b hb hpb
      simp only [hnil, List.nil_append] at ih'
      simp [hp, hqa, hnil, ih']

end IdentifyDataLocks.Linq
