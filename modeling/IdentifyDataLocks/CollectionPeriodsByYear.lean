import IdentifyDataLocks.AcademicYear
import IdentifyDataLocks.CollectionPeriodReport

/-! The entries of a report by academic year. -/
namespace IdentifyDataLocks
open Linq

/-- The key selector `(AcademicYear)c.Period.Year`. -/
def CollectionPeriod.academicYear (c : CollectionPeriod) : Except Exception AcademicYear :=
  AcademicYear.ofShortInt c.period.year

namespace CollectionPeriodReport

def collectionPeriodsByYear (r : CollectionPeriodReport) :
    Except Exception (Dictionary AcademicYear (List CollectionPeriod)) := do
  let keyed ← selectKeys CollectionPeriod.academicYear r.collectionPeriods
  match toDictionary Grouping.key (fun g => g.elements.map Prod.snd) (groupBy Prod.fst keyed) with
  | some d => .ok d
  | none => .error (.argument "An item with the same key has already been added.")

variable {r : CollectionPeriodReport}

theorem collectionPeriodsByYear_of_selectKeys {keyed : List (AcademicYear × CollectionPeriod)}
    (h : selectKeys CollectionPeriod.academicYear r.collectionPeriods = .ok keyed) :
    ∃ d, r.collectionPeriodsByYear = .ok d ∧ (∀ b ∈ d.entries, b.2 ≠ []) ∧
      ∀ y, (d.tryGetValue y).getD [] =
        r.collectionPeriods.filter fun c => c.academicYear.toOption = some y := by
  obtain ⟨d, hd, hentries, hget⟩ := toDictionary_groupBy Prod.fst Prod.snd keyed
  refine ⟨d, ?_, fun b hb => ?_, fun y => ?_⟩
  · simp [collectionPeriodsByYear, h, hd, bind, Except.bind]
  · rw [hentries] at hb
    obtain ⟨g, -, rfl⟩ := List.mem_map.mp hb
    simpa using g.nonempty
  · rw [hget, filter_selectKeys h]

theorem exists_collectionPeriodsByYear :
    (∃ d, r.collectionPeriodsByYear = .ok d) ↔
      ∀ c ∈ r.collectionPeriods, ∃ y, c.academicYear = .ok y := by
  rw [← exists_selectKeys]
  constructor
  · intro h
    obtain ⟨d, hd⟩ := h
    cases hk : selectKeys CollectionPeriod.academicYear r.collectionPeriods with
    | ok keyed => exact ⟨keyed, rfl⟩
    | error ex => simp [collectionPeriodsByYear, hk, bind, Except.bind] at hd
  · intro h
    obtain ⟨keyed, hk⟩ := h
    obtain ⟨d, hd, -⟩ := collectionPeriodsByYear_of_selectKeys hk
    exact ⟨d, hd⟩

/-- The years of a report convert exactly when those of its retained earnings do. -/
theorem exists_byYear_iff_retained {app : Option ApprenticeshipModel}
    {earnings : List EarningEventModel} {locks : List DataLockEventModel} :
    (∃ d, (build app earnings locks).collectionPeriodsByYear = .ok d) ↔
      ∀ e, Retained app earnings e → ∃ y, AcademicYear.ofShortInt e.academicYear.toInt = .ok y := by
  rw [exists_collectionPeriodsByYear]
  constructor
  · intro h e he
    obtain ⟨c, hc, hp⟩ : ∃ c ∈ (build app earnings locks).collectionPeriods, c.period = e.period :=
      exists_entry_iff.mpr ⟨e, he, rfl⟩
    obtain ⟨y, hy⟩ := h c hc
    rw [CollectionPeriod.academicYear, hp] at hy
    exact ⟨y, hy⟩
  · intro h c hc
    obtain ⟨e, he, rfl⟩ := mem_collectionPeriods.mp hc
    exact h e he.1

theorem collectionPeriodsByYear_congr {r r' : CollectionPeriodReport}
    (h : r.collectionPeriods = r'.collectionPeriods) :
    r.collectionPeriodsByYear = r'.collectionPeriodsByYear := by
  rw [collectionPeriodsByYear, collectionPeriodsByYear, h]

theorem collectionPeriodsByYear_spec {d : Dictionary AcademicYear (List CollectionPeriod)}
    (h : r.collectionPeriodsByYear = .ok d) :
    (∀ b ∈ d.entries, b.2 ≠ []) ∧
      ∀ y, (d.tryGetValue y).getD [] =
        r.collectionPeriods.filter fun c => c.academicYear.toOption = some y := by
  obtain ⟨keyed, hk⟩ := exists_selectKeys.mpr (exists_collectionPeriodsByYear.mp ⟨d, h⟩)
  obtain ⟨d', hd', hspec⟩ := collectionPeriodsByYear_of_selectKeys hk
  obtain rfl : d = d' := Except.ok.inj (h.symm.trans hd')
  exact hspec

/-- The bucket of a year holds the entries of that year, newest first. -/
theorem tryGetValue_collectionPeriodsByYear {d : Dictionary AcademicYear (List CollectionPeriod)}
    (h : r.collectionPeriodsByYear = .ok d) (y : AcademicYear) :
    (d.tryGetValue y).getD [] =
      r.collectionPeriods.filter fun c => c.academicYear.toOption = some y :=
  (collectionPeriodsByYear_spec h).2 y

theorem tryGetValue_eq_filter {d : Dictionary AcademicYear (List CollectionPeriod)}
    (h : r.collectionPeriodsByYear = .ok d) {y : AcademicYear} (hy : y.InCentury) :
    (d.tryGetValue y).getD [] =
      r.collectionPeriods.filter fun c => c.period.year = y.toShortInt := by
  rw [tryGetValue_collectionPeriodsByYear h]
  apply List.filter_congr
  intro c _
  rw [decide_eq_decide, ← AcademicYear.ofShortInt_eq_ok_iff hy, CollectionPeriod.academicYear]
  cases AcademicYear.ofShortInt c.period.year with
  | ok z => simp [Except.toOption]
  | error ex => simp [Except.toOption]

/-! The buckets as a partition of the report. -/

section Buckets
variable {d : Dictionary AcademicYear (List CollectionPeriod)}
  (h : r.collectionPeriodsByYear = .ok d)
include h

theorem bucket_eq_filter {b : AcademicYear × List CollectionPeriod} (hb : b ∈ d.entries) :
    b.2 = r.collectionPeriods.filter fun c => c.academicYear.toOption = some b.1 := by
  rw [← tryGetValue_collectionPeriodsByYear h, Dictionary.tryGetValue_of_mem hb, Option.getD_some]

theorem mem_bucket {b : AcademicYear × List CollectionPeriod} (hb : b ∈ d.entries)
    {c : CollectionPeriod} :
    c ∈ b.2 ↔ c ∈ r.collectionPeriods ∧ c.academicYear = .ok b.1 := by
  rw [bucket_eq_filter h hb, List.mem_filter, decide_eq_true_eq]
  apply and_congr_right
  intro _
  cases c.academicYear with
  | ok y => simp [Except.toOption]
  | error ex => simp [Except.toOption]

theorem exists_bucket {c : CollectionPeriod} (hc : c ∈ r.collectionPeriods) :
    ∃ b ∈ d.entries, c ∈ b.2 := by
  obtain ⟨y, hy⟩ := exists_collectionPeriodsByYear.mp ⟨d, h⟩ c hc
  have hget := tryGetValue_collectionPeriodsByYear h y
  have hmem : c ∈ r.collectionPeriods.filter fun c => c.academicYear.toOption = some y := by
    simp [hc, hy, Except.toOption]
  cases hv : d.tryGetValue y with
  | none =>
    rw [hv] at hget
    simp [← hget] at hmem
  | some l =>
    rw [hv, Option.getD_some] at hget
    exact ⟨_, Dictionary.mem_of_tryGetValue hv, hget ▸ hmem⟩

/-- The entries of an earlier year have the smaller codes. -/
theorem year_lt_of_start_lt {b b' : AcademicYear × List CollectionPeriod} (hb : b ∈ d.entries)
    (hb' : b' ∈ d.entries) (hlt : b.1.start < b'.1.start) {c c' : CollectionPeriod}
    (hc : c ∈ b.2) (hc' : c' ∈ b'.2) : c.period.year < c'.period.year := by
  obtain ⟨f, hf, -, -, hs⟩ := AcademicYear.ofShortInt_eq_ok.mp ((mem_bucket h hb).mp hc).2
  obtain ⟨f', hf', -, -, hs'⟩ := AcademicYear.ofShortInt_eq_ok.mp ((mem_bucket h hb').mp hc').2
  omega

/-- Two entries share a bucket exactly when their years have one code. -/
theorem exists_bucket_iff {c c' : CollectionPeriod} (hc : c ∈ r.collectionPeriods)
    (hc' : c' ∈ r.collectionPeriods) :
    (∃ b ∈ d.entries, c ∈ b.2 ∧ c' ∈ b.2) ↔ c.period.year = c'.period.year := by
  constructor
  · intro hshared
    obtain ⟨b, hb, hm, hm'⟩ := hshared
    obtain ⟨f, hf, -, -, hs⟩ := AcademicYear.ofShortInt_eq_ok.mp ((mem_bucket h hb).mp hm).2
    obtain ⟨f', hf', -, -, hs'⟩ := AcademicYear.ofShortInt_eq_ok.mp ((mem_bucket h hb).mp hm').2
    omega
  · intro hyear
    obtain ⟨b, hb, hm⟩ := exists_bucket h hc
    have hy : c.academicYear = .ok b.1 := ((mem_bucket h hb).mp hm).2
    rw [CollectionPeriod.academicYear, hyear] at hy
    exact ⟨b, hb, hm, (mem_bucket h hb).mpr ⟨hc', hy⟩⟩

/-- By decreasing start of their years the buckets are the report, in its order. -/
theorem flatMap_buckets :
    (orderByDescending (.ofLinearOrder ℕ) (fun b => b.1.start) d.entries).flatMap (·.2) =
      r.collectionPeriods := by
  have hsorted : (orderByDescending (.ofLinearOrder ℕ) (fun b => b.1.start) d.entries).Pairwise
      fun b b' => b'.1.start < b.1.start := by
    have hn : (d.entries.map fun b => b.1.start).Nodup := by
      have hkeys := d.nodup_keys.map AcademicYear.start_injective
      rwa [List.map_map] at hkeys
    have hlt := pairwise_orderByDescending_lt (.ofLinearOrder ℕ) (fun b => b.1.start) d.entries
      (fun _ _ => compareTo_eq_zero.mp) hn
    exact hlt.imp compareTo_neg.mp
  have hirrefl : Std.Irrefl fun a b : CollectionPeriod => b.compareTo a < 0 :=
    ⟨fun a ha => lt_irrefl _ (Period.compareTo_neg.mp ha)⟩
  have hasymm : Std.Antisymm fun a b : CollectionPeriod => b.compareTo a < 0 :=
    ⟨fun a b hab hba => absurd (Period.compareTo_neg.mp hab) (Period.compareTo_neg.mp hba).not_gt⟩
  refine List.Pairwise.eq_of_mem_iff (List.pairwise_flatMap.mpr ⟨fun b hb => ?_, ?_⟩)
    r.newest_first fun c => ?_
  · rw [bucket_eq_filter h ((mem_orderByDescending _ _ _).mp hb)]
    exact r.newest_first.filter _
  · refine hsorted.imp_of_mem fun {b b'} hb hb' hlt c hc c' hc' => ?_
    have hy := year_lt_of_start_lt h ((mem_orderByDescending _ _ _).mp hb')
      ((mem_orderByDescending _ _ _).mp hb) hlt hc' hc
    exact Period.compareTo_neg.mpr (Period.lt_iff.mpr (Or.inl hy))
  · rw [List.mem_flatMap]
    constructor
    · intro hbucket
      obtain ⟨b, hb, hc⟩ := hbucket
      exact ((mem_bucket h ((mem_orderByDescending _ _ _).mp hb)).mp hc).1
    · intro hc
      obtain ⟨b, hb, hm⟩ := exists_bucket h hc
      exact ⟨b, (mem_orderByDescending _ _ _).mpr hb, hm⟩

end Buckets

/-- The year buckets of a report throw exactly on a year whose code names no two consecutive
years; otherwise they are its partition by code, and no bucket is empty. -/
theorem collectionPeriodsByYear_partitions (r : CollectionPeriodReport) :
    ((∃ ex, r.collectionPeriodsByYear = .error ex) ↔
        ∃ c ∈ r.collectionPeriods,
          ¬ ∃ f : ℤ, -100 ≤ f ∧ f ≤ 98 ∧ c.period.year = 100 * f + (f + 1)) ∧
      ∀ d, r.collectionPeriodsByYear = .ok d →
        (∀ c ∈ r.collectionPeriods, ∀ c' ∈ r.collectionPeriods,
          (∃ b ∈ d.entries, c ∈ b.2 ∧ c' ∈ b.2) ↔ c.period.year = c'.period.year) ∧
        (∀ b ∈ d.entries, b.2 ≠ []) ∧
        (orderByDescending (.ofLinearOrder ℕ) (fun b => b.1.start) d.entries).flatMap (·.2) =
          r.collectionPeriods := by
  refine ⟨?_, fun d h => ⟨fun c hc c' hc' => exists_bucket_iff h hc hc',
    (collectionPeriodsByYear_spec h).1, flatMap_buckets h⟩⟩
  have herror : (∃ ex, r.collectionPeriodsByYear = .error ex) ↔
      ¬ ∃ d, r.collectionPeriodsByYear = .ok d := by
    cases r.collectionPeriodsByYear with
    | ok d => simp
    | error ex => simp
  rw [herror, exists_collectionPeriodsByYear]
  push Not
  apply exists_congr
  intro c
  apply and_congr_right
  intro _
  have hcode := AcademicYear.exists_ofShortInt (n := c.period.year)
  rw [← not_iff_not] at hcode
  push Not at hcode
  exact hcode

end CollectionPeriodReport

end IdentifyDataLocks
