import IdentifyDataLocks.AcademicYear
import IdentifyDataLocks.Linq

/-! Collection periods R1 to R14 of an academic year, and their hand-written order. -/
namespace IdentifyDataLocks
open Linq

@[ext] structure Period where
  year : ℤ
  month : ℤ
  deriving DecidableEq, Repr

namespace Period

def toString (p : Period) : String := s!"R{p.month}"

def compareTo (p other : Period) : ℤ :=
  match (Linq.compareTo p.year other.year, Linq.compareTo p.month other.month) with
  | (-1, _) => -1
  | (0, -1) => -1
  | (0, 0) => 0
  | _ => 1

def key (p : Period) : ℤ ×ₗ ℤ := toLex (p.year, p.month)

theorem key_injective : Function.Injective key := by
  intro a b h
  simp only [key, EmbeddingLike.apply_eq_iff_eq, Prod.mk.injEq] at h
  exact Period.ext h.1 h.2

instance : LinearOrder Period := LinearOrder.lift' key key_injective

theorem lt_iff {p q : Period} : p < q ↔ p.year < q.year ∨ (p.year = q.year ∧ p.month < q.month) :=
  Prod.Lex.toLex_lt_toLex

/-- The pattern switch is the lexicographic comparison of year and month. -/
theorem compareTo_eq (p q : Period) : p.compareTo q = Linq.compareTo p q := by
  have hpq := lt_iff (p := p) (q := q)
  have hqp := lt_iff (p := q) (q := p)
  rcases lt_trichotomy p.year q.year with hy | hy | hy
  · simp [compareTo, Linq.compareTo, hpq, hy]
  · rcases lt_trichotomy p.month q.month with hm | hm | hm
    · simp [compareTo, Linq.compareTo, hpq, hy, hm]
    · simp [compareTo, Linq.compareTo, hpq, hqp, hy, hm]
    · simp [compareTo, Linq.compareTo, hpq, hqp, hy, hm, hm.not_gt]
  · simp [compareTo, Linq.compareTo, hpq, hqp, hy, hy.not_gt, hy.ne']

theorem compareTo_neg {p q : Period} : p.compareTo q < 0 ↔ p < q := by
  rw [compareTo_eq, Linq.compareTo_neg]

theorem compareTo_pos {p q : Period} : 0 < p.compareTo q ↔ q < p := by
  rw [compareTo_eq, Linq.compareTo_pos]

theorem compareTo_nonpos {p q : Period} : p.compareTo q ≤ 0 ↔ p ≤ q := by
  rw [compareTo_eq, Linq.compareTo_nonpos]

theorem compareTo_eq_zero {p q : Period} : p.compareTo q = 0 ↔ p = q := by
  rw [compareTo_eq, Linq.compareTo_eq_zero]

def comparer : Comparer Period where
  compare := compareTo
  swap _ _ := by rw [compareTo_neg, compareTo_pos]
  trans _ _ _ := by
    simp only [compareTo_nonpos]
    exact le_trans

/-- The codes of accepted years grow with the years. -/
theorem year_lt_iff {p q : Period} {y z : AcademicYear}
    (hy : AcademicYear.ofShortInt p.year = .ok y) (hz : AcademicYear.ofShortInt q.year = .ok z) :
    p.year < q.year ↔ y.start < z.start := by
  obtain ⟨f, hp, -, -, hf⟩ := AcademicYear.ofShortInt_eq_ok.mp hy
  obtain ⟨g, hq, -, -, hg⟩ := AcademicYear.ofShortInt_eq_ok.mp hz
  omega

theorem year_eq_iff {p q : Period} {y z : AcademicYear}
    (hy : AcademicYear.ofShortInt p.year = .ok y) (hz : AcademicYear.ofShortInt q.year = .ok z) :
    p.year = q.year ↔ y = z := by
  constructor
  · intro h
    rw [h] at hy
    exact Except.ok.inj (hy.symm.trans hz)
  · rintro rfl
    have hpq := year_lt_iff hy hz
    have hqp := year_lt_iff hz hy
    omega

/-- The comparison is the lexicographic order of year and month, a total order by which a sort
of periods ascends; between codes that are read as academic years, as those of 2000-01 to
2098-99 all are, it is chronological. -/
theorem compareTo_orders_periods :
    TotalComparison compareTo ∧
      (∀ p q : Period, p.compareTo q < 0 ↔
        p.year < q.year ∨ (p.year = q.year ∧ p.month < q.month)) ∧
      (∀ l : List Period, (orderBy comparer id l).Perm l ∧
        (orderBy comparer id l).Pairwise fun p q => p.compareTo q ≤ 0) ∧
      (∀ y : AcademicYear, 2000 ≤ y.start ∧ y.start ≤ 2098 →
        AcademicYear.ofShortInt y.toShortInt = .ok y) ∧
      ∀ (p q : Period) (y z : AcademicYear), AcademicYear.ofShortInt p.year = .ok y →
        AcademicYear.ofShortInt q.year = .ok z →
          (p.compareTo q < 0 ↔ y.start < z.start ∨ (y = z ∧ p.month < q.month)) := by
  have hcompare : compareTo = Linq.compareTo := funext₂ compareTo_eq
  have hlex : ∀ p q : Period, p.compareTo q < 0 ↔
      p.year < q.year ∨ (p.year = q.year ∧ p.month < q.month) := by
    intro p q
    rw [compareTo_neg, lt_iff]
  refine ⟨?_, hlex, ?_, fun y hy => (AcademicYear.ofShortInt_eq_ok_iff hy).mpr rfl, ?_⟩
  · rw [hcompare]
    exact totalComparison_compareTo
  · intro l
    exact ⟨perm_orderBy _ _ _, pairwise_orderBy comparer id l⟩
  · intro p q y z hy hz
    rw [hlex, year_lt_iff hy hz, year_eq_iff hy hz]

example : (⟨1819, 14⟩ : Period).compareTo ⟨1920, 1⟩ = -1 := by decide

end Period

end IdentifyDataLocks
