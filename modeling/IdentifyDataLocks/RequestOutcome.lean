import IdentifyDataLocks.LearnerRequest

/-! How a request ends while the clock stands still: the number and the day decide whether it
throws and what, and no stored row and no service has a say in it. -/
namespace IdentifyDataLocks
open Calendar Linq Fallible CollectionPeriodReport

namespace AcademicYear

/-- The conversion's answer to 10000, the code of every year whose number ends in 99. -/
def notConsecutive : Exception :=
  .argument "`10000` does not represent two consecutive years."

theorem startingIn_error_iff {year : ℤ} {ex : Exception} :
    startingIn year = .error ex ↔ ¬ (1 ≤ year ∧ year ≤ 9999) ∧ ex = .argumentOutOfRange := by
  by_cases h : 1 ≤ year ∧ year ≤ 9999
  · obtain ⟨y, hy⟩ := exists_startingIn h
    simp [hy, h]
  · have hdate : DateTime.ofDate year firstMonthOfAcademicYear 1 = none :=
      dif_neg fun hrange => h ⟨hrange.1, hrange.2.1⟩
    unfold startingIn
    split
    · simp_all
    · simp [h, eq_comm]

theorem ofDateTime_error_iff {d : DateTime} {ex : Exception} :
    ofDateTime d = .error ex ↔ startOf d < 1 ∧ ex = .argumentOutOfRange := by
  have hlast := startOf_le d
  change startingIn (startOf d) = .error ex ↔ _
  rw [startingIn_error_iff]
  apply and_congr_left
  intro _
  omega

theorem previous_error_iff {d : DateTime} {ex : Exception} :
    (ofDateTime d >>= fun y => y.sub 1) = .error ex ↔
      startOf d < 2 ∧ ex = .argumentOutOfRange := by
  have hlast := startOf_le d
  rw [bind_error_iff, ofDateTime_error_iff]
  constructor
  · intro h
    rcases h with h | ⟨y, hy, hsub⟩
    · exact ⟨by omega, h.2⟩
    · rw [sub, add_eq_startingIn, startingIn_error_iff] at hsub
      have hstart := ofDateTime_eq_ok.mp hy
      exact ⟨by omega, hsub.2⟩
  · intro h
    obtain ⟨hlt, hex⟩ := h
    by_cases hfirst : startOf d < 1
    · exact Or.inl ⟨hfirst, hex⟩
    · obtain ⟨y, hy⟩ := exists_ofDateTime (d := d) (by omega)
      have hstart := ofDateTime_eq_ok.mp hy
      refine Or.inr ⟨y, hy, ?_⟩
      rw [sub, add_eq_startingIn, startingIn_error_iff]
      exact ⟨by omega, hex⟩

/-- A code of two digits twice is read as a year of this century with the same code. -/
theorem exists_inCentury {y : AcademicYear} (h : y.start % 100 ≠ 99) :
    ∃ z : AcademicYear, z.InCentury ∧ z.toShortInt = y.toShortInt := by
  obtain ⟨z, hz⟩ := exists_startingIn (show (1 : ℤ) ≤ 2000 + (y.start % 100 : ℕ) ∧
    2000 + ((y.start % 100 : ℕ) : ℤ) ≤ 9999 by omega)
  have hstart := startingIn_eq_ok.mp hz
  have hcentury : z.InCentury := by
    unfold InCentury
    omega
  refine ⟨z, hcentury, ?_⟩
  simp only [toShortInt]
  change ((z.start : ℤ) % 100) * 100 + (z.start : ℤ) % 100 + 1 =
    ((y.start : ℤ) % 100) * 100 + (y.start : ℤ) % 100 + 1
  omega

theorem ofShortInt_toShortInt_of_99 {y : AcademicYear} (h : y.start % 100 = 99) :
    ofShortInt y.toShortInt = .error notConsecutive := by
  have hcode : y.toShortInt = 10000 := by
    simp only [toShortInt]
    change ((y.start : ℤ) % 100) * 100 + (y.start : ℤ) % 100 + 1 = 10000
    omega
  rw [hcode]
  rfl

/-- A year's own code is refused exactly when the year ends in 99. -/
theorem ofShortInt_toShortInt_error_iff {y : AcademicYear} {ex : Exception} :
    ofShortInt y.toShortInt = .error ex ↔ y.start % 100 = 99 ∧ ex = notConsecutive := by
  by_cases h : y.start % 100 = 99
  · simp [ofShortInt_toShortInt_of_99 h, h, eq_comm]
  · obtain ⟨z, hz, hcode⟩ := exists_inCentury h
    simp [← hcode, (ofShortInt_eq_ok_iff hz).mpr rfl, h]

/-- Of two successive years the later has the larger code, unless a century begins with it. -/
theorem toShortInt_lt_of_succ {y z : AcademicYear} (hsucc : (y.start : ℤ) = z.start - 1)
    (h : z.start % 100 ≠ 0) : y.toShortInt < z.toShortInt := by
  simp only [toShortInt]
  change ((y.start : ℤ) % 100) * 100 + (y.start : ℤ) % 100 + 1 <
    ((z.start : ℤ) % 100) * 100 + (z.start : ℤ) % 100 + 1
  omega

end AcademicYear

namespace CollectionPeriodReport

/-- The year buckets throw what the year of some entry throws. -/
theorem exists_of_collectionPeriodsByYear_error {r : CollectionPeriodReport} {ex : Exception}
    (h : r.collectionPeriodsByYear = .error ex) :
    ∃ c ∈ r.collectionPeriods, c.academicYear = .error ex := by
  cases hkeyed : selectKeys CollectionPeriod.academicYear r.collectionPeriods with
  | ok keyed =>
    obtain ⟨d, hd, -⟩ := collectionPeriodsByYear_of_selectKeys hkeyed
    rw [hd] at h
    cases h
  | error ex' =>
    rw [collectionPeriodsByYear, hkeyed] at h
    obtain rfl := Except.error.inj h
    exact exists_of_selectKeys_error hkeyed

end CollectionPeriodReport

namespace LearnerModel

variable {p : LearnerReportProvider} {timeProvider : ITimeProvider} {page page' : LearnerModel}
  {s s' : Reads} {ex : Exception}

/-- One evaluation throws only on a year before the calendar. -/
theorem run_academicYears_error :
    (academicYears timeProvider).run s = .error ex ↔
      (AcademicYear.startOf (timeProvider s.count) < 1 ∨
          AcademicYear.startOf (timeProvider (s.count + 1)) < 2) ∧ ex = .argumentOutOfRange := by
  unfold academicYears
  simp only [run_bind_error_iff, run_today, run_lift_error_iff, run_lift_ok_iff, run_recordPair,
    run_return_ne_error, AcademicYear.ofDateTime_error_iff, AcademicYear.previous_error_iff,
    reduceCtorEq, false_or, Except.ok.injEq, Prod.mk.injEq]
  constructor
  · rintro ⟨_, _, ⟨rfl, rfl⟩, h | ⟨y, _, ⟨-, rfl⟩, _, _, ⟨rfl, rfl⟩, h | ⟨_, _, -, h⟩⟩⟩
    · exact ⟨Or.inl h.1, h.2⟩
    · exact ⟨Or.inr h.1, h.2⟩
    · simp at h
  · intro h
    obtain ⟨hyear, hex⟩ := h
    refine ⟨_, _, ⟨rfl, rfl⟩, ?_⟩
    by_cases hfirst : AcademicYear.startOf (timeProvider s.count) < 1
    · exact Or.inl ⟨hfirst, hex⟩
    · obtain ⟨y, hy⟩ := AcademicYear.exists_ofDateTime (not_lt.mp hfirst)
      exact Or.inr ⟨y, _, ⟨hy, rfl⟩, _, _, ⟨rfl, rfl⟩,
        Or.inl ⟨hyear.resolve_left hfirst, hex⟩⟩

theorem getDataLocksForAcademicYear_error {r : LearnerReport} {year : ℤ} :
    getDataLocksForAcademicYear r year = .error ex ↔ AcademicYear.ofShortInt year = .error ex := by
  rw [getDataLocksForAcademicYear, bind_error_iff]
  simp [return_ne_error]

/-- A lookup is answered unless its year ends in 99. -/
theorem exists_getDataLocksForAcademicYear {r : LearnerReport} {y : AcademicYear} :
    (∃ cs, getDataLocksForAcademicYear r y.toShortInt = .ok cs) ↔ y.start % 100 ≠ 99 := by
  constructor
  · intro h h99
    obtain ⟨cs, hcs⟩ := h
    rw [getDataLocksForAcademicYear_error.mpr (AcademicYear.ofShortInt_toShortInt_of_99 h99)] at hcs
    cases hcs
  · intro h
    apply exists_ok_of_no_error
    intro ex herror
    rw [getDataLocksForAcademicYear_error, AcademicYear.ofShortInt_toShortInt_error_iff] at herror
    exact h herror.1

/-- A report throws only on the code of one of its two years. -/
theorem buildLearnerReport_error {uln : Int64} {years : AcademicYear × AcademicYear}
    (h : p.buildLearnerReport uln years = .error ex) :
    (years.1.start % 100 = 99 ∨ years.2.start % 100 = 99) ∧ ex = AcademicYear.notConsecutive := by
  rw [p.buildLearnerReport_error_iff] at h
  obtain ⟨c, hc, hyear⟩ := exists_of_collectionPeriodsByYear_error h
  rw [CollectionPeriod.academicYear] at hyear
  rcases p.year_of_mem_storedReport uln years hc with hcode | hcode
  · rw [hcode, AcademicYear.ofShortInt_toShortInt_error_iff] at hyear
    exact ⟨Or.inl hyear.1, hyear.2⟩
  · rw [hcode, AcademicYear.ofShortInt_toShortInt_error_iff] at hyear
    exact ⟨Or.inr hyear.1, hyear.2⟩

/-- What a lookup returns is the part of the stored report with the code it asks for. -/
theorem getDataLocksForAcademicYear_eq {uln : Int64} {years : AcademicYear × AcademicYear}
    {r : LearnerReport} {y : AcademicYear} {cs : List CollectionPeriod}
    (hr : p.buildLearnerReport uln years = .ok r)
    (h : getDataLocksForAcademicYear r y.toShortInt = .ok cs) :
    cs = (p.storedReport uln years).collectionPeriods.filter
      fun c => c.period.year = y.toShortInt := by
  obtain ⟨d, hd, rfl⟩ := (p.buildLearnerReport_ok_iff uln years).mp hr
  obtain ⟨key, hkey, hcs⟩ := bind_ok_iff.mp h
  rw [return_ok_iff, p.assemble_dataLocks] at hcs
  obtain ⟨f, hcode, hlo, hhi, hstart⟩ := AcademicYear.ofShortInt_eq_ok.mp hkey
  have hpos := y.toShortInt_pos
  have hcentury : key.InCentury := by
    unfold AcademicYear.InCentury
    omega
  rw [← hcs, (AcademicYear.ofShortInt_eq_ok_iff hcentury).mp hkey]
  exact tryGetValue_eq_filter hd hcentury

/-! The clock at rest. -/

/-- The years of a request at `today`. -/
structure YearsAt (today : DateTime) (years : AcademicYear × AcademicYear) : Prop where
  current : (years.1.start : ℤ) = AcademicYear.startOf today
  previous : (years.2.start : ℤ) = AcademicYear.startOf today - 1

theorem yearsAt_iff {today : DateTime} {n : ℕ} {pair : AcademicYear × AcademicYear} :
    PairAt (fun _ => today) n pair ↔ YearsAt today pair :=
  ⟨fun h => ⟨h.1, h.2⟩, fun h => ⟨h.current, h.previous⟩⟩

theorem YearsAt.unique {today : DateTime} {a b : AcademicYear × AcademicYear}
    (ha : YearsAt today a) (hb : YearsAt today b) : a = b := by
  have hcurrent := ha.current.trans hb.current.symm
  have hprevious := ha.previous.trans hb.previous.symm
  exact Prod.ext (AcademicYear.start_injective (by omega))
    (AcademicYear.start_injective (by omega))

theorem exists_yearsAt {today : DateTime} (h : 2 ≤ AcademicYear.startOf today) :
    ∃ years, YearsAt today years := by
  have hlast := AcademicYear.startOf_le today
  obtain ⟨current, hc⟩ := AcademicYear.exists_ofDateTime (d := today) (by omega)
  have hstart := AcademicYear.ofDateTime_eq_ok.mp hc
  obtain ⟨previous, hp⟩ : ∃ previous, current.add (-1) = .ok previous :=
    AcademicYear.exists_add (by omega)
  have hbefore := AcademicYear.add_eq_ok.mp hp
  exact ⟨(current, previous), hstart, hbefore.trans (by rw [hstart, sub_eq_add_neg])⟩

/-- The days at which a request is answered. -/
def Answerable (today : DateTime) : Prop :=
  2 ≤ AcademicYear.startOf today ∧ AcademicYear.startOf today % 100 ≠ 0 ∧
    AcademicYear.startOf today % 100 ≠ 99

instance (today : DateTime) : Decidable (Answerable today) :=
  inferInstanceAs (Decidable (_ ∧ _ ∧ _))

/-- How a request with the clock at `today` must end: with the exception, or with none. -/
def exceptionAt (today : DateTime) (page : LearnerModel) : Option Exception :=
  if longTryParse page.uln = none then some (.general "Invalid ULN")
  else if AcademicYear.startOf today < 2 then some .argumentOutOfRange
  else if Answerable today then none
  else some AcademicYear.notConsecutive

/-- With the clock at rest the query and both lookups have one pair of years. -/
theorem run_onGetAsync_resting {today : DateTime} {uln : Int64}
    (hu : longTryParse page.uln = some uln) :
    (onGetAsync p (fun _ => today) page).run {} = .ok (page', s) ↔
      ∃ years r, YearsAt today years ∧ Answerable today ∧
        p.buildLearnerReport uln years = .ok r ∧
        page' = page.fill r
          ((p.storedReport uln years).collectionPeriods.filter
            fun c => c.period.year = years.1.toShortInt)
          ((p.storedReport uln years).collectionPeriods.filter
            fun c => c.period.year = years.2.toShortInt) ∧
        s = { count := 6, evaluated := [years, years, years] } := by
  rw [run_onGetAsync hu]
  simp only [yearsAt_iff]
  constructor
  · rintro ⟨q, r, l₁, cs, l₂, ps, hq, hr, hl₁, hcs, hl₂, hps, rfl, rfl⟩
    obtain rfl := hl₁.unique hq
    obtain rfl := hl₂.unique hl₁
    have hcurrent := exists_getDataLocksForAcademicYear.mp ⟨cs, hcs⟩
    have hprevious := exists_getDataLocksForAcademicYear.mp ⟨ps, hps⟩
    have hstart := l₂.2.start_range
    have hc := hq.current
    have hp := hq.previous
    refine ⟨l₂, r, hq, ⟨by omega, by omega, by omega⟩, hr, ?_, rfl⟩
    rw [getDataLocksForAcademicYear_eq hr hcs, getDataLocksForAcademicYear_eq hr hps]
  · rintro ⟨years, r, hyears, hanswerable, hr, rfl, rfl⟩
    obtain ⟨hlo, h0, h99⟩ := hanswerable
    have hc := hyears.current
    have hp := hyears.previous
    have hget : ∀ y : AcademicYear, y.start % 100 ≠ 99 →
        getDataLocksForAcademicYear r y.toShortInt =
          .ok ((p.storedReport uln years).collectionPeriods.filter
            fun c => c.period.year = y.toShortInt) := by
      intro y hy
      obtain ⟨cs, hcs⟩ := exists_getDataLocksForAcademicYear (r := r) (y := y) |>.mpr hy
      rw [hcs, getDataLocksForAcademicYear_eq hr hcs]
    exact ⟨years, r, years, _, years, _, hyears, hr, hyears, hget _ (by omega), hyears,
      hget _ (by omega), rfl, rfl⟩

theorem exceptionAt_eq_none {today : DateTime} :
    exceptionAt today page = none ↔ longTryParse page.uln ≠ none ∧ Answerable today := by
  unfold exceptionAt
  split_ifs with hparse hyear h
  · simp [hparse]
  · simp only [false_iff, not_and]
    intro _ hanswerable
    exact absurd hanswerable.1 (not_le.mpr hyear)
  · simp [hparse, h]
  · simp [h]

theorem exceptionAt_of_year {today : DateTime} (hparse : longTryParse page.uln ≠ none)
    (h : AcademicYear.startOf today < 2) : exceptionAt today page = some .argumentOutOfRange := by
  rw [exceptionAt, if_neg hparse, if_pos h]

/-- The years of a resting request exist, but one of their codes is refused. -/
theorem exceptionAt_of_code {today : DateTime} {years : AcademicYear × AcademicYear}
    (hparse : longTryParse page.uln ≠ none) (hyears : YearsAt today years)
    (h : years.1.start % 100 = 99 ∨ years.2.start % 100 = 99) :
    exceptionAt today page = some AcademicYear.notConsecutive := by
  have hc := hyears.current
  have hp := hyears.previous
  have hfirst := years.2.start_range
  have hanswerable : ¬ Answerable today := by
    unfold Answerable
    omega
  rw [exceptionAt, if_neg hparse, if_neg (by omega), if_neg hanswerable]

theorem run_onGetAsync_error {today : DateTime}
    (h : (onGetAsync p (fun _ => today) page).run {} = .error ex) :
    exceptionAt today page = some ex := by
  unfold onGetAsync at h
  cases hu : longTryParse page.uln with
  | none =>
    simp only [hu] at h
    obtain rfl : Exception.general "Invalid ULN" = ex := Except.error.inj h
    rw [exceptionAt, if_pos hu]
  | some uln =>
    have hparse : longTryParse page.uln ≠ none := by simp [hu]
    simp only [hu, run_bind_error_iff, run_lift_error_iff, run_lift_ok_iff, run_academicYears,
      run_academicYears_error, run_return_ne_error, yearsAt_iff,
      getDataLocksForAcademicYear_error, AcademicYear.ofShortInt_toShortInt_error_iff] at h
    have hyear : (AcademicYear.startOf today < 1 ∨ AcademicYear.startOf today < 2) ∧
        ex = .argumentOutOfRange → exceptionAt today page = some ex := by
      intro hout
      obtain ⟨hlt, rfl⟩ := hout
      exact exceptionAt_of_year hparse (by omega)
    -- the throwing step: a pair of years, the report, or one of the two lookups
    rcases h with h | ⟨q, _, ⟨hq, -⟩, h | ⟨r, _, -, h | ⟨l₁, _, ⟨hl₁, -⟩, h | ⟨cs, _, -,
      h | ⟨l₂, _, ⟨hl₂, -⟩, h | ⟨ps, _, -, h⟩⟩⟩⟩⟩⟩
    · exact hyear h
    · obtain ⟨hcode, rfl⟩ := buildLearnerReport_error h
      exact exceptionAt_of_code hparse hq hcode
    · exact hyear h
    · obtain ⟨hcode, rfl⟩ := h
      exact exceptionAt_of_code hparse hl₁ (Or.inl hcode)
    · exact hyear h
    · obtain ⟨hcode, rfl⟩ := h
      exact exceptionAt_of_code hparse hl₂ (Or.inr hcode)
    · exact h.elim

theorem exists_uln_of_run (h : (onGetAsync p timeProvider page).run s = .ok (page', s')) :
    ∃ uln, longTryParse page.uln = some uln := by
  cases hu : longTryParse page.uln with
  | none =>
    unfold onGetAsync at h
    simp only [hu] at h
    cases h
  | some uln => exact ⟨uln, rfl⟩

/-- Rendering throws nothing that its query did not throw. -/
theorem run_activeDataLocks_error {today : DateTime} (hyear : 2 ≤ AcademicYear.startOf today) :
    (activeDataLocks (fun _ => today) page).run s ≠ .error ex := by
  intro h
  cases hflag : page.hasDataLocks with
  | false =>
    have hok : (activeDataLocks (fun _ => today) page).run s =
        .ok (noActiveDataLocks :: page.notice, s) :=
      (run_activeDataLocks_of_hidden hflag).mpr ⟨rfl, rfl⟩
    rw [hok] at h
    cases h
  | true =>
    obtain ⟨years, hyears⟩ := exists_yearsAt hyear
    have hpair : ∀ n, PairAt (fun _ => today) n years := fun _ => yearsAt_iff.mpr hyears
    obtain ⟨blocks, s', hok⟩ : ∃ blocks s', (activeDataLocks (fun _ => today) page).run s =
        .ok (blocks, s') :=
      ⟨_, _, (run_activeDataLocks_of_shown hflag).mpr
        ⟨years, years, hpair _, hpair _, rfl, rfl⟩⟩
    rw [hok] at h
    cases h

theorem run_request_error {today : DateTime} :
    (request p (fun _ => today) page).run {} = .error ex ↔ exceptionAt today page = some ex := by
  have herror : ∀ {ex}, (request p (fun _ => today) page).run {} = .error ex →
      exceptionAt today page = some ex := by
    intro ex h
    unfold request at h
    simp only [run_bind_error_iff, run_return_ne_error, and_false, exists_false, or_false] at h
    rcases h with h | ⟨page', s, hget, h⟩
    · exact run_onGetAsync_error h
    · obtain ⟨uln, hu⟩ := exists_uln_of_run hget
      obtain ⟨-, -, -, hanswerable, -⟩ := (run_onGetAsync_resting hu).mp hget
      exact absurd h (run_activeDataLocks_error hanswerable.1)
  refine ⟨herror, fun h => ?_⟩
  cases hrun : (request p (fun _ => today) page).run {} with
  | error ex' =>
    have hex := herror hrun
    rw [h] at hex
    rw [Option.some.inj hex]
  | ok result =>
    obtain ⟨⟨page', blocks⟩, s⟩ := result
    obtain ⟨s', hget, -⟩ := run_request.mp hrun
    obtain ⟨uln, hu⟩ := exists_uln_of_run hget
    obtain ⟨-, -, -, hanswerable, -⟩ := (run_onGetAsync_resting hu).mp hget
    have hnone : exceptionAt today page = none :=
      exceptionAt_eq_none.mpr ⟨by simp [hu], hanswerable⟩
    rw [hnone] at h
    cases h

theorem exists_request_iff {today : DateTime} :
    (∃ result, (request p (fun _ => today) page).run {} = .ok result) ↔
      longTryParse page.uln ≠ none ∧ Answerable today := by
  rw [← exceptionAt_eq_none]
  constructor
  · intro h
    obtain ⟨result, hrun⟩ := h
    cases hex : exceptionAt today page with
    | none => rfl
    | some ex =>
      rw [run_request_error.mpr hex] at hrun
      cases hrun
  · intro h
    apply exists_ok_of_no_error
    intro ex herror
    rw [run_request_error, h] at herror
    cases herror

/-- Whatever the stores hold and the services answer, a request throws by its number and its
day only: a text that is no number, a year before the calendar, or a day in a year whose number
ends in 99 or 00, where a code has a fifth digit. Every other request is answered. -/
theorem request_outcome (p : LearnerReportProvider) (today : DateTime) (page : LearnerModel) :
    (∀ ex, (request p (fun _ => today) page).run {} = .error ex ↔
        exceptionAt today page = some ex) ∧
      ((∃ result, (request p (fun _ => today) page).run {} = .ok result) ↔
        longTryParse page.uln ≠ none ∧ 2 ≤ AcademicYear.startOf today ∧
          AcademicYear.startOf today % 100 ≠ 0 ∧ AcademicYear.startOf today % 100 ≠ 99) :=
  ⟨fun _ => run_request_error, exists_request_iff⟩

/-- A request in the school year 2099-2100 asks for the code 10000. -/
example : exceptionAt (.midnight 2099 9 1 (by decide)) { uln := some "1003528448" } =
    some AcademicYear.notConsecutive := by decide

end LearnerModel

end IdentifyDataLocks
