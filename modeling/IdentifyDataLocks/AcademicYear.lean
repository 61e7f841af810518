import IdentifyDataLocks.Calendar

/-! Academic years: built from an instant or from an int code such as 1920, and written
back as that code. Years run from 1 August. -/
namespace IdentifyDataLocks
open Calendar

/-- The exceptions of the report's path. `external` stands for whatever an API client
throws. -/
inductive Exception
  | argument (message : String)
  | argumentOutOfRange
  | nullReference
  | general (message : String)
  | external (message : String)
  deriving DecidableEq, Repr

def firstMonthOfAcademicYear : ℕ := 8

@[ext] structure AcademicYear where
  startingDate : DateTime
  first_of_august : startingDate.month = firstMonthOfAcademicYear ∧ startingDate.day = 1 ∧
    startingDate.timeOfDay = 0
  deriving DecidableEq

namespace AcademicYear

def start (y : AcademicYear) : ℕ := y.startingDate.year

def starting (year : ℕ) (h : 1 ≤ year ∧ year ≤ 9999) : AcademicYear where
  startingDate := .midnight year firstMonthOfAcademicYear 1
    ⟨h, by decide, by simp [daysInMonth, firstMonthOfAcademicYear]⟩
  first_of_august := ⟨rfl, rfl, rfl⟩

/-- `new DateTime(year, FirstMonthOfAcademicYear, 01)` as a starting date. -/
def startingIn (year : ℤ) : Except Exception AcademicYear :=
  match h : DateTime.ofDate year firstMonthOfAcademicYear 1 with
  | some d => .ok ⟨d, by have := DateTime.ofDate_eq_some h; omega⟩
  | none => .error .argumentOutOfRange

def ofDateTime (instant : DateTime) : Except Exception AcademicYear :=
  let year : ℤ := if firstMonthOfAcademicYear ≤ instant.month then instant.year
    else instant.year - 1
  startingIn year

/-- The conversion from int; C# division and remainder truncate. -/
def ofShortInt (shortInt : ℤ) : Except Exception AcademicYear :=
  let firstYear := shortInt.tdiv 100
  let secondYear := shortInt.tmod 100
  if firstYear + 1 ≠ secondYear then
    .error (.argument s!"`{shortInt}` does not represent two consecutive years.")
  else startingIn (2000 + firstYear)

def toShortInt (y : AcademicYear) : ℤ :=
  let tens : ℤ := y.startingDate.year % 100
  tens * 100 + tens + 1

def add (y : AcademicYear) (years : ℤ) : Except Exception AcademicYear :=
  match DateTime.ofDate (y.startingDate.year + years) y.startingDate.month y.startingDate.day with
  | some d => ofDateTime d
  | none => .error .argumentOutOfRange

def sub (y : AcademicYear) (years : ℤ) : Except Exception AcademicYear := y.add (-years)

def toString (y : AcademicYear) : String :=
  s!"{y.startingDate.year} - {y.startingDate.year + 1}"

theorem start_range (y : AcademicYear) : 1 ≤ y.start ∧ y.start ≤ 9999 := y.startingDate.year_range

theorem start_injective : Function.Injective start := by
  intro a b h
  obtain ⟨hma, hda, hta⟩ := a.first_of_august
  obtain ⟨hmb, hdb, htb⟩ := b.first_of_august
  exact AcademicYear.ext (DateTime.ext h (hma.trans hmb.symm) (hda.trans hdb.symm)
    (hta.trans htb.symm))

theorem exists_startingIn {year : ℤ} (h : 1 ≤ year ∧ year ≤ 9999) :
    ∃ y, startingIn year = .ok y := by
  have hd : ∃ d, DateTime.ofDate year firstMonthOfAcademicYear 1 = some d := by
    refine ⟨_, dif_pos ⟨h.1, h.2, by decide, by decide, le_rfl, ?_⟩⟩
    simp [daysInMonth, firstMonthOfAcademicYear]
  obtain ⟨d, hd⟩ := hd
  unfold startingIn
  split
  · exact ⟨_, rfl⟩
  · simp_all

theorem startingIn_eq_ok {year : ℤ} {y : AcademicYear} :
    startingIn year = .ok y ↔ (y.start : ℤ) = year := by
  have hsound : ∀ {z : AcademicYear}, startingIn year = .ok z → (z.start : ℤ) = year := by
    intro z h
    unfold startingIn at h
    split at h
    · obtain rfl := Except.ok.inj h
      exact (DateTime.ofDate_eq_some ‹_›).1
    · cases h
  refine ⟨hsound, fun hy => ?_⟩
  have hr : 1 ≤ year ∧ year ≤ 9999 := by have := y.start_range; omega
  obtain ⟨z, hz⟩ := exists_startingIn hr
  rw [hz, start_injective (by have := hsound hz; omega : z.start = y.start)]

/-- The calendar year in which the academic year of an instant starts. -/
def startOf (instant : DateTime) : ℤ :=
  if firstMonthOfAcademicYear ≤ instant.month then instant.year else instant.year - 1

theorem ofDateTime_eq_ok {d : DateTime} {y : AcademicYear} :
    ofDateTime d = .ok y ↔ (y.start : ℤ) = startOf d := startingIn_eq_ok

theorem exists_ofDateTime {d : DateTime} (h : 1 ≤ startOf d) : ∃ y, ofDateTime d = .ok y := by
  refine exists_startingIn ⟨h, ?_⟩
  have := d.year_range
  split <;> omega

theorem startOf_mono {a b : DateTime} (h : a ≤ b) : startOf a ≤ startOf b := by
  have := DateTime.month_le_of_le h
  unfold startOf
  split_ifs <;> omega

theorem ofDateTime_startingDate (y : AcademicYear) : ofDateTime y.startingDate = .ok y := by
  rw [ofDateTime_eq_ok, startOf, if_pos y.first_of_august.1.ge]
  rfl

/-- Adding years goes through the constructor again and stays on 1 August. -/
theorem add_eq_startingIn (y : AcademicYear) (years : ℤ) :
    y.add years = startingIn (y.start + years) := by
  obtain ⟨hm, hd, -⟩ := y.first_of_august
  unfold add startingIn
  rw [hm, hd]
  split
  · rename_i d hd'
    split
    · rename_i d' hd''
      obtain rfl : d = d' := Option.some.inj (hd'.symm.trans hd'')
      exact ofDateTime_startingDate ⟨d, _⟩
    · exact absurd (hd'.symm.trans ‹_›) (by simp)
  · split
    · exact absurd (‹DateTime.ofDate _ _ _ = none›.symm.trans ‹_›) (by simp)
    · rfl

theorem add_eq_ok {y z : AcademicYear} {years : ℤ} :
    y.add years = .ok z ↔ (z.start : ℤ) = y.start + years := by
  rw [add_eq_startingIn, startingIn_eq_ok]

theorem exists_add {y : AcademicYear} {years : ℤ}
    (h : 1 ≤ y.start + years ∧ y.start + years ≤ 9999) : ∃ z, y.add years = .ok z := by
  rw [add_eq_startingIn]
  exact exists_startingIn h

theorem sub_eq_ok {y z : AcademicYear} {years : ℤ} :
    y.sub years = .ok z ↔ (z.start : ℤ) = y.start - years := by
  rw [sub, add_eq_ok, sub_eq_add_neg]

theorem previous_eq_ok {d : DateTime} {z : AcademicYear} :
    (∃ y, ofDateTime d = .ok y ∧ y.sub 1 = .ok z) ↔ (z.start : ℤ) = startOf d - 1 := by
  constructor
  · intro h
    obtain ⟨y, hy, hz⟩ := h
    rw [ofDateTime_eq_ok] at hy
    rw [sub_eq_ok, hy] at hz
    exact hz
  · intro hz
    have := z.start_range
    obtain ⟨y, hy⟩ := exists_ofDateTime (d := d) (by omega)
    refine ⟨y, hy, ?_⟩
    rw [sub_eq_ok, ofDateTime_eq_ok.mp hy, hz]

/-- The accepted int codes are 100 f + (f + 1), and decode to the year starting in 2000 + f. -/
theorem ofShortInt_eq_ok {n : ℤ} {y : AcademicYear} :
    ofShortInt n = .ok y ↔
      ∃ f : ℤ, n = 100 * f + (f + 1) ∧ -100 ≤ f ∧ f ≤ 98 ∧ (y.start : ℤ) = 2000 + f := by
  have hdiv := Int.tmod_add_tdiv_mul n 100
  have hlo := Int.lt_tmod_of_pos n (show (0 : ℤ) < 100 by omega)
  have hhi := Int.tmod_lt_of_pos n (show (0 : ℤ) < 100 by omega)
  -- truncation: the remainder has the sign of the dividend
  have hpos : 0 ≤ n → 0 ≤ n.tmod 100 := Int.tmod_nonneg 100
  have hneg : n ≤ 0 → n.tmod 100 ≤ 0 := fun h => by
    have := Int.tmod_nonneg 100 (show 0 ≤ -n by omega)
    rw [Int.neg_tmod] at this
    omega
  unfold ofShortInt
  simp only
  split_ifs with h
  · constructor
    · intro hc
      cases hc
    · intro hcode
      obtain ⟨f, hn, hf₁, hf₂, -⟩ := hcode
      exact absurd (by omega : n.tdiv 100 + 1 = n.tmod 100) h
  · rw [startingIn_eq_ok]
    constructor
    · intro hy
      exact ⟨n.tdiv 100, by omega, by omega, by omega, hy⟩
    · intro hcode
      obtain ⟨f, hn, -, -, hy⟩ := hcode
      omega

theorem toShortInt_eq {y : AcademicYear} (hy : 2000 ≤ y.start ∧ y.start ≤ 2099) :
    y.toShortInt = 101 * ((y.start : ℤ) - 2000) + 1 := by
  simp only [start, toShortInt] at *
  omega

/-- The years whose int code is accepted and determines the year. -/
def InCentury (y : AcademicYear) : Prop := 2000 ≤ y.start ∧ y.start ≤ 2098

instance : DecidablePred InCentury := fun y =>
  inferInstanceAs (Decidable (2000 ≤ y.start ∧ y.start ≤ 2098))

theorem ofShortInt_eq_ok_iff {n : ℤ} {y : AcademicYear} (hy : y.InCentury) :
    ofShortInt n = .ok y ↔ n = y.toShortInt := by
  rw [ofShortInt_eq_ok, toShortInt_eq ⟨hy.1, by have := hy.2; omega⟩]
  obtain ⟨hlo, hhi⟩ := hy
  constructor
  · intro hcode
    obtain ⟨f, hn, -, -, hf⟩ := hcode
    omega
  · intro hn
    exact ⟨y.start - 2000, by omega, by omega, by omega, by omega⟩

theorem exists_ofShortInt {n : ℤ} :
    (∃ y, ofShortInt n = .ok y) ↔ ∃ f : ℤ, -100 ≤ f ∧ f ≤ 98 ∧ n = 100 * f + (f + 1) := by
  simp only [ofShortInt_eq_ok]
  constructor
  · intro h
    obtain ⟨y, f, hn, hlo, hhi, -⟩ := h
    exact ⟨f, hlo, hhi, hn⟩
  · intro h
    obtain ⟨f, hlo, hhi, hn⟩ := h
    obtain ⟨y, hy⟩ := exists_startingIn (show 1 ≤ 2000 + f ∧ 2000 + f ≤ 9999 by omega)
    exact ⟨y, f, hn, hlo, hhi, startingIn_eq_ok.mp hy⟩

theorem toShortInt_pos (y : AcademicYear) : 0 < y.toShortInt := by
  simp only [toShortInt]
  omega

theorem toShortInt_lt {y z : AcademicYear} (hy : y.InCentury) (hz : z.InCentury)
    (hlt : y.start < z.start) : y.toShortInt < z.toShortInt := by
  obtain ⟨hylo, hyhi⟩ := hy
  obtain ⟨hzlo, hzhi⟩ := hz
  rw [toShortInt_eq ⟨hylo, by omega⟩, toShortInt_eq ⟨hzlo, by omega⟩]
  omega

/-- Codes and years are inverse from 2000-01 to 2098-99. A negative code is accepted as a
year before 2000, whose own code is positive; the code of 2099-2100 carries into a fifth
digit and is refused. -/
theorem toShortInt_inverse_iff (n : ℤ) (y : AcademicYear) :
    ((∀ z, ofShortInt n = .ok z → z.toShortInt = n) ↔
        ¬ ∃ f : ℤ, -100 ≤ f ∧ f < 0 ∧ n = 100 * f + (f + 1)) ∧
      (ofShortInt y.toShortInt = .ok y ↔ 2000 ≤ y.start ∧ y.start ≤ 2098) := by
  refine ⟨⟨fun h hneg => ?_, fun h z hz => ?_⟩, fun h => ?_, fun h => ?_⟩
  · obtain ⟨f, hlo, hhi, hn⟩ := hneg
    obtain ⟨z, hz⟩ := exists_ofShortInt.mpr ⟨f, hlo, by omega, hn⟩
    have hpos := toShortInt_pos z
    have hcode := h z hz
    omega
  · obtain ⟨f, hn, hlo, hhi, hstart⟩ := ofShortInt_eq_ok.mp hz
    have hf : 0 ≤ f := by
      by_contra hneg
      exact h ⟨f, hlo, by omega, hn⟩
    rw [toShortInt_eq (by omega)]
    omega
  · -- an accepted code is positive only for a year of the century
    obtain ⟨f, hn, -, hhi, hstart⟩ := ofShortInt_eq_ok.mp h
    have hpos := toShortInt_pos y
    omega
  · exact (ofShortInt_eq_ok_iff h).mpr rfl

/-- The code -100 is read as 1999-2000, which is written 10000; so is 2099-2100, and 10000 is
refused. -/
theorem century_ends_break_inverse :
    (∃ z, ofShortInt (-100) = .ok z ∧ z.toShortInt ≠ -100) ∧
      ∀ z, ofShortInt (starting 2099 (by decide)).toShortInt ≠ .ok z := by
  constructor
  · obtain ⟨z, hz⟩ := exists_ofShortInt (n := -100) |>.mpr ⟨-1, by omega, by omega, by omega⟩
    have hpos := toShortInt_pos z
    exact ⟨z, hz, by omega⟩
  · intro z hz
    obtain ⟨f, hf, -, hhi, -⟩ := ofShortInt_eq_ok.mp hz
    have hcode : (starting 2099 (by decide)).toShortInt = 10000 := rfl
    omega

/-! The calendar of academic years. -/

/-- The instant lies in the year that runs from the first of August `y.startingDate`; the last
year of the calendar has no end. -/
def Contains (y : AcademicYear) (d : DateTime) : Prop :=
  y.startingDate ≤ d ∧ ∀ next, y.startingDate.addYears 1 = some next → d < next

theorem startingDate_le_iff {y : AcademicYear} {d : DateTime} :
    y.startingDate ≤ d ↔ (y.start : ℤ) ≤ startOf d := by
  obtain ⟨hm, hd, ht⟩ := y.first_of_august
  have hday := d.day_range
  rw [DateTime.le_iff]
  simp only [DateTime.key, Prod.Lex.toLex_le_toLex, hm, hd, ht, firstMonthOfAcademicYear,
    startOf, start]
  split_ifs <;> omega

theorem startOf_le (d : DateTime) : startOf d ≤ 9999 := by
  have hyear := d.year_range
  unfold startOf
  split_ifs <;> omega

/-- A year after a first of August comes the next one. -/
theorem lt_next_iff {y : AcademicYear} {d next : DateTime}
    (h : y.startingDate.addYears 1 = some next) : d < next ↔ startOf d ≤ y.start := by
  obtain ⟨hyear, hmonth, hday, htime⟩ := DateTime.addYears_eq_some h
  obtain ⟨hm, hd, ht⟩ := y.first_of_august
  have haugust : next.month = firstMonthOfAcademicYear ∧ next.day = 1 ∧ next.timeOfDay = 0 := by
    have hpos := DateTime.daysInMonth_pos next.year next.month
    omega
  have hle := startingDate_le_iff (y := ⟨next, haugust⟩) (d := d)
  have hstart : ((⟨next, haugust⟩ : AcademicYear).start : ℤ) = y.start + 1 := hyear
  rw [← not_le, hle, hstart]
  omega

/-- Every instant lies in exactly one academic year, the one that is built from it. -/
theorem contains_iff {y : AcademicYear} {d : DateTime} :
    y.Contains d ↔ (y.start : ℤ) = startOf d := by
  rw [Contains, startingDate_le_iff]
  constructor
  · intro h
    obtain ⟨hle, hnext⟩ := h
    have hlast := startOf_le d
    by_cases hend : y.start = 9999
    · omega
    · have hrange := y.start_range
      have hyear : y.startingDate.year = y.start := rfl
      have hnot_last : 1 ≤ (y.startingDate.year : ℤ) + 1 ∧ (y.startingDate.year : ℤ) + 1 ≤ 9999 := by
        omega
      obtain ⟨next, h1⟩ := DateTime.exists_addYears hnot_last
      have hlt := (lt_next_iff h1).mp (hnext next h1)
      omega
  · intro h
    exact ⟨h.le, fun next h1 => (lt_next_iff h1).mpr h.ge⟩

/-- The same day some years on lies in the academic year as many years on. -/
theorem startOf_addYears {d t : DateTime} {years : ℤ} (h : d.addYears years = some t) :
    startOf t = startOf d + years := by
  obtain ⟨hyear, hmonth, -, -⟩ := DateTime.addYears_eq_some h
  unfold startOf
  rw [hmonth]
  split_ifs <;> omega

/-- From the first 1 August of the calendar on, every instant has an academic year. It runs from
the one 1 August that has the instant in its year, later instants have no earlier one, its sums
add up, and its differences are the years of the same day in earlier years. -/
theorem calendar_laws (d : DateTime) (hd : DateTime.midnight 1 8 1 (by decide) ≤ d) :
    ∃ y, ofDateTime d = .ok y ∧
      (y.Contains d ∧ ∀ y' : AcademicYear, y'.Contains d → y' = y) ∧
      (∀ d', d ≤ d' → ∃ y', ofDateTime d' = .ok y' ∧ y.startingDate ≤ y'.startingDate) ∧
      (∀ a b : ℤ, 1 ≤ y.start + a ∧ y.start + a ≤ 9999 →
        1 ≤ y.start + (a + b) ∧ y.start + (a + b) ≤ 9999 →
          ∃ z w, y.add a = .ok z ∧ z.add b = .ok w ∧ y.add (a + b) = .ok w) ∧
      ∀ (a : ℤ) d', d.addYears (-a) = some d' → 1 ≤ y.start - a →
        ∃ w, y.sub a = .ok w ∧ ofDateTime d' = .ok w := by
  have hfirst := startOf_mono hd
  have hone : startOf (DateTime.midnight 1 8 1 (by decide)) = 1 := by decide
  obtain ⟨y, hy⟩ := exists_ofDateTime (d := d) (by omega)
  have hstart := ofDateTime_eq_ok.mp hy
  refine ⟨y, hy, ⟨contains_iff.mpr hstart, fun y' h' => ?_⟩, fun d' hle => ?_,
    fun a b ha hb => ?_, fun a d' hd' ha => ?_⟩
  · apply start_injective
    have hstart' := contains_iff.mp h'
    omega
  · have hmono := startOf_mono hle
    obtain ⟨y', hy'⟩ := exists_ofDateTime (d := d') (by omega)
    have hstart' := ofDateTime_eq_ok.mp hy'
    have haugust : (y'.start : ℤ) = startOf y'.startingDate :=
      ofDateTime_eq_ok.mp (ofDateTime_startingDate y')
    refine ⟨y', hy', startingDate_le_iff.mpr ?_⟩
    omega
  · obtain ⟨z, hz⟩ := exists_add ha
    obtain ⟨w, hw⟩ := exists_add hb
    have hzstart := add_eq_ok.mp hz
    have hwstart := add_eq_ok.mp hw
    refine ⟨z, w, hz, add_eq_ok.mpr ?_, hw⟩
    omega
  · have hlast := startOf_le d'
    have hshift := startOf_addYears hd'
    obtain ⟨w, hw⟩ := exists_ofDateTime (d := d') (by omega)
    have hwstart := ofDateTime_eq_ok.mp hw
    refine ⟨w, sub_eq_ok.mpr ?_, hw⟩
    omega

/-- Leap day 2020 lies in 2019-20; a year earlier it is 28 February 2019, in 2018-19. -/
theorem calendar_laws_leap_day :
    ∃ y, ofDateTime (.midnight 2020 2 29 (by decide)) = .ok y ∧
      ∃ w, y.sub 1 = .ok w ∧ ofDateTime (.midnight 2019 2 28 (by decide)) = .ok w := by
  obtain ⟨y, hy, -, -, -, hsub⟩ := calendar_laws (.midnight 2020 2 29 (by decide)) (by decide)
  have hstart := ofDateTime_eq_ok.mp hy
  have h2019 : startOf (.midnight 2020 2 29 (by decide)) = 2019 := by decide
  exact ⟨y, hy, hsub 1 (.midnight 2019 2 28 (by decide)) (by decide) (by omega)⟩

end AcademicYear

end IdentifyDataLocks
