import Mathlib

/-! Dates of the proleptic Gregorian calendar, years 1 to 9999, with a time of day in
ticks of 100 ns, and the instants that they are in a time zone. A date carries the proof that
the calendar has it. -/
namespace IdentifyDataLocks.Calendar

def isLeapYear (year : ℕ) : Bool := year % 4 == 0 && (year % 100 != 0 || year % 400 == 0)

def daysInMonth (year month : ℕ) : ℕ :=
  if month = 2 then (if isLeapYear year then 29 else 28)
  else if month = 4 ∨ month = 6 ∨ month = 9 ∨ month = 11 then 30 else 31

def ticksPerDay : ℕ := 864000000000

@[ext] structure DateTime where
  year : ℕ
  month : ℕ
  day : ℕ
  timeOfDay : ℕ
  year_range : 1 ≤ year ∧ year ≤ 9999
  month_range : 1 ≤ month ∧ month ≤ 12
  day_range : 1 ≤ day ∧ day ≤ daysInMonth year month
  time_range : timeOfDay < ticksPerDay
  deriving DecidableEq

namespace DateTime

def midnight (year month day : ℕ) (h : (1 ≤ year ∧ year ≤ 9999) ∧ (1 ≤ month ∧ month ≤ 12) ∧
    1 ≤ day ∧ day ≤ daysInMonth year month) : DateTime :=
  ⟨year, month, day, 0, h.1, h.2.1, h.2.2, by decide⟩

def twoDigits (n : ℕ) : String := s!"{n / 10}{n % 10}"

def fourDigits (n : ℕ) : String := s!"{n / 1000}{n / 100 % 10}{n / 10 % 10}{n % 10}"

/-- Day, month and year: `dd-MM-yyyy` and, as the short date of en-GB, `dd/MM/yyyy`. -/
def toDayMonthYear (separator : String) (d : DateTime) : String :=
  twoDigits d.day ++ separator ++ twoDigits d.month ++ separator ++ fourDigits d.year

/-- The default of a date that is never set. -/
def minValue : DateTime := midnight 1 1 1 (by decide)

def key (d : DateTime) : ℕ ×ₗ ℕ ×ₗ ℕ ×ₗ ℕ :=
  toLex (d.year, toLex (d.month, toLex (d.day, d.timeOfDay)))

theorem key_injective : Function.Injective key := by
  intro a b h
  simp only [key, EmbeddingLike.apply_eq_iff_eq, Prod.mk.injEq] at h
  exact DateTime.ext h.1 h.2.1 h.2.2.1 h.2.2.2

instance : LinearOrder DateTime := LinearOrder.lift' key key_injective

theorem le_iff {a b : DateTime} : a ≤ b ↔ a.key ≤ b.key := Iff.rfl

theorem lt_iff {a b : DateTime} : a < b ↔ a.key < b.key := Iff.rfl

theorem month_le_of_le {a b : DateTime} (h : a ≤ b) :
    a.year < b.year ∨ (a.year = b.year ∧ a.month ≤ b.month) := by
  rcases Prod.Lex.toLex_le_toLex.mp (le_iff.mp h) with hy | ⟨hy, hm⟩
  · exact Or.inl hy
  · refine Or.inr ⟨hy, ?_⟩
    rcases Prod.Lex.toLex_le_toLex.mp hm with hm | ⟨hm, -⟩
    · exact hm.le
    · exact hm.le

/-- Midnight of a date given by its numbers; none where the calendar has no such date. -/
def ofDate (year month day : ℤ) : Option DateTime :=
  if h : 1 ≤ year ∧ year ≤ 9999 ∧ 1 ≤ month ∧ month ≤ 12 ∧ 1 ≤ day ∧
      day ≤ daysInMonth year.toNat month.toNat then
    some (midnight year.toNat month.toNat day.toNat (by omega))
  else none

theorem ofDate_eq_some {year month day : ℤ} {d : DateTime} (h : ofDate year month day = some d) :
    (d.year : ℤ) = year ∧ (d.month : ℤ) = month ∧ (d.day : ℤ) = day ∧ d.timeOfDay = 0 := by
  unfold ofDate at h
  split at h
  · obtain rfl := Option.some.inj h
    simp only [midnight, and_true]
    omega
  · cases h

theorem daysInMonth_pos (year month : ℕ) : 1 ≤ daysInMonth year month := by
  unfold daysInMonth
  split_ifs <;> omega

/-- `AddYears`: the same month, day and time, but 28 February for a 29th that is not there. -/
def addYears (d : DateTime) (years : ℤ) : Option DateTime :=
  if h : 1 ≤ d.year + years ∧ d.year + years ≤ 9999 then
    some
      { year := (d.year + years).toNat
        month := d.month
        day := min d.day (daysInMonth (d.year + years).toNat d.month)
        timeOfDay := d.timeOfDay
        year_range := by omega
        month_range := d.month_range
        day_range := ⟨le_min d.day_range.1 (daysInMonth_pos _ _), min_le_right _ _⟩
        time_range := d.time_range }
  else none

theorem exists_addYears {d : DateTime} {years : ℤ}
    (h : 1 ≤ d.year + years ∧ d.year + years ≤ 9999) : ∃ t, d.addYears years = some t :=
  ⟨_, dif_pos h⟩

theorem addYears_eq_some {d t : DateTime} {years : ℤ} (h : d.addYears years = some t) :
    (t.year : ℤ) = d.year + years ∧ t.month = d.month ∧
      t.day = min d.day (daysInMonth t.year t.month) ∧ t.timeOfDay = d.timeOfDay := by
  unfold addYears at h
  split at h
  · obtain rfl := Option.some.inj h
    simp only [and_true]
    omega
  · cases h

/-! The ticks from the first midnight on. -/

def daysBeforeYear (year : ℕ) : ℕ :=
  (year - 1) * 365 + (year - 1) / 4 - (year - 1) / 100 + (year - 1) / 400

def daysBeforeMonth (year month : ℕ) : ℕ :=
  ((List.range' 1 (month - 1)).map (daysInMonth year)).sum

def dayNumber (d : DateTime) : ℕ :=
  daysBeforeYear d.year + daysBeforeMonth d.year d.month + (d.day - 1)

def ticks (d : DateTime) : ℕ := d.dayNumber * ticksPerDay + d.timeOfDay

theorem daysBeforeMonth_succ (year : ℕ) {month : ℕ} (h : 1 ≤ month) :
    daysBeforeMonth year (month + 1) = daysBeforeMonth year month + daysInMonth year month := by
  obtain ⟨before, rfl⟩ := Nat.exists_eq_add_of_le' h
  simp [daysBeforeMonth, List.range'_concat, Nat.add_comm 1]

theorem daysBeforeMonth_le (year : ℕ) {month month' : ℕ} (h : 1 ≤ month) (hlt : month < month') :
    daysBeforeMonth year month + daysInMonth year month ≤ daysBeforeMonth year month' := by
  induction month', hlt using Nat.le_induction with
  | base => rw [daysBeforeMonth_succ year h]
  | succ month' hle ih => rw [daysBeforeMonth_succ year (by omega)]; omega

theorem isLeapYear_iff (year : ℕ) : isLeapYear year = true ↔
    4 ∣ year ∧ (¬ 100 ∣ year ∨ 400 ∣ year) := by
  simp [isLeapYear, Nat.dvd_iff_mod_eq_zero]

/-- The months of a year are all its days. -/
theorem daysBeforeYear_succ {year : ℕ} (h : 1 ≤ year) :
    daysBeforeYear (year + 1) = daysBeforeYear year + daysBeforeMonth year 13 := by
  obtain ⟨before, rfl⟩ := Nat.exists_eq_add_of_le' h
  have hmonths : daysBeforeMonth (before + 1) 13 =
      365 + if isLeapYear (before + 1) then 1 else 0 := by
    split_ifs with hleap <;> simp [daysBeforeMonth, List.range', daysInMonth, hleap]
  have hle : before / 100 ≤ before / 4 := Nat.div_le_div_left (by decide) (by decide)
  simp only [hmonths, isLeapYear_iff, daysBeforeYear, Nat.add_sub_cancel, Nat.succ_div]
  split_ifs <;> omega

theorem daysBeforeYear_le {year year' : ℕ} (h : 1 ≤ year) (hlt : year < year') :
    daysBeforeYear year + daysBeforeMonth year 13 ≤ daysBeforeYear year' := by
  induction year', hlt using Nat.le_induction with
  | base => rw [daysBeforeYear_succ h]
  | succ year' hle ih => rw [daysBeforeYear_succ (by omega)]; omega

/-- A later date with its time of day lies on a later day, or on the same one. -/
theorem dayNumber_lt_or {a b : DateTime} (h : a < b) :
    a.dayNumber < b.dayNumber ∨ a.dayNumber = b.dayNumber ∧ a.timeOfDay < b.timeOfDay := by
  have ha := a.day_range
  have hb := b.day_range
  have hmonth : daysBeforeMonth a.year a.month + daysInMonth a.year a.month ≤
      daysBeforeMonth a.year 13 := daysBeforeMonth_le a.year a.month_range.1 (by
    have := a.month_range
    omega)
  simp only [lt_iff, key, Prod.Lex.toLex_lt_toLex] at h
  rcases h with hyear | ⟨hyear, hlt | ⟨heq, hday | ⟨hday, htime⟩⟩⟩
  · have hle := daysBeforeYear_le a.year_range.1 hyear
    simp only [dayNumber]
    omega
  · have hle := daysBeforeMonth_le a.year a.month_range.1 hlt
    simp only [dayNumber, ← hyear]
    omega
  · simp only [dayNumber, ← hyear, ← heq]
    omega
  · simp only [dayNumber, ← hyear, ← heq, ← hday]
    exact Or.inr ⟨trivial, htime⟩

theorem ticks_strictMono : StrictMono ticks := by
  intro a b h
  have ha := a.time_range
  have hb := b.time_range
  rw [ticksPerDay] at ha hb
  rw [ticks, ticks, ticksPerDay]
  rcases dayNumber_lt_or h with hday | ⟨hday, htime⟩
  · omega
  · omega

example : (midnight 1970 1 1 (by decide)).ticks = 621355968000000000 := by decide

end DateTime

/-- `GetUtcOffset`, in ticks: what a zone's local time is ahead of universal time. -/
structure TimeZoneInfo where
  getUtcOffset : DateTime → ℤ

/-- Converted from a local time of the server: its offset is the one that the server's zone has
at that time, so the local time determines it. -/
structure DateTimeOffset where
  localTime : DateTime
  deriving DecidableEq

namespace DateTimeOffset

def utcTicks (zone : TimeZoneInfo) (x : DateTimeOffset) : ℤ :=
  x.localTime.ticks - zone.getUtcOffset x.localTime

/-- `==` compares the instants. -/
def sameInstant (zone : TimeZoneInfo) (x y : DateTimeOffset) : Bool :=
  x.utcTicks zone = y.utcTicks zone

/-- Under one offset the instants are one when the local times are. -/
theorem sameInstant_iff {zone : TimeZoneInfo} {x y : DateTimeOffset}
    (h : zone.getUtcOffset x.localTime = zone.getUtcOffset y.localTime) :
    sameInstant zone x y = true ↔ x.localTime = y.localTime := by
  rw [sameInstant, decide_eq_true_iff, utcTicks, utcTicks, h, sub_left_inj, Nat.cast_inj,
    DateTime.ticks_strictMono.injective.eq_iff]

end DateTimeOffset

end IdentifyDataLocks.Calendar
