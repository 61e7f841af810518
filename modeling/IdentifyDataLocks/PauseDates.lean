import IdentifyDataLocks.CollectionPeriodMapping

/-! The "Pause date" row of an entry: the pause record it shows and the end it prints. -/
namespace IdentifyDataLocks
open Calendar Linq

structure PauseDateDataLockRowModel where
  pausedOnDate : Option String
  resumedOnDate : Option String
  heading : String
  activeDataLock : String
  isLocked : Bool

namespace PauseDateDataLockRowModel

def hasPausedDate (row : PauseDateDataLockRowModel) : Bool := row.pausedOnDate.isSome

/-- The constructor, with the short date format of the thread's culture. -/
def create (toShortDateString : DateTime → String) (period : CollectionPeriod)
    (dataLock : DataLock) (heading : String) : PauseDateDataLockRowModel :=
  let isLocked := period.dataLocks.contains dataLock
  { heading := heading
    isLocked := isLocked
    activeDataLock := if isLocked then dataLock.toString else "-"
    pausedOnDate := (period.apprenticeship.bind (·.pausedOn)).map toShortDateString
    resumedOnDate :=
      some (((period.apprenticeship.bind (·.resumedOn)).map toShortDateString).getD "Present") }

end PauseDateDataLockRowModel

namespace ApprenticeshipModel

/-- The records of an apprenticeship; a null list has none. -/
def pauses (a : ApprenticeshipModel) : List ApprenticeshipPauseModel :=
  a.apprenticeshipPauses.getD []

theorem latestPause_eq_head (a : ApprenticeshipModel) :
    a.latestPause =
      (orderByDescending (.ofLinearOrder DateTime) (·.pauseDate) a.pauses).head? := by
  unfold latestPause pauses
  cases a.apprenticeshipPauses with
  | none => rfl
  | some records =>
    rw [Option.bind_some, Option.getD_some]
    cases orderByDescending (.ofLinearOrder DateTime) (·.pauseDate) records with
    | nil => rfl
    | cons p rest => rfl

/-- Both dates come from the record that the sort puts in front: the first of those with the
latest pause date. -/
theorem latestPause_eq_find (a : ApprenticeshipModel) :
    a.latestPause = a.pauses.find? fun p => ∀ q ∈ a.pauses, q.pauseDate ≤ p.pauseDate := by
  rw [latestPause_eq_head, head?_orderByDescending]

theorem latestPause_eq_some {a : ApprenticeshipModel} {p : ApprenticeshipPauseModel}
    (h : a.latestPause = some p) : p ∈ a.pauses ∧ ∀ q ∈ a.pauses, q.pauseDate ≤ p.pauseDate := by
  rw [latestPause_eq_find] at h
  have hlatest := List.find?_some h
  exact ⟨List.mem_of_find?_eq_some h, of_decide_eq_true hlatest⟩

theorem latestPause_eq_none {a : ApprenticeshipModel} : a.latestPause = none ↔ a.pauses = [] := by
  rw [latestPause_eq_head, List.head?_eq_none_iff, orderByDescending_eq_nil]

end ApprenticeshipModel

open PauseDateDataLockRowModel ApprenticeshipModel

/-- The row of an apprenticeship's entry shows one of its pause records, of the latest pause
date: from the pause of that record to its end, or to the present where it has none. -/
theorem pauseRow_shows_one_record (a : ApprenticeshipModel) (toShortDateString : DateTime → String)
    (hpresent : ∀ d, toShortDateString d ≠ "Present") :
    (a.pauses = [] → a.toDataMatch.pausedOn = none ∧ a.toDataMatch.resumedOn = none) ∧
      (∀ period dataLock heading, period.apprenticeship = some a.toDataMatch →
        ((create toShortDateString period dataLock heading).hasPausedDate = true ↔
          a.pauses ≠ [])) ∧
      (a.pauses ≠ [] → ∃ p ∈ a.pauses, (∀ q ∈ a.pauses, q.pauseDate ≤ p.pauseDate) ∧
        a.toDataMatch.pausedOn = some p.pauseDate ∧ a.toDataMatch.resumedOn = p.resumeDate ∧
        ∀ period dataLock heading, period.apprenticeship = some a.toDataMatch →
          ((create toShortDateString period dataLock heading).resumedOnDate = some "Present" ↔
            p.resumeDate = none)) := by
  have hpaused : a.toDataMatch.pausedOn = a.latestPause.map (·.pauseDate) := rfl
  have hresumed : a.toDataMatch.resumedOn = a.latestPause.bind (·.resumeDate) := rfl
  refine ⟨fun hnil => ?_, fun period dataLock heading hperiod => ?_, fun hne => ?_⟩
  · rw [hpaused, hresumed, latestPause_eq_none.mpr hnil]
    exact ⟨rfl, rfl⟩
  · rw [Ne, ← latestPause_eq_none]
    simp [hasPausedDate, create, hperiod, hpaused, Option.ne_none_iff_isSome]
  · obtain ⟨p, hp⟩ := Option.ne_none_iff_exists'.mp (latestPause_eq_none.not.mpr hne)
    obtain ⟨hmem, hlatest⟩ := latestPause_eq_some hp
    refine ⟨p, hmem, hlatest, by rw [hpaused, hp]; rfl, by rw [hresumed, hp]; rfl, ?_⟩
    intro period dataLock heading hperiod
    have hdate : (create toShortDateString period dataLock heading).resumedOnDate =
        some ((p.resumeDate.map toShortDateString).getD "Present") := by
      simp [create, hperiod, hresumed, hp]
    rw [hdate]
    cases p.resumeDate with
    | none => simp
    | some d => simpa using hpresent d

/-- The short date of the culture that the application sets at its start. -/
def shortDateString (d : DateTime) : String := d.toDayMonthYear "/"

theorem shortDateString_ne_present (d : DateTime) : shortDateString d ≠ "Present" := by
  intro h
  have hslash : '/' ∈ (shortDateString d).toList := by
    simp [shortDateString, DateTime.toDayMonthYear]
  rw [h] at hslash
  exact absurd hslash (by decide)

def june7 : DateTime := .midnight 2018 6 7 (by decide)
def march1 : DateTime := .midnight 2019 3 1 (by decide)

/-- Two pauses from one day, the second of them unfinished. -/
def pausedTwice : ApprenticeshipModel where
  uln := 1003528448
  ukprn := 10018916
  status := .paused
  apprenticeshipPauses := some [⟨june7, some march1⟩, ⟨june7, none⟩]

theorem pauseRow_shows_one_record_pausedTwice :
    ∃ p ∈ pausedTwice.pauses, (∀ q ∈ pausedTwice.pauses, q.pauseDate ≤ p.pauseDate) ∧
      pausedTwice.toDataMatch.pausedOn = some p.pauseDate ∧
      pausedTwice.toDataMatch.resumedOn = p.resumeDate ∧
      ∀ period dataLock heading, period.apprenticeship = some pausedTwice.toDataMatch →
        ((create shortDateString period dataLock heading).resumedOnDate = some "Present" ↔
          p.resumeDate = none) :=
  (pauseRow_shows_one_record pausedTwice shortDateString shortDateString_ne_present).2.2
    (List.cons_ne_nil _ _)

end IdentifyDataLocks
