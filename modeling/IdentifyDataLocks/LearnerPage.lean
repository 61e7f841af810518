import IdentifyDataLocks.LearnerReportProvider

/-! The learner page: one request reads the clock several times while it builds the report
and while its year sections are rendered. -/
namespace IdentifyDataLocks
open Calendar Linq Fallible CollectionPeriodReport

/-- `long.TryParse`: white space, a sign, digits, white space, and U+0000 at the very end, within
64 bits. -/
def longTryParse (s : Option String) : Option Int64 :=
  s.bind fun s =>
    let isWhite : Char → Bool := fun c => c = ' ' || (9 ≤ c.toNat && c.toNat ≤ 13)
    let trailing := s.toList.reverse.dropWhile fun c => c.toNat = 0
    let body := (trailing.dropWhile isWhite).reverse.dropWhile isWhite
    let (negative, digits) := match body with
      | '-' :: digits => (true, digits)
      | '+' :: digits => (false, digits)
      | digits => (false, digits)
    if digits.isEmpty || !digits.all Char.isDigit then none
    else
      let magnitude : ℤ := digits.foldl (fun n c => 10 * n + (c.toNat - 48)) 0
      let value := if negative then -magnitude else magnitude
      if -2 ^ 63 ≤ value ∧ value < 2 ^ 63 then some (Int64.ofInt value) else none

theorem longTryParse_1003528448 : longTryParse (some "1003528448") = some 1003528448 := by decide

structure DataLockHelpCentreLink where
  name : String
  description : Option String
  url : String
  deriving DecidableEq

namespace DataLockHelpCentreLink

def mismatchArticleUrl : String :=
  "https://help.apprenticeships.education.gov.uk/hc/en-gb/articles/360008448299-Data-mismatch-errors"

def links : List (DataLock × String) :=
  [(⟨1⟩, "No matching UKPRN record found"),
   (⟨2⟩, "No matching ULN found."),
   (⟨3⟩, "No matching standard code found."),
   (⟨4⟩, "No matching framework code found."),
   (⟨5⟩, "No matching programme type code found."),
   (⟨6⟩, "No matching pathway code found."),
   (⟨7⟩, "No matching negotiated cost of training and assessment found."),
   (⟨8⟩, "Multiple matching records found."),
   (⟨9⟩, "The start date for this negotiated price is before the corresponding price start date in the employer digital account"),
   (⟨10⟩, "The employer has stopped payments for this apprentice"),
   (⟨11⟩, "The employer is not currently a levy payer"),
   (⟨12⟩, "The employer has paused payments for this apprentice")]

def create (dataLock : DataLock) : DataLockHelpCentreLink where
  name := dataLock.toString
  description := links.lookup dataLock
  url := mismatchArticleUrl

end DataLockHelpCentreLink

structure LearnerModel where
  uln : Option String
  currentYearDataLocks : List CollectionPeriod := []
  previousYearDataLocks : List CollectionPeriod := []
  learnerName : Option String := none
  employerName : Option String := none
  employerId : Option String := none
  providerName : Option String := none
  providerId : Option String := none
  hasDataLocks : Bool := false
  hasMultipleProviders : Bool := false

/-- The values of `Today` at the successive reads of one request. -/
abbrev ITimeProvider := ℕ → DateTime

/-- The reads so far, and the pairs `AcademicYears` was evaluated to. -/
structure Reads where
  count : ℕ := 0
  evaluated : List (AcademicYear × AcademicYear) := []

abbrev Request := StateT Reads (Except Exception)

def ITimeProvider.today (timeProvider : ITimeProvider) : Request DateTime := fun s =>
  .ok (timeProvider s.count, { s with count := s.count + 1 })

def recordPair (pair : AcademicYear × AcademicYear) : Request Unit := fun s =>
  .ok ((), { s with evaluated := s.evaluated ++ [pair] })

namespace LearnerModel

/-- The links under "Active Data lock(s)", ordered by name in the given culture. -/
def dataLockLinks (culture : Comparer String) (page : LearnerModel) : List DataLockHelpCentreLink :=
  orderBy culture (·.name)
    ((distinct ((page.currentYearDataLocks ++ page.previousYearDataLocks).flatMap
      (·.dataLocks))).map DataLockHelpCentreLink.create)

def hasDataLocksInCurrentYear (page : LearnerModel) : Bool := !page.currentYearDataLocks.isEmpty

def hasDataLocksInPreviousYear (page : LearnerModel) : Bool := !page.previousYearDataLocks.isEmpty

/-- Current and previous, each from its own read of the clock. -/
def academicYears (timeProvider : ITimeProvider) : Request (AcademicYear × AcademicYear) := do
  let current ← StateT.lift (AcademicYear.ofDateTime (← timeProvider.today))
  let instant ← timeProvider.today
  let previous ← StateT.lift (AcademicYear.ofDateTime instant >>= fun year => year.sub 1)
  recordPair (current, previous)
  return (current, previous)

/-- The local function of `OnGetAsync`; the int is converted back to look it up. -/
def getDataLocksForAcademicYear (report : LearnerReport) (year : ℤ) :
    Except Exception (List CollectionPeriod) := do
  let key ← AcademicYear.ofShortInt year
  return (report.dataLocks.tryGetValue key).getD []

def fill (page : LearnerModel) (report : LearnerReport)
    (currentYearDataLocks previousYearDataLocks : List CollectionPeriod) : LearnerModel :=
  { page with
    hasDataLocks := report.hasDataLocks
    hasMultipleProviders := report.hasMultipleProviders
    learnerName := report.learner.2
    providerName := report.provider.2
    providerId := report.provider.1
    employerName := report.employer.2
    employerId := report.employer.1
    currentYearDataLocks := currentYearDataLocks
    previousYearDataLocks := previousYearDataLocks }

def onGetAsync (learnerReportProvider : LearnerReportProvider) (timeProvider : ITimeProvider)
    (page : LearnerModel) : Request LearnerModel := do
  match longTryParse page.uln with
  | none => throw (.general "Invalid ULN")
  | some uln =>
    let years ← academicYears timeProvider
    let report ← StateT.lift (learnerReportProvider.buildLearnerReport uln years)
    let currentYears ← academicYears timeProvider
    let currentYearDataLocks ←
      StateT.lift (getDataLocksForAcademicYear report currentYears.1.toShortInt)
    let previousYears ← academicYears timeProvider
    let previousYearDataLocks ←
      StateT.lift (getDataLocksForAcademicYear report previousYears.2.toShortInt)
    return page.fill report currentYearDataLocks previousYearDataLocks

end LearnerModel

/-! The "Active Data Locks" part of the page. -/

structure FundingYear where
  academicYear : AcademicYear
  heading : String
  message : Option String
  entries : List CollectionPeriod

inductive Block
  | paragraph (text : String)
  | insetText (text : String)
  | fundingYear (year : FundingYear)

def noActiveDataLocks : Block :=
  .paragraph "There are currently no active data locks for this learner"

def currentProviderOnly : Block :=
  .insetText "This tool only shows data locks for the learner's current provider. If you are looking for data locks for a previous provider, try checking submit learner data."

/-- A suppressed element does not execute its content. -/
def HideTagHelper.process (aspHide : Bool) (content : Request (List Block)) :
    Request (List Block) :=
  if aspHide then return [] else content

def ShowTagHelper.process (aspShow : Option Bool) (content : Request (List Block)) :
    Request (List Block) :=
  if aspShow = some true then content else return []

/-- The partial `_CollectionPeriods` with its hidden and shown elements. -/
def collectionPeriodsPartial (academicYear : AcademicYear)
    (collectionPeriods : List CollectionPeriod) (hasDataLocks : Bool) : Block :=
  .fundingYear
    { academicYear := academicYear
      heading := s!"{academicYear.toString} funding year"
      message :=
        if hasDataLocks then none else some "There are currently no submissions for this period"
      entries := if hasDataLocks then collectionPeriods else [] }

@[simp] theorem noActiveDataLocks_ne : noActiveDataLocks ≠ currentProviderOnly := nofun

@[simp] theorem noActiveDataLocks_ne_partial {y : AcademicYear} {l : List CollectionPeriod}
    {b : Bool} : noActiveDataLocks ≠ collectionPeriodsPartial y l b := nofun

@[simp] theorem currentProviderOnly_ne_partial {y : AcademicYear} {l : List CollectionPeriod}
    {b : Bool} : currentProviderOnly ≠ collectionPeriodsPartial y l b := nofun

namespace LearnerModel

def activeDataLocks (timeProvider : ITimeProvider) (page : LearnerModel) :
    Request (List Block) := do
  let message ← HideTagHelper.process page.hasDataLocks (return [noActiveDataLocks])
  let notice ← ShowTagHelper.process (some page.hasMultipleProviders) (return [currentProviderOnly])
  let years ← ShowTagHelper.process (some page.hasDataLocks) do
    let current := collectionPeriodsPartial (← academicYears timeProvider).1
      page.currentYearDataLocks page.hasDataLocksInCurrentYear
    let previous := collectionPeriodsPartial (← academicYears timeProvider).2
      page.previousYearDataLocks page.hasDataLocksInPreviousYear
    return [current, previous]
  return message ++ notice ++ years

def request (learnerReportProvider : LearnerReportProvider) (timeProvider : ITimeProvider)
    (page : LearnerModel) : Request (LearnerModel × List Block) := do
  let page ← onGetAsync learnerReportProvider timeProvider page
  let blocks ← activeDataLocks timeProvider page
  return (page, blocks)

variable {timeProvider : ITimeProvider}

theorem run_today {s : Reads} :
    (timeProvider.today).run s = .ok (timeProvider s.count, { s with count := s.count + 1 }) := rfl

theorem run_recordPair {s : Reads} {pair : AcademicYear × AcademicYear} :
    (recordPair pair).run s = .ok ((), { s with evaluated := s.evaluated ++ [pair] }) := rfl

/-- The pair that two successive reads, the n-th and the next, determine. -/
def PairAt (timeProvider : ITimeProvider) (n : ℕ) (pair : AcademicYear × AcademicYear) : Prop :=
  (pair.1.start : ℤ) = AcademicYear.startOf (timeProvider n) ∧
    (pair.2.start : ℤ) = AcademicYear.startOf (timeProvider (n + 1)) - 1

/-- One evaluation takes two reads and records the pair they determine. -/
theorem run_academicYears {s s' : Reads} {pair : AcademicYear × AcademicYear} :
    (academicYears timeProvider).run s = .ok (pair, s') ↔
      PairAt timeProvider s.count pair ∧
        s' = { count := s.count + 2, evaluated := s.evaluated ++ [pair] } := by
  unfold academicYears PairAt
  rw [← AcademicYear.ofDateTime_eq_ok, ← AcademicYear.previous_eq_ok]
  simp only [run_bind_ok_iff, run_today, run_lift_ok_iff, run_recordPair, run_return_ok_iff,
    bind_ok_iff, Except.ok.injEq, Prod.mk.injEq]
  constructor
  · rintro ⟨_, _, ⟨rfl, rfl⟩, current, _, ⟨hc, rfl⟩, _, _, ⟨rfl, rfl⟩, previous, _, ⟨hp, rfl⟩,
      _, _, ⟨-, rfl⟩, rfl, rfl⟩
    exact ⟨⟨hc, hp⟩, rfl⟩
  · rintro ⟨⟨hc, hp⟩, rfl⟩
    exact ⟨_, _, ⟨rfl, rfl⟩, _, _, ⟨hc, rfl⟩, _, _, ⟨rfl, rfl⟩, _, _, ⟨hp, rfl⟩, (), _,
      ⟨trivial, rfl⟩, rfl, rfl⟩

def notice (page : LearnerModel) : List Block :=
  if page.hasMultipleProviders then [currentProviderOnly] else []

theorem mem_notice {page : LearnerModel} {block : Block} :
    block ∈ page.notice ↔ page.hasMultipleProviders = true ∧ block = currentProviderOnly := by
  cases hm : page.hasMultipleProviders with
  | true => simp [notice, hm]
  | false => simp [notice, hm]

theorem process_notice (page : LearnerModel) :
    ShowTagHelper.process (some page.hasMultipleProviders) (return [currentProviderOnly]) =
      return page.notice := by
  cases hm : page.hasMultipleProviders with
  | true => simp [ShowTagHelper.process, notice, hm]
  | false => simp [ShowTagHelper.process, notice, hm]

/-- Without lock rows no heading is evaluated. -/
theorem run_activeDataLocks_of_hidden {page : LearnerModel} {s s' : Reads} {blocks : List Block}
    (h : page.hasDataLocks = false) :
    (activeDataLocks timeProvider page).run s = .ok (blocks, s') ↔
      blocks = noActiveDataLocks :: page.notice ∧ s' = s := by
  unfold activeDataLocks
  rw [process_notice]
  simp only [HideTagHelper.process, ShowTagHelper.process, h, Bool.false_eq_true, if_false,
    run_bind_ok_iff, run_return_ok_iff, Prod.mk.injEq, Option.some.injEq]
  constructor
  · rintro ⟨_, _, ⟨rfl, rfl⟩, _, _, ⟨rfl, rfl⟩, _, _, ⟨rfl, rfl⟩, rfl, rfl⟩
    exact ⟨by simp, rfl⟩
  · rintro ⟨rfl, rfl⟩
    exact ⟨_, _, ⟨rfl, rfl⟩, _, _, ⟨rfl, rfl⟩, _, _, ⟨rfl, rfl⟩, by simp, rfl⟩

/-- With lock rows each of the two headings evaluates a pair of its own. -/
theorem run_activeDataLocks_of_shown {page : LearnerModel} {s s' : Reads} {blocks : List Block}
    (h : page.hasDataLocks = true) :
    (activeDataLocks timeProvider page).run s = .ok (blocks, s') ↔
      ∃ h₁ h₂, PairAt timeProvider s.count h₁ ∧ PairAt timeProvider (s.count + 2) h₂ ∧
        blocks = page.notice ++
          [collectionPeriodsPartial h₁.1 page.currentYearDataLocks page.hasDataLocksInCurrentYear,
            collectionPeriodsPartial h₂.2 page.previousYearDataLocks
              page.hasDataLocksInPreviousYear] ∧
        s' = { count := s.count + 4, evaluated := s.evaluated ++ [h₁, h₂] } := by
  unfold activeDataLocks
  rw [process_notice]
  simp only [HideTagHelper.process, ShowTagHelper.process, h, if_true, run_bind_ok_iff,
    run_academicYears, run_return_ok_iff, Prod.mk.injEq]
  constructor
  · rintro ⟨_, _, ⟨rfl, rfl⟩, _, _, ⟨rfl, rfl⟩, _, _,
      ⟨h₁, _, ⟨hh₁, rfl⟩, h₂, _, ⟨hh₂, rfl⟩, rfl, rfl⟩, rfl, rfl⟩
    exact ⟨h₁, h₂, hh₁, hh₂, by simp, by simp⟩
  · rintro ⟨h₁, h₂, hh₁, hh₂, rfl, rfl⟩
    exact ⟨_, _, ⟨rfl, rfl⟩, _, _, ⟨rfl, rfl⟩, _, _,
      ⟨h₁, _, ⟨hh₁, rfl⟩, h₂, _, ⟨hh₂, rfl⟩, rfl, rfl⟩, by simp, by simp⟩

theorem run_request {p : LearnerReportProvider} {page page' : LearnerModel} {blocks : List Block}
    {s s'' : Reads} :
    (request p timeProvider page).run s = .ok ((page', blocks), s'') ↔
      ∃ s', (onGetAsync p timeProvider page).run s = .ok (page', s') ∧
        (activeDataLocks timeProvider page').run s' = .ok (blocks, s'') := by
  unfold request
  simp only [run_bind_ok_iff, run_return_ok_iff, Prod.mk.injEq]
  constructor
  · rintro ⟨_, s', hget, _, _, hrender, ⟨rfl, rfl⟩, rfl⟩
    exact ⟨s', hget, hrender⟩
  · intro h
    obtain ⟨s', hget, hrender⟩ := h
    exact ⟨_, s', hget, _, _, hrender, ⟨rfl, rfl⟩, rfl⟩

section Request
variable {p : LearnerReportProvider} {page page' : LearnerModel} {s s' : Reads}
  (hget : (onGetAsync p timeProvider page).run s = .ok (page', s'))
include hget

theorem run_request_of_hidden (h : page'.hasDataLocks = false) :
    (request p timeProvider page).run s =
      .ok ((page', noActiveDataLocks :: page'.notice), s') :=
  run_request.mpr ⟨s', hget, (run_activeDataLocks_of_hidden h).mpr ⟨rfl, rfl⟩⟩

theorem run_request_of_shown (h : page'.hasDataLocks = true) {h₁ h₂ : AcademicYear × AcademicYear}
    (hh₁ : PairAt timeProvider s'.count h₁) (hh₂ : PairAt timeProvider (s'.count + 2) h₂) :
    (request p timeProvider page).run s =
      .ok ((page', page'.notice ++
          [collectionPeriodsPartial h₁.1 page'.currentYearDataLocks
              page'.hasDataLocksInCurrentYear,
            collectionPeriodsPartial h₂.2 page'.previousYearDataLocks
              page'.hasDataLocksInPreviousYear]),
        { count := s'.count + 4, evaluated := s'.evaluated ++ [h₁, h₂] }) :=
  run_request.mpr ⟨s', hget,
    (run_activeDataLocks_of_shown h).mpr ⟨h₁, h₂, hh₁, hh₂, rfl, rfl⟩⟩

end Request

end LearnerModel

end IdentifyDataLocks
