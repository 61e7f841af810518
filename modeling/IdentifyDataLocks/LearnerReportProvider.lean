import IdentifyDataLocks.CollectionPeriodsByYear
import IdentifyDataLocks.DataLockService
import IdentifyDataLocks.ExternalServices

/-! The learner report: the stored data of a learner in two academic years, with the names
the external services know. -/
namespace IdentifyDataLocks
open Linq Fallible Outcome CollectionPeriodReport

/-- Pairs of an id and a name, null until an apprenticeship names them. -/
structure LearnerReport where
  learner : Option String × Option String := (none, none)
  employer : Option String × Option String := (none, none)
  provider : Option String × Option String := (none, none)
  hasDataLocks : Bool
  hasMultipleProviders : Bool := false
  dataLocks : Dictionary AcademicYear (List CollectionPeriod)

structure LearnerReportProvider where
  dataLockService : DataLockService
  employerService : IAccountApiClient
  providerService : IRoatpService
  commitmentsService : ICommitmentsApiClient

namespace LearnerReportProvider

/-- The `activeApprenticeship != null` block. -/
def addApprenticeship (p : LearnerReportProvider) (uln : Int64)
    (earnings : List EarningEventModel) (activeApprenticeship : ApprenticeshipModel)
    (learnerReport : LearnerReport) : LearnerReport :=
  let providerName := ProviderService.getProviderName p.providerService activeApprenticeship.ukprn
  let (employerName, employerId) :=
    EmployerService.getEmployerName p.employerService activeApprenticeship.accountId
  let learnerName := CommitmentsService.getApprenticesName p.commitmentsService
    (toString uln) activeApprenticeship.accountId
  { learnerReport with
    learner := (some (toString uln), some learnerName)
    employer := (employerId, employerName)
    provider := (some (toString activeApprenticeship.ukprn), some providerName)
    hasMultipleProviders := earnings.any fun e => e.ukprn != activeApprenticeship.ukprn }

def buildLearnerReport (p : LearnerReportProvider) (uln : Int64)
    (academicYears : AcademicYear × AcademicYear) : Except Exception LearnerReport := do
  let activeApprenticeship := p.dataLockService.getActiveApprenticeship uln
  let (earnings, dataLocks) := p.dataLockService.getLearnerData uln
    [academicYears.1.toShortInt, academicYears.2.toShortInt]
  let report := CollectionPeriodReport.build activeApprenticeship earnings dataLocks
  let learnerReport : LearnerReport :=
    { dataLocks := ← report.collectionPeriodsByYear
      hasDataLocks := report.hasDataLocks }
  match activeApprenticeship with
  | none => return learnerReport
  | some a => return p.addApprenticeship uln earnings a learnerReport

variable (p : LearnerReportProvider) (uln : Int64) (years : AcademicYear × AcademicYear)

/-! What the stores hold of a learner. -/

def activeApprenticeship : Option ApprenticeshipModel :=
  p.dataLockService.getActiveApprenticeship uln

def fetchedEarnings : List EarningEventModel :=
  (p.dataLockService.getLearnerData uln [years.1.toShortInt, years.2.toShortInt]).1

def fetchedLocks : List DataLockEventModel :=
  (p.dataLockService.getLearnerData uln [years.1.toShortInt, years.2.toShortInt]).2

def storedReport : CollectionPeriodReport :=
  .build (p.activeApprenticeship uln) (p.fetchedEarnings uln years) (p.fetchedLocks uln years)

def assemble (d : Dictionary AcademicYear (List CollectionPeriod)) : LearnerReport :=
  let learnerReport : LearnerReport :=
    { dataLocks := d, hasDataLocks := (p.storedReport uln years).hasDataLocks }
  match p.activeApprenticeship uln with
  | none => learnerReport
  | some a => p.addApprenticeship uln (p.fetchedEarnings uln years) a learnerReport

/-- Only the conversion of the entries' years can fail. -/
theorem buildLearnerReport_eq :
    p.buildLearnerReport uln years =
      (p.storedReport uln years).collectionPeriodsByYear.map (p.assemble uln years) := by
  unfold buildLearnerReport assemble activeApprenticeship
  change (p.storedReport uln years).collectionPeriodsByYear >>= _ = _
  cases (p.storedReport uln years).collectionPeriodsByYear with
  | error ex => rfl
  | ok d =>
    cases p.dataLockService.getActiveApprenticeship uln with
    | none => rfl
    | some a => rfl

theorem buildLearnerReport_ok_iff {r : LearnerReport} :
    p.buildLearnerReport uln years = .ok r ↔
      ∃ d, (p.storedReport uln years).collectionPeriodsByYear = .ok d ∧
        p.assemble uln years d = r := by
  rw [buildLearnerReport_eq]
  cases (p.storedReport uln years).collectionPeriodsByYear with
  | error ex => simp [Except.map]
  | ok d => simp [Except.map]

/-- A report is built exactly when the year of every retained earning converts. -/
theorem exists_buildLearnerReport :
    (∃ r, p.buildLearnerReport uln years = .ok r) ↔
      ∀ e, Retained (p.activeApprenticeship uln) (p.fetchedEarnings uln years) e →
        ∃ y, AcademicYear.ofShortInt e.academicYear.toInt = .ok y := by
  simp only [buildLearnerReport_ok_iff, exists_comm, exists_and_left, exists_eq', and_true]
  exact exists_byYear_iff_retained

theorem assemble_dataLocks (d : Dictionary AcademicYear (List CollectionPeriod)) :
    (p.assemble uln years d).dataLocks = d := by
  unfold assemble
  cases p.activeApprenticeship uln with
  | none => rfl
  | some a => rfl

theorem hasDataLocks_of_build {r : LearnerReport} (h : p.buildLearnerReport uln years = .ok r) :
    r.hasDataLocks = (p.storedReport uln years).hasDataLocks := by
  obtain ⟨d, -, rfl⟩ := (p.buildLearnerReport_ok_iff uln years).mp h
  unfold assemble
  cases p.activeApprenticeship uln with
  | none => rfl
  | some a => rfl

/-- A query fetches the two requested years and no other. -/
theorem year_of_mem_storedReport {c : CollectionPeriod}
    (hc : c ∈ (p.storedReport uln years).collectionPeriods) :
    c.period.year = years.1.toShortInt ∨ c.period.year = years.2.toShortInt := by
  obtain ⟨e, he, rfl⟩ := mem_collectionPeriods.mp hc
  obtain ⟨-, -, hyear⟩ := (DataLockService.mem_getLearnerData _ _).mp he.1.1
  simp only [List.mem_cons, List.not_mem_nil, or_false] at hyear
  exact hyear

def withServices (employers : IAccountApiClient) (providers : IRoatpService)
    (commitments : ICommitmentsApiClient) : LearnerReportProvider :=
  { p with
    employerService := employers
    providerService := providers
    commitmentsService := commitments }

theorem assemble_of_some {a : ApprenticeshipModel} (ha : p.activeApprenticeship uln = some a)
    (d : Dictionary AcademicYear (List CollectionPeriod)) :
    p.assemble uln years d = p.addApprenticeship uln (p.fetchedEarnings uln years) a
      { dataLocks := d, hasDataLocks := (p.storedReport uln years).hasDataLocks } := by
  rw [assemble, ha]

theorem assemble_of_none (ha : p.activeApprenticeship uln = none)
    (d : Dictionary AcademicYear (List CollectionPeriod)) :
    p.assemble uln years d =
      { dataLocks := d, hasDataLocks := (p.storedReport uln years).hasDataLocks } := by
  rw [assemble, ha]

end LearnerReportProvider

/-- The part of a report that no external service supplies. -/
structure LearnerReport.SameData (r r' : LearnerReport) : Prop where
  dataLocks : r.dataLocks = r'.dataLocks
  hasDataLocks : r.hasDataLocks = r'.hasDataLocks
  hasMultipleProviders : r.hasMultipleProviders = r'.hasMultipleProviders
  learnerId : r.learner.1 = r'.learner.1
  providerId : r.provider.1 = r'.provider.1

namespace LearnerReportProvider

variable (p : LearnerReportProvider) (uln : Int64) (years : AcademicYear × AcademicYear)

section Services
variable (employers : IAccountApiClient) (providers : IRoatpService)
  (commitments : ICommitmentsApiClient)

theorem sameData_withServices (d : Dictionary AcademicYear (List CollectionPeriod)) :
    (p.assemble uln years d).SameData
      ((p.withServices employers providers commitments).assemble uln years d) := by
  cases ha : p.activeApprenticeship uln with
  | none =>
    rw [assemble_of_none p uln years ha,
      assemble_of_none (p.withServices employers providers commitments) uln years ha]
    exact ⟨rfl, rfl, rfl, rfl, rfl⟩
  | some a =>
    rw [assemble_of_some p uln years ha,
      assemble_of_some (p.withServices employers providers commitments) uln years ha]
    exact ⟨rfl, rfl, rfl, rfl, rfl⟩

theorem buildLearnerReport_error_iff {ex : Exception} :
    p.buildLearnerReport uln years = .error ex ↔
      (p.storedReport uln years).collectionPeriodsByYear = .error ex := by
  rw [buildLearnerReport_eq]
  cases (p.storedReport uln years).collectionPeriodsByYear with
  | error ex' => simp [Except.map]
  | ok d => simp [Except.map]

end Services

/-- External failures stay with their own strings. Other services change neither whether a
report is built nor what it says of the stored data, every name depends on one call only,
and a call that fails blanks the names it would have supplied. -/
theorem buildLearnerReport_isolated (p : LearnerReportProvider) (uln : Int64)
    (years : AcademicYear × AcademicYear) (employers : IAccountApiClient)
    (providers : IRoatpService) (commitments : ICommitmentsApiClient) :
    ((∃ r, p.buildLearnerReport uln years = .ok r) ↔
        ∀ e, Retained (p.activeApprenticeship uln) (p.fetchedEarnings uln years) e →
          ∃ y, AcademicYear.ofShortInt e.academicYear.toInt = .ok y) ∧
      (∀ ex, p.buildLearnerReport uln years = .error ex ↔
        (p.withServices employers providers commitments).buildLearnerReport uln years =
          .error ex) ∧
      (∀ r r', p.buildLearnerReport uln years = .ok r →
        (p.withServices employers providers commitments).buildLearnerReport uln years = .ok r' →
          r.SameData r' ∧ (p.activeApprenticeship uln = none → r = r') ∧
          ∀ a, p.activeApprenticeship uln = some a →
            (p.providerService a.ukprn = providers a.ukprn → r.provider.2 = r'.provider.2) ∧
            (p.employerService a.accountId = employers a.accountId → r.employer = r'.employer) ∧
            (p.commitmentsService ⟨a.accountId, toString uln⟩ =
              commitments ⟨a.accountId, toString uln⟩ → r.learner.2 = r'.learner.2)) ∧
      ∀ r a, p.buildLearnerReport uln years = .ok r → p.activeApprenticeship uln = some a →
        (Failed (p.providerService a.ukprn) → r.provider.2 = some "") ∧
        (∀ client, p.providerService = RoatpService.getProvider client →
          Failed (client s!"/organisations/{a.ukprn}") → r.provider.2 = some "") ∧
        (Failed (p.employerService a.accountId) → r.employer = (some "", some "")) ∧
        (Failed (p.commitmentsService ⟨a.accountId, toString uln⟩) → r.learner.2 = some "") := by
  refine ⟨exists_buildLearnerReport p uln years, fun ex => ?_, fun r r' hr hr' => ?_,
    fun r a hr ha => ?_⟩
  · rw [buildLearnerReport_error_iff, buildLearnerReport_error_iff]
    exact Iff.rfl
  · obtain ⟨d, hd, rfl⟩ := (buildLearnerReport_ok_iff p uln years).mp hr
    obtain ⟨d', hd', rfl⟩ := (buildLearnerReport_ok_iff _ uln years).mp hr'
    obtain rfl : d = d' := Except.ok.inj (hd.symm.trans hd')
    refine ⟨sameData_withServices p uln years employers providers commitments d,
      fun ha => ?_, fun a ha => ?_⟩
    · rw [assemble_of_none p uln years ha,
      assemble_of_none (p.withServices employers providers commitments) uln years ha]
      rfl
    · rw [assemble_of_some p uln years ha,
      assemble_of_some (p.withServices employers providers commitments) uln years ha]
      refine ⟨fun h => ?_, fun h => ?_, fun h => ?_⟩
      · simp [addApprenticeship, withServices, ProviderService.getProviderName, h]
      · simp [addApprenticeship, withServices, EmployerService.getEmployerName, h]
      · simp [addApprenticeship, withServices, CommitmentsService.getApprenticesName, h]
  · obtain ⟨d, hd, rfl⟩ := (buildLearnerReport_ok_iff p uln years).mp hr
    rw [assemble_of_some p uln years ha]
    have hprovider : Failed (p.providerService a.ukprn) →
        ProviderService.getProviderName p.providerService a.ukprn = "" :=
      ProviderService.getProviderName_failed
    refine ⟨fun h => ?_, fun client hc h => ?_, fun h => ?_, fun h => ?_⟩
    · rw [addApprenticeship, hprovider h]
    · have hnull : Failed (p.providerService a.ukprn) := by
        rw [hc, RoatpService.getProvider_failed h]
        intro provider hsome
        cases hsome
      rw [addApprenticeship, hprovider hnull]
    · rw [addApprenticeship, EmployerService.getEmployerName_failed h]
    · rw [addApprenticeship, CommitmentsService.getApprenticesName_failed h]

def ofArchive (archive : PaymentsDataContext) : LearnerReportProvider where
  dataLockService := { archiveContext := archive }
  employerService _ := .ok none
  providerService _ := .ok none
  commitmentsService _ := .ok none

def apprenticeshipOf (ukprn : Int64) : ApprenticeshipModel where
  uln := 1003528448
  ukprn := ukprn
  status := .active

def years1920 : AcademicYear × AcademicYear :=
  (.starting 2019 (by decide),
    .starting 2018 (by decide))

/-- The academic year 2099-2100 has the code 10000, which names no two consecutive years: a
row of that year ends the report in an exception. -/
theorem year_2099_throws :
    ¬ ∃ r, (ofArchive
        { earningEvent := [{ earningR09 10018916 "ZPROG001" may6 with academicYear := 10000 }] }
      ).buildLearnerReport 1003528448
        (.starting 2099 (by decide),
          .starting 2098 (by decide)) = .ok r := by
  rw [exists_buildLearnerReport]
  intro h
  obtain ⟨y, hy⟩ := h { earningR09 10018916 "ZPROG001" may6 with academicYear := 10000 }
    ⟨by decide, rfl, Or.inl (by decide)⟩
  obtain ⟨f, hf, -, hle, -⟩ := AcademicYear.ofShortInt_eq_ok.mp hy
  have hcode : (10000 : ℤ) = 100 * f + (f + 1) := hf
  omega

end LearnerReportProvider

end IdentifyDataLocks
