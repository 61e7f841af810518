import IdentifyDataLocks.DataLockLinks
import IdentifyDataLocks.ReportGrowth

/-! What a request reads of the stores: the learner's own rows, the two stores joined, each row
once. Two services that agree on these give one page. -/
namespace IdentifyDataLocks
open Linq Index CollectionPeriodReport

namespace DataLockService

/-- The learner's earnings, the archive's before those of the current period. -/
def earningsOf (service : DataLockService) (uln : Int64) : List EarningEventModel :=
  (service.archiveContext.earningEvent ++ service.currentPeriodContext.earningEvent).filter
    fun e => e.learnerUln = uln

def locksOf (service : DataLockService) (uln : Int64) : List DataLockEventModel :=
  (service.archiveContext.dataLockEvent ++ service.currentPeriodContext.dataLockEvent).filter
    fun l => l.learnerUln = uln

/-- The services hold one apprenticeship of the learner, the same earnings in the order of
their first occurrence, and the same lock rows in any order. -/
structure SameLearner (service service' : DataLockService) (uln : Int64) : Prop where
  apprenticeship : service.getActiveApprenticeship uln = service'.getActiveApprenticeship uln
  earnings : distinct (service.earningsOf uln) = distinct (service'.earningsOf uln)
  locks : ∀ l, l ∈ service.locksOf uln ↔ l ∈ service'.locksOf uln

variable {service service' : DataLockService} {uln : Int64} {academicYears : List ℤ}

theorem earnings_getLearnerData :
    (service.getLearnerData uln academicYears).1 =
      (service.earningsOf uln).filter fun e => academicYears.contains e.academicYear.toInt := by
  simp only [getLearnerData, PaymentsDataContext.learnerEarnings, earningsOf, List.filter_append]

theorem locks_getLearnerData :
    (service.getLearnerData uln academicYears).2 =
      (service.locksOf uln).filter fun l => academicYears.contains l.academicYear.toInt := by
  simp only [getLearnerData, PaymentsDataContext.learnerLocks, locksOf, List.filter_append]

section SameLearner
variable (h : SameLearner service service' uln)
include h

theorem SameLearner.find?_earnings (p : EarningEventModel → Bool) :
    (service.getLearnerData uln academicYears).1.find? p =
      (service'.getLearnerData uln academicYears).1.find? p := by
  rw [earnings_getLearnerData, earnings_getLearnerData, List.find?_filter, List.find?_filter]
  exact find?_congr h.earnings _

theorem SameLearner.mem_locks (l : DataLockEventModel) :
    l ∈ (service.getLearnerData uln academicYears).2 ↔
      l ∈ (service'.getLearnerData uln academicYears).2 := by
  rw [locks_getLearnerData, locks_getLearnerData, List.mem_filter, List.mem_filter, h.locks]

end SameLearner

/-- The same rows with all of them in the archive. -/
def archived (service : DataLockService) : DataLockService where
  archiveContext :=
    { service.archiveContext with
      earningEvent :=
        service.archiveContext.earningEvent ++ service.currentPeriodContext.earningEvent
      dataLockEvent :=
        service.archiveContext.dataLockEvent ++ service.currentPeriodContext.dataLockEvent }
  currentPeriodContext :=
    { service.currentPeriodContext with earningEvent := [], dataLockEvent := [] }

/-- The boundary between the stores does not show. -/
theorem sameLearner_archived (service : DataLockService) (uln : Int64) :
    SameLearner service service.archived uln := by
  refine ⟨rfl, ?_, fun l => ?_⟩
  · simp [earningsOf, archived]
  · simp [locksOf, archived]

/-- The current period with further rows behind its own. -/
def receive (service : DataLockService) (earnings : List EarningEventModel)
    (locks : List DataLockEventModel) : DataLockService :=
  { service with
    currentPeriodContext :=
      { service.currentPeriodContext with
        earningEvent := service.currentPeriodContext.earningEvent ++ earnings
        dataLockEvent := service.currentPeriodContext.dataLockEvent ++ locks } }

/-- Rows of other learners, and the learner's own rows delivered again, do not show. -/
theorem sameLearner_receive {earnings : List EarningEventModel} {locks : List DataLockEventModel}
    (he : ∀ e ∈ earnings, e.learnerUln = uln → e ∈ service.earningsOf uln)
    (hl : ∀ l ∈ locks, l.learnerUln = uln → l ∈ service.locksOf uln) :
    SameLearner service (service.receive earnings locks) uln := by
  have hearnings : (service.receive earnings locks).earningsOf uln =
      service.earningsOf uln ++ earnings.filter fun e => e.learnerUln = uln := by
    simp [earningsOf, receive]
  have hlocks : (service.receive earnings locks).locksOf uln =
      service.locksOf uln ++ locks.filter fun l => l.learnerUln = uln := by
    simp [locksOf, receive]
  refine ⟨rfl, ?_, fun l => ?_⟩
  · rw [hearnings, distinct_append_of_subset]
    intro e hmem
    obtain ⟨hmem, hu⟩ := List.mem_filter.mp hmem
    exact he e hmem (of_decide_eq_true hu)
  · rw [hlocks, List.mem_append, List.mem_filter, decide_eq_true_eq]
    exact ⟨Or.inl, fun h => h.elim id fun hrow => hl l hrow.1 hrow.2⟩

end DataLockService

namespace CollectionPeriodReport

variable {app : Option ApprenticeshipModel} {l₁ l₂ : List EarningEventModel}
  {locks₁ locks₂ : List DataLockEventModel}

/-- Lists whose searches all agree have the same members. -/
theorem mem_iff_of_find? {α : Type} [DecidableEq α] {l₁ l₂ : List α}
    (h : ∀ p : α → Bool, l₁.find? p = l₂.find? p) (a : α) : a ∈ l₁ ↔ a ∈ l₂ := by
  have hfind : ∀ l : List α, a ∈ l ↔ (l.find? fun b => b = a).isSome := by
    intro l
    simp
  rw [hfind, hfind, h]

theorem earningAt_congr (h : ∀ p : EarningEventModel → Bool, l₁.find? p = l₂.find? p)
    (k : Period) : earningAt app l₁ k = earningAt app l₂ k := by
  have hretained : ∀ e, (e ∈ filter app l₁) = (e ∈ filter app l₂) := by
    intro e
    rw [mem_filter, mem_filter]
    simp only [Retained, OneProvider, mem_iff_of_find? h]
  rw [earningAt, earningAt, lookup, lookup, filter_eq app l₁, filter_eq app l₂,
    List.find?_filter, List.find?_filter]
  simp only [hretained]
  exact h _

/-- A report reads the first occurrences of the earnings and the set of the lock rows. -/
theorem collectionPeriods_congr_rows (app : Option ApprenticeshipModel)
    (h : ∀ p : EarningEventModel → Bool, l₁.find? p = l₂.find? p)
    (hlocks : ∀ l, l ∈ locks₁ ↔ l ∈ locks₂) :
    (build app l₁ locks₁).collectionPeriods = (build app l₂ locks₂).collectionPeriods := by
  apply collectionPeriods_eq_of_earningAt
  intro k
  rw [earningAt_congr h]
  simp only [toCollectionPeriod_congr hlocks]

theorem build_congr_rows (h : ∀ p : EarningEventModel → Bool, l₁.find? p = l₂.find? p)
    (hlocks : ∀ l, l ∈ locks₁ ↔ l ∈ locks₂) : build app l₁ locks₁ = build app l₂ locks₂ := by
  have hcollection := collectionPeriods_congr_rows app h hlocks
  have hnil : locks₁ = [] ↔ locks₂ = [] := by
    simp only [List.eq_nil_iff_forall_not_mem, hlocks]
  have hempty : locks₁.isEmpty = locks₂.isEmpty := by
    rw [Bool.eq_iff_iff, List.isEmpty_iff, List.isEmpty_iff, hnil]
  have hflag : (build app l₁ locks₁).hasDataLocks = (build app l₂ locks₂).hasDataLocks :=
    congrArg not hempty
  cases hreport : build app l₁ locks₁
  cases hreport' : build app l₂ locks₂
  simp_all only

end CollectionPeriodReport

namespace LearnerReportProvider

variable {p : LearnerReportProvider} {service : DataLockService} {uln : Int64}

def withStores (p : LearnerReportProvider) (service : DataLockService) : LearnerReportProvider :=
  { p with dataLockService := service }

theorem storedReport_congr (h : p.dataLockService.SameLearner service uln)
    (years : AcademicYear × AcademicYear) :
    p.storedReport uln years = (p.withStores service).storedReport uln years := by
  have happ : p.activeApprenticeship uln = (p.withStores service).activeApprenticeship uln :=
    h.apprenticeship
  rw [storedReport, storedReport, happ]
  exact build_congr_rows h.find?_earnings h.mem_locks

theorem assemble_congr (h : p.dataLockService.SameLearner service uln)
    (years : AcademicYear × AcademicYear) (d : Dictionary AcademicYear (List CollectionPeriod)) :
    p.assemble uln years d = (p.withStores service).assemble uln years d := by
  have happ : p.activeApprenticeship uln = (p.withStores service).activeApprenticeship uln :=
    h.apprenticeship
  cases ha : p.activeApprenticeship uln with
  | none =>
    rw [p.assemble_of_none uln years ha,
      (p.withStores service).assemble_of_none uln years (happ.symm.trans ha),
      storedReport_congr h]
  | some a =>
    have hany : ((p.fetchedEarnings uln years).any fun e => e.ukprn != a.ukprn) =
        ((p.withStores service).fetchedEarnings uln years).any fun e => e.ukprn != a.ukprn := by
      rw [Bool.eq_iff_iff, List.any_eq_true, List.any_eq_true]
      simp only [fetchedEarnings, mem_iff_of_find? h.find?_earnings]
      exact Iff.rfl
    rw [p.assemble_of_some uln years ha,
      (p.withStores service).assemble_of_some uln years (happ.symm.trans ha),
      storedReport_congr h, addApprenticeship, addApprenticeship, hany]
    rfl

/-- A report reads of the stores no more than the learner's rows. -/
theorem buildLearnerReport_congr (h : p.dataLockService.SameLearner service uln)
    (years : AcademicYear × AcademicYear) :
    p.buildLearnerReport uln years = (p.withStores service).buildLearnerReport uln years := by
  rw [buildLearnerReport_eq, buildLearnerReport_eq, storedReport_congr h]
  congr 1
  funext d
  exact assemble_congr h years d

end LearnerReportProvider

namespace LearnerModel

variable {service : DataLockService} {page : LearnerModel}

theorem request_congr {p : LearnerReportProvider} {timeProvider : ITimeProvider}
    (h : ∀ uln, longTryParse page.uln = some uln → p.dataLockService.SameLearner service uln) :
    request p timeProvider page = request (p.withStores service) timeProvider page := by
  have hget : onGetAsync p timeProvider page =
      onGetAsync (p.withStores service) timeProvider page := by
    unfold onGetAsync
    cases hu : longTryParse page.uln with
    | none => rfl
    | some uln =>
      simp only [LearnerReportProvider.buildLearnerReport_congr (h uln hu)]
  rw [request, request, hget]

theorem request_archived (p : LearnerReportProvider) (timeProvider : ITimeProvider)
    (page : LearnerModel) :
    request p timeProvider page =
      request (p.withStores p.dataLockService.archived) timeProvider page :=
  request_congr fun uln _ => DataLockService.sameLearner_archived _ uln

/-- Whatever the clock does, a request reads no more of the stores than the rows of its learner,
every row once and without regard to the store that holds it: services that agree on these
give the same page or the same exception. -/
theorem request_reads_learner (p : LearnerReportProvider) (service : DataLockService)
    (timeProvider : ITimeProvider) (page : LearnerModel)
    (h : ∀ uln, longTryParse page.uln = some uln → p.dataLockService.SameLearner service uln)
    (s : Reads) :
    (request p timeProvider page).run s = (request (p.withStores service) timeProvider page).run s :=
  congrArg (fun body => body.run s) (request_congr h)

/-- An earning that reaches both stores and another learner's lock row change nothing. -/
theorem request_reads_learner_received :
    (request lockedR09 rollover { uln := some "1003528448" }).run {} =
      (request (lockedR09.withStores (lockedR09.dataLockService.receive
          [earningR09 10018916 "ZPROG001" may6]
          [{ DataLockService.lockIn 9 with learnerUln := 1003528449 }])) rollover
        { uln := some "1003528448" }).run {} := by
  refine request_reads_learner lockedR09 _ rollover _ (fun uln hu => ?_) {}
  obtain rfl : 1003528448 = uln := Option.some.inj (longTryParse_1003528448.symm.trans hu)
  apply DataLockService.sameLearner_receive
  · decide
  · decide

end LearnerModel

end IdentifyDataLocks
