import IdentifyDataLocks.Linq
import IdentifyDataLocks.PaymentsModel

/-! The queries of the payments stores. A query returns the rows that satisfy its `Where`
clauses, in the order of the stored rows; the archive comes before the current period. -/
namespace IdentifyDataLocks
open Linq

structure PaymentsDataContext where
  apprenticeship : List ApprenticeshipModel := []
  earningEvent : List EarningEventModel := []
  dataLockEvent : List DataLockEventModel := []
  payment : List PaymentModel := []

structure DataLockService where
  archiveContext : PaymentsDataContext := {}
  currentPeriodContext : PaymentsDataContext := {}

namespace PaymentsDataContext

/-- `academicYears.Contains` compares as int, so no stored year wraps. -/
def learnerEarnings (context : PaymentsDataContext) (uln : Int64) (academicYears : List ℤ) :
    List EarningEventModel :=
  (context.earningEvent.filter fun x => x.learnerUln = uln).filter fun x =>
    academicYears.contains x.academicYear.toInt

def learnerLocks (context : PaymentsDataContext) (uln : Int64) (academicYears : List ℤ) :
    List DataLockEventModel :=
  (context.dataLockEvent.filter fun x => x.learnerUln = uln).filter fun x =>
    academicYears.contains x.academicYear.toInt

/-- The query of `GetDataLocks`: the learner's events with a non-payable period. -/
def dataLocks (context : PaymentsDataContext) (uln : Int64) : List DataLockEventModel :=
  orderByDescending (.ofLinearOrder ℕ) (·.collectionPeriod.toNat)
    ((context.dataLockEvent.filter fun x => x.learnerUln = uln).filter fun x =>
      !x.nonPayablePeriods.isEmpty)

end PaymentsDataContext

/-- The event is the learner's and has at least one non-payable period. -/
def DataLockEventModel.LocksLearner (l : DataLockEventModel) (uln : Int64) : Prop :=
  l.learnerUln = uln ∧ l.nonPayablePeriods ≠ []

instance (l : DataLockEventModel) (uln : Int64) : Decidable (l.LocksLearner uln) :=
  inferInstanceAs (Decidable (_ ∧ _))

namespace PaymentsDataContext

variable (context : PaymentsDataContext) (uln : Int64)

theorem perm_dataLocks :
    (context.dataLocks uln).Perm (context.dataLockEvent.filter fun l => l.LocksLearner uln) := by
  refine (perm_orderByDescending _ _ _).trans (List.Perm.of_eq ?_)
  rw [List.filter_filter]
  apply List.filter_congr
  intro l _
  rw [Bool.eq_iff_iff, decide_eq_true_eq]
  simp [DataLockEventModel.LocksLearner, and_comm]

theorem mem_dataLocks {l : DataLockEventModel} :
    l ∈ context.dataLocks uln ↔ l ∈ context.dataLockEvent ∧ l.LocksLearner uln := by
  rw [(context.perm_dataLocks uln).mem_iff, List.mem_filter, decide_eq_true_eq]

/-- Each query keeps its own rows in descending order of their periods. -/
theorem pairwise_dataLocks : (context.dataLocks uln).Pairwise fun a b =>
    b.collectionPeriod.toNat ≤ a.collectionPeriod.toNat := pairwise_orderByDescending _ _

end PaymentsDataContext

namespace DataLockService

variable (service : DataLockService) (uln : Int64)

def getActiveApprenticeship : Option ApprenticeshipModel :=
  let statuses := [PaymentsModel.ApprenticeshipStatus.active, .paused]
  (service.archiveContext.apprenticeship.filter fun x => x.uln = uln).find? fun a =>
    statuses.contains a.status

def getLearnerData (academicYears : List ℤ) :
    List EarningEventModel × List DataLockEventModel :=
  let earnings := service.archiveContext.learnerEarnings uln academicYears
  let currentPeriodEarnings := service.currentPeriodContext.learnerEarnings uln academicYears
  let locks := service.archiveContext.learnerLocks uln academicYears
  let currentPeriodLocks := service.currentPeriodContext.learnerLocks uln academicYears
  (earnings ++ currentPeriodEarnings, locks ++ currentPeriodLocks)

/-- `dataLocks.AddRange(currentPeriodDataLocks)`; the joined list is not sorted again. -/
def getDataLocks : List DataLockEventModel :=
  service.archiveContext.dataLocks uln ++ service.currentPeriodContext.dataLocks uln

/-- A fetched earning is stored in one of the two stores, belongs to the learner and has one
of the requested years; nothing else is fetched. -/
theorem mem_getLearnerData {academicYears : List ℤ} {e : EarningEventModel} :
    e ∈ (service.getLearnerData uln academicYears).1 ↔
      (e ∈ service.archiveContext.earningEvent ∨ e ∈ service.currentPeriodContext.earningEvent) ∧
        e.learnerUln = uln ∧ e.academicYear.toInt ∈ academicYears := by
  simp only [getLearnerData, PaymentsDataContext.learnerEarnings, List.mem_append,
    List.mem_filter, decide_eq_true_eq, List.contains_iff_mem]
  tauto

theorem perm_getDataLocks : (service.getDataLocks uln).Perm
    ((service.archiveContext.dataLockEvent ++ service.currentPeriodContext.dataLockEvent).filter
      fun l => l.LocksLearner uln) := by
  rw [getDataLocks, List.filter_append]
  exact (PaymentsDataContext.perm_dataLocks _ uln).append (PaymentsDataContext.perm_dataLocks _ uln)

/-- Neither store loses or repeats an event of the learner. -/
theorem count_getDataLocks (l : DataLockEventModel) :
    (service.getDataLocks uln).count l =
      if l.LocksLearner uln then
        service.archiveContext.dataLockEvent.count l +
          service.currentPeriodContext.dataLockEvent.count l
      else 0 := by
  rw [(service.perm_getDataLocks uln).count_eq]
  by_cases hl : l.LocksLearner uln
  · rw [if_pos hl, List.count_filter (by simpa using hl), List.count_append]
  · rw [if_neg hl, List.count_eq_zero]
    intro hmem
    exact hl (by simpa using (List.mem_filter.mp hmem).2)

/-- Two descending lists are joined, so only the step between the stores is in question. -/
theorem pairwise_getDataLocks_iff :
    (service.getDataLocks uln).Pairwise (fun a b =>
        b.collectionPeriod.toNat ≤ a.collectionPeriod.toNat) ↔
      ∀ a ∈ service.archiveContext.dataLocks uln,
        ∀ c ∈ service.currentPeriodContext.dataLocks uln,
          c.collectionPeriod.toNat ≤ a.collectionPeriod.toNat := by
  simp only [getDataLocks, List.pairwise_append, PaymentsDataContext.pairwise_dataLocks, true_and]

/-- The events of the learner as often as they are stored, the latest period first. -/
structure ListsLockEvents : Prop where
  count : ∀ l, (service.getDataLocks uln).count l =
    if l.LocksLearner uln then
      service.archiveContext.dataLockEvent.count l +
        service.currentPeriodContext.dataLockEvent.count l
    else 0
  descending : (service.getDataLocks uln).Pairwise fun a b =>
    b.collectionPeriod.toNat ≤ a.collectionPeriod.toNat

/-- The events are complete in any case. Their order is right exactly when no event of the
current period store comes from a later period than one of the archive. -/
theorem listsLockEvents_iff :
    service.ListsLockEvents uln ↔
      ∀ a ∈ service.archiveContext.dataLockEvent, a.LocksLearner uln →
        ∀ c ∈ service.currentPeriodContext.dataLockEvent, c.LocksLearner uln →
          c.collectionPeriod.toNat ≤ a.collectionPeriod.toNat := by
  have hdescending := service.pairwise_getDataLocks_iff uln
  simp only [PaymentsDataContext.mem_dataLocks] at hdescending
  constructor
  · intro h a ha hla c hc hlc
    exact hdescending.mp h.descending a ⟨ha, hla⟩ c ⟨hc, hlc⟩
  · intro h
    refine ⟨service.count_getDataLocks uln, hdescending.mpr ?_⟩
    intro a ha c hc
    exact h a ha.1 ha.2 c hc.1 hc.2

def lockIn (collectionPeriod : UInt8) : DataLockEventModel where
  ukprn := 10018916
  academicYear := 1920
  collectionPeriod := collectionPeriod
  learnerUln := 1003528448
  nonPayablePeriods := [{}]

/-- An archived event of R09 comes before the R10 event of the current period. -/
theorem archived_R09_before_R10 :
    ¬ ListsLockEvents
        { archiveContext := { dataLockEvent := [lockIn 9] }
          currentPeriodContext := { dataLockEvent := [lockIn 10] } } 1003528448 := by
  intro h
  exact absurd h.descending (by decide)

end DataLockService

end IdentifyDataLocks
