import IdentifyDataLocks.Linq
import IdentifyDataLocks.PaymentsModel
import IdentifyDataLocks.Period

/-! One entry of the learner report: both sides of a data match and the data locks of one
collection period, mapped from the rows of the stores. -/
namespace IdentifyDataLocks
open Calendar Linq

inductive ApprenticeshipStatus
  | unknown | active | paused | stopped | inactive
  deriving DecidableEq, Repr

/-- The cast between the two enumerations, which agree on their shared values. -/
def ApprenticeshipStatus.ofPayments : PaymentsModel.ApprenticeshipStatus → ApprenticeshipStatus
  | .active => active
  | .paused => paused
  | .stopped => stopped
  | .inactive => inactive

/-- An enumeration over int; Dlock01 to Dlock12 name the values 1 to 12. -/
@[ext] structure DataLock where
  value : ℤ
  deriving DecidableEq, Repr

namespace DataLock

theorem value_injective : Function.Injective value := fun _ _ => DataLock.ext

instance : LinearOrder DataLock := LinearOrder.lift' value value_injective

/-- The name of a named value, the number of any other. -/
def toString (d : DataLock) : String :=
  match d.value with
  | 1 => "Dlock01"
  | 2 => "Dlock02"
  | 3 => "Dlock03"
  | 4 => "Dlock04"
  | 5 => "Dlock05"
  | 6 => "Dlock06"
  | 7 => "Dlock07"
  | 8 => "Dlock08"
  | 9 => "Dlock09"
  | 10 => "Dlock10"
  | 11 => "Dlock11"
  | 12 => "Dlock12"
  | value => s!"{value}"

def ofErrorCode (code : DataLockErrorCode) : DataLock := ⟨code.value.toNat⟩

theorem ofErrorCode_eq_iff {code : DataLockErrorCode} {d : DataLock} :
    ofErrorCode code = d ↔ d.value = code.value.toNat := by
  rw [DataLock.ext_iff, eq_comm, ofErrorCode]

end DataLock

structure AmountFromDate where
  start : DateTime
  amount : Decimal
  deriving DecidableEq

@[ext] structure DataMatch where
  ukprn : Int64
  uln : Int64
  standard : Option Int16
  framework : Option Int16
  program : Option Int16
  pathway : Option Int16
  cost : Decimal
  priceStart : Option DateTime
  pausedOn : Option DateTime
  resumedOn : Option DateTime
  stoppedOn : Option DateTime
  completionStatus : ApprenticeshipStatus
  tnp1 : Option (List AmountFromDate)
  tnp2 : Option (List AmountFromDate)
  tnp3 : Option (List AmountFromDate)
  tnp4 : Option (List AmountFromDate)
  ilrSubmissionDate : DateTime
  deriving DecidableEq

structure CollectionPeriod where
  period : Period
  apprenticeship : Option DataMatch
  ilr : DataMatch
  dataLocks : List DataLock
  deriving DecidableEq

def CollectionPeriod.compareTo (p other : CollectionPeriod) : ℤ := p.period.compareTo other.period

def CollectionPeriod.comparer : Comparer CollectionPeriod := Period.comparer.comap period

namespace ApprenticeshipModel

/-- The pause that `OrderByDescending(p => p.PauseDate).Take(1).FirstOrDefault()` finds. -/
def latestPause (a : ApprenticeshipModel) : Option ApprenticeshipPauseModel :=
  a.apprenticeshipPauses.bind fun pauses =>
    ((orderByDescending (.ofLinearOrder DateTime) (·.pauseDate) pauses).take 1).head?

def getPausedOnDate (a : ApprenticeshipModel) : Option DateTime :=
  a.latestPause.map (·.pauseDate)

def getResumedOnDate (a : ApprenticeshipModel) : Option DateTime :=
  a.latestPause.bind (·.resumeDate)

def toDataMatch (a : ApprenticeshipModel) : DataMatch where
  ukprn := a.ukprn
  uln := a.uln
  standard := a.standardCode.map Int64.toInt16
  framework := a.frameworkCode.map Int32.toInt16
  program := a.programmeType.map Int32.toInt16
  pathway := a.pathwayCode.map Int32.toInt16
  cost := (a.apprenticeshipPriceEpisodes.map (·.cost)).sum
  priceStart := a.apprenticeshipPriceEpisodes.head?.map (·.startDate)
  stoppedOn := a.stopDate
  completionStatus := .ofPayments a.status
  pausedOn := a.getPausedOnDate
  resumedOn := a.getResumedOnDate
  tnp1 := none
  tnp2 := none
  tnp3 := none
  tnp4 := none
  ilrSubmissionDate := .minValue

end ApprenticeshipModel

namespace EarningEventModel

def getTnpValue (e : EarningEventModel) (tnpSelector : EarningEventPriceEpisodeModel → Decimal) :
    List AmountFromDate :=
  e.priceEpisodes.map fun pe => ⟨pe.startDate, tnpSelector pe⟩

def calculateCost (e : EarningEventModel) : Decimal :=
  let tnp1and2 := (e.priceEpisodes.map fun pe =>
    pe.totalNegotiatedPrice1 + pe.totalNegotiatedPrice2).sum
  let tnp3and4 := (e.priceEpisodes.map fun pe =>
    pe.totalNegotiatedPrice3 + pe.totalNegotiatedPrice4).sum
  if 0 < tnp3and4 then tnp3and4 else tnp1and2

def toDataMatch (e : EarningEventModel) : DataMatch where
  uln := e.learnerUln
  ukprn := e.ukprn
  standard := some e.learningAimStandardCode.toInt16
  framework := some e.learningAimFrameworkCode.toInt16
  program := some e.learningAimProgrammeType.toInt16
  pathway := some e.learningAimPathwayCode.toInt16
  cost := e.calculateCost
  priceStart := e.priceEpisodes.head?.map (·.startDate)
  stoppedOn := e.priceEpisodes.head?.bind (·.actualEndDate)
  pausedOn := none
  resumedOn := none
  completionStatus := .unknown
  ilrSubmissionDate := e.ilrSubmissionDateTime
  tnp1 := some (e.getTnpValue (·.totalNegotiatedPrice1))
  tnp2 := some (e.getTnpValue (·.totalNegotiatedPrice2))
  tnp3 := some (e.getTnpValue (·.totalNegotiatedPrice3))
  tnp4 := some (e.getTnpValue (·.totalNegotiatedPrice4))

def period (e : EarningEventModel) : Period := ⟨e.academicYear.toInt, e.collectionPeriod.toNat⟩

/-- `ToDataLocks`: the rows of the earning's provider and period, flattened to codes. -/
def toDataLocks (locks : List DataLockEventModel) (e : EarningEventModel) : List DataLock :=
  sortedDistinct
    ((((locks.filter fun l => l.ukprn = e.ukprn ∧ l.academicYear = e.academicYear ∧
          l.collectionPeriod = e.collectionPeriod)
        |>.flatMap (·.nonPayablePeriods))
        |>.flatMap (·.dataLockEventNonPayablePeriodFailures))
        |>.map fun f => DataLock.ofErrorCode f.dataLockFailure)

def toCollectionPeriod (e : EarningEventModel) (apprenticeship : Option ApprenticeshipModel)
    (datalocks : List DataLockEventModel) : CollectionPeriod where
  period := e.period
  dataLocks := toDataLocks datalocks e
  apprenticeship := apprenticeship.map (·.toDataMatch)
  ilr := e.toDataMatch

end EarningEventModel

def DataLockEventModel.period (l : DataLockEventModel) : Period :=
  ⟨l.academicYear.toInt, l.collectionPeriod.toNat⟩

def DataLockEventModel.Concerns (l : DataLockEventModel) (e : EarningEventModel) : Prop :=
  l.ukprn = e.ukprn ∧ l.academicYear = e.academicYear ∧ l.collectionPeriod = e.collectionPeriod

theorem DataLockEventModel.concerns_iff {l : DataLockEventModel} {e : EarningEventModel} :
    l.Concerns e ↔ l.ukprn = e.ukprn ∧ l.period = e.period := by
  simp [Concerns, period, EarningEventModel.period, Int16.toInt_inj, UInt8.toNat_inj]

/-- A failure of the row has the number of the code. -/
def DataLockEventModel.FailsWith (l : DataLockEventModel) (d : DataLock) : Prop :=
  ∃ npp ∈ l.nonPayablePeriods, ∃ f ∈ npp.dataLockEventNonPayablePeriodFailures,
    d.value = f.dataLockFailure.value.toNat

/-- The sorted list is set-exact: the codes of the rows of that provider and period. -/
theorem EarningEventModel.mem_toDataLocks {locks : List DataLockEventModel}
    {e : EarningEventModel} {d : DataLock} :
    d ∈ toDataLocks locks e ↔ ∃ l ∈ locks, l.Concerns e ∧ l.FailsWith d := by
  simp only [toDataLocks, mem_sortedDistinct, List.mem_map, List.mem_flatMap, List.mem_filter,
    decide_eq_true_eq]
  constructor
  · intro h
    obtain ⟨f, ⟨npp, ⟨l, ⟨hl, hc⟩, hnpp⟩, hf⟩, hd⟩ := h
    exact ⟨l, hl, hc, npp, hnpp, f, hf, DataLock.ofErrorCode_eq_iff.mp hd⟩
  · intro h
    obtain ⟨l, hl, hc, npp, hnpp, f, hf, hd⟩ := h
    exact ⟨f, ⟨npp, ⟨l, ⟨hl, hc⟩, hnpp⟩, hf⟩, DataLock.ofErrorCode_eq_iff.mpr hd⟩

theorem EarningEventModel.pairwise_toDataLocks (locks : List DataLockEventModel)
    (e : EarningEventModel) : (toDataLocks locks e).Pairwise (· < ·) := pairwise_sortedDistinct _

theorem EarningEventModel.toDataLocks_ext {locks locks' : List DataLockEventModel}
    {e e' : EarningEventModel} (h : ∀ d, d ∈ toDataLocks locks e ↔ d ∈ toDataLocks locks' e') :
    toDataLocks locks e = toDataLocks locks' e' :=
  (pairwise_toDataLocks locks e).eq_of_mem_iff (pairwise_toDataLocks locks' e') h

end IdentifyDataLocks
