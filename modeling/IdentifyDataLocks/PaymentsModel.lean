import IdentifyDataLocks.Calendar

/-! Rows of the payments stores, with the columns the pages read. A nullable column is an
`Option`; a child collection that a query includes is a list, as the queries never leave
one null. -/
namespace IdentifyDataLocks
open Calendar

/-- C# decimals, with exact sums. -/
abbrev Decimal := ℚ

inductive PaymentsModel.ApprenticeshipStatus
  | active | paused | stopped | inactive
  deriving DecidableEq, Repr

/-- An enumeration over byte; the column can hold values that have no name. -/
structure DataLockErrorCode where
  value : UInt8
  deriving DecidableEq, Repr

structure ContractType where
  value : UInt8
  deriving DecidableEq, Repr

def ContractType.toString (contractType : ContractType) : String :=
  match contractType.value with
  | 1 => "Act1"
  | 2 => "Act2"
  | 255 => "None"
  | value => s!"{value}"

structure TransactionType where
  value : UInt8
  deriving DecidableEq, Repr

def TransactionType.toString (transactionType : TransactionType) : String :=
  match transactionType.value with
  | 1 => "Learning"
  | 2 => "Completion"
  | 3 => "Balancing"
  | 4 => "First16To18EmployerIncentive"
  | 5 => "First16To18ProviderIncentive"
  | 6 => "Second16To18EmployerIncentive"
  | 7 => "Second16To18ProviderIncentive"
  | 8 => "OnProgramme16To18FrameworkUplift"
  | 9 => "Completion16To18FrameworkUplift"
  | 10 => "Balancing16To18FrameworkUplift"
  | 11 => "FirstDisadvantagePayment"
  | 12 => "SecondDisadvantagePayment"
  | 13 => "OnProgrammeMathsAndEnglish"
  | 14 => "BalancingMathsAndEnglish"
  | 15 => "LearningSupport"
  | 16 => "CareLeaverApprenticePayment"
  | value => s!"{value}"

structure EarningEventPriceEpisodeModel where
  priceEpisodeIdentifier : Option String := none
  totalNegotiatedPrice1 : Decimal := 0
  totalNegotiatedPrice2 : Decimal := 0
  totalNegotiatedPrice3 : Decimal := 0
  totalNegotiatedPrice4 : Decimal := 0
  startDate : DateTime
  actualEndDate : Option DateTime := none
  agreedPrice : Decimal := 0
  deriving DecidableEq

structure EarningEventModel where
  ukprn : Int64
  academicYear : Int16
  collectionPeriod : UInt8
  learnerUln : Int64
  learningAimReference : Option String := none
  learningAimProgrammeType : Int32 := 0
  learningAimStandardCode : Int32 := 0
  learningAimFrameworkCode : Int32 := 0
  learningAimPathwayCode : Int32 := 0
  contractType : ContractType := ⟨0⟩
  ilrSubmissionDateTime : DateTime
  priceEpisodes : List EarningEventPriceEpisodeModel := []
  deriving DecidableEq

structure DataLockEventNonPayablePeriodFailureModel where
  id : Int64 := 0
  dataLockFailure : DataLockErrorCode
  deriving DecidableEq

structure DataLockEventNonPayablePeriodModel where
  id : Int64 := 0
  deliveryPeriod : UInt8 := 0
  amount : Decimal := 0
  dataLockEventNonPayablePeriodFailures : List DataLockEventNonPayablePeriodFailureModel := []
  deriving DecidableEq

structure DataLockEventModel where
  ukprn : Int64
  academicYear : Int16
  collectionPeriod : UInt8
  learnerUln : Int64
  nonPayablePeriods : List DataLockEventNonPayablePeriodModel := []
  deriving DecidableEq

structure ApprenticeshipPriceEpisodeModel where
  id : Int64 := 0
  startDate : DateTime
  endDate : Option DateTime := none
  cost : Decimal := 0
  removed : Bool := false
  deriving DecidableEq

structure ApprenticeshipPauseModel where
  pauseDate : DateTime
  resumeDate : Option DateTime := none
  deriving DecidableEq

structure ApprenticeshipModel where
  accountId : Int64 := 0
  uln : Int64
  ukprn : Int64
  standardCode : Option Int64 := none
  programmeType : Option Int32 := none
  frameworkCode : Option Int32 := none
  pathwayCode : Option Int32 := none
  agreedOnDate : DateTime := .minValue
  stopDate : Option DateTime := none
  status : PaymentsModel.ApprenticeshipStatus
  apprenticeshipPriceEpisodes : List ApprenticeshipPriceEpisodeModel := []
  apprenticeshipPauses : Option (List ApprenticeshipPauseModel) := none
  deriving DecidableEq

@[ext] structure PaymentsModel.CollectionPeriod where
  academicYear : Int16
  period : UInt8
  deriving DecidableEq

structure PaymentModel where
  id : Int64 := 0
  learnerUln : Int64
  priceEpisodeIdentifier : Option String := none
  amount : Decimal := 0
  collectionPeriod : PaymentsModel.CollectionPeriod
  deliveryPeriod : UInt8 := 0
  transactionType : TransactionType := ⟨0⟩
  deriving DecidableEq

end IdentifyDataLocks
