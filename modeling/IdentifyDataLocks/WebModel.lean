import IdentifyDataLocks.Linq
import IdentifyDataLocks.PaymentsModel

/-! What the payments page shows: collection periods with price episodes, the commitments of
each, and their payments and data locks. These are classes in the source, so two of their
objects are equal when they are one object; `reference` tells the objects of a commitment apart. -/
namespace IdentifyDataLocks.WebModel
open Calendar Linq

structure Payment where
  reference : ℕ
  id : Int64
  amount : Decimal
  transactionType : String
  deliveryPeriod : UInt8
  priceEpisodeIdentifier : Option String
  collectionPeriod : PaymentsModel.CollectionPeriod
  deriving DecidableEq

structure DataLock where
  reference : ℕ
  id : Int64
  amount : Decimal
  dataLockErrorCode : DataLockErrorCode
  deliveryPeriod : UInt8
  deriving DecidableEq

inductive ICommitmentItem
  | payment (payment : Payment)
  | dataLock (dataLock : DataLock)
  deriving DecidableEq

namespace ICommitmentItem

def reference : ICommitmentItem → ℕ
  | payment p => p.reference
  | dataLock d => d.reference

def asPayment : ICommitmentItem → Option Payment
  | payment p => some p
  | dataLock _ => none

def asDataLock : ICommitmentItem → Option DataLock
  | payment _ => none
  | dataLock d => some d

end ICommitmentItem

open ICommitmentItem

structure Commitment where
  id : Int64
  start : DateTimeOffset
  endDate : Option DateTimeOffset
  employer : Int64
  provider : Int64
  course : String
  status : PaymentsModel.ApprenticeshipStatus
  cost : Decimal
  payments : List Payment
  dataLocked : List DataLock
  standardCode : Option Int64
  frameworkCode : Option Int32
  pathwayCode : Option Int32
  programmeType : Option Int32
  ukprn : Int64
  uln : Int64
  distinct_objects : ((payments.map payment ++ dataLocked.map dataLock).map reference).Nodup

namespace Commitment

/-- The union of the two lists, by reference. -/
def items (c : Commitment) : List ICommitmentItem :=
  unionBy reference (c.payments.map payment) (c.dataLocked.map dataLock)

def totalPayments (c : Commitment) : Decimal :=
  ((c.items.filterMap asPayment).map (·.amount)).sum

/-- Distinct objects all survive the union. -/
theorem items_eq (c : Commitment) : c.items = c.payments.map payment ++ c.dataLocked.map dataLock :=
  unionBy_of_nodup c.distinct_objects

theorem filterMap_asPayment_items (c : Commitment) : c.items.filterMap asPayment = c.payments := by
  have hpayments : (c.payments.map payment).filterMap asPayment = c.payments := by
    rw [List.filterMap_map]
    exact List.filterMap_some
  have hlocks : (c.dataLocked.map dataLock).filterMap asPayment = [] := by
    simp [List.filterMap_eq_nil_iff, asPayment]
  rw [items_eq, List.filterMap_append, hpayments, hlocks, List.append_nil]

theorem filterMap_asDataLock_items (c : Commitment) :
    c.items.filterMap asDataLock = c.dataLocked := by
  have hpayments : (c.payments.map payment).filterMap asDataLock = [] := by
    simp [List.filterMap_eq_nil_iff, asDataLock]
  have hlocks : (c.dataLocked.map dataLock).filterMap asDataLock = c.dataLocked := by
    rw [List.filterMap_map]
    exact List.filterMap_some
  rw [items_eq, List.filterMap_append, hpayments, hlocks, List.nil_append]

end Commitment

structure PriceEpisode where
  episodeName : Option String
  act : String
  price : Decimal
  commitments : List Commitment
  ukprn : Int64
  uln : Int64
  standardCode : Option Int32
  frameworkCode : Option Int32
  programmeType : Option Int32
  pathwayCode : Option Int32
  startDate : DateTimeOffset

structure CollectionPeriod where
  periodName : String
  priceEpisodes : List PriceEpisode

namespace CollectionPeriod

def totalPayments (p : CollectionPeriod) : Decimal :=
  ((p.priceEpisodes.flatMap (·.commitments)).map (·.totalPayments)).sum

def totalLocked (p : CollectionPeriod) : Decimal :=
  ((((p.priceEpisodes.flatMap (·.commitments)).flatMap (·.items)).filterMap asDataLock).map
    (·.amount)).sum

end CollectionPeriod

end IdentifyDataLocks.WebModel
