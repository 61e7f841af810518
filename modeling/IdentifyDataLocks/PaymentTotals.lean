import IdentifyDataLocks.PaymentsLearner

/-! The totals of the payments page. An entry repeats the rows of its period under each of
its commitments, so a total is a multiple of the sum in which every row counts once. -/
namespace IdentifyDataLocks
open CollectionPeriodReport (may6 may7)
open Linq WebModel

/-- `ape`: the price episodes of all apprenticeships of the learner. -/
def LearnerRows.ape (rows : LearnerRows) : List ApprenticeshipPriceEpisodeModel :=
  rows.apprenticeships.flatMap (·.apprenticeshipPriceEpisodes)

namespace PaymentsLearnerModel

/-- The payments of the period under one of the identifiers, each once. -/
def paidOnce (rows : LearnerRows) (period : UInt8) (identifiers : List (Option String)) :
    Decimal :=
  (((rows.paidCommitments.filter fun y => y.collectionPeriod.period = period).filter fun y =>
    y.priceEpisodeIdentifier ∈ identifiers).map (·.amount)).sum

/-- The non-payable periods with a failure, of the lock events of the period. -/
def lockedPeriods (rows : LearnerRows) (period : UInt8) :
    List DataLockEventNonPayablePeriodModel :=
  ((rows.lockedCommitments.filter fun y => y.collectionPeriod = period).flatMap
    (·.nonPayablePeriods)).filter fun y => y.dataLockEventNonPayablePeriodFailures ≠ []

def lockedOnce (rows : LearnerRows) (period : UInt8) : Decimal :=
  ((lockedPeriods rows period).map (·.amount)).sum

/-- Both totals of the entry count every row of its period once. -/
structure CountsOnce (rows : LearnerRows) (period : UInt8) (entry : WebModel.CollectionPeriod) :
    Prop where
  payments : entry.totalPayments =
    paidOnce rows period (entry.priceEpisodes.map (·.episodeName))
  locked : entry.totalLocked = lockedOnce rows period

section Totals
variable (rows : LearnerRows) (e : EarningEventModel)

theorem totalPayments_toCommitment (payments : List PaymentModel) (failures : List LockedFailure)
    (c : ApprenticeshipModel) (x : ApprenticeshipPriceEpisodeModel) :
    (toCommitment e payments failures c x).totalPayments = (payments.map (·.amount)).sum := by
  have hcreate : (create toPayment 0 payments).map (·.amount) = payments.map (·.amount) :=
    map_create (by intros; rfl) 0 payments
  rw [Commitment.totalPayments, Commitment.filterMap_asPayment_items, ← hcreate, toCommitment]

theorem locked_toCommitment (payments : List PaymentModel) (failures : List LockedFailure)
    (c : ApprenticeshipModel) (x : ApprenticeshipPriceEpisodeModel) :
    ((toCommitment e payments failures c x).items.filterMap ICommitmentItem.asDataLock).map
      (·.amount) = failures.map (·.nonPayablePeriod.amount) := by
  have hcreate : (create toDataLock payments.length failures).map (·.amount) =
      failures.map (·.nonPayablePeriod.amount) := map_create (by intros; rfl) payments.length failures
  rw [Commitment.filterMap_asDataLock_items, ← hcreate, toCommitment]

/-- A sum over the commitments of a price episode, where all of them have one value. -/
theorem sum_commitments (episode : EarningEventPriceEpisodeModel) {f : Commitment → Decimal}
    {value : Decimal} (hf : ∀ c x, f (toCommitment e (paymentsOf e episode rows.paidCommitments)
      (failuresOf e rows.lockedCommitments) c x) = value) :
    ((mapPriceEpisode e episode rows.paidCommitments rows.lockedCommitments
      rows.apprenticeships).commitments.map f).sum = rows.ape.length * value := by
  have hconst : (mapPriceEpisode e episode rows.paidCommitments rows.lockedCommitments
      rows.apprenticeships).commitments.map f = rows.ape.map fun _ => value := by
    rw [mapPriceEpisode, LearnerRows.ape, List.map_flatMap, List.map_flatMap]
    apply List.flatMap_congr
    intro c _
    rw [List.map_map]
    exact List.map_congr_left fun x _ => hf c x
  rw [hconst, List.map_const', List.sum_replicate, nsmul_eq_mul]

theorem totalPayments_entryOf : (entryOf rows e).totalPayments =
    rows.ape.length * (e.priceEpisodes.map fun episode =>
      ((paymentsOf e episode rows.paidCommitments).map (·.amount)).sum).sum := by
  rw [CollectionPeriod.totalPayments, sum_map_flatMap, ← List.sum_map_mul_left]
  simp only [entryOf, priceEpisodesOf, List.map_map]
  apply sum_map_congr
  intro episode _
  exact sum_commitments rows e episode fun c x => totalPayments_toCommitment e _ _ c x

theorem totalLocked_entryOf : (entryOf rows e).totalLocked =
    e.priceEpisodes.length * (rows.ape.length *
      ((failuresOf e rows.lockedCommitments).map (·.nonPayablePeriod.amount)).sum) := by
  rw [CollectionPeriod.totalLocked, List.filterMap_flatMap, sum_map_flatMap, sum_map_flatMap,
    entryOf, priceEpisodesOf, List.map_map, ← nsmul_eq_mul e.priceEpisodes.length,
    ← List.sum_replicate, ← List.map_const']
  apply sum_map_congr
  intro episode _
  exact sum_commitments rows e episode fun c x =>
    congrArg List.sum (locked_toCommitment e _ _ c x)

theorem map_episodeName_entryOf : (entryOf rows e).priceEpisodes.map (·.episodeName) =
    e.priceEpisodes.map (·.priceEpisodeIdentifier) := by
  rw [entryOf, priceEpisodesOf, List.map_map]
  rfl

/-- Distinct identifiers share no payment. -/
theorem sum_paymentsOf (h : (e.priceEpisodes.map (·.priceEpisodeIdentifier)).Nodup) :
    (e.priceEpisodes.map fun episode =>
      ((paymentsOf e episode rows.paidCommitments).map (·.amount)).sum).sum =
    paidOnce rows e.collectionPeriod (e.priceEpisodes.map (·.priceEpisodeIdentifier)) := by
  rw [paidOnce]
  refine Eq.trans ?_ (sum_by_key PaymentModel.priceEpisodeIdentifier (·.amount) h
    (fun _ => decide_eq_true_iff) _)
  rw [List.map_map]
  apply sum_map_congr
  intro episode _
  rw [paymentsOf, List.filter_comm]
  rfl

/-- Each locked period counts as often as it has failures. -/
theorem sum_failuresOf :
    ((failuresOf e rows.lockedCommitments).map (·.nonPayablePeriod.amount)).sum =
      ((lockedPeriods rows e.collectionPeriod).map fun y =>
        (y.dataLockEventNonPayablePeriodFailures.length : Decimal) * y.amount).sum := by
  have hnone : ∀ y : DataLockEventNonPayablePeriodModel,
      decide (y.dataLockEventNonPayablePeriodFailures ≠ []) = false →
        (y.dataLockEventNonPayablePeriodFailures.length : Decimal) * y.amount = 0 := by
    intro y hy
    have hnil : y.dataLockEventNonPayablePeriodFailures = [] := by simpa using hy
    rw [hnil, List.length_nil, Nat.cast_zero, zero_mul]
  rw [lockedPeriods, sum_map_filter_of_eq_zero fun y _ => hnone y, sum_map_flatMap, failuresOf,
    sum_map_flatMap]
  apply sum_map_congr
  intro event _
  rw [sum_map_flatMap]
  apply sum_map_congr
  intro y _
  rw [List.map_map, ← nsmul_eq_mul, ← List.sum_replicate, ← List.map_const']
  rfl

/-- How often the amount of a locked period is counted: under each commitment of each price
episode, once for each of its failures. -/
def copies (y : DataLockEventNonPayablePeriodModel) : ℕ :=
  e.priceEpisodes.length * (rows.ape.length * y.dataLockEventNonPayablePeriodFailures.length)

/-- What the counts after the first add to the locked total; none at all take away. -/
def surplus : Decimal :=
  ((lockedPeriods rows e.collectionPeriod).map fun y => (copies rows e y - 1) * y.amount).sum

theorem totalPayments_eq (h : (e.priceEpisodes.map (·.priceEpisodeIdentifier)).Nodup) :
    (entryOf rows e).totalPayments = rows.ape.length *
      paidOnce rows e.collectionPeriod (e.priceEpisodes.map (·.priceEpisodeIdentifier)) := by
  rw [totalPayments_entryOf, sum_paymentsOf rows e h]

theorem totalLocked_eq : (entryOf rows e).totalLocked =
    surplus rows e + lockedOnce rows e.collectionPeriod := by
  rw [totalLocked_entryOf, sum_failuresOf, surplus, lockedOnce, ← List.sum_map_add,
    ← List.sum_map_mul_left, ← List.sum_map_mul_left]
  apply sum_map_congr
  intro y _
  rw [copies]
  push_cast
  ring

/-- The totals are right exactly when the apprenticeships have one price episode between them,
or nothing was paid, and the surplus is nil. -/
theorem countsOnce_iff (h : (e.priceEpisodes.map (·.priceEpisodeIdentifier)).Nodup) :
    CountsOnce rows e.collectionPeriod (entryOf rows e) ↔
      (rows.ape.length = 1 ∨ paidOnce rows e.collectionPeriod
        (e.priceEpisodes.map (·.priceEpisodeIdentifier)) = 0) ∧ surplus rows e = 0 := by
  have hpayments : (entryOf rows e).totalPayments = paidOnce rows e.collectionPeriod
      ((entryOf rows e).priceEpisodes.map (·.episodeName)) ↔
        rows.ape.length = 1 ∨ paidOnce rows e.collectionPeriod
          (e.priceEpisodes.map (·.priceEpisodeIdentifier)) = 0 := by
    rw [map_episodeName_entryOf, totalPayments_eq rows e h, mul_left_eq_self₀, Nat.cast_eq_one]
  have hlocked : (entryOf rows e).totalLocked = lockedOnce rows e.collectionPeriod ↔
      surplus rows e = 0 := by
    rw [totalLocked_eq, add_eq_right]
  rw [← hpayments, ← hlocked]
  constructor
  · intro hcounts
    exact ⟨hcounts.payments, hcounts.locked⟩
  · intro hcounts
    exact ⟨hcounts.1, hcounts.2⟩

/-- Without negative amounts, every locked period of a non-zero amount is counted once. -/
theorem surplus_eq_zero_iff (h : ∀ y ∈ lockedPeriods rows e.collectionPeriod, 0 ≤ y.amount) :
    surplus rows e = 0 ↔
      ∀ y ∈ lockedPeriods rows e.collectionPeriod, copies rows e y = 1 ∨ y.amount = 0 := by
  rcases Nat.eq_zero_or_pos (e.priceEpisodes.length * rows.ape.length) with hzero | hpos
  · -- nothing is counted, so the surplus takes every amount away
    have hcopies : ∀ y, copies rows e y ≠ 1 := by
      intro y
      rw [copies, ← mul_assoc, hzero, zero_mul]
      exact zero_ne_one
    have hnil : (e.priceEpisodes.length : Decimal) * rows.ape.length = 0 := by
      exact_mod_cast hzero
    have hsum : surplus rows e = -lockedOnce rows e.collectionPeriod := by
      apply eq_neg_of_add_eq_zero_left
      rw [← totalLocked_eq, totalLocked_entryOf, ← mul_assoc, hnil, zero_mul]
    rw [hsum, neg_eq_zero, lockedOnce, sum_map_eq_zero_iff h]
    simp only [hcopies, false_or]
  · have hcopies : ∀ y ∈ lockedPeriods rows e.collectionPeriod, 1 ≤ copies rows e y := by
      intro y hy
      have hfailures : 0 < y.dataLockEventNonPayablePeriodFailures.length := by
        rw [List.length_pos_iff]
        simpa using (List.mem_filter.mp hy).2
      rw [copies, ← mul_assoc]
      exact Nat.mul_pos hpos hfailures
    have hterm : ∀ y ∈ lockedPeriods rows e.collectionPeriod,
        0 ≤ ((copies rows e y : Decimal) - 1) * y.amount := by
      intro y hy
      have hone : (1 : Decimal) ≤ copies rows e y := by exact_mod_cast hcopies y hy
      exact mul_nonneg (sub_nonneg.mpr hone) (h y hy)
    rw [surplus, sum_map_eq_zero_iff hterm]
    simp only [mul_eq_zero, sub_eq_zero, Nat.cast_eq_one]

end Totals

/-- An entry of the page counts every row once exactly when the apprenticeships have one price
episode between them, or nothing was paid, and the counts of the locked periods, each less one,
cancel; without negative amounts they cancel only where every count is one. -/
theorem totals_count_once_iff (context : PaymentsDataContext) (page : PaymentsLearnerModel)
    (learnerUln : Int64) (hu : longTryParse page.uln = some learnerUln) :
    onGet context page = .ok ((shownEarnings (context.learnerRows learnerUln).earnings).map
        (entryOf (context.learnerRows learnerUln))) ∧
      ∀ e ∈ shownEarnings (context.learnerRows learnerUln).earnings,
        (e.priceEpisodes.map (·.priceEpisodeIdentifier)).Nodup →
        (CountsOnce (context.learnerRows learnerUln) e.collectionPeriod
            (entryOf (context.learnerRows learnerUln) e) ↔
          ((context.learnerRows learnerUln).ape.length = 1 ∨
            paidOnce (context.learnerRows learnerUln) e.collectionPeriod
              (e.priceEpisodes.map (·.priceEpisodeIdentifier)) = 0) ∧
          surplus (context.learnerRows learnerUln) e = 0) ∧
        ((∀ y ∈ lockedPeriods (context.learnerRows learnerUln) e.collectionPeriod,
            0 ≤ y.amount) →
          (surplus (context.learnerRows learnerUln) e = 0 ↔
            ∀ y ∈ lockedPeriods (context.learnerRows learnerUln) e.collectionPeriod,
              copies (context.learnerRows learnerUln) e y = 1 ∨ y.amount = 0)) := by
  refine ⟨onGet_eq hu, fun e _ hnodup => ⟨?_, ?_⟩⟩
  · exact countsOnce_iff _ e hnodup
  · exact surplus_eq_zero_iff _ e

/-- One earning with one price episode and its payment of 1000; the apprenticeship has the
price episodes given. -/
def paidContext (episodes : List ApprenticeshipPriceEpisodeModel) : PaymentsDataContext where
  apprenticeship :=
    [{ uln := 1003528448, ukprn := 10018916, status := .active,
       apprenticeshipPriceEpisodes := episodes }]
  earningEvent := [earningWith may6 [identifier118]]
  payment :=
    [{ learnerUln := 1003528448, priceEpisodeIdentifier := identifier118, amount := 1000,
       collectionPeriod := ⟨1920, 9⟩ }]

def paidRows (episodes : List ApprenticeshipPriceEpisodeModel) : LearnerRows :=
  (paidContext episodes).learnerRows 1003528448

/-- The same with an event of R09 that has a locked period with two failures. -/
def lockedContext (episodes : List ApprenticeshipPriceEpisodeModel) : PaymentsDataContext :=
  { paidContext episodes with
    dataLockEvent :=
      [{ DataLockService.lockIn 9 with
         nonPayablePeriods :=
           [{ deliveryPeriod := 8
              amount := 100
              dataLockEventNonPayablePeriodFailures :=
                [{ id := 1, dataLockFailure := ⟨3⟩ }, { id := 2, dataLockFailure := ⟨7⟩ }] }] }] }

def lockedRows (episodes : List ApprenticeshipPriceEpisodeModel) : LearnerRows :=
  (lockedContext episodes).learnerRows 1003528448

theorem totals_count_once_paid :
    CountsOnce (paidRows [{ startDate := may6 }]) 9
      (entryOf (paidRows [{ startDate := may6 }]) (earningWith may6 [identifier118])) := by
  have hshown : earningWith may6 [identifier118] ∈
      shownEarnings (paidRows [{ startDate := may6 }]).earnings := by decide
  have htotals := totals_count_once_iff (paidContext [{ startDate := may6 }])
    ⟨some "1003528448"⟩ 1003528448 longTryParse_1003528448
  exact (htotals.2 _ hshown (List.nodup_singleton _)).1.mpr ⟨Or.inl rfl, rfl⟩

/-- Two price episodes of the apprenticeship: the payment of 1000 is shown as 2000. -/
theorem second_episode_doubles_payment :
    ∃ entry, onGet (paidContext [{ startDate := may6 }, { startDate := may7 }])
        ⟨some "1003528448"⟩ = .ok [entry] ∧
      (entry.priceEpisodes.map (·.episodeName)).Nodup ∧
      ¬ CountsOnce (paidRows [{ startDate := may6 }, { startDate := may7 }]) 9 entry := by
  let rows := paidRows [{ startDate := may6 }, { startDate := may7 }]
  have hshown : shownEarnings rows.earnings = [earningWith may6 [identifier118]] := by decide
  have hpaid : paidOnce rows 9 [identifier118] = 1000 := by decide +kernel
  have hnodup : ((earningWith may6 [identifier118]).priceEpisodes.map
      (·.priceEpisodeIdentifier)).Nodup := List.nodup_singleton _
  refine ⟨entryOf rows (earningWith may6 [identifier118]),
    onGet_eq_singleton longTryParse_1003528448 hshown, hnodup, fun hcounts => ?_⟩
  rcases ((countsOnce_iff rows _ hnodup).mp hcounts).1 with htwo | hnone
  · cases htwo
  · exact absurd (hnone.symm.trans hpaid) (by norm_num)

end PaymentsLearnerModel

end IdentifyDataLocks
