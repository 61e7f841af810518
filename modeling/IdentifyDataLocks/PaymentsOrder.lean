import IdentifyDataLocks.Index
import IdentifyDataLocks.PaymentTotals

/-! The payments page and the order in which its queries return their rows, and the names of the
data locks of an entry. -/
namespace IdentifyDataLocks
open Calendar Linq WebModel

namespace PaymentsLearnerModel

variable {rows : LearnerRows} {earnings earnings' : List EarningEventModel} {e : EarningEventModel}
  {period : UInt8}

/-! The order of the earnings. -/

/-- The periods of the page, the first one first. -/
def periodsOf (earnings : List EarningEventModel) : List UInt8 :=
  (shownEarnings earnings).map EarningEventModel.collectionPeriod

theorem mem_periodsOf : period ∈ periodsOf earnings ↔
    ∃ e ∈ earnings, e.collectionPeriod = period := by
  constructor
  · intro h
    obtain ⟨e, he, rfl⟩ := List.mem_map.mp h
    exact ⟨e, (mem_shownEarnings.mp he).mem, rfl⟩
  · rintro ⟨e, he, rfl⟩
    obtain ⟨e', hshown, hperiod⟩ := exists_shown he
    exact List.mem_map.mpr ⟨e', mem_shownEarnings.mpr hshown, hperiod⟩

theorem pairwise_periodsOf (earnings : List EarningEventModel) :
    (periodsOf earnings).Pairwise fun a b => a.toNat < b.toNat := by
  have hle : (shownEarnings earnings).Pairwise fun a b =>
      byteComparer.compare a.collectionPeriod b.collectionPeriod ≤ 0 := pairwise_orderBy _ _ _
  have hnodup : ((shownEarnings earnings).map EarningEventModel.collectionPeriod).Nodup :=
    nodup_collectionPeriod_shownEarnings
  rw [List.Nodup, List.pairwise_map] at hnodup
  rw [periodsOf, List.pairwise_map]
  refine (hle.and hnodup).imp fun {a b} h => ?_
  have hperiods : a.collectionPeriod.toNat ≤ b.collectionPeriod.toNat := compareTo_nonpos.mp h.1
  exact hperiods.lt_of_ne fun heq => h.2 (UInt8.toNat_inj.mp heq)

theorem periodsOf_perm (h : earnings'.Perm earnings) : periodsOf earnings' = periodsOf earnings := by
  have hdescending : ∀ earnings, (periodsOf earnings).Pairwise fun a b =>
      OrderDual.toDual b.toNat < OrderDual.toDual a.toNat := pairwise_periodsOf
  refine Index.eq_of_pairwise (hdescending earnings') (hdescending earnings) fun period => ?_
  simp only [mem_periodsOf, h.mem_iff]

/-- An entry of the page is that of the first of the latest rows of its period. -/
theorem map_some_collectionPeriods (rows : LearnerRows) :
    (collectionPeriods rows).map some = (periodsOf rows.earnings).map fun period =>
      (latestRows rows.earnings period).head?.map (entryOf rows) := by
  rw [collectionPeriods_eq, periodsOf, List.map_map, List.map_map]
  apply List.map_congr_left
  intro e he
  have hshown : (latestRows rows.earnings e.collectionPeriod).head? = some e :=
    mem_shownEarnings.mp he
  rw [Function.comp_apply, Function.comp_apply, hshown, Option.map_some]

theorem latestRows_perm (h : earnings'.Perm earnings) :
    (latestRows earnings' period).Perm (latestRows earnings period) := by
  simp only [latestRows, h.mem_iff]
  exact h.filter _

theorem period_of_mem_latestRows (h : e ∈ latestRows earnings period) :
    e ∈ earnings ∧ e.collectionPeriod = period := by
  have hmem := List.mem_filter.mp h
  exact ⟨hmem.1, (of_decide_eq_true hmem.2).1⟩

/-- Any of the latest rows of a period comes first in some order of the rows. -/
theorem exists_perm_head (he : e ∈ latestRows earnings period) :
    ∃ earnings', earnings'.Perm earnings ∧ (latestRows earnings' period).head? = some e := by
  have hp : (e :: earnings.erase e).Perm earnings :=
    (List.perm_cons_erase (period_of_mem_latestRows he).1).symm
  refine ⟨_, hp, ?_⟩
  have hfirst : e ∈ latestRows (e :: earnings.erase e) period :=
    (latestRows_perm hp).mem_iff.mpr he
  unfold latestRows at hfirst ⊢
  rw [List.filter_cons, if_pos (List.mem_filter.mp hfirst).2]
  rfl

def rearranged (rows : LearnerRows) (earnings : List EarningEventModel) : LearnerRows :=
  { rows with earnings := earnings }

theorem collectionPeriods_rearranged_iff : (∀ earnings', earnings'.Perm rows.earnings →
      collectionPeriods (rearranged rows earnings') = collectionPeriods rows) ↔
    ∀ period, ∀ e ∈ latestRows rows.earnings period, ∀ e' ∈ latestRows rows.earnings period,
      entryOf rows e = entryOf rows e' := by
  constructor
  · intro h period e he e' he'
    have hentry : ∀ e ∈ latestRows rows.earnings period,
        some (entryOf rows e) = (latestRows rows.earnings period).head?.map (entryOf rows) := by
      intro e he
      obtain ⟨earnings', hp, hhead⟩ := exists_perm_head he
      have hsame := congrArg (List.map some) (h earnings' hp)
      rw [map_some_collectionPeriods, map_some_collectionPeriods] at hsame
      have hperiods : periodsOf (rearranged rows earnings').earnings = periodsOf rows.earnings :=
        periodsOf_perm hp
      rw [hperiods, List.map_inj_left] at hsame
      have hrow := period_of_mem_latestRows he
      rw [← hsame period (mem_periodsOf.mpr ⟨e, hrow⟩)]
      exact congrArg (Option.map (entryOf rows)) hhead.symm
    exact Option.some.inj ((hentry e he).trans (hentry e' he').symm)
  · intro h earnings' hp
    apply List.map_injective_iff.mpr (Option.some_injective _)
    have hperiods : periodsOf (rearranged rows earnings').earnings = periodsOf rows.earnings :=
      periodsOf_perm hp
    rw [map_some_collectionPeriods, map_some_collectionPeriods, hperiods]
    apply List.map_congr_left
    intro period _
    have hlatest : (latestRows earnings' period).Perm (latestRows rows.earnings period) :=
      latestRows_perm hp
    change (latestRows earnings' period).head?.map (entryOf rows) = _
    cases h' : (latestRows earnings' period).head? with
    | none =>
      rw [List.head?_eq_none_iff] at h'
      rw [h', List.nil_perm] at hlatest
      rw [hlatest]
      rfl
    | some e' =>
      have he' := hlatest.mem_iff.mp (List.mem_of_mem_head? h')
      cases hhead : (latestRows rows.earnings period).head? with
      | none =>
        rw [List.head?_eq_none_iff] at hhead
        rw [hhead] at he'
        cases he'
      | some e =>
        rw [Option.map_some, Option.map_some,
          h period e' he' e (List.mem_of_mem_head? hhead)]

/-! The order of the other rows. -/

def withTables (rows : LearnerRows) (paid : List PaymentModel) (locked : List DataLockEventModel)
    (apprenticeships : List ApprenticeshipModel) : LearnerRows :=
  { rows with
    paidCommitments := paid
    lockedCommitments := locked
    apprenticeships := apprenticeships }

/-- `Price Episode`, `Price` and the act. -/
def episodeHeading (episode : WebModel.PriceEpisode) : Option String × Decimal × String :=
  (episode.episodeName, episode.price, episode.act)

/-- What the heading of an entry and those of its price episodes say. -/
def headline (entry : WebModel.CollectionPeriod) :
    String × Decimal × Decimal × List (Option String × Decimal × String) :=
  (entry.periodName, entry.totalPayments, entry.totalLocked,
    entry.priceEpisodes.map episodeHeading)

theorem map_episodeHeading_entryOf (rows : LearnerRows) (e : EarningEventModel) :
    (entryOf rows e).priceEpisodes.map episodeHeading = e.priceEpisodes.map fun episode =>
      (episode.priceEpisodeIdentifier, episode.agreedPrice, e.contractType.toString) := by
  rw [entryOf, priceEpisodesOf, List.map_map]
  rfl

theorem headline_withTables {paid : List PaymentModel} {locked : List DataLockEventModel}
    {apprenticeships : List ApprenticeshipModel} (hpaid : paid.Perm rows.paidCommitments)
    (hlocked : locked.Perm rows.lockedCommitments)
    (happ : apprenticeships.Perm rows.apprenticeships) (e : EarningEventModel) :
    headline (entryOf (withTables rows paid locked apprenticeships) e) =
      headline (entryOf rows e) := by
  have hape : (withTables rows paid locked apprenticeships).ape.length = rows.ape.length :=
    (happ.flatMap_right _).length_eq
  have hpayments : ∀ episode : EarningEventPriceEpisodeModel,
      ((paymentsOf e episode paid).map (·.amount)).sum =
        ((paymentsOf e episode rows.paidCommitments).map (·.amount)).sum := by
    intro episode
    exact (((hpaid.filter _).filter _).map _).sum_eq
  have hfailures : ((failuresOf e locked).map (·.nonPayablePeriod.amount)).sum =
      ((failuresOf e rows.lockedCommitments).map (·.nonPayablePeriod.amount)).sum :=
    (((hlocked.filter _).flatMap_right _).map _).sum_eq
  simp only [headline, totalPayments_entryOf, totalLocked_entryOf, map_episodeHeading_entryOf,
    hape]
  simp only [withTables, hpayments, hfailures]
  rfl

/-- No order of payments, data lock events and apprenticeships changes a heading or a total of
the page. The order of the earnings changes nothing exactly when the latest rows of a period
give the same entry. -/
theorem page_order_free_iff (rows : LearnerRows) :
    (∀ paid locked apprenticeships, paid.Perm rows.paidCommitments →
      locked.Perm rows.lockedCommitments → apprenticeships.Perm rows.apprenticeships →
        (collectionPeriods (withTables rows paid locked apprenticeships)).map headline =
          (collectionPeriods rows).map headline) ∧
      ((∀ earnings, earnings.Perm rows.earnings →
          collectionPeriods (rearranged rows earnings) = collectionPeriods rows) ↔
        ∀ period, ∀ e ∈ latestRows rows.earnings period, ∀ e' ∈ latestRows rows.earnings period,
          entryOf rows e = entryOf rows e') := by
  refine ⟨fun paid locked apprenticeships hpaid hlocked happ => ?_,
    collectionPeriods_rearranged_iff⟩
  rw [collectionPeriods_eq, collectionPeriods_eq, List.map_map, List.map_map]
  exact List.map_congr_left fun e _ => headline_withTables hpaid hlocked happ e

end PaymentsLearnerModel

/-! The names of the data locks. -/

def DataLockErrorCode.toString (code : DataLockErrorCode) : String :=
  match code.value with
  | 1 => "DLOCK_01"
  | 2 => "DLOCK_02"
  | 3 => "DLOCK_03"
  | 4 => "DLOCK_04"
  | 5 => "DLOCK_05"
  | 6 => "DLOCK_06"
  | 7 => "DLOCK_07"
  | 8 => "DLOCK_08"
  | 9 => "DLOCK_09"
  | 10 => "DLOCK_10"
  | 11 => "DLOCK_11"
  | 12 => "DLOCK_12"
  | value => s!"{value}"

/-- The name of a data lock by its number: the named ones are 1 to 12. -/
def errorCodeName (n : ℕ) : String :=
  if 1 ≤ n ∧ n ≤ 12 then "DLOCK_" ++ DateTime.twoDigits n else s!"{n}"

theorem DataLockErrorCode.toString_eq (code : DataLockErrorCode) :
    code.toString = errorCodeName code.value.toNat := by
  by_cases hnamed : 1 ≤ code.value.toNat ∧ code.value.toNat ≤ 12
  · have hvalue : code = ⟨UInt8.ofNat code.value.toNat⟩ := by simp
    rw [hvalue]
    generalize code.value.toNat = n at hnamed ⊢
    obtain ⟨hlow, hhigh⟩ := hnamed
    interval_cases n <;> rfl
  · rw [errorCodeName, if_neg hnamed]
    unfold DataLockErrorCode.toString
    split
    case h_13 => rfl
    all_goals
      rename_i h
      rw [h] at hnamed
      exact absurd hnamed (by decide)

namespace WebModel.CollectionPeriod

def dataLocks (p : WebModel.CollectionPeriod) : List WebModel.DataLock :=
  (p.priceEpisodes.flatMap (·.commitments)).flatMap (·.dataLocked)

def uniqueDataLockNames (p : WebModel.CollectionPeriod) : List String :=
  distinct (p.dataLocks.map (·.dataLockErrorCode.toString))

end WebModel.CollectionPeriod

namespace PaymentsLearnerModel

/-- The failures of a learner and a period number, with what the page says of each. -/
def recordedFailures (context : PaymentsDataContext) (learnerUln : Int64) (period : UInt8) :
    List (Int64 × Decimal × DataLockErrorCode × UInt8) :=
  (context.dataLockEvent.filter fun l =>
    l.learnerUln = learnerUln ∧ l.collectionPeriod = period).flatMap fun l =>
      l.nonPayablePeriods.flatMap fun npp =>
        npp.dataLockEventNonPayablePeriodFailures.map fun f =>
          (f.id, npp.amount, f.dataLockFailure, npp.deliveryPeriod)

/-- The join by the period number finds them all, and no others. -/
theorem map_failuresOf (context : PaymentsDataContext) (learnerUln : Int64)
    (e : EarningEventModel) :
    (failuresOf e (context.learnerRows learnerUln).lockedCommitments).map (fun y =>
        (y.failure.id, y.nonPayablePeriod.amount, y.failure.dataLockFailure,
          y.nonPayablePeriod.deliveryPeriod)) =
      recordedFailures context learnerUln e.collectionPeriod := by
  have hevents : (context.learnerRows learnerUln).lockedCommitments.filter
      (fun y => y.collectionPeriod = e.collectionPeriod) = context.dataLockEvent.filter fun l =>
        l.learnerUln = learnerUln ∧ l.collectionPeriod = e.collectionPeriod := by
    simp [PaymentsDataContext.learnerRows, Bool.and_comm]
  simp only [failuresOf, recordedFailures, hevents, List.map_flatMap, List.map_map,
    Function.comp_def]

/-- Every failure of the period is listed again under each commitment of each price episode. -/
theorem dataLocks_entryOf (context : PaymentsDataContext) (learnerUln : Int64)
    (e : EarningEventModel) :
    (entryOf (context.learnerRows learnerUln) e).dataLocks.map (fun lock =>
        (lock.id, lock.amount, lock.dataLockErrorCode, lock.deliveryPeriod)) =
      e.priceEpisodes.flatMap fun _ => (context.learnerRows learnerUln).ape.flatMap fun _ =>
        recordedFailures context learnerUln e.collectionPeriod := by
  have hcommitment : ∀ payments c x, (toCommitment e payments
      (failuresOf e (context.learnerRows learnerUln).lockedCommitments) c x).dataLocked.map
        (fun lock => (lock.id, lock.amount, lock.dataLockErrorCode, lock.deliveryPeriod)) =
          recordedFailures context learnerUln e.collectionPeriod := by
    intro payments c x
    rw [← map_failuresOf]
    exact @map_create _ _ _ toDataLock _ _ (fun _ _ => rfl) payments.length _
  simp only [WebModel.CollectionPeriod.dataLocks, entryOf, priceEpisodesOf, mapPriceEpisode,
    LearnerRows.ape, List.map_flatMap, List.flatMap_map, List.flatMap_assoc, hcommitment]

theorem mem_uniqueDataLockNames {context : PaymentsDataContext} {learnerUln : Int64}
    {name : String} :
    name ∈ (entryOf (context.learnerRows learnerUln) e).uniqueDataLockNames ↔
      e.priceEpisodes ≠ [] ∧ (context.learnerRows learnerUln).ape ≠ [] ∧
        ∃ x ∈ recordedFailures context learnerUln e.collectionPeriod,
          x.2.2.1.toString = name := by
  have hnames : (entryOf (context.learnerRows learnerUln) e).dataLocks.map
      (·.dataLockErrorCode.toString) = (e.priceEpisodes.flatMap fun _ =>
        (context.learnerRows learnerUln).ape.flatMap fun _ =>
          recordedFailures context learnerUln e.collectionPeriod).map (·.2.2.1.toString) := by
    rw [← dataLocks_entryOf, List.map_map]
    rfl
  rw [WebModel.CollectionPeriod.uniqueDataLockNames, mem_distinct, hnames]
  simp only [List.mem_map, List.mem_flatMap]
  constructor
  · intro h
    obtain ⟨x, ⟨episode, hepisode, y, hy, hx⟩, hname⟩ := h
    exact ⟨List.ne_nil_of_mem hepisode, List.ne_nil_of_mem hy, x, hx, hname⟩
  · intro h
    obtain ⟨hepisodes, hape, x, hx, hname⟩ := h
    obtain ⟨episode, hepisode⟩ := List.exists_mem_of_ne_nil _ hepisodes
    obtain ⟨y, hy⟩ := List.exists_mem_of_ne_nil _ hape
    exact ⟨x, ⟨episode, hepisode, y, hy, hx⟩, hname⟩

/-- The names of an entry are those of the failures recorded for the learner and the number of
its period, once each, and they are none without a price episode on either side, whatever was
recorded; the list behind them repeats every failure for each pair of price episodes. -/
theorem uniqueDataLockNames_onGet (context : PaymentsDataContext) (page : PaymentsLearnerModel)
    (learnerUln : Int64) (hu : longTryParse page.uln = some learnerUln) :
    onGet context page = .ok ((shownEarnings (context.learnerRows learnerUln).earnings).map
        (entryOf (context.learnerRows learnerUln))) ∧
      ∀ e, Shown (context.learnerRows learnerUln).earnings e →
        (entryOf (context.learnerRows learnerUln) e).uniqueDataLockNames.Nodup ∧
        (∀ name, name ∈ (entryOf (context.learnerRows learnerUln) e).uniqueDataLockNames ↔
          e.priceEpisodes ≠ [] ∧
          (∃ a ∈ context.apprenticeship, a.uln = learnerUln ∧
            a.apprenticeshipPriceEpisodes ≠ []) ∧
          ∃ l ∈ context.dataLockEvent, l.learnerUln = learnerUln ∧
            l.collectionPeriod = e.collectionPeriod ∧
              ∃ npp ∈ l.nonPayablePeriods, ∃ f ∈ npp.dataLockEventNonPayablePeriodFailures,
                name = errorCodeName f.dataLockFailure.value.toNat) ∧
        (entryOf (context.learnerRows learnerUln) e).dataLocks.map (fun lock =>
            (lock.id, lock.amount, lock.dataLockErrorCode, lock.deliveryPeriod)) =
          e.priceEpisodes.flatMap fun _ => (context.learnerRows learnerUln).ape.flatMap fun _ =>
            recordedFailures context learnerUln e.collectionPeriod := by
  refine ⟨onGet_eq hu, fun e _ => ⟨nodup_distinct _, fun name => ?_, dataLocks_entryOf _ _ e⟩⟩
  have hape : (context.learnerRows learnerUln).ape ≠ [] ↔ ∃ a ∈ context.apprenticeship,
      a.uln = learnerUln ∧ a.apprenticeshipPriceEpisodes ≠ [] := by
    simp [LearnerRows.ape, PaymentsDataContext.learnerRows]
  rw [mem_uniqueDataLockNames, hape]
  simp only [recordedFailures, List.mem_flatMap, List.mem_map, List.mem_filter, decide_eq_true_eq,
    DataLockErrorCode.toString_eq]
  refine and_congr_right fun _ => and_congr_right fun _ => ⟨fun h => ?_, fun h => ?_⟩
  · obtain ⟨-, ⟨l, ⟨hl, hu, hperiod⟩, npp, hnpp, f, hf, rfl⟩, rfl⟩ := h
    exact ⟨l, hl, hu, hperiod, npp, hnpp, f, hf, rfl⟩
  · obtain ⟨l, hl, hu, hperiod, npp, hnpp, f, hf, rfl⟩ := h
    exact ⟨_, ⟨l, ⟨hl, hu, hperiod⟩, npp, hnpp, f, hf, rfl⟩, rfl⟩

open CollectionPeriodReport in
/-- Two failures of one locked period, under each of two commitments. -/
theorem uniqueDataLockNames_onGet_locked :
    (∀ name, name ∈ (entryOf (lockedRows [{ startDate := may6 }, { startDate := may7 }])
        (earningWith may6 [identifier118])).uniqueDataLockNames ↔
          name = "DLOCK_03" ∨ name = "DLOCK_07") ∧
      (entryOf (lockedRows [{ startDate := may6 }, { startDate := may7 }])
          (earningWith may6 [identifier118])).dataLocks.map (fun lock =>
            (lock.id, lock.amount, lock.dataLockErrorCode, lock.deliveryPeriod)) =
        [(1, 100, ⟨3⟩, 8), (2, 100, ⟨7⟩, 8), (1, 100, ⟨3⟩, 8), (2, 100, ⟨7⟩, 8)] := by
  have hshown : earningWith may6 [identifier118] ∈
      shownEarnings (lockedRows [{ startDate := may6 }, { startDate := may7 }]).earnings := by
    decide
  obtain ⟨-, hnames⟩ := uniqueDataLockNames_onGet
    (lockedContext [{ startDate := may6 }, { startDate := may7 }])
    ⟨some "1003528448"⟩ 1003528448 longTryParse_1003528448
  obtain ⟨-, hname, hlist⟩ := hnames _ (mem_shownEarnings.mp hshown)
  refine ⟨fun name => (hname name).trans ?_, hlist.trans (by decide +kernel)⟩
  have hthree : errorCodeName 3 = "DLOCK_03" := rfl
  have hseven : errorCodeName 7 = "DLOCK_07" := rfl
  simp [lockedContext, paidContext, earningWith, DataLockService.lockIn, earningR09, hthree, hseven]

end PaymentsLearnerModel

end IdentifyDataLocks
