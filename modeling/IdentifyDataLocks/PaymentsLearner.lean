import IdentifyDataLocks.LearnerPage
import IdentifyDataLocks.WebModel

/-! The payments page of a learner: one earning for each collection period, its price episodes,
and under each of these every commitment with the payments and data locks of the period. -/
namespace IdentifyDataLocks
open Calendar Linq WebModel

/-- The rows of one learner, as `OnGet` fetches them. -/
structure LearnerRows where
  earnings : List EarningEventModel
  paidCommitments : List PaymentModel
  lockedCommitments : List DataLockEventModel
  apprenticeships : List ApprenticeshipModel

def PaymentsDataContext.learnerRows (context : PaymentsDataContext) (learnerUln : Int64) :
    LearnerRows where
  earnings := context.earningEvent.filter fun x => x.learnerUln = learnerUln
  paidCommitments := context.payment.filter fun x => x.learnerUln = learnerUln
  lockedCommitments := context.dataLockEvent.filter fun x => x.learnerUln = learnerUln
  apprenticeships := context.apprenticeship.filter fun x => x.uln = learnerUln

/-- A failure with the rows that its navigation properties lead to. -/
structure LockedFailure where
  event : DataLockEventModel
  nonPayablePeriod : DataLockEventNonPayablePeriodModel
  failure : DataLockEventNonPayablePeriodFailureModel
  deriving DecidableEq

structure PaymentsLearnerModel where
  uln : Option String

namespace PaymentsLearnerModel

/-- Null interpolates to the empty string. -/
def interpolated {α : Type} [ToString α] (value : Option α) : String := (value.map toString).getD ""

def standardString (c : ApprenticeshipModel) : String :=
  if c.programmeType = some 0 then "25-" ++ interpolated c.standardCode ++ "-"
  else interpolated c.frameworkCode ++ "-" ++ interpolated c.programmeType ++ "-" ++
    interpolated c.pathwayCode

def frameworkString (c : ApprenticeshipModel) : String :=
  standardString c ++ "-" ++ c.agreedOnDate.toDayMonthYear "-"

def paymentsOf (earning : EarningEventModel) (episode : EarningEventPriceEpisodeModel)
    (paidCommitments : List PaymentModel) : List PaymentModel :=
  (paidCommitments.filter fun y =>
    y.priceEpisodeIdentifier = episode.priceEpisodeIdentifier).filter fun y =>
      y.collectionPeriod.period = earning.collectionPeriod

def failuresOf (earning : EarningEventModel) (lockedCommitments : List DataLockEventModel) :
    List LockedFailure :=
  (lockedCommitments.filter fun y => y.collectionPeriod = earning.collectionPeriod).flatMap
    fun event => event.nonPayablePeriods.flatMap fun period =>
      period.dataLockEventNonPayablePeriodFailures.map fun failure => ⟨event, period, failure⟩

def toPayment (reference : ℕ) (y : PaymentModel) : Payment where
  reference := reference
  id := y.id
  amount := y.amount
  priceEpisodeIdentifier := y.priceEpisodeIdentifier
  collectionPeriod := y.collectionPeriod
  transactionType := y.transactionType.toString
  deliveryPeriod := y.deliveryPeriod

def toDataLock (reference : ℕ) (y : LockedFailure) : WebModel.DataLock where
  reference := reference
  amount := y.nonPayablePeriod.amount
  dataLockErrorCode := y.failure.dataLockFailure
  id := y.failure.id
  deliveryPeriod := y.nonPayablePeriod.deliveryPeriod

/-- A new object for each row, at references of its own from `next` on. -/
def create {ρ α : Type} (new : ℕ → ρ → α) (next : ℕ) (rows : List ρ) : List α :=
  (rows.zipIdx next).map fun row => new row.2 row.1

theorem map_create {ρ α β : Type} {new : ℕ → ρ → α} {g : α → β} {h : ρ → β}
    (hg : ∀ n y, g (new n y) = h y) (next : ℕ) (rows : List ρ) :
    (create new next rows).map g = rows.map h := by
  induction rows generalizing next with
  | nil => rfl
  | cons y rows ih =>
    rw [create, List.zipIdx_cons, List.map_cons, List.map_cons, List.map_cons, hg]
    exact congrArg (h y :: ·) (ih (next + 1))

theorem map_reference_create {ρ α : Type} {new : ℕ → ρ → α} {reference : α → ℕ}
    (hr : ∀ n y, reference (new n y) = n) (next : ℕ) (rows : List ρ) :
    (create new next rows).map reference = List.range' next rows.length := by
  induction rows generalizing next with
  | nil => rfl
  | cons y rows ih =>
    rw [create, List.zipIdx_cons, List.map_cons, List.map_cons, hr, List.length_cons,
      List.range'_succ]
    exact congrArg (next :: ·) (ih (next + 1))

theorem forall_mem_create {ρ α : Type} {new : ℕ → ρ → α} {P : α → Prop} {Q : ρ → Prop}
    (h : ∀ n y, P (new n y) ↔ Q y) (next : ℕ) (rows : List ρ) :
    (∀ a ∈ create new next rows, P a) ↔ ∀ y ∈ rows, Q y := by
  induction rows generalizing next with
  | nil => simp [create]
  | cons y rows ih =>
    rw [create, List.zipIdx_cons, List.map_cons, List.forall_mem_cons, List.forall_mem_cons, h]
    exact and_congr_right fun _ => ih (next + 1)

theorem map_snd_zip_create {ρ α : Type} (new : ℕ → ρ → α) (next : ℕ) (rows : List ρ) :
    ((create new next rows).zip rows).map Prod.snd = rows := by
  apply List.map_snd_zip
  simp [create]

/-- The commitment of one price episode of an apprenticeship. -/
def toCommitment (earning : EarningEventModel) (payments : List PaymentModel)
    (failures : List LockedFailure) (c : ApprenticeshipModel)
    (x : ApprenticeshipPriceEpisodeModel) : Commitment where
  id := x.id
  start := ⟨x.startDate⟩
  endDate := x.endDate.map fun endDate => ⟨endDate⟩
  employer := c.accountId
  provider := earning.ukprn
  course := frameworkString c
  status := c.status
  cost := x.cost
  payments := create toPayment 0 payments
  dataLocked := create toDataLock payments.length failures
  frameworkCode := c.frameworkCode
  pathwayCode := c.pathwayCode
  standardCode := c.standardCode
  programmeType := c.programmeType
  ukprn := c.ukprn
  uln := c.uln
  distinct_objects := by
    have hpayments : (create toPayment 0 payments).map (·.reference) =
        List.range' 0 payments.length := map_reference_create (fun _ _ => rfl) 0 payments
    have hlocks : (create toDataLock payments.length failures).map (·.reference) =
        List.range' payments.length failures.length :=
      map_reference_create (fun _ _ => rfl) payments.length failures
    have hreferences : ((create toPayment 0 payments).map ICommitmentItem.payment ++
        (create toDataLock payments.length failures).map ICommitmentItem.dataLock).map
          ICommitmentItem.reference = List.range' 0 (payments.length + failures.length) := by
      rw [List.map_append, List.map_map, List.map_map, ← List.range'_append_1, Nat.zero_add]
      exact congrArg₂ _ hpayments hlocks
    rw [hreferences]
    exact List.nodup_range'

def mapPriceEpisode (earning : EarningEventModel) (episode : EarningEventPriceEpisodeModel)
    (paidCommitments : List PaymentModel) (lockedCommitments : List DataLockEventModel)
    (commitments : List ApprenticeshipModel) : WebModel.PriceEpisode where
  episodeName := episode.priceEpisodeIdentifier
  act := earning.contractType.toString
  price := episode.agreedPrice
  commitments := commitments.flatMap fun c => c.apprenticeshipPriceEpisodes.map
    (toCommitment earning (paymentsOf earning episode paidCommitments)
      (failuresOf earning lockedCommitments) c)
  ukprn := earning.ukprn
  uln := earning.learnerUln
  standardCode := some earning.learningAimStandardCode
  frameworkCode := some earning.learningAimFrameworkCode
  programmeType := some earning.learningAimProgrammeType
  pathwayCode := some earning.learningAimPathwayCode
  startDate := ⟨episode.startDate⟩

def priceEpisodesOf (rows : LearnerRows) (earning : EarningEventModel) :
    List WebModel.PriceEpisode :=
  earning.priceEpisodes.map fun episode => mapPriceEpisode earning episode rows.paidCommitments
    rows.lockedCommitments rows.apprenticeships

/-- In each period the first of the rows in descending order of submission. -/
def latestEarnings (earnings : List EarningEventModel) : List EarningEventModel :=
  (groupBy EarningEventModel.collectionPeriod earnings).flatMap fun x =>
    (orderByDescending (.ofLinearOrder DateTime) EarningEventModel.ilrSubmissionDateTime
      x.elements).take 1

def byteComparer : Comparer UInt8 := (Comparer.ofLinearOrder ℕ).comap UInt8.toNat

def collectionPeriods (rows : LearnerRows) : List WebModel.CollectionPeriod :=
  (orderBy byteComparer Grouping.key
    (groupBy EarningEventModel.collectionPeriod (latestEarnings rows.earnings))).map
      fun periodEarnings =>
        { periodName := s!"R0{periodEarnings.key}"
          priceEpisodes := periodEarnings.elements.flatMap (priceEpisodesOf rows) }

def onGet (context : PaymentsDataContext) (page : PaymentsLearnerModel) :
    Except Exception (List WebModel.CollectionPeriod) :=
  match longTryParse page.uln with
  | none => .error (.general "Invalid ULN")
  | some learnerUln => .ok (collectionPeriods (context.learnerRows learnerUln))

/-- The earnings of a period whose submission is the latest of that period. -/
def latestRows (earnings : List EarningEventModel) (period : UInt8) : List EarningEventModel :=
  earnings.filter fun e => e.collectionPeriod = period ∧ ∀ e' ∈ earnings,
    e'.collectionPeriod = period → e'.ilrSubmissionDateTime ≤ e.ilrSubmissionDateTime

/-- The earning is the first row among the latest of its period. -/
def Shown (earnings : List EarningEventModel) (e : EarningEventModel) : Prop :=
  (latestRows earnings e.collectionPeriod).head? = some e

def shownEarnings (earnings : List EarningEventModel) : List EarningEventModel :=
  orderBy byteComparer EarningEventModel.collectionPeriod (latestEarnings earnings)

/-- The entry of a collection period as the one earning kept for it gives it. -/
def entryOf (rows : LearnerRows) (e : EarningEventModel) : WebModel.CollectionPeriod where
  periodName := s!"R0{e.collectionPeriod}"
  priceEpisodes := priceEpisodesOf rows e

section Shown
variable {earnings : List EarningEventModel} {e : EarningEventModel}

theorem mem_latestEarnings : e ∈ latestEarnings earnings ↔ Shown earnings e :=
  mem_latestInGroups

theorem mem_shownEarnings : e ∈ shownEarnings earnings ↔ Shown earnings e := by
  rw [shownEarnings, mem_orderBy, mem_latestEarnings]

theorem Shown.mem (h : Shown earnings e) : e ∈ earnings :=
  List.mem_of_mem_filter (List.mem_of_mem_head? h)

/-- One earning is kept for each period. -/
theorem map_collectionPeriod_latestEarnings :
    (latestEarnings earnings).map EarningEventModel.collectionPeriod =
      distinct (earnings.map EarningEventModel.collectionPeriod) :=
  map_key_latestInGroups

theorem nodup_collectionPeriod_latestEarnings :
    ((latestEarnings earnings).map EarningEventModel.collectionPeriod).Nodup := by
  rw [map_collectionPeriod_latestEarnings]
  exact nodup_distinct _

theorem nodup_collectionPeriod_shownEarnings :
    ((shownEarnings earnings).map EarningEventModel.collectionPeriod).Nodup :=
  ((perm_orderBy _ _ _).map _).nodup_iff.mpr nodup_collectionPeriod_latestEarnings

/-- Every period with earnings is shown, by one of its earnings. -/
theorem exists_shown (he : e ∈ earnings) :
    ∃ e', Shown earnings e' ∧ e'.collectionPeriod = e.collectionPeriod := by
  have hperiod : e.collectionPeriod ∈
      (latestEarnings earnings).map EarningEventModel.collectionPeriod := by
    rw [map_collectionPeriod_latestEarnings, mem_distinct]
    exact List.mem_map_of_mem he
  obtain ⟨e', he', hk⟩ := List.mem_map.mp hperiod
  exact ⟨e', mem_latestEarnings.mp he', hk⟩

theorem collectionPeriods_eq (rows : LearnerRows) :
    collectionPeriods rows = (shownEarnings rows.earnings).map (entryOf rows) := by
  rw [collectionPeriods, groupBy_of_nodup nodup_collectionPeriod_latestEarnings, orderBy_map,
    List.map_map]
  apply List.map_congr_left
  intro e _
  simp only [Function.comp_apply, Grouping.singleton, entryOf, List.flatMap_cons,
    List.flatMap_nil, List.append_nil]

/-- A number that can be read gives the page one entry for each earning shown. -/
theorem onGet_eq {context : PaymentsDataContext} {page : PaymentsLearnerModel}
    {learnerUln : Int64} (hu : longTryParse page.uln = some learnerUln) :
    onGet context page = .ok ((shownEarnings (context.learnerRows learnerUln).earnings).map
      (entryOf (context.learnerRows learnerUln))) := by
  rw [onGet, hu, ← collectionPeriods_eq]

/-- A page that keeps a single earning has a single entry. -/
theorem onGet_eq_singleton {context : PaymentsDataContext} {page : PaymentsLearnerModel}
    {learnerUln : Int64} (hu : longTryParse page.uln = some learnerUln)
    (hshown : shownEarnings (context.learnerRows learnerUln).earnings = [e]) :
    onGet context page = .ok [entryOf (context.learnerRows learnerUln) e] := by
  rw [onGet_eq hu, hshown, List.map_singleton]

end Shown

def identifier118 : Option String := some "25-118-01/08/2019"

/-- An earning of R09 in 2019-20 with a price episode for each identifier. -/
def earningWith (submitted : DateTime) (identifiers : List (Option String)) : EarningEventModel :=
  { CollectionPeriodReport.earningR09 10018916 "ZPROG001" submitted with
    priceEpisodes := identifiers.map fun identifier =>
      { priceEpisodeIdentifier := identifier, startDate := submitted } }

end PaymentsLearnerModel

end IdentifyDataLocks
