import IdentifyDataLocks.PaymentTotals

/-! The academic years on the payments page, whose entries are keyed by the number of the
collection period alone while the queries fetch every year. -/
namespace IdentifyDataLocks
open CollectionPeriodReport (may6)
open Linq WebModel

namespace PaymentsLearnerModel

/-- A data lock of the page has no period; the locks of a commitment are made from the failures
one by one, so each is read beside the failure it is made from. -/
structure Attached (rows : LearnerRows) (e : EarningEventModel) (c : Commitment) : Prop where
  payments : ∀ y ∈ c.payments, y.collectionPeriod = ⟨e.academicYear, e.collectionPeriod⟩
  dataLocked : ∀ y ∈ c.dataLocked.zip (failuresOf e rows.lockedCommitments),
    y.2.event.period = e.period

/-- One entry for each year and period of the earnings, and under it only rows of both. -/
structure NeverMixesYears (rows : LearnerRows) : Prop where
  nodup : ((shownEarnings rows.earnings).map (·.period)).Nodup
  covers : ∀ e ∈ rows.earnings, e.period ∈ (shownEarnings rows.earnings).map (·.period)
  attached : ∀ e ∈ shownEarnings rows.earnings, ∀ episode ∈ (entryOf rows e).priceEpisodes,
    ∀ c ∈ episode.commitments, Attached rows e c

/-- The rows that the period number and an identifier join to the earning are of its year. -/
structure RowsOfYear (rows : LearnerRows) (e : EarningEventModel) : Prop where
  payments : ∀ episode ∈ e.priceEpisodes, ∀ y ∈ rows.paidCommitments,
    y.priceEpisodeIdentifier = episode.priceEpisodeIdentifier →
      y.collectionPeriod.period = e.collectionPeriod →
        y.collectionPeriod.academicYear = e.academicYear
  locks : e.priceEpisodes ≠ [] → ∀ l ∈ rows.lockedCommitments,
    l.collectionPeriod = e.collectionPeriod →
      (∃ y ∈ l.nonPayablePeriods, y.dataLockEventNonPayablePeriodFailures ≠ []) →
        l.academicYear = e.academicYear

section Years
variable {rows : LearnerRows} {e : EarningEventModel}

theorem period_eq_iff {e e' : EarningEventModel} : e.period = e'.period ↔
    e.academicYear = e'.academicYear ∧ e.collectionPeriod = e'.collectionPeriod := by
  simp [EarningEventModel.period, Int16.toInt_inj, UInt8.toNat_inj]

theorem lock_period_eq_iff {l : DataLockEventModel} : l.period = e.period ↔
    l.academicYear = e.academicYear ∧ l.collectionPeriod = e.collectionPeriod := by
  simp [DataLockEventModel.period, EarningEventModel.period, Int16.toInt_inj, UInt8.toNat_inj]

/-- Entries differ in the number of their period, so no pair has two of them. -/
theorem nodup_period_shownEarnings (earnings : List EarningEventModel) :
    ((shownEarnings earnings).map (·.period)).Nodup := by
  have hperiods : ((shownEarnings earnings).map EarningEventModel.collectionPeriod).Nodup :=
    nodup_collectionPeriod_shownEarnings
  rw [List.Nodup, List.pairwise_map] at hperiods ⊢
  exact hperiods.imp fun hne heq => hne (period_eq_iff.mp heq).2

/-- Every pair has an entry exactly when the number of a period determines its year. -/
theorem covers_iff {earnings : List EarningEventModel} :
    (∀ e ∈ earnings, e.period ∈ (shownEarnings earnings).map (·.period)) ↔
      ∀ e ∈ earnings, ∀ e' ∈ earnings, e.collectionPeriod = e'.collectionPeriod →
        e.academicYear = e'.academicYear := by
  constructor
  · intro h e he e' he' hk
    obtain ⟨s, hs, hse⟩ := List.mem_map.mp (h e he)
    obtain ⟨s', hs', hse'⟩ := List.mem_map.mp (h e' he')
    have hse := period_eq_iff.mp hse
    have hse' := period_eq_iff.mp hse'
    have hsame : s = s' := List.inj_on_of_nodup_map nodup_collectionPeriod_shownEarnings hs hs'
      (hse.2.trans (hk.trans hse'.2.symm))
    rw [← hse.1, hsame, hse'.1]
  · intro h e he
    obtain ⟨s, hs, hk⟩ := exists_shown he
    refine List.mem_map.mpr ⟨s, mem_shownEarnings.mpr hs, period_eq_iff.mpr ⟨?_, hk⟩⟩
    exact h s hs.mem e he hk

/-- The failures of the period all come from events of the year of the earning. -/
theorem failuresOf_period_iff {locks : List DataLockEventModel} :
    (∀ y ∈ failuresOf e locks, y.event.period = e.period) ↔
      ∀ l ∈ locks, l.collectionPeriod = e.collectionPeriod →
        (∃ y ∈ l.nonPayablePeriods, y.dataLockEventNonPayablePeriodFailures ≠ []) →
          l.academicYear = e.academicYear := by
  constructor
  · intro h l hl hk hfails
    obtain ⟨y, hy, hnil⟩ := hfails
    obtain ⟨failure, hf⟩ := List.exists_mem_of_ne_nil _ hnil
    have hmem : ⟨l, y, failure⟩ ∈ failuresOf e locks := by
      simp only [failuresOf, List.mem_flatMap, List.mem_filter, List.mem_map, decide_eq_true_eq]
      exact ⟨l, ⟨hl, hk⟩, y, hy, failure, hf, rfl⟩
    exact (lock_period_eq_iff.mp (h _ hmem)).1
  · intro h y hy
    simp only [failuresOf, List.mem_flatMap, List.mem_filter, List.mem_map,
      decide_eq_true_eq] at hy
    obtain ⟨l, ⟨hl, hk⟩, period, hperiod, failure, hf, rfl⟩ := hy
    exact lock_period_eq_iff.mpr
      ⟨h l hl hk ⟨period, hperiod, List.ne_nil_of_mem hf⟩, hk⟩

theorem attached_toCommitment_iff {episode : EarningEventPriceEpisodeModel}
    {c : ApprenticeshipModel} {x : ApprenticeshipPriceEpisodeModel} :
    Attached rows e (toCommitment e (paymentsOf e episode rows.paidCommitments)
        (failuresOf e rows.lockedCommitments) c x) ↔
      (∀ y ∈ paymentsOf e episode rows.paidCommitments,
        y.collectionPeriod = ⟨e.academicYear, e.collectionPeriod⟩) ∧
      ∀ y ∈ failuresOf e rows.lockedCommitments, y.event.period = e.period := by
  have hpayments : (∀ y ∈ create toPayment 0 (paymentsOf e episode rows.paidCommitments),
      y.collectionPeriod = ⟨e.academicYear, e.collectionPeriod⟩) ↔
        ∀ y ∈ paymentsOf e episode rows.paidCommitments,
          y.collectionPeriod = ⟨e.academicYear, e.collectionPeriod⟩ :=
    forall_mem_create (by intros; rfl) 0 _
  have hlocks : ∀ n, (∀ y ∈ (create toDataLock n (failuresOf e rows.lockedCommitments)).zip
      (failuresOf e rows.lockedCommitments), y.2.event.period = e.period) ↔
        ∀ y ∈ failuresOf e rows.lockedCommitments, y.event.period = e.period := by
    intro n
    have hsnd := map_snd_zip_create toDataLock n (failuresOf e rows.lockedCommitments)
    conv_rhs => rw [← hsnd, List.forall_mem_map]
  rw [← hpayments, ← hlocks]
  constructor
  · intro h
    exact ⟨h.payments, h.dataLocked⟩
  · intro h
    exact ⟨h.1, h.2⟩

theorem paymentsOf_period_iff {episode : EarningEventPriceEpisodeModel}
    {payments : List PaymentModel} :
    (∀ y ∈ paymentsOf e episode payments,
        y.collectionPeriod = ⟨e.academicYear, e.collectionPeriod⟩) ↔
      ∀ y ∈ payments, y.priceEpisodeIdentifier = episode.priceEpisodeIdentifier →
        y.collectionPeriod.period = e.collectionPeriod →
          y.collectionPeriod.academicYear = e.academicYear := by
  simp only [paymentsOf, List.mem_filter, decide_eq_true_eq, and_imp]
  constructor
  · intro h y hy hid hk
    rw [h y hy hid hk]
  · intro h y hy hid hk
    exact PaymentsModel.CollectionPeriod.ext (h y hy hid hk) hk

/-- Every apprenticeship price episode gives a commitment, and nothing else does. -/
theorem forall_commitments_iff {episode : EarningEventPriceEpisodeModel} {P : Commitment → Prop}
    {Q : Prop} (h : ∀ c x, P (toCommitment e (paymentsOf e episode rows.paidCommitments)
      (failuresOf e rows.lockedCommitments) c x) ↔ Q) :
    (∀ c ∈ (mapPriceEpisode e episode rows.paidCommitments rows.lockedCommitments
      rows.apprenticeships).commitments, P c) ↔ (rows.ape ≠ [] → Q) := by
  simp only [mapPriceEpisode, LearnerRows.ape, List.mem_flatMap, List.mem_map, ne_eq,
    List.flatMap_eq_nil_iff, not_forall]
  constructor
  · intro hall hape
    obtain ⟨c, hc, hnil⟩ := hape
    obtain ⟨x, hx⟩ := List.exists_mem_of_ne_nil _ hnil
    exact (h c x).mp (hall _ ⟨c, hc, x, hx, rfl⟩)
  · intro hq c' hc'
    obtain ⟨c, hc, x, hx, rfl⟩ := hc'
    exact (h c x).mpr (hq ⟨c, hc, List.ne_nil_of_mem hx⟩)

theorem attached_entryOf_iff :
    (∀ episode ∈ (entryOf rows e).priceEpisodes, ∀ c ∈ episode.commitments, Attached rows e c) ↔
      (rows.ape ≠ [] → RowsOfYear rows e) := by
  have hepisode : ∀ episode, (∀ c ∈ (mapPriceEpisode e episode rows.paidCommitments
      rows.lockedCommitments rows.apprenticeships).commitments, Attached rows e c) ↔
        (rows.ape ≠ [] → (∀ y ∈ paymentsOf e episode rows.paidCommitments,
            y.collectionPeriod = ⟨e.academicYear, e.collectionPeriod⟩) ∧
          ∀ y ∈ failuresOf e rows.lockedCommitments, y.event.period = e.period) :=
    fun episode => forall_commitments_iff fun _ _ => attached_toCommitment_iff
  simp only [entryOf, priceEpisodesOf, List.forall_mem_map, hepisode, paymentsOf_period_iff,
    failuresOf_period_iff]
  constructor
  · intro h hape
    refine ⟨fun episode hmem => (h episode hmem hape).1, fun hnil => ?_⟩
    obtain ⟨episode, hmem⟩ := List.exists_mem_of_ne_nil _ hnil
    exact (h episode hmem hape).2
  · intro h episode hmem hape
    exact ⟨(h hape).payments episode hmem, (h hape).locks (List.ne_nil_of_mem hmem)⟩

theorem neverMixesYears_iff : NeverMixesYears rows ↔
    (∀ e ∈ rows.earnings, ∀ e' ∈ rows.earnings, e.collectionPeriod = e'.collectionPeriod →
      e.academicYear = e'.academicYear) ∧
    (rows.ape ≠ [] → ∀ e, Shown rows.earnings e → RowsOfYear rows e) := by
  have hattached : (∀ e ∈ shownEarnings rows.earnings, ∀ episode ∈ (entryOf rows e).priceEpisodes,
      ∀ c ∈ episode.commitments, Attached rows e c) ↔
        (rows.ape ≠ [] → ∀ e, Shown rows.earnings e → RowsOfYear rows e) := by
    simp only [mem_shownEarnings, attached_entryOf_iff]
    exact ⟨fun h hape e he => h e he hape, fun h e he hape => h hape e he⟩
  rw [← covers_iff, ← hattached]
  constructor
  · intro h
    exact ⟨h.covers, h.attached⟩
  · intro h
    exact ⟨nodup_period_shownEarnings _, h.1, h.2⟩

end Years

/-- Years stay apart on the page exactly when no period number occurs in the earnings of two
years, and either there is no commitment to show rows under or the numbers and identifiers
join each earning shown only to rows of its year. -/
theorem neverMixesYears_onGet_iff (context : PaymentsDataContext) (page : PaymentsLearnerModel)
    (learnerUln : Int64) (hu : longTryParse page.uln = some learnerUln) :
    onGet context page = .ok ((shownEarnings (context.learnerRows learnerUln).earnings).map
        (entryOf (context.learnerRows learnerUln))) ∧
      (NeverMixesYears (context.learnerRows learnerUln) ↔
        (∀ e ∈ (context.learnerRows learnerUln).earnings,
          ∀ e' ∈ (context.learnerRows learnerUln).earnings,
            e.collectionPeriod = e'.collectionPeriod → e.academicYear = e'.academicYear) ∧
        ((context.learnerRows learnerUln).ape ≠ [] →
          ∀ e, Shown (context.learnerRows learnerUln).earnings e →
            RowsOfYear (context.learnerRows learnerUln) e)) :=
  ⟨onGet_eq hu, neverMixesYears_iff⟩

/-- A payment and a data lock of the one earning, all three in 2019-20. -/
theorem neverMixesYears_onGet_one_year :
    NeverMixesYears (lockedRows [{ startDate := may6 }]) := by
  have hyears := neverMixesYears_onGet_iff (lockedContext [{ startDate := may6 }])
    ⟨some "1003528448"⟩ 1003528448 longTryParse_1003528448
  have hearnings : (lockedRows [{ startDate := may6 }]).earnings =
      [earningWith may6 [identifier118]] := by decide
  have hpayments : ∀ y ∈ (lockedRows [{ startDate := may6 }]).paidCommitments,
      y.collectionPeriod.academicYear = 1920 := by decide
  have hlocks : ∀ l ∈ (lockedRows [{ startDate := may6 }]).lockedCommitments,
      l.academicYear = 1920 := by decide
  refine hyears.2.mpr ⟨by decide, fun _ e he => ?_⟩
  have hmem : e ∈ [earningWith may6 [identifier118]] := hearnings ▸ he.mem
  rw [List.mem_singleton.mp hmem]
  exact ⟨fun _ _ y hy _ _ => hpayments y hy, fun _ l hl _ _ => hlocks l hl⟩

/-- R09 of 2019-20 and, a year later, R09 of 2020-21. -/
def twoYears : PaymentsDataContext where
  earningEvent :=
    [earningWith may6 [identifier118],
     { earningWith (.midnight 2021 5 6 (by decide)) [identifier118] with academicYear := 2021 }]

/-- The two share an entry, and it shows the later year. -/
theorem years_share_one_entry :
    ∃ entry, onGet twoYears ⟨some "1003528448"⟩ = .ok [entry] ∧
      ¬ NeverMixesYears (twoYears.learnerRows 1003528448) := by
  have hshown : (shownEarnings (twoYears.learnerRows 1003528448).earnings).map (·.academicYear) =
      [2021] := by decide
  obtain ⟨e, he, -⟩ := List.map_eq_singleton_iff.mp hshown
  refine ⟨entryOf (twoYears.learnerRows 1003528448) e,
    onGet_eq_singleton longTryParse_1003528448 he, fun h => ?_⟩
  have hearlier := h.covers (earningWith may6 [identifier118]) List.mem_cons_self
  exact absurd hearlier (by decide)

end PaymentsLearnerModel

end IdentifyDataLocks
