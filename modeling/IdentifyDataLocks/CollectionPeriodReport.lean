import IdentifyDataLocks.CollectionPeriodMapping
import IdentifyDataLocks.Evidence

/-! The learner report: the earnings of one provider, one entry for each collection period,
newest first. -/
namespace IdentifyDataLocks
open Calendar Linq

/-- The report's two properties; the entries stand strictly newest first. -/
structure CollectionPeriodReport where
  hasDataLocks : Bool
  collectionPeriods : List CollectionPeriod
  newest_first : collectionPeriods.Pairwise fun a b => b.compareTo a < 0

namespace CollectionPeriodReport

def allEarningsAreForSameProvider (earnings : List EarningEventModel) : Bool :=
  (groupBy (·.ukprn) earnings).length == 1

/-- The lifted comparison `earning.Ukprn == apprenticeship?.Ukprn`: false on null. -/
def includeApprenticeshipPredicate (apprenticeship : Option ApprenticeshipModel)
    (earning : EarningEventModel) : Bool :=
  some earning.ukprn == apprenticeship.map (·.ukprn)

def includeEverythingPredicate (_ : EarningEventModel) : Bool := true

def filterInMainAim (e : EarningEventModel) : Bool := e.learningAimReference == some "ZPROG001"

def filter (activeApprenticeship : Option ApprenticeshipModel)
    (earnings : List EarningEventModel) : List EarningEventModel :=
  let filterProviders :=
    if allEarningsAreForSameProvider earnings then includeEverythingPredicate
    else includeApprenticeshipPredicate activeApprenticeship
  (earnings.filter filterInMainAim).filter filterProviders

/-- Distinct periods leave the comparison of two entries no ties. -/
theorem pairwise_firstInGroups (l : List CollectionPeriod) :
    (orderByDescending CollectionPeriod.comparer id
        (firstInGroups CollectionPeriod.period l)).Pairwise fun a b => b.compareTo a < 0 := by
  have h := pairwise_orderByDescending_lt Period.comparer CollectionPeriod.period
    (firstInGroups CollectionPeriod.period l) (fun _ _ => Period.compareTo_eq_zero.mp)
    (nodup_map_firstInGroups _ _)
  exact h

def build (activeApprenticeship : Option ApprenticeshipModel) (earnings : List EarningEventModel)
    (locks : List DataLockEventModel) : CollectionPeriodReport :=
  let providerEarnings := filter activeApprenticeship earnings
  let firstEarningInPeriods := firstInGroups CollectionPeriod.period
    (providerEarnings.map fun earning => earning.toCollectionPeriod activeApprenticeship locks)
  { hasDataLocks := !locks.isEmpty
    collectionPeriods := orderByDescending CollectionPeriod.comparer id firstEarningInPeriods
    newest_first := pairwise_firstInGroups _ }

def OneProvider (earnings : List EarningEventModel) : Prop :=
  ∀ a ∈ earnings, ∀ b ∈ earnings, a.ukprn = b.ukprn

instance : DecidablePred OneProvider := fun earnings =>
  inferInstanceAs (Decidable (∀ a ∈ earnings, ∀ b ∈ earnings, a.ukprn = b.ukprn))

/-- A main-aim earning that the provider filter keeps. -/
def Retained (app : Option ApprenticeshipModel) (earnings : List EarningEventModel)
    (e : EarningEventModel) : Prop :=
  e ∈ earnings ∧ e.learningAimReference = some "ZPROG001" ∧
    (OneProvider earnings ∨ app.map (·.ukprn) = some e.ukprn)

/-- The first retained row of its period, in the order of the rows. -/
def Representative (app : Option ApprenticeshipModel) (earnings : List EarningEventModel)
    (e : EarningEventModel) : Prop :=
  Retained app earnings e ∧ ∃ before after, earnings = before ++ e :: after ∧
    ∀ e' ∈ before, Retained app earnings e' → e'.period ≠ e.period

variable {app : Option ApprenticeshipModel} {earnings : List EarningEventModel}
  {locks : List DataLockEventModel}

theorem filterInMainAim_iff {e : EarningEventModel} :
    filterInMainAim e = true ↔ e.learningAimReference = some "ZPROG001" := by
  simp [filterInMainAim]

theorem allEarningsAreForSameProvider_iff :
    allEarningsAreForSameProvider earnings = true ↔
      earnings ≠ [] ∧ OneProvider earnings := by
  rw [allEarningsAreForSameProvider, beq_iff_eq, length_groupBy_eq_one]
  exact Iff.rfl

theorem mem_filter {e : EarningEventModel} :
    e ∈ filter app earnings ↔ Retained app earnings e := by
  unfold filter Retained
  simp only [List.mem_filter, filterInMainAim_iff]
  by_cases h : allEarningsAreForSameProvider earnings = true
  · have hall := (allEarningsAreForSameProvider_iff.mp h).2
    simp only [h, if_true, includeEverythingPredicate, and_true]
    exact ⟨fun hmem => ⟨hmem.1, hmem.2, Or.inl hall⟩, fun hmem => ⟨hmem.1, hmem.2.1⟩⟩
  · simp only [h, Bool.false_eq_true, if_false, includeApprenticeshipPredicate, beq_iff_eq]
    constructor
    · intro hkept
      obtain ⟨⟨hm, ha⟩, hu⟩ := hkept
      exact ⟨hm, ha, Or.inr hu.symm⟩
    · intro hretained
      obtain ⟨hm, ha, hkeep⟩ := hretained
      cases hkeep with
      | inl hall =>
        exact absurd (allEarningsAreForSameProvider_iff.mpr ⟨List.ne_nil_of_mem hm, hall⟩) h
      | inr hu => exact ⟨⟨hm, ha⟩, hu.symm⟩

/-- Of the apprenticeship the filter reads the provider only. -/
theorem filter_congr_ukprn {app' : Option ApprenticeshipModel}
    (h : app.map (·.ukprn) = app'.map (·.ukprn)) : filter app earnings = filter app' earnings := by
  have hpredicate : includeApprenticeshipPredicate app = includeApprenticeshipPredicate app' := by
    funext e
    rw [includeApprenticeshipPredicate, includeApprenticeshipPredicate, h]
  rw [filter, filter, hpredicate]

theorem retained_congr {app' : Option ApprenticeshipModel}
    (h : app.map (·.ukprn) = app'.map (·.ukprn)) {e : EarningEventModel} :
    Retained app earnings e ↔ Retained app' earnings e := by
  rw [Retained, Retained, h]

/-- The filter keeps the order of the rows, so its first row of a period is the first
retained row of that period. -/
theorem find_filter_eq_some {e : EarningEventModel} :
    (filter app earnings).find? (fun e' => e'.period = e.period) = some e ↔
      Representative app earnings e := by
  have hfilter : filter app earnings = earnings.filter fun e' => e' ∈ filter app earnings := by
    conv_lhs => unfold filter
    rw [List.filter_filter]
    apply List.filter_congr
    intro e' he'
    rw [Bool.eq_iff_iff, decide_eq_true_eq]
    simp [filter, he', and_comm]
  rw [hfilter, List.find?_filter, List.find?_eq_some_iff_append]
  simp only [decide_eq_true_eq, mem_filter, Representative, Bool.not_eq_true',
    decide_eq_false_iff_not, not_and]
  exact and_congr_left fun _ => and_iff_left trivial

theorem mem_collectionPeriods {c : CollectionPeriod} :
    c ∈ (build app earnings locks).collectionPeriods ↔
      ∃ e, Representative app earnings e ∧ e.toCollectionPeriod app locks = c := by
  simp only [build, mem_orderByDescending, mem_firstInGroups, List.find?_map,
    Option.map_eq_some_iff]
  apply exists_congr
  intro e
  apply and_congr_left
  intro he
  subst he
  exact find_filter_eq_some

/-- The entries show the apprenticeship by its data match only. -/
theorem collectionPeriods_congr {app' : Option ApprenticeshipModel}
    (hukprn : app.map (·.ukprn) = app'.map (·.ukprn))
    (hmatch : app.map (·.toDataMatch) = app'.map (·.toDataMatch)) :
    (build app earnings locks).collectionPeriods = (build app' earnings locks).collectionPeriods := by
  have hmap : (fun e : EarningEventModel => e.toCollectionPeriod app locks) =
      fun e => e.toCollectionPeriod app' locks := by
    funext e
    rw [EarningEventModel.toCollectionPeriod, EarningEventModel.toCollectionPeriod, hmatch]
  simp only [build, filter_congr_ukprn hukprn, hmap]

theorem exists_representative {e : EarningEventModel} (he : Retained app earnings e) :
    ∃ e', Representative app earnings e' ∧ e'.period = e.period := by
  have hsome : ((filter app earnings).find? fun e' => e'.period = e.period).isSome := by
    rw [List.find?_isSome]
    exact ⟨e, mem_filter.mpr he, by simp⟩
  obtain ⟨e', he'⟩ := Option.isSome_iff_exists.mp hsome
  have hp : e'.period = e.period := by simpa using List.find?_some he'
  exact ⟨e', find_filter_eq_some.mp (by rwa [hp]), hp⟩

/-- Every retained row is shown under its period, and every entry shows a retained row. -/
theorem exists_entry_iff {p : Period} :
    (∃ c ∈ (build app earnings locks).collectionPeriods, c.period = p) ↔
      ∃ e, Retained app earnings e ∧ e.period = p := by
  simp only [mem_collectionPeriods]
  constructor
  · intro h
    obtain ⟨c, ⟨e, he, rfl⟩, rfl⟩ := h
    exact ⟨e, he.1, rfl⟩
  · intro h
    obtain ⟨e, he, rfl⟩ := h
    obtain ⟨e', he', hp⟩ := exists_representative he
    exact ⟨_, ⟨e', he', rfl⟩, hp⟩

theorem collectionPeriods_eq_nil :
    (build app earnings locks).collectionPeriods = [] ↔ ∀ e, ¬ Retained app earnings e := by
  constructor
  · intro h e he
    obtain ⟨c, hc, -⟩ : ∃ c ∈ (build app earnings locks).collectionPeriods, c.period = e.period :=
      exists_entry_iff.mpr ⟨e, he, rfl⟩
    simp [h] at hc
  · intro h
    rw [List.eq_nil_iff_forall_not_mem]
    intro c hc
    obtain ⟨e, he, -⟩ := mem_collectionPeriods.mp hc
    exact h e he.1

theorem nodup_periods (r : CollectionPeriodReport) :
    (r.collectionPeriods.map (·.period)).Nodup := by
  rw [List.Nodup, List.pairwise_map]
  refine r.newest_first.imp fun {a b} hlt (hp : a.period = b.period) => ?_
  exact (Period.compareTo_neg.mp hlt).ne hp.symm

/-! The view of a report: all providers while the earnings name one, otherwise the
apprenticeship's. -/

def providers (earnings : List EarningEventModel) : Set Int64 := {u | ∃ e ∈ earnings, e.ukprn = u}

def view (app : Option ApprenticeshipModel) (earnings : List EarningEventModel) : Set Int64 :=
  Evidence.viewOf (providers earnings) (app.map (·.ukprn))

/-- Main-aim earnings as submissions, lock rows with a failure as failures. -/
def evidence (earnings : List EarningEventModel) (locks : List DataLockEventModel) :
    Evidence Int64 Period DataLock where
  submitted := {s | ∃ e ∈ earnings, filterInMainAim e ∧ (e.ukprn, e.period) = s}
  failed := {s | ∃ l ∈ locks, (l.ukprn, l.period) = (s.1, s.2.1) ∧ l.FailsWith s.2.2}

theorem providers_subsingleton : (providers earnings).Subsingleton ↔ OneProvider earnings := by
  constructor
  · intro h a ha b hb
    exact h ⟨a, ha, rfl⟩ ⟨b, hb, rfl⟩
  · intro h u hu w hw
    obtain ⟨a, ha, rfl⟩ := hu
    obtain ⟨b, hb, rfl⟩ := hw
    exact h a ha b hb

theorem retained_iff {e : EarningEventModel} :
    Retained app earnings e ↔
      e ∈ earnings ∧ filterInMainAim e = true ∧ e.ukprn ∈ view app earnings := by
  rw [Retained, filterInMainAim_iff, view, Evidence.viewOf, Set.mem_ofPred_eq,
    providers_subsingleton]

theorem submitted_mem_providers {u : Int64} {p : Period}
    (h : (u, p) ∈ (evidence earnings locks).submitted) : u ∈ providers earnings := by
  obtain ⟨e, he, -, hs⟩ := h
  exact ⟨e, he, congrArg Prod.fst hs⟩

/-- The periods of the report are those of its view. -/
theorem periods_refine :
    {p | ∃ c ∈ (build app earnings locks).collectionPeriods, c.period = p} =
      (evidence earnings locks).periods (view app earnings) := by
  ext p
  rw [Set.mem_ofPred_eq, exists_entry_iff]
  constructor
  · intro h
    obtain ⟨e, he, rfl⟩ := h
    obtain ⟨hm, ha, hv⟩ := retained_iff.mp he
    exact ⟨e.ukprn, hv, e, hm, ha, rfl⟩
  · intro hperiod
    obtain ⟨u, hv, e, hm, ha, hs⟩ := hperiod
    obtain ⟨rfl, rfl⟩ := Prod.mk.inj hs
    exact ⟨e, retained_iff.mpr ⟨hm, ha, hv⟩, rfl⟩

theorem codes_refine {e : EarningEventModel} (he : Retained app earnings e) :
    {d | d ∈ EarningEventModel.toDataLocks locks e} =
      (evidence earnings locks).codes (view app earnings) e.period := by
  obtain ⟨hm, ha, hv⟩ := retained_iff.mp he
  have hcodes := Evidence.codes_eq_of_subsingleton (evidence earnings locks)
    (fun _ _ => submitted_mem_providers)
    (Evidence.inter_viewOf_subsingleton _ (app.map (·.ukprn))) hv ⟨e, hm, ha, rfl⟩
  rw [view, hcodes]
  ext d
  rw [Set.mem_ofPred_eq, EarningEventModel.mem_toDataLocks]
  simp only [evidence, Set.mem_ofPred_eq, Prod.mk.injEq, DataLockEventModel.concerns_iff]

theorem codes_entry {c : CollectionPeriod}
    (hc : c ∈ (build app earnings locks).collectionPeriods) :
    {d | d ∈ c.dataLocks} = (evidence earnings locks).codes (view app earnings) c.period := by
  obtain ⟨e, he, rfl⟩ := mem_collectionPeriods.mp hc
  exact codes_refine he.1

/-- The report is an index of the retained earnings: strictly newest first, one entry for
each of their periods and no other, each showing a retained earning of its period. -/
theorem report_is_index (app : Option ApprenticeshipModel) (earnings : List EarningEventModel)
    (locks : List DataLockEventModel) :
    ((build app earnings locks).collectionPeriods.Pairwise
        fun a b => 0 < a.period.compareTo b.period) ∧
      ((build app earnings locks).collectionPeriods.map (·.period)).Nodup ∧
      (∀ y m : ℤ,
        (∃ c ∈ (build app earnings locks).collectionPeriods, c.period = ⟨y, m⟩) ↔
          ∃ e ∈ earnings, e.academicYear.toInt = y ∧ (e.collectionPeriod.toNat : ℤ) = m ∧
            e.learningAimReference = some "ZPROG001" ∧
            ((∀ a ∈ earnings, ∀ b ∈ earnings, a.ukprn = b.ukprn) ∨
              app.map (·.ukprn) = some e.ukprn)) ∧
      ∀ c ∈ (build app earnings locks).collectionPeriods,
        ∃ e, Retained app earnings e ∧ e.period = c.period ∧ c.ilr = e.toDataMatch := by
  refine ⟨?_, nodup_periods _, fun y m => ?_, fun c hc => ?_⟩
  · refine (build app earnings locks).newest_first.imp fun {a b} hlt => ?_
    exact Period.compareTo_pos.mpr (Period.compareTo_neg.mp hlt)
  · rw [exists_entry_iff]
    apply exists_congr
    intro e
    rw [Retained, EarningEventModel.period, Period.mk.injEq]
    constructor
    · intro h
      obtain ⟨⟨hm, ha, hu⟩, hy, hmo⟩ := h
      exact ⟨hm, hy, hmo, ha, hu⟩
    · intro h
      obtain ⟨hm, hy, hmo, ha, hu⟩ := h
      exact ⟨⟨hm, ha, hu⟩, hy, hmo⟩
  · obtain ⟨e, he, rfl⟩ := mem_collectionPeriods.mp hc
    exact ⟨e, he.1, rfl, rfl⟩

/-- One retained row stands for all retained rows of its period: they have one provider. -/
theorem toDataLocks_eq_of_period {e e' : EarningEventModel} (he : Retained app earnings e)
    (he' : Retained app earnings e') (hp : e.period = e'.period) :
    EarningEventModel.toDataLocks locks e = EarningEventModel.toDataLocks locks e' := by
  apply EarningEventModel.toDataLocks_ext
  intro d
  have h : {d | d ∈ EarningEventModel.toDataLocks locks e} =
      {d | d ∈ EarningEventModel.toDataLocks locks e'} := by
    rw [codes_refine he, codes_refine he', hp]
  exact Set.ext_iff.mp h d

theorem toCollectionPeriod_congr {locks' : List DataLockEventModel}
    (h : ∀ l, l ∈ locks ↔ l ∈ locks') (e : EarningEventModel) :
    e.toCollectionPeriod app locks = e.toCollectionPeriod app locks' := by
  have hd : EarningEventModel.toDataLocks locks e = EarningEventModel.toDataLocks locks' e :=
    EarningEventModel.toDataLocks_ext fun d => by
      simp only [EarningEventModel.mem_toDataLocks, h]
  rw [EarningEventModel.toCollectionPeriod, EarningEventModel.toCollectionPeriod, hd]

/-- The codes of an entry are exactly those of every retained row of its period, sorted
and without duplicates, whatever the order and the repetition of the lock rows. -/
theorem entry_dataLocks_exact (app : Option ApprenticeshipModel)
    (earnings : List EarningEventModel) (locks : List DataLockEventModel) :
    (∀ c ∈ (build app earnings locks).collectionPeriods,
        ∀ e, Retained app earnings e → e.period = c.period →
          c.dataLocks.Pairwise (· < ·) ∧
          ∀ d, d ∈ c.dataLocks ↔
            ∃ l ∈ locks, (l.ukprn = e.ukprn ∧ l.academicYear = e.academicYear ∧
                l.collectionPeriod = e.collectionPeriod) ∧
              ∃ npp ∈ l.nonPayablePeriods, ∃ f ∈ npp.dataLockEventNonPayablePeriodFailures,
                d.value = f.dataLockFailure.value.toNat) ∧
      ∀ locks' : List DataLockEventModel, (∀ l, l ∈ locks ↔ l ∈ locks') →
        (build app earnings locks).collectionPeriods =
          (build app earnings locks').collectionPeriods := by
  refine ⟨fun c hc e he hp => ?_, fun locks' h => ?_⟩
  · obtain ⟨e₀, he₀, rfl⟩ := mem_collectionPeriods.mp hc
    refine ⟨EarningEventModel.pairwise_toDataLocks locks e₀, fun d => ?_⟩
    have hd : (e₀.toCollectionPeriod app locks).dataLocks = EarningEventModel.toDataLocks locks e :=
      toDataLocks_eq_of_period he₀.1 he hp.symm
    rw [hd, EarningEventModel.mem_toDataLocks]
    rfl
  · have hmap : (fun e : EarningEventModel => e.toCollectionPeriod app locks) =
        fun e => e.toCollectionPeriod app locks' := funext (toCollectionPeriod_congr h)
    simp only [build, hmap]

def ShowsLatestSubmission (app : Option ApprenticeshipModel) (earnings : List EarningEventModel)
    (locks : List DataLockEventModel) : Prop :=
  ∀ c ∈ (build app earnings locks).collectionPeriods,
    (∃ e, Retained app earnings e ∧ e.period = c.period ∧ c.ilr = e.toDataMatch) ∧
      ∀ e, Retained app earnings e → e.period = c.period →
        e.ilrSubmissionDateTime ≤ c.ilr.ilrSubmissionDate

/-- The report takes the first row of a period, so it shows the latest submission exactly
when the rows arrive with a latest submission first in every period. -/
theorem showsLatestSubmission_iff (app : Option ApprenticeshipModel)
    (earnings : List EarningEventModel) (locks : List DataLockEventModel) :
    ShowsLatestSubmission app earnings locks ↔
      ∀ e₀, Representative app earnings e₀ →
        ∀ e, Retained app earnings e → e.period = e₀.period →
          e.ilrSubmissionDateTime ≤ e₀.ilrSubmissionDateTime := by
  constructor
  · intro h e₀ he₀ e he hp
    have hc : e₀.toCollectionPeriod app locks ∈ (build app earnings locks).collectionPeriods :=
      mem_collectionPeriods.mpr ⟨e₀, he₀, rfl⟩
    exact (h _ hc).2 e he hp
  · intro h c hc
    obtain ⟨e₀, he₀, rfl⟩ := mem_collectionPeriods.mp hc
    exact ⟨⟨e₀, he₀.1, rfl, rfl⟩, fun e he hp => h e₀ he₀ e he hp⟩

def earningR09 (ukprn : Int64) (aim : String) (submitted : DateTime) : EarningEventModel where
  ukprn := ukprn
  academicYear := 1920
  collectionPeriod := 9
  learnerUln := 1003528448
  learningAimReference := some aim
  ilrSubmissionDateTime := submitted

def may6 : DateTime := .midnight 2020 5 6 (by decide)
def may7 : DateTime := .midnight 2020 5 7 (by decide)

/-- A resubmission behind the first submission of its period is not shown. -/
theorem stale_submission_shown :
    ¬ ShowsLatestSubmission none
      [earningR09 10018916 "ZPROG001" may6, earningR09 10018916 "ZPROG001" may7] [] := by
  intro h
  have hentry : (earningR09 10018916 "ZPROG001" may6).toCollectionPeriod none [] ∈
      (build none [earningR09 10018916 "ZPROG001" may6, earningR09 10018916 "ZPROG001" may7]
        []).collectionPeriods := by
    refine mem_collectionPeriods.mpr ⟨_, ⟨⟨by simp, rfl, Or.inl (by decide)⟩, [],
      [earningR09 10018916 "ZPROG001" may7], rfl, ?_⟩, rfl⟩
    simp
  have hle := (h _ hentry).2 (earningR09 10018916 "ZPROG001" may7)
    ⟨by simp, rfl, Or.inl (by decide)⟩ rfl
  exact absurd hle (by decide)

end CollectionPeriodReport

end IdentifyDataLocks
