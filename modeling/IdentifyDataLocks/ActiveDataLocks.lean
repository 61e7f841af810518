import IdentifyDataLocks.LearnerRequest
import IdentifyDataLocks.ProviderFilter

/-! The two flags of the report against what the page shows: whether there are data locks, and
whether another provider's submissions are left out. -/
namespace IdentifyDataLocks
open Calendar Linq Fallible CollectionPeriodReport

namespace LearnerModel

variable {timeProvider : ITimeProvider} {page : LearnerModel} {blocks : List Block} {s s' : Reads}

theorem dataLockLinks_eq_nil {culture : Comparer String} :
    page.dataLockLinks culture = [] ↔
      ∀ c ∈ page.currentYearDataLocks ++ page.previousYearDataLocks, c.dataLocks = [] := by
  have hperm := perm_orderBy culture DataLockHelpCentreLink.name
    ((distinct ((page.currentYearDataLocks ++ page.previousYearDataLocks).flatMap
      (·.dataLocks))).map DataLockHelpCentreLink.create)
  rw [dataLockLinks, ← List.length_eq_zero_iff, hperm.length_eq, List.length_eq_zero_iff,
    List.map_eq_nil_iff, distinct_eq_nil, List.flatMap_eq_nil_iff]

theorem noActiveDataLocks_mem_iff
    (h : (activeDataLocks timeProvider page).run s = .ok (blocks, s')) :
    noActiveDataLocks ∈ blocks ↔ page.hasDataLocks = false := by
  cases hf : page.hasDataLocks with
  | false =>
    obtain ⟨rfl, -⟩ := (run_activeDataLocks_of_hidden hf).mp h
    simp
  | true =>
    obtain ⟨h₁, h₂, -, -, rfl, -⟩ := (run_activeDataLocks_of_shown hf).mp h
    simp [mem_notice]

theorem currentProviderOnly_mem_iff
    (h : (activeDataLocks timeProvider page).run s = .ok (blocks, s')) :
    currentProviderOnly ∈ blocks ↔ page.hasMultipleProviders = true := by
  cases hf : page.hasDataLocks with
  | false =>
    obtain ⟨rfl, -⟩ := (run_activeDataLocks_of_hidden hf).mp h
    simp [mem_notice, noActiveDataLocks_ne.symm]
  | true =>
    obtain ⟨h₁, h₂, -, -, rfl, -⟩ := (run_activeDataLocks_of_shown hf).mp h
    simp [mem_notice]

end LearnerModel

namespace CollectionPeriodReport

variable {app : Option ApprenticeshipModel} {earnings : List EarningEventModel}
  {locks : List DataLockEventModel}

/-- An entry shows a data lock exactly when a failing lock row concerns a retained earning. -/
theorem exists_entry_dataLocks :
    (∃ c ∈ (build app earnings locks).collectionPeriods, c.dataLocks ≠ []) ↔
      ∃ e, Retained app earnings e ∧ ∃ l ∈ locks, l.Concerns e ∧ ∃ d, l.FailsWith d := by
  constructor
  · intro h
    obtain ⟨c, hc, hne⟩ := h
    obtain ⟨e, he, rfl⟩ := mem_collectionPeriods.mp hc
    obtain ⟨d, hd⟩ := List.exists_mem_of_ne_nil _ hne
    obtain ⟨l, hl, hconcerns, hfails⟩ := EarningEventModel.mem_toDataLocks.mp hd
    exact ⟨e, he.1, l, hl, hconcerns, d, hfails⟩
  · intro h
    obtain ⟨e, he, l, hl, hconcerns, d, hfails⟩ := h
    obtain ⟨e₀, he₀, hp⟩ := exists_representative he
    refine ⟨_, mem_collectionPeriods.mpr ⟨e₀, he₀, rfl⟩, List.ne_nil_of_mem (a := d) ?_⟩
    change d ∈ EarningEventModel.toDataLocks locks e₀
    rw [toDataLocks_eq_of_period he₀.1 he hp]
    exact EarningEventModel.mem_toDataLocks.mpr ⟨l, hl, hconcerns, hfails⟩

/-- The flag counts lock rows where the entries and the links count failures, so it agrees
with them exactly when no lock row was fetched or one shows a failure of a retained earning.
The message about no active data locks follows the flag. -/
theorem hasDataLocks_agrees_iff (app : Option ApprenticeshipModel)
    (earnings : List EarningEventModel) (locks : List DataLockEventModel) :
    (((build app earnings locks).hasDataLocks = true ↔
        ∃ c ∈ (build app earnings locks).collectionPeriods, c.dataLocks ≠ []) ↔
      locks = [] ∨
        ∃ e, Retained app earnings e ∧ ∃ l ∈ locks, l.Concerns e ∧ ∃ d, l.FailsWith d) ∧
    ∀ page : LearnerModel, page.hasDataLocks = (build app earnings locks).hasDataLocks →
      page.currentYearDataLocks ++ page.previousYearDataLocks =
        (build app earnings locks).collectionPeriods →
      (∀ culture, page.dataLockLinks culture ≠ [] ↔
        ∃ c ∈ (build app earnings locks).collectionPeriods, c.dataLocks ≠ []) ∧
      ∀ timeProvider s blocks s',
        (LearnerModel.activeDataLocks timeProvider page).run s = .ok (blocks, s') →
          (noActiveDataLocks ∈ blocks ↔
            (build app earnings locks).hasDataLocks = false) := by
  refine ⟨?_, fun page hflag hyears => ⟨fun culture => ?_, fun timeProvider s blocks s' h => ?_⟩⟩
  · rw [exists_entry_dataLocks]
    cases locks with
    | nil => simp [build]
    | cons l locks => simp [build]
  · rw [Ne, LearnerModel.dataLockLinks_eq_nil, hyears]
    push Not
    exact Iff.rfl
  · rw [← hflag]
    exact LearnerModel.noActiveDataLocks_mem_iff h

def payableLockR09 (ukprn : Int64) : DataLockEventModel where
  ukprn := ukprn
  academicYear := 1920
  collectionPeriod := 9
  learnerUln := 1003528448

/-- A lock event without failures sets the flag and shows no data lock. -/
theorem payable_lock_sets_flag :
    ¬ ((build none [earningR09 10018916 "ZPROG001" may6] [payableLockR09 10018916]).hasDataLocks =
        true ↔
      ∃ c ∈ (build none [earningR09 10018916 "ZPROG001" may6]
        [payableLockR09 10018916]).collectionPeriods, c.dataLocks ≠ []) := by
  rw [exists_entry_dataLocks]
  intro h
  obtain ⟨e, -, l, hl, -, d, npp, hnpp, -⟩ := h.mp rfl
  obtain rfl := List.mem_singleton.mp hl
  exact absurd hnpp (by simp [payableLockR09])

end CollectionPeriodReport

namespace LearnerReportProvider

variable {app : Option ApprenticeshipModel} {earnings : List EarningEventModel}

/-- The provider filter drops a main aim exactly when there are several providers and a main
aim of another one than the apprenticeship's. -/
theorem exists_dropped_iff :
    (∃ e ∈ mainAims earnings, e ∉ CollectionPeriodReport.filter app earnings) ↔
      ¬ OneProvider earnings ∧ ∃ e ∈ mainAims earnings, app.map (·.ukprn) ≠ some e.ukprn := by
  by_cases hall : OneProvider earnings
  · simp [filter_of_oneProvider hall, hall]
  · rw [filter_of_not_oneProvider hall]
    simp only [List.mem_filter, includeApprenticeshipPredicate, beq_iff_eq, not_and, hall,
      not_false_eq_true, true_and]
    apply exists_congr
    intro e
    apply and_congr_right
    intro he
    exact ⟨fun h hu => h he hu.symm, fun h _ hu => h hu.symm⟩

theorem hasMultipleProviders_of_build {p : LearnerReportProvider} {uln : Int64}
    {years : AcademicYear × AcademicYear} {r : LearnerReport}
    (hr : p.buildLearnerReport uln years = .ok r) :
    r.hasMultipleProviders = true ↔
      ∃ a, p.activeApprenticeship uln = some a ∧
        ∃ e ∈ p.fetchedEarnings uln years, e.ukprn ≠ a.ukprn := by
  obtain ⟨d, -, rfl⟩ := (p.buildLearnerReport_ok_iff uln years).mp hr
  cases ha : p.activeApprenticeship uln with
  | none => simp [assemble_of_none p uln years ha]
  | some a => simp [assemble_of_some p uln years ha, addApprenticeship]

/-- Without an apprenticeship there is no flag, so nothing may be dropped. -/
theorem nothing_dropped_iff_of_none :
    (¬ ∃ e ∈ mainAims earnings, e ∉ CollectionPeriodReport.filter none earnings) ↔
      OneProvider earnings ∨ mainAims earnings = [] := by
  have hmain : (∃ e ∈ mainAims earnings, (none : Option Int64) ≠ some e.ukprn) ↔
      mainAims earnings ≠ [] := by
    simp [List.eq_nil_iff_forall_not_mem]
  rw [exists_dropped_iff, Option.map_none, hmain]
  by_cases hall : OneProvider earnings
  · simp [hall]
  · simp [hall]

/-- A dropped main aim is an earning of another provider, so the flag misses none; it is
raised in vain where other earnings are all shown. -/
theorem others_iff_dropped_of_some {a : ApprenticeshipModel} :
    ((∃ e ∈ earnings, e.ukprn ≠ a.ukprn) ↔
        ∃ e ∈ mainAims earnings, e ∉ CollectionPeriodReport.filter (some a) earnings) ↔
      (∀ e ∈ earnings, e.ukprn = a.ukprn) ∨
        (¬ OneProvider earnings ∧ ∃ e ∈ mainAims earnings, e.ukprn ≠ a.ukprn) := by
  have hdropped : (∃ e ∈ mainAims earnings, (some a).map (·.ukprn) ≠ some e.ukprn) ↔
      ∃ e ∈ mainAims earnings, e.ukprn ≠ a.ukprn := by
    simp [eq_comm]
  have hmain : (∃ e ∈ mainAims earnings, e.ukprn ≠ a.ukprn) → ∃ e ∈ earnings, e.ukprn ≠ a.ukprn := by
    intro hother
    obtain ⟨e, he, hu⟩ := hother
    exact ⟨e, (mem_mainAims.mp he).1, hu⟩
  have hnone : (∀ e ∈ earnings, e.ukprn = a.ukprn) ↔ ¬ ∃ e ∈ earnings, e.ukprn ≠ a.ukprn := by
    push Not
    exact Iff.rfl
  rw [exists_dropped_iff, hdropped, hnone]
  constructor
  · intro h
    by_cases hflag : ∃ e ∈ earnings, e.ukprn ≠ a.ukprn
    · exact Or.inr (h.mp hflag)
    · exact Or.inl hflag
  · intro h
    cases h with
    | inl hnot => exact ⟨fun hflag => absurd hflag hnot, fun hdrop => absurd (hmain hdrop.2) hnot⟩
    | inr hdrop => exact ⟨fun _ => hdrop, fun _ => hmain hdrop.2⟩

/-- The flag asks for any earning outside the apprenticeship's provider, the filter for
several providers and a main aim among the others. Without an apprenticeship they agree
while nothing is dropped; with one, when every earning is the apprenticeship's or a main aim
of another provider is dropped. The notice on the page follows the flag. -/
theorem hasMultipleProviders_agrees_iff (p : LearnerReportProvider) (uln : Int64)
    (years : AcademicYear × AcademicYear) (r : LearnerReport)
    (hr : p.buildLearnerReport uln years = .ok r) :
    ((r.hasMultipleProviders = true ↔
        ∃ e ∈ mainAims (p.fetchedEarnings uln years),
          e ∉ CollectionPeriodReport.filter (p.activeApprenticeship uln)
            (p.fetchedEarnings uln years)) ↔
      match p.activeApprenticeship uln with
      | none =>
        OneProvider (p.fetchedEarnings uln years) ∨ mainAims (p.fetchedEarnings uln years) = []
      | some a =>
        (∀ e ∈ p.fetchedEarnings uln years, e.ukprn = a.ukprn) ∨
          (¬ OneProvider (p.fetchedEarnings uln years) ∧
            ∃ e ∈ mainAims (p.fetchedEarnings uln years), e.ukprn ≠ a.ukprn)) ∧
    ∀ page : LearnerModel, page.hasMultipleProviders = r.hasMultipleProviders →
      ∀ timeProvider s blocks s',
        (LearnerModel.activeDataLocks timeProvider page).run s = .ok (blocks, s') →
          (currentProviderOnly ∈ blocks ↔ r.hasMultipleProviders = true) := by
  refine ⟨?_, fun page hflag timeProvider s blocks s' h => ?_⟩
  · rw [hasMultipleProviders_of_build hr]
    cases p.activeApprenticeship uln with
    | none => simpa using nothing_dropped_iff_of_none
    | some a => simpa using others_iff_dropped_of_some
  · rw [← hflag]
    exact LearnerModel.currentProviderOnly_mem_iff h

theorem exists_report_years1920 (p : LearnerReportProvider) :
    ∃ r, p.buildLearnerReport 1003528448 years1920 = .ok r := by
  have hc : years1920.1.InCentury := by decide
  have hp : years1920.2.InCentury := by decide
  obtain ⟨r, hr, -⟩ := LearnerModel.exists_report p 1003528448 hc hp
  exact ⟨r, hr⟩

/-- An apprenticeship with main aims of its own and of another provider. -/
def twoProviders : LearnerReportProvider :=
  .ofArchive
    { apprenticeship := [apprenticeshipOf 10018916]
      earningEvent :=
        [earningR09 10018916 "ZPROG001" may6, earningR09 10003161 "ZPROG001" may6] }

theorem twoProviders_agrees :
    ∃ r, twoProviders.buildLearnerReport 1003528448 years1920 = .ok r ∧
      (r.hasMultipleProviders = true ↔
        ∃ e ∈ mainAims (twoProviders.fetchedEarnings 1003528448 years1920),
          e ∉ CollectionPeriodReport.filter (twoProviders.activeApprenticeship 1003528448)
            (twoProviders.fetchedEarnings 1003528448 years1920)) := by
  obtain ⟨r, hr⟩ := twoProviders.exists_report_years1920
  refine ⟨r, hr, (hasMultipleProviders_agrees_iff twoProviders 1003528448 years1920 r hr).1.mpr ?_⟩
  exact Or.inr ⟨by decide, by decide⟩

def mismatchingProvider : LearnerReportProvider :=
  .ofArchive
    { apprenticeship := [apprenticeshipOf 10018916]
      earningEvent := [earningR09 10003161 "ZPROG001" may6] }

/-- The notice then announces hidden submissions where the report shows all of them. -/
theorem mismatchingProvider_notice :
    ∃ r, mismatchingProvider.buildLearnerReport 1003528448 years1920 = .ok r ∧
      ¬ (r.hasMultipleProviders = true ↔
        ∃ e ∈ mainAims (mismatchingProvider.fetchedEarnings 1003528448 years1920),
          e ∉ CollectionPeriodReport.filter (mismatchingProvider.activeApprenticeship 1003528448)
            (mismatchingProvider.fetchedEarnings 1003528448 years1920)) := by
  obtain ⟨r, hr⟩ := mismatchingProvider.exists_report_years1920
  refine ⟨r, hr, ?_⟩
  rw [hasMultipleProviders_of_build hr, exists_dropped_iff]
  intro h
  have hdropped := h.mp ⟨apprenticeshipOf 10018916, by decide, by decide⟩
  exact hdropped.1 (by decide)

end LearnerReportProvider

end IdentifyDataLocks
