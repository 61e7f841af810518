import IdentifyDataLocks.PrintedRows
import IdentifyDataLocks.StoreRows

/-! The learner page over a run of the stores in which rows of a learner arrive, in either store
and at any place, or move from one store to the other, and none is lost. -/
namespace IdentifyDataLocks
open Calendar Linq Fallible

namespace DataLockService

/-- The providers that the stored earnings name. -/
def storedProviders (service : DataLockService) (uln : Int64) (academicYears : List ℤ) :
    Set Int64 := {u | ∃ e, service.StoredEarning uln academicYears e ∧ e.ukprn = u}

/-- No row of the learner is lost, and the active apprenticeship is the same. -/
structure GrowsTo (service service' : DataLockService) (uln : Int64)
    (academicYears : List ℤ) : Prop where
  apprenticeship : service.getActiveApprenticeship uln = service'.getActiveApprenticeship uln
  earnings : ∀ e, service.StoredEarning uln academicYears e →
    service'.StoredEarning uln academicYears e
  locks : ∀ l, service.StoredLock uln academicYears l → service'.StoredLock uln academicYears l

/-- The earnings of one provider are joined by those of another, and the first provider is not
the apprenticeship's. -/
def Overtaken (service service' : DataLockService) (uln : Int64) (academicYears : List ℤ) : Prop :=
  Evidence.Overtaken (service.storedProviders uln academicYears)
    (service'.storedProviders uln academicYears)
    ((service.getActiveApprenticeship uln).map (·.ukprn))

variable {service service' service'' : DataLockService} {uln : Int64} {academicYears : List ℤ}

theorem GrowsTo.refl (service : DataLockService) (uln : Int64) (academicYears : List ℤ) :
    GrowsTo service service uln academicYears := ⟨rfl, fun _ h => h, fun _ h => h⟩

theorem GrowsTo.trans (h : GrowsTo service service' uln academicYears)
    (h' : GrowsTo service' service'' uln academicYears) :
    GrowsTo service service'' uln academicYears where
  apprenticeship := h.apprenticeship.trans h'.apprenticeship
  earnings e he := h'.earnings e (h.earnings e he)
  locks l hl := h'.locks l (h.locks l hl)

theorem growsTo_of_le {run : ℕ → DataLockService}
    (h : ∀ n, GrowsTo (run n) (run (n + 1)) uln academicYears) {n m : ℕ} (hle : n ≤ m) :
    GrowsTo (run n) (run m) uln academicYears := by
  induction m, hle using Nat.le_induction with
  | base => exact GrowsTo.refl _ _ _
  | succ m _ ih => exact ih.trans (h m)

/-! What the stores' operations do to the rows. -/

theorem growsTo_receive (service : DataLockService) (earnings : List EarningEventModel)
    (locks : List DataLockEventModel) (uln : Int64) (academicYears : List ℤ) :
    GrowsTo service (service.receive earnings locks) uln academicYears where
  apprenticeship := rfl
  earnings _ he := ⟨he.1.imp_right fun h => List.mem_append_left _ h, he.2⟩
  locks _ hl := ⟨hl.1.imp_right fun h => List.mem_append_left _ h, hl.2⟩

theorem growsTo_archived (service : DataLockService) (uln : Int64) (academicYears : List ℤ) :
    GrowsTo service service.archived uln academicYears where
  apprenticeship := rfl
  earnings _ he := ⟨Or.inl (List.mem_append.mpr he.1), he.2⟩
  locks _ hl := ⟨Or.inl (List.mem_append.mpr hl.1), hl.2⟩

section Growth
variable (h : GrowsTo service service' uln academicYears)
include h

theorem GrowsTo.submitted_subset : (service.storedEvidence uln academicYears).submitted ⊆
    (service'.storedEvidence uln academicYears).submitted := by
  intro s hs
  obtain ⟨e, he, haim, heq⟩ := hs
  exact ⟨e, h.earnings e he, haim, heq⟩

theorem GrowsTo.failed_subset : (service.storedEvidence uln academicYears).failed ⊆
    (service'.storedEvidence uln academicYears).failed := by
  intro s hs
  obtain ⟨l, hl, heq, hfails⟩ := hs
  exact ⟨l, h.locks l hl, heq, hfails⟩

theorem GrowsTo.providers_subset :
    service.storedProviders uln academicYears ⊆ service'.storedProviders uln academicYears := by
  intro u hu
  obtain ⟨e, he, heq⟩ := hu
  exact ⟨e, h.earnings e he, heq⟩

/-- Unless it is overtaken, a provider with a submission stays in view. -/
theorem GrowsTo.mem_storedView (hkept : ¬ Overtaken service service' uln academicYears)
    (u : Int64) (q : Period)
    (hs : (u, q) ∈ (service.storedEvidence uln academicYears).submitted)
    (hu : u ∈ service.storedView uln academicYears) :
    u ∈ service'.storedView uln academicYears := by
  obtain ⟨e, he, -, heq⟩ := hs
  have hprovider : u ∈ service.storedProviders uln academicYears :=
    ⟨e, he, congrArg Prod.fst heq⟩
  have hview := Evidence.mem_viewOf_of_not_overtaken hkept hprovider hu
  rwa [h.apprenticeship] at hview

end Growth

end DataLockService

namespace LearnerModel

variable {p p' : LearnerReportProvider} {page page₁ page₂ : LearnerModel} {today₁ today₂ : DateTime}
  {blocks₁ blocks₂ : List Block} {s₁ s₂ : Reads} {uln : Int64}
  {years : AcademicYear × AcademicYear} {entry : AcademicYear × CollectionPeriod}

/-- A printed submission is of a provider that the stored earnings name and that is in view. -/
theorem provider_of_printed (hu : longTryParse page.uln = some uln) (hyears : YearsAt today₁ years)
    (h : (request p (fun _ => today₁) page).run {} = .ok ((page₁, blocks₁), s₁))
    (hentry : entry ∈ printed blocks₁) :
    entry.2.ilr.ukprn ∈ p.dataLockService.storedProviders uln (yearCodes years) ∧
      entry.2.ilr.ukprn ∈ p.dataLockService.storedView uln (yearCodes years) := by
  obtain ⟨e, he, hside, hview⟩ := exists_of_mem_storedReport (mem_of_printed hu hyears h hentry)
  have hilr : entry.2.ilr.ukprn = e.ukprn := congrArg (fun c => c.ilr.ukprn) hside
  rw [hilr]
  refine ⟨⟨e, he, rfl⟩, hview.imp_left fun hone u hu w hw => ?_⟩
  obtain ⟨e₁, he₁, rfl⟩ := hu
  obtain ⟨e₂, he₂, rfl⟩ := hw
  exact (hone e₁ he₁).trans (hone e₂ he₂).symm

section TwoRequests
variable (hu : longTryParse page.uln = some uln) (hyears₁ : YearsAt today₁ years)
  (hyears₂ : YearsAt today₂ years)
  (h₁ : (request p (fun _ => today₁) page).run {} = .ok ((page₁, blocks₁), s₁))
  (h₂ : (request p' (fun _ => today₂) page).run {} = .ok ((page₂, blocks₂), s₂))
  (hgrows : p.dataLockService.GrowsTo p'.dataLockService uln (yearCodes years))
include hu hyears₁ hyears₂ h₁ h₂ hgrows

theorem kept_of_not_overtaken
    (h : ¬ p.dataLockService.Overtaken p'.dataLockService uln (yearCodes years))
    (hentry : entry ∈ printed blocks₁) :
    ∃ entry' ∈ printed blocks₂, entry'.2.period = entry.2.period ∧
      ∀ d ∈ entry.2.dataLocks, d ∈ entry'.2.dataLocks := by
  obtain ⟨hshown₁, hhidden₁⟩ := printed_of_run_request hu hyears₁ h₁
  obtain ⟨hshown₂, -⟩ := printed_of_run_request hu hyears₂ h₂
  -- a page with an entry has a lock row behind it, which the second request finds as well
  have hlock : ∃ l, p.dataLockService.StoredLock uln (yearCodes years) l := by
    by_contra hnone
    rw [hhidden₁ hnone] at hentry
    exact absurd hentry List.not_mem_nil
  have hfirst := hshown₁ hlock
  obtain ⟨l, hl⟩ := hlock
  have hsecond := hshown₂ ⟨l, hgrows.locks l hl⟩
  have hperiod : entry.2.period ∈ (p.dataLockService.storedEvidence uln (yearCodes years)).periods
      (p.dataLockService.storedView uln (yearCodes years)) := by
    rw [← hfirst.periods]
    exact ⟨entry, hentry, rfl⟩
  have hkept := Evidence.periods_mono hgrows.submitted_subset (hgrows.mem_storedView h) hperiod
  rw [← hsecond.periods] at hkept
  obtain ⟨entry', hentry', heq⟩ := hkept
  refine ⟨entry', hentry', heq, fun d hd => ?_⟩
  have hcode : d ∈ (p.dataLockService.storedEvidence uln (yearCodes years)).codes
      (p.dataLockService.storedView uln (yearCodes years)) entry.2.period := by
    rw [← (hfirst.codes entry hentry).2]
    exact hd
  have hkept := Evidence.codes_mono hgrows.submitted_subset hgrows.failed_subset
    (hgrows.mem_storedView h) entry.2.period hcode
  rw [← heq, ← (hsecond.codes entry' hentry').2] at hkept
  exact hkept

theorem lost_of_overtaken
    (h : p.dataLockService.Overtaken p'.dataLockService uln (yearCodes years))
    {entry' : AcademicYear × CollectionPeriod} (hentry : entry ∈ printed blocks₁)
    (hentry' : entry' ∈ printed blocks₂) : entry'.2.ilr.ukprn ≠ entry.2.ilr.ukprn := by
  intro heq
  have hprovider := (provider_of_printed hu hyears₁ h₁ hentry).1
  have hview := (provider_of_printed hu hyears₂ h₂ hentry').2
  rw [DataLockService.storedView, ← hgrows.apprenticeship, heq] at hview
  exact h.notMem_viewOf hprovider hview

end TwoRequests

/-- While the stores grow, the periods of a learner's entries are kept and only gain codes, up to
the step at which an earning of a second provider overtakes a first that is not the
apprenticeship's; from then on no page shows a submission of the first provider again, whatever
else arrives. -/
theorem entries_along_run (p : LearnerReportProvider) (run : ℕ → DataLockService)
    (today : ℕ → DateTime) (page : LearnerModel) (uln : Int64)
    (years : AcademicYear × AcademicYear) (hu : longTryParse page.uln = some uln)
    (hdays : ∀ n, Answerable (today n) ∧ YearsAt (today n) years)
    (hgrows : ∀ n, (run n).GrowsTo (run (n + 1)) uln (yearCodes years)) :
    ∃ blocks : ℕ → List Block,
      (∀ n, ∃ page' s, (request (p.withStores (run n)) (fun _ => today n) page).run {} =
        .ok ((page', blocks n), s)) ∧
      ∀ n m, n ≤ m →
        (¬ (run n).Overtaken (run m) uln (yearCodes years) →
          ∀ entry ∈ printed (blocks n), ∃ entry' ∈ printed (blocks m),
            entry'.2.period = entry.2.period ∧
              ∀ d ∈ entry.2.dataLocks, d ∈ entry'.2.dataLocks) ∧
        ((run n).Overtaken (run m) uln (yearCodes years) →
          ∀ k, m ≤ k → ∀ entry ∈ printed (blocks n), ∀ entry' ∈ printed (blocks k),
            entry'.2.ilr.ukprn ≠ entry.2.ilr.ukprn) := by
  have hanswer : ∀ n, ∃ blocks page' s,
      (request (p.withStores (run n)) (fun _ => today n) page).run {} =
        .ok ((page', blocks), s) := by
    intro n
    obtain ⟨-, page', blocks, s, -, hrun⟩ := exists_answer (p.withStores (run n)) hu (hdays n).1
    exact ⟨blocks, page', s, hrun⟩
  choose blocks page' s hrun using hanswer
  refine ⟨blocks, fun n => ⟨page' n, s n, hrun n⟩, fun n m hle => ⟨?_, ?_⟩⟩
  · intro h entry hentry
    exact kept_of_not_overtaken hu (hdays n).2 (hdays m).2 (hrun n) (hrun m)
      (DataLockService.growsTo_of_le hgrows hle) h hentry
  · intro h k hk entry hentry entry' hentry'
    have hlater : (run n).Overtaken (run k) uln (yearCodes years) :=
      h.mono (DataLockService.growsTo_of_le hgrows hk).providers_subset
    exact lost_of_overtaken hu (hdays n).2 (hdays k).2 (hrun n) (hrun k)
      (DataLockService.growsTo_of_le hgrows (hle.trans hk)) hlater hentry hentry'

open CollectionPeriodReport

def lock07 : DataLockEventModel :=
  { DataLockService.lockIn 9 with
    ukprn := 10001234
    nonPayablePeriods :=
      [{ dataLockEventNonPayablePeriodFailures := [{ dataLockFailure := ⟨7⟩ }] }] }

/-- The stores hold the locked R09 of one provider and the apprenticeship of another; each step
delivers an R09 of the other with a data lock of its own, and archives what is there. -/
def deliveries (n : ℕ) : DataLockService :=
  (fun service => (service.receive [earningR09 10001234 "ZPROG001" may6] [lock07]).archived)^[n]
    { archiveContext :=
        { lockedR09.dataLockService.archiveContext with
          apprenticeship := [LearnerReportProvider.apprenticeshipOf 10001234] } }

theorem growsTo_deliveries (n : ℕ) :
    (deliveries n).GrowsTo (deliveries (n + 1)) 1003528448 (yearCodes years) := by
  rw [deliveries, deliveries, Function.iterate_succ_apply']
  exact (DataLockService.growsTo_receive _ _ _ _ _).trans (DataLockService.growsTo_archived _ _ _)

theorem eq_of_mem_storedProviders {u : Int64}
    (h : u ∈ (deliveries 0).storedProviders 1003528448 (yearCodes years)) : u = 10018916 := by
  obtain ⟨e, ⟨harchive | hcurrent, -⟩, rfl⟩ := h
  · rw [List.mem_singleton.mp harchive]
    rfl
  · cases hcurrent

section Years
variable (hyears : YearsAt may7 years)
include hyears

theorem storedEarning_first : (deliveries 0).StoredEarning 1003528448 (yearCodes years)
    (earningR09 10018916 "ZPROG001" may6) :=
  ⟨Or.inl (List.mem_singleton.mpr rfl), rfl, mem_yearCodes_may7 hyears⟩

theorem storedEarning_second : (deliveries 1).StoredEarning 1003528448 (yearCodes years)
    (earningR09 10001234 "ZPROG001" may6) :=
  ⟨Or.inl (List.mem_cons_of_mem _ List.mem_cons_self), rfl, mem_yearCodes_may7 hyears⟩

theorem not_subsingleton_deliveries :
    ¬ ((deliveries 1).storedProviders 1003528448 (yearCodes years)).Subsingleton := by
  intro hone
  have hfirst := (growsTo_deliveries 0).earnings _ (storedEarning_first hyears)
  have heq : (10018916 : Int64) = 10001234 :=
    hone ⟨_, hfirst, rfl⟩ ⟨_, storedEarning_second hyears, rfl⟩
  exact absurd heq (by decide)

theorem overtaken_deliveries :
    (deliveries 0).Overtaken (deliveries 1) 1003528448 (yearCodes years) := by
  refine ⟨fun u hu w hw => ?_, not_subsingleton_deliveries hyears, 10018916,
    ⟨_, storedEarning_first hyears, rfl⟩, by decide⟩
  rw [eq_of_mem_storedProviders hu, eq_of_mem_storedProviders hw]

/-- The first page prints the first provider. -/
theorem exists_printed_first {page' : LearnerModel} {blocks : List Block} {s : Reads}
    (h : (request (lockedR09.withStores (deliveries 0)) (fun _ => may7)
      { uln := some "1003528448" }).run {} = .ok ((page', blocks), s)) :
    ∃ entry ∈ printed blocks, entry.2.ilr.ukprn = 10018916 := by
  obtain ⟨entry, hentry, -⟩ := exists_printed longTryParse_1003528448 hyears h
    ⟨Or.inl (List.mem_singleton.mpr rfl), rfl, mem_yearCodes_may7 hyears⟩
    (storedEarning_first hyears) rfl (Or.inl (overtaken_deliveries hyears).1)
  exact ⟨entry, hentry, eq_of_mem_storedProviders
    (provider_of_printed longTryParse_1003528448 hyears h hentry).1⟩

/-- The second page prints R09 again, with the data lock of the second provider. -/
theorem exists_printed_second {page' : LearnerModel} {blocks : List Block} {s : Reads}
    (h : (request (lockedR09.withStores (deliveries 1)) (fun _ => may7)
      { uln := some "1003528448" }).run {} = .ok ((page', blocks), s)) :
    ∃ entry ∈ printed blocks, entry.2.period = ⟨1920, 9⟩ ∧ ⟨7⟩ ∈ entry.2.dataLocks := by
  obtain ⟨entry, hentry, hperiod, hlocks⟩ := exists_printed longTryParse_1003528448 hyears h
    (l := lock07) ⟨Or.inl (List.mem_cons_of_mem _ List.mem_cons_self), rfl,
      mem_yearCodes_may7 hyears⟩
    (storedEarning_second hyears) rfl (Or.inr (by decide))
  exact ⟨entry, hentry, hperiod, hlocks ⟨rfl, rfl, rfl⟩ ⟨7⟩
    ⟨_, List.mem_singleton.mpr rfl, _, List.mem_singleton.mpr rfl, rfl⟩⟩

end Years

/-- The entry of the first provider is lost to that of the second, which every later page has. -/
theorem entries_along_run_deliveries :
    ∃ blocks : ℕ → List Block,
      (∀ n, ∃ page' s, (request (lockedR09.withStores (deliveries n)) (fun _ => may7)
          { uln := some "1003528448" }).run {} = .ok ((page', blocks n), s)) ∧
      (∃ entry ∈ printed (blocks 0), entry.2.ilr.ukprn = 10018916) ∧
      ∀ k, 1 ≤ k → ∃ entry ∈ printed (blocks k), entry.2.period = ⟨1920, 9⟩ ∧
        ⟨7⟩ ∈ entry.2.dataLocks ∧ entry.2.ilr.ukprn ≠ 10018916 := by
  obtain ⟨years, hyears⟩ : ∃ years, YearsAt may7 years := exists_yearsAt (by decide)
  obtain ⟨blocks, hrun, hphases⟩ := entries_along_run lockedR09 deliveries (fun _ => may7)
    { uln := some "1003528448" } 1003528448 years longTryParse_1003528448
    (fun _ => ⟨by decide, hyears⟩) growsTo_deliveries
  obtain ⟨page₀, s₀, hrun₀⟩ := hrun 0
  obtain ⟨page₁, s₁, hrun₁⟩ := hrun 1
  obtain ⟨entry₀, hentry₀, hfirst⟩ := exists_printed_first hyears hrun₀
  obtain ⟨entry₁, hentry₁, hperiod₁, hlock₁⟩ := exists_printed_second hyears hrun₁
  refine ⟨blocks, hrun, ⟨entry₀, hentry₀, hfirst⟩, fun k hk => ?_⟩
  obtain ⟨entry, hentry, hperiod, hcodes⟩ := (hphases 1 k hk).1
    (fun h => not_subsingleton_deliveries hyears h.1) entry₁ hentry₁
  have hother := (hphases 0 1 (by decide)).2 (overtaken_deliveries hyears) k hk entry₀ hentry₀
    entry hentry
  rw [hfirst] at hother
  exact ⟨entry, hentry, hperiod.trans hperiod₁, hcodes _ hlock₁, hother⟩

end LearnerModel

end IdentifyDataLocks
