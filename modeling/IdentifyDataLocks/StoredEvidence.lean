import IdentifyDataLocks.ActiveDataLocks
import IdentifyDataLocks.DataLockLinks
import IdentifyDataLocks.RequestOutcome

/-! The learner page against the two stores: what it prints is the evidence that the stores
hold on the learner, as the view of its report owes it. -/
namespace IdentifyDataLocks
open Calendar Linq Fallible CollectionPeriodReport

namespace DataLockService

variable (service : DataLockService) (uln : Int64) (academicYears : List ℤ)

/-- The row is in one of the two stores, of the learner and of one of the years. -/
def StoredEarning (e : EarningEventModel) : Prop :=
  (e ∈ service.archiveContext.earningEvent ∨ e ∈ service.currentPeriodContext.earningEvent) ∧
    e.learnerUln = uln ∧ e.academicYear.toInt ∈ academicYears

def StoredLock (l : DataLockEventModel) : Prop :=
  (l ∈ service.archiveContext.dataLockEvent ∨ l ∈ service.currentPeriodContext.dataLockEvent) ∧
    l.learnerUln = uln ∧ l.academicYear.toInt ∈ academicYears

/-- Stored main aims as submissions, stored lock rows with a failure as failures. -/
def storedEvidence : Evidence Int64 Period DataLock where
  submitted := {s | ∃ e, service.StoredEarning uln academicYears e ∧
    e.learningAimReference = some "ZPROG001" ∧ (e.ukprn, e.period) = s}
  failed := {s | ∃ l, service.StoredLock uln academicYears l ∧
    (l.ukprn, l.period) = (s.1, s.2.1) ∧ l.FailsWith s.2.2}

/-- All providers while the stored earnings name one, otherwise the apprenticeship's. -/
def storedView : Set Int64 :=
  Evidence.viewOf {u | ∃ e, service.StoredEarning uln academicYears e ∧ e.ukprn = u}
    ((service.getActiveApprenticeship uln).map (·.ukprn))

variable {service uln academicYears}

theorem mem_locks_getLearnerData {l : DataLockEventModel} :
    l ∈ (service.getLearnerData uln academicYears).2 ↔
      service.StoredLock uln academicYears l := by
  simp only [getLearnerData, PaymentsDataContext.learnerLocks, List.mem_append, List.mem_filter,
    decide_eq_true_eq, List.contains_iff_mem, StoredLock]
  tauto

theorem storedEvidence_eq :
    service.storedEvidence uln academicYears =
      evidence (service.getLearnerData uln academicYears).1
        (service.getLearnerData uln academicYears).2 := by
  simp only [storedEvidence, evidence, mem_getLearnerData, mem_locks_getLearnerData,
    filterInMainAim_iff, StoredEarning]

theorem storedView_eq :
    service.storedView uln academicYears =
      view (service.getActiveApprenticeship uln)
        (service.getLearnerData uln academicYears).1 := by
  simp only [storedView, view, providers, mem_getLearnerData, StoredEarning]

end DataLockService

/-- A list of entries under year headings shows a view of the evidence: its periods, strictly
newest first and each once, under the headings of their years and with the codes it has. -/
structure Shows (E : Evidence Int64 Period DataLock) (view : Set Int64)
    (entries : List (AcademicYear × CollectionPeriod)) : Prop where
  newest_first : entries.Pairwise fun a b => b.2.period < a.2.period
  periods : {p | ∃ entry ∈ entries, entry.2.period = p} = E.periods view
  headings : ∀ entry ∈ entries, entry.2.period.year = entry.1.toShortInt
  codes : ∀ entry ∈ entries, entry.2.dataLocks.Pairwise (· < ·) ∧
    {d | d ∈ entry.2.dataLocks} = E.codes view entry.2.period

namespace LearnerModel

variable {p : LearnerReportProvider} {page page' : LearnerModel} {today : DateTime}
  {blocks : List Block} {s s' : Reads} {uln : Int64} {years : AcademicYear × AcademicYear}

def yearCodes (years : AcademicYear × AcademicYear) : List ℤ :=
  [years.1.toShortInt, years.2.toShortInt]

theorem codes_lt (hyears : YearsAt today years) (h : Answerable today) :
    years.2.toShortInt < years.1.toShortInt := by
  have hc := hyears.current
  have hp := hyears.previous
  have h0 := h.2.1
  exact AcademicYear.toShortInt_lt_of_succ (by omega) (by omega)

/-- The printed entries of a page with sections are its stored report, split by year. -/
theorem shows_of_stored (hcode : years.2.toShortInt < years.1.toShortInt)
    {entries : List (AcademicYear × CollectionPeriod)}
    (hentries : entries =
      ((p.storedReport uln years).collectionPeriods.filter
          fun c => c.period.year = years.1.toShortInt).map (fun c => (years.1, c)) ++
        ((p.storedReport uln years).collectionPeriods.filter
          fun c => c.period.year = years.2.toShortInt).map fun c => (years.2, c)) :
    Shows (p.dataLockService.storedEvidence uln (yearCodes years))
      (p.dataLockService.storedView uln (yearCodes years)) entries := by
  have hsnd : entries.map Prod.snd = (p.storedReport uln years).collectionPeriods := by
    simp only [hentries, List.map_append, List.map_map, Function.comp_def, List.map_id']
    exact lookups_append_of_lt hcode
  have hmem : ∀ entry ∈ entries, entry.2 ∈ (p.storedReport uln years).collectionPeriods := by
    intro entry hentry
    rw [← hsnd]
    exact List.mem_map_of_mem hentry
  refine ⟨?_, ?_, fun entry hentry => ?_, fun entry hentry => ⟨?_, ?_⟩⟩
  · have hnewest := (p.storedReport uln years).newest_first
    rw [← hsnd, List.pairwise_map] at hnewest
    exact hnewest.imp Period.compareTo_neg.mp
  · rw [DataLockService.storedEvidence_eq, DataLockService.storedView_eq]
    have hperiods := @periods_refine (p.activeApprenticeship uln) (p.fetchedEarnings uln years)
      (p.fetchedLocks uln years)
    refine Eq.trans ?_ hperiods
    ext q
    change (∃ entry ∈ entries, entry.2.period = q) ↔
      ∃ c ∈ (p.storedReport uln years).collectionPeriods, c.period = q
    rw [← hsnd]
    simp only [List.mem_map, exists_exists_and_eq_and]
  · rw [hentries] at hentry
    simp only [List.mem_append, List.mem_map, List.mem_filter, decide_eq_true_eq] at hentry
    rcases hentry with ⟨c, ⟨-, hc⟩, rfl⟩ | ⟨c, ⟨-, hc⟩, rfl⟩
    · exact hc
    · exact hc
  · obtain ⟨e, -, he⟩ := mem_collectionPeriods.mp (hmem entry hentry)
    rw [← he]
    exact EarningEventModel.pairwise_toDataLocks _ _
  · rw [DataLockService.storedEvidence_eq, DataLockService.storedView_eq]
    exact codes_entry (hmem entry hentry)

/-- The parts of an answered request: the years of its day, and the page of its report. -/
theorem exists_of_run_request (hu : longTryParse page.uln = some uln)
    (h : (request p (fun _ => today) page).run {} = .ok ((page', blocks), s)) :
    ∃ years r, YearsAt today years ∧ Answerable today ∧
      p.buildLearnerReport uln years = .ok r ∧
      page' = page.fill r
        ((p.storedReport uln years).collectionPeriods.filter
          fun c => c.period.year = years.1.toShortInt)
        ((p.storedReport uln years).collectionPeriods.filter
          fun c => c.period.year = years.2.toShortInt) ∧
      (page'.hasDataLocks = true ↔ ∃ l, p.dataLockService.StoredLock uln (yearCodes years) l) ∧
      ∃ s', (activeDataLocks (fun _ => today) page').run s' = .ok (blocks, s) := by
  obtain ⟨s', hget, hrender⟩ := run_request.mp h
  obtain ⟨years, r, hyears, hanswerable, hr, hpage, -⟩ := (run_onGetAsync_resting hu).mp hget
  refine ⟨years, r, hyears, hanswerable, hr, hpage, ?_, s', hrender⟩
  have hflag : page'.hasDataLocks = !(p.fetchedLocks uln years).isEmpty := by
    rw [hpage]
    exact p.hasDataLocks_of_build uln years hr
  have hfetched : ∀ l, l ∈ p.fetchedLocks uln years ↔
      p.dataLockService.StoredLock uln (yearCodes years) l :=
    fun l => DataLockService.mem_locks_getLearnerData
  simp only [hflag, Bool.not_eq_true', List.isEmpty_eq_false_iff_exists_mem, hfetched]

theorem exists_answer (p : LearnerReportProvider) (hu : longTryParse page.uln = some uln)
    (h : Answerable today) :
    ∃ years page' blocks s, YearsAt today years ∧
      (request p (fun _ => today) page).run {} = .ok ((page', blocks), s) := by
  obtain ⟨⟨⟨page', blocks⟩, s⟩, hrun⟩ :
      ∃ result, (request p (fun _ => today) page).run {} = .ok result :=
    exists_request_iff.mpr ⟨by simp [hu], h⟩
  obtain ⟨years, -, hyears, -⟩ := exists_of_run_request hu hrun
  exact ⟨years, page', blocks, s, hyears, hrun⟩

/-- With lock rows the page prints what the stores' evidence owes its view, without them it
prints nothing. -/
theorem printed_of_run_request (hu : longTryParse page.uln = some uln)
    (hyears : YearsAt today years)
    (h : (request p (fun _ => today) page).run {} = .ok ((page', blocks), s)) :
    ((∃ l, p.dataLockService.StoredLock uln (yearCodes years) l) →
        Shows (p.dataLockService.storedEvidence uln (yearCodes years))
          (p.dataLockService.storedView uln (yearCodes years)) (printed blocks)) ∧
      ((¬ ∃ l, p.dataLockService.StoredLock uln (yearCodes years) l) → printed blocks = []) := by
  obtain ⟨years', r, hyears', hanswerable, hr, hpage, hflag, s', hrender⟩ :=
    exists_of_run_request hu h
  obtain rfl := hyears'.unique hyears
  rw [← hflag]
  refine ⟨fun hshown => ?_, fun hhidden => ?_⟩
  · obtain ⟨h₁, h₂, hh₁, hh₂, rfl, -⟩ := (run_activeDataLocks_of_shown hshown).mp hrender
    obtain rfl := (yearsAt_iff.mp hh₁).unique hyears
    obtain rfl := (yearsAt_iff.mp hh₂).unique hyears
    apply shows_of_stored (codes_lt hyears hanswerable)
    rw [printed_years, hpage]
    rfl
  · have hfalse : page'.hasDataLocks = false := by simpa using hhidden
    obtain ⟨rfl, -⟩ := (run_activeDataLocks_of_hidden hfalse).mp hrender
    exact printed_message page'

/-- Beside any stored lock row, a stored main aim of a provider in view has its period printed,
and the codes of the row with it when the row concerns it. -/
theorem exists_printed {l : DataLockEventModel} {e : EarningEventModel}
    (hu : longTryParse page.uln = some uln) (hyears : YearsAt today years)
    (h : (request p (fun _ => today) page).run {} = .ok ((page', blocks), s))
    (hl : p.dataLockService.StoredLock uln (yearCodes years) l)
    (he : p.dataLockService.StoredEarning uln (yearCodes years) e)
    (haim : e.learningAimReference = some "ZPROG001")
    (hview : e.ukprn ∈ p.dataLockService.storedView uln (yearCodes years)) :
    ∃ entry ∈ printed blocks, entry.2.period = e.period ∧
      (l.Concerns e → ∀ d, l.FailsWith d → d ∈ entry.2.dataLocks) := by
  have hshows := (printed_of_run_request hu hyears h).1 ⟨l, hl⟩
  have hsubmitted : (e.ukprn, e.period) ∈
      (p.dataLockService.storedEvidence uln (yearCodes years)).submitted := ⟨e, he, haim, rfl⟩
  obtain ⟨entry, hentry, hperiod⟩ : ∃ entry ∈ printed blocks, entry.2.period = e.period := by
    have hmem : e.period ∈ (p.dataLockService.storedEvidence uln (yearCodes years)).periods
        (p.dataLockService.storedView uln (yearCodes years)) := ⟨e.ukprn, hview, hsubmitted⟩
    rw [← hshows.periods] at hmem
    exact hmem
  refine ⟨entry, hentry, hperiod, fun hconcerns d hd => ?_⟩
  obtain ⟨hukprn, hlock⟩ := DataLockEventModel.concerns_iff.mp hconcerns
  have hcode : d ∈ (p.dataLockService.storedEvidence uln (yearCodes years)).codes
      (p.dataLockService.storedView uln (yearCodes years)) entry.2.period :=
    ⟨e.ukprn, hview, hperiod ▸ hsubmitted, l, hl, by rw [hperiod, hukprn, hlock], hd⟩
  rw [← (hshows.codes entry hentry).2] at hcode
  exact hcode

/-- An answered request shows the evidence of both stores on the learner and the two years of the
day: the periods that some provider in view submitted, newest first and each once under its own
year, with exactly the failure codes recorded for it. It shows none of them when no lock row is
stored, and says so; it says that providers are left out when a stored earning has another
provider than the apprenticeship. -/
theorem request_shows_evidence (p : LearnerReportProvider) (today : DateTime)
    (page : LearnerModel) (uln : Int64) (hu : longTryParse page.uln = some uln)
    (h : Answerable today) :
    ∃ years page' blocks s, YearsAt today years ∧
      (request p (fun _ => today) page).run {} = .ok ((page', blocks), s) ∧
      ((∃ l, p.dataLockService.StoredLock uln (yearCodes years) l) →
        Shows (p.dataLockService.storedEvidence uln (yearCodes years))
          (p.dataLockService.storedView uln (yearCodes years)) (printed blocks)) ∧
      ((¬ ∃ l, p.dataLockService.StoredLock uln (yearCodes years) l) → printed blocks = []) ∧
      (noActiveDataLocks ∈ blocks ↔
        ¬ ∃ l, p.dataLockService.StoredLock uln (yearCodes years) l) ∧
      (currentProviderOnly ∈ blocks ↔
        ∃ a, p.dataLockService.getActiveApprenticeship uln = some a ∧
          ∃ e, p.dataLockService.StoredEarning uln (yearCodes years) e ∧ e.ukprn ≠ a.ukprn) := by
  obtain ⟨-, page', blocks, s, -, hrun⟩ := exists_answer p hu h
  obtain ⟨years, r, hyears, -, hr, hpage, hflag, s', hrender⟩ := exists_of_run_request hu hrun
  obtain ⟨hshown, hhidden⟩ := printed_of_run_request hu hyears hrun
  refine ⟨years, page', blocks, s, hyears, hrun, hshown, hhidden, ?_, ?_⟩
  · rw [noActiveDataLocks_mem_iff hrender, ← hflag, Bool.not_eq_true]
  · have hmultiple : page'.hasMultipleProviders = r.hasMultipleProviders := by rw [hpage]; rfl
    rw [currentProviderOnly_mem_iff hrender, hmultiple,
      LearnerReportProvider.hasMultipleProviders_of_build hr]
    simp only [LearnerReportProvider.activeApprenticeship, LearnerReportProvider.fetchedEarnings,
      DataLockService.mem_getLearnerData, DataLockService.StoredEarning, yearCodes]

theorem mem_yearCodes_may7 (hyears : YearsAt may7 years) : 1920 ∈ yearCodes years := by
  have hcurrent : (years.1.start : ℤ) = 2019 := hyears.current
  have hcode : years.1.toShortInt = 1920 := by
    rw [AcademicYear.toShortInt_eq (by omega)]
    omega
  exact List.mem_cons.mpr (Or.inl hcode.symm)

theorem request_shows_evidence_may7 :
    ∃ years page' blocks s, YearsAt may7 years ∧
      (request lockedR09 (fun _ => may7) { uln := some "1003528448" }).run {} =
        .ok ((page', blocks), s) ∧
      Shows (lockedR09.dataLockService.storedEvidence 1003528448 (yearCodes years))
        (lockedR09.dataLockService.storedView 1003528448 (yearCodes years)) (printed blocks) := by
  obtain ⟨years, page', blocks, s, hyears, hrun, hshown, -⟩ :=
    request_shows_evidence lockedR09 may7 { uln := some "1003528448" } 1003528448
      longTryParse_1003528448 (by decide)
  exact ⟨years, page', blocks, s, hyears, hrun, hshown ⟨_, Or.inl (List.mem_singleton.mpr rfl),
    rfl, mem_yearCodes_may7 hyears⟩⟩

end LearnerModel

end IdentifyDataLocks
