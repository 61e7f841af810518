import IdentifyDataLocks.DataLockTable
import IdentifyDataLocks.StoredEvidence

/-! The tables of an answered request: which of their rows can agree at all. -/
namespace IdentifyDataLocks
open Calendar Linq Numerals Fallible CollectionPeriodReport CollectionPeriod

namespace LearnerModel

variable {p : LearnerReportProvider} {page page' : LearnerModel} {today : DateTime}
  {blocks : List Block} {s : Reads} {uln : Int64} {years : AcademicYear × AcademicYear}

/-- A page prints entries of its stored report only. -/
theorem mem_of_printed (hu : longTryParse page.uln = some uln) (hyears : YearsAt today years)
    (h : (request p (fun _ => today) page).run {} = .ok ((page', blocks), s))
    {entry : AcademicYear × CollectionPeriod} (hentry : entry ∈ printed blocks) :
    entry.2 ∈ (p.storedReport uln years).collectionPeriods := by
  obtain ⟨years', r, hyears', -, -, hpage, -, s', hrender⟩ := exists_of_run_request hu h
  obtain rfl := hyears'.unique hyears
  cases hflag : page'.hasDataLocks with
  | true =>
    obtain ⟨h₁, h₂, -, -, rfl, -⟩ := (run_activeDataLocks_of_shown hflag).mp hrender
    rw [printed_years, hpage] at hentry
    simp only [fill, List.mem_append, List.mem_map, List.mem_filter] at hentry
    rcases hentry with ⟨c, hc, rfl⟩ | ⟨c, hc, rfl⟩
    · exact hc.1
    · exact hc.1
  | false =>
    obtain ⟨rfl, -⟩ := (run_activeDataLocks_of_hidden hflag).mp hrender
    rw [printed_message] at hentry
    exact absurd hentry List.not_mem_nil

/-- The stored earning behind an entry, which is of the apprenticeship's provider unless the
stored earnings name no other. -/
theorem exists_of_mem_storedReport {c : CollectionPeriod}
    (hc : c ∈ (p.storedReport uln years).collectionPeriods) :
    ∃ e, p.dataLockService.StoredEarning uln (yearCodes years) e ∧
      c = e.toCollectionPeriod (p.dataLockService.getActiveApprenticeship uln)
        (p.dataLockService.getLearnerData uln (yearCodes years)).2 ∧
      ((∀ e', p.dataLockService.StoredEarning uln (yearCodes years) e' → e'.ukprn = e.ukprn) ∨
        (p.dataLockService.getActiveApprenticeship uln).map (·.ukprn) = some e.ukprn) := by
  obtain ⟨e, hfirst, rfl⟩ := mem_collectionPeriods.mp hc
  have hstored : ∀ e, e ∈ p.fetchedEarnings uln years ↔
      p.dataLockService.StoredEarning uln (yearCodes years) e :=
    fun e => p.dataLockService.mem_getLearnerData uln
  refine ⟨e, (hstored e).mp hfirst.1.1, rfl, hfirst.1.2.2.imp_left fun hone e' he' => ?_⟩
  exact hone e' ((hstored e').mpr he') e hfirst.1.1

theorem uln_of_getActiveApprenticeship {service : DataLockService} {a : ApprenticeshipModel}
    (h : service.getActiveApprenticeship uln = some a) : a.uln = uln := by
  have hmem := List.mem_of_find?_eq_some h
  simpa using (List.mem_filter.mp hmem).2

/-- In every table that an answered request prints, the cells of a row read alike exactly when
the two sides have the same number, the same amount to the penny, the same day or the same
status. With an active apprenticeship the learner's numbers are always alike and the completion
status never is, and the provider's numbers are unless no stored earning of the learner and the
two years has the apprenticeship's provider. -/
theorem printed_rows_agree (p : LearnerReportProvider) (today : DateTime) (page : LearnerModel)
    (uln : Int64) (hu : longTryParse page.uln = some uln) (h : Answerable today) :
    ∃ years page' blocks s, YearsAt today years ∧
      (request p (fun _ => today) page).run {} = .ok ((page', blocks), s) ∧
      ∀ entry ∈ printed blocks,
        entry.2.tableRows.map cellsAgree =
          [("UKPRN", entry.2.agrees fun x => some x.ukprn),
            ("ULN", entry.2.agrees fun x => some x.uln),
            ("Standard code", entry.2.agrees (·.standard)),
            ("Framework code", entry.2.agrees (·.framework)),
            ("Program type", entry.2.agrees (·.program)),
            ("Pathway code", entry.2.agrees (·.pathway)),
            ("Cost", entry.2.agrees fun x => some (pennies x.cost)),
            ("Start date", entry.2.agrees fun x => x.priceStart.map DateTime.date),
            ("Pause date", false),
            ("Stop date", entry.2.agrees fun x => x.stoppedOn.map DateTime.date),
            ("Planned completion date", true),
            ("Completion status", entry.2.agrees fun x => some x.completionStatus),
            ("TNP 1", false), ("TNP 2", false), ("TNP 3", false), ("TNP 4", false)] ∧
        ∀ a, p.dataLockService.getActiveApprenticeship uln = some a →
          entry.2.agrees (fun x => some x.uln) = true ∧
          entry.2.agrees (fun x => some x.completionStatus) = false ∧
          (entry.2.agrees (fun x => some x.ukprn) = true ↔
            ∃ e, p.dataLockService.StoredEarning uln (yearCodes years) e ∧
              e.ukprn = a.ukprn) := by
  obtain ⟨years, page', blocks, s, hyears, hrun⟩ := exists_answer p hu h
  refine ⟨years, page', blocks, s, hyears, hrun, fun entry hentry => ⟨map_cellsAgree _, ?_⟩⟩
  intro a ha
  obtain ⟨e, he, hside, hview⟩ :=
    exists_of_mem_storedReport (mem_of_printed hu hyears hrun hentry)
  have happ : entry.2.apprenticeship = some a.toDataMatch := by
    rw [hside, ha]
    rfl
  have hilr : entry.2.ilr = e.toDataMatch := congrArg CollectionPeriod.ilr hside
  refine ⟨?_, ?_, ?_⟩
  · have hlearner : a.uln = e.learnerUln := (uln_of_getActiveApprenticeship ha).trans he.2.1.symm
    simp [agrees, happ, hilr, ApprenticeshipModel.toDataMatch, EarningEventModel.toDataMatch,
      hlearner]
  · have hknown : ApprenticeshipStatus.ofPayments a.status ≠ .unknown := by
      cases a.status <;> simp [ApprenticeshipStatus.ofPayments]
    simp [agrees, happ, hilr, ApprenticeshipModel.toDataMatch, EarningEventModel.toDataMatch,
      hknown]
  · have hukprn : entry.2.agrees (fun x => some x.ukprn) = true ↔ e.ukprn = a.ukprn := by
      simp [agrees, happ, hilr, ApprenticeshipModel.toDataMatch, EarningEventModel.toDataMatch,
        eq_comm]
    rw [hukprn]
    constructor
    · intro heq
      exact ⟨e, he, heq⟩
    · intro hother
      obtain ⟨e', he', heq⟩ := hother
      rcases hview with hone | hsame
      · rw [← heq, hone e' he']
      · rw [ha, Option.map_some, Option.some.injEq] at hsame
        exact hsame.symm

/-- The submission of R09 with a price episode. -/
def submissionR09 : EarningEventModel :=
  { earningR09 10018916 "ZPROG001" may6 with
    learningAimProgrammeType := 25
    learningAimStandardCode := 25
    priceEpisodes :=
      [{ startDate := may6, totalNegotiatedPrice1 := 5000, agreedPrice := 5000 }] }

/-- An apprenticeship of the same provider, of a standard with the same 16 bits and of another
cost and start. -/
def apprenticeshipR09 : ApprenticeshipModel :=
  { LearnerReportProvider.apprenticeshipOf 10018916 with
    standardCode := some 65561
    programmeType := some 25
    frameworkCode := some 0
    pathwayCode := some 0
    apprenticeshipPriceEpisodes := [{ id := 118, startDate := may7, cost := 4500 }] }

/-- The two, with the data lock Dlock03 of R09. -/
def comparedR09 : PaymentsDataContext where
  apprenticeship := [apprenticeshipR09]
  earningEvent := [submissionR09]
  dataLockEvent := lockedR09.dataLockService.archiveContext.dataLockEvent

theorem exists_printed_comparedR09 (hyears : YearsAt may7 years)
    (h : (request (.ofArchive comparedR09) (fun _ => may7) { uln := some "1003528448" }).run {} =
      .ok ((page', blocks), s)) :
    ∃ entry ∈ printed blocks, entry.2.period = submissionR09.period ∧
      entry.2.apprenticeship = some apprenticeshipR09.toDataMatch ∧
      entry.2.ilr = submissionR09.toDataMatch ∧ ⟨3⟩ ∈ entry.2.dataLocks := by
  have hcode := mem_yearCodes_may7 hyears
  obtain ⟨entry, hentry, hperiod, hlocks⟩ := exists_printed longTryParse_1003528448 hyears h
    ⟨Or.inl (List.mem_singleton.mpr rfl), rfl, hcode⟩
    (e := submissionR09) ⟨Or.inl (List.mem_singleton.mpr rfl), rfl, hcode⟩ rfl (Or.inr (by decide))
  obtain ⟨e, he, hside, -⟩ :=
    exists_of_mem_storedReport (mem_of_printed longTryParse_1003528448 hyears h hentry)
  obtain rfl : e = submissionR09 := by
    rcases he.1 with harchive | hcurrent
    · exact List.mem_singleton.mp harchive
    · cases hcurrent
  have hlock : (⟨3⟩ : DataLock) ∈ entry.2.dataLocks := hlocks ⟨rfl, rfl, rfl⟩ ⟨3⟩
    ⟨_, List.mem_singleton.mpr rfl, _, List.mem_singleton.mpr rfl, rfl⟩
  exact ⟨entry, hentry, hperiod, by rw [hside]; rfl, by rw [hside]; rfl, hlock⟩

theorem printed_rows_agree_may7 :
    ∃ page' blocks s,
      (request (.ofArchive comparedR09) (fun _ => may7) { uln := some "1003528448" }).run {} =
        .ok ((page', blocks), s) ∧
      ∃ entry ∈ printed blocks, entry.2.tableRows.map cellsAgree =
        [("UKPRN", true), ("ULN", true), ("Standard code", true), ("Framework code", true),
          ("Program type", true), ("Pathway code", true), ("Cost", false), ("Start date", false),
          ("Pause date", false), ("Stop date", true), ("Planned completion date", true),
          ("Completion status", false), ("TNP 1", false), ("TNP 2", false), ("TNP 3", false),
          ("TNP 4", false)] := by
  obtain ⟨years, page', blocks, s, hyears, hrun, hrows⟩ := printed_rows_agree
    (.ofArchive comparedR09) may7 { uln := some "1003528448" } 1003528448
    longTryParse_1003528448 (by decide)
  obtain ⟨entry, hentry, -, happ, hilr, -⟩ := exists_printed_comparedR09 hyears hrun
  obtain ⟨htable, hactive⟩ := hrows entry hentry
  obtain ⟨huln, hstatus, hukprn⟩ := hactive apprenticeshipR09 rfl
  have hprovider : entry.2.agrees (fun x => some x.ukprn) = true := hukprn.mpr
    ⟨submissionR09, ⟨Or.inl (List.mem_singleton.mpr rfl), rfl, mem_yearCodes_may7 hyears⟩, rfl⟩
  refine ⟨page', blocks, s, hrun, entry, hentry, ?_⟩
  rw [htable, huln, hstatus, hprovider]
  simp only [agrees, happ, hilr]
  decide +kernel

end LearnerModel

end IdentifyDataLocks
