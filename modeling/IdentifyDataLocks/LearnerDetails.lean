import IdentifyDataLocks.Groups
import IdentifyDataLocks.PrintedRows

/-! The page of a learner's stored rows, and what of the learner page it accounts for. -/
namespace IdentifyDataLocks
open Calendar Linq CollectionPeriodReport

structure LearnerDetailsModel where
  uln : Int64 := 9000000407
  apprenticeship : List ApprenticeshipModel := []
  dataLocks : List DataLockEventModel := []
  earnings : List (Grouping EarningEventModel.ukprn) := []

namespace LearnerDetailsModel

/-- The query of `Earnings`. A second `OrderByDescending` of a query replaces the first, so
the rows are ordered by year and period; those of one period stay in the order of the store. -/
def earningEvents (context : PaymentsDataContext) (uln : Int64) : List EarningEventModel :=
  orderByDescending (.ofLinearOrder (ℤ ×ₗ ℕ))
    (fun x => toLex (x.academicYear.toInt, x.collectionPeriod.toNat))
    (context.earningEvent.filter fun x => x.learnerUln = uln)

/-- `OnGet`; both its context and the archive of the service are of the archive's factory. -/
def onGet (context : PaymentsDataContext) (dataLockService : DataLockService)
    (page : LearnerDetailsModel) : LearnerDetailsModel :=
  { page with
    apprenticeship := context.apprenticeship.filter fun x => x.uln = page.uln
    dataLocks := dataLockService.getDataLocks page.uln
    earnings := groupBy EarningEventModel.ukprn (earningEvents context page.uln) }

variable {context : PaymentsDataContext} {service : DataLockService} {uln : Int64}

theorem perm_earningEvents : (earningEvents context uln).Perm
    (context.earningEvent.filter fun x => x.learnerUln = uln) := perm_orderByDescending _ _ _

theorem pairwise_earningEvents :
    (earningEvents context uln).Pairwise fun a b => b.period ≤ a.period := by
  have hsorted : (earningEvents context uln).Pairwise fun a b =>
      toLex (b.academicYear.toInt, b.collectionPeriod.toNat) ≤
        toLex (a.academicYear.toInt, a.collectionPeriod.toNat) := pairwise_orderByDescending _ _
  refine hsorted.imp fun {a b} h => ?_
  rw [← not_lt, Period.lt_iff]
  rcases Prod.Lex.toLex_le_toLex.mp h with hyear | ⟨hyear, hperiod⟩
  · simp only [EarningEventModel.period]
    omega
  · simp only [EarningEventModel.period]
    omega

/-- The groups divide the learner's archived earnings by provider, each group and the groups by
their newest rows in descending order of the periods: no row of a later group is newer than the
first row of an earlier one, whatever the numbers of the providers. -/
theorem earnings_grouped (context : PaymentsDataContext) (service : DataLockService)
    (page : LearnerDetailsModel) :
    ((onGet context service page).earnings.map Grouping.key).Nodup ∧
      ((onGet context service page).earnings.flatMap Grouping.elements).Perm
        (context.earningEvent.filter fun x => x.learnerUln = page.uln) ∧
      (∀ g ∈ (onGet context service page).earnings,
        g.elements.Pairwise fun a b => b.period ≤ a.period) ∧
      (onGet context service page).earnings.Pairwise fun g g' =>
        ∀ e ∈ g'.elements, e.period ≤ g.first.period :=
  ⟨nodup_map_key_groupBy _ _, (perm_groupBy _ _).trans perm_earningEvents,
    fun _ hg => pairwise_elements_groupBy pairwise_earningEvents hg,
    pairwise_groupBy (fun _ _ _ hab hbc => hbc.trans hab) pairwise_earningEvents⟩

/-! The learner page's entries among these rows. -/

theorem mem_getDataLocks {l : DataLockEventModel} {academicYears : List ℤ}
    (h : service.StoredLock uln academicYears l) (hfails : l.nonPayablePeriods ≠ []) :
    l ∈ service.getDataLocks uln := by
  rw [(service.perm_getDataLocks uln).mem_iff, List.mem_filter, decide_eq_true_eq,
    List.mem_append]
  exact ⟨h.1, h.2.1, hfails⟩

theorem nonPayablePeriods_ne_nil {l : DataLockEventModel} {d : DataLock} (h : l.FailsWith d) :
    l.nonPayablePeriods ≠ [] := by
  obtain ⟨npp, hnpp, -⟩ := h
  exact List.ne_nil_of_mem hnpp

theorem exists_mem_earnings {e : EarningEventModel} (h : e ∈ context.earningEvent)
    (hu : e.learnerUln = uln) (service : DataLockService) :
    ∃ g ∈ (onGet context service { uln := uln }).earnings, g.key = e.ukprn ∧ e ∈ g.elements := by
  have he : e ∈ earningEvents context uln := by
    rw [perm_earningEvents.mem_iff, List.mem_filter, decide_eq_true_eq]
    exact ⟨h, hu⟩
  obtain ⟨g, hg, hkey⟩ := exists_mem_groupBy (f := EarningEventModel.ukprn) he
  refine ⟨g, hg, hkey, ?_⟩
  rw [elements_of_mem_groupBy hg, List.mem_filter, decide_eq_true_eq]
  exact ⟨he, hkey.symm⟩

open LearnerModel

/-- What the learner page prints on a learner, the details of the same learner account for: each
code by a listed event of the same provider and period that fails with it, the apprenticeship
by a listed one, and the submission by a row under its provider, unless it is stored in the
current period only, whose earnings the details leave out. -/
theorem details_account_for_report (p : LearnerReportProvider) (today : DateTime)
    (page : LearnerModel) (uln : Int64) (hu : longTryParse page.uln = some uln)
    (h : Answerable today) :
    ∃ page' blocks s, (request p (fun _ => today) page).run {} = .ok ((page', blocks), s) ∧
      ∀ entry ∈ printed blocks,
        (∀ d ∈ entry.2.dataLocks,
          ∃ l ∈ (onGet p.dataLockService.archiveContext p.dataLockService
              { uln := uln }).dataLocks,
            l.ukprn = entry.2.ilr.ukprn ∧ l.period = entry.2.period ∧ l.FailsWith d) ∧
        (∀ side, entry.2.apprenticeship = some side →
          ∃ a ∈ (onGet p.dataLockService.archiveContext p.dataLockService
              { uln := uln }).apprenticeship, a.toDataMatch = side) ∧
        ∃ e : EarningEventModel, e.period = entry.2.period ∧ e.toDataMatch = entry.2.ilr ∧
          ((∃ g ∈ (onGet p.dataLockService.archiveContext p.dataLockService
              { uln := uln }).earnings, g.key = e.ukprn ∧ e ∈ g.elements) ∨
            e ∈ p.dataLockService.currentPeriodContext.earningEvent ∧
              e ∉ p.dataLockService.archiveContext.earningEvent) := by
  obtain ⟨years, page', blocks, s, hyears, hrun⟩ := exists_answer p hu h
  refine ⟨page', blocks, s, hrun, fun entry hentry => ?_⟩
  obtain ⟨e, he, hside, -⟩ := exists_of_mem_storedReport (mem_of_printed hu hyears hrun hentry)
  rw [hside]
  refine ⟨fun d hd => ?_, fun side happ => ?_, e, rfl, rfl, ?_⟩
  · obtain ⟨l, hl, hconcerns, hfails⟩ := EarningEventModel.mem_toDataLocks.mp hd
    rw [DataLockEventModel.concerns_iff] at hconcerns
    have hstored := DataLockService.mem_locks_getLearnerData.mp hl
    exact ⟨l, mem_getDataLocks hstored (nonPayablePeriods_ne_nil hfails), hconcerns.1,
      hconcerns.2, hfails⟩
  · obtain ⟨a, ha, rfl⟩ := Option.map_eq_some_iff.mp happ
    exact ⟨a, List.mem_of_find?_eq_some ha, rfl⟩
  · by_cases harchive : e ∈ p.dataLockService.archiveContext.earningEvent
    · exact Or.inl (exists_mem_earnings harchive he.2.1 _)
    · exact Or.inr ⟨he.1.resolve_left harchive, harchive⟩

def detailsR09 : LearnerDetailsModel :=
  onGet comparedR09 { archiveContext := comparedR09 } { uln := 1003528448 }

theorem details_account_for_report_may7 :
    ∃ page' blocks s,
      (request (.ofArchive comparedR09) (fun _ => may7) { uln := some "1003528448" }).run {} =
        .ok ((page', blocks), s) ∧
      ∃ entry ∈ printed blocks,
        (∃ l ∈ detailsR09.dataLocks,
          l.ukprn = entry.2.ilr.ukprn ∧ l.period = ⟨1920, 9⟩ ∧ l.FailsWith ⟨3⟩) ∧
        (∃ a ∈ detailsR09.apprenticeship, a.toDataMatch = apprenticeshipR09.toDataMatch) ∧
        ∃ e : EarningEventModel, e.toDataMatch = submissionR09.toDataMatch ∧
          ∃ g ∈ detailsR09.earnings, g.key = e.ukprn ∧ e ∈ g.elements := by
  obtain ⟨years, hyears⟩ : ∃ years, YearsAt may7 years := exists_yearsAt (by decide)
  obtain ⟨page', blocks, s, hrun, haccount⟩ := details_account_for_report (.ofArchive comparedR09)
    may7 { uln := some "1003528448" } 1003528448 longTryParse_1003528448 (by decide)
  obtain ⟨entry, hentry, hperiod, happ, hilr, hlock⟩ := exists_printed_comparedR09 hyears hrun
  obtain ⟨hcodes, hside, e, -, hmatch, hlisted⟩ := haccount entry hentry
  refine ⟨page', blocks, s, hrun, entry, hentry, ?_, hside _ happ, e, hmatch.trans hilr, ?_⟩
  · obtain ⟨l, hl, hukprn, hlperiod, hfails⟩ := hcodes ⟨3⟩ hlock
    exact ⟨l, hl, hukprn, hlperiod.trans hperiod, hfails⟩
  · exact hlisted.resolve_right fun hcurrent => List.not_mem_nil hcurrent.1

end LearnerDetailsModel

end IdentifyDataLocks
