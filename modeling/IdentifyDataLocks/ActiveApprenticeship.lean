import IdentifyDataLocks.LearnerReportProvider
import IdentifyDataLocks.RowOrder

/-! The choice of the active apprenticeship. A learner may have several rows that are active or
paused; the report takes the first, so the order of the stored rows decides among them. -/
namespace IdentifyDataLocks
open Calendar Linq RowOrder CollectionPeriodReport

namespace ApprenticeshipModel

/-- The rows among which `GetActiveApprenticeship` chooses. -/
def Eligible (uln : Int64) (a : ApprenticeshipModel) : Prop :=
  a.uln = uln ∧ (a.status = .active ∨ a.status = .paused)

instance (uln : Int64) : DecidablePred (Eligible uln) := fun a =>
  inferInstanceAs (Decidable (a.uln = uln ∧ (a.status = .active ∨ a.status = .paused)))

/-- Two rows that a data match shows alike. -/
structure SameTerms (a b : ApprenticeshipModel) : Prop where
  ukprn : a.ukprn = b.ukprn
  uln : a.uln = b.uln
  standard : a.standardCode.map Int64.toInt16 = b.standardCode.map Int64.toInt16
  framework : a.frameworkCode.map Int32.toInt16 = b.frameworkCode.map Int32.toInt16
  program : a.programmeType.map Int32.toInt16 = b.programmeType.map Int32.toInt16
  pathway : a.pathwayCode.map Int32.toInt16 = b.pathwayCode.map Int32.toInt16
  cost : (a.apprenticeshipPriceEpisodes.map (·.cost)).sum =
    (b.apprenticeshipPriceEpisodes.map (·.cost)).sum
  start : a.apprenticeshipPriceEpisodes.head?.map (·.startDate) =
    b.apprenticeshipPriceEpisodes.head?.map (·.startDate)
  stopDate : a.stopDate = b.stopDate
  status : a.status = b.status
  pauseDate : a.latestPause.map (·.pauseDate) = b.latestPause.map (·.pauseDate)
  resumeDate : a.latestPause.bind (·.resumeDate) = b.latestPause.bind (·.resumeDate)

theorem toDataMatch_eq_iff {a b : ApprenticeshipModel} :
    a.toDataMatch = b.toDataMatch ↔ a.SameTerms b := by
  have hstatus : ApprenticeshipStatus.ofPayments a.status =
      ApprenticeshipStatus.ofPayments b.status ↔ a.status = b.status := by
    cases a.status <;> cases b.status <;> decide
  rw [DataMatch.ext_iff]
  constructor
  · rintro ⟨hukprn, huln, hstandard, hframework, hprogram, hpathway, hcost, hstart, hpaused,
      hresumed, hstopped, hcompletion, -⟩
    exact ⟨hukprn, huln, hstandard, hframework, hprogram, hpathway, hcost, hstart, hstopped,
      hstatus.mp hcompletion, hpaused, hresumed⟩
  · intro h
    exact ⟨h.ukprn, h.uln, h.standard, h.framework, h.program, h.pathway, h.cost, h.start,
      h.pauseDate, h.resumeDate, h.stopDate, hstatus.mpr h.status, rfl, rfl, rfl, rfl, rfl⟩

end ApprenticeshipModel

/-- The public id of an account; a call that failed has the blank one. -/
def Outcome.publicAccountId : Outcome AccountDetailViewModel → Option String
  | .ok (some account) => account.publicHashedAccountId
  | .ok none => some ""
  | .error _ => some ""

theorem EmployerService.getEmployerName_id (client : IAccountApiClient) (accountId : Int64) :
    (getEmployerName client accountId).2 = (client accountId).publicAccountId := by
  unfold getEmployerName
  cases client accountId with
  | error ex => rfl
  | ok account =>
    cases account with
    | none => rfl
    | some account => rfl

/-- The flag and the ids of a report: of the learner, the employer and the provider. -/
structure LearnerReport.Header where
  hasMultipleProviders : Bool
  learnerId : Option String
  employerId : Option String
  providerId : Option String

def LearnerReport.header (r : LearnerReport) : Header where
  hasMultipleProviders := r.hasMultipleProviders
  learnerId := r.learner.1
  employerId := r.employer.1
  providerId := r.provider.1

namespace LearnerReportProvider

def apprenticeships (p : LearnerReportProvider) : List ApprenticeshipModel :=
  p.dataLockService.archiveContext.apprenticeship

/-- The same stores with these rows as the archive's apprenticeships. -/
def withApprenticeships (p : LearnerReportProvider) (rows : List ApprenticeshipModel) :
    LearnerReportProvider :=
  { p with
    dataLockService :=
      { p.dataLockService with
        archiveContext := { p.dataLockService.archiveContext with apprenticeship := rows } } }

/-- What the order of the rows must not decide: the earnings that survive the provider
filter, the entries, and the header or the exception in its place. -/
@[ext] structure Observed where
  survivors : List EarningEventModel
  collectionPeriods : List CollectionPeriod
  header : Except Exception LearnerReport.Header

variable (p : LearnerReportProvider) (uln : Int64) (years : AcademicYear × AcademicYear)

def observed : Observed where
  survivors := CollectionPeriodReport.filter (p.activeApprenticeship uln)
    (p.fetchedEarnings uln years)
  collectionPeriods := (p.storedReport uln years).collectionPeriods
  header := (p.buildLearnerReport uln years).map LearnerReport.header

/-! The observations as a function of the chosen row. -/

def reportOf (app : Option ApprenticeshipModel) : CollectionPeriodReport :=
  .build app (p.fetchedEarnings uln years) (p.fetchedLocks uln years)

def headerOf : Option ApprenticeshipModel → LearnerReport.Header
  | none =>
    { hasMultipleProviders := false, learnerId := none, employerId := none, providerId := none }
  | some a =>
    { hasMultipleProviders := (p.fetchedEarnings uln years).any fun e => e.ukprn != a.ukprn
      learnerId := some (toString uln)
      employerId := (p.employerService a.accountId).publicAccountId
      providerId := some (toString a.ukprn) }

def observedOf (app : Option ApprenticeshipModel) : Observed where
  survivors := CollectionPeriodReport.filter app (p.fetchedEarnings uln years)
  collectionPeriods := (p.reportOf uln years app).collectionPeriods
  header := (p.reportOf uln years app).collectionPeriodsByYear.map fun _ =>
    p.headerOf uln years app

theorem observed_eq : p.observed uln years = p.observedOf uln years (p.activeApprenticeship uln) := by
  have hheader : ∀ d, LearnerReport.header (p.assemble uln years d) =
      p.headerOf uln years (p.activeApprenticeship uln) := by
    intro d
    cases ha : p.activeApprenticeship uln with
    | none =>
      rw [assemble_of_none p uln years ha]
      rfl
    | some a =>
      rw [assemble_of_some p uln years ha, headerOf, ← EmployerService.getEmployerName_id]
      rfl
  unfold observed observedOf
  rw [buildLearnerReport_eq]
  change _ = Observed.mk _ _ ((p.storedReport uln years).collectionPeriodsByYear.map _)
  cases (p.storedReport uln years).collectionPeriodsByYear with
  | error ex => rfl
  | ok d =>
    simp only [Except.map, hheader]
    rfl

theorem observed_withApprenticeships (rows : List ApprenticeshipModel) :
    (p.withApprenticeships rows).observed uln years =
      p.observedOf uln years (rows.find? fun a => a.Eligible uln) := by
  have hchoice : (p.withApprenticeships rows).activeApprenticeship uln =
      rows.find? fun a => a.Eligible uln := by
    change ((rows.filter fun x => x.uln = uln).find? fun a =>
      [PaymentsModel.ApprenticeshipStatus.active, .paused].contains a.status) = _
    rw [List.find?_filter]
    congr 1
    funext a
    have heligible : decide (a.Eligible uln) = true ↔
        a.uln = uln ∧ (a.status = .active ∨ a.status = .paused) := decide_eq_true_iff
    rw [Bool.eq_iff_iff, heligible]
    simp
  rw [observed_eq, hchoice]
  rfl

/-- What two rows must share for the report not to show which of them was chosen: the provider
always, the terms where an entry shows them, and the account's public id where the report
is built at all. -/
structure SameChoice (a b : ApprenticeshipModel) : Prop where
  ukprn : a.ukprn = b.ukprn
  terms : (∃ e, Retained (some a) (p.fetchedEarnings uln years) e) → a.SameTerms b
  employerId : (∀ e, Retained (some a) (p.fetchedEarnings uln years) e →
      ∃ y, AcademicYear.ofShortInt e.academicYear.toInt = .ok y) →
    (p.employerService a.accountId).publicAccountId =
      (p.employerService b.accountId).publicAccountId

variable {p uln years} {a b : ApprenticeshipModel}

theorem toString_ukprn_inj (h : toString a.ukprn = toString b.ukprn) : a.ukprn = b.ukprn := by
  rw [← Int64.toInt_inj]
  apply Int.repr_injective
  exact h

/-- Entries show the chosen row, so equal entries come from rows of the same terms. -/
theorem sameTerms_of_collectionPeriods
    (h : (p.reportOf uln years (some a)).collectionPeriods =
      (p.reportOf uln years (some b)).collectionPeriods)
    (hretained : ∃ e, Retained (some a) (p.fetchedEarnings uln years) e) : a.SameTerms b := by
  obtain ⟨e, he⟩ := hretained
  obtain ⟨c, hc, -⟩ : ∃ c ∈ (p.reportOf uln years (some a)).collectionPeriods,
      c.period = e.period := exists_entry_iff.mpr ⟨e, he, rfl⟩
  have hc' := hc
  rw [h] at hc'
  obtain ⟨e₁, -, rfl⟩ := mem_collectionPeriods.mp hc
  obtain ⟨e₂, -, heq⟩ := mem_collectionPeriods.mp hc'
  have hmatch : some b.toDataMatch = some a.toDataMatch :=
    congrArg CollectionPeriod.apprenticeship heq
  exact ApprenticeshipModel.toDataMatch_eq_iff.mp (Option.some.inj hmatch).symm

theorem header_eq_ok {app : Option ApprenticeshipModel} {h : LearnerReport.Header} :
    (p.observedOf uln years app).header = .ok h ↔
      (∃ d, (p.reportOf uln years app).collectionPeriodsByYear = .ok d) ∧
        p.headerOf uln years app = h := by
  unfold observedOf
  cases (p.reportOf uln years app).collectionPeriodsByYear with
  | error ex => simp [Except.map]
  | ok d => simp [Except.map]

/-- Where the report is built the headers can be read off it. -/
theorem headerOf_eq_of_observedOf
    (h : p.observedOf uln years (some a) = p.observedOf uln years (some b))
    (hyears : ∀ e, Retained (some a) (p.fetchedEarnings uln years) e →
      ∃ y, AcademicYear.ofShortInt e.academicYear.toInt = .ok y) :
    p.headerOf uln years (some b) = p.headerOf uln years (some a) := by
  have ha := header_eq_ok.mpr ⟨exists_byYear_iff_retained.mpr hyears, rfl⟩
  rw [h] at ha
  exact (header_eq_ok.mp ha).2

theorem sameChoice_of_observedOf
    (h : p.observedOf uln years (some a) = p.observedOf uln years (some b)) :
    SameChoice p uln years a b := by
  have hperiods : (p.reportOf uln years (some a)).collectionPeriods =
      (p.reportOf uln years (some b)).collectionPeriods :=
    congrArg Observed.collectionPeriods h
  refine ⟨?_, sameTerms_of_collectionPeriods hperiods, fun hyears => ?_⟩
  · by_cases hretained : ∃ e, Retained (some a) (p.fetchedEarnings uln years) e
    · exact (sameTerms_of_collectionPeriods hperiods hretained).ukprn
    · -- no entry, so no year can fail and both headers are there
      have hnone : ∀ e, Retained (some a) (p.fetchedEarnings uln years) e →
          ∃ y, AcademicYear.ofShortInt e.academicYear.toInt = .ok y :=
        fun e he => absurd ⟨e, he⟩ hretained
      have hid := congrArg LearnerReport.Header.providerId (headerOf_eq_of_observedOf h hnone)
      exact toString_ukprn_inj (Option.some.inj hid).symm
  · have hid := congrArg LearnerReport.Header.employerId (headerOf_eq_of_observedOf h hyears)
    exact hid.symm

theorem collectionPeriods_of_sameChoice (h : SameChoice p uln years a b) :
    (p.reportOf uln years (some a)).collectionPeriods =
      (p.reportOf uln years (some b)).collectionPeriods := by
  have hukprn : (some a).map (·.ukprn) = (some b).map (·.ukprn) := congrArg some h.ukprn
  by_cases hretained : ∃ e, Retained (some a) (p.fetchedEarnings uln years) e
  · exact collectionPeriods_congr hukprn
      (congrArg some (ApprenticeshipModel.toDataMatch_eq_iff.mpr (h.terms hretained)))
  · have hnone := not_exists.mp hretained
    rw [reportOf, reportOf, collectionPeriods_eq_nil.mpr hnone, eq_comm, collectionPeriods_eq_nil]
    intro e he
    exact hnone e ((retained_congr hukprn).mpr he)

theorem observedOf_of_sameChoice (h : SameChoice p uln years a b) :
    p.observedOf uln years (some a) = p.observedOf uln years (some b) := by
  have hukprn : (some a).map (·.ukprn) = (some b).map (·.ukprn) := congrArg some h.ukprn
  have hyears := collectionPeriodsByYear_congr (collectionPeriods_of_sameChoice h)
  have hheader : (p.observedOf uln years (some a)).header =
      (p.observedOf uln years (some b)).header := by
    unfold observedOf
    rw [← hyears]
    cases hbyYear : (p.reportOf uln years (some a)).collectionPeriodsByYear with
    | error ex => rfl
    | ok d =>
      have hid := h.employerId (exists_byYear_iff_retained.mp ⟨d, hbyYear⟩)
      simp only [Except.map, headerOf, hid, h.ukprn]
  exact Observed.ext (filter_congr_ukprn hukprn) (collectionPeriods_of_sameChoice h) hheader

/-- The report does not depend on the order of the apprenticeship rows exactly when all rows
of the learner that are active or paused make the same choice. -/
theorem observed_orderFree_iff (p : LearnerReportProvider) (uln : Int64)
    (years : AcademicYear × AcademicYear) :
    OrderFree (fun rows => (p.withApprenticeships rows).observed uln years) p.apprenticeships ↔
      ∀ a ∈ p.apprenticeships, ∀ b ∈ p.apprenticeships, a.Eligible uln → b.Eligible uln →
        SameChoice p uln years a b := by
  simp only [observed_withApprenticeships]
  rw [orderFree_find_iff]
  have hchoice : ∀ a b, p.observedOf uln years (some a) = p.observedOf uln years (some b) ↔
      SameChoice p uln years a b :=
    fun a b => ⟨sameChoice_of_observedOf, observedOf_of_sameChoice⟩
  simp only [decide_eq_true_eq, hchoice]

/-- Two active rows of one learner with different providers, and one earning of each. -/
def twoActive : LearnerReportProvider :=
  .ofArchive
    { apprenticeship := [apprenticeshipOf 10018916, apprenticeshipOf 10003161]
      earningEvent :=
        [earningR09 10018916 "ZPROG001" may6, earningR09 10003161 "ZPROG001" may6] }

/-- The other order of the rows makes the other provider's earning the one that survives. -/
theorem twoActive_order_decides :
    ¬ OrderFree (fun rows => (twoActive.withApprenticeships rows).observed 1003528448 years1920)
        twoActive.apprenticeships := by
  intro h
  have hswap := h [apprenticeshipOf 10003161, apprenticeshipOf 10018916] (List.Perm.swap _ _ [])
  have hsurvivors := congrArg Observed.survivors hswap
  revert hsurvivors
  decide

end LearnerReportProvider

end IdentifyDataLocks
