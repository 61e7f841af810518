import IdentifyDataLocks.PaymentTotals
import IdentifyDataLocks.PrintedRows
import IdentifyDataLocks.ProgrammeCodes

/-! The payments page beside the learner page: its table of possible data locks against the
table of an entry, and its entries and data locks against those that the learner page prints. -/
namespace IdentifyDataLocks
open Calendar Linq WebModel

namespace PaymentsLearnerModel

/-! The table under each commitment. -/

structure ComparisonRow where
  cssClass : String
  heading : String
  possibleDataLock : String
  deriving DecidableEq

/-- The text of the last column. -/
def mark (code : String) (matched : Bool) : String := if matched then "" else code

def comparisonRow (heading code : String) (matched : Bool) : ComparisonRow where
  cssClass := if matched then "dlock-matched" else "dlock-unmatched"
  heading := heading
  possibleDataLock := mark code matched

/-- `==` of a nullable long and a nullable int. -/
def liftedEq (x : Option Int64) (y : Option Int32) : Bool := x.map Int64.toInt = y.map Int32.toInt

/-- The table, as a server in the given zone compares the two start dates. -/
def comparisonRows (zone : TimeZoneInfo) (commitment : Commitment)
    (episode : WebModel.PriceEpisode) : List ComparisonRow :=
  [comparisonRow "☉ Ukprn" "DLOCK_01" (commitment.ukprn = episode.ukprn),
    comparisonRow "☉ Uln" "DLOCK_02" (commitment.uln = episode.uln),
    comparisonRow "☼ Standard Code" "DLOCK_03"
      (liftedEq commitment.standardCode episode.standardCode),
    comparisonRow "☼ Framework Code" "DLOCK_04" (commitment.frameworkCode = episode.frameworkCode),
    comparisonRow "☼ Programme Type" "DLOCK_05" (commitment.programmeType = episode.programmeType),
    comparisonRow "☼ Pathway Code" "DLOCK_06" (commitment.pathwayCode = episode.pathwayCode),
    comparisonRow "⛁ Cost" "DLOCK_07" (commitment.cost = episode.price),
    comparisonRow "⚐ Start Date" "DLOCK_09"
      (commitment.start.sameInstant zone episode.startDate)]

/-- The rows behind a commitment of a built page. -/
theorem exists_of_commitment {context : PaymentsDataContext} {page : PaymentsLearnerModel}
    {periods : List WebModel.CollectionPeriod} {learnerUln : Int64}
    (hu : longTryParse page.uln = some learnerUln) (h : onGet context page = .ok periods)
    {period : WebModel.CollectionPeriod} (hperiod : period ∈ periods)
    {episode : WebModel.PriceEpisode} (hepisode : episode ∈ period.priceEpisodes)
    {commitment : Commitment} (hcommitment : commitment ∈ episode.commitments) :
    ∃ e, Shown (context.learnerRows learnerUln).earnings e ∧
      ∃ pe ∈ e.priceEpisodes, ∃ a ∈ (context.learnerRows learnerUln).apprenticeships,
        ∃ x ∈ a.apprenticeshipPriceEpisodes,
          period = entryOf (context.learnerRows learnerUln) e ∧
          episode = mapPriceEpisode e pe (context.learnerRows learnerUln).paidCommitments
            (context.learnerRows learnerUln).lockedCommitments
            (context.learnerRows learnerUln).apprenticeships ∧
          commitment = toCommitment e
            (paymentsOf e pe (context.learnerRows learnerUln).paidCommitments)
            (failuresOf e (context.learnerRows learnerUln).lockedCommitments) a x := by
  rw [onGet_eq hu, Except.ok.injEq] at h
  obtain ⟨e, he, rfl⟩ := List.mem_map.mp (h ▸ hperiod)
  obtain ⟨pe, hpe, rfl⟩ := List.mem_map.mp hepisode
  obtain ⟨a, ha, hepisodes⟩ := List.mem_flatMap.mp hcommitment
  obtain ⟨x, hx, rfl⟩ := List.mem_map.mp hepisodes
  exact ⟨e, mem_shownEarnings.mp he, pe, hpe, a, ha, x, hx, rfl, rfl, rfl⟩

/-- A page is built for a number only. -/
theorem exists_uln_of_onGet {context : PaymentsDataContext} {page : PaymentsLearnerModel}
    {periods : List WebModel.CollectionPeriod} (h : onGet context page = .ok periods) :
    ∃ learnerUln, longTryParse page.uln = some learnerUln := by
  cases hu : longTryParse page.uln with
  | none =>
    rw [onGet, hu] at h
    cases h
  | some learnerUln => exact ⟨learnerUln, rfl⟩

instance (code : ℤ) (other : Option ℤ) : Decidable (Collides code other) :=
  decidable_of_iff (∃ c ∈ other, c ≠ code ∧ (2 ^ 16 : ℤ) ∣ c - code) Iff.rfl

/-- Two codes are equal when their narrowed values are and they do not collide. -/
theorem codes_eq_iff {α : Type} {toInt : α → ℤ} {toInt16 : α → Int16}
    (h : ∀ c, toInt16 c = Int16.ofInt (toInt c)) (code : Int32) (other : Option α) :
    other.map toInt = some code.toInt ↔
      other.map toInt16 = some code.toInt16 ∧ ¬ Collides code.toInt (other.map toInt) := by
  have hnarrowed := toInt16_eq_map_iff h code other
  constructor
  · intro heq
    have hdistinct : ¬ Collides code.toInt (other.map toInt) := by
      intro hcollides
      obtain ⟨c, hc, hne, -⟩ := hcollides
      exact hne (Option.some.inj (hc.symm.trans heq))
    exact ⟨((hnarrowed.mpr hdistinct).mpr heq.symm).symm, hdistinct⟩
  · intro hcodes
    exact ((hnarrowed.mpr hcodes.2).mp hcodes.1.symm).symm

section Agreement
variable (e : EarningEventModel) (a : ApprenticeshipModel) (locks : List DataLockEventModel)

theorem agrees_iff {κ : Type} [DecidableEq κ] (f : DataMatch → Option κ) :
    (e.toCollectionPeriod (some a) locks).agrees f = true ↔ f a.toDataMatch = f e.toDataMatch :=
  decide_eq_true_iff

/-- The standard codes here and in a row of the learner page. -/
theorem standard_agrees : liftedEq a.standardCode (some e.learningAimStandardCode) =
    ((e.toCollectionPeriod (some a) locks).agrees (·.standard) &&
      !Collides e.learningAimStandardCode.toInt (a.standardCode.map Int64.toInt)) := by
  rw [Bool.eq_iff_iff, Bool.and_eq_true, agrees_iff, Bool.not_eq_true', decide_eq_false_iff_not,
    liftedEq, decide_eq_true_iff]
  exact codes_eq_iff (fun c => (Int16.ofInt_int64ToInt c).symm) _ _

/-- Each of the other codes, given the two sides of its row on the learner page. -/
theorem code_agrees {code : Int32} {other : Option Int32} {f : DataMatch → Option Int16}
    (hother : f a.toDataMatch = other.map Int32.toInt16)
    (hcode : f e.toDataMatch = some code.toInt16) :
    decide (other = some code) = ((e.toCollectionPeriod (some a) locks).agrees f &&
      !Collides code.toInt (other.map Int32.toInt)) := by
  have heq : other = some code ↔ other.map Int32.toInt = some code.toInt := by
    cases other <;> simp [Int32.toInt_inj]
  rw [Bool.eq_iff_iff, Bool.and_eq_true, agrees_iff, Bool.not_eq_true', decide_eq_false_iff_not,
    decide_eq_true_iff, hother, hcode, heq]
  exact codes_eq_iff (fun c => (Int16.ofInt_int32ToInt c).symm) _ _

end Agreement

/-- Every commitment is one of an apprenticeship of the learner, under the entry and the price
episode of a shown earning, and it is compared as the learner page compares these rows: the
number of the provider alike, the number of the learner never in doubt, and the programme codes
alike but for a pair that the learner page narrows to one value. Cost and start date are those
of the two price episodes; the dates are compared as instants, so where the zone of the server
has one offset on both, as dates. -/
theorem comparisonRows_against_report (zone : TimeZoneInfo) (context : PaymentsDataContext)
    (page : PaymentsLearnerModel) (periods : List WebModel.CollectionPeriod)
    (h : onGet context page = .ok periods) :
    ∃ learnerUln, longTryParse page.uln = some learnerUln ∧
    ∀ period ∈ periods, ∀ episode ∈ period.priceEpisodes, ∀ commitment ∈ episode.commitments,
      ∃ e, Shown (context.learnerRows learnerUln).earnings e ∧
        ∃ pe ∈ e.priceEpisodes, ∃ a ∈ (context.learnerRows learnerUln).apprenticeships,
          ∃ x ∈ a.apprenticeshipPriceEpisodes,
          period = entryOf (context.learnerRows learnerUln) e ∧
          episode = mapPriceEpisode e pe (context.learnerRows learnerUln).paidCommitments
            (context.learnerRows learnerUln).lockedCommitments
            (context.learnerRows learnerUln).apprenticeships ∧
          commitment = toCommitment e
            (paymentsOf e pe (context.learnerRows learnerUln).paidCommitments)
            (failuresOf e (context.learnerRows learnerUln).lockedCommitments) a x ∧
          (∀ locks, (comparisonRows zone commitment episode).map (·.possibleDataLock) =
            [mark "DLOCK_01" ((e.toCollectionPeriod (some a) locks).agrees fun x => some x.ukprn),
              mark "DLOCK_02" ((e.toCollectionPeriod (some a) locks).agrees fun x => some x.uln),
              mark "DLOCK_03" ((e.toCollectionPeriod (some a) locks).agrees (·.standard) &&
                !Collides e.learningAimStandardCode.toInt (a.standardCode.map Int64.toInt)),
              mark "DLOCK_04" ((e.toCollectionPeriod (some a) locks).agrees (·.framework) &&
                !Collides e.learningAimFrameworkCode.toInt (a.frameworkCode.map Int32.toInt)),
              mark "DLOCK_05" ((e.toCollectionPeriod (some a) locks).agrees (·.program) &&
                !Collides e.learningAimProgrammeType.toInt (a.programmeType.map Int32.toInt)),
              mark "DLOCK_06" ((e.toCollectionPeriod (some a) locks).agrees (·.pathway) &&
                !Collides e.learningAimPathwayCode.toInt (a.pathwayCode.map Int32.toInt)),
              mark "DLOCK_07" (x.cost = pe.agreedPrice),
              mark "DLOCK_09" ((x.startDate.ticks : ℤ) - zone.getUtcOffset x.startDate =
                pe.startDate.ticks - zone.getUtcOffset pe.startDate)] ∧
            (e.toCollectionPeriod (some a) locks).agrees (fun x => some x.uln) = true) ∧
          (zone.getUtcOffset x.startDate = zone.getUtcOffset pe.startDate →
            (commitment.start.sameInstant zone episode.startDate = true ↔
              x.startDate = pe.startDate)) := by
  obtain ⟨learnerUln, hu⟩ := exists_uln_of_onGet h
  refine ⟨learnerUln, hu, ?_⟩
  intro period hperiod episode hepisode commitment hcommitment
  obtain ⟨e, he, pe, hpe, a, ha, x, hx, rfl, rfl, rfl⟩ :=
    exists_of_commitment hu h hperiod hepisode hcommitment
  have hearning := List.mem_filter.mp he.mem
  have happ := List.mem_filter.mp ha
  have hlearner : a.uln = e.learnerUln := by
    rw [of_decide_eq_true happ.2, of_decide_eq_true hearning.2]
  refine ⟨e, he, pe, hpe, a, ha, x, hx, rfl, rfl, rfl, fun locks => ?_,
    @DateTimeOffset.sameInstant_iff zone ⟨x.startDate⟩ ⟨pe.startDate⟩⟩
  have hukprn : decide (a.ukprn = e.ukprn) =
      (e.toCollectionPeriod (some a) locks).agrees fun x => some x.ukprn := by
    rw [Bool.eq_iff_iff, decide_eq_true_iff, agrees_iff, Option.some_inj]
    rfl
  have huln : (e.toCollectionPeriod (some a) locks).agrees (fun x => some x.uln) = true := by
    rw [agrees_iff, Option.some_inj]
    exact hlearner
  have hframework := @code_agrees e a locks _ _ (·.framework) rfl rfl
  have hprogram := @code_agrees e a locks _ _ (·.program) rfl rfl
  have hpathway := @code_agrees e a locks _ _ (·.pathway) rfl rfl
  refine ⟨?_, huln⟩
  rw [← hukprn, ← standard_agrees, ← hframework, ← hprogram, ← hpathway, huln]
  simp only [comparisonRows, List.map_cons, List.map_nil, comparisonRow, toCommitment,
    mapPriceEpisode, hlearner, decide_true, DateTimeOffset.sameInstant, DateTimeOffset.utcTicks]

/-- The page of the rows that the learner page compares, with its one commitment. -/
theorem onGet_comparedR09 :
    ∃ period, onGet LearnerModel.comparedR09 ⟨some "1003528448"⟩ = .ok [period] ∧
      period.periodName = "R09" ∧
      ∃ episode ∈ period.priceEpisodes, ∃ commitment ∈ episode.commitments,
        commitment.id = 118 := by
  have hshown : shownEarnings (LearnerModel.comparedR09.learnerRows 1003528448).earnings =
      [LearnerModel.submissionR09] := by decide
  exact ⟨_, onGet_eq_singleton longTryParse_1003528448 hshown, rfl, _, List.mem_singleton.mpr rfl,
    _, List.mem_singleton.mpr rfl, rfl⟩

/-- In a zone that is one hour ahead: the standards 25 and 65561 are told apart here, and so are
the costs and the dates. -/
theorem comparisonRows_against_report_compared :
    ∃ period, onGet LearnerModel.comparedR09 ⟨some "1003528448"⟩ = .ok [period] ∧
      ∃ episode ∈ period.priceEpisodes, ∃ commitment ∈ episode.commitments,
        (comparisonRows ⟨fun _ => 36000000000⟩ commitment episode).map (·.possibleDataLock) =
          ["", "", "DLOCK_03", "", "", "", "DLOCK_07", "DLOCK_09"] := by
  obtain ⟨period, hget, -, episode, hepisode, commitment, hcommitment, -⟩ := onGet_comparedR09
  obtain ⟨learnerUln, hu, hrows⟩ := comparisonRows_against_report ⟨fun _ => 36000000000⟩
    LearnerModel.comparedR09 ⟨some "1003528448"⟩ [period] hget
  obtain rfl : 1003528448 = learnerUln :=
    Option.some.inj (longTryParse_1003528448.symm.trans hu)
  obtain ⟨e, he, pe, hpe, a, ha, x, hx, -, -, -, hmarks, -⟩ :=
    hrows period (List.mem_singleton.mpr rfl) episode hepisode commitment hcommitment
  obtain rfl : e = LearnerModel.submissionR09 := List.mem_singleton.mp he.mem
  obtain rfl : a = LearnerModel.apprenticeshipR09 := List.mem_singleton.mp ha
  obtain rfl := List.mem_singleton.mp hpe
  obtain rfl := List.mem_singleton.mp hx
  refine ⟨period, hget, episode, hepisode, commitment, hcommitment, ?_⟩
  rw [(hmarks []).1]
  decide +kernel

/-! Entries and data locks of the two pages. -/

theorem exists_dataLocked {rows : LearnerRows} {e : EarningEventModel} {l : DataLockEventModel}
    {d : DataLock} (hl : l ∈ rows.lockedCommitments)
    (hperiod : l.collectionPeriod = e.collectionPeriod) (hfails : l.FailsWith d)
    {episode : WebModel.PriceEpisode} (hepisode : episode ∈ (entryOf rows e).priceEpisodes)
    {commitment : Commitment} (hcommitment : commitment ∈ episode.commitments) :
    ∃ lock ∈ commitment.dataLocked, d.value = lock.dataLockErrorCode.value.toNat := by
  obtain ⟨npp, hnpp, failure, hfailure, hcode⟩ := hfails
  obtain ⟨pe, -, rfl⟩ := List.mem_map.mp hepisode
  obtain ⟨a, -, hepisodes⟩ := List.mem_flatMap.mp hcommitment
  obtain ⟨x, -, rfl⟩ := List.mem_map.mp hepisodes
  have hcodes : ∀ next, (create toDataLock next (failuresOf e rows.lockedCommitments)).map
      (·.dataLockErrorCode) =
        (failuresOf e rows.lockedCommitments).map (·.failure.dataLockFailure) :=
    fun next => @map_create _ _ _ toDataLock _ _ (fun _ _ => rfl) next _
  have hmem : failure.dataLockFailure ∈
      (failuresOf e rows.lockedCommitments).map (·.failure.dataLockFailure) := by
    refine List.mem_map.mpr ⟨⟨l, npp, failure⟩, ?_, rfl⟩
    simp only [failuresOf, List.mem_flatMap, List.mem_filter, List.mem_map, decide_eq_true_eq]
    exact ⟨l, ⟨hl, hperiod⟩, npp, hnpp, failure, hfailure, rfl⟩
  rw [← hcodes (paymentsOf e pe rows.paidCommitments).length] at hmem
  obtain ⟨lock, hlock, heq⟩ := List.mem_map.mp hmem
  exact ⟨lock, hlock, by rw [hcode, ← heq]⟩

open LearnerModel

/-- The payments page of the same number has an entry for each entry that the learner page
prints from the archive, and under every commitment of it each of the printed codes, unless an
event of the current period gives the code. -/
theorem payments_account_for_report (p : LearnerReportProvider) (today : DateTime)
    (page : LearnerModel) (uln : Int64) (hu : longTryParse page.uln = some uln)
    (h : Answerable today) :
    ∃ page' blocks s periods,
      (request p (fun _ => today) page).run {} = .ok ((page', blocks), s) ∧
      onGet p.dataLockService.archiveContext ⟨page.uln⟩ = .ok periods ∧
      ∀ entry ∈ printed blocks, ∃ e : EarningEventModel,
        e.period = entry.2.period ∧ e.toDataMatch = entry.2.ilr ∧
        (e ∈ p.dataLockService.archiveContext.earningEvent →
          ∃ period ∈ periods, period.periodName = s!"R0{e.collectionPeriod}" ∧
            ∀ d ∈ entry.2.dataLocks,
              (∃ l ∈ p.dataLockService.currentPeriodContext.dataLockEvent,
                l.learnerUln = uln ∧ l.period = entry.2.period ∧ l.FailsWith d) ∨
              ∀ episode ∈ period.priceEpisodes, ∀ commitment ∈ episode.commitments,
                ∃ lock ∈ commitment.dataLocked,
                  d.value = lock.dataLockErrorCode.value.toNat) ∧
        (e ∉ p.dataLockService.archiveContext.earningEvent →
          e ∈ p.dataLockService.currentPeriodContext.earningEvent) := by
  obtain ⟨years, page', blocks, s, hyears, hrun⟩ := exists_answer p hu h
  refine ⟨page', blocks, s, _, hrun, onGet_eq hu, fun entry hentry => ?_⟩
  obtain ⟨e, he, hside, -⟩ := exists_of_mem_storedReport (mem_of_printed hu hyears hrun hentry)
  rw [hside]
  refine ⟨e, rfl, rfl, fun harchive => ?_, fun harchive => he.1.resolve_left harchive⟩
  have hearning : e ∈ (p.dataLockService.archiveContext.learnerRows uln).earnings :=
    List.mem_filter.mpr ⟨harchive, decide_eq_true he.2.1⟩
  obtain ⟨e', hshown, hperiod⟩ := exists_shown hearning
  refine ⟨_, List.mem_map_of_mem (mem_shownEarnings.mpr hshown), ?_, fun d hd => ?_⟩
  · rw [← hperiod]
    rfl
  · obtain ⟨l, hl, hconcerns, hfails⟩ := EarningEventModel.mem_toDataLocks.mp hd
    have hstored := DataLockService.mem_locks_getLearnerData.mp hl
    rcases hstored.1 with harchived | hcurrent
    · refine Or.inr fun episode hepisode commitment hcommitment => ?_
      have hlocked : l ∈ (p.dataLockService.archiveContext.learnerRows uln).lockedCommitments :=
        List.mem_filter.mpr ⟨harchived, decide_eq_true hstored.2.1⟩
      exact exists_dataLocked hlocked (hconcerns.2.2.trans hperiod.symm) hfails hepisode
        hcommitment
    · exact Or.inl ⟨l, hcurrent, hstored.2.1,
        (DataLockEventModel.concerns_iff.mp hconcerns).2, hfails⟩

theorem payments_account_for_report_may7 :
    ∃ page' blocks s period,
      (request (.ofArchive comparedR09) (fun _ => CollectionPeriodReport.may7)
        { uln := some "1003528448" }).run {} = .ok ((page', blocks), s) ∧
      onGet comparedR09 ⟨some "1003528448"⟩ = .ok [period] ∧
      ∃ entry ∈ printed blocks, entry.2.period = ⟨1920, 9⟩ ∧ period.periodName = "R09" ∧
        ∃ episode ∈ period.priceEpisodes, ∃ commitment ∈ episode.commitments,
          commitment.id = 118 ∧
          ∃ lock ∈ commitment.dataLocked, lock.dataLockErrorCode.value.toNat = 3 := by
  obtain ⟨years, hyears⟩ : ∃ years, YearsAt CollectionPeriodReport.may7 years :=
    exists_yearsAt (by decide)
  obtain ⟨page', blocks, s, periods, hrun, hget, hentries⟩ := payments_account_for_report
    (.ofArchive comparedR09) CollectionPeriodReport.may7 { uln := some "1003528448" } 1003528448
    longTryParse_1003528448 (by decide)
  obtain ⟨period, hperiod, hname, episode, hepisode, commitment, hcommitment, hid⟩ :=
    onGet_comparedR09
  obtain ⟨entry, hentry, hR09, -, -, hlock⟩ := exists_printed_comparedR09 hyears hrun
  refine ⟨page', blocks, s, period, hrun, hperiod, entry, hentry, hR09, hname, episode, hepisode,
    commitment, hcommitment, hid, ?_⟩
  obtain ⟨e, -, -, harchived, hcurrent⟩ := hentries entry hentry
  have harchive : e ∈ comparedR09.earningEvent := by
    by_contra hnot
    exact absurd (hcurrent hnot) List.not_mem_nil
  obtain ⟨period', hperiod', -, hcodes⟩ := harchived harchive
  obtain rfl : periods = [period] := Except.ok.inj (hget.symm.trans hperiod)
  obtain rfl := List.mem_singleton.mp hperiod'
  obtain ⟨l, hl, -⟩ | hall := hcodes ⟨3⟩ hlock
  · cases hl
  · obtain ⟨lock, hlocked, hvalue⟩ := hall episode hepisode commitment hcommitment
    exact ⟨lock, hlocked, Int.ofNat.inj hvalue.symm⟩

end PaymentsLearnerModel

end IdentifyDataLocks
