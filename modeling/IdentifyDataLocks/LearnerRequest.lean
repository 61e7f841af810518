import IdentifyDataLocks.LearnerPage

/-! Requests under a clock: which academic years a request asks for, looks up and prints. -/
namespace IdentifyDataLocks
open Calendar Linq Fallible CollectionPeriodReport

namespace LearnerModel

variable {learnerReportProvider : LearnerReportProvider} {timeProvider : ITimeProvider}

/-- The three evaluations of one `OnGetAsync`: for the query and for the two lookups. -/
theorem run_onGetAsync {page page' : LearnerModel} {uln : Int64} {s s' : Reads}
    (hu : longTryParse page.uln = some uln) :
    (onGetAsync learnerReportProvider timeProvider page).run s = .ok (page', s') ↔
      ∃ q r l₁ cs l₂ ps, PairAt timeProvider s.count q ∧
        learnerReportProvider.buildLearnerReport uln q = .ok r ∧
        PairAt timeProvider (s.count + 2) l₁ ∧
        getDataLocksForAcademicYear r l₁.1.toShortInt = .ok cs ∧
        PairAt timeProvider (s.count + 4) l₂ ∧
        getDataLocksForAcademicYear r l₂.2.toShortInt = .ok ps ∧
        page' = page.fill r cs ps ∧
        s' = { count := s.count + 6, evaluated := s.evaluated ++ [q, l₁, l₂] } := by
  unfold onGetAsync
  simp only [hu, run_bind_ok_iff, run_academicYears, run_lift_ok_iff, run_return_ok_iff,
    Prod.mk.injEq]
  constructor
  · rintro ⟨q, _, ⟨hq, rfl⟩, r, _, ⟨hr, rfl⟩, l₁, _, ⟨hl₁, rfl⟩, cs, _, ⟨hcs, rfl⟩,
      l₂, _, ⟨hl₂, rfl⟩, ps, _, ⟨hps, rfl⟩, rfl, rfl⟩
    exact ⟨q, r, l₁, cs, l₂, ps, hq, hr, hl₁, hcs, hl₂, hps, rfl, by simp⟩
  · rintro ⟨q, r, l₁, cs, l₂, ps, hq, hr, hl₁, hcs, hl₂, hps, rfl, rfl⟩
    exact ⟨q, _, ⟨hq, rfl⟩, r, _, ⟨hr, rfl⟩, l₁, _, ⟨hl₁, rfl⟩, cs, _, ⟨hcs, rfl⟩,
      l₂, _, ⟨hl₂, rfl⟩, ps, _, ⟨hps, rfl⟩, rfl, by simp⟩

def Supported (timeProvider : ITimeProvider) : Prop :=
  ∀ n, 2001 ≤ AcademicYear.startOf (timeProvider n) ∧
    AcademicYear.startOf (timeProvider n) ≤ 2098

theorem exists_pairAt (h : Supported timeProvider) (n : ℕ) :
    ∃ pair, PairAt timeProvider n pair := by
  obtain ⟨hlo, hhi⟩ := h n
  obtain ⟨hlo', hhi'⟩ := h (n + 1)
  obtain ⟨current, hc⟩ : ∃ y, AcademicYear.startingIn (AcademicYear.startOf (timeProvider n)) =
      .ok y := AcademicYear.exists_startingIn (by omega)
  obtain ⟨previous, hp⟩ : ∃ y, AcademicYear.startingIn
      (AcademicYear.startOf (timeProvider (n + 1)) - 1) = .ok y :=
    AcademicYear.exists_startingIn (by omega)
  exact ⟨(current, previous), AcademicYear.startingIn_eq_ok.mp hc,
    AcademicYear.startingIn_eq_ok.mp hp⟩

theorem PairAt.inCentury {n : ℕ} {pair : AcademicYear × AcademicYear}
    (hpair : PairAt timeProvider n pair) (h : Supported timeProvider) :
    pair.1.InCentury ∧ pair.2.InCentury := by
  obtain ⟨hc, hp⟩ := hpair
  have hn := h n
  have hn' := h (n + 1)
  unfold AcademicYear.InCentury
  omega

/-- Years in the century are built into a report whose every lookup succeeds. -/
theorem exists_report (p : LearnerReportProvider) (uln : Int64)
    {years : AcademicYear × AcademicYear} (hc : years.1.InCentury) (hp : years.2.InCentury) :
    ∃ r, p.buildLearnerReport uln years = .ok r ∧
      ∀ y : AcademicYear, y.InCentury →
        getDataLocksForAcademicYear r y.toShortInt =
          .ok ((p.storedReport uln years).collectionPeriods.filter
            fun c => c.period.year = y.toShortInt) := by
  obtain ⟨d, hd⟩ : ∃ d, (p.storedReport uln years).collectionPeriodsByYear = .ok d := by
    apply exists_collectionPeriodsByYear.mpr
    intro c hmem
    rw [CollectionPeriod.academicYear]
    rcases p.year_of_mem_storedReport uln years hmem with hy | hy
    · exact ⟨years.1, (AcademicYear.ofShortInt_eq_ok_iff hc).mpr hy⟩
    · exact ⟨years.2, (AcademicYear.ofShortInt_eq_ok_iff hp).mpr hy⟩
  refine ⟨p.assemble uln years d, (p.buildLearnerReport_ok_iff uln years).mpr ⟨d, hd, rfl⟩,
    fun y hy => ?_⟩
  rw [getDataLocksForAcademicYear, (AcademicYear.ofShortInt_eq_ok_iff hy).mpr rfl,
    p.assemble_dataLocks uln years d, ← tryGetValue_eq_filter hd hy]
  rfl

theorem exists_run_onGetAsync (p : LearnerReportProvider) {page : LearnerModel} {uln : Int64}
    (h : Supported timeProvider) (hu : longTryParse page.uln = some uln) :
    ∃ q r l₁ l₂, PairAt timeProvider 0 q ∧ PairAt timeProvider 2 l₁ ∧ PairAt timeProvider 4 l₂ ∧
      p.buildLearnerReport uln q = .ok r ∧
      (onGetAsync p timeProvider page).run {} = .ok
        (page.fill r
          ((p.storedReport uln q).collectionPeriods.filter
            fun c => c.period.year = l₁.1.toShortInt)
          ((p.storedReport uln q).collectionPeriods.filter
            fun c => c.period.year = l₂.2.toShortInt),
        { count := 6, evaluated := [q, l₁, l₂] }) := by
  obtain ⟨q, hq⟩ := exists_pairAt h 0
  obtain ⟨l₁, hl₁⟩ := exists_pairAt h 2
  obtain ⟨l₂, hl₂⟩ := exists_pairAt h 4
  obtain ⟨hqc, hqp⟩ := hq.inCentury h
  obtain ⟨r, hr, hget⟩ := exists_report p uln hqc hqp
  refine ⟨q, r, l₁, l₂, hq, hl₁, hl₂, hr, (run_onGetAsync hu).mpr ?_⟩
  exact ⟨q, r, l₁, _, l₂, _, hq, hr, hl₁, hget _ (hl₁.inCentury h).1, hl₂,
    hget _ (hl₂.inCentury h).2, rfl, rfl⟩

/-- Newest first puts the larger code first, so the two lookups of the requested pair partition
the stored report. -/
theorem lookups_append_of_lt {p : LearnerReportProvider} {uln : Int64}
    {years : AcademicYear × AcademicYear} (hcode : years.2.toShortInt < years.1.toShortInt) :
    ((p.storedReport uln years).collectionPeriods.filter
        fun c => c.period.year = years.1.toShortInt) ++
      ((p.storedReport uln years).collectionPeriods.filter
        fun c => c.period.year = years.2.toShortInt) =
      (p.storedReport uln years).collectionPeriods := by
  have hyear := fun c => p.year_of_mem_storedReport uln years (c := c)
  apply filter_append_filter
  · intro c hmem
    rcases hyear c hmem with hy | hy
    · simp [hy, hcode.ne']
    · simp [hy, hcode.ne]
  · refine (p.storedReport uln years).newest_first.imp_of_mem fun {a b} ha _ hba hb => ?_
    have hle : b.period.year ≤ a.period.year := by
      rcases Period.lt_iff.mp (Period.compareTo_neg.mp hba) with hy | hy
      · exact hy.le
      · exact hy.1.le
    have hb' : b.period.year = years.1.toShortInt := by simpa using hb
    rcases hyear a ha with hy | hy
    · simpa using hy
    · omega

theorem lookups_append {p : LearnerReportProvider} {uln : Int64}
    {years : AcademicYear × AcademicYear} (hc : years.1.InCentury) (hp : years.2.InCentury)
    (hlt : years.2.start < years.1.start) :
    ((p.storedReport uln years).collectionPeriods.filter
        fun c => c.period.year = years.1.toShortInt) ++
      ((p.storedReport uln years).collectionPeriods.filter
        fun c => c.period.year = years.2.toShortInt) =
      (p.storedReport uln years).collectionPeriods :=
  lookups_append_of_lt (AcademicYear.toShortInt_lt hp hc hlt)

/-- Every evaluated pair stems from its own two reads. -/
structure Tracks (timeProvider : ITimeProvider) (s : Reads) : Prop where
  count_eq : s.count = 2 * s.evaluated.length
  pairAt : ∀ i (hi : i < s.evaluated.length), PairAt timeProvider (2 * i) s.evaluated[i]

theorem Tracks.empty : Tracks timeProvider {} := ⟨rfl, fun i hi => absurd hi (Nat.not_lt_zero i)⟩

theorem Tracks.push {s : Reads} {pair : AcademicYear × AcademicYear} (h : Tracks timeProvider s)
    (hp : PairAt timeProvider s.count pair) :
    Tracks timeProvider { count := s.count + 2, evaluated := s.evaluated ++ [pair] } := by
  refine ⟨by simp [h.count_eq, mul_add], fun i hi => ?_⟩
  simp only [List.length_append, List.length_singleton] at hi
  by_cases hlt : i < s.evaluated.length
  · simpa [hlt] using h.pairAt i hlt
  · obtain rfl : i = s.evaluated.length := by omega
    simpa [h.count_eq] using hp

theorem startOf_eq_of_le (hmono : Monotone timeProvider) {n i : ℕ} (hi : i ≤ n)
    (h : AcademicYear.startOf (timeProvider 0) = AcademicYear.startOf (timeProvider n)) :
    AcademicYear.startOf (timeProvider i) = AcademicYear.startOf (timeProvider 0) := by
  have hlo := AcademicYear.startOf_mono (hmono (Nat.zero_le i))
  have hhi := AcademicYear.startOf_mono (hmono hi)
  omega

/-- The evaluated pairs are one pair of consecutive years exactly when the first and the last
read fall into one academic year. -/
theorem Tracks.agree_iff {s : Reads} (h : Tracks timeProvider s) (hne : 0 < s.evaluated.length)
    (hmono : Monotone timeProvider) :
    ((∀ pair ∈ s.evaluated, pair.1.sub 1 = .ok pair.2) ∧
        ∀ a ∈ s.evaluated, ∀ b ∈ s.evaluated, a = b) ↔
      AcademicYear.startOf (timeProvider 0) =
        AcademicYear.startOf (timeProvider (s.count - 1)) := by
  have hcount := h.count_eq
  constructor
  · intro hagree
    obtain ⟨hprev, hsame⟩ := hagree
    have hlast : s.evaluated.length - 1 < s.evaluated.length := by omega
    obtain ⟨hfirst, -⟩ := h.pairAt 0 hne
    obtain ⟨-, hread⟩ := h.pairAt (s.evaluated.length - 1) hlast
    have heq := hsame _ (List.getElem_mem hne) _ (List.getElem_mem hlast)
    have hsub := AcademicYear.sub_eq_ok.mp (hprev _ (List.getElem_mem hne))
    have hindex : 2 * (s.evaluated.length - 1) + 1 = s.count - 1 := by omega
    rw [← heq, hindex] at hread
    simp only [mul_zero] at hfirst
    omega
  · intro hyear
    have hpair : ∀ pair ∈ s.evaluated,
        (pair.1.start : ℤ) = AcademicYear.startOf (timeProvider 0) ∧
          (pair.2.start : ℤ) = AcademicYear.startOf (timeProvider 0) - 1 := by
      intro pair hmem
      obtain ⟨i, hi, rfl⟩ := List.getElem_of_mem hmem
      obtain ⟨hc, hp⟩ := h.pairAt i hi
      rw [startOf_eq_of_le hmono (by omega) hyear] at hc hp
      exact ⟨hc, hp⟩
    refine ⟨fun pair hmem => ?_, fun a ha b hb => ?_⟩
    · obtain ⟨hc, hp⟩ := hpair pair hmem
      rw [AcademicYear.sub_eq_ok, hc, hp]
    · obtain ⟨hac, hap⟩ := hpair a ha
      obtain ⟨hbc, hbp⟩ := hpair b hb
      exact Prod.ext (AcademicYear.start_injective (by omega))
        (AcademicYear.start_injective (by omega))

/-- With the clock at rest a request throws nothing, and its two years are the stored report:
no entry is lost, repeated, reordered or put under the wrong year. -/
theorem onGetAsync_partitions (p : LearnerReportProvider) (page : LearnerModel) (uln : Int64)
    (today : DateTime) (hu : longTryParse page.uln = some uln)
    (hd : 2001 ≤ AcademicYear.startOf today ∧ AcademicYear.startOf today ≤ 2098) :
    ∃ current previous page' s,
      AcademicYear.ofDateTime today = .ok current ∧ current.sub 1 = .ok previous ∧
      (onGetAsync p (fun _ => today) page).run {} = .ok (page', s) ∧
      (∀ c ∈ page'.currentYearDataLocks, c.period.year = current.toShortInt) ∧
      (∀ c ∈ page'.previousYearDataLocks, c.period.year = previous.toShortInt) ∧
      page'.currentYearDataLocks ++ page'.previousYearDataLocks =
        (p.storedReport uln (current, previous)).collectionPeriods := by
  have hs : Supported fun _ => today := fun _ => hd
  obtain ⟨q, r, l₁, l₂, hq, hl₁, hl₂, -, hrun⟩ := exists_run_onGetAsync p hs hu
  have htracks : Tracks (fun _ => today) { count := 6, evaluated := [q, l₁, l₂] } :=
    ((Tracks.empty.push hq).push hl₁).push hl₂
  obtain ⟨hconsecutive, hsame⟩ := (htracks.agree_iff (by simp) monotone_const).mpr rfl
  obtain rfl : l₁ = q := hsame l₁ (by simp) q (by simp)
  obtain rfl : l₂ = l₁ := hsame l₂ (by simp) l₁ (by simp)
  obtain ⟨hc, hp⟩ := hq.inCentury hs
  have hsub := hconsecutive l₂ (by simp)
  have hstart := AcademicYear.sub_eq_ok.mp hsub
  refine ⟨l₂.1, l₂.2, _, _, AcademicYear.ofDateTime_eq_ok.mpr hq.1, hsub, hrun, ?_, ?_, ?_⟩
  · intro c hmem
    simpa using (List.mem_filter.mp hmem).2
  · intro c hmem
    simpa using (List.mem_filter.mp hmem).2
  · exact lookups_append hc hp (by omega)

/-- R09 of 2019-20 and R10 of the year before. -/
def twoYearsR09 : LearnerReportProvider :=
  .ofArchive
    { earningEvent :=
        [{ earningR09 10018916 "ZPROG001" may6 with academicYear := 1819, collectionPeriod := 10 },
         earningR09 10018916 "ZPROG001" may6] }

theorem onGetAsync_partitions_may7 :
    ∃ page' s,
      (onGetAsync twoYearsR09 (fun _ => may7) { uln := some "1003528448" }).run {} =
        .ok (page', s) ∧
      page'.currentYearDataLocks.map (·.period) = [⟨1920, 9⟩] ∧
      page'.previousYearDataLocks.map (·.period) = [⟨1819, 10⟩] := by
  obtain ⟨current, previous, page', s, hc, hp, hrun, hcurrent, hprevious, hreport⟩ :=
    onGetAsync_partitions twoYearsR09 { uln := some "1003528448" } 1003528448 may7
      longTryParse_1003528448 (by decide)
  have hstart : AcademicYear.startOf may7 = 2019 := by decide
  obtain rfl : current = LearnerReportProvider.years1920.1 := by
    rw [AcademicYear.ofDateTime_eq_ok, hstart] at hc
    exact AcademicYear.start_injective (Int.ofNat.inj hc)
  obtain rfl : previous = LearnerReportProvider.years1920.2 :=
    AcademicYear.start_injective (Int.ofNat.inj (AcademicYear.sub_eq_ok.mp hp))
  have hperiods : page'.currentYearDataLocks.map (·.period) ++
      page'.previousYearDataLocks.map (·.period) = [⟨1920, 9⟩, ⟨1819, 10⟩] := by
    rw [← List.map_append, hreport]
    decide +kernel
  -- the year of a period says which of the two lists it is in
  have hkept : page'.currentYearDataLocks.map (·.period) =
      (page'.currentYearDataLocks.map (·.period) ++
        page'.previousYearDataLocks.map (·.period)).filter (·.year = 1920) := by
    rw [List.filter_append, List.filter_eq_self.mpr, List.filter_eq_nil_iff.mpr, List.append_nil]
    · simp only [List.forall_mem_map, decide_eq_true_eq]
      exact fun c hmem hyear => absurd ((hprevious c hmem).symm.trans hyear) (by decide)
    · simp only [List.forall_mem_map, decide_eq_true_eq]
      exact hcurrent
  rw [hperiods] at hkept
  rw [hkept] at hperiods
  exact ⟨page', s, hrun, hkept, List.cons_injective hperiods⟩

/-! A clock that moves during the request. -/

/-- The entries on the page, each with the year of the heading above it. -/
def printed (blocks : List Block) : List (AcademicYear × CollectionPeriod) :=
  blocks.flatMap fun block =>
    match block with
    | .fundingYear year => year.entries.map fun c => (year.academicYear, c)
    | _ => []

theorem printed_notice (page : LearnerModel) : printed page.notice = [] := by
  cases hm : page.hasMultipleProviders with
  | true => simp [notice, hm, printed, currentProviderOnly]
  | false => simp [notice, hm, printed]

theorem printed_message (page : LearnerModel) : printed (noActiveDataLocks :: page.notice) = [] :=
  printed_notice page

theorem printed_years (page : LearnerModel) (current previous : AcademicYear) :
    printed (page.notice ++
      [collectionPeriodsPartial current page.currentYearDataLocks page.hasDataLocksInCurrentYear,
        collectionPeriodsPartial previous page.previousYearDataLocks
          page.hasDataLocksInPreviousYear]) =
      page.currentYearDataLocks.map (fun c => (current, c)) ++
        page.previousYearDataLocks.map (fun c => (previous, c)) := by
  have hentries : ∀ l : List CollectionPeriod, (if l = [] then [] else l) = l := by
    intro l
    cases l with
    | nil => rfl
    | cons c l => rfl
  rw [printed, List.flatMap_append]
  change printed page.notice ++ _ = _
  rw [printed_notice]
  simp [collectionPeriodsPartial, hasDataLocksInCurrentYear, hasDataLocksInPreviousYear, hentries]

theorem shown_once_of_lookups {p : LearnerReportProvider} {uln : Int64}
    {years : AcademicYear × AcademicYear} (hc : years.1.InCentury) (hp : years.2.InCentury)
    (hlt : years.2.start < years.1.start) {blocks : List Block}
    (hprinted : printed blocks =
      ((p.storedReport uln years).collectionPeriods.filter
          fun c => c.period.year = years.1.toShortInt).map (fun c => (years.1, c)) ++
        ((p.storedReport uln years).collectionPeriods.filter
          fun c => c.period.year = years.2.toShortInt).map fun c => (years.2, c)) :
    ∀ c ∈ (p.storedReport uln years).collectionPeriods,
      ((printed blocks).map Prod.snd).count c = 1 ∧
        ∃ y, c.academicYear = .ok y ∧ (y, c) ∈ printed blocks := by
  intro c hmem
  have hsnd : (printed blocks).map Prod.snd = (p.storedReport uln years).collectionPeriods := by
    simp only [hprinted, List.map_append, List.map_map, Function.comp_def, List.map_id']
    exact lookups_append hc hp hlt
  refine ⟨?_, ?_⟩
  · rw [hsnd]
    exact List.count_eq_one_of_mem (nodup_periods _).of_map hmem
  · rcases p.year_of_mem_storedReport uln years hmem with hy | hy
    · refine ⟨years.1, (AcademicYear.ofShortInt_eq_ok_iff hc).mpr hy, ?_⟩
      rw [hprinted]
      simp [hmem, hy]
    · refine ⟨years.2, (AcademicYear.ofShortInt_eq_ok_iff hp).mpr hy, ?_⟩
      rw [hprinted]
      simp [hmem, hy]

/-- The pairs of the query, of the two lookups and of the headings are one pair of consecutive
years, and every fetched entry stands on the page exactly once, under its own year's heading. -/
structure ClockConsistent (fetched : List CollectionPeriod) (blocks : List Block) (s : Reads) :
    Prop where
  consecutive : ∀ pair ∈ s.evaluated, pair.1.sub 1 = .ok pair.2
  same : ∀ a ∈ s.evaluated, ∀ b ∈ s.evaluated, a = b
  shown_once : ∀ c ∈ fetched, ((printed blocks).map Prod.snd).count c = 1 ∧
    ∃ y, c.academicYear = .ok y ∧ (y, c) ∈ printed blocks

section ClockConsistent
variable {fetched : List CollectionPeriod} {blocks : List Block} {s : Reads}

/-- A page without sections shows every fetched entry only where none was fetched. -/
theorem clockConsistent_iff_of_hidden (htracks : Tracks timeProvider s)
    (hne : 0 < s.evaluated.length) (hmono : Monotone timeProvider) (hprinted : printed blocks = []) :
    ClockConsistent fetched blocks s ↔
      AcademicYear.startOf (timeProvider 0) = AcademicYear.startOf (timeProvider (s.count - 1)) ∧
        fetched = [] := by
  have hagree := htracks.agree_iff hne hmono
  constructor
  · intro h
    refine ⟨hagree.mp ⟨h.consecutive, h.same⟩, ?_⟩
    rw [List.eq_nil_iff_forall_not_mem]
    intro c hc
    obtain ⟨hcount, -⟩ := h.shown_once c hc
    simp [hprinted] at hcount
  · intro h
    obtain ⟨hyear, hnil⟩ := h
    obtain ⟨hconsecutive, hsame⟩ := hagree.mpr hyear
    exact ⟨hconsecutive, hsame, fun c hc => by simp [hnil] at hc⟩

/-- A page whose sections agree with the query is consistent as far as the clock lets it be. -/
theorem clockConsistent_iff_of_shown (htracks : Tracks timeProvider s)
    (hne : 0 < s.evaluated.length) (hmono : Monotone timeProvider)
    (hshown : (∀ pair ∈ s.evaluated, pair.1.sub 1 = .ok pair.2) →
      (∀ a ∈ s.evaluated, ∀ b ∈ s.evaluated, a = b) →
      ∀ c ∈ fetched, ((printed blocks).map Prod.snd).count c = 1 ∧
        ∃ y, c.academicYear = .ok y ∧ (y, c) ∈ printed blocks) :
    ClockConsistent fetched blocks s ↔
      AcademicYear.startOf (timeProvider 0) =
        AcademicYear.startOf (timeProvider (s.count - 1)) := by
  rw [← htracks.agree_iff hne hmono]
  constructor
  · intro h
    exact ⟨h.consecutive, h.same⟩
  · intro h
    obtain ⟨hconsecutive, hsame⟩ := h
    exact ⟨hconsecutive, hsame, hshown hconsecutive hsame⟩

end ClockConsistent

/-- A request is consistent exactly when no 1 August falls between its first read of the
clock and its last: the sixth read, or the tenth where lock rows make it print headings.
Without lock rows the page prints no entries at all. -/
theorem clockConsistent_iff (p : LearnerReportProvider) (timeProvider : ITimeProvider)
    (page : LearnerModel) (uln : Int64) (hu : longTryParse page.uln = some uln)
    (hmono : Monotone timeProvider) (hs : Supported timeProvider) :
    ∃ page' blocks s q, (request p timeProvider page).run {} = .ok ((page', blocks), s) ∧
      PairAt timeProvider 0 q ∧
      (ClockConsistent (p.storedReport uln q).collectionPeriods blocks s ↔
        AcademicYear.startOf (timeProvider 0) = AcademicYear.startOf (timeProvider 5) ∧
          (p.fetchedLocks uln q ≠ [] →
            AcademicYear.startOf (timeProvider 0) = AcademicYear.startOf (timeProvider 9)) ∧
          (p.fetchedLocks uln q = [] →
            ∀ e, ¬ Retained (p.activeApprenticeship uln) (p.fetchedEarnings uln q) e)) := by
  obtain ⟨q, r, l₁, l₂, hq, hl₁, hl₂, hr, hrun⟩ := exists_run_onGetAsync p hs hu
  have hflag : r.hasDataLocks = !(p.fetchedLocks uln q).isEmpty :=
    p.hasDataLocks_of_build uln q hr
  have htracks : Tracks timeProvider { count := 6, evaluated := [q, l₁, l₂] } :=
    ((Tracks.empty.push hq).push hl₁).push hl₂
  by_cases hl : p.fetchedLocks uln q = []
  · -- no lock rows: the sections are hidden and their headings never evaluated
    have hhidden : r.hasDataLocks = false := by simp [hflag, hl]
    refine ⟨_, _, _, q, run_request_of_hidden hrun hhidden, hq, ?_⟩
    rw [clockConsistent_iff_of_hidden htracks (by simp) hmono (printed_message _),
      ← collectionPeriods_eq_nil]
    simp only [hl, ne_eq, not_true_eq_false, false_implies, true_implies, true_and]
    exact Iff.rfl
  · -- lock rows: two more pairs for the headings
    have hshown : r.hasDataLocks = true := by simp [hflag, hl]
    obtain ⟨h₁, hh₁⟩ := exists_pairAt hs 6
    obtain ⟨h₂, hh₂⟩ := exists_pairAt hs 8
    have htracks' : Tracks timeProvider { count := 10, evaluated := [q, l₁, l₂, h₁, h₂] } :=
      (htracks.push hh₁).push hh₂
    refine ⟨_, _, _, q, run_request_of_shown hrun hshown hh₁ hh₂, hq, ?_⟩
    refine (clockConsistent_iff_of_shown htracks' (by simp) hmono fun hconsecutive hsame => ?_).trans
      ⟨fun hyear => ?_, fun hcond => hcond.2.1 hl⟩
    · obtain ⟨hc, hp⟩ := hq.inCentury hs
      have hsub := AcademicYear.sub_eq_ok.mp (hconsecutive q (by simp))
      obtain rfl : l₁ = q := hsame l₁ (by simp) q (by simp)
      obtain rfl : l₂ = l₁ := hsame l₂ (by simp) l₁ (by simp)
      obtain rfl : h₁ = l₂ := hsame h₁ (by simp) l₂ (by simp)
      obtain rfl : h₂ = h₁ := hsame h₂ (by simp) h₁ (by simp)
      exact shown_once_of_lookups hc hp (by omega) (printed_years _ _ _)
    · have hsixth := startOf_eq_of_le hmono (show 5 ≤ 9 by omega) hyear
      exact ⟨hsixth.symm, fun _ => hyear, fun hnil => absurd hnil hl⟩

def july31 : DateTime := .midnight 2020 7 31 (by decide)
def august1 : DateTime := .midnight 2020 8 1 (by decide)

/-- Midnight of 1 August passes between the first two reads. -/
def rollover : ITimeProvider := fun n => if n = 0 then july31 else august1

theorem rollover_monotone : Monotone rollover := by
  apply monotone_nat_of_le_succ
  intro n
  cases n with
  | zero => decide
  | succ n => exact le_rfl

theorem rollover_supported : Supported rollover := by
  intro n
  cases n with
  | zero => decide
  | succ n => exact (by decide : 2001 ≤ AcademicYear.startOf august1 ∧
      AcademicYear.startOf august1 ≤ 2098)

theorem clockConsistent_iff_rollover :
    ∃ page' blocks s q,
      (request (.ofArchive {}) rollover { uln := some "1003528448" }).run {} =
        .ok ((page', blocks), s) ∧ PairAt rollover 0 q ∧
      (ClockConsistent
          ((LearnerReportProvider.ofArchive {}).storedReport 1003528448 q).collectionPeriods
          blocks s ↔
        AcademicYear.startOf (rollover 0) = AcademicYear.startOf (rollover 5) ∧
          ((LearnerReportProvider.ofArchive {}).fetchedLocks 1003528448 q ≠ [] →
            AcademicYear.startOf (rollover 0) = AcademicYear.startOf (rollover 9)) ∧
          ((LearnerReportProvider.ofArchive {}).fetchedLocks 1003528448 q = [] →
            ∀ e, ¬ Retained ((LearnerReportProvider.ofArchive {}).activeApprenticeship 1003528448)
              ((LearnerReportProvider.ofArchive {}).fetchedEarnings 1003528448 q) e)) :=
  clockConsistent_iff _ rollover _ _ longTryParse_1003528448 rollover_monotone rollover_supported

/-- The pair of the query is then 2019-20 twice: the year before it is never fetched. -/
theorem rollover_repeats_year :
    ∃ page' blocks s,
      (request (.ofArchive {}) rollover { uln := some "1003528448" }).run {} =
        .ok ((page', blocks), s) ∧
      ∀ fetched, ¬ ClockConsistent fetched blocks s := by
  have hu : longTryParse ({ uln := some "1003528448" } : LearnerModel).uln = some 1003528448 :=
    longTryParse_1003528448
  obtain ⟨q, r, l₁, l₂, hq, -, -, hr, hrun⟩ :=
    exists_run_onGetAsync (.ofArchive {}) rollover_supported hu
  have hhidden : r.hasDataLocks = false := LearnerReportProvider.hasDataLocks_of_build _ _ _ hr
  refine ⟨_, _, _, run_request_of_hidden hrun hhidden, fun fetched h => ?_⟩
  have hsub := AcademicYear.sub_eq_ok.mp (h.consecutive q (by simp))
  have hcur : (q.1.start : ℤ) = 2019 := hq.1
  have hprev : (q.2.start : ℤ) = 2020 - 1 := hq.2
  omega

end LearnerModel

end IdentifyDataLocks
