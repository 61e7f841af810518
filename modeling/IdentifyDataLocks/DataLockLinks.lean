import IdentifyDataLocks.LearnerRequest

/-! The links under "Active Data lock(s)": one for each data lock code on the page, in the
order of their names, which for the named codes is the order of the codes. -/
namespace IdentifyDataLocks
open Linq Fallible CollectionPeriodReport

namespace DataLock

/-- The values Dlock01 to Dlock12. -/
def Named (d : DataLock) : Prop := 1 ≤ d.value ∧ d.value ≤ 12

instance (d : DataLock) : Decidable d.Named := inferInstanceAs (Decidable (_ ∧ _))

/-- A statement about the named values is one about twelve values. -/
@[elab_as_elim] theorem Named.forall_elim {P : DataLock → Prop} {d : DataLock} (h : d.Named)
    (hP : ∀ n : Fin 12, P ⟨(n : ℕ) + 1⟩) : P d := by
  unfold Named at h
  have hvalue : d = ⟨((d.value - 1).toNat : ℕ) + 1⟩ := DataLock.ext (by dsimp only; omega)
  rw [hvalue]
  exact hP ⟨(d.value - 1).toNat, by omega⟩

/-- The names are "Dlock" and the code in two decimal digits. -/
theorem toString_of_named {d : DataLock} (h : d.Named) :
    d.toString = String.ofList ("Dlock".toList ++
      (d.value.toNat / 10).digitChar :: [(d.value.toNat % 10).digitChar]) :=
  h.forall_elim (by decide)

theorem toString_of_not_named {d : DataLock} (h : ¬ d.Named) : d.toString = d.value.repr := by
  obtain ⟨value⟩ := d
  unfold toString
  dsimp only
  split
  case h_13 => rfl
  all_goals exact absurd (by decide) h

theorem not_D_mem_repr (v : ℤ) : 'D' ∉ v.repr.toList := by
  have hdigits : ∀ n : ℕ, 'D' ∉ n.repr.toList := by
    intro n hn
    rw [Nat.repr_eq_ofList_toDigits, String.toList_ofList] at hn
    exact absurd (Nat.isDigit_of_mem_toDigits (by decide) (by decide) hn) (by decide)
  cases v with
  | ofNat n => exact hdigits n
  | negSucc n =>
    intro h
    change 'D' ∈ ("-" ++ (n + 1).repr).toList at h
    rw [String.toList_append, List.mem_append] at h
    rcases h with h | h
    · exact absurd h (by decide)
    · exact hdigits _ h

theorem digitChar_inj {m n : ℕ} (hm : m < 10) (hn : n < 10) (h : m.digitChar = n.digitChar) :
    m = n := by
  have htoNat := congrArg Char.toNat h
  rw [Nat.toNat_digitChar_of_lt_ten hm, Nat.toNat_digitChar_of_lt_ten hn] at htoNat
  omega

/-- A two-digit code is its tens and its units. -/
theorem eq_of_digits {d d' : DataLock} (h : d.Named) (h' : d'.Named)
    (htens : (d.value.toNat / 10).digitChar = (d'.value.toNat / 10).digitChar)
    (hunits : (d.value.toNat % 10).digitChar = (d'.value.toNat % 10).digitChar) : d = d' := by
  unfold Named at h h'
  have htens := digitChar_inj (by omega) (by omega) htens
  have hunits := digitChar_inj (by omega) (by omega) hunits
  apply DataLock.ext
  omega

/-- A number has no letter, so it is no name of a named value. -/
theorem toString_injective : Function.Injective toString := by
  have hmixed : ∀ d d' : DataLock, d.Named → ¬ d'.Named → d.toString ≠ d'.toString := by
    intro d d' h h' heq
    rw [toString_of_named h, toString_of_not_named h'] at heq
    apply not_D_mem_repr d'.value
    rw [← heq, String.toList_ofList]
    simp
  intro d d' heq
  by_cases h : d.Named
  · by_cases h' : d'.Named
    · rw [toString_of_named h, toString_of_named h', String.ofList_inj] at heq
      have hdigits := List.append_cancel_left heq
      simp only [List.cons.injEq, and_true] at hdigits
      exact eq_of_digits h h' hdigits.1 hdigits.2
    · exact absurd heq (hmixed d d' h h')
  · by_cases h' : d'.Named
    · exact absurd heq.symm (hmixed d' d h' h)
    · rw [toString_of_not_named h, toString_of_not_named h'] at heq
      exact DataLock.ext (Int.repr_inj.mp heq)

theorem digitChar_lt {m n : ℕ} (hn : n < 10) (h : m < n) : m.digitChar < n.digitChar := by
  have hm : m < 10 := by omega
  rw [Char.lt_def, UInt32.lt_iff_toNat_lt]
  change m.digitChar.toNat < n.digitChar.toNat
  rw [Nat.toNat_digitChar_of_lt_ten hm, Nat.toNat_digitChar_of_lt_ten hn]
  omega

end DataLock

/-- Two strings of letters and digits with a common stem compare by the first digits after it,
as they do in every culture. -/
def OrdersDigits (culture : Comparer String) : Prop :=
  ∀ (stem rest rest' : List Char) (c c' : Char),
    (∀ x ∈ stem ++ rest ++ rest', x.isAlphanum) → c.isDigit → c'.isDigit → c < c' →
      culture.compare (String.ofList (stem ++ c :: rest)) (String.ofList (stem ++ c' :: rest')) < 0

theorem ordersDigits_ofLinearOrder : OrdersDigits (.ofLinearOrder String) := by
  intro stem rest rest' c c' _ _ _ hlt
  apply compareTo_neg.mpr
  rw [String.lt_iff_toList_lt, String.toList_ofList, String.toList_ofList]
  exact List.Lex.append_left _ (List.Lex.rel hlt) stem

theorem DataLock.compare_toString {culture : Comparer String} (hculture : OrdersDigits culture)
    {d d' : DataLock} (h : d.Named) (h' : d'.Named) (hlt : d < d') :
    culture.compare d.toString d'.toString < 0 := by
  have hvalue : d.value < d'.value := hlt
  have hdigit : ∀ n, n < 10 → n.digitChar.isDigit := by decide
  have halphanum : ∀ n, n < 10 → n.digitChar.isAlphanum := by decide
  have hname : ∀ x ∈ "Dlock".toList, x.isAlphanum := by simp [Char.isAlphanum]
  rw [toString_of_named h, toString_of_named h']
  unfold Named at h h'
  have htens : d.value.toNat / 10 < 10 := by omega
  have htens' : d'.value.toNat / 10 < 10 := by omega
  -- The codes first differ in their tens or in their units.
  rcases Nat.lt_or_ge (d.value.toNat / 10) (d'.value.toNat / 10) with hlt | hge
  · apply hculture _ _ _ _ _ _ (hdigit _ htens) (hdigit _ htens') (digitChar_lt htens' hlt)
    intro x hx
    simp only [List.mem_append, List.mem_singleton] at hx
    rcases hx with (hx | rfl) | rfl
    · exact hname x hx
    · exact halphanum _ (by omega)
    · exact halphanum _ (by omega)
  · have heq : d'.value.toNat / 10 = d.value.toNat / 10 := by omega
    have hunits := hculture ("Dlock".toList ++ [(d.value.toNat / 10).digitChar]) [] []
      (d.value.toNat % 10).digitChar (d'.value.toNat % 10).digitChar ?_ (hdigit _ (by omega))
      (hdigit _ (by omega)) (digitChar_lt (by omega) (by omega))
    · rw [heq]
      simpa using hunits
    · intro x hx
      simp only [List.append_nil, List.mem_append, List.mem_singleton] at hx
      rcases hx with hx | rfl
      · exact hname x hx
      · exact halphanum _ htens

/-- Every named value has its own help centre text. -/
theorem DataLockHelpCentreLink.description_of_named {d : DataLock} (h : d.Named) :
    (create d).description ≠ none :=
  h.forall_elim (by decide)

namespace LearnerModel

/-- The codes of the links in the order the page lists them. -/
def shownLocks (culture : Comparer String) (page : LearnerModel) : List DataLock :=
  orderBy culture DataLock.toString
    (distinct ((page.currentYearDataLocks ++ page.previousYearDataLocks).flatMap (·.dataLocks)))

variable {culture : Comparer String} {page page' : LearnerModel}

theorem dataLockLinks_eq_map :
    page.dataLockLinks culture = (page.shownLocks culture).map DataLockHelpCentreLink.create :=
  orderBy_map _ _ _ _

theorem nodup_shownLocks : (page.shownLocks culture).Nodup :=
  (perm_orderBy _ _ _).nodup_iff.mpr (nodup_distinct _)

theorem mem_shownLocks {d : DataLock} :
    d ∈ page.shownLocks culture ↔
      ∃ c ∈ page.currentYearDataLocks ++ page.previousYearDataLocks, d ∈ c.dataLocks := by
  rw [shownLocks, mem_orderBy, mem_distinct, List.mem_flatMap]

/-- Among the named codes the order of the names is the order of the codes. -/
theorem pairwise_shownLocks (hculture : OrdersDigits culture) :
    ((page.shownLocks culture).filter DataLock.Named).Pairwise (· < ·) := by
  have hnames : (page.shownLocks culture).Pairwise fun d d' =>
      culture.compare d.toString d'.toString ≤ 0 := pairwise_orderBy _ _ _
  have hpairwise := (hnames.and nodup_shownLocks).filter (fun d => decide d.Named)
  refine hpairwise.imp_of_mem ?_
  intro d d' hd hd' h
  have hnamed : d.Named := by simpa using (List.mem_filter.mp hd).2
  have hnamed' : d'.Named := by simpa using (List.mem_filter.mp hd').2
  by_contra hnot
  have hlt : d' < d := lt_of_le_of_ne (not_lt.mp hnot) h.2.symm
  have hcompare := DataLock.compare_toString hculture hnamed' hnamed hlt
  rw [culture.swap] at hcompare
  exact absurd h.1 (not_le.mpr hcompare)

theorem names_dataLockLinks :
    (page.dataLockLinks culture).map (·.name) =
      (page.shownLocks culture).map DataLock.toString := by
  rw [dataLockLinks_eq_map, List.map_map]
  rfl

theorem create_mem_dataLockLinks {d : DataLock} :
    DataLockHelpCentreLink.create d ∈ page.dataLockLinks culture ↔
      ∃ c ∈ page.currentYearDataLocks ++ page.previousYearDataLocks, d ∈ c.dataLocks := by
  rw [dataLockLinks_eq_map, ← mem_shownLocks]
  refine List.mem_map_of_injective ?_
  intro d d' h
  exact DataLock.toString_injective (congrArg DataLockHelpCentreLink.name h)

/-- The codes behind the links. -/
structure SummarisesLocks (culture : Comparer String) (page : LearnerModel)
    (codes : List DataLock) : Prop where
  links : page.dataLockLinks culture = codes.map DataLockHelpCentreLink.create
  nodup : codes.Nodup
  mem_iff : ∀ d, d ∈ codes ↔
    ∃ c ∈ page.currentYearDataLocks ++ page.previousYearDataLocks, d ∈ c.dataLocks
  names_nodup : ((page.dataLockLinks culture).map (·.name)).Nodup
  names_ascending : ((page.dataLockLinks culture).map (·.name)).Pairwise fun name name' =>
    culture.compare name name' ≤ 0
  described : ∀ d ∈ codes, d.Named → (DataLockHelpCentreLink.create d).description ≠ none
  codes_ascending : (codes.filter DataLock.Named).Pairwise (· < ·)

theorem summarisesLocks (hculture : OrdersDigits culture) :
    SummarisesLocks culture page (page.shownLocks culture) where
  links := dataLockLinks_eq_map
  nodup := nodup_shownLocks
  mem_iff _ := mem_shownLocks
  names_nodup := by
    rw [names_dataLockLinks]
    exact nodup_shownLocks.map DataLock.toString_injective
  names_ascending := by
    rw [names_dataLockLinks, List.pairwise_map]
    exact pairwise_orderBy _ _ _
  described _ _ h := DataLockHelpCentreLink.description_of_named h
  codes_ascending := pairwise_shownLocks hculture

/-! The summary of a rendered page. -/

variable {learnerReportProvider : LearnerReportProvider} {timeProvider : ITimeProvider}

theorem mem_of_getDataLocksForAcademicYear {p : LearnerReportProvider} {uln : Int64}
    {years : AcademicYear × AcademicYear} {r : LearnerReport} {year : ℤ}
    {cs : List CollectionPeriod} (hr : p.buildLearnerReport uln years = .ok r)
    (h : getDataLocksForAcademicYear r year = .ok cs) :
    ∀ c ∈ cs, c ∈ (p.storedReport uln years).collectionPeriods := by
  obtain ⟨d, hd, rfl⟩ := (p.buildLearnerReport_ok_iff uln years).mp hr
  unfold getDataLocksForAcademicYear at h
  obtain ⟨key, -, hcs⟩ := bind_ok_iff.mp h
  rw [return_ok_iff, p.assemble_dataLocks,
    tryGetValue_collectionPeriodsByYear hd] at hcs
  subst hcs
  intro c hc
  exact (List.mem_filter.mp hc).1

/-- A report without lock rows has no codes to link. -/
theorem dataLocks_eq_nil_of_flag {s s' : Reads}
    (h : (onGetAsync learnerReportProvider timeProvider page).run s = .ok (page', s'))
    (hflag : page'.hasDataLocks = false) :
    ∀ c ∈ page'.currentYearDataLocks ++ page'.previousYearDataLocks, c.dataLocks = [] := by
  cases hu : longTryParse page.uln with
  | none =>
    unfold onGetAsync at h
    simp only [hu] at h
    cases h
  | some uln =>
    obtain ⟨q, r, l₁, cs, l₂, ps, -, hr, -, hcs, -, hps, rfl, -⟩ := (run_onGetAsync hu).mp h
    have hlocks : learnerReportProvider.fetchedLocks uln q = [] := by
      change r.hasDataLocks = false at hflag
      rw [learnerReportProvider.hasDataLocks_of_build uln q hr] at hflag
      simpa [LearnerReportProvider.storedReport, build] using hflag
    intro c hc
    have hmem : c ∈ (learnerReportProvider.storedReport uln q).collectionPeriods := by
      rcases List.mem_append.mp hc with hc | hc
      · exact mem_of_getDataLocksForAcademicYear hr hcs c hc
      · exact mem_of_getDataLocksForAcademicYear hr hps c hc
    obtain ⟨e, -, rfl⟩ := mem_collectionPeriods.mp hmem
    rw [hlocks]
    rfl

/-- The entries below the summary are those of the two lists, if they have any code. -/
theorem exists_printed_iff {s s' : Reads} {blocks : List Block} {d : DataLock}
    (h : (request learnerReportProvider timeProvider page).run s = .ok ((page', blocks), s')) :
    (∃ entry ∈ printed blocks, d ∈ entry.2.dataLocks) ↔
      ∃ c ∈ page'.currentYearDataLocks ++ page'.previousYearDataLocks, d ∈ c.dataLocks := by
  obtain ⟨s₁, hget, hrender⟩ := run_request.mp h
  cases hflag : page'.hasDataLocks with
  | false =>
    obtain ⟨rfl, -⟩ := (run_activeDataLocks_of_hidden hflag).mp hrender
    have hnil := dataLocks_eq_nil_of_flag hget hflag
    rw [printed_message]
    constructor
    · intro hentry
      simp at hentry
    · intro hentry
      obtain ⟨c, hc, hd⟩ := hentry
      simp [hnil c hc] at hd
  | true =>
    obtain ⟨h₁, h₂, -, -, rfl, -⟩ := (run_activeDataLocks_of_shown hflag).mp hrender
    rw [printed_years]
    simp [or_and_right, exists_or]

theorem exists_run_request (p : LearnerReportProvider) {uln : Int64}
    (hu : longTryParse page.uln = some uln) (hs : Supported timeProvider) :
    ∃ page' blocks s, (request p timeProvider page).run {} = .ok ((page', blocks), s) := by
  obtain ⟨q, r, l₁, l₂, -, -, -, -, hrun⟩ := exists_run_onGetAsync p hs hu
  cases hflag : r.hasDataLocks with
  | false => exact ⟨_, _, _, run_request_of_hidden hrun hflag⟩
  | true =>
    obtain ⟨h₁, hh₁⟩ := exists_pairAt hs 6
    obtain ⟨h₂, hh₂⟩ := exists_pairAt hs 8
    exact ⟨_, _, _, run_request_of_shown hrun hflag hh₁ hh₂⟩

/-- The summary has exactly one link for every code of the two lists, ordered by name and, as
far as the codes are named, described and ordered by code. On a rendered page these are the
codes in the details below it. -/
theorem dataLockLinks_summarise (culture : Comparer String) (hculture : OrdersDigits culture) :
    (∀ page : LearnerModel, ∃ codes, SummarisesLocks culture page codes) ∧
    ∀ (learnerReportProvider : LearnerReportProvider) (timeProvider : ITimeProvider)
      (page page' : LearnerModel) (blocks : List Block) (s s' : Reads),
      (request learnerReportProvider timeProvider page).run s = .ok ((page', blocks), s') →
        ∀ d, DataLockHelpCentreLink.create d ∈ page'.dataLockLinks culture ↔
          ∃ entry ∈ printed blocks, d ∈ entry.2.dataLocks := by
  refine ⟨?_, ?_⟩
  · intro page
    exact ⟨page.shownLocks culture, summarisesLocks hculture⟩
  · intro learnerReportProvider timeProvider page page' blocks s s' h d
    rw [create_mem_dataLockLinks, exists_printed_iff h]

def entryWith (dataLocks : List DataLock) : CollectionPeriod :=
  { (earningR09 10018916 "ZPROG001" may6).toCollectionPeriod none [] with dataLocks := dataLocks }

/-- A code in both years has one link, and the tenth code follows the ninth. -/
def locksInTwoYears : LearnerModel where
  uln := some "1003528448"
  currentYearDataLocks := [entryWith [⟨10⟩, ⟨2⟩]]
  previousYearDataLocks := [entryWith [⟨2⟩, ⟨9⟩]]

/-- A submission whose period has the data lock Dlock03. -/
def lockedR09 : LearnerReportProvider :=
  .ofArchive
    { earningEvent := [earningR09 10018916 "ZPROG001" may6]
      dataLockEvent :=
        [{ DataLockService.lockIn 9 with
           nonPayablePeriods :=
             [{ dataLockEventNonPayablePeriodFailures := [{ dataLockFailure := ⟨3⟩ }] }] }] }

theorem dataLockLinks_summarise_ordinal :
    (∃ codes, SummarisesLocks (.ofLinearOrder String) locksInTwoYears codes) ∧
    ∃ page' blocks s,
      (request lockedR09 rollover { uln := some "1003528448" }).run {} =
        .ok ((page', blocks), s) ∧
      ∀ d, DataLockHelpCentreLink.create d ∈ page'.dataLockLinks (.ofLinearOrder String) ↔
        ∃ entry ∈ printed blocks, d ∈ entry.2.dataLocks := by
  have hordinal := dataLockLinks_summarise _ ordersDigits_ofLinearOrder
  have hu : longTryParse ({ uln := some "1003528448" } : LearnerModel).uln = some 1003528448 :=
    longTryParse_1003528448
  obtain ⟨page', blocks, s, hrun⟩ := exists_run_request lockedR09 hu rollover_supported
  exact ⟨hordinal.1 locksInTwoYears, page', blocks, s, hrun, hordinal.2 _ _ _ _ _ _ _ hrun⟩

end LearnerModel

end IdentifyDataLocks
