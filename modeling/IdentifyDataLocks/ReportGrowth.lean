import IdentifyDataLocks.Index
import IdentifyDataLocks.ProviderFilter

/-! The report as the rows arrive: in which order, in which of the two stores, and after which
other rows. -/
namespace IdentifyDataLocks.CollectionPeriodReport
open Linq Index

variable {app : Option ApprenticeshipModel} {earnings more l₁ l₂ : List EarningEventModel}
  {locks moreLocks : List DataLockEventModel} {e e' : EarningEventModel}

/-- Entries compare by their periods. -/
theorem orderByDescending_comparer (l : List CollectionPeriod) :
    orderByDescending CollectionPeriod.comparer id l =
      orderByDescending (.ofLinearOrder Period) CollectionPeriod.period l := by
  have hcompare : (fun a b : CollectionPeriod =>
      CollectionPeriod.comparer.reverse.compare (id a) (id b) ≤ 0) =
        fun a b => (Comparer.ofLinearOrder Period).reverse.compare a.period b.period ≤ 0 := by
    funext a b
    rw [eq_iff_iff]
    exact Period.compareTo_nonpos.trans compareTo_nonpos.symm
  simp only [orderByDescending, orderBy, hcompare]

/-- The entries are an index of the retained earnings by period. -/
theorem collectionPeriods_eq_index :
    (build app earnings locks).collectionPeriods =
      index CollectionPeriod.period
        ((filter app earnings).map fun e => e.toCollectionPeriod app locks) := by
  simp only [build, orderByDescending_comparer]
  rfl

/-- The earning behind the entry of a period. -/
def earningAt (app : Option ApprenticeshipModel) (earnings : List EarningEventModel)
    (k : Period) : Option EarningEventModel :=
  lookup EarningEventModel.period (filter app earnings) k

theorem lookup_collectionPeriods (k : Period) :
    lookup CollectionPeriod.period (build app earnings locks).collectionPeriods k =
      (earningAt app earnings k).map fun e => e.toCollectionPeriod app locks := by
  rw [collectionPeriods_eq_index, lookup_index, earningAt]
  exact lookup_map fun _ => rfl

theorem retained_of_earningAt {k : Period} (h : earningAt app earnings k = some e) :
    Retained app earnings e ∧ e.period = k :=
  ⟨mem_filter.mp (mem_of_lookup h), key_of_lookup h⟩

theorem exists_earningAt (h : Retained app earnings e) :
    ∃ e', earningAt app earnings e.period = some e' :=
  exists_lookup (mem_filter.mpr h)

theorem mem_collectionPeriods_of_earningAt {k : Period} (h : earningAt app earnings k = some e) :
    e.toCollectionPeriod app locks ∈ (build app earnings locks).collectionPeriods := by
  have hentry : lookup CollectionPeriod.period (build app earnings locks).collectionPeriods k =
      some (e.toCollectionPeriod app locks) := by
    rw [lookup_collectionPeriods, h]
    rfl
  exact mem_of_lookup hentry

theorem exists_earningAt_of_mem {c : CollectionPeriod}
    (hc : c ∈ (build app earnings locks).collectionPeriods) :
    ∃ e, earningAt app earnings c.period = some e ∧ e.toCollectionPeriod app locks = c := by
  rw [collectionPeriods_eq_index, mem_index, ← lookup_index, ← collectionPeriods_eq_index,
    lookup_collectionPeriods, Option.map_eq_some_iff] at hc
  exact hc

/-- The filter keeps the rows it retains, in their order. -/
theorem filter_eq (app : Option ApprenticeshipModel) (earnings : List EarningEventModel) :
    filter app earnings =
    earnings.filter fun e => e ∈ filter app earnings := by
  conv_lhs => unfold filter
  rw [List.filter_filter]
  apply List.filter_congr
  intro e he
  rw [Bool.eq_iff_iff, decide_eq_true_eq]
  simp [filter, he, and_comm]

/-- Two reports read alike under `g` when they do so for the earning behind every period. -/
theorem map_collectionPeriods_eq {γ : Type} {g : CollectionPeriod → γ} (key : γ → Period)
    (hg : ∀ c, key (g c) = c.period) {app' : Option ApprenticeshipModel}
    {earnings' : List EarningEventModel} {locks' : List DataLockEventModel}
    (h : ∀ k, (earningAt app earnings k).map (fun e => g (e.toCollectionPeriod app locks)) =
      (earningAt app' earnings' k).map fun e => g (e.toCollectionPeriod app' locks')) :
    (build app earnings locks).collectionPeriods.map g =
      (build app' earnings' locks').collectionPeriods.map g := by
  rw [collectionPeriods_eq_index, collectionPeriods_eq_index, map_index hg, map_index hg,
    index_eq_iff, List.map_map, List.map_map]
  intro k
  have hkey : ∀ (a : Option ApprenticeshipModel) (ls : List DataLockEventModel)
      (e : EarningEventModel), key (g (e.toCollectionPeriod a ls)) = e.period := by
    intro a ls e
    exact hg _
  exact (lookup_map (hkey app locks)).trans ((h k).trans (lookup_map (hkey app' locks')).symm)

theorem collectionPeriods_eq_of_earningAt {app' : Option ApprenticeshipModel}
    {earnings' : List EarningEventModel} {locks' : List DataLockEventModel}
    (h : ∀ k, (earningAt app earnings k).map (fun e => e.toCollectionPeriod app locks) =
      (earningAt app' earnings' k).map fun e => e.toCollectionPeriod app' locks') :
    (build app earnings locks).collectionPeriods =
      (build app' earnings' locks').collectionPeriods := by
  have hmap := map_collectionPeriods_eq CollectionPeriod.period (fun _ => rfl) h
  simpa using hmap

/-! Order of the rows. -/

theorem oneProvider_perm (h : l₁.Perm l₂) : OneProvider l₁ ↔ OneProvider l₂ := by
  simp only [OneProvider, h.mem_iff]

theorem retained_perm (h : l₁.Perm l₂) : Retained app l₁ e ↔ Retained app l₂ e := by
  rw [Retained, Retained, oneProvider_perm h, h.mem_iff]

/-- The earnings behind a period before and after a rearrangement are both retained. -/
theorem earningAt_perm (app : Option ApprenticeshipModel) (h : l₁.Perm l₂) (k : Period) :
    (earningAt app l₁ k = none ∧ earningAt app l₂ k = none) ∨
      ∃ e e', earningAt app l₁ k = some e ∧ earningAt app l₂ k = some e' ∧
        Retained app l₂ e ∧ Retained app l₂ e' ∧ e.period = e'.period := by
  cases h₁ : earningAt app l₁ k with
  | none =>
    refine Or.inl ⟨rfl, ?_⟩
    rw [earningAt, lookup_eq_none] at h₁ ⊢
    intro e he
    exact h₁ e (mem_filter.mpr ((retained_perm h).mpr (mem_filter.mp he)))
  | some e =>
    obtain ⟨he, rfl⟩ := retained_of_earningAt h₁
    obtain ⟨e', h₂⟩ := exists_earningAt ((retained_perm h).mp he)
    obtain ⟨he', hp⟩ := retained_of_earningAt h₂
    exact Or.inr ⟨e, e', rfl, h₂, (retained_perm h).mp he, he', hp.symm⟩

/-- The queries promise no order of the rows. Whatever the order, a report has the same periods
with the same apprenticeship and the same codes; the submissions it shows are the same in every
order exactly when any two retained rows of a period are mapped alike. -/
theorem collectionPeriods_rearranged (app : Option ApprenticeshipModel)
    (earnings : List EarningEventModel) (locks : List DataLockEventModel) :
    (∀ earnings', earnings'.Perm earnings →
      (build app earnings' locks).collectionPeriods.map
          (fun c => (c.period, c.apprenticeship, c.dataLocks)) =
        (build app earnings locks).collectionPeriods.map
          fun c => (c.period, c.apprenticeship, c.dataLocks)) ∧
    ((∀ earnings', earnings'.Perm earnings →
        (build app earnings' locks).collectionPeriods =
          (build app earnings locks).collectionPeriods) ↔
      ∀ e e', Retained app earnings e → Retained app earnings e' → e.period = e'.period →
        e.toDataMatch = e'.toDataMatch) := by
  refine ⟨fun earnings' hp => ?_, fun h e e' he he' hperiod => ?_, fun h earnings' hp => ?_⟩
  · apply map_collectionPeriods_eq Prod.fst fun _ => rfl
    intro k
    rcases earningAt_perm app hp k with ⟨h₁, h₂⟩ | ⟨e, e', h₁, h₂, he, he', hperiod⟩
    · simp [h₁, h₂]
    · simp [h₁, h₂, EarningEventModel.toCollectionPeriod, hperiod,
        toDataLocks_eq_of_period he he' hperiod]
  · -- the row that comes first is shown, and either of the two may come first
    have hfirst : ∀ e₁, Retained app earnings e₁ → e₁.toCollectionPeriod app locks ∈
        (build app earnings locks).collectionPeriods := by
      intro e₁ he₁
      have hp : (e₁ :: earnings.erase e₁).Perm earnings := (List.perm_cons_erase he₁.1).symm
      rw [← h _ hp]
      exact mem_collectionPeriods.mpr ⟨e₁, ⟨(retained_perm hp).mpr he₁, [], _, rfl, by simp⟩, rfl⟩
    have hentry := List.inj_on_of_nodup_map (nodup_periods _) (hfirst e he) (hfirst e' he') hperiod
    exact congrArg CollectionPeriod.ilr hentry
  · apply collectionPeriods_eq_of_earningAt
    intro k
    rcases earningAt_perm app hp k with ⟨h₁, h₂⟩ | ⟨e, e', h₁, h₂, he, he', hperiod⟩
    · simp [h₁, h₂]
    · simp [h₁, h₂, EarningEventModel.toCollectionPeriod, hperiod,
        h e e' he he' hperiod, toDataLocks_eq_of_period he he' hperiod]

/-! Joined rows, as the archive's and the current period's. -/

/-- What a report retains is of one provider. -/
theorem ukprn_eq_of_retained (he : Retained app earnings e) (he' : Retained app earnings e') :
    e.ukprn = e'.ukprn := by
  rcases he.2.2 with hone | hu
  · exact hone e he.1 e' he'.1
  · rcases he'.2.2 with hone | hu'
    · exact hone e he.1 e' he'.1
    · exact Option.some.inj (hu.symm.trans hu')

theorem retained_of_append_left (h : Retained app (l₁ ++ l₂) e) (he : e ∈ l₁) :
    Retained app l₁ e :=
  ⟨he, h.2.1, h.2.2.imp_left fun hone a ha b hb =>
    hone a (List.mem_append_left l₂ ha) b (List.mem_append_left l₂ hb)⟩

theorem retained_of_append_right (h : Retained app (l₁ ++ l₂) e) (he : e ∈ l₂) :
    Retained app l₂ e :=
  ⟨he, h.2.1, h.2.2.imp_left fun hone a ha b hb =>
    hone a (List.mem_append_right l₁ ha) b (List.mem_append_right l₁ hb)⟩

/-- A part's row is retained among all rows as soon as one row of its provider is. -/
theorem retained_of_part {part all : List EarningEventModel} (hsub : part ⊆ all)
    (he : Retained app part e) (he' : Retained app all e') (hu : e'.ukprn = e.ukprn) :
    Retained app all e :=
  ⟨hsub he.1, he.2.1, he'.2.2.imp_right fun happ => by rw [happ, hu]⟩

/-- The earning behind a period, told apart by the part it comes from. -/
theorem earningAt_append (k : Period) :
    earningAt app (l₁ ++ l₂) k =
      (lookup EarningEventModel.period (l₁.filter fun e => e ∈ filter app (l₁ ++ l₂)) k).or
        (lookup EarningEventModel.period (l₂.filter fun e => e ∈ filter app (l₁ ++ l₂)) k) := by
  conv_lhs => rw [earningAt, filter_eq, List.filter_append, lookup_append]

/-- A period whose rows of a part are all retained has the part's own earning. -/
theorem lookup_filter_append {part all : List EarningEventModel} {k : Period}
    (hpart : ∀ e ∈ part, Retained app all e → Retained app part e)
    (hall : ∀ e, Retained app part e → e.period = k → Retained app all e) :
    lookup EarningEventModel.period (part.filter fun e => e ∈ filter app all) k =
      earningAt app part k := by
  rw [earningAt, filter_eq app part, lookup, lookup, ← List.head?_filter,
    ← List.head?_filter, List.filter_filter, List.filter_filter]
  congr 1
  apply List.filter_congr
  intro e he
  rw [Bool.eq_iff_iff]
  simp only [Bool.and_eq_true, decide_eq_true_eq, mem_filter]
  apply and_congr_right
  intro hk
  exact ⟨hpart e he, fun hretained => hall e hretained hk⟩

/-- The union of two reports, read period by period. -/
theorem collectionPeriods_eq_union_iff :
    (build app (l₁ ++ l₂) locks).collectionPeriods =
        orderByDescending CollectionPeriod.comparer id
          (unionBy CollectionPeriod.period (build app l₁ locks).collectionPeriods
            (build app l₂ locks).collectionPeriods) ↔
      ∀ k, (earningAt app (l₁ ++ l₂) k).map (fun e => e.toCollectionPeriod app locks) =
        ((earningAt app l₁ k).or (earningAt app l₂ k)).map
          fun e => e.toCollectionPeriod app locks := by
  rw [orderByDescending_comparer]
  change _ = index CollectionPeriod.period
    ((build app l₁ locks).collectionPeriods ++ (build app l₂ locks).collectionPeriods) ↔ _
  rw [← index_eq_of_pairwise ((build app (l₁ ++ l₂) locks).newest_first.imp
    Period.compareTo_neg.mp), index_eq_iff]
  simp only [lookup_append, lookup_collectionPeriods, Option.map_or]

theorem exists_retained_of_entry {k : Period}
    (h : (earningAt app earnings k).map (fun e => e.toCollectionPeriod app locks) =
      some (e.toCollectionPeriod app locks)) :
    ∃ e', Retained app earnings e' ∧ e'.ukprn = e.ukprn := by
  obtain ⟨e', he', hentry⟩ := Option.map_eq_some_iff.mp h
  exact ⟨e', (retained_of_earningAt he').1,
    congrArg DataMatch.ukprn (congrArg CollectionPeriod.ilr hentry)⟩

/-- The report over joined rows is the union by period of the parts' reports, the first part
ahead of the second, exactly when no part shows a row that the whole hides: each row that the
first part retains is retained among all rows, and so is each one of the second part unless
the first has a row for its period. -/
theorem collectionPeriods_append_iff (app : Option ApprenticeshipModel)
    (l₁ l₂ : List EarningEventModel) (locks : List DataLockEventModel) :
    (build app (l₁ ++ l₂) locks).collectionPeriods =
        orderByDescending CollectionPeriod.comparer id
          (unionBy CollectionPeriod.period (build app l₁ locks).collectionPeriods
            (build app l₂ locks).collectionPeriods) ↔
      (∀ e, Retained app l₁ e → Retained app (l₁ ++ l₂) e) ∧
        ∀ e, Retained app l₂ e → Retained app (l₁ ++ l₂) e ∨
          ∃ e₁, Retained app l₁ e₁ ∧ e₁.period = e.period := by
  have hshown : ∀ {part : List EarningEventModel} {e e₀ : EarningEventModel},
      part ⊆ l₁ ++ l₂ → Retained app part e → earningAt app part e.period = some e₀ →
      (earningAt app (l₁ ++ l₂) e.period).map (fun e => e.toCollectionPeriod app locks) =
        some (e₀.toCollectionPeriod app locks) → Retained app (l₁ ++ l₂) e := by
    intro part e e₀ hsub he he₀ hentry
    obtain ⟨e', he', hu⟩ := exists_retained_of_entry hentry
    exact retained_of_part hsub he he'
      (hu.trans (ukprn_eq_of_retained (retained_of_earningAt he₀).1 he))
  rw [collectionPeriods_eq_union_iff]
  constructor
  · intro h
    refine ⟨fun e he => ?_, fun e he => ?_⟩
    · obtain ⟨e₁, he₁⟩ := exists_earningAt he
      have hentry := h e.period
      rw [he₁] at hentry
      exact hshown (List.subset_append_left l₁ l₂) he he₁ hentry
    · cases h₁ : earningAt app l₁ e.period with
      | some e₁ => exact Or.inr ⟨e₁, retained_of_earningAt h₁⟩
      | none =>
        obtain ⟨e₂, he₂⟩ := exists_earningAt he
        have hentry := h e.period
        rw [h₁, he₂] at hentry
        exact Or.inl (hshown (List.subset_append_right l₁ l₂) he he₂ hentry)
  · intro h k
    obtain ⟨hleft, hright⟩ := h
    rw [earningAt_append, lookup_filter_append (fun e he h => retained_of_append_left h he)
      fun e he _ => hleft e he]
    cases h₁ : earningAt app l₁ k with
    | some e₁ => rfl
    | none =>
      rw [lookup_filter_append fun e he h => retained_of_append_right h he]
      intro e he hk
      refine (hright e he).resolve_right fun hfirst => ?_
      obtain ⟨e₁, he₁, hp⟩ := hfirst
      obtain ⟨e', he'⟩ := exists_earningAt he₁
      rw [hp, hk, h₁] at he'
      cases he'

/-- An earning of a second provider puts the first out of view. -/
def Overtaken (app : Option ApprenticeshipModel) (earnings more : List EarningEventModel) : Prop :=
  OneProvider earnings ∧ ¬ OneProvider (earnings ++ more) ∧
    ∃ e ∈ mainAims earnings, app.map (·.ukprn) ≠ some e.ukprn

/-- Otherwise further rows leave every retained row retained. -/
theorem retained_append_of_not_overtaken (h : ¬ Overtaken app earnings more)
    (he : Retained app earnings e) : Retained app (earnings ++ more) e := by
  refine ⟨List.mem_append_left more he.1, he.2.1, ?_⟩
  rcases he.2.2 with hone | hu
  · by_cases hall : OneProvider (earnings ++ more)
    · exact Or.inl hall
    · refine Or.inr (by_contra fun hne => h ⟨hone, hall, e, mem_mainAims.mpr ⟨he.1, he.2.1⟩, hne⟩)
  · exact Or.inr hu

theorem toDataLocks_mono {d : DataLock} (h : d ∈ EarningEventModel.toDataLocks locks e) :
    d ∈ EarningEventModel.toDataLocks (locks ++ moreLocks) e := by
  rw [EarningEventModel.mem_toDataLocks] at h ⊢
  obtain ⟨l, hl, hconcerns, hfails⟩ := h
  exact ⟨l, List.mem_append_left moreLocks hl, hconcerns, hfails⟩

/-- As rows are appended a report keeps every entry, which can only gain codes, until an earning
of a second provider overtakes one that is not the apprenticeship's: then it loses them all. -/
theorem entries_kept_or_lost (app : Option ApprenticeshipModel)
    (earnings more : List EarningEventModel) (locks moreLocks : List DataLockEventModel) :
    (¬ Overtaken app earnings more →
      ∀ c ∈ (build app earnings locks).collectionPeriods,
        ∃ c' ∈ (build app (earnings ++ more) (locks ++ moreLocks)).collectionPeriods,
          c'.period = c.period ∧ c'.ilr = c.ilr ∧ c'.apprenticeship = c.apprenticeship ∧
            ∀ d ∈ c.dataLocks, d ∈ c'.dataLocks) ∧
    (Overtaken app earnings more →
      ∀ c ∈ (build app earnings locks).collectionPeriods,
        ∀ c' ∈ (build app (earnings ++ more) (locks ++ moreLocks)).collectionPeriods,
          c'.ilr ≠ c.ilr) := by
  refine ⟨fun h c hc => ?_, fun h c hc c' hc' heq => ?_⟩
  · obtain ⟨e, he, rfl⟩ := exists_earningAt_of_mem hc
    have hkept : earningAt app (earnings ++ more) e.period = some e := by
      rw [earningAt_append, lookup_filter_append (fun e he h => retained_of_append_left h he)
        fun e he _ => retained_append_of_not_overtaken h he]
      exact congrArg (Option.or · _) he
    exact ⟨_, mem_collectionPeriods_of_earningAt hkept, rfl, rfl, rfl,
      fun d hd => toDataLocks_mono hd⟩
  · obtain ⟨hone, hall, e₀, he₀, hne⟩ := h
    obtain ⟨e, he, rfl⟩ := mem_collectionPeriods.mp hc
    obtain ⟨e', he', rfl⟩ := mem_collectionPeriods.mp hc'
    have hu : e'.ukprn = e.ukprn := congrArg DataMatch.ukprn heq
    have happ := he'.1.2.2.resolve_left hall
    rw [happ, hu, hone e he.1.1 e₀ (mem_mainAims.mp he₀).1] at hne
    exact hne rfl

end IdentifyDataLocks.CollectionPeriodReport
