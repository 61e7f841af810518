import IdentifyDataLocks.CollectionPeriodReport

/-! What the provider filter lets a report show: its answer to secondary aims, and what it
hides from a learner without an apprenticeship. -/
namespace IdentifyDataLocks.CollectionPeriodReport

variable {app : Option ApprenticeshipModel} {earnings : List EarningEventModel}
  {locks : List DataLockEventModel}

/-! Secondary aims. -/

def mainAims (earnings : List EarningEventModel) : List EarningEventModel :=
  earnings.filter filterInMainAim

def IgnoresSecondaryAims (app : Option ApprenticeshipModel) (earnings : List EarningEventModel)
    (locks : List DataLockEventModel) : Prop :=
  (build app earnings locks).collectionPeriods =
    (build app (mainAims earnings) locks).collectionPeriods

theorem mem_mainAims {e : EarningEventModel} :
    e ∈ mainAims earnings ↔ e ∈ earnings ∧ e.learningAimReference = some "ZPROG001" := by
  rw [mainAims, List.mem_filter, filterInMainAim_iff]

theorem mainAims_mainAims : mainAims (mainAims earnings) = mainAims earnings := by
  simp [mainAims, List.filter_filter]

theorem OneProvider.mainAims (h : OneProvider earnings) : OneProvider (mainAims earnings) := by
  intro a ha b hb
  exact h a (mem_mainAims.mp ha).1 b (mem_mainAims.mp hb).1

theorem filter_of_oneProvider (h : OneProvider earnings) :
    filter app earnings = mainAims earnings := by
  cases earnings with
  | nil => rfl
  | cons e es =>
    have hall : allEarningsAreForSameProvider (e :: es) = true :=
      allEarningsAreForSameProvider_iff.mpr ⟨List.cons_ne_nil e es, h⟩
    simp [filter, hall, includeEverythingPredicate, mainAims]

theorem filter_of_not_oneProvider (h : ¬ OneProvider earnings) :
    filter app earnings = (mainAims earnings).filter (includeApprenticeshipPredicate app) := by
  have hall : ¬ allEarningsAreForSameProvider earnings = true := fun hs =>
    h (allEarningsAreForSameProvider_iff.mp hs).2
  simp only [filter, hall, Bool.false_eq_true, if_false, mainAims]

/-- The provider filter is chosen over all aims, so a secondary aim of another provider
changes the report exactly when the main aims name one provider that is not the
apprenticeship's. -/
theorem ignoresSecondaryAims_iff (app : Option ApprenticeshipModel)
    (earnings : List EarningEventModel) (locks : List DataLockEventModel) :
    IgnoresSecondaryAims app earnings locks ↔
      OneProvider earnings ∨ ¬ OneProvider (mainAims earnings) ∨
        ∀ e ∈ mainAims earnings, app.map (·.ukprn) = some e.ukprn := by
  by_cases hall : OneProvider earnings
  · have hfilter : filter app earnings = filter app (mainAims earnings) := by
      rw [filter_of_oneProvider hall, filter_of_oneProvider hall.mainAims, mainAims_mainAims]
    simp [IgnoresSecondaryAims, build, hfilter, hall]
  by_cases hmain : OneProvider (mainAims earnings)
  · simp only [hall, hmain, not_true_eq_false, false_or]
    constructor
    · -- a main aim that does not match is dropped here and shown once it stands alone
      intro h e he
      have hshown : Retained app (mainAims earnings) e :=
        ⟨he, (mem_mainAims.mp he).2, Or.inl hmain⟩
      obtain ⟨c, hc, hp⟩ :
          ∃ c ∈ (build app (mainAims earnings) locks).collectionPeriods, c.period = e.period :=
        exists_entry_iff.mpr ⟨e, hshown, rfl⟩
      rw [← h] at hc
      obtain ⟨e', he', -⟩ := exists_entry_iff.mp ⟨c, hc, hp⟩
      have hu := he'.2.2.resolve_left hall
      rw [hu, hmain e' (mem_mainAims.mpr ⟨he'.1, he'.2.1⟩) e he]
    · intro h
      have hkeep : (mainAims earnings).filter (includeApprenticeshipPredicate app) =
          mainAims earnings := by
        rw [List.filter_eq_self]
        intro e he
        simp [includeApprenticeshipPredicate, h e he]
      simp only [IgnoresSecondaryAims, build]
      rw [filter_of_not_oneProvider hall, filter_of_oneProvider hmain, hkeep, mainAims_mainAims]
  · have hfilter : filter app earnings = filter app (mainAims earnings) := by
      rw [filter_of_not_oneProvider hall, filter_of_not_oneProvider hmain, mainAims_mainAims]
    simp [IgnoresSecondaryAims, build, hfilter, hmain]

/-- A secondary aim with another provider empties the report of an unmatched learner. -/
theorem secondary_aim_hides_main_aim :
    ¬ IgnoresSecondaryAims none
      [earningR09 10018916 "ZPROG001" may6, earningR09 10003161 "60313065" may6] [] := by
  intro h
  have hlength := congrArg List.length h
  revert hlength
  decide

/-! Learners without an apprenticeship. -/

/-- Every period of a main-aim earning is shown, and no other; every failure recorded for
the provider and period of a main-aim earning is listed under that period. -/
def HidesNothing (app : Option ApprenticeshipModel) (earnings : List EarningEventModel)
    (locks : List DataLockEventModel) : Prop :=
  {p | ∃ c ∈ (build app earnings locks).collectionPeriods, c.period = p} =
      {p | ∃ e ∈ mainAims earnings, e.period = p} ∧
    ∀ e ∈ mainAims earnings, ∀ l ∈ locks, l.Concerns e → ∀ d, l.FailsWith d →
      ∃ c ∈ (build app earnings locks).collectionPeriods, c.period = e.period ∧ d ∈ c.dataLocks

theorem periods_univ (locks : List DataLockEventModel) :
    (evidence earnings locks).periods Set.univ = {p | ∃ e ∈ mainAims earnings, e.period = p} := by
  ext p
  simp [Evidence.periods, evidence, mainAims, and_assoc]

theorem mem_codes_univ {p : Period} {d : DataLock} :
    d ∈ (evidence earnings locks).codes Set.univ p ↔
      ∃ e ∈ mainAims earnings, e.period = p ∧ ∃ l ∈ locks, l.Concerns e ∧ l.FailsWith d := by
  constructor
  · intro hcode
    obtain ⟨u, -, ⟨e, he, ha, hs⟩, l, hl, hp, hd⟩ := hcode
    obtain ⟨rfl, rfl⟩ := Prod.mk.inj hs
    obtain ⟨hu, hper⟩ := Prod.mk.inj hp
    exact ⟨e, List.mem_filter.mpr ⟨he, ha⟩, rfl, l, hl,
      DataLockEventModel.concerns_iff.mpr ⟨hu, hper⟩, hd⟩
  · intro h
    obtain ⟨e, he, rfl, l, hl, hc, hd⟩ := h
    obtain ⟨hm, ha⟩ := List.mem_filter.mp he
    obtain ⟨hu, hper⟩ := DataLockEventModel.concerns_iff.mp hc
    exact ⟨e.ukprn, trivial, ⟨e, hm, ha, rfl⟩, l, hl, Prod.ext hu hper, hd⟩

/-- A report hides nothing exactly when its view is complete. -/
theorem hidesNothing_iff_complete :
    HidesNothing app earnings locks ↔
      (evidence earnings locks).Complete (view app earnings) := by
  rw [HidesNothing, periods_refine, ← periods_univ locks]
  constructor
  · intro h
    obtain ⟨hp, hcodes⟩ := h
    refine ⟨hp, fun p => Set.Subset.antisymm ?_ ?_⟩
    · intro d h
      obtain ⟨u, -, hs, hf⟩ := h
      exact ⟨u, trivial, hs, hf⟩
    · intro d hd
      obtain ⟨e, he, rfl, l, hl, hc, hd⟩ := mem_codes_univ.mp hd
      obtain ⟨c, hc', hp', hdc⟩ := hcodes e he l hl hc d hd
      rw [← hp', ← codes_entry hc']
      exact hdc
  · intro h
    obtain ⟨hp, hcodes⟩ := h
    refine ⟨hp, fun e he l hl hc d hd => ?_⟩
    have hmem : d ∈ (evidence earnings locks).codes (view app earnings) e.period := by
      rw [hcodes]
      exact mem_codes_univ.mpr ⟨e, he, rfl, l, hl, hc, hd⟩
    have hshown := Evidence.mem_periods_of_mem_codes _ hmem
    rw [← periods_refine] at hshown
    obtain ⟨c, hc', hp'⟩ := hshown
    refine ⟨c, hc', hp', ?_⟩
    rw [← hp', ← codes_entry hc'] at hmem
    exact hmem

/-- Without an apprenticeship the report hides nothing while all earnings are of one
provider; once there are several it hides every main-aim earning there is. -/
theorem hidesNothing_none_iff (earnings : List EarningEventModel)
    (locks : List DataLockEventModel) :
    HidesNothing none earnings locks ↔ OneProvider earnings ∨ mainAims earnings = [] := by
  rw [hidesNothing_iff_complete]
  by_cases hall : OneProvider earnings
  · have hv : view none earnings = Set.univ :=
      Evidence.viewOf_of_subsingleton (providers_subsingleton.mpr hall) none
    simp [hv, hall, Evidence.complete_univ]
  · have hv : view none earnings = ∅ :=
      Evidence.viewOf_none fun hs => hall (providers_subsingleton.mp hs)
    have hsub : (evidence earnings locks).submitted = ∅ ↔ mainAims earnings = [] := by
      rw [Set.eq_empty_iff_forall_notMem, mainAims, List.filter_eq_nil_iff]
      constructor
      · intro h e he ha
        exact h (e.ukprn, e.period) ⟨e, he, ha, rfl⟩
      · intro h s hsubmitted
        obtain ⟨e, he, ha, -⟩ := hsubmitted
        exact h e he ha
    rw [hv, Evidence.complete_empty_iff, hsub, or_iff_right hall]

/-- A learner without an apprenticeship and with two providers gets an empty report. -/
theorem two_providers_hidden :
    ¬ HidesNothing none
      [earningR09 10018916 "ZPROG001" may6, earningR09 10003161 "ZPROG001" may6] [] := by
  intro h
  have hmain : (⟨1920, 9⟩ : Period) ∈ {p | ∃ e ∈ mainAims
      [earningR09 10018916 "ZPROG001" may6, earningR09 10003161 "ZPROG001" may6], e.period = p} :=
    ⟨earningR09 10018916 "ZPROG001" may6, by simp [mainAims, filterInMainAim, earningR09], rfl⟩
  rw [← h.1] at hmain
  obtain ⟨c, hc, -⟩ := hmain
  have hnil : (build none [earningR09 10018916 "ZPROG001" may6,
      earningR09 10003161 "ZPROG001" may6] []).collectionPeriods = [] := by decide
  simp [hnil] at hc

end IdentifyDataLocks.CollectionPeriodReport
