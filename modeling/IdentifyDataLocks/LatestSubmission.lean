import IdentifyDataLocks.PaymentsLearner

/-! The submission behind an entry of the payments page. One submission gives a period several
earnings, one for each learning aim, of which the page keeps the first. -/
namespace IdentifyDataLocks
open CollectionPeriodReport (may6)
open Linq WebModel

namespace PaymentsLearnerModel

/-- The entry has the price episodes of all latest earnings of the period, and no others. -/
def ShowsWholeSubmission (rows : LearnerRows) (period : UInt8)
    (entry : WebModel.CollectionPeriod) : Prop :=
  entry.priceEpisodes.Perm ((latestRows rows.earnings period).flatMap (priceEpisodesOf rows))

theorem showsWholeSubmission_iff {rows : LearnerRows} {e : EarningEventModel}
    (he : Shown rows.earnings e) :
    ShowsWholeSubmission rows e.collectionPeriod (entryOf rows e) ↔
      ∀ e' ∈ (latestRows rows.earnings e.collectionPeriod).tail, e'.priceEpisodes = [] := by
  obtain ⟨others, hrows⟩ := List.head?_eq_some_iff.mp he
  have hperm : (priceEpisodesOf rows e ++ []).Perm
      (priceEpisodesOf rows e ++ others.flatMap (priceEpisodesOf rows)) ↔
        ∀ e' ∈ others, e'.priceEpisodes = [] := by
    rw [List.perm_append_left_iff, List.nil_perm, List.flatMap_eq_nil_iff]
    exact forall₂_congr fun e' _ => List.map_eq_nil_iff
  rw [List.append_nil] at hperm
  rw [ShowsWholeSubmission, hrows, List.flatMap_cons, List.tail_cons]
  exact hperm

/-- The entry of a period shows the whole latest submission exactly when no earning of that
submission after the first has a price episode. -/
theorem showsWholeSubmission_onGet_iff (context : PaymentsDataContext)
    (page : PaymentsLearnerModel) (learnerUln : Int64)
    (hu : longTryParse page.uln = some learnerUln) :
    onGet context page = .ok ((shownEarnings (context.learnerRows learnerUln).earnings).map
        (entryOf (context.learnerRows learnerUln))) ∧
      ∀ e ∈ shownEarnings (context.learnerRows learnerUln).earnings,
        ShowsWholeSubmission (context.learnerRows learnerUln) e.collectionPeriod
            (entryOf (context.learnerRows learnerUln) e) ↔
          ∀ e' ∈ (latestRows (context.learnerRows learnerUln).earnings
            e.collectionPeriod).tail, e'.priceEpisodes = [] :=
  ⟨onGet_eq hu, fun _ he => showsWholeSubmission_iff (mem_shownEarnings.mp he)⟩

/-- An earning for functional skills, which has no price episodes. -/
def functionalSkills : EarningEventModel :=
  { earningWith may6 [] with learningAimReference := some "60350544" }

def mainAimFirst : PaymentsDataContext where
  earningEvent := [earningWith may6 [identifier118], functionalSkills]

def mainAimLast : PaymentsDataContext where
  earningEvent := [functionalSkills, earningWith may6 [identifier118]]

theorem showsWholeSubmission_mainAimFirst :
    ShowsWholeSubmission (mainAimFirst.learnerRows 1003528448) 9
      (entryOf (mainAimFirst.learnerRows 1003528448) (earningWith may6 [identifier118])) := by
  have hsubmission := showsWholeSubmission_onGet_iff mainAimFirst ⟨some "1003528448"⟩ 1003528448
    longTryParse_1003528448
  exact (hsubmission.2 (earningWith may6 [identifier118]) (by decide)).mpr (by decide)

/-- With the main aim behind the functional skills, the entry has no price episode at all. -/
theorem functional_skills_hide_main_aim :
    ∃ entry, onGet mainAimLast ⟨some "1003528448"⟩ = .ok [entry] ∧
      ¬ ShowsWholeSubmission (mainAimLast.learnerRows 1003528448) 9 entry := by
  have hshown : shownEarnings (mainAimLast.learnerRows 1003528448).earnings =
      [functionalSkills] := by decide
  have hfirst : Shown (mainAimLast.learnerRows 1003528448).earnings functionalSkills := by
    rw [← mem_shownEarnings, hshown]
    exact List.mem_singleton_self _
  refine ⟨entryOf (mainAimLast.learnerRows 1003528448) functionalSkills,
    onGet_eq_singleton longTryParse_1003528448 hshown, fun h => ?_⟩
  exact absurd ((showsWholeSubmission_iff hfirst).mp h) (by decide)

end PaymentsLearnerModel

end IdentifyDataLocks
