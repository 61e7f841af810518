import IdentifyDataLocks.CollectionPeriodMapping
import IdentifyDataLocks.RowOrder

/-! The price episodes behind the two sides of a data match: whether the costs agree when the
prices do, what the order of the rows decides, and what removed episodes contribute. -/
namespace IdentifyDataLocks
open Calendar Linq RowOrder

namespace EarningEventPriceEpisodeModel

def initialPrice (pe : EarningEventPriceEpisodeModel) : Decimal :=
  pe.totalNegotiatedPrice1 + pe.totalNegotiatedPrice2

def residualPrice (pe : EarningEventPriceEpisodeModel) : Decimal :=
  pe.totalNegotiatedPrice3 + pe.totalNegotiatedPrice4

/-- The price of one episode: its residual price if positive, else its initial price. -/
def price (pe : EarningEventPriceEpisodeModel) : Decimal :=
  if 0 < pe.residualPrice then pe.residualPrice else pe.initialPrice

structure NonNegative (pe : EarningEventPriceEpisodeModel) : Prop where
  tnp1 : 0 ≤ pe.totalNegotiatedPrice1
  tnp2 : 0 ≤ pe.totalNegotiatedPrice2
  tnp3 : 0 ≤ pe.totalNegotiatedPrice3
  tnp4 : 0 ≤ pe.totalNegotiatedPrice4

variable {pe : EarningEventPriceEpisodeModel}

theorem NonNegative.initialPrice (h : pe.NonNegative) : 0 ≤ pe.initialPrice :=
  add_nonneg h.tnp1 h.tnp2

theorem NonNegative.residualPrice (h : pe.NonNegative) : 0 ≤ pe.residualPrice :=
  add_nonneg h.tnp3 h.tnp4

end EarningEventPriceEpisodeModel

open EarningEventPriceEpisodeModel

/-- Episode by episode the prices add up to the residual prices and, for the episodes that
have none, the initial ones. -/
theorem sum_price {rows : List EarningEventPriceEpisodeModel}
    (h : ∀ pe ∈ rows, pe.NonNegative) :
    (rows.map price).sum = (rows.map residualPrice).sum +
      ((rows.filter fun pe => pe.residualPrice = 0).map initialPrice).sum := by
  induction rows with
  | nil => simp
  | cons pe rows ih =>
    rw [List.forall_mem_cons] at h
    rw [List.map_cons, List.sum_cons, ih h.2, List.map_cons, List.sum_cons]
    rcases h.1.residualPrice.eq_or_lt with hr | hr
    · simp [price, ← hr]
      ring
    · simp [price, hr, hr.ne']
      ring

namespace EarningEventModel

theorem calculateCost_eq (e : EarningEventModel) :
    e.calculateCost =
      if 0 < (e.priceEpisodes.map residualPrice).sum then (e.priceEpisodes.map residualPrice).sum
      else (e.priceEpisodes.map initialPrice).sum := rfl

/-- The choice between the prices is made once for all episodes. It is the choice of each
episode as long as no initial price meets the residual price of another. -/
theorem calculateCost_eq_sum_price_iff {e : EarningEventModel}
    (h : ∀ pe ∈ e.priceEpisodes, pe.NonNegative) :
    (e.priceEpisodes.map price).sum = e.calculateCost ↔
      (∀ pe ∈ e.priceEpisodes, pe.residualPrice = 0) ∨
        ∀ pe ∈ e.priceEpisodes, pe.residualPrice = 0 → pe.initialPrice = 0 := by
  have hresidual := sum_map_eq_zero_iff fun pe hpe => (h pe hpe).residualPrice
  rw [calculateCost_eq, sum_price h]
  by_cases hzero : (e.priceEpisodes.map residualPrice).sum = 0
  · have hall := hresidual.mp hzero
    have hfilter : (e.priceEpisodes.filter fun pe => pe.residualPrice = 0) = e.priceEpisodes := by
      rw [List.filter_eq_self]
      intro pe hpe
      simpa using hall pe hpe
    simp only [hzero, lt_irrefl, if_false, zero_add, hfilter, true_iff]
    exact Or.inl hall
  · have hnonneg := sum_map_nonneg fun pe hpe => (h pe hpe).residualPrice
    have hinitial := sum_map_eq_zero_iff fun pe hpe =>
      (h pe (List.mem_of_mem_filter (p := fun pe => decide (pe.residualPrice = 0)) hpe)).initialPrice
    rw [if_pos (hnonneg.lt_of_ne' hzero), add_eq_left, hinitial, ← hresidual]
    simp only [hzero, false_or, List.mem_filter, decide_eq_true_eq, and_imp]

end EarningEventModel

/-- The episodes correspond one to one, each at the price of the other side. -/
structure PricesAgree (e : EarningEventModel) (a : ApprenticeshipModel) : Prop where
  episodes : List.Forall₂ (fun x pe => x.cost = price pe) a.apprenticeshipPriceEpisodes
    e.priceEpisodes
  nonNegative : ∀ pe ∈ e.priceEpisodes, pe.NonNegative

/-- The two Cost columns of agreeing prices are equal exactly when the earning has only initial
prices, or every episode without a residual price is free. -/
theorem cost_agrees_iff (e : EarningEventModel) (a : ApprenticeshipModel)
    (h : PricesAgree e a) :
    a.toDataMatch.cost = e.toDataMatch.cost ↔
      (∀ pe ∈ e.priceEpisodes, pe.residualPrice = 0) ∨
        ∀ pe ∈ e.priceEpisodes, pe.residualPrice = 0 → pe.initialPrice = 0 := by
  have hsum : ∀ (xs : List ApprenticeshipPriceEpisodeModel) (pes : List _),
      List.Forall₂ (fun x pe => x.cost = price pe) xs pes →
        (xs.map (·.cost)).sum = (pes.map price).sum := by
    intro xs pes hxs
    induction hxs with
    | nil => rfl
    | cons hcost _ ih => simp [hcost, ih]
  rw [← EarningEventModel.calculateCost_eq_sum_price_iff h.nonNegative, ← hsum _ _ h.episodes]
  exact Iff.rfl

def october2020 : DateTime := .midnight 2020 10 1 (by decide)
def september2020 : DateTime := .midnight 2020 9 7 (by decide)

def learnerOf (priceEpisodes : List EarningEventPriceEpisodeModel) : EarningEventModel where
  ukprn := 10001234
  academicYear := 2021
  collectionPeriod := 2
  learnerUln := 8444744466
  learningAimReference := some "ZPROG001"
  ilrSubmissionDateTime := october2020
  priceEpisodes := priceEpisodes

def commitmentOf (episodes : List ApprenticeshipPriceEpisodeModel) : ApprenticeshipModel where
  uln := 8444744466
  ukprn := 10001234
  status := .active
  apprenticeshipPriceEpisodes := episodes

theorem cost_agrees_iff_initial :
    (commitmentOf [{ startDate := october2020, cost := 5000 }]).toDataMatch.cost =
        (learnerOf [{ startDate := october2020, totalNegotiatedPrice1 := 5000 }]).toDataMatch.cost ↔
      (∀ pe ∈ (learnerOf [{ startDate := october2020, totalNegotiatedPrice1 := 5000 }]).priceEpisodes,
        pe.residualPrice = 0) ∨
      ∀ pe ∈ (learnerOf [{ startDate := october2020, totalNegotiatedPrice1 := 5000 }]).priceEpisodes,
        pe.residualPrice = 0 → pe.initialPrice = 0 := by
  refine cost_agrees_iff _ _ ⟨List.Forall₂.cons ?_ List.Forall₂.nil, fun pe hpe => ?_⟩
  · norm_num [price, residualPrice, initialPrice]
  · obtain rfl := List.mem_singleton.mp hpe
    constructor <;> norm_num

def mixedEarning : EarningEventModel := learnerOf
  [{ startDate := september2020, totalNegotiatedPrice1 := 4500 },
    { startDate := october2020, totalNegotiatedPrice3 := 3000 }]

def mixedApprenticeship : ApprenticeshipModel := commitmentOf
  [{ startDate := september2020, cost := 4500 }, { startDate := october2020, cost := 3000 }]

/-- An initial price of 4500 and a residual price of 3000 add up to 7500 in the
apprenticeship; the earning shows 3000. -/
theorem mixed_prices_disagree :
    PricesAgree mixedEarning mixedApprenticeship ∧
      mixedApprenticeship.toDataMatch.cost ≠ mixedEarning.toDataMatch.cost := by
  refine ⟨⟨List.Forall₂.cons ?_ (List.Forall₂.cons ?_ List.Forall₂.nil), fun pe hpe => ?_⟩, ?_⟩
  · norm_num [price, residualPrice, initialPrice]
  · norm_num [price, residualPrice]
  · rcases List.mem_pair.mp hpe with rfl | rfl
    · constructor <;> norm_num
    · constructor <;> norm_num
  · norm_num [mixedApprenticeship, mixedEarning, commitmentOf, learnerOf,
      ApprenticeshipModel.toDataMatch, EarningEventModel.toDataMatch,
      EarningEventModel.calculateCost]

/-! The order of the rows. -/

def EarningEventModel.rearrange (e : EarningEventModel) (σ : Rearrangement) : EarningEventModel :=
  { e with priceEpisodes := σ.apply e.priceEpisodes }

def ApprenticeshipModel.rearrange (a : ApprenticeshipModel) (σ : Rearrangement) :
    ApprenticeshipModel :=
  { a with apprenticeshipPriceEpisodes := σ.apply a.apprenticeshipPriceEpisodes }

/-- What two data matches of rearranged rows must share, and how their TNP lists differ. -/
structure DataMatch.Rearranged (σ : Rearrangement) (d d' : DataMatch) : Prop where
  cost : d'.cost = d.cost
  priceStart : d'.priceStart = d.priceStart
  stoppedOn : d'.stoppedOn = d.stoppedOn
  tnp1 : d'.tnp1 = d.tnp1.map σ.apply
  tnp2 : d'.tnp2 = d.tnp2.map σ.apply
  tnp3 : d'.tnp3 = d.tnp3.map σ.apply
  tnp4 : d'.tnp4 = d.tnp4.map σ.apply

/-- Costs are sums and TNP lists follow their rows; the dates are those of the first row. -/
theorem EarningEventModel.rearranged_iff {e : EarningEventModel} {σ : Rearrangement} :
    e.toDataMatch.Rearranged σ (e.rearrange σ).toDataMatch ↔
      (σ.apply e.priceEpisodes).head?.map (·.startDate) =
          e.priceEpisodes.head?.map (·.startDate) ∧
        (σ.apply e.priceEpisodes).head?.bind (·.actualEndDate) =
          e.priceEpisodes.head?.bind (·.actualEndDate) := by
  have hcost : (e.rearrange σ).calculateCost = e.calculateCost := by
    have hperm := σ.perm_apply e.priceEpisodes
    have hr := orderFree_sum residualPrice e.priceEpisodes _ hperm
    have hi := orderFree_sum initialPrice e.priceEpisodes _ hperm
    rw [calculateCost_eq, calculateCost_eq]
    simp only [rearrange, hr, hi]
  have htnp : ∀ tnp, (e.rearrange σ).getTnpValue tnp = σ.apply (e.getTnpValue tnp) :=
    fun tnp => σ.map_apply _ _
  constructor
  · intro h
    exact ⟨h.priceStart, h.stoppedOn⟩
  · intro h
    obtain ⟨hstart, hstop⟩ := h
    exact
      { cost := hcost
        priceStart := hstart
        stoppedOn := hstop
        tnp1 := congrArg some (htnp _)
        tnp2 := congrArg some (htnp _)
        tnp3 := congrArg some (htnp _)
        tnp4 := congrArg some (htnp _) }

theorem ApprenticeshipModel.rearranged_iff {a : ApprenticeshipModel} {σ : Rearrangement} :
    a.toDataMatch.Rearranged σ (a.rearrange σ).toDataMatch ↔
      (σ.apply a.apprenticeshipPriceEpisodes).head?.map (·.startDate) =
        a.apprenticeshipPriceEpisodes.head?.map (·.startDate) := by
  have hcost := orderFree_sum (fun x : ApprenticeshipPriceEpisodeModel => x.cost)
    a.apprenticeshipPriceEpisodes _ (σ.perm_apply _)
  constructor
  · intro h
    exact h.priceStart
  · intro h
    exact
      { cost := hcost
        priceStart := h
        stoppedOn := rfl
        tnp1 := rfl
        tnp2 := rfl
        tnp3 := rfl
        tnp4 := rfl }

def ShowsSameInAnyOrder (e : EarningEventModel) (a : ApprenticeshipModel) : Prop :=
  (∀ σ : Rearrangement, e.toDataMatch.Rearranged σ (e.rearrange σ).toDataMatch) ∧
    ∀ σ : Rearrangement, a.toDataMatch.Rearranged σ (a.rearrange σ).toDataMatch

/-- The order of the price episodes shows exactly where they disagree on a date: on the start
date, and for the earning on the actual end date. -/
theorem showsSameInAnyOrder_iff (e : EarningEventModel) (a : ApprenticeshipModel) :
    ShowsSameInAnyOrder e a ↔
      (∀ pe ∈ e.priceEpisodes, ∀ pe' ∈ e.priceEpisodes,
        pe.startDate = pe'.startDate ∧ pe.actualEndDate = pe'.actualEndDate) ∧
      ∀ x ∈ a.apprenticeshipPriceEpisodes, ∀ x' ∈ a.apprenticeshipPriceEpisodes,
        x.startDate = x'.startDate := by
  have hearning : (∀ σ : Rearrangement, e.toDataMatch.Rearranged σ (e.rearrange σ).toDataMatch) ↔
      OrderFree (fun l => (l.head?.map (·.startDate), l.head?.bind (·.actualEndDate)))
        e.priceEpisodes := by
    rw [OrderFree, ← Rearrangement.forall_apply_iff]
    simp only [EarningEventModel.rearranged_iff, Prod.mk.injEq]
  have happrenticeship :
      (∀ σ : Rearrangement, a.toDataMatch.Rearranged σ (a.rearrange σ).toDataMatch) ↔
        OrderFree (fun l => l.head?.map (·.startDate)) a.apprenticeshipPriceEpisodes := by
    rw [OrderFree, ← Rearrangement.forall_apply_iff]
    simp only [ApprenticeshipModel.rearranged_iff]
  rw [ShowsSameInAnyOrder, hearning, happrenticeship,
    orderFree_head_iff (f := fun first : Option EarningEventPriceEpisodeModel =>
      (first.map (·.startDate), first.bind (·.actualEndDate))),
    orderFree_head_iff (f := fun first : Option ApprenticeshipPriceEpisodeModel =>
      first.map (·.startDate))]
  simp

def episodeFrom (startDate : DateTime) : EarningEventPriceEpisodeModel where
  startDate := startDate

/-- Two episodes of one learner, the later one first: the other order shows 7 September. -/
theorem later_episode_first :
    ¬ ShowsSameInAnyOrder (learnerOf [episodeFrom october2020, episodeFrom september2020])
      (commitmentOf []) := by
  intro h
  obtain ⟨σ, hσ⟩ := Rearrangement.exists_apply
    (List.Perm.swap (episodeFrom october2020) (episodeFrom september2020) [])
  have hstart := (EarningEventModel.rearranged_iff.mp (h.1 σ)).1
  simp only [learnerOf, hσ] at hstart
  exact absurd hstart (by decide)

/-! Removed episodes. -/

def ApprenticeshipModel.withoutRemoved (a : ApprenticeshipModel) : ApprenticeshipModel :=
  { a with apprenticeshipPriceEpisodes := a.apprenticeshipPriceEpisodes.filter (!·.removed) }

/-- Removed and remaining episodes together are all of them. -/
theorem sum_cost_withoutRemoved (rows : List ApprenticeshipPriceEpisodeModel) :
    (rows.map (·.cost)).sum =
      ((rows.filter (!·.removed)).map (·.cost)).sum +
        ((rows.filter (·.removed)).map (·.cost)).sum := by
  have hperm := List.filter_append_perm (·.removed) rows
  rw [← (hperm.map (·.cost)).sum_eq, List.map_append, List.sum_append, add_comm]

/-- Nothing reads the mark of a removed episode: deleting these episodes changes no field of
the data match but the cost, by their cost, and the start, where the first of all episodes and
the first that remains start on different dates. -/
theorem toDataMatch_withoutRemoved (a : ApprenticeshipModel) :
    a.withoutRemoved.toDataMatch =
        { a.toDataMatch with
          cost := a.toDataMatch.cost -
            ((a.apprenticeshipPriceEpisodes.filter (·.removed)).map (·.cost)).sum
          priceStart :=
            (a.apprenticeshipPriceEpisodes.find? (!·.removed)).map (·.startDate) } ∧
      (a.withoutRemoved.toDataMatch = a.toDataMatch ↔
        ((a.apprenticeshipPriceEpisodes.filter (·.removed)).map (·.cost)).sum = 0 ∧
          (a.apprenticeshipPriceEpisodes.find? (!·.removed)).map (·.startDate) =
            a.apprenticeshipPriceEpisodes.head?.map (·.startDate)) := by
  have hfields : a.withoutRemoved.toDataMatch =
      { a.toDataMatch with
        cost := a.toDataMatch.cost -
          ((a.apprenticeshipPriceEpisodes.filter (·.removed)).map (·.cost)).sum
        priceStart :=
          (a.apprenticeshipPriceEpisodes.find? (!·.removed)).map (·.startDate) } := by
    have hcost := sum_cost_withoutRemoved a.apprenticeshipPriceEpisodes
    simp only [ApprenticeshipModel.toDataMatch, ApprenticeshipModel.withoutRemoved,
      List.head?_filter, hcost, add_sub_cancel_right]
    rfl
  refine ⟨hfields, ?_⟩
  rw [hfields, DataMatch.ext_iff]
  simp [ApprenticeshipModel.toDataMatch]

/-- A removed first episode is added to the cost and gives the start. -/
theorem removed_episode_counts :
    ¬ (commitmentOf
          [{ startDate := september2020, cost := 4500, removed := true },
            { startDate := october2020, cost := 5000 }]).withoutRemoved.toDataMatch =
        (commitmentOf
          [{ startDate := september2020, cost := 4500, removed := true },
            { startDate := october2020, cost := 5000 }]).toDataMatch := by
  intro h
  have hcost := congrArg DataMatch.cost h
  norm_num [commitmentOf, ApprenticeshipModel.withoutRemoved,
    ApprenticeshipModel.toDataMatch] at hcost

end IdentifyDataLocks
