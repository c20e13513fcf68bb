import Mathlib.Algebra.BigOperators.Group.List.Lemmas
import Mathlib.Algebra.Order.BigOperators.GroupWithZero.List
import Aiphabee.CorporateActions.PriceAdjustment
import Aiphabee.FinancialFacts.TimelineCorrectness

/-!
# The law of adjusted prices

Every accepted action has one factor, which depends on the action alone.  An observation
multiplies the factors of the actions that become effective after its bar, and a product
does not depend on an order: the sorts decide where an entry stands in the result, not
what it says.

The main result is `adjustPriceSeries_law`.
-/

namespace Aiphabee.CorporateActions

open Checks DecimalRounding StableSort
open FinancialFacts (Platform)

variable {platform : Platform}

section Actions

def CorporateActionEvent.isShareEvent (action : CorporateActionEvent) : Bool :=
  action.actionType = .split ∨ action.actionType = .consolidation

/-- What an action multiplies earlier prices by, before any rounding. -/
def CorporateActionEvent.share (action : CorporateActionEvent) : ℚ :=
  if action.isShareEvent then
    1 / action.positiveRatio.getD 1
  else
    (action.dividendTerms.map fun terms => (terms.2 - terms.1) / terms.2).getD 1

def factorOf (action : CorporateActionEvent) : AdjustmentFactor :=
  { actionId := action.actionId
    adjustmentType := if action.isShareEvent then .splitAdjusted else .totalReturnAdjusted
    effectiveDate := action.effectiveDate
    factor := roundFactor action.share
    sourceRecordId := action.sourceRecordId }

structure ValidAction
    (platform : Platform)
    (action : CorporateActionEvent) : Prop where
  date : (startOfDate platform action.effectiveDate).isSome
  terms : if action.isShareEvent then action.positiveRatio.isSome else action.dividendTerms.isSome

variable {action : CorporateActionEvent}

theorem createAdjustmentFactors_eq_ok {platform : Platform} {factors : List AdjustmentFactor} :
    createAdjustmentFactors platform action = .ok factors ↔
      ValidAction platform action ∧ factors = [factorOf action] := by
  rw [createAdjustmentFactors, assertActionDate, bind_eq_ok]
  by_cases hshare : action.actionType = .split ∨ action.actionType = .consolidation
  · have hevent : action.isShareEvent = true := decide_eq_true hshare
    simp only [if_pos hshare, bind_eq_ok, ensure_eq_ok, require_eq_ok]
    constructor
    · rintro ⟨_, hdate, ratio, hratio, heq⟩
      cases heq
      refine ⟨⟨hdate, by simp [hevent, hratio]⟩, ?_⟩
      simp [factorOf, CorporateActionEvent.share, hevent, hratio]
    · rintro ⟨⟨hdate, hterms⟩, rfl⟩
      rw [if_pos hevent] at hterms
      obtain ⟨ratio, hratio⟩ := Option.isSome_iff_exists.mp hterms
      refine ⟨(), hdate, ratio, hratio, ?_⟩
      simp [factorOf, CorporateActionEvent.share, hevent, hratio, pure, Except.pure]
  · have hevent : action.isShareEvent = false := decide_eq_false hshare
    simp only [if_neg hshare, bind_eq_ok, ensure_eq_ok, require_eq_ok]
    constructor
    · rintro ⟨_, hdate, terms, hterms, heq⟩
      cases heq
      refine ⟨⟨hdate, by simp [hevent, hterms]⟩, ?_⟩
      simp [factorOf, CorporateActionEvent.share, hevent, hterms]
    · rintro ⟨⟨hdate, hterms⟩, rfl⟩
      rw [hevent, if_neg Bool.false_ne_true] at hterms
      obtain ⟨terms, hfound⟩ := Option.isSome_iff_exists.mp hterms
      refine ⟨(), hdate, terms, hfound, ?_⟩
      simp [factorOf, CorporateActionEvent.share, hevent, hfound, pure, Except.pure]

theorem share_pos {platform : Platform} (h : ValidAction platform action) : 0 < action.share := by
  have hterms := h.terms
  rw [CorporateActionEvent.share]
  by_cases hevent : action.isShareEvent = true
  · rw [if_pos hevent] at hterms ⊢
    obtain ⟨ratio, hratio⟩ := Option.isSome_iff_exists.mp hterms
    have hpos := of_decide_eq_true (Option.filter_eq_some_iff.mp hratio).2
    rw [hratio, Option.getD_some]
    exact one_div_pos.mpr hpos
  · rw [if_neg hevent] at hterms ⊢
    obtain ⟨terms, hfound⟩ := Option.isSome_iff_exists.mp hterms
    rw [hfound, Option.map_some, Option.getD_some]
    rw [CorporateActionEvent.dividendTerms] at hfound
    split at hfound
    · split at hfound
      · cases hfound
      · next horder =>
          obtain ⟨hcash, hprice⟩ := not_or.mp horder
          cases hfound
          have hcash := not_lt.mp hcash
          have hprice := not_le.mp hprice
          exact div_pos (sub_pos.mpr hprice) (lt_of_le_of_lt hcash hprice)
    · cases hfound

end Actions

section Products

def shareProduct (kind : CorporateActionEvent → Bool) (platform : Platform)
    (actions : List CorporateActionEvent) (date : String) : ℚ :=
  ((actions.filter fun action =>
      kind action && appliesBeforeEffectiveDate platform date action.effectiveDate).map
    fun action => roundFactor action.share).prod

/-- The rounded inverse ratios of the splits and consolidations effective after a date. -/
def splitProduct (platform : Platform) (actions : List CorporateActionEvent) (date : String) : ℚ :=
  shareProduct CorporateActionEvent.isShareEvent platform actions date

def dividendProduct (platform : Platform) (actions : List CorporateActionEvent) (date : String) :
    ℚ :=
  shareProduct (fun action => !action.isShareEvent) platform actions date

theorem multiplyFactors_eq_prod (factors : List AdjustmentFactor) :
    multiplyFactors factors = (factors.map AdjustmentFactor.factor).prod := by
  rw [multiplyFactors, List.prod_eq_foldl, List.foldl_map]

theorem shareProduct_perm (kind : CorporateActionEvent → Bool)
    {actions others : List CorporateActionEvent} (h : actions.Perm others) (date : String) :
    shareProduct kind platform actions date = shareProduct kind platform others date :=
  ((h.filter _).map _).prod_eq

theorem prod_applied_eq (actions : List CorporateActionEvent) (date : String) :
    ((actions.filter fun action =>
        appliesBeforeEffectiveDate platform date action.effectiveDate).map
      fun action => roundFactor action.share).prod =
      splitProduct platform actions date * dividendProduct platform actions date := by
  induction actions with
  | nil => simp [splitProduct, dividendProduct, shareProduct]
  | cons action rest ih =>
    rw [splitProduct, dividendProduct, shareProduct, shareProduct] at ih ⊢
    cases happlies : appliesBeforeEffectiveDate platform date action.effectiveDate with
    | false => simpa [happlies] using ih
    | true =>
      cases hevent : action.isShareEvent with
      | false => simp [happlies, hevent, ih, mul_left_comm]
      | true => simp [happlies, hevent, ih, mul_assoc]

variable {kind : CorporateActionEvent → Bool}
variable {actions : List CorporateActionEvent}

theorem shareProduct_nonneg (h : ∀ action ∈ actions, ValidAction platform action) (date : String) :
    0 ≤ shareProduct kind platform actions date := by
  refine List.prod_nonneg fun value hvalue => ?_
  obtain ⟨action, haction, rfl⟩ := List.mem_map.mp hvalue
  exact roundTo_nonneg _ (share_pos (h action (List.mem_of_mem_filter haction))).le

theorem shareProduct_eq_one {date : String}
    (h : ∀ action ∈ actions,
      appliesBeforeEffectiveDate platform date action.effectiveDate = false) :
    shareProduct kind platform actions date = 1 := by
  have hnone : (actions.filter fun action =>
      kind action && appliesBeforeEffectiveDate platform date action.effectiveDate) = [] := by
    refine List.filter_eq_nil_iff.mpr fun action haction => ?_
    rw [h action haction, Bool.and_false]
    exact Bool.false_ne_true
  rw [shareProduct, hnone]
  rfl

end Products

section Observations

def PriceObservation.closeValue (bar : PriceObservation) : ℚ :=
  (finiteValue bar.close).getD 0

structure ValidBar
    (platform : Platform)
    (bar : PriceObservation) : Prop where
  date : (startOfDate platform bar.date).isSome
  close : finiteValue bar.close = some bar.closeValue
  nonneg : 0 ≤ bar.closeValue

variable {bar : PriceObservation}

theorem assertPriceBar_eq_ok {close : ℚ} :
    assertPriceBar platform bar = .ok close ↔
      ValidBar platform bar ∧ close = bar.closeValue := by
  rw [assertPriceBar, require_eq_ok]
  cases hdate : startOfDate platform bar.date with
  | none =>
    refine iff_of_false (by simp) fun h => ?_
    have hsome := h.1.date
    rw [hdate] at hsome
    cases hsome
  | some time =>
    rw [if_neg (by simp), Option.filter_eq_some_iff, decide_eq_true_iff]
    constructor
    · rintro ⟨hclose, hnonneg⟩
      have hvalue : bar.closeValue = close := by
        rw [PriceObservation.closeValue, hclose, Option.getD_some]
      exact ⟨⟨by simp [hdate], by rw [hvalue, hclose], hvalue ▸ hnonneg⟩, hvalue.symm⟩
    · rintro ⟨h, rfl⟩
      exact ⟨h.close, h.nonneg⟩

structure FollowsLaw
    (platform : Platform)
    (actions : List CorporateActionEvent)
    (bar : PriceObservation)
    (observation : AdjustedPriceObservation) : Prop where
  date : observation.date = bar.date
  sourceRecordId : observation.sourceRecordId = bar.sourceRecordId
  applied : ∀ actionId, actionId ∈ observation.appliedActionIds ↔
    ∃ action ∈ actions, action.actionId = actionId ∧
      appliesBeforeEffectiveDate platform bar.date action.effectiveDate = true
  splitFactor : observation.splitFactor = roundFactor (splitProduct platform actions bar.date)
  totalReturnFactor : observation.totalReturnFactor =
    roundFactor (splitProduct platform actions bar.date *
      dividendProduct platform actions bar.date)
  close : finiteValue bar.close = some bar.closeValue
  rawClose : observation.rawClose = roundPrice bar.closeValue
  splitAdjustedClose : observation.splitAdjustedClose =
    roundPrice (bar.closeValue * splitProduct platform actions bar.date)
  totalReturnAdjustedClose : observation.totalReturnAdjustedClose =
    roundPrice (bar.closeValue * (splitProduct platform actions bar.date *
      dividendProduct platform actions bar.date))
  split_pos : 0 < observation.splitAdjustedClose ↔
    1 / 2000000 ≤ bar.closeValue * splitProduct platform actions bar.date
  totalReturn_pos : 0 < observation.totalReturnAdjustedClose ↔
    1 / 2000000 ≤ bar.closeValue * (splitProduct platform actions bar.date *
      dividendProduct platform actions bar.date)
  nonneg : 0 ≤ observation.splitAdjustedClose ∧ 0 ≤ observation.totalReturnAdjustedClose
  unchanged : (∀ action ∈ actions,
      appliesBeforeEffectiveDate platform bar.date action.effectiveDate = false) →
    observation.splitFactor = 1 ∧ observation.totalReturnFactor = 1 ∧
      observation.splitAdjustedClose = observation.rawClose ∧
      observation.totalReturnAdjustedClose = observation.rawClose

def observationOf (platform : Platform) (factors : List AdjustmentFactor) (bar : PriceObservation) :
    AdjustedPriceObservation :=
  let appliedFactors := factors.filter fun factor =>
    appliesBeforeEffectiveDate platform bar.date factor.effectiveDate
  let splitFactor := multiplyFactors
    (appliedFactors.filter fun factor => factor.adjustmentType = .splitAdjusted)
  let totalReturnFactor := multiplyFactors appliedFactors
  { appliedActionIds := (appliedFactors.map AdjustmentFactor.actionId).eraseDups
    date := bar.date
    rawClose := roundPrice bar.closeValue
    sourceRecordId := bar.sourceRecordId
    splitAdjustedClose := roundPrice (bar.closeValue * splitFactor)
    splitFactor := roundFactor splitFactor
    totalReturnAdjustedClose := roundPrice (bar.closeValue * totalReturnFactor)
    totalReturnFactor := roundFactor totalReturnFactor }

theorem adjustObservation_eq_ok {factors : List AdjustmentFactor}
    {observation : AdjustedPriceObservation} :
    adjustObservation platform factors bar = .ok observation ↔
      ValidBar platform bar ∧ observation = observationOf platform factors bar := by
  rw [adjustObservation, bind_eq_ok]
  simp only [assertPriceBar_eq_ok]
  constructor
  · rintro ⟨_, ⟨hvalid, rfl⟩, h⟩
    cases h
    exact ⟨hvalid, rfl⟩
  · rintro ⟨hvalid, rfl⟩
    exact ⟨_, ⟨hvalid, rfl⟩, rfl⟩

theorem multiplyFactors_split (platform : Platform) (actions : List CorporateActionEvent)
    (date : String) :
    multiplyFactors (((actions.map factorOf).filter fun factor =>
        appliesBeforeEffectiveDate platform date factor.effectiveDate).filter fun factor =>
          factor.adjustmentType = .splitAdjusted) =
      splitProduct platform actions date := by
  have hkind : ∀ action, decide ((factorOf action).adjustmentType = .splitAdjusted) =
      action.isShareEvent := by
    intro action
    cases hevent : action.isShareEvent <;> simp [factorOf, hevent]
  rw [multiplyFactors_eq_prod, List.filter_filter, List.filter_map, List.map_map, splitProduct,
    shareProduct]
  refine congrArg List.prod (congrArg₂ List.map rfl (List.filter_congr fun action _ => ?_))
  simp only [Function.comp_apply, hkind]
  rfl

theorem multiplyFactors_applied (platform : Platform) (actions : List CorporateActionEvent)
    (date : String) :
    multiplyFactors ((actions.map factorOf).filter fun factor =>
        appliesBeforeEffectiveDate platform date factor.effectiveDate) =
      splitProduct platform actions date * dividendProduct platform actions date := by
  rw [multiplyFactors_eq_prod, List.filter_map, List.map_map, ← prod_applied_eq]
  rfl

theorem appliedActionIds_observationOf (actions : List CorporateActionEvent)
    (bar : PriceObservation) :
    (observationOf platform (actions.map factorOf) bar).appliedActionIds =
      ((actions.filter fun action =>
        appliesBeforeEffectiveDate platform bar.date action.effectiveDate).map
          fun action => action.actionId).eraseDups := by
  rw [observationOf, List.filter_map, List.map_map]
  rfl

theorem followsLaw_observationOf {actions sorted : List CorporateActionEvent}
    (hsorted : sorted.Perm actions) (hactions : ∀ action ∈ actions, ValidAction platform action)
    (hbar : ValidBar platform bar) :
    FollowsLaw platform actions bar (observationOf platform (sorted.map factorOf) bar) := by
  have hsplit := multiplyFactors_split platform sorted bar.date
  have htotal := multiplyFactors_applied platform sorted bar.date
  have hsplitSorted : splitProduct platform sorted bar.date =
      splitProduct platform actions bar.date := shareProduct_perm _ hsorted bar.date
  have hdividendSorted : dividendProduct platform sorted bar.date =
      dividendProduct platform actions bar.date := shareProduct_perm _ hsorted bar.date
  rw [hsplitSorted] at hsplit htotal
  rw [hdividendSorted] at htotal
  have hsplitNonneg : 0 ≤ splitProduct platform actions bar.date :=
    shareProduct_nonneg hactions bar.date
  have hdividendNonneg : 0 ≤ dividendProduct platform actions bar.date :=
    shareProduct_nonneg hactions bar.date
  have hpositive : ∀ value : ℚ, 0 < roundPrice value ↔ 1 / 2000000 ≤ value := by
    intro value
    rw [roundPrice, roundTo_pos_iff (by decide)]
    norm_num
  have hone : roundFactor 1 = 1 := roundTo_one (by decide)
  exact
    { date := rfl
      sourceRecordId := rfl
      applied := by
        intro actionId
        simp only [observationOf, List.mem_eraseDups, List.mem_map, List.mem_filter]
        constructor
        · rintro ⟨_, ⟨⟨action, haction, rfl⟩, happlies⟩, rfl⟩
          exact ⟨action, hsorted.mem_iff.mp haction, rfl, happlies⟩
        · rintro ⟨action, haction, rfl, happlies⟩
          exact ⟨factorOf action, ⟨⟨action, hsorted.mem_iff.mpr haction, rfl⟩, happlies⟩, rfl⟩
      splitFactor := by simp only [observationOf, hsplit]
      totalReturnFactor := by simp only [observationOf, htotal]
      close := hbar.close
      rawClose := rfl
      splitAdjustedClose := by simp only [observationOf, hsplit]
      totalReturnAdjustedClose := by simp only [observationOf, htotal]
      split_pos := by simp only [observationOf, hsplit, hpositive]
      totalReturn_pos := by simp only [observationOf, htotal, hpositive]
      nonneg := by
        simp only [observationOf, hsplit, htotal]
        exact ⟨roundTo_nonneg _ (mul_nonneg hbar.nonneg hsplitNonneg),
          roundTo_nonneg _ (mul_nonneg hbar.nonneg (mul_nonneg hsplitNonneg hdividendNonneg))⟩
      unchanged := by
        intro hnone
        have hsplitOne : splitProduct platform actions bar.date = 1 := shareProduct_eq_one hnone
        have hdividendOne : dividendProduct platform actions bar.date = 1 :=
          shareProduct_eq_one hnone
        simp only [observationOf, hsplit, htotal, hsplitOne, hdividendOne, mul_one, hone,
          and_self] }

end Observations

section Series

instance : Std.Total (barLe platform) :=
  ⟨fun left right => platform.localeLe_total left.date right.date⟩

instance : IsTrans PriceObservation (barLe platform) :=
  ⟨fun _ _ _ => platform.localeLe_trans _ _ _⟩

instance : Std.Total (actionLe platform) :=
  ⟨fun left right => platform.localeLe_total left.effectiveDate right.effectiveDate⟩

instance : IsTrans CorporateActionEvent (actionLe platform) :=
  ⟨fun _ _ _ => platform.localeLe_trans _ _ _⟩

def resultOf (platform : Platform) (input : AdjustPriceSeriesInput) :
    CorporateActionAdjustmentResult :=
  let factors := (input.actions.insertionSort (actionLe platform)).map factorOf
  let observations :=
    (input.bars.insertionSort (barLe platform)).map (observationOf platform factors)
  { factors := factors
    instrumentId := input.instrumentId
    methodologyVersion :=
      input.methodologyVersion.getD corporateActionAdjustmentMethodologyVersion
    observations := observations
    summary :=
      { actionCount := (input.actions.insertionSort (actionLe platform)).length
        adjustedObservationCount := observations.countP fun observation =>
          observation.splitFactor ≠ 1 || observation.totalReturnFactor ≠ 1
        observationCount := observations.length } }

theorem adjustPriceSeries_eq_ok {input : AdjustPriceSeriesInput}
    {result : CorporateActionAdjustmentResult} :
    adjustPriceSeries platform input = .ok result ↔
      (∀ action ∈ input.actions, ValidAction platform action) ∧
        (∀ bar ∈ input.bars, ValidBar platform bar) ∧
          result = resultOf platform input := by
  have hflatten : ((input.actions.insertionSort (actionLe platform)).map
      fun action => [factorOf action]).flatten =
        (input.actions.insertionSort (actionLe platform)).map factorOf := by
    rw [← List.flatMap_def, ← List.map_eq_flatMap]
  simp only [adjustPriceSeries, bind_eq_ok,
    mapM_eq_ok_map fun _ _ => createAdjustmentFactors_eq_ok,
    mapM_eq_ok_map fun _ _ => adjustObservation_eq_ok, List.mem_insertionSort]
  constructor
  · rintro ⟨_, ⟨hactions, rfl⟩, _, ⟨hbars, rfl⟩, heq⟩
    cases heq
    rw [hflatten]
    exact ⟨hactions, hbars, rfl⟩
  · rintro ⟨hactions, hbars, rfl⟩
    refine ⟨_, ⟨hactions, rfl⟩, _, ⟨hbars, rfl⟩, ?_⟩
    rw [hflatten]
    rfl

def AdjustedPriceObservation.withoutIds (observation : AdjustedPriceObservation) :
    AdjustedPriceObservation :=
  { observation with appliedActionIds := [] }

theorem withoutIds_observationOf_perm {actions others : List CorporateActionEvent}
    (h : actions.Perm others) (bar : PriceObservation) :
    (observationOf platform (actions.map factorOf) bar).withoutIds =
      (observationOf platform (others.map factorOf) bar).withoutIds := by
  have hsplit : splitProduct platform actions bar.date = splitProduct platform others bar.date :=
    shareProduct_perm _ h bar.date
  have hdividend : dividendProduct platform actions bar.date =
      dividendProduct platform others bar.date := shareProduct_perm _ h bar.date
  simp only [AdjustedPriceObservation.withoutIds, observationOf, multiplyFactors_split,
    multiplyFactors_applied, hsplit, hdividend]

variable {input other : AdjustPriceSeriesInput}

theorem observations_perm (platform : Platform) (hactions : input.actions.Perm other.actions)
    (hbars : input.bars.Perm other.bars) :
    ((resultOf platform other).observations.map AdjustedPriceObservation.withoutIds).Perm
      ((resultOf platform input).observations.map AdjustedPriceObservation.withoutIds) := by
  have hsorted : (other.actions.insertionSort (actionLe platform)).Perm
      (input.actions.insertionSort (actionLe platform)) :=
    (List.perm_insertionSort _ _).trans (hactions.symm.trans (List.perm_insertionSort _ _).symm)
  have hsortedBars : (other.bars.insertionSort (barLe platform)).Perm
      (input.bars.insertionSort (barLe platform)) :=
    (List.perm_insertionSort _ _).trans (hbars.symm.trans (List.perm_insertionSort _ _).symm)
  rw [resultOf, resultOf, List.map_map, List.map_map]
  refine (hsortedBars.map _).trans (List.Perm.of_eq (List.map_congr_left fun bar _ => ?_))
  exact withoutIds_observationOf_perm hsorted bar

theorem summary_perm (hactions : input.actions.Perm other.actions)
    (hbars : input.bars.Perm other.bars) :
    (resultOf platform other).summary = (resultOf platform input).summary := by
  have hobservations := observations_perm platform hactions hbars
  have hadjusted := hobservations.countP_eq fun observation : AdjustedPriceObservation =>
    observation.splitFactor ≠ 1 || observation.totalReturnFactor ≠ 1
  rw [List.countP_map, List.countP_map] at hadjusted
  have hcount : (resultOf platform other).observations.length =
      (resultOf platform input).observations.length := by
    simpa using hobservations.length_eq
  have hlength : (other.actions.insertionSort (actionLe platform)).length =
      (input.actions.insertionSort (actionLe platform)).length := by
    rw [List.length_insertionSort, List.length_insertionSort, hactions.length_eq]
  have heq := congr (congr (congrArg AdjustmentSummary.mk hlength) hadjusted) hcount
  exact heq

end Series

/--
Of an accepted input, every bar is given an observation that follows the law, and nothing
else is in the observations.  Bars, factors and the actions of an observation stand in the
order of their dates, those of one date as they come.  The actions and the bars may come in
any other order: then the factors and the observations come in another order, and an
observation lists its actions in another order, at most; not even that when no two actions,
and no two bars, are of one date.
-/
theorem adjustPriceSeries_law (platform : Platform) (input : AdjustPriceSeriesInput)
    (result : CorporateActionAdjustmentResult) (h : adjustPriceSeries platform input = .ok result) :
    (∃ bars, SortsStably (barLe platform) input.bars bars ∧
        List.Forall₂ (FollowsLaw platform input.actions) bars result.observations) ∧
      (∃ actions, SortsStably (actionLe platform) input.actions actions ∧
        result.factors = actions.map factorOf ∧
          ∀ observation ∈ result.observations, observation.appliedActionIds =
            ((actions.filter fun action => appliesBeforeEffectiveDate platform
              observation.date action.effectiveDate).map fun action => action.actionId).eraseDups) ∧
      ∀ other : AdjustPriceSeriesInput,
        input.actions.Perm other.actions → input.bars.Perm other.bars →
        other.instrumentId = input.instrumentId →
        other.methodologyVersion = input.methodologyVersion →
          ∃ otherResult, adjustPriceSeries platform other = .ok otherResult ∧
            otherResult.factors.Perm result.factors ∧
            (otherResult.observations.map AdjustedPriceObservation.withoutIds).Perm
              (result.observations.map AdjustedPriceObservation.withoutIds) ∧
            otherResult.summary = result.summary ∧
            (TiesAgree (actionLe platform) input.actions →
              TiesAgree (barLe platform) input.bars → otherResult = result) := by
  obtain ⟨hvalid, hbarsValid, rfl⟩ := adjustPriceSeries_eq_ok.mp h
  refine ⟨?_, ?_, ?_⟩
  · refine ⟨input.bars.insertionSort (barLe platform), insertionSort_sortsStably _ _, ?_⟩
    refine List.forall₂_map_right_iff.mpr (List.forall₂_same.mpr fun bar hbar => ?_)
    exact followsLaw_observationOf (List.perm_insertionSort _ _) hvalid
      (hbarsValid bar ((List.mem_insertionSort _).mp hbar))
  · refine ⟨input.actions.insertionSort (actionLe platform), insertionSort_sortsStably _ _, rfl, ?_⟩
    intro observation hobservation
    obtain ⟨bar, -, rfl⟩ := List.mem_map.mp hobservation
    exact appliedActionIds_observationOf _ bar
  · intro other hactions hbars hinstrument hmethodology
    refine ⟨resultOf platform other, adjustPriceSeries_eq_ok.mpr ⟨?_, ?_, rfl⟩, ?_,
      observations_perm platform hactions hbars, summary_perm hactions hbars, ?_⟩
    · exact fun action haction => hvalid action (hactions.mem_iff.mpr haction)
    · exact fun bar hbar => hbarsValid bar (hbars.mem_iff.mpr hbar)
    · exact ((List.perm_insertionSort _ _).trans
        (hactions.symm.trans (List.perm_insertionSort _ _).symm)).map factorOf
    · intro hactionTies hbarTies
      rw [resultOf, resultOf, insertionSort_perm hactionTies hactions,
        insertionSort_perm hbarTies hbars, hinstrument, hmethodology]

def somePlatform : Platform :=
  FinancialFacts.tablePlatform
    [("2016-05-06T00:00:00Z", 1462492800000), ("2016-05-09T00:00:00Z", 1462752000000),
      ("2018-08-31T00:00:00Z", 1535673600000)]

def splitOn (actionId date : String) (ratio : ℚ) : CorporateActionEvent :=
  { actionId := actionId
    actionType := .split
    cashAmount := none
    effectiveDate := date
    ratio := some (.finite ratio)
    reinvestmentPrice := none
    sourceRecordId := "src_" ++ actionId }

def fivePercent : CorporateActionEvent :=
  { actionId := "dividend_001"
    actionType := .dividend
    cashAmount := some (.finite 5)
    effectiveDate := "2018-08-31"
    ratio := none
    reinvestmentPrice := some (.finite 100)
    sourceRecordId := "src_dividend_001" }

def twoBars (actions : List CorporateActionEvent) : AdjustPriceSeriesInput :=
  { actions := actions
    bars :=
      [{ close := .finite 24, date := "2016-05-06", sourceRecordId := "bar_before" },
        { close := .finite 12, date := "2016-05-09", sourceRecordId := "bar_on" }]
    instrumentId := "eq_01234"
    methodologyVersion := none }

theorem twoBars_accepted :
    adjustPriceSeries somePlatform (twoBars [fivePercent, splitOn "split_001" "2016-05-09" 2]) =
      .ok (resultOf somePlatform (twoBars [fivePercent, splitOn "split_001" "2016-05-09" 2])) := by
  decide +kernel

theorem adjustPriceSeries_law_twoBars :
    ∃ bars, SortsStably (barLe somePlatform)
        (twoBars [fivePercent, splitOn "split_001" "2016-05-09" 2]).bars bars ∧
      List.Forall₂
        (FollowsLaw somePlatform
          (twoBars [fivePercent, splitOn "split_001" "2016-05-09" 2]).actions)
        bars
        (resultOf somePlatform
          (twoBars [fivePercent, splitOn "split_001" "2016-05-09" 2])).observations :=
  (adjustPriceSeries_law somePlatform _ _ twoBars_accepted).1

/--
Two splits of one day in either order are listed as they come, and a price above zero is
adjusted to zero by a split whose factor has nothing left in its nine decimals.
-/
theorem adjustPriceSeries_not_law :
    (∃ result otherResult,
        adjustPriceSeries somePlatform
            (twoBars [splitOn "a" "2016-05-09" 2, splitOn "b" "2016-05-09" 3]) = .ok result ∧
          adjustPriceSeries somePlatform
            (twoBars [splitOn "b" "2016-05-09" 3, splitOn "a" "2016-05-09" 2]) =
              .ok otherResult ∧
          otherResult ≠ result) ∧
      ∃ result,
        adjustPriceSeries somePlatform (twoBars [splitOn "a" "2016-05-09" 4000000000]) =
            .ok result ∧
          (result.observations.map fun observation =>
              (observation.rawClose, observation.splitAdjustedClose)) = [(24, 0), (12, 12)] := by
  refine ⟨⟨resultOf somePlatform
      (twoBars [splitOn "a" "2016-05-09" 2, splitOn "b" "2016-05-09" 3]),
    resultOf somePlatform (twoBars [splitOn "b" "2016-05-09" 3, splitOn "a" "2016-05-09" 2]),
    ?_, ?_, ?_⟩, resultOf somePlatform (twoBars [splitOn "a" "2016-05-09" 4000000000]), ?_, ?_⟩
  all_goals decide +kernel

end Aiphabee.CorporateActions
