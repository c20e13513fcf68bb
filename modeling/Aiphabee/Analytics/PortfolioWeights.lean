import Aiphabee.Statistics.Shares
import Aiphabee.Text.JsNumber
import Aiphabee.Text.JsString

/-!
# Weights of a portfolio

The positions of a portfolio are resolved and valued one by one.  Those that are included
add up to the total market value, and their weights are their shares of it.

The rounding of a figure is a parameter.  Without rounding the weights are right exactly
when no position that cannot be resolved carries a market value, or no included position
has one above zero (`getPortfolioAnalytics_correct_iff`): else such a position is given a
weight as well.  The order of the positions never matters
(`getPortfolioAnalytics_perm`).
-/

namespace Aiphabee.PortfolioAnalytics

variable (tools : Tools)

section Positions

structure SecurityCandidate where
  currency : Option String
  symbol : Option String

structure SecurityResolution where
  candidates : List SecurityCandidate
  selectedInstrumentId : Option String
  sourceRecordIds : List String

structure Quote where
  currency : Option String
  lastPrice : Option ℚ≥0
  symbol : Option String

structure QuoteSnapshot where
  quote : Option Quote
  sourceRecordIds : List String

inductive ReturnsRiskStatus
  | blockedHistory
  | blockedResolution
  | computed
  | partially

inductive ReturnMetricId
  | averageDailyReturn
  | beta
  | totalReturn
  | other
deriving DecidableEq

structure ReturnMetric where
  metricId : ReturnMetricId
  sourceRecordIds : List String
  value : Option ℚ

structure ReturnsRisk where
  metrics : List ReturnMetric
  status : ReturnsRiskStatus

structure Tools where
  toUpperCase : String → String
  resolveSecurity : String → String → SecurityResolution
  getQuoteSnapshot : String → String → QuoteSnapshot
  calculateReturnsRisk : String → String → ReturnsRisk

structure RawPosition where
  costBasis : Option JsNumber
  currency : Option String
  instrumentId : Option String
  marketValue : Option JsNumber
  quantity : Option JsNumber
  securityQuery : Option String

/-- A position with trimmed texts and numbers from zero on. -/
structure PositionInput where
  costBasis : Option ℚ≥0
  currency : Option String
  instrumentId : Option String
  marketValue : Option ℚ≥0
  quantity : Option ℚ≥0
  securityQuery : Option String

structure ReturnMetrics where
  averageDailyReturn : Option ℚ
  beta : Option ℚ
  totalReturn : Option ℚ

inductive PositionStatus
  | blockedResolution
  | included
  | missingMarketValue
deriving DecidableEq

structure PortfolioPosition where
  costBasis : Option ℚ≥0
  currency : Option String
  input : String
  instrumentId : Option String
  marketValue : Option ℚ≥0
  quantity : Option ℚ≥0
  returnMetrics : Option ReturnMetrics
  returnRiskStatus : Option ReturnsRiskStatus
  sourceRecordIds : List String
  status : PositionStatus
  symbol : Option String
  weight : Option ℚ≥0

def normalizeFiniteNumber : Option JsNumber → Option ℚ≥0
  | some (.finite value) => if h : 0 ≤ value then some ⟨value, h⟩ else none
  | _ => none

def normalizePortfolioString (value : Option String) : Option String :=
  (value.map JsString.trim).filter fun trimmed => !trimmed.isEmpty

def normalizePortfolioCurrency (value : Option String) : Option String :=
  (normalizePortfolioString value).map tools.toUpperCase

def normalizePortfolioPosition (position : RawPosition) : PositionInput where
  costBasis := normalizeFiniteNumber position.costBasis
  currency := normalizePortfolioCurrency tools position.currency
  instrumentId := normalizePortfolioString position.instrumentId
  marketValue := normalizeFiniteNumber position.marketValue
  quantity := normalizeFiniteNumber position.quantity
  securityQuery := normalizePortfolioString position.securityQuery

def normalizePortfolioPositions (positions : Option (List RawPosition)) : List PositionInput :=
  ((positions.getD []).map (normalizePortfolioPosition tools)).filter fun position =>
    position.instrumentId.isSome || position.securityQuery.isSome || position.marketValue.isSome

def getReturnsRiskMetricValue (returnsRisk : ReturnsRisk) (metricId : ReturnMetricId) : Option ℚ :=
  (returnsRisk.metrics.find? fun metric => metric.metricId = metricId).bind ReturnMetric.value

def createPortfolioReturnMetrics (returnsRisk : ReturnsRisk) : ReturnMetrics where
  averageDailyReturn := getReturnsRiskMetricValue returnsRisk .averageDailyReturn
  beta := getReturnsRiskMetricValue returnsRisk .beta
  totalReturn := getReturnsRiskMetricValue returnsRisk .totalReturn

def resolutionOf (asOf : String) (position : PositionInput) : Option SecurityResolution :=
  if position.instrumentId.isNone then
    position.securityQuery.map (tools.resolveSecurity asOf)
  else none

def instrumentIdOf (asOf : String) (position : PositionInput) : Option String :=
  position.instrumentId <|>
    (resolutionOf tools asOf position).bind SecurityResolution.selectedInstrumentId

variable (roundMetric : ℚ → ℚ)

def roundValue (value : ℚ≥0) : ℚ≥0 :=
  (roundMetric value).toNNRat

def marketValueOf (position : PositionInput) (quote : QuoteSnapshot) : Option ℚ≥0 :=
  position.marketValue <|> do
    let quantity ← position.quantity
    let quotePrice ← quote.quote.bind Quote.lastPrice
    return roundValue roundMetric (quantity * quotePrice)

def createPortfolioAnalyticsPosition (asOf : String) (position : PositionInput) :
    PortfolioPosition :=
  let resolution := resolutionOf tools asOf position
  let input := (position.securityQuery <|> position.instrumentId).getD "unknown_position"
  let resolutionIds := (resolution.map SecurityResolution.sourceRecordIds).getD []
  match instrumentIdOf tools asOf position with
  | none =>
    { costBasis := position.costBasis
      currency := position.currency
      input := input
      instrumentId := none
      marketValue := position.marketValue
      quantity := position.quantity
      returnMetrics := none
      returnRiskStatus := none
      sourceRecordIds := resolutionIds
      status := .blockedResolution
      symbol := none
      weight := none }
  | some instrumentId =>
    let quote := tools.getQuoteSnapshot asOf instrumentId
    let marketValue := marketValueOf roundMetric position quote
    let returnsRisk := tools.calculateReturnsRisk asOf instrumentId
    let candidate := resolution.bind fun resolution => resolution.candidates.head?
    { costBasis := position.costBasis
      currency := position.currency <|> quote.quote.bind Quote.currency <|>
        candidate.bind SecurityCandidate.currency
      input := input
      instrumentId := some instrumentId
      marketValue := marketValue
      quantity := position.quantity
      returnMetrics := some (createPortfolioReturnMetrics returnsRisk)
      returnRiskStatus := some returnsRisk.status
      sourceRecordIds := (resolutionIds ++ quote.sourceRecordIds ++
        returnsRisk.metrics.flatMap ReturnMetric.sourceRecordIds).eraseDups
      status := if marketValue.isNone then .missingMarketValue else .included
      symbol := quote.quote.bind Quote.symbol <|> candidate.bind SecurityCandidate.symbol
      weight := none }

end Positions

section Portfolio

inductive PortfolioStatus
  | blockedAuthorization
  | blockedEmptyPortfolio
  | planned
deriving DecidableEq

structure RiskSummary where
  computedPositionCount : Nat
  portfolioBeta : Option ℚ
  portfolioTotalReturn : Option ℚ
  weightedAverageDailyReturn : Option ℚ

structure PortfolioAnalyticsInput where
  asOf : Option String
  authorizedHoldings : Option Bool
  positions : Option (List RawPosition)
  workspaceId : Option String

structure PortfolioAnalyticsResult where
  asOf : String
  authorizedHoldingsSupplied : Bool
  credits : Nat
  currency : String
  includedPositionCount : Nat
  issuerCount : Nat
  positions : List PortfolioPosition
  riskSummary : RiskSummary
  rows : Nat
  status : PortfolioStatus
  top3Weight : ℚ≥0
  topPositionWeight : ℚ≥0
  totalMarketValue : ℚ≥0
  workspaceId : Option String

variable (tools : Tools) (roundMetric : ℚ → ℚ)

def isIncluded (position : PortfolioPosition) : Bool :=
  position.status = .included && position.marketValue.isSome

def includedTotal (positions : List PortfolioPosition) : ℚ≥0 :=
  ((positions.filter isIncluded).map fun position => position.marketValue.getD 0).sum

def roundOptionalWeightedMetric (positions : List PortfolioPosition)
    (metric : ReturnMetrics → Option ℚ) : Option ℚ :=
  let values := positions.filterMap fun position => do
    let value ← position.returnMetrics.bind metric
    let weight ← position.weight
    return value * (weight : ℚ)
  if values.isEmpty then none else some (roundMetric values.sum)

def createPortfolioRiskSummary (positions : List PortfolioPosition) : RiskSummary :=
  let computablePositions := positions.filter fun position =>
    position.weight.isSome && position.returnMetrics.any fun metrics =>
      metrics.averageDailyReturn.isSome || metrics.beta.isSome || metrics.totalReturn.isSome
  { computedPositionCount := computablePositions.length
    portfolioBeta := roundOptionalWeightedMetric roundMetric computablePositions (·.beta)
    portfolioTotalReturn :=
      roundOptionalWeightedMetric roundMetric computablePositions (·.totalReturn)
    weightedAverageDailyReturn :=
      roundOptionalWeightedMetric roundMetric computablePositions (·.averageDailyReturn) }

def createPortfolioAnalyticsResult (asOf : String) (positions : List PortfolioPosition)
    (status : PortfolioStatus) (totalMarketValue : Option ℚ≥0) (usageRows : Nat)
    (workspaceId : Option String) : PortfolioAnalyticsResult :=
  let includedPositions := positions.filter isIncluded
  let weights := Shares.descending (includedPositions.map fun position => position.weight.getD 0)
  { asOf := asOf
    authorizedHoldingsSupplied := status ≠ .blockedAuthorization
    credits := if status = .planned then 3 else 0
    currency := (includedPositions.head?.bind PortfolioPosition.currency).getD "HKD"
    includedPositionCount := includedPositions.length
    issuerCount := ((includedPositions.map PortfolioPosition.instrumentId).eraseDups).length
    positions := positions
    riskSummary := createPortfolioRiskSummary roundMetric includedPositions
    rows := usageRows
    status := status
    top3Weight := roundValue roundMetric (weights.take 3).sum
    topPositionWeight := roundValue roundMetric (weights.head?.getD 0)
    totalMarketValue :=
      totalMarketValue.getD (roundValue roundMetric (includedTotal positions))
    workspaceId := workspaceId }

def withWeight (totalMarketValue : ℚ≥0) (position : PortfolioPosition) : PortfolioPosition :=
  { position with
    weight := position.marketValue.map fun value =>
      roundValue roundMetric (value / totalMarketValue) }

def getPortfolioAnalytics (input : PortfolioAnalyticsInput) : PortfolioAnalyticsResult :=
  let asOf := input.asOf.getD "2026-01-07T16:15:00+08:00"
  let positions := normalizePortfolioPositions tools input.positions
  if input.authorizedHoldings ≠ some true then
    createPortfolioAnalyticsResult roundMetric asOf [] .blockedAuthorization none 0
      input.workspaceId
  else if positions.length = 0 then
    createPortfolioAnalyticsResult roundMetric asOf [] .blockedEmptyPortfolio none 0
      input.workspaceId
  else
    let portfolioPositions :=
      positions.map (createPortfolioAnalyticsPosition tools roundMetric asOf)
    let totalMarketValue := roundValue roundMetric (includedTotal portfolioPositions)
    let weightedPositions :=
      if 0 < totalMarketValue then
        portfolioPositions.map (withWeight roundMetric totalMarketValue)
      else portfolioPositions
    createPortfolioAnalyticsResult roundMetric asOf weightedPositions .planned
      (some totalMarketValue) (positions.length + weightedPositions.length) input.workspaceId

end Portfolio

section Valued

variable {tools : Tools} {asOf : String} {position : PositionInput}

@[simp] theorem roundValue_id (value : ℚ≥0) : roundValue id value = value :=
  NNRat.toNNRat_coe value

@[simp] theorem createPosition_weight (roundMetric : ℚ → ℚ) :
    (createPortfolioAnalyticsPosition tools roundMetric asOf position).weight = none := by
  unfold createPortfolioAnalyticsPosition
  dsimp only
  split <;> rfl

theorem createPosition_unresolved (roundMetric : ℚ → ℚ)
    (h : instrumentIdOf tools asOf position = none) :
    (createPortfolioAnalyticsPosition tools roundMetric asOf position).status =
        .blockedResolution ∧
      (createPortfolioAnalyticsPosition tools roundMetric asOf position).marketValue =
        position.marketValue := by
  simp [createPortfolioAnalyticsPosition, h]

theorem createPosition_resolved (roundMetric : ℚ → ℚ) {instrumentId : String}
    (h : instrumentIdOf tools asOf position = some instrumentId) :
    (createPortfolioAnalyticsPosition tools roundMetric asOf position).marketValue =
        marketValueOf roundMetric position (tools.getQuoteSnapshot asOf instrumentId) ∧
      isIncluded (createPortfolioAnalyticsPosition tools roundMetric asOf position) =
        (marketValueOf roundMetric position
          (tools.getQuoteSnapshot asOf instrumentId)).isSome := by
  simp only [createPortfolioAnalyticsPosition, h, isIncluded, true_and]
  cases marketValueOf roundMetric position (tools.getQuoteSnapshot asOf instrumentId) <;> rfl

theorem isIncluded_iff {position : PortfolioPosition} :
    isIncluded position = true ↔
      position.status = .included ∧ ∃ value, position.marketValue = some value := by
  simp [isIncluded, Option.isSome_iff_exists]

def includedValues (positions : List PortfolioPosition) : List ℚ≥0 :=
  (positions.filter isIncluded).map fun position => position.marketValue.getD 0

theorem includedTotal_pos {positions : List PortfolioPosition} {position : PortfolioPosition}
    {value : ℚ≥0} (hmem : position ∈ positions) (hincluded : isIncluded position = true)
    (hvalue : position.marketValue = some value) (hpos : 0 < value) :
    0 < includedTotal positions := by
  refine lt_of_lt_of_le hpos (List.le_sum_of_mem ?_)
  exact List.mem_map.mpr ⟨position, List.mem_filter.mpr ⟨hmem, hincluded⟩, by rw [hvalue]; rfl⟩

end Valued

theorem filter_withWeight (roundMetric : ℚ → ℚ) (total : ℚ≥0) (positions : List PortfolioPosition) :
    (positions.map (withWeight roundMetric total)).filter isIncluded =
      (positions.filter isIncluded).map (withWeight roundMetric total) :=
  List.filter_map

theorem includedWeights (total : ℚ≥0) (positions : List PortfolioPosition) :
    ((positions.map (withWeight id total)).filter isIncluded).map
        (fun position => position.weight.getD 0) =
      (includedValues positions).map (· / total) := by
  rw [filter_withWeight, includedValues, List.map_map, List.map_map]
  refine List.map_congr_left fun position hposition => ?_
  obtain ⟨-, value, hvalue⟩ := isIncluded_iff.mp (List.mem_filter.mp hposition).2
  simp [withWeight, hvalue]

theorem filterMap_weight (total : ℚ≥0) {positions : List PortfolioPosition}
    (h : ∀ position ∈ positions, position.marketValue.isSome = true → isIncluded position = true) :
    (positions.map (withWeight id total)).filterMap PortfolioPosition.weight =
      (includedValues positions).map (· / total) := by
  rw [List.filterMap_map, includedValues, List.map_map]
  induction positions with
  | nil => rfl
  | cons position positions ih =>
    have htail := ih fun other hother => h other (List.mem_cons_of_mem _ hother)
    have hhead := h position List.mem_cons_self
    cases hvalue : position.marketValue with
    | none =>
      have hnot : isIncluded position = false := by simp [isIncluded, hvalue]
      rw [List.filterMap_cons_none (by simp [withWeight, hvalue]), htail,
        List.filter_cons_of_neg (by simp [hnot])]
    | some value =>
      rw [List.filterMap_cons_some (b := value / total) (by simp [withWeight, hvalue]), htail,
        List.filter_cons_of_pos (hhead (by rw [hvalue]; rfl)), List.map_cons]
      simp [hvalue]

theorem concentration_of_sum {weights : List ℚ≥0} (h : weights.sum ≤ 1) :
    (Shares.descending weights).head?.getD 0 ≤ ((Shares.descending weights).take 3).sum ∧
      ((Shares.descending weights).take 3).sum ≤ 1 := by
  have hnonneg : ∀ weight ∈ Shares.descending weights, (0 : ℚ≥0) ≤ weight :=
    fun weight _ => zero_le
  refine ⟨Shares.head_le_sum_take hnonneg 2, (Shares.sum_take_le hnonneg 3).trans ?_⟩
  rw [Shares.sum_descending]
  exact h

section Figures

structure SameFigures (left right : PortfolioAnalyticsResult) : Prop where
  totalMarketValue : left.totalMarketValue = right.totalMarketValue
  topPositionWeight : left.topPositionWeight = right.topPositionWeight
  top3Weight : left.top3Weight = right.top3Weight
  positions : left.positions.Perm right.positions

variable {positions others : List PortfolioPosition}

theorem includedTotal_perm (h : positions.Perm others) :
    includedTotal positions = includedTotal others :=
  ((h.filter isIncluded).map
    fun position : PortfolioPosition => position.marketValue.getD 0).sum_eq

theorem createPortfolioAnalyticsResult_perm (roundMetric : ℚ → ℚ) (asOf : String)
    (h : positions.Perm others) (status : PortfolioStatus) (total : Option ℚ≥0) (rows rows' : Nat)
    (workspaceId : Option String) :
    SameFigures
      (createPortfolioAnalyticsResult roundMetric asOf positions status total rows workspaceId)
      (createPortfolioAnalyticsResult roundMetric asOf others status total rows' workspaceId) := by
  have hweights := Shares.descending_eq_of_perm
    ((h.filter isIncluded).map fun position => position.weight.getD 0)
  have htotal := includedTotal_perm h
  constructor
  · simp [createPortfolioAnalyticsResult, htotal]
  · simp [createPortfolioAnalyticsResult, hweights]
  · simp [createPortfolioAnalyticsResult, hweights]
  · exact h

theorem getPortfolioAnalytics_perm (roundMetric : ℚ → ℚ) (input : PortfolioAnalyticsInput)
    {others : List RawPosition} (h : (input.positions.getD []).Perm others) :
    SameFigures (getPortfolioAnalytics tools roundMetric input)
      (getPortfolioAnalytics tools roundMetric { input with positions := some others }) := by
  have hpositions : (normalizePortfolioPositions tools input.positions).Perm
      (normalizePortfolioPositions tools (some others)) := (h.map _).filter _
  unfold getPortfolioAnalytics
  dsimp only
  rw [← hpositions.length_eq]
  split
  · exact createPortfolioAnalyticsResult_perm _ _ .rfl _ _ _ _ _
  · split
    · exact createPortfolioAnalyticsResult_perm _ _ .rfl _ _ _ _ _
    · have hvalued := hpositions.map (createPortfolioAnalyticsPosition tools roundMetric
        (input.asOf.getD "2026-01-07T16:15:00+08:00"))
      rw [← includedTotal_perm hvalued]
      split
      · exact createPortfolioAnalyticsResult_perm _ _ (hvalued.map _) _ _ _ _ _
      · exact createPortfolioAnalyticsResult_perm _ _ hvalued _ _ _ _ _

structure WeightsCorrect (result : PortfolioAnalyticsResult) : Prop where
  onlyIncluded : ∀ position ∈ result.positions,
    position.weight.isSome = true → position.status = .included
  quotient : ∀ position ∈ result.positions, ∀ weight, position.weight = some weight →
    ∃ value, position.marketValue = some value ∧ weight = value / result.totalMarketValue
  sumToOne : 0 < result.totalMarketValue →
    (result.positions.filterMap PortfolioPosition.weight).sum = 1
  concentration : 0 ≤ result.topPositionWeight ∧
    result.topPositionWeight ≤ result.top3Weight ∧ result.top3Weight ≤ 1

variable (input : PortfolioAnalyticsInput)

def asOfOf : String :=
  input.asOf.getD "2026-01-07T16:15:00+08:00"

def ValuesResolved : Prop :=
  (∀ position ∈ normalizePortfolioPositions tools input.positions,
    instrumentIdOf tools (asOfOf input) position = none → position.marketValue = none) ∨
  ∀ position ∈ normalizePortfolioPositions tools input.positions, ∀ instrumentId,
    instrumentIdOf tools (asOfOf input) position = some instrumentId →
      ∀ value, marketValueOf id position
        (tools.getQuoteSnapshot (asOfOf input) instrumentId) = some value → value = 0

def valuedPositions : List PortfolioPosition :=
  (normalizePortfolioPositions tools input.positions).map
    (createPortfolioAnalyticsPosition tools id (asOfOf input))

theorem weightsCorrect_empty (asOf : String) (status : PortfolioStatus)
    (workspaceId : Option String) :
    WeightsCorrect (createPortfolioAnalyticsResult id asOf [] status none 0 workspaceId) := by
  have htotal : ¬(0 : ℚ≥0) < (createPortfolioAnalyticsResult id asOf [] status none 0
      workspaceId).totalMarketValue := by
    simp [createPortfolioAnalyticsResult, includedTotal]
  constructor
  · intro position hposition
    cases hposition
  · intro position hposition
    cases hposition
  · exact fun hpos => absurd hpos htotal
  · simp [createPortfolioAnalyticsResult, Shares.descending]

theorem weightsCorrect_shares {positions : List PortfolioPosition}
    (hincluded : ∀ position ∈ positions,
      position.marketValue.isSome = true → isIncluded position = true)
    (hpos : 0 < includedTotal positions)
    (asOf : String)
    (rows : Nat)
    (workspaceId : Option String) :
    WeightsCorrect (createPortfolioAnalyticsResult id asOf
      (positions.map (withWeight id (includedTotal positions))) .planned
      (some (includedTotal positions)) rows workspaceId) := by
  have hshares : ((includedValues positions).map (· / includedTotal positions)).sum = 1 :=
    Shares.sum_shares hpos.ne'
  constructor
  · intro position hposition hweight
    obtain ⟨valued, hvalued, rfl⟩ := List.mem_map.mp hposition
    have hvalue : valued.marketValue.isSome = true := by simpa [withWeight] using hweight
    exact (isIncluded_iff.mp (hincluded valued hvalued hvalue)).1
  · intro position hposition weight hweight
    obtain ⟨valued, -, rfl⟩ := List.mem_map.mp hposition
    obtain ⟨value, hvalue, rfl⟩ := Option.map_eq_some_iff.mp hweight
    exact ⟨value, hvalue, roundValue_id _⟩
  · intro _
    exact (congrArg List.sum (filterMap_weight _ hincluded)).trans hshares
  · obtain ⟨hhead, htake⟩ := concentration_of_sum hshares.le
    simp only [createPortfolioAnalyticsResult, roundValue_id, includedWeights]
    exact ⟨zero_le, hhead, htake⟩

theorem weightsCorrect_zero {positions : List PortfolioPosition}
    (hweight : ∀ position ∈ positions, position.weight = none) (asOf : String) (rows : Nat)
    (workspaceId : Option String) :
    WeightsCorrect (createPortfolioAnalyticsResult id asOf positions .planned (some 0) rows
      workspaceId) := by
  constructor
  · intro position hposition hsome
    rw [hweight position hposition] at hsome
    cases hsome
  · intro position hposition weight hsome
    rw [hweight position hposition] at hsome
    cases hsome
  · exact fun hpos => absurd hpos (lt_irrefl 0)
  · have hzero : (positions.filter isIncluded).map (fun position => position.weight.getD 0) =
        List.replicate (positions.filter isIncluded).length 0 := by
      refine List.map_eq_replicate_iff.mpr fun position hposition => ?_
      rw [hweight position (List.mem_of_mem_filter hposition)]
      rfl
    have hsum : ((positions.filter isIncluded).map
        (fun position => position.weight.getD 0)).sum ≤ 1 := by
      simp [hzero]
    obtain ⟨hhead, htake⟩ := concentration_of_sum hsum
    simp only [createPortfolioAnalyticsResult, roundValue_id]
    exact ⟨zero_le, hhead, htake⟩

theorem weight_of_valued {input : PortfolioAnalyticsInput} {position : PortfolioPosition}
    (h : position ∈ valuedPositions tools input) : position.weight = none := by
  obtain ⟨raw, -, rfl⟩ := List.mem_map.mp h
  exact createPosition_weight id

variable {input : PortfolioAnalyticsInput}

theorem includedTotal_of_zero
    (h : ∀ position ∈ normalizePortfolioPositions tools input.positions, ∀ instrumentId,
      instrumentIdOf tools (asOfOf input) position = some instrumentId →
        ∀ value, marketValueOf id position
          (tools.getQuoteSnapshot (asOfOf input) instrumentId) = some value → value = 0) :
    includedTotal (valuedPositions tools input) = 0 := by
  refine List.sum_eq_zero fun value hvalue => ?_
  obtain ⟨position, hposition, rfl⟩ := List.mem_map.mp hvalue
  obtain ⟨hmem, hincluded⟩ := List.mem_filter.mp hposition
  obtain ⟨raw, hraw, rfl⟩ := List.mem_map.mp hmem
  obtain ⟨hstatus, value, hvalue⟩ := isIncluded_iff.mp hincluded
  cases hid : instrumentIdOf tools (asOfOf input) raw with
  | none =>
    rw [(createPosition_unresolved id hid).1] at hstatus
    cases hstatus
  | some instrumentId =>
    have hmarket := (createPosition_resolved id hid).1
    rw [hvalue, Option.getD_some]
    exact h raw hraw instrumentId hid value (hmarket.symm.trans hvalue)

theorem getPortfolioAnalytics_planned (hauthorized : input.authorizedHoldings = some true)
    (hsome : normalizePortfolioPositions tools input.positions ≠ []) :
    ∃ rows, getPortfolioAnalytics tools id input =
      createPortfolioAnalyticsResult id (asOfOf input)
        (if 0 < includedTotal (valuedPositions tools input) then
          (valuedPositions tools input).map
            (withWeight id (includedTotal (valuedPositions tools input)))
        else valuedPositions tools input)
        .planned (some (includedTotal (valuedPositions tools input))) rows input.workspaceId := by
  have hlength : ¬(normalizePortfolioPositions tools input.positions).length = 0 :=
    fun hzero => hsome (List.length_eq_zero_iff.mp hzero)
  unfold getPortfolioAnalytics
  dsimp only
  rw [if_neg (fun hne => hne hauthorized), if_neg hlength]
  simp only [roundValue_id]
  exact ⟨_, rfl⟩

/-- The weights are right exactly when no unresolved position takes part in them. -/
theorem weightsCorrect_iff :
    WeightsCorrect (getPortfolioAnalytics tools id input) ↔
      (input.authorizedHoldings = some true → ValuesResolved tools input) := by
  by_cases hauthorized : input.authorizedHoldings = some true
  · by_cases hnone : normalizePortfolioPositions tools input.positions = []
    · have hvalues : ValuesResolved tools input := by
        refine .inl ?_
        rw [hnone]
        exact fun _ h => absurd h List.not_mem_nil
      refine iff_of_true ?_ fun _ => hvalues
      unfold getPortfolioAnalytics
      dsimp only
      rw [if_neg (fun hne => hne hauthorized), if_pos (by rw [hnone]; rfl)]
      exact weightsCorrect_empty _ _ _
    · obtain ⟨rows, hresult⟩ := getPortfolioAnalytics_planned tools hauthorized hnone
      rw [hresult]
      constructor
      · intro hcorrect _
        by_contra hvalues
        obtain ⟨hunresolved, hresolved⟩ := not_or.mp hvalues
        push Not at hunresolved hresolved
        obtain ⟨raw, hraw, hid, hvalue⟩ := hunresolved
        obtain ⟨other, hother, instrumentId, hotherId, value, hotherValue, hne⟩ := hresolved
        obtain ⟨hmarket, hcounts⟩ := createPosition_resolved id hotherId
        have hpos : 0 < includedTotal (valuedPositions tools input) := by
          refine includedTotal_pos (List.mem_map_of_mem hother) ?_ (hmarket.trans hotherValue)
            (pos_iff_ne_zero.mpr hne)
          rw [hcounts, hotherValue]
          rfl
        obtain ⟨hstatus, hkept⟩ := createPosition_unresolved id hid
        have honly := hcorrect.onlyIncluded
          (withWeight id (includedTotal (valuedPositions tools input))
            (createPortfolioAnalyticsPosition tools id (asOfOf input) raw))
        have hmem : createPortfolioAnalyticsPosition tools id (asOfOf input) raw ∈
            valuedPositions tools input := List.mem_map_of_mem hraw
        rw [if_pos hpos] at honly
        have hincluded := honly (List.mem_map_of_mem hmem) (by
          rw [withWeight, Option.isSome_map, hkept]
          exact Option.isSome_iff_ne_none.mpr hvalue)
        rw [withWeight, hstatus] at hincluded
        cases hincluded
      · intro hvalues
        by_cases hpos : 0 < includedTotal (valuedPositions tools input)
        · rw [if_pos hpos]
          refine weightsCorrect_shares (fun position hposition hvalue => ?_) hpos _ _ _
          obtain ⟨raw, hraw, rfl⟩ := List.mem_map.mp hposition
          cases hid : instrumentIdOf tools (asOfOf input) raw with
          | some instrumentId =>
            obtain ⟨hmarket, hcounts⟩ := createPosition_resolved id hid
            rw [hcounts, ← hmarket]
            exact hvalue
          | none =>
            obtain ⟨-, hkept⟩ := createPosition_unresolved id hid
            rcases hvalues hauthorized with hunresolved | hzero
            · rw [hkept, hunresolved raw hraw hid] at hvalue
              cases hvalue
            · have htotal := includedTotal_of_zero tools hzero
              exact absurd hpos (by rw [htotal]; exact lt_irrefl 0)
        · have htotal : includedTotal (valuedPositions tools input) = 0 :=
            le_antisymm (not_lt.mp hpos) zero_le
          rw [if_neg hpos, htotal]
          exact weightsCorrect_zero (fun _ => weight_of_valued tools) _ _ _
  · refine iff_of_true ?_ fun h => absurd h hauthorized
    unfold getPortfolioAnalytics
    dsimp only
    rw [if_pos hauthorized]
    exact weightsCorrect_empty _ _ _

/-- The figures of a portfolio are right, in any order of its positions, exactly when no
unresolved position takes part in them. -/
theorem getPortfolioAnalytics_correct_iff (input : PortfolioAnalyticsInput) :
    (WeightsCorrect (getPortfolioAnalytics tools id input) ∧
      ∀ others, (input.positions.getD []).Perm others →
        SameFigures (getPortfolioAnalytics tools id input)
          (getPortfolioAnalytics tools id { input with positions := some others })) ↔
      (input.authorizedHoldings = some true → ValuesResolved tools input) := by
  rw [weightsCorrect_iff]
  exact and_iff_left fun _ => getPortfolioAnalytics_perm tools id input

def emptyTools : Tools where
  toUpperCase := id
  resolveSecurity _ _ := ⟨[], none, []⟩
  getQuoteSnapshot _ _ := ⟨none, []⟩
  calculateReturnsRisk _ _ := ⟨[], .blockedHistory⟩

def samplePosition (instrumentId securityQuery : Option String) : RawPosition where
  costBasis := none
  currency := none
  instrumentId := instrumentId
  marketValue := some (.finite 100)
  quantity := none
  securityQuery := securityQuery

/-- One position with an instrument, and one with a query that is not resolved. -/
def sampleInput : PortfolioAnalyticsInput where
  asOf := none
  authorizedHoldings := some true
  positions := some [samplePosition (some "eq_hk_00001") none, samplePosition none (some "ABC")]
  workspaceId := none

/-- The two positions both have the weight one. -/
theorem getPortfolioAnalytics_unresolved :
    ¬WeightsCorrect (getPortfolioAnalytics emptyTools id sampleInput) := by
  intro h
  have hsum := h.sumToOne (by decide +kernel)
  revert hsum
  decide +kernel

end Figures

end Aiphabee.PortfolioAnalytics
