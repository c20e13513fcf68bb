import Mathlib.Data.List.Dedup
import Aiphabee.FinancialFacts.LiveFacts
import Aiphabee.Numbers.DecimalRounding
import Aiphabee.Store.StableSort

/-!
# Derived metrics of live facts

Of the facts of each metric the one with the latest period is taken, and of several with
one period the one that was published last.  A derived metric divides two of the facts, or
the market capitalization by one.

The main result, `createLiveDerivedMetrics_sound_iff`, says for which facts every metric
that is computed is sound and the order of the facts does not matter.
-/

namespace Aiphabee.Workbench

open JsText (ofString)
open LiveFacts

inductive DerivedMetricCategory
  | profitability
  | valuation

/-- The numerator of a valuation is the market capitalization. -/
structure StockWorkbenchDerivedMetricDefinition where
  metricId : String
  numerator : Option FinancialFactMetric
  denominator : FinancialFactMetric
  unit : String

def StockWorkbenchDerivedMetricDefinition.category
    (definition : StockWorkbenchDerivedMetricDefinition) : DerivedMetricCategory :=
  if definition.numerator.isSome then .profitability else .valuation

/-- `DERIVED_METRIC_DEFINITIONS`. -/
def derivedMetricDefinitions : List StockWorkbenchDerivedMetricDefinition := [
  ⟨"net_margin", some .netIncome, .revenue, "ratio"⟩,
  ⟨"return_on_assets", some .netIncome, .assets, "ratio"⟩,
  ⟨"return_on_equity", some .netIncome, .equity, "ratio"⟩,
  ⟨"asset_turnover", some .revenue, .assets, "ratio"⟩,
  ⟨"equity_multiplier", some .assets, .equity, "multiple"⟩,
  ⟨"price_to_earnings", none, .netIncome, "multiple"⟩,
  ⟨"price_to_sales", none, .revenue, "multiple"⟩,
  ⟨"price_to_book", none, .equity, "multiple"⟩]

/-- `DERIVED_METRIC_FORMULA_VERSION`, the same in all definitions. -/
def derivedMetricFormulaVersion : String :=
  "stock-workbench-derived-metrics-v0"

inductive BlockedReason
  | financialFactsNotFound
  | missingInput
  | negativeDenominator
  | qualityHold
  | quoteUnavailable
  | sharesOutstandingUnavailable
  | zeroDenominator

inductive AnomalyFlag
  | currencyMismatch
  | quality (metricId : FinancialFactMetric) (state : QualityState)

structure MetricInputs where
  facts : List (FinancialFactMetric × ℚ) := []
  marketCap : Option ℚ := none
  quoteClose : Option ℚ := none
  sharesOutstanding : Option ℚ := none

inductive MetricStatus
  | blocked (reason : BlockedReason)
  | computed (value : ℚ)

/-- What does not depend on whether a metric is computed. -/
structure MetricBase where
  category : DerivedMetricCategory
  formulaVersion : String
  metricId : String
  periodEnd : Option JsText
  sourceRecordIds : List JsText
  unit : String

structure MetricOutcome where
  anomalyFlags : List AnomalyFlag := []
  inputs : MetricInputs := {}
  status : MetricStatus

structure StockWorkbenchDerivedMetricValue extends MetricBase, MetricOutcome

structure LiveQuoteSnapshotRow where
  close : Option ℚ
  currency : JsText
  sharesOutstanding : Option ℚ

structure GetLiveQuoteSnapshotResult where
  asOf : JsText
  dataVersion : JsText
  provenance : List JsText
  quote : Option LiveQuoteSnapshotRow

abbrev FactMap := FinancialFactMetric → Option LiveFinancialFactRow

variable (platform : Platform)

def liveFinancialFactSortOrder (left right : LiveFinancialFactRow) : Int :=
  let periodOrder := platform.localeCompare right.periodEnd left.periodEnd
  if periodOrder ≠ 0 then periodOrder
  else platform.localeCompare right.publishedAt left.publishedAt

def SortsBefore (left right : LiveFinancialFactRow) : Prop :=
  liveFinancialFactSortOrder platform left right ≤ 0

instance : DecidableRel (SortsBefore platform) := fun _ _ =>
  inferInstanceAs (Decidable (_ ≤ (0 : Int)))

def createLiveFinancialFactMap (facts : List LiveFinancialFactRow) : FactMap := fun metricId =>
  (facts.insertionSort (SortsBefore platform)).find? fun row => row.metricId = metricId

def roundMetric (value : ℚ) : ℚ := DecimalRounding.roundTo 1000000 value

/-- `Array.from(new Set(ids)).sort()`. -/
def distinctSorted (ids : List JsText) : List JsText :=
  ids.dedup.insertionSort (· ≤ ·)

def createLiveMetricBase (definition : StockWorkbenchDerivedMetricDefinition)
    (facts : List (Option LiveFinancialFactRow)) (extraSourceRecordIds : List JsText) :
    MetricBase where
  category := definition.category
  formulaVersion := derivedMetricFormulaVersion
  metricId := definition.metricId
  periodEnd := (facts.filterMap id).head?.map (·.periodEnd)
  sourceRecordIds := distinctSorted
    ((facts.filterMap id).map (·.sourceRecordId) ++ extraSourceRecordIds)
  unit := definition.unit

/-- `blockMetric`. -/
def blocked (reason : BlockedReason) (anomalyFlags : List AnomalyFlag := [])
    (inputs : MetricInputs := {}) : MetricOutcome :=
  { anomalyFlags, inputs, status := .blocked reason }

def qualityFlags (facts : List LiveFinancialFactRow) : List AnomalyFlag :=
  (facts.filter (·.qualityState ≠ .PASS)).map fun fact =>
    .quality fact.metricId fact.qualityState

def divide (numerator denominator : LiveFinancialFactRow) : MetricOutcome :=
  let flags := qualityFlags [numerator, denominator]
  if flags ≠ [] then blocked .qualityHold flags
  else if denominator.value = 0 then blocked .zeroDenominator
  else if denominator.value < 0 then blocked .negativeDenominator
  else {
    inputs := {
      facts := [(numerator.metricId, numerator.value), (denominator.metricId, denominator.value)] }
    status := .computed (roundMetric (numerator.value / denominator.value)) }

def createLiveProfitabilityMetric (definition : StockWorkbenchDerivedMetricDefinition)
    (numerator denominator : Option LiveFinancialFactRow) (hasFacts : Bool) :
    StockWorkbenchDerivedMetricValue where
  toMetricBase := createLiveMetricBase definition [numerator, denominator] []
  toMetricOutcome :=
    if !hasFacts then blocked .financialFactsNotFound
    else
      match numerator, denominator with
      | some numerator, some denominator => divide numerator denominator
      | _, _ => blocked .missingInput

/-- A valuation whose quote has a price and a number of shares. -/
def valuate (currency : JsText) (marketCap : ℚ) (inputs : MetricInputs)
    (denominator : LiveFinancialFactRow) : MetricOutcome :=
  let flags := if currency ≠ denominator.currency then [.currencyMismatch] else []
  if denominator.qualityState ≠ .PASS then
    blocked .qualityHold (flags ++ qualityFlags [denominator]) inputs
  else if denominator.value = 0 then blocked .zeroDenominator flags inputs
  else if denominator.value < 0 then blocked .negativeDenominator flags inputs
  else {
    anomalyFlags := flags
    inputs := { inputs with marketCap }
    status := .computed (roundMetric (marketCap / denominator.value)) }

def createLiveValuationMetric (definition : StockWorkbenchDerivedMetricDefinition)
    (denominator : Option LiveFinancialFactRow) (hasFacts : Bool)
    (quoteSnapshot : Option GetLiveQuoteSnapshotResult) : StockWorkbenchDerivedMetricValue :=
  let quote := quoteSnapshot.bind (·.quote)
  let inputs : MetricInputs := {
    facts := (denominator.map fun fact => (definition.denominator, fact.value)).toList
    quoteClose := quote.bind (·.close)
    sharesOutstanding := quote.bind (·.sharesOutstanding) }
  { toMetricBase := createLiveMetricBase definition [denominator]
      (quoteSnapshot.bind (·.provenance.head?)).toList
    toMetricOutcome :=
      if !hasFacts then blocked .financialFactsNotFound [] inputs
      else
        match quote, inputs.quoteClose, inputs.sharesOutstanding with
        | some quote, some close, some shares =>
          match denominator with
          | some fact => valuate quote.currency (roundMetric (close * shares)) inputs fact
          | none => blocked .missingInput [] inputs
        | some _, some _, none => blocked .sharesOutstandingUnavailable [] inputs
        | _, _, _ => blocked .quoteUnavailable [] inputs }

structure LiveDerivedMetricsInput where
  financialFacts : Option GetLiveFinancialFactsResult
  quoteSnapshot : Option GetLiveQuoteSnapshotResult

def LiveDerivedMetricsInput.facts (input : LiveDerivedMetricsInput) :
    List LiveFinancialFactRow :=
  (input.financialFacts.bind (·.facts)).getD []

def composeLiveDerivedMetricsDataVersion (input : LiveDerivedMetricsInput) : JsText :=
  let parts :=
    (input.financialFacts.map (ofString "financial_facts:" ++ ·.dataVersion)).toList ++
      (input.quoteSnapshot.map (ofString "quote_snapshot:" ++ ·.dataVersion)).toList
  (ofString "|").intercalate parts

inductive DerivedMetricsStatus
  | blocked
  | computed
  | partly

structure StockWorkbenchLiveDerivedMetrics where
  credits : Nat
  dataVersion : JsText
  financialFactsAsOf : Option JsText
  financialPeriodEnd : Option JsText
  metrics : List StockWorkbenchDerivedMetricValue
  provenance : List JsText
  quoteAsOf : Option JsText
  rows : Nat
  status : DerivedMetricsStatus

def createLiveMetric (facts : FactMap) (input : LiveDerivedMetricsInput)
    (definition : StockWorkbenchDerivedMetricDefinition) : StockWorkbenchDerivedMetricValue :=
  match definition.numerator with
  | none => createLiveValuationMetric definition (facts definition.denominator)
      input.financialFacts.isSome input.quoteSnapshot
  | some numerator => createLiveProfitabilityMetric definition (facts numerator)
      (facts definition.denominator) input.financialFacts.isSome

def StockWorkbenchDerivedMetricValue.isComputed (metric : StockWorkbenchDerivedMetricValue) :
    Bool :=
  match metric.status with
  | .computed _ => true
  | .blocked _ => false

def summarize (input : LiveDerivedMetricsInput) (financialPeriodEnd : Option JsText)
    (metrics : List StockWorkbenchDerivedMetricValue) : StockWorkbenchLiveDerivedMetrics :=
  let computedCount := metrics.countP (·.isComputed)
  { credits := if 0 < computedCount then 1 else 0
    dataVersion := composeLiveDerivedMetricsDataVersion input
    financialFactsAsOf := input.financialFacts.map (·.asOf)
    financialPeriodEnd
    metrics
    provenance := (input.financialFacts.map (·.provenance)).getD [] ++
      (input.quoteSnapshot.map (·.provenance)).getD []
    quoteAsOf := input.quoteSnapshot.map (·.asOf)
    rows := metrics.length
    status := if computedCount = 0 then .blocked
      else if metrics.length - computedCount = 0 then .computed else .partly }

def createLiveDerivedMetrics (input : LiveDerivedMetricsInput) :
    StockWorkbenchLiveDerivedMetrics :=
  let facts := createLiveFinancialFactMap platform input.facts
  let sortedFacts := input.facts.insertionSort (SortsBefore platform)
  summarize input (sortedFacts.head?.map fun row => row.periodEnd)
    (derivedMetricDefinitions.map (createLiveMetric facts input))

/-! What a computed metric promises, and of which facts. -/

def StockWorkbenchDerivedMetricDefinition.inputMetrics
    (definition : StockWorkbenchDerivedMetricDefinition) : List FinancialFactMetric :=
  definition.numerator.toList ++ [definition.denominator]

def quotes (definition : StockWorkbenchDerivedMetricDefinition)
    (quoteSnapshot : Option GetLiveQuoteSnapshotResult) : Option GetLiveQuoteSnapshotResult :=
  if definition.numerator.isSome then none else quoteSnapshot

def currencies (definition : StockWorkbenchDerivedMetricDefinition) (facts : FactMap)
    (quoteSnapshot : Option GetLiveQuoteSnapshotResult) : List JsText :=
  (definition.inputMetrics.filterMap facts).map (·.currency) ++
    (((quotes definition quoteSnapshot).bind (·.quote)).map (·.currency)).toList

structure IsSound (definition : StockWorkbenchDerivedMetricDefinition) (facts : FactMap)
    (quoteSnapshot : Option GetLiveQuoteSnapshotResult)
    (metric : StockWorkbenchDerivedMetricValue) (value : ℚ) : Prop where
  reported : metric.inputs.facts =
    (definition.inputMetrics.filterMap facts).map fun row => (row.metricId, row.value)
  onePeriod : ∀ a ∈ definition.inputMetrics.filterMap facts,
    ∀ b ∈ definition.inputMetrics.filterMap facts,
      a.periodEnd = b.periodEnd ∧ a.periodType = b.periodType
  quality : ∀ a ∈ definition.inputMetrics.filterMap facts, a.qualityState = .PASS
  quotient : ∃ dividend denominator,
    (match definition.numerator with
      | some numerator => (facts numerator).map (·.value)
      | none => metric.inputs.marketCap) = some dividend ∧
    facts definition.denominator = some denominator ∧ 0 < denominator.value ∧
    value = roundMetric (dividend / denominator.value)
  currency : (∃ a ∈ currencies definition facts quoteSnapshot,
    ∃ b ∈ currencies definition facts quoteSnapshot, a ≠ b) →
      .currencyMismatch ∈ metric.anomalyFlags
  cited : ∀ id, id ∈ metric.sourceRecordIds ↔
    id ∈ (definition.inputMetrics.filterMap facts).map (·.sourceRecordId) ++
      ((quotes definition quoteSnapshot).bind (·.provenance.head?)).toList

def Latest (facts : List LiveFinancialFactRow) (metricId : FinancialFactMetric)
    (row : LiveFinancialFactRow) : Prop :=
  row ∈ facts ∧ row.metricId = metricId ∧
    ∀ other ∈ facts, other.metricId = metricId → SortsBefore platform row other

/-- The latest facts that a quotient is made of are of one period and one currency. -/
def OnePeriod (facts : List LiveFinancialFactRow) : Prop :=
  ∀ definition ∈ derivedMetricDefinitions, ∀ metricId ∈ definition.numerator,
    ∀ numerator, Latest platform facts metricId numerator →
    ∀ denominator, Latest platform facts definition.denominator denominator →
      numerator.qualityState = .PASS → denominator.qualityState = .PASS →
      0 < denominator.value → numerator.periodEnd = denominator.periodEnd ∧
        numerator.periodType = denominator.periodType ∧
        numerator.currency = denominator.currency

structure TiesAgree (facts : List LiveFinancialFactRow)
    (quoteSnapshot : Option GetLiveQuoteSnapshotResult) : Prop where
  record : ∀ definition ∈ derivedMetricDefinitions, ∀ metricId ∈ definition.inputMetrics,
    ∀ a b, Latest platform facts metricId a → Latest platform facts metricId b →
      a.sourceRecordId = b.sourceRecordId
  valued : ∀ definition ∈ derivedMetricDefinitions, definition.numerator = none → ∀ a b,
    Latest platform facts definition.denominator a →
    Latest platform facts definition.denominator b → a.value = b.value ∧
      ∀ quote ∈ quoteSnapshot.bind (·.quote), quote.close.isSome →
        quote.sharesOutstanding.isSome → a.qualityState = b.qualityState ∧
          (quote.currency = a.currency ↔ quote.currency = b.currency)
  divided : ∀ definition ∈ derivedMetricDefinitions, ∀ metricId ∈ definition.numerator,
    ∀ a b, Latest platform facts metricId a → Latest platform facts metricId b →
    ∀ c d, Latest platform facts definition.denominator c →
      Latest platform facts definition.denominator d →
      a.qualityState = b.qualityState ∧ c.qualityState = d.qualityState ∧
        (a.qualityState = .PASS → c.qualityState = .PASS →
          (0 < c.value ↔ 0 < d.value) ∧ (c.value = 0 ↔ d.value = 0) ∧
            (0 < c.value → a.value = b.value ∧ c.value = d.value))

def IsChoice (facts : List LiveFinancialFactRow) (choice : FactMap) : Prop :=
  ∀ metricId, (∀ row ∈ choice metricId, Latest platform facts metricId row) ∧
    (choice metricId = none → ∀ row ∈ facts, row.metricId ≠ metricId)

variable {platform}

theorem sortsBefore_iff {a b : LiveFinancialFactRow} :
    SortsBefore platform a b ↔ platform.localeCompare b.periodEnd a.periodEnd < 0 ∨
      a.periodEnd = b.periodEnd ∧ platform.localeCompare b.publishedAt a.publishedAt ≤ 0 := by
  have hself := platform.localeCompare_swap b.periodEnd b.periodEnd
  have hrefl : platform.localeCompare b.periodEnd b.periodEnd = 0 := by omega
  unfold SortsBefore liveFinancialFactSortOrder
  by_cases hzero : platform.localeCompare b.periodEnd a.periodEnd = 0
  · have heq : a.periodEnd = b.periodEnd := Subtype.ext
      (platform.localeCompare_date _ _ b.periodEnd.2 a.periodEnd.2 hzero).symm
    simp [heq, hrefl]
  · have hne : a.periodEnd ≠ b.periodEnd := by
      intro heq
      exact hzero (heq ▸ hrefl)
    simp only [ne_eq, hzero, not_false_eq_true, if_true, hne, false_and, or_false]
    omega

theorem periodEnd_eq_of_ties {a b : LiveFinancialFactRow} (hab : SortsBefore platform a b)
    (hba : SortsBefore platform b a) : a.periodEnd = b.periodEnd := by
  have hswap := platform.localeCompare_swap a.periodEnd b.periodEnd
  rcases sortsBefore_iff.mp hab with hbefore | ⟨heq, -⟩
  · rcases sortsBefore_iff.mp hba with hbehind | ⟨heq, -⟩
    · omega
    · exact heq.symm
  · exact heq

instance : Std.Total (SortsBefore platform) where
  total a b := by
    have hdates := platform.localeCompare_swap a.periodEnd b.periodEnd
    have htimes := platform.localeCompare_swap a.publishedAt b.publishedAt
    have hsame := platform.localeCompare_date _ _ a.periodEnd.2 b.periodEnd.2
    rw [sortsBefore_iff, sortsBefore_iff]
    rcases lt_trichotomy (platform.localeCompare a.periodEnd b.periodEnd) 0 with h | h | h
    · exact .inr (.inl h)
    · have heq := Subtype.ext (hsame h)
      rcases le_or_gt (platform.localeCompare b.publishedAt a.publishedAt) 0 with hle | hgt
      · exact .inl (.inr ⟨heq, hle⟩)
      · exact .inr (.inr ⟨heq.symm, (htimes.mpr hgt).le⟩)
    · have hback := platform.localeCompare_swap b.periodEnd a.periodEnd
      exact .inl (.inl (hback.mpr h))

instance : IsTrans LiveFinancialFactRow (SortsBefore platform) where
  trans a b c hab hbc := by
    rw [sortsBefore_iff] at hab hbc ⊢
    rcases hab with hab | ⟨hab, habTime⟩
    · rcases hbc with hbc | ⟨hbc, -⟩
      · have hle := platform.localeCompare_trans _ _ _ hbc.le hab.le
        refine .inl (lt_of_le_of_ne hle fun hzero => ?_)
        have hsame := platform.localeCompare_date _ _ c.periodEnd.2 a.periodEnd.2 hzero
        rw [hsame] at hbc
        have hswap := platform.localeCompare_swap a.periodEnd b.periodEnd
        omega
      · exact .inl (hbc ▸ hab)
    · rcases hbc with hbc | ⟨hbc, hbcTime⟩
      · exact .inl (hab ▸ hbc)
      · exact .inr ⟨hab.trans hbc, platform.localeCompare_trans _ _ _ hbcTime habTime⟩

variable {facts others : List LiveFinancialFactRow} {choice : FactMap}

theorem createLiveFinancialFactMap_isChoice (facts : List LiveFinancialFactRow) :
    IsChoice platform facts (createLiveFinancialFactMap platform facts) := by
  intro metricId
  constructor
  · intro row hrow
    obtain ⟨hmetric, before, after, hsorted, hbefore⟩ := List.find?_eq_some_iff_append.mp hrow
    have hpairwise := List.pairwise_insertionSort (SortsBefore platform) facts
    have hmem : ∀ other, other ∈ facts ↔ other ∈ before ++ row :: after := by
      intro other
      rw [← hsorted, List.mem_insertionSort]
    rw [hsorted] at hpairwise
    refine ⟨(hmem row).mpr (by simp), of_decide_eq_true hmetric, fun other hother hsame => ?_⟩
    rcases List.mem_append.mp ((hmem other).mp hother) with hearly | hlate
    · have hother := hbefore other hearly
      simp [hsame] at hother
    · rcases List.mem_cons.mp hlate with rfl | hlate
      · exact refl_of _ _
      · exact (List.pairwise_cons.mp (List.pairwise_append.mp hpairwise).2.1).1 other hlate
  · intro hnone row hrow hmetric
    have hnot := List.find?_eq_none.mp hnone row ((List.mem_insertionSort _).mpr hrow)
    exact hnot (decide_eq_true hmetric)

theorem IsChoice.of_perm (hperm : facts.Perm others) (h : IsChoice platform others choice) :
    IsChoice platform facts choice := by
  simpa only [IsChoice, Latest, hperm.mem_iff] using h

theorem find_insertionSort_append (chosen rest : List LiveFinancialFactRow)
    (metricId : FinancialFactMetric) (hfirst : ∀ row ∈ chosen, row.metricId = metricId →
      ∀ other ∈ chosen ++ rest, other.metricId = metricId → SortsBefore platform row other) :
    createLiveFinancialFactMap platform (chosen ++ rest) metricId =
      (chosen.find? fun row => row.metricId = metricId).or
        (createLiveFinancialFactMap platform rest metricId) := by
  unfold createLiveFinancialFactMap
  let isOfMetric (row : LiveFinancialFactRow) : Bool := row.metricId = metricId
  induction chosen with
  | nil => rfl
  | cons row chosen ih =>
    rw [List.cons_append, List.insertionSort_cons]
    by_cases hmetric : row.metricId = metricId
    · rw [StableSort.find_orderedInsert isOfMetric (decide_eq_true hmetric),
        List.find?_cons_of_pos (p := isOfMetric) (decide_eq_true hmetric), Option.some_or]
      intro other hother hsame
      exact hfirst row List.mem_cons_self hmetric other
        (List.mem_cons_of_mem _ ((List.mem_insertionSort _).mp hother)) (of_decide_eq_true hsame)
    · rw [StableSort.find_orderedInsert_of_neg isOfMetric (decide_eq_false hmetric),
        List.find?_cons_of_neg (by simpa using hmetric)]
      exact ih fun row hrow hmetric other hother =>
        hfirst row (List.mem_cons_of_mem _ hrow) hmetric other (List.mem_cons_of_mem _ hother)

theorem exists_order (h : IsChoice platform facts choice) :
    ∃ others, facts.Perm others ∧ createLiveFinancialFactMap platform others = choice := by
  let chosen := [FinancialFactMetric.assets, .equity, .freeCashFlow, .liabilities, .netIncome,
    .operatingCashFlow, .revenue].filterMap choice
  have hchosen : ∀ row, row ∈ chosen ↔ choice row.metricId = some row := by
    intro row
    rw [List.mem_filterMap]
    constructor
    · rintro ⟨metricId, -, hrow⟩
      rwa [((h metricId).1 row hrow).2.1]
    · intro hrow
      exact ⟨row.metricId, by cases row.metricId <;> decide, hrow⟩
  have hnodup : chosen.Nodup := by
    refine List.Nodup.filterMap (fun m m' row hm hm' => ?_) (by decide)
    rw [← ((h m).1 row hm).2.1, ← ((h m').1 row hm').2.1]
  have hsubset : chosen ⊆ facts := fun row hrow => ((h _).1 row ((hchosen row).mp hrow)).1
  obtain ⟨list, hlist, hsublist⟩ := List.subperm_of_subset hnodup hsubset
  obtain ⟨rest, hrest⟩ := hsublist.exists_perm_append
  have hperm : facts.Perm (chosen ++ rest) := hrest.trans (hlist.append_right rest)
  refine ⟨chosen ++ rest, hperm, funext fun metricId => ?_⟩
  rw [find_insertionSort_append]
  · cases hchoice : choice metricId with
    | none =>
      have hnone := (h metricId).2 hchoice
      have hmap : createLiveFinancialFactMap platform rest metricId = none := by
        refine List.find?_eq_none.mpr fun row hrow hmetric => ?_
        exact hnone row (hperm.mem_iff.mpr (List.mem_append_right _
          ((List.mem_insertionSort _).mp hrow))) (of_decide_eq_true hmetric)
      rw [hmap, Option.or_none]
      exact List.find?_eq_none.mpr fun row hrow hmetric =>
        hnone row (hsubset hrow) (of_decide_eq_true hmetric)
    | some row =>
      have hrow := ((h metricId).1 row hchoice).2.1
      have hmem : row ∈ chosen := (hchosen row).mpr (by rwa [hrow])
      cases hfound : chosen.find? fun row => row.metricId = metricId with
      | none => exact absurd (decide_eq_true hrow) (List.find?_eq_none.mp hfound row hmem)
      | some found =>
        have hmetric : found.metricId = metricId := by simpa using List.find?_some hfound
        have hother := (hchosen found).mp (List.mem_of_find?_eq_some hfound)
        rw [hmetric, hchoice] at hother
        rw [Option.some_or, ← hother]
  · intro row hrow hmetric other hother hsame
    have hlatest := (h _).1 row ((hchosen row).mp hrow)
    exact hlatest.2.2 other (hperm.mem_iff.mpr hother) (hsame.trans hmetric.symm)

theorem mem_distinctSorted {ids : List JsText} {id : JsText} :
    id ∈ distinctSorted ids ↔ id ∈ ids := by
  rw [distinctSorted, List.mem_insertionSort, List.mem_dedup]

variable {a b c d : LiveFinancialFactRow}

theorem divide_flags : (divide a c).anomalyFlags = qualityFlags [a, c] := by
  by_cases hflags : qualityFlags [a, c] = []
  · simp only [divide, hflags, ne_eq, not_true_eq_false, if_false]
    split_ifs <;> rfl
  · simp [divide, hflags, blocked]

theorem divide_of_pass (ha : a.qualityState = .PASS) (hc : c.qualityState = .PASS) :
    divide a c = if c.value = 0 then blocked .zeroDenominator
      else if c.value < 0 then blocked .negativeDenominator
      else {
        inputs := { facts := [(a.metricId, a.value), (c.metricId, c.value)] }
        status := .computed (roundMetric (a.value / c.value)) } := by
  simp [divide, qualityFlags, ha, hc]

/-- When two pairs of facts of the same metrics give the same quotient. -/
theorem divide_eq_iff (hab : a.metricId = b.metricId) (hcd : c.metricId = d.metricId)
    (hac : a.metricId ≠ c.metricId) : divide a c = divide b d ↔
      a.qualityState = b.qualityState ∧ c.qualityState = d.qualityState ∧
        (a.qualityState = .PASS → c.qualityState = .PASS →
          (0 < c.value ↔ 0 < d.value) ∧ (c.value = 0 ↔ d.value = 0) ∧
            (0 < c.value → a.value = b.value ∧ c.value = d.value)) := by
  constructor
  · intro heq
    have hflags := congrArg MetricOutcome.anomalyFlags heq
    rw [divide_flags, divide_flags] at hflags
    have hstates : a.qualityState = b.qualityState ∧ c.qualityState = d.qualityState := by
      rw [hab, hcd] at hac
      cases ha : a.qualityState <;> cases hb : b.qualityState <;>
        cases hc : c.qualityState <;> cases hd : d.qualityState <;>
        simp_all [qualityFlags]
    refine ⟨hstates.1, hstates.2, fun ha hc => ?_⟩
    rw [divide_of_pass ha hc, divide_of_pass (hstates.1 ▸ ha) (hstates.2 ▸ hc)] at heq
    rcases lt_trichotomy c.value 0 with h | h | h <;>
      rcases lt_trichotomy d.value 0 with h' | h' | h' <;>
      simp_all [blocked, not_lt_of_gt, ne_of_gt, ne_of_lt]
  · rintro ⟨ha, hc, hvalues⟩
    by_cases hpass : a.qualityState = .PASS ∧ c.qualityState = .PASS
    · obtain ⟨hpositive, hzero, hsame⟩ := hvalues hpass.1 hpass.2
      rw [divide_of_pass hpass.1 hpass.2, divide_of_pass (ha ▸ hpass.1) (hc ▸ hpass.2)]
      rcases lt_trichotomy c.value 0 with h | h | h
      · have hnegative : d.value < 0 := by grind
        simp [h.ne, hnegative.ne, h, hnegative]
      · simp [h, hzero.mp h]
      · simp [hab, hcd, hsame h]
    · have hflags : qualityFlags [a, c] = qualityFlags [b, d] := by
        simp only [qualityFlags, List.filter_cons, ha, hc]
        split_ifs <;> simp [ha, hc, hab, hcd]
      have hne : qualityFlags [b, d] ≠ [] := by
        rw [not_and_or, ha, hc] at hpass
        simpa [qualityFlags, imp_iff_not_or] using hpass
      simp [divide, hflags, hne]

variable {currency : JsText} {marketCap : ℚ} {inputs : MetricInputs}

theorem valuate_flags : (valuate currency marketCap inputs a).anomalyFlags =
    (if currency ≠ a.currency then [.currencyMismatch] else []) ++ qualityFlags [a] := by
  cases ha : a.qualityState with
  | HOLD => simp [valuate, blocked, qualityFlags, ha]
  | PASS =>
    simp only [valuate, qualityFlags, ha]
    split_ifs <;> simp_all [blocked]

theorem valuate_eq_iff (hab : a.metricId = b.metricId) (hvalue : a.value = b.value) :
    valuate currency marketCap inputs a = valuate currency marketCap inputs b ↔
      a.qualityState = b.qualityState ∧ (currency = a.currency ↔ currency = b.currency) := by
  constructor
  · intro heq
    have hflags := congrArg MetricOutcome.anomalyFlags heq
    rw [valuate_flags, valuate_flags] at hflags
    cases ha : a.qualityState <;> cases hb : b.qualityState <;>
      split_ifs at hflags <;> simp_all [qualityFlags]
  · rintro ⟨hstate, hcurrency⟩
    have hflags : qualityFlags [a] = qualityFlags [b] := by
      simp only [qualityFlags, List.filter_cons, hstate]
      split_ifs <;> simp [hstate, hab]
    simp only [valuate, hflags, hstate, hvalue, hcurrency, ne_eq]

theorem divide_computed {value : ℚ} (h : (divide a c).status = .computed value) :
    a.qualityState = .PASS ∧ c.qualityState = .PASS ∧ 0 < c.value ∧
      divide a c = {
        inputs := { facts := [(a.metricId, a.value), (c.metricId, c.value)] }
        status := .computed (roundMetric (a.value / c.value)) } := by
  have hpass : a.qualityState = .PASS ∧ c.qualityState = .PASS := by
    by_contra hnot
    have hflags : qualityFlags [a, c] ≠ [] := by
      simpa [qualityFlags, not_and_or, imp_iff_not_or] using hnot
    simp [divide, hflags, blocked] at h
  rw [divide_of_pass hpass.1 hpass.2] at h ⊢
  split_ifs at h ⊢ with hzero hnegative
  · cases h
  · cases h
  · exact ⟨hpass.1, hpass.2, lt_of_le_of_ne (not_lt.mp hnegative) (Ne.symm hzero), rfl⟩

theorem valuate_computed {value : ℚ}
    (h : (valuate currency marketCap inputs a).status = .computed value) :
    a.qualityState = .PASS ∧ 0 < a.value ∧
      valuate currency marketCap inputs a = {
        anomalyFlags := if currency ≠ a.currency then [.currencyMismatch] else []
        inputs := { inputs with marketCap }
        status := .computed (roundMetric (marketCap / a.value)) } := by
  cases hpass : a.qualityState with
  | HOLD => simp [valuate, hpass, blocked] at h
  | PASS =>
    simp only [valuate, hpass, ne_eq, not_true_eq_false, if_false] at h ⊢
    by_cases hzero : a.value = 0
    · simp [hzero, blocked] at h
    by_cases hnegative : a.value < 0
    · simp [hzero, hnegative, blocked] at h
    rw [if_neg hzero, if_neg hnegative]
    exact ⟨trivial, lt_of_le_of_ne (not_lt.mp hnegative) (Ne.symm hzero), rfl⟩

variable {definition : StockWorkbenchDerivedMetricDefinition} {input : LiveDerivedMetricsInput}

theorem mem_sourceRecordIds (definition : StockWorkbenchDerivedMetricDefinition)
    (input : LiveDerivedMetricsInput) (choice : FactMap) (id : JsText) :
    id ∈ (createLiveMetric choice input definition).sourceRecordIds ↔
      id ∈ (definition.inputMetrics.filterMap choice).map (·.sourceRecordId) ++
        ((quotes definition input.quoteSnapshot).bind (·.provenance.head?)).toList := by
  unfold createLiveMetric StockWorkbenchDerivedMetricDefinition.inputMetrics quotes
  cases definition.numerator with
  | none =>
    cases hd : choice definition.denominator <;>
      simp [createLiveValuationMetric, createLiveMetricBase, mem_distinctSorted, hd]
  | some numerator =>
    cases hn : choice numerator <;> cases hd : choice definition.denominator <;>
      simp [createLiveProfitabilityMetric, createLiveMetricBase, mem_distinctSorted, hn, hd]

theorem createLiveMetric_isSound_iff (definition : StockWorkbenchDerivedMetricDefinition)
    (input : LiveDerivedMetricsInput) (hchoice : ∀ metricId, ∀ row ∈ choice metricId,
    row.metricId = metricId) (hfacts : input.financialFacts.isSome) :
    (∀ value, (createLiveMetric choice input definition).status = .computed value →
        IsSound definition choice input.quoteSnapshot
          (createLiveMetric choice input definition) value) ↔
      ∀ metricId ∈ definition.numerator, ∀ n ∈ choice metricId,
        ∀ d ∈ choice definition.denominator, n.qualityState = .PASS → d.qualityState = .PASS →
          0 < d.value → n.periodEnd = d.periodEnd ∧ n.periodType = d.periodType ∧
            n.currency = d.currency := by
  have hcited := mem_sourceRecordIds definition input choice
  generalize hmetric : createLiveMetric choice input definition = metric at hcited
  unfold createLiveMetric at hmetric
  cases hnumerator : definition.numerator with
  | none =>
    simp only [hnumerator, hfacts, createLiveValuationMetric] at hmetric
    refine ⟨fun _ _ h => (nomatch h), fun _ value hstatus => ?_⟩
    cases hquote : input.quoteSnapshot.bind (·.quote) with
    | none => simp [← hmetric, hquote, blocked] at hstatus
    | some quote =>
    cases hclose : quote.close with
    | none => simp [← hmetric, hquote, hclose, blocked] at hstatus
    | some close =>
    cases hshares : quote.sharesOutstanding with
    | none => simp [← hmetric, hquote, hclose, hshares, blocked] at hstatus
    | some shares =>
    cases hden : choice definition.denominator with
    | none => simp [← hmetric, hquote, hclose, hshares, hden, blocked] at hstatus
    | some fact =>
    have hrows : definition.inputMetrics.filterMap choice = [fact] := by
      simp [StockWorkbenchDerivedMetricDefinition.inputMetrics, hnumerator, hden]
    simp only [hquote, hclose, hshares, hden, Option.bind_some, Bool.not_true,
      Bool.false_eq_true, if_false] at hmetric
    subst hmetric
    obtain ⟨hpass, hpositive, hvaluate⟩ := valuate_computed hstatus
    simp only [hvaluate] at hstatus ⊢
    cases hstatus
    refine ⟨?_, ?_, ?_, ⟨_, fact, ?_, hden, hpositive, rfl⟩, ?_, hcited⟩
    · simp [hrows, hchoice _ fact hden]
    · simp [hrows]
    · simpa [hrows] using hpass
    · simp only [hnumerator]
    · rintro ⟨a, ha, b, hb, hne⟩
      by_cases hsame : quote.currency = fact.currency
      · simp [currencies, quotes, hnumerator, hrows, hquote, hsame] at ha hb
        exact absurd (ha.trans hb.symm) hne
      · simp [hsame]
  | some metricId =>
    simp only [hnumerator, hfacts, createLiveProfitabilityMetric] at hmetric
    have hin : definition.inputMetrics = [metricId, definition.denominator] := by
      simp [StockWorkbenchDerivedMetricDefinition.inputMetrics, hnumerator]
    cases hnum : choice metricId with
    | none => simp [← hmetric, hnum, blocked]
    | some a =>
    cases hden : choice definition.denominator with
    | none => simp [← hmetric, hnum, hden, blocked]
    | some c =>
    have hrows : definition.inputMetrics.filterMap choice = [a, c] := by simp [hin, hnum, hden]
    simp only [hnum, hden, Bool.not_true, Bool.false_eq_true, if_false] at hmetric
    subst hmetric
    have hcurrencies : currencies definition choice input.quoteSnapshot =
        [a.currency, c.currency] := by
      simp [currencies, quotes, hnumerator, hrows]
    constructor
    · rintro hsound _ ⟨⟩ _ hn _ ⟨⟩ ha hc hpositive
      cases hnum.symm.trans hn
      have hvalue := divide_of_pass ha hc
      rw [if_neg hpositive.ne', if_neg hpositive.not_gt] at hvalue
      obtain ⟨-, hperiod, -, -, hcurrency, -⟩ :=
        hsound (roundMetric (a.value / c.value)) (by simp only [hvalue])
      rw [hrows] at hperiod
      obtain ⟨hend, htype⟩ := hperiod a (by simp) c (by simp)
      refine ⟨hend, htype, ?_⟩
      by_contra hne
      rw [hcurrencies] at hcurrency
      have hflag := hcurrency ⟨_, by simp, _, by simp, hne⟩
      simp [hvalue] at hflag
    · intro hperiods value hstatus
      obtain ⟨ha, hc, hpositive, hdivide⟩ := divide_computed hstatus
      obtain ⟨hend, htype, hcurrency⟩ := hperiods _ rfl a hnum c rfl ha hc hpositive
      simp only [hdivide] at hstatus ⊢
      cases hstatus
      refine ⟨?_, ?_, ?_, ⟨a.value, c, ?_, hden, hpositive, rfl⟩, ?_, hcited⟩
      · simp [hrows]
      · simp [hrows, hend, htype]
      · simp [hrows, ha, hc]
      · simp only [hnumerator, hnum, Option.map_some]
      · rw [hcurrencies, hcurrency]
        simp

theorem Latest.periodEnd_eq {metricId : FinancialFactMetric} (ha : Latest platform facts metricId a)
    (hb : Latest platform facts metricId b) : a.periodEnd = b.periodEnd :=
  periodEnd_eq_of_ties (ha.2.2 b hb.1 hb.2.1) (hb.2.2 a ha.1 ha.2.1)

theorem IsChoice.update {metricId : FinancialFactMetric} (h : IsChoice platform facts choice)
    (ha : Latest platform facts metricId a) :
    IsChoice platform facts (Function.update choice metricId (some a)) := by
  intro other
  by_cases hother : other = metricId
  · subst hother
    simpa using ha
  · simpa [hother] using h other

theorem IsChoice.both {choice' : FactMap} (h : IsChoice platform facts choice)
    (h' : IsChoice platform facts choice') (metricId : FinancialFactMetric) :
    (choice metricId = none ∧ choice' metricId = none) ∨
      ∃ a b, choice metricId = some a ∧ choice' metricId = some b ∧
        Latest platform facts metricId a ∧ Latest platform facts metricId b := by
  cases ha : choice metricId with
  | none =>
    refine .inl ⟨rfl, Option.eq_none_iff_forall_not_mem.mpr fun b hb => ?_⟩
    have hlatest := (h' metricId).1 b hb
    exact (h metricId).2 ha b hlatest.1 hlatest.2.1
  | some a =>
    have hlatest := (h metricId).1 a ha
    cases hb : choice' metricId with
    | none => exact absurd hlatest.2.1 ((h' metricId).2 hb a hlatest.1)
    | some b => exact .inr ⟨a, b, rfl, rfl, hlatest, (h' metricId).1 b hb⟩

theorem createLiveProfitabilityMetric_eq_iff (hperiod : a.periodEnd = b.periodEnd)
    (hrecord : a.sourceRecordId = b.sourceRecordId)
    (hrecord' : c.sourceRecordId = d.sourceRecordId) :
    createLiveProfitabilityMetric definition (some a) (some c) true =
        createLiveProfitabilityMetric definition (some b) (some d) true ↔
      divide a c = divide b d := by
  simp [createLiveProfitabilityMetric, createLiveMetricBase, hperiod, hrecord, hrecord']

theorem valuate_facts : (valuate currency marketCap inputs a).inputs.facts = inputs.facts := by
  unfold valuate
  dsimp only
  split_ifs <;> rfl

variable {quoteSnapshot : Option GetLiveQuoteSnapshotResult}

theorem createLiveValuationMetric_facts :
    (createLiveValuationMetric definition (some a) true quoteSnapshot).inputs.facts =
      [(definition.denominator, a.value)] := by
  simp only [createLiveValuationMetric, Bool.not_true, Bool.false_eq_true, if_false]
  split
  · exact valuate_facts
  · rfl
  · rfl

theorem createLiveValuationMetric_eq_iff (hab : a.metricId = b.metricId)
    (hperiod : a.periodEnd = b.periodEnd) (hrecord : a.sourceRecordId = b.sourceRecordId) :
    createLiveValuationMetric definition (some a) true quoteSnapshot =
        createLiveValuationMetric definition (some b) true quoteSnapshot ↔
      a.value = b.value ∧ ∀ quote ∈ quoteSnapshot.bind (·.quote), quote.close.isSome →
        quote.sharesOutstanding.isSome → a.qualityState = b.qualityState ∧
          (quote.currency = a.currency ↔ quote.currency = b.currency) := by
  by_cases hvalue : a.value = b.value
  · have hbase : createLiveMetricBase definition [some a]
        (quoteSnapshot.bind (·.provenance.head?)).toList =
        createLiveMetricBase definition [some b]
          (quoteSnapshot.bind (·.provenance.head?)).toList := by
      simp [createLiveMetricBase, hperiod, hrecord]
    simp only [createLiveValuationMetric, hbase, hvalue, Option.map_some, true_and,
      StockWorkbenchDerivedMetricValue.mk.injEq]
    cases quoteSnapshot.bind (·.quote) with
    | none => simp
    | some quote =>
    cases hclose : quote.close with
    | none => simp [hclose]
    | some close =>
    cases hshares : quote.sharesOutstanding with
    | none => simp [hclose, hshares]
    | some shares => simp [hclose, hshares, valuate_eq_iff hab hvalue]
  · refine iff_of_false (fun heq => hvalue ?_) fun h => hvalue h.1
    have hfacts := congrArg (fun metric => metric.inputs.facts) heq
    rw [createLiveValuationMetric_facts, createLiveValuationMetric_facts] at hfacts
    simpa using hfacts

theorem record_eq_of_mem_iff {x y : JsText} (other : Option JsText)
    (h : ∀ id, (id = x ∨ ∃ o ∈ other, id = o) ↔ (id = y ∨ ∃ o ∈ other, id = o)) : x = y := by
  rcases (h x).mp (.inl rfl) with hx | ⟨o, ho, hx⟩
  · exact hx
  · rcases (h y).mpr (.inl rfl) with hy | ⟨o', ho', hy⟩
    · exact hy.symm
    · rw [hx, hy, Option.mem_unique ho ho']

theorem numerator_ne : ∀ definition ∈ derivedMetricDefinitions, ∀ metricId ∈ definition.numerator,
    metricId ≠ definition.denominator := by
  decide

theorem createLiveMetric_choices_iff (input : LiveDerivedMetricsInput)
    (hfacts : input.financialFacts.isSome) :
    (∀ choice choice', IsChoice platform facts choice → IsChoice platform facts choice' →
      ∀ definition ∈ derivedMetricDefinitions,
        createLiveMetric choice input definition = createLiveMetric choice' input definition) ↔
      TiesAgree platform facts input.quoteSnapshot := by
  constructor
  · intro hsame
    have hpick : IsChoice platform facts _ := createLiveFinancialFactMap_isChoice facts
    generalize createLiveFinancialFactMap platform facts = pick at hpick
    have hrecord : ∀ definition ∈ derivedMetricDefinitions, ∀ metricId ∈ definition.inputMetrics,
        ∀ a b, Latest platform facts metricId a → Latest platform facts metricId b →
          a.sourceRecordId = b.sourceRecordId := by
      intro definition hdef metricId hmetric a b ha hb
      have heq := hsame _ _ (hpick.update ha) (hpick.update hb) definition hdef
      have hids : ∀ id, _ ↔ _ := fun id => (mem_sourceRecordIds definition input _ id).symm.trans
        (by rw [heq, mem_sourceRecordIds])
      cases hnumerator : definition.numerator with
      | none =>
        simp only [StockWorkbenchDerivedMetricDefinition.inputMetrics, quotes, hnumerator]
          at hmetric hids
        have hden : metricId = definition.denominator := by simpa using hmetric
        subst hden
        exact record_eq_of_mem_iff (input.quoteSnapshot.bind (·.provenance.head?)) fun id => by
          simpa using hids id
      | some numerator =>
        have hne := numerator_ne definition hdef numerator hnumerator
        simp only [StockWorkbenchDerivedMetricDefinition.inputMetrics, quotes, hnumerator]
          at hmetric hids
        have hcases : metricId = numerator ∨ metricId = definition.denominator := by
          simpa using hmetric
        rcases hcases with rfl | rfl
        · refine record_eq_of_mem_iff ((pick definition.denominator).map (·.sourceRecordId))
            fun id => ?_
          cases hother : pick definition.denominator <;>
            simpa [hne.symm, hother, eq_comm] using hids id
        · refine record_eq_of_mem_iff ((pick numerator).map (·.sourceRecordId)) fun id => ?_
          cases hother : pick numerator <;>
            simpa [hne, hother, or_comm, eq_comm] using hids id
    refine ⟨hrecord, ?_, ?_⟩
    · intro definition hdef hnumerator a b ha hb
      have heq := hsame _ _ (hpick.update ha) (hpick.update hb) definition hdef
      simp only [createLiveMetric, hnumerator, hfacts, Function.update_self] at heq
      exact (createLiveValuationMetric_eq_iff (ha.2.1.trans hb.2.1.symm) (ha.periodEnd_eq hb)
        (hrecord definition hdef _ (by
          simp [StockWorkbenchDerivedMetricDefinition.inputMetrics]) a b ha hb)).mp heq
    · intro definition hdef metricId hnumerator a b ha hb c d hc hd
      have hne := numerator_ne definition hdef metricId hnumerator
      have hin : metricId ∈ definition.inputMetrics ∧
          definition.denominator ∈ definition.inputMetrics := by
        simp [StockWorkbenchDerivedMetricDefinition.inputMetrics, Option.mem_def.mp hnumerator]
      have heq := hsame _ _ ((hpick.update ha).update hc) ((hpick.update hb).update hd)
        definition hdef
      simp only [createLiveMetric, Option.mem_def.mp hnumerator, hfacts, Function.update_self,
        Function.update_of_ne hne] at heq
      rw [createLiveProfitabilityMetric_eq_iff (ha.periodEnd_eq hb)
        (hrecord definition hdef _ hin.1 a b ha hb) (hrecord definition hdef _ hin.2 c d hc hd),
        divide_eq_iff (ha.2.1.trans hb.2.1.symm) (hc.2.1.trans hd.2.1.symm)
          (by rwa [ha.2.1, hc.2.1])] at heq
      exact heq
  · intro hties choice choice' h h' definition hdef
    cases hnumerator : definition.numerator with
    | none =>
      simp only [createLiveMetric, hnumerator, hfacts]
      rcases h.both h' definition.denominator with ⟨ha, hb⟩ | ⟨a, b, ha, hb, hla, hlb⟩
      · rw [ha, hb]
      · rw [ha, hb, createLiveValuationMetric_eq_iff (hla.2.1.trans hlb.2.1.symm)
          (hla.periodEnd_eq hlb) (hties.record definition hdef _ (by
            simp [StockWorkbenchDerivedMetricDefinition.inputMetrics]) a b hla hlb)]
        exact hties.valued definition hdef hnumerator a b hla hlb
    | some metricId =>
      have hne := numerator_ne definition hdef metricId hnumerator
      have hin : metricId ∈ definition.inputMetrics ∧
          definition.denominator ∈ definition.inputMetrics := by
        simp [StockWorkbenchDerivedMetricDefinition.inputMetrics, hnumerator]
      simp only [createLiveMetric, hnumerator, hfacts]
      rcases h.both h' metricId with ⟨ha, hb⟩ | ⟨a, b, ha, hb, hla, hlb⟩ <;>
        rcases h.both h' definition.denominator with ⟨hc, hd⟩ | ⟨c, d, hc, hd, hlc, hld⟩
      · rw [ha, hb, hc, hd]
      · have hrecord := hties.record definition hdef _ hin.2 c d hlc hld
        simp [ha, hb, hc, hd, createLiveProfitabilityMetric, createLiveMetricBase, hrecord,
          hlc.periodEnd_eq hld]
      · have hrecord := hties.record definition hdef _ hin.1 a b hla hlb
        simp [ha, hb, hc, hd, createLiveProfitabilityMetric, createLiveMetricBase, hrecord,
          hla.periodEnd_eq hlb]
      · rw [ha, hb, hc, hd, createLiveProfitabilityMetric_eq_iff (hla.periodEnd_eq hlb)
          (hties.record definition hdef _ hin.1 a b hla hlb)
          (hties.record definition hdef _ hin.2 c d hlc hld),
          divide_eq_iff (hla.2.1.trans hlb.2.1.symm) (hlc.2.1.trans hld.2.1.symm)
            (by rwa [hla.2.1, hlc.2.1])]
        exact hties.divided definition hdef metricId hnumerator a b hla hlb c d hlc hld

def inputOf (result : GetLiveFinancialFactsResult) (facts : List LiveFinancialFactRow)
    (quoteSnapshot : Option GetLiveQuoteSnapshotResult) : LiveDerivedMetricsInput where
  financialFacts := some { result with facts := some facts }
  quoteSnapshot

theorem head_periodEnd_eq (hperm : facts.Perm others) :
    ((others.insertionSort (SortsBefore platform)).head?.map fun row => row.periodEnd.val) =
      (facts.insertionSort (SortsBefore platform)).head?.map fun row => row.periodEnd.val := by
  cases hfirst : (facts.insertionSort (SortsBefore platform)).head? with
  | none =>
    have hempty := StableSort.head_insertionSort_eq_none_iff.mp hfirst
    rw [hempty] at hperm
    rw [← hperm.nil_eq]
    rfl
  | some first =>
    cases hother : (others.insertionSort (SortsBefore platform)).head? with
    | none =>
      have hempty := StableSort.head_insertionSort_eq_none_iff.mp hother
      rw [hempty] at hperm
      rw [hperm.eq_nil] at hfirst
      cases hfirst
    | some other =>
      obtain ⟨hmem, hbefore⟩ := StableSort.head_insertionSort hfirst
      obtain ⟨hmem', hbefore'⟩ := StableSort.head_insertionSort hother
      have hperiod := periodEnd_eq_of_ties (hbefore' first (hperm.mem_iff.mp hmem))
        (hbefore other (hperm.mem_iff.mpr hmem'))
      rw [Option.map_some, Option.map_some, hperiod]

theorem createLiveDerivedMetrics_eq_iff (result : GetLiveFinancialFactsResult)
    (hperm : facts.Perm others) :
    createLiveDerivedMetrics platform (inputOf result others quoteSnapshot) =
        createLiveDerivedMetrics platform (inputOf result facts quoteSnapshot) ↔
      ∀ definition ∈ derivedMetricDefinitions,
        createLiveMetric (createLiveFinancialFactMap platform others)
            (inputOf result facts quoteSnapshot) definition =
          createLiveMetric (createLiveFinancialFactMap platform facts)
            (inputOf result facts quoteSnapshot) definition := by
  rw [← List.map_inj_left]
  constructor
  · intro heq
    exact congrArg (·.metrics) heq
  · intro hmetrics
    show summarize (inputOf result facts quoteSnapshot)
      ((others.insertionSort (SortsBefore platform)).head?.map fun row => row.periodEnd.val)
      (derivedMetricDefinitions.map (createLiveMetric (createLiveFinancialFactMap platform others)
        (inputOf result facts quoteSnapshot))) = _
    rw [head_periodEnd_eq hperm, hmetrics]
    rfl

/-- Every metric that is computed is sound, and no order of the facts changes the result,
exactly if the latest facts are of one period and the ties agree. -/
theorem createLiveDerivedMetrics_sound_iff (platform : Platform)
    (result : GetLiveFinancialFactsResult) (facts : List LiveFinancialFactRow)
    (quoteSnapshot : Option GetLiveQuoteSnapshotResult) :
    (∀ others, facts.Perm others →
      createLiveDerivedMetrics platform (inputOf result others quoteSnapshot) =
          createLiveDerivedMetrics platform (inputOf result facts quoteSnapshot) ∧
        List.Forall₂ (fun definition metric => ∀ value, metric.status = .computed value →
            IsSound definition (createLiveFinancialFactMap platform others) quoteSnapshot
              metric value) derivedMetricDefinitions
          (createLiveDerivedMetrics platform (inputOf result others quoteSnapshot)).metrics) ↔
      OnePeriod platform facts ∧ TiesAgree platform facts quoteSnapshot := by
  have hsound : ∀ choice, IsChoice platform facts choice →
      (List.Forall₂ (fun definition metric => ∀ value, metric.status = .computed value →
          IsSound definition choice quoteSnapshot metric value) derivedMetricDefinitions
        (derivedMetricDefinitions.map
          (createLiveMetric choice (inputOf result facts quoteSnapshot))) ↔
        ∀ definition ∈ derivedMetricDefinitions, ∀ metricId ∈ definition.numerator,
          ∀ n ∈ choice metricId, ∀ d ∈ choice definition.denominator,
            n.qualityState = .PASS → d.qualityState = .PASS → 0 < d.value →
              n.periodEnd = d.periodEnd ∧ n.periodType = d.periodType ∧
                n.currency = d.currency) := by
    intro choice hchoice
    rw [List.forall₂_map_right_iff, List.forall₂_same]
    exact forall₂_congr fun definition _ => createLiveMetric_isSound_iff definition
      (inputOf result facts quoteSnapshot)
      (fun metricId row hrow => ((hchoice metricId).1 row hrow).2.1) rfl
  constructor
  · intro hruns
    have hchoices : ∀ choice, IsChoice platform facts choice →
        ∀ definition ∈ derivedMetricDefinitions,
          createLiveMetric choice (inputOf result facts quoteSnapshot) definition =
            createLiveMetric (createLiveFinancialFactMap platform facts)
              (inputOf result facts quoteSnapshot) definition := by
      intro choice hchoice
      obtain ⟨others, hperm, rfl⟩ := exists_order hchoice
      exact (createLiveDerivedMetrics_eq_iff result hperm).mp (hruns others hperm).1
    refine ⟨fun definition hdef metricId hnumerator n hn d hd => ?_,
      (createLiveMetric_choices_iff (inputOf result facts quoteSnapshot) rfl).mp
        fun choice choice' h h' definition hdef =>
          (hchoices choice h definition hdef).trans (hchoices choice' h' definition hdef).symm⟩
    have hne : metricId ≠ definition.denominator := numerator_ne definition hdef metricId hnumerator
    have hchoice := ((createLiveFinancialFactMap_isChoice facts).update hn).update hd
    obtain ⟨others, hperm, hothers⟩ := exists_order hchoice
    have hforall := (hruns others hperm).2
    rw [hothers] at hforall
    have hmetrics : (createLiveDerivedMetrics platform
        (inputOf result others quoteSnapshot)).metrics = derivedMetricDefinitions.map
          (createLiveMetric _ (inputOf result facts quoteSnapshot)) :=
      congrArg (fun choice => derivedMetricDefinitions.map
        (createLiveMetric choice (inputOf result facts quoteSnapshot))) hothers
    rw [hmetrics, hsound _ hchoice] at hforall
    exact hforall definition hdef metricId hnumerator n (by simp [hne]) d (by simp)
  · rintro ⟨hperiod, hties⟩ others hperm
    have hmap : IsChoice platform others _ := createLiveFinancialFactMap_isChoice others
    have hothers := hmap.of_perm hperm
    refine ⟨(createLiveDerivedMetrics_eq_iff result hperm).mpr
      ((createLiveMetric_choices_iff (inputOf result facts quoteSnapshot) rfl).mpr hties
        _ _ hothers (createLiveFinancialFactMap_isChoice facts)), ?_⟩
    refine (hsound _ hothers).mpr fun definition hdef metricId hnumerator n hn d hd => ?_
    exact hperiod definition hdef metricId hnumerator n ((hothers _).1 n hn) d
      ((hothers _).1 d hd)

def codeOrder : Platform where
  isParsed _ := true
  localeCompare := JsText.compareUnits
  localeCompare_swap := JsText.compareUnits_swap
  localeCompare_trans _ _ _ := JsText.compareUnits_trans
  localeCompare_date _ _ _ _ := JsText.eq_of_compareUnits

def releasedFact (metricId statementType periodEnd periodType : String) (value : ℚ) :
    SandboxAuth.JsonValue :=
  .object ([("metricId", metricId), ("statementType", statementType), ("periodEnd", periodEnd),
      ("periodType", periodType), ("currency", "HKD"), ("unit", "unit"),
      ("publishedAt", "2025-08-31"), ("qualityState", "PASS"), ("statementId", "00005"),
      ("sourceRecordId", "netquity:finreport.nb:00005")].map
    (fun (key, text) => (ofString key, .string (ofString text))) ++
    [(ofString "value", .number (.finite value)),
      (ofString "scale", .number (.finite 1))])

/-- The revenue of a year and the net income of the half year after it. -/
def releasedRow : LiveFinancialFactsRow where
  dataVersion := ofString "v1"
  entityId := ofString "hkex_security_00005"
  payload := some (.object [
    (ofString "coverage", .object [
      (ofString "status", .string (ofString "available"))]),
    (ofString "facts", .array [
      releasedFact "revenue" "income_statement" "2024-12-31" "FY" 200,
      releasedFact "net_income" "income_statement" "2025-06-30" "H1" 50])])
  sourceRecordId := ofString "netquity:finreport.nb:00005"

theorem mixed_periods_computed :
    ¬∀ platform input rows result facts quoteSnapshot,
      getLiveFinancialFacts platform input rows = .ok result → result.facts = some facts →
      List.Forall₂ (fun definition metric => ∀ value, metric.status = .computed value →
          IsSound definition (createLiveFinancialFactMap platform facts) quoteSnapshot
            metric value) derivedMetricDefinitions
        (createLiveDerivedMetrics platform (inputOf result facts quoteSnapshot)).metrics := by
  intro hsound
  have h := hsound codeOrder ⟨ofString "d", ofString "v1",
    ofString "hkex_security_00005"⟩ [releasedRow] _ _ none rfl rfl
  have hperiods := ((List.forall₂_cons.mp h).1 (roundMetric (50 / 200)) rfl).onePeriod
  obtain ⟨hend, -⟩ := hperiods _ List.mem_cons_self _ (List.mem_cons_of_mem _ List.mem_cons_self)
  exact absurd (congrArg Subtype.val hend) (by decide)

end Aiphabee.Workbench
