import Mathlib.Data.List.Sort
import Aiphabee.ChartEval.CompareSample
import Aiphabee.Matching.SequentialMatching
import Aiphabee.Store.GroupBy

/-!
# A truth compared with its own parse

A perfect parse reports what the truth says, in any order.  It hits every field
that has something to compare as soon as indicators of one name have the same
parameters, and no line of the truth can be left without a line by the choices of
those before it.  Both conditions are needed, and the anchors of a line have to
stay in their order.
-/

namespace Aiphabee.ChartEval

open SequentialMatching

variable {message : IssueKind → String}
variable {sample : GoldenSample}
variable {parsed : ChartParseResult}

/-- A result with the indicators and the drawn lines of another one in any order. -/
structure Rearranged (result other : ChartParseResult) : Prop where
  chartType : other.chartType = result.chartType
  symbol : other.symbol = result.symbol
  exchange : other.exchange = result.exchange
  timeframe : other.timeframe = result.timeframe
  endTime : other.endTime = result.endTime
  indicators : result.indicators.Perm other.indicators
  drawnLines : result.drawnLines.Perm other.drawnLines
  patterns : other.patterns = result.patterns

theorem Rearranged.refl (result : ChartParseResult) : Rearranged result result :=
  { chartType := rfl
    symbol := rfl
    exchange := rfl
    timeframe := rfl
    endTime := rfl
    indicators := List.Perm.refl _
    drawnLines := List.Perm.refl _
    patterns := rfl }

theorem arraysEqual_self {α : Type} {equals : α → α → Bool} {elements : List α}
    (h : ∀ a ∈ elements, equals a a = true) : arraysEqual equals elements elements = true := by
  induction elements with
  | nil => rfl
  | cons a rest ih =>
    obtain ⟨hfirst, hrest⟩ := List.forall_mem_cons.mp h
    rw [arraysEqual, hfirst, ih hrest]
    rfl

theorem sortedUniqueNames_perm {names others : List String} (h : names.Perm others) :
    sortedUniqueNames names = sortedUniqueNames others := by
  have hdistinct : names.eraseDups.Perm others.eraseDups := by
    refine (List.perm_ext_iff_of_nodup (GroupBy.nodup_eraseDups _)
      (GroupBy.nodup_eraseDups _)).mpr fun name => ?_
    rw [List.mem_eraseDups, List.mem_eraseDups, h.mem_iff]
  have hsorted : ∀ list : List String,
      (list.mergeSort fun left right => left ≤ right).Pairwise fun left right => left ≤ right := by
    intro list
    refine List.Pairwise.imp (fun h => of_decide_eq_true h) (List.pairwise_mergeSort ?_ ?_ _)
    · intro first second third hfirst hsecond
      exact decide_eq_true
        (le_trans (of_decide_eq_true hfirst) (of_decide_eq_true hsecond))
    · intro first second
      rcases le_total first second with h | h
      · simp [h]
      · simp [h]
  refine List.Perm.eq_of_pairwise (fun _ _ _ _ => le_antisymm) (hsorted _) (hsorted _) ?_
  exact (List.mergeSort_perm _ _).trans (hdistinct.trans (List.mergeSort_perm _ _).symm)

section Indicators

theorem indicatorNames_hit {truth : SampleTruth}
    (hparsed : Rearranged (truthAsChartParseResult truth) parsed) :
    (indicatorNamesOutcome parsed truth).hit = true := by
  have hnames : (truth.indicators.map fun indicator => indicator.name.text).Perm
      (parsed.indicators.map fun indicator => indicator.name.text) := by
    have hperm := hparsed.indicators.map fun indicator => indicator.name.text
    rw [truthAsChartParseResult, List.map_map] at hperm
    exact hperm
  rw [indicatorNamesOutcome]
  dsimp only
  rw [sortedUniqueNames_perm hnames]
  exact arraysEqual_self fun name _ => decide_eq_true rfl

def SameParams (truth : SampleTruth) : Prop :=
  ∀ first ∈ truth.indicators, ∀ second ∈ truth.indicators,
    first.name = second.name → first.params = second.params

instance (truth : SampleTruth) : Decidable (SameParams truth) :=
  inferInstanceAs (Decidable (∀ first ∈ truth.indicators, ∀ second ∈ truth.indicators,
    first.name = second.name → first.params = second.params))

variable {indicator : TruthIndicator}

theorem find_reading {truth : SampleTruth}
    (hparsed : Rearranged (truthAsChartParseResult truth) parsed)
    (hindicator : indicator ∈ truth.indicators) :
    ∃ found ∈ truth.indicators, found.name = indicator.name ∧
      (parsed.indicators.find? fun reading => reading.name = indicator.name) =
        some found.reading := by
  have hmem : indicator.reading ∈ parsed.indicators :=
    hparsed.indicators.mem_iff.mp (List.mem_map_of_mem hindicator)
  have hsome : (parsed.indicators.find? fun reading =>
      reading.name = indicator.name).isSome = true :=
    List.find?_isSome.mpr ⟨indicator.reading, hmem, decide_eq_true rfl⟩
  obtain ⟨reading, hreading⟩ := Option.isSome_iff_exists.mp hsome
  obtain ⟨found, hfound, rfl⟩ := List.mem_map.mp
    (hparsed.indicators.mem_iff.mpr (List.mem_of_find?_eq_some hreading))
  have hname := List.find?_some hreading
  exact ⟨found, hfound, of_decide_eq_true hname, hreading⟩

theorem indicatorMiss_eq_none (haccepted : sampleTruthViolations message sample = [])
    (hsame : SameParams sample.truth)
    (hparsed : Rearranged (truthAsChartParseResult sample.truth) parsed)
    (hindicator : indicator ∈ sample.truth.indicators) : indicatorMiss parsed indicator = none := by
  obtain ⟨found, hfound, hname, hfind⟩ := find_reading hparsed hindicator
  have hparams := hsame found hfound indicator hindicator hname
  have hequal : arraysEqual JsNumber.strictEquals indicator.params indicator.params = true := by
    refine arraysEqual_self fun param hparam => ?_
    obtain ⟨value, rfl⟩ := params_finite_of_accepted haccepted hindicator hparam
    simp [JsNumber.strictEquals]
  rw [indicatorMiss, hfind]
  simp only [TruthIndicator.reading, hparams, hequal, if_true]

end Indicators

section DrawnLines

variable {tolerance : JsNumber}
variable {lines : List DrawnLineReading}

def unusedLines (lines : List DrawnLineReading) (used : List Nat) : List DrawnLineReading :=
  (lines.zipIdx.filter fun entry => !used.contains entry.2).map Prod.fst

theorem lineMisses_eq_nil_iff {used : List Nat} {truthIndex : Nat}
    {truthLines : List TruthDrawnLine} :
    lineMisses tolerance lines used truthIndex truthLines = [] ↔
      takeFirst (lineWithin tolerance) (unusedLines lines used) truthLines = true := by
  induction truthLines generalizing used truthIndex with
  | nil => exact iff_of_true rfl rfl
  | cons truthLine rest ih =>
    have hfind : (lines.zipIdx.find? fun entry =>
          !used.contains entry.2 && lineWithin tolerance entry.1 truthLine) =
        (lines.zipIdx.filter fun entry => !used.contains entry.2).find? fun entry =>
          lineWithin tolerance entry.1 truthLine := by
      rw [List.find?_filter]
      congr 1
      funext entry
      exact Bool.eq_iff_iff.mpr (by simp)
    rw [lineMisses, matchIndex, hfind, takeFirst, unusedLines, List.any_map]
    cases hfound : (lines.zipIdx.filter fun entry => !used.contains entry.2).find? fun entry =>
        lineWithin tolerance entry.1 truthLine with
    | none =>
      have hnone : ((lines.zipIdx.filter fun entry => !used.contains entry.2).any
          ((fun candidate => lineWithin tolerance candidate truthLine) ∘ Prod.fst)) = false := by
        rw [List.any_eq_false]
        exact List.find?_eq_none.mp hfound
      rw [hnone, Bool.false_and]
      exact iff_of_false (List.cons_ne_nil _ _) Bool.false_ne_true
    | some found =>
      have hany : ((lines.zipIdx.filter fun entry => !used.contains entry.2).any
          ((fun candidate => lineWithin tolerance candidate truthLine) ∘ Prod.fst)) = true :=
        List.any_eq_true.mpr
          ⟨found, List.mem_of_find?_eq_some hfound, List.find?_some hfound⟩
      have hnodup : ((lines.zipIdx.filter fun entry =>
          !used.contains entry.2).map Prod.snd).Nodup := by
        refine List.Nodup.sublist ((List.filter_sublist).map Prod.snd) ?_
        rw [List.zipIdx_map_snd]
        exact List.nodup_range'
      have hrest : unusedLines lines (found.2 :: used) =
          ((lines.zipIdx.filter fun entry => !used.contains entry.2).map Prod.fst).eraseP
            fun candidate => lineWithin tolerance candidate truthLine := by
        rw [← filter_position hnodup hfound, unusedLines, List.filter_filter]
        congr 1
        refine List.filter_congr fun entry _ => ?_
        simp
      rw [hany, Bool.true_and, ← hrest]
      exact ih

/-- The lines of a truth never get stuck among their own readings. -/
def LinesNeverStuck (truth : SampleTruth) (tolerance : JsNumber) : Prop :=
  NeverStuck (lineWithin tolerance) (truthAsChartParseResult truth).drawnLines truth.drawnLines

instance (truth : SampleTruth) (tolerance : JsNumber) :
    Decidable (LinesNeverStuck truth tolerance) :=
  NeverStuck.decidable _ _ _

theorem drawnLineAnchors_hit_iff_takeFirst {parsed : ChartParseResult} {truth : SampleTruth} :
    (drawnLineAnchorsOutcome parsed truth tolerance).hit = true ↔
      truth.drawnLines ≠ [] ∧ parsed.drawnLines.length = truth.drawnLines.length ∧
        takeFirst (lineWithin tolerance) parsed.drawnLines truth.drawnLines = true := by
  have hall : unusedLines parsed.drawnLines [] = parsed.drawnLines := by
    have hkept : (parsed.drawnLines.zipIdx.filter fun entry => !([] : List Nat).contains entry.2) =
        parsed.drawnLines.zipIdx := List.filter_eq_self.mpr fun _ _ => rfl
    rw [unusedLines, hkept, List.zipIdx_map_fst]
  by_cases hnone : truth.drawnLines = []
  · simp [drawnLineAnchorsOutcome, hnone]
  · have happlicable : (!truth.drawnLines.isEmpty) = true := by simpa using hnone
    rw [and_iff_right hnone, drawnLineAnchorsOutcome]
    dsimp only
    rw [happlicable, if_pos rfl, Bool.true_and, List.isEmpty_iff, List.append_eq_nil_iff,
      lineMisses_eq_nil_iff, hall]
    refine and_congr_left fun _ => ?_
    by_cases hlength : parsed.drawnLines.length = truth.drawnLines.length <;> simp [hlength]

theorem drawnLineAnchors_hit_iff {truth : SampleTruth} {parsed : ChartParseResult}
    (hparsed : Rearranged (truthAsChartParseResult truth) parsed)
    (happlicable : (drawnLineAnchorsOutcome parsed truth tolerance).applicable = true) :
    (drawnLineAnchorsOutcome parsed truth tolerance).hit = true ↔
      takeFirst (lineWithin tolerance) parsed.drawnLines truth.drawnLines = true := by
  have hlength : parsed.drawnLines.length = truth.drawnLines.length := by
    rw [← hparsed.drawnLines.length_eq, truthAsChartParseResult, List.length_map]
  have hsome : (!truth.drawnLines.isEmpty) = true := happlicable
  rw [drawnLineAnchors_hit_iff_takeFirst, and_iff_right (by simpa using hsome),
    and_iff_right hlength]

/-- A line is within every tolerance from zero on of its own reading. -/
theorem lineWithin_reading (haccepted : sampleTruthViolations message sample = [])
    (htolerance : JsNumber.zero.le tolerance = true) {line : TruthDrawnLine}
    (hline : line ∈ sample.truth.drawnLines) : lineWithin tolerance line.reading line = true := by
  have hself : ∀ value : ℚ,
      (((JsNumber.finite value).sub (.finite value)).abs.le tolerance) = true := by
    intro value
    have hzero : ((JsNumber.finite value).sub (.finite value)).abs = .zero := by
      simp [JsNumber.sub, JsNumber.neg, JsNumber.add, JsNumber.nearest, JsNumber.abs, JsNumber.zero]
    rw [hzero]
    exact htolerance
  have hanchors : anchorsWithin line.anchors line.anchors tolerance = true := by
    refine arraysEqual_self fun anchor hanchor => ?_
    obtain ⟨x, y, rfl⟩ := anchor_finite_of_accepted haccepted hline hanchor
    rw [anchorWithin, hself, hself]
    rfl
  simp [lineWithin, TruthDrawnLine.reading, hanchors]

end DrawnLines

theorem scalar_hit {α : Type} [DecidableEq α] {field : MatrixField} {text : α → String}
    {reported : Confident α} {truth : Option α} (hvalue : reported.value = truth)
    (happlicable : (scalarOutcome field text reported truth).applicable = true) :
    (scalarOutcome field text reported truth).hit = true := by
  have hsome : truth.isSome = true := happlicable
  simp [scalarOutcome, hsome, hvalue]

def HitsAll (parsed : ChartParseResult) (truth : SampleTruth) (options : CompareOptions) : Prop :=
  ∀ outcome ∈ compareSample parsed truth options,
    outcome.applicable = true → outcome.hit = true

theorem indicatorParams_mem (parsed : ChartParseResult) (truth : SampleTruth)
    (options : CompareOptions) :
    indicatorParamsOutcome parsed truth ∈ compareSample parsed truth options := by
  simp [compareSample]

theorem drawnLineAnchors_mem (parsed : ChartParseResult) (truth : SampleTruth)
    (options : CompareOptions) :
    drawnLineAnchorsOutcome parsed truth options.anchorTolerance ∈
      compareSample parsed truth options := by
  simp [compareSample]

theorem hitsAll_of_takeFirst {options : CompareOptions}
    (haccepted : sampleTruthViolations message sample = []) (hsame : SameParams sample.truth)
    (hparsed : Rearranged (truthAsChartParseResult sample.truth) parsed)
    (htaken : takeFirst (lineWithin options.anchorTolerance) parsed.drawnLines
      sample.truth.drawnLines = true) : HitsAll parsed sample.truth options := by
  intro outcome houtcome happlicable
  simp only [compareSample, List.mem_cons, List.not_mem_nil, or_false] at houtcome
  rcases houtcome with rfl | rfl | rfl | rfl | rfl | rfl | rfl
  · exact scalar_hit (congrArg Confident.value hparsed.symbol) happlicable
  · exact scalar_hit (congrArg Confident.value hparsed.exchange) happlicable
  · exact scalar_hit (congrArg Confident.value hparsed.timeframe) happlicable
  · exact scalar_hit (congrArg Confident.value hparsed.endTime) happlicable
  · exact indicatorNames_hit hparsed
  · have hmisses : sample.truth.indicators.filterMap (indicatorMiss parsed) = [] :=
      List.filterMap_eq_nil_iff.mpr fun indicator hindicator =>
        indicatorMiss_eq_none haccepted hsame hparsed hindicator
    have hsome : (!sample.truth.indicators.isEmpty) = true := happlicable
    simp [indicatorParamsOutcome, hmisses, hsome]
  · exact (drawnLineAnchors_hit_iff hparsed happlicable).mpr htaken

/--
An accepted truth whose indicators of one name have the same parameters is hit by its own
parse, and, when its lines never get stuck, by its parse in any order of the indicators and
of the drawn lines.
-/
theorem compareSample_hits_itself (message : IssueKind → String) (sample : GoldenSample)
    (options : CompareOptions) (haccepted : sampleTruthViolations message sample = [])
    (hsame : SameParams sample.truth) :
    ((sample.truth.drawnLines ≠ [] → JsNumber.zero.le options.anchorTolerance = true) →
        HitsAll (truthAsChartParseResult sample.truth) sample.truth options) ∧
      (LinesNeverStuck sample.truth options.anchorTolerance →
        ∀ parsed, Rearranged (truthAsChartParseResult sample.truth) parsed →
          HitsAll parsed sample.truth options) :=
  ⟨fun htolerance => hitsAll_of_takeFirst haccepted hsame (Rearranged.refl _)
      (takeFirst_ownCandidates fun _ hline =>
        lineWithin_reading haccepted (htolerance (List.ne_nil_of_mem hline)) hline),
    fun hlines _ hparsed => hitsAll_of_takeFirst haccepted hsame hparsed
      (hlines.perm hparsed.drawnLines).takeFirst⟩

def appleSample (annotations : Annotations) (indicators : List TruthIndicator)
    (drawnLines : List TruthDrawnLine) : GoldenSample :=
  { id := "s-1"
    variantDims := { infoMissing := .none, annotations := annotations }
    truth :=
      { chartType := some .candlestick
        symbol := some "AAPL"
        exchange := some .nasdaq
        timeframe := some .day1
        endTime := some "2026-06-30"
        indicators := indicators
        drawnLines := drawnLines
        patterns := [] } }

def level (height : ℚ) : TruthDrawnLine :=
  { kind := .horizontalLine
    anchors := [{ x := .finite 0, y := .finite (height / 16) }] }

def farLevels : GoldenSample :=
  appleSample .horizontalLine
    [{ name := .rsi, params := [.finite 14] },
      { name := .macd, params := [.finite 12, .finite 26, .finite 9] }]
    [level 4, level 12]

def farLevelsSwapped : ChartParseResult :=
  { truthAsChartParseResult farLevels.truth with
    drawnLines := [(level 12).reading, (level 4).reading] }

/-- The two levels are hit in the other order, too. -/
theorem compareSample_hits_itself_farLevels :
    HitsAll (truthAsChartParseResult farLevels.truth) farLevels.truth
        { anchorTolerance := .finite (1 / 16) } ∧
      HitsAll farLevelsSwapped farLevels.truth { anchorTolerance := .finite (1 / 16) } := by
  obtain ⟨hself, hrearranged⟩ := compareSample_hits_itself (fun _ => "") farLevels
    { anchorTolerance := .finite (1 / 16) } (by decide +kernel) (by decide +kernel)
  exact ⟨hself fun _ => by decide +kernel, hrearranged (by decide +kernel) _
    { Rearranged.refl (truthAsChartParseResult farLevels.truth) with
      drawnLines := List.Perm.swap _ _ _ }⟩

/-- A moving average twice, with different parameters. -/
def twoAverages : GoldenSample :=
  appleSample .none
    [{ name := .ma, params := [.finite 5] }, { name := .ma, params := [.finite 20] }] []

/-- Three levels, of which the first is near both others. -/
def nearLevels : GoldenSample :=
  appleSample .horizontalLine [] [level 9, level 8, level 10]

def nearLevelsTurned : ChartParseResult :=
  { truthAsChartParseResult nearLevels.truth with
    drawnLines := [(level 10).reading, (level 9).reading, (level 8).reading] }

def trend : GoldenSample :=
  appleSample .trendline []
    [{ kind := .trendline
       anchors := [{ x := .finite (1 / 4), y := .finite (3 / 4) },
         { x := .finite (1 / 2), y := .finite (1 / 4) }] }]

def trendTurned : ChartParseResult :=
  { truthAsChartParseResult trend.truth with
    drawnLines :=
      [{ kind := .trendline
         anchors := [{ x := .finite (1 / 2), y := .finite (1 / 4) },
           { x := .finite (1 / 4), y := .finite (3 / 4) }]
         confidence := certain }] }

/--
Three accepted truths: one misses its own parse, one misses it with its lines in
another order, and one with the anchors of its line in the other order.
-/
theorem compareSample_misses_itself :
    (sampleTruthViolations (fun _ => "") twoAverages = [] ∧
        ¬HitsAll (truthAsChartParseResult twoAverages.truth) twoAverages.truth
          { anchorTolerance := .finite (1 / 16) }) ∧
      (sampleTruthViolations (fun _ => "") nearLevels = [] ∧
        Rearranged (truthAsChartParseResult nearLevels.truth) nearLevelsTurned ∧
        ¬HitsAll nearLevelsTurned nearLevels.truth { anchorTolerance := .finite (1 / 16) }) ∧
      (sampleTruthViolations (fun _ => "") trend = [] ∧
        ¬HitsAll trendTurned trend.truth { anchorTolerance := .finite (1 / 16) }) := by
  refine ⟨⟨by decide +kernel, fun h => ?_⟩, ⟨by decide +kernel, ?_, fun h => ?_⟩,
    ⟨by decide +kernel, fun h => ?_⟩⟩
  · have hhit := h _ (indicatorParams_mem _ _ _) rfl
    exact absurd hhit (by decide +kernel)
  · refine { Rearranged.refl (truthAsChartParseResult nearLevels.truth) with drawnLines := ?_ }
    decide +kernel
  · have hhit := h _ (drawnLineAnchors_mem _ _ _) rfl
    exact absurd hhit (by decide +kernel)
  · have hhit := h _ (drawnLineAnchors_mem _ _ _) rfl
    exact absurd hhit (by decide +kernel)

end Aiphabee.ChartEval
