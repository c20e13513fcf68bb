import Aiphabee.Text.NumberText

/-!
# Golden truths and the chart parse contract

A golden sample is rendered from known parameters, which are its truth.  A truth
is also the result that a perfect parse of the chart would have, with the
confidence one everywhere.  A truth is accepted when it agrees with the variant of
its sample and its result meets the contract of chart parses.

How the schema library words its issues is a parameter.
-/

namespace Aiphabee.ChartEval

inductive ChartType
  | candlestick
  | line
  | bar
  | area
  | other

inductive Exchange
  | hkex
  | sse
  | szse
  | nyse
  | nasdaq
  | amex
  | other
deriving DecidableEq

def Exchange.text : Exchange → String
  | .hkex => "HKEX"
  | .sse => "SSE"
  | .szse => "SZSE"
  | .nyse => "NYSE"
  | .nasdaq => "NASDAQ"
  | .amex => "AMEX"
  | .other => "OTHER"

inductive Timeframe
  | minute1
  | minute5
  | minute15
  | minute30
  | hour1
  | hour2
  | hour4
  | day1
  | week1
  | month1
deriving DecidableEq

def Timeframe.text : Timeframe → String
  | .minute1 => "1m"
  | .minute5 => "5m"
  | .minute15 => "15m"
  | .minute30 => "30m"
  | .hour1 => "1h"
  | .hour2 => "2h"
  | .hour4 => "4h"
  | .day1 => "1d"
  | .week1 => "1w"
  | .month1 => "1M"

inductive IndicatorName
  | ma
  | ema
  | sma
  | wma
  | boll
  | macd
  | rsi
  | kdj
  | stoch
  | vol
  | obv
  | atr
  | cci
  | dmi
  | sar
  | vwap
  | other
deriving DecidableEq

def IndicatorName.text : IndicatorName → String
  | .ma => "MA"
  | .ema => "EMA"
  | .sma => "SMA"
  | .wma => "WMA"
  | .boll => "BOLL"
  | .macd => "MACD"
  | .rsi => "RSI"
  | .kdj => "KDJ"
  | .stoch => "STOCH"
  | .vol => "VOL"
  | .obv => "OBV"
  | .atr => "ATR"
  | .cci => "CCI"
  | .dmi => "DMI"
  | .sar => "SAR"
  | .vwap => "VWAP"
  | .other => "OTHER"

inductive DrawnLineKind
  | horizontalLine
  | verticalLine
  | trendline
  | channel
  | fibonacci
  | rectangle
  | other
deriving DecidableEq

def DrawnLineKind.text : DrawnLineKind → String
  | .horizontalLine => "horizontal_line"
  | .verticalLine => "vertical_line"
  | .trendline => "trendline"
  | .channel => "channel"
  | .fibonacci => "fibonacci"
  | .rectangle => "rectangle"
  | .other => "other"

inductive ChartPattern
  | headAndShouldersTop
  | inverseHeadAndShoulders
  | doubleTop
  | doubleBottom
  | roundedTop
  | roundedBottom
  | hiddenBase
  | fallingWedge
  | risingWedge
  | ascendingTriangle
  | descendingTriangle
  | bullishFlag
  | bearishFlag
  | rectangle
  | islandReversal
  | vShapedReversal
  | expandingTriangle
  | symmetricalTriangle

structure TruthAnchor where
  x : JsNumber
  y : JsNumber
deriving DecidableEq

structure TruthIndicator where
  name : IndicatorName
  params : List JsNumber

structure TruthDrawnLine where
  kind : DrawnLineKind
  anchors : List TruthAnchor

structure SampleTruth where
  chartType : Option ChartType
  symbol : Option String
  exchange : Option Exchange
  timeframe : Option Timeframe
  endTime : Option String
  indicators : List TruthIndicator
  drawnLines : List TruthDrawnLine
  patterns : List ChartPattern

/-- What the variant of a sample leaves out of the chart. -/
inductive InfoMissing
  | none
  | noSymbol
  | noTimeframe
  | noAxes
deriving DecidableEq

/-- The lines that the variant of a sample draws into the chart. -/
inductive Annotations
  | none
  | trendline
  | horizontalLine
  | rectangle

def Annotations.text : Annotations → String
  | .none => "none"
  | .trendline => "trendline"
  | .horizontalLine => "horizontal_line"
  | .rectangle => "rectangle"

structure VariantDims where
  infoMissing : InfoMissing
  annotations : Annotations

structure GoldenSample where
  id : String
  variantDims : VariantDims
  truth : SampleTruth

structure Confident (α : Type) where
  value : Option α
  confidence : JsNumber

structure IndicatorReading where
  name : IndicatorName
  params : Option (List JsNumber)
  confidence : JsNumber

structure DrawnLineReading where
  kind : DrawnLineKind
  anchors : List TruthAnchor
  confidence : JsNumber
deriving DecidableEq

structure PatternCandidate where
  pattern : ChartPattern
  confidence : JsNumber

structure ChartParseResult where
  chartType : Confident ChartType
  symbol : Confident String
  exchange : Confident Exchange
  timeframe : Confident Timeframe
  endTime : Confident String
  indicators : List IndicatorReading
  drawnLines : List DrawnLineReading
  patterns : List PatternCandidate

def certain : JsNumber := .ofNat 1

def TruthIndicator.reading (indicator : TruthIndicator) : IndicatorReading :=
  { name := indicator.name
    params := some indicator.params
    confidence := certain }

def TruthDrawnLine.reading (line : TruthDrawnLine) : DrawnLineReading :=
  { kind := line.kind
    anchors := line.anchors
    confidence := certain }

def truthAsChartParseResult (truth : SampleTruth) : ChartParseResult :=
  { chartType := { value := truth.chartType, confidence := certain }
    symbol := { value := truth.symbol, confidence := certain }
    exchange := { value := truth.exchange, confidence := certain }
    timeframe := { value := truth.timeframe, confidence := certain }
    endTime := { value := truth.endTime, confidence := certain }
    indicators := truth.indicators.map TruthIndicator.reading
    drawnLines := truth.drawnLines.map TruthDrawnLine.reading
    patterns := truth.patterns.map fun pattern =>
      { pattern := pattern, confidence := certain } }

inductive IssueKind
  | invalidFormat
  | notANumber
  | tooSmall
  | tooBig

structure ContractIssue where
  path : List String
  kind : IssueKind

/-- `/^[0-9A-Z.:-]{1,16}$/u` -/
def isSymbol (text : String) : Bool :=
  let chars := text.toList
  chars.all (fun c => ('0' ≤ c && c ≤ '9') || ('A' ≤ c && c ≤ 'Z') ||
      c = '.' || c = ':' || c = '-') &&
    decide (1 ≤ chars.length) && decide (chars.length ≤ 16)

/-- The text has a shape, in which `d` stands for a digit. -/
def hasShape : List Char → List Char → Bool
  | [], [] => true
  | 'd' :: shape, c :: rest => ('0' ≤ c && c ≤ '9') && hasShape shape rest
  | s :: shape, c :: rest => s = c && hasShape shape rest
  | _, _ => false

/-- The shapes of `/^\d{4}-\d{2}-\d{2}(?:[T ]\d{2}:\d{2}(?::\d{2})?)?$/u`. -/
def endTimeShapes : List String :=
  ["dddd-dd-dd", "dddd-dd-ddTdd:dd", "dddd-dd-dd dd:dd", "dddd-dd-ddTdd:dd:dd",
    "dddd-dd-dd dd:dd:dd"]

def isEndTime (text : String) : Bool :=
  endTimeShapes.any fun shape => hasShape shape.toList text.toList

def unitIssues (path : List String) : JsNumber → List ContractIssue
  | .finite value =>
    (if value < 0 then [{ path := path, kind := .tooSmall }] else []) ++
      if 1 < value then [{ path := path, kind := .tooBig }] else []
  | _ => [{ path := path, kind := .notANumber }]

def confidentIssues {α : Type} (valid : α → Bool) (name : String) (field : Confident α) :
    List ContractIssue :=
  (if field.value.all valid then []
    else [{ path := [name, "value"], kind := .invalidFormat }]) ++
    unitIssues [name, "confidence"] field.confidence

def paramIssues (path : List String) (params : List JsNumber) : List ContractIssue :=
  params.zipIdx.flatMap fun entry =>
    match entry.1 with
    | .finite _ => []
    | _ => [{ path := path ++ ["params", toString entry.2], kind := .notANumber }]

def indicatorIssues (index : Nat) (indicator : IndicatorReading) : List ContractIssue :=
  let path := ["indicators", toString index]
  paramIssues path (indicator.params.getD []) ++
    unitIssues (path ++ ["confidence"]) indicator.confidence

def drawnLineIssues (index : Nat) (line : DrawnLineReading) : List ContractIssue :=
  let path := ["drawn_lines", toString index]
  (line.anchors.zipIdx.flatMap fun entry =>
    unitIssues (path ++ ["anchors", toString entry.2, "x"]) entry.1.x ++
      unitIssues (path ++ ["anchors", toString entry.2, "y"]) entry.1.y) ++
    unitIssues (path ++ ["confidence"]) line.confidence

def chartParseIssues (result : ChartParseResult) : List ContractIssue :=
  confidentIssues (fun _ => true) "chart_type" result.chartType ++
    confidentIssues isSymbol "symbol" result.symbol ++
    confidentIssues (fun _ => true) "exchange" result.exchange ++
    confidentIssues (fun _ => true) "timeframe" result.timeframe ++
    confidentIssues isEndTime "end_time" result.endTime ++
    (result.indicators.zipIdx.flatMap fun entry => indicatorIssues entry.2 entry.1) ++
    (result.drawnLines.zipIdx.flatMap fun entry => drawnLineIssues entry.2 entry.1) ++
    result.patterns.zipIdx.flatMap fun entry =>
      unitIssues ["patterns", toString entry.2, "confidence"] entry.1.confidence

def violation (holds : Bool) (text : String) : List String :=
  if holds then [text] else []

def infoMissingViolations (sample : GoldenSample) : List String :=
  let missing := sample.variantDims.infoMissing
  let truth := sample.truth
  violation (missing = .none && (truth.symbol.isNone || truth.exchange.isNone))
      (sample.id ++ ": info_missing=none but symbol/exchange is null") ++
    violation (missing = .none && truth.timeframe.isNone)
      (sample.id ++ ": info_missing=none but timeframe is null") ++
    violation (missing = .none && truth.endTime.isNone)
      (sample.id ++ ": info_missing=none but end_time is null") ++
    violation (missing = .noSymbol && (truth.symbol.isSome || truth.exchange.isSome))
      (sample.id ++ ": info_missing=no_symbol but symbol/exchange not null") ++
    violation (missing = .noTimeframe && truth.timeframe.isSome)
      (sample.id ++ ": info_missing=no_timeframe but timeframe not null") ++
    violation (missing = .noAxes && truth.endTime.isSome)
      (sample.id ++ ": info_missing=no_axes but end_time not null")

def TruthAnchor.isOutside (anchor : TruthAnchor) : Bool :=
  anchor.x.lt .zero || certain.lt anchor.x || anchor.y.lt .zero || certain.lt anchor.y

def lineViolations (sample : GoldenSample) (line : TruthDrawnLine) : List String :=
  violation (line.kind.text ≠ sample.variantDims.annotations.text)
      (sample.id ++ ": drawn_line kind " ++ line.kind.text ++ " != " ++
        sample.variantDims.annotations.text) ++
    line.anchors.flatMap fun anchor =>
      violation anchor.isOutside
        (sample.id ++ ": anchor out of [0,1]: " ++ anchor.x.toText ++ "," ++ anchor.y.toText)

def annotationViolations (sample : GoldenSample) : List String :=
  match sample.variantDims.annotations with
  | .none =>
    violation (!sample.truth.drawnLines.isEmpty)
      (sample.id ++ ": annotations=none but drawn_lines present")
  | annotations =>
    violation sample.truth.drawnLines.isEmpty
        (sample.id ++ ": annotations=" ++ annotations.text ++ " but drawn_lines empty") ++
      sample.truth.drawnLines.flatMap (lineViolations sample)

def contractViolations (message : IssueKind → String) (sample : GoldenSample) : List String :=
  let issues := chartParseIssues (truthAsChartParseResult sample.truth)
  violation (!issues.isEmpty)
    (sample.id ++ ": truth fails chart-parse contract: " ++
      String.intercalate "; " (issues.map fun issue =>
        String.intercalate "." issue.path ++ " " ++ message issue.kind))

def sampleTruthViolations (message : IssueKind → String) (sample : GoldenSample) : List String :=
  infoMissingViolations sample ++ annotationViolations sample ++
    contractViolations message sample

section Accepted

variable {message : IssueKind → String}
variable {sample : GoldenSample}

theorem chartParseIssues_of_accepted (h : sampleTruthViolations message sample = []) :
    chartParseIssues (truthAsChartParseResult sample.truth) = [] := by
  obtain ⟨_, hcontract⟩ := List.append_eq_nil_iff.mp h
  rw [contractViolations, violation] at hcontract
  split at hcontract
  · cases hcontract
  next hempty => simpa using hempty

theorem issues_of_mem {α : Type} {issues : Nat → α → List ContractIssue} {elements : List α}
    (h : (elements.zipIdx.flatMap fun entry => issues entry.2 entry.1) = []) {element : α}
    (hmem : element ∈ elements) : ∃ index, issues index element = [] := by
  obtain ⟨index, hindex⟩ := List.mem_iff_getElem?.mp hmem
  exact ⟨index, List.flatMap_eq_nil_iff.mp h (element, index)
    (List.mk_mem_zipIdx_iff_getElem?.mpr hindex)⟩

theorem params_finite_of_accepted (h : sampleTruthViolations message sample = [])
    {indicator : TruthIndicator} (hindicator : indicator ∈ sample.truth.indicators)
    {param : JsNumber} (hparam : param ∈ indicator.params) : ∃ value, param = .finite value := by
  have hissues := chartParseIssues_of_accepted h
  simp only [chartParseIssues, List.append_eq_nil_iff] at hissues
  obtain ⟨⟨⟨_, hindicators⟩, _⟩, _⟩ := hissues
  obtain ⟨index, hreading⟩ := issues_of_mem hindicators (List.mem_map_of_mem hindicator)
  obtain ⟨hparams, _⟩ := List.append_eq_nil_iff.mp hreading
  obtain ⟨position, hposition⟩ := List.mem_iff_getElem?.mp hparam
  have hnone := List.flatMap_eq_nil_iff.mp hparams (param, position)
    (List.mk_mem_zipIdx_iff_getElem?.mpr hposition)
  cases param with
  | finite value => exact ⟨value, rfl⟩
  | nan => cases hnone
  | infinity negative => cases hnone

theorem anchor_finite_of_accepted (h : sampleTruthViolations message sample = [])
    {line : TruthDrawnLine} (hline : line ∈ sample.truth.drawnLines)
    {anchor : TruthAnchor} (hanchor : anchor ∈ line.anchors) :
    ∃ x y, anchor = { x := .finite x, y := .finite y } := by
  have hissues := chartParseIssues_of_accepted h
  simp only [chartParseIssues, List.append_eq_nil_iff] at hissues
  obtain ⟨⟨_, hlines⟩, _⟩ := hissues
  obtain ⟨index, hreading⟩ := issues_of_mem hlines (List.mem_map_of_mem hline)
  obtain ⟨hanchors, _⟩ := List.append_eq_nil_iff.mp hreading
  obtain ⟨position, hposition⟩ := List.mem_iff_getElem?.mp hanchor
  obtain ⟨hx, hy⟩ := List.append_eq_nil_iff.mp (List.flatMap_eq_nil_iff.mp hanchors
    (anchor, position) (List.mk_mem_zipIdx_iff_getElem?.mpr hposition))
  have hfinite : ∀ {path : List String} {value : JsNumber}, unitIssues path value = [] →
      ∃ finite, value = .finite finite := by
    intro path value hnone
    cases value with
    | finite value => exact ⟨value, rfl⟩
    | nan => cases hnone
    | infinity negative => cases hnone
  obtain ⟨x, hx⟩ := hfinite hx
  obtain ⟨y, hy⟩ := hfinite hy
  exact ⟨x, y, congrArg₂ TruthAnchor.mk hx hy⟩

end Accepted

end Aiphabee.ChartEval
