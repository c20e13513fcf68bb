import Mathlib.Data.String.Basic
import Aiphabee.ChartEval.FieldMatrix
import Aiphabee.ChartEval.GoldenTruth

/-!
# Comparing a parse with the truth

Every field of the matrix has an outcome: whether the truth has something to
compare there, and whether the parse hits it.  Scalar fields are compared as they
are, indicators by their names and by the parameters of the first reading with
their name, and drawn lines by their anchors, each line of the truth taking the
first unused line of the parse.
-/

namespace Aiphabee.ChartEval

structure FieldOutcome where
  field : MatrixField
  tier : Tier
  applicable : Bool
  hit : Bool
  confidence : Option JsNumber
  detail : Option String

structure CompareOptions where
  anchorTolerance : JsNumber

def mean (values : List JsNumber) : Option JsNumber :=
  if values.isEmpty then none
  else some ((values.foldl JsNumber.add .zero).overCount values.length)

def sortedUniqueNames (names : List String) : List String :=
  names.eraseDups.mergeSort fun left right => left ≤ right

def arraysEqual {α : Type} (equals : α → α → Bool) : List α → List α → Bool
  | [], [] => true
  | a :: left, b :: right => equals a b && arraysEqual equals left right
  | _, _ => false

def nullText {α : Type} (text : α → String) : Option α → String
  | none => "null"
  | some value => text value

def scalarOutcome {α : Type} [DecidableEq α] (field : MatrixField) (text : α → String)
    (parsed : Confident α) (truth : Option α) : FieldOutcome :=
  let applicable := truth.isSome
  let hit := applicable && parsed.value = truth
  { field := field
    tier := fieldTier field
    applicable := applicable
    hit := hit
    confidence := some parsed.confidence
    detail :=
      if applicable && !hit then
        some ("expected " ++ nullText text truth ++ " got " ++ nullText text parsed.value)
      else
        none }

variable (parsed : ChartParseResult)
variable (truth : SampleTruth)

def indicatorNamesOutcome : FieldOutcome :=
  let truthNames := sortedUniqueNames (truth.indicators.map fun indicator => indicator.name.text)
  let parsedNames := sortedUniqueNames (parsed.indicators.map fun indicator => indicator.name.text)
  let hit := arraysEqual (fun left right => left = right) truthNames parsedNames
  { field := .indicatorNames
    tier := fieldTier .indicatorNames
    applicable := true
    hit := hit
    confidence := mean (parsed.indicators.map IndicatorReading.confidence)
    detail :=
      if hit then none
      else
        some ("expected [" ++ String.intercalate "," truthNames ++ "] got [" ++
          String.intercalate "," parsedNames ++ "]") }

/-- The parameters as they are joined in a detail. -/
def paramsText (params : List JsNumber) : String :=
  String.intercalate "," (params.map JsNumber.toText)

def indicatorMiss (truthIndicator : TruthIndicator) : Option String :=
  match parsed.indicators.find? fun indicator => indicator.name = truthIndicator.name with
  | none => some (truthIndicator.name.text ++ ": not parsed")
  | some found =>
    match found.params with
    | none =>
      some (truthIndicator.name.text ++ ": expected (" ++ paramsText truthIndicator.params ++
        ") got null")
    | some params =>
      if arraysEqual JsNumber.strictEquals params truthIndicator.params then none
      else
        some (truthIndicator.name.text ++ ": expected (" ++ paramsText truthIndicator.params ++
          ") got (" ++ paramsText params ++ ")")

def indicatorParamsOutcome : FieldOutcome :=
  let applicable := !truth.indicators.isEmpty
  let truthNames := truth.indicators.map TruthIndicator.name
  let relevantParsed := parsed.indicators.filter fun indicator => indicator.name ∈ truthNames
  let misses := truth.indicators.filterMap (indicatorMiss parsed)
  let hit := applicable && misses.isEmpty
  { field := .indicatorParams
    tier := fieldTier .indicatorParams
    applicable := applicable
    hit := hit
    confidence := mean (relevantParsed.map IndicatorReading.confidence)
    detail := if applicable && !hit then some (String.intercalate "; " misses) else none }

def anchorWithin (tolerance : JsNumber) (candidate anchor : TruthAnchor) : Bool :=
  (candidate.x.sub anchor.x).abs.le tolerance && (candidate.y.sub anchor.y).abs.le tolerance

def anchorsWithin (parsedAnchors truthAnchors : List TruthAnchor) (tolerance : JsNumber) : Bool :=
  arraysEqual (anchorWithin tolerance) parsedAnchors truthAnchors

def lineWithin (tolerance : JsNumber) (candidate : DrawnLineReading) (truthLine : TruthDrawnLine) :
    Bool :=
  candidate.kind = truthLine.kind && anchorsWithin candidate.anchors truthLine.anchors tolerance

/-- The place of the first unused line of the parse that may be a line of the truth. -/
def matchIndex (tolerance : JsNumber) (lines : List DrawnLineReading) (used : List Nat)
    (truthLine : TruthDrawnLine) : Option Nat :=
  (lines.zipIdx.find? fun entry =>
    !used.contains entry.2 && lineWithin tolerance entry.1 truthLine).map Prod.snd

def lineMisses (tolerance : JsNumber) (lines : List DrawnLineReading) :
    List Nat → Nat → List TruthDrawnLine → List String
  | _, _, [] => []
  | used, truthIndex, truthLine :: rest =>
    match matchIndex tolerance lines used truthLine with
    | none =>
      ("line " ++ toString truthIndex ++ " (" ++ truthLine.kind.text ++
        "): no anchor match within " ++ tolerance.toText) ::
        lineMisses tolerance lines used (truthIndex + 1) rest
    | some index => lineMisses tolerance lines (index :: used) (truthIndex + 1) rest

def drawnLineAnchorsOutcome (tolerance : JsNumber) : FieldOutcome :=
  let applicable := !truth.drawnLines.isEmpty
  let misses :=
    if applicable then
      (if parsed.drawnLines.length ≠ truth.drawnLines.length then
          ["expected " ++ toString truth.drawnLines.length ++ " lines got " ++
            toString parsed.drawnLines.length]
        else
          []) ++
        lineMisses tolerance parsed.drawnLines [] 0 truth.drawnLines
    else
      []
  let hit := applicable && misses.isEmpty
  { field := .drawnLineAnchors
    tier := fieldTier .drawnLineAnchors
    applicable := applicable
    hit := hit
    confidence := mean (parsed.drawnLines.map DrawnLineReading.confidence)
    detail := if applicable && !hit then some (String.intercalate "; " misses) else none }

def compareSample (options : CompareOptions) : List FieldOutcome :=
  [scalarOutcome .symbol id parsed.symbol truth.symbol,
    scalarOutcome .exchange Exchange.text parsed.exchange truth.exchange,
    scalarOutcome .timeframe Timeframe.text parsed.timeframe truth.timeframe,
    scalarOutcome .endTime id parsed.endTime truth.endTime,
    indicatorNamesOutcome parsed truth,
    indicatorParamsOutcome parsed truth,
    drawnLineAnchorsOutcome parsed truth options.anchorTolerance]

end Aiphabee.ChartEval
