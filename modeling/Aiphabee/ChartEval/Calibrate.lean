import Mathlib.Data.List.Sort
import Aiphabee.ChartEval.FieldMatrix
import Aiphabee.Statistics.PooledMeans
import Aiphabee.Store.GroupBy
import Aiphabee.Text.NumberText

/-!
# Calibrating confidences

The observations of an evaluation run are pooled by tier.  An isotonic fit turns
the confidences of a tier into calibrated accuracies, and the thresholds of the
tier are the first confidences whose calibrated accuracy reaches its targets.  A
run is ready when every tier has both thresholds.

Numbers are exact here.  The digest that names a run is a parameter.
-/

namespace Aiphabee.ChartEval

structure IsotonicPoint where
  confidence : ℚ
  correct : Bool

structure IsotonicStep where
  confidence : ℚ
  calibrated : ℚ
deriving DecidableEq

/-- How many points have one confidence, and how many of them are correct. -/
structure Bucket where
  weight : Nat
  sum : Nat
  weight_pos : 0 < weight

def IsotonicPoint.score (point : IsotonicPoint) : Nat :=
  if point.correct then 1 else 0

def Bucket.start (point : IsotonicPoint) : Bucket :=
  { weight := 1
    sum := point.score
    weight_pos := Nat.one_pos }

def Bucket.count (bucket : Bucket) (point : IsotonicPoint) : Bucket :=
  { weight := bucket.weight + 1
    sum := bucket.sum + point.score
    weight_pos := Nat.succ_pos _ }

variable (points : List IsotonicPoint)

def bucketsOf : List (ℚ × Bucket) :=
  (GroupBy.groupBy IsotonicPoint.confidence Bucket.start Bucket.count points).mergeSort
    fun left right => left.1 ≤ right.1

/-- Neighbouring confidences that are fitted as one. -/
structure Block where
  weight : Nat
  sum : Nat
  memberCount : Nat

/-- The share of correct points of a block. -/
def Block.calibrated (block : Block) : ℚ :=
  block.sum / block.weight

def poolBlock (last : Block) : List Block → List Block
  | [] => [last]
  | previous :: rest =>
    if previous.calibrated ≤ last.calibrated then
      last :: previous :: rest
    else
      poolBlock
        { weight := previous.weight + last.weight
          sum := previous.sum + last.sum
          memberCount := previous.memberCount + last.memberCount }
        rest

def blockStack (buckets : List (ℚ × Bucket)) : List Block :=
  buckets.foldl
    (fun stack entry =>
      poolBlock { weight := entry.2.weight, sum := entry.2.sum, memberCount := 1 } stack)
    []

def stepsOf : List Block → List ℚ → List IsotonicStep
  | [], _ => []
  | block :: rest, confidences =>
    ((confidences.take block.memberCount).map fun confidence =>
        { confidence := confidence, calibrated := block.calibrated }) ++
      stepsOf rest (confidences.drop block.memberCount)

def isotonicFit : List IsotonicStep :=
  let buckets := bucketsOf points
  stepsOf (blockStack buckets).reverse (buckets.map Prod.fst)

structure ConfidenceObservation where
  sampleId : String
  field : MatrixField
  tier : Tier
  confidence : ℚ
  correct : Bool

structure CalibrationThresholdTargets where
  auto : Tier → ℚ
  confirm : Tier → ℚ

structure EvalRunRecord where
  id : String
  goldenSetVersion : String
  schemaVersion : String
  promptVersion : String
  modelVersion : String

structure CalibrateInput where
  run : EvalRunRecord
  observations : List ConfidenceObservation
  minSamples : ℚ
  minTierObservations : ℚ
  targets : CalibrationThresholdTargets

structure ReliabilityBin where
  lo : ℚ
  hi : ℚ
  n : Nat
  meanConfidence : Option ℚ
  empiricalAccuracy : Option ℚ

structure TierReliability where
  observationCount : Nat
  bins : List ReliabilityBin
  isotonic : List IsotonicStep

structure TierThreshold where
  autoMatchMinConfidence : Option ℚ
  confirmMinConfidence : Option ℚ
deriving DecidableEq

structure CalibrationThresholds where
  targets : CalibrationThresholdTargets
  tiers : Tier → TierThreshold
  fieldTier : MatrixField → Tier

inductive CalibrationStatus
  | ready
  | draft
deriving DecidableEq

structure CalibrationRunRecord where
  id : String
  sourceEvalRunId : String
  goldenSetVersion : String
  schemaVersion : String
  promptVersion : String
  modelVersion : String
  sampleCount : Nat
  mappingFnVersion : String := "isotonic-pav.v1"
  thresholds : Option CalibrationThresholds
  reliability : Tier → TierReliability
  status : CalibrationStatus

inductive CalibrateOutcome
  | insufficient (reasons : List String) (sampleCount : Nat)
  | calibrated (run : CalibrationRunRecord)

def binMembers (index : Nat) : List IsotonicPoint :=
  points.filter fun point =>
    (index : ℚ) / 10 ≤ point.confidence ∧
      if index = 9 then point.confidence ≤ (index + 1 : ℚ) / 10
      else point.confidence < (index + 1 : ℚ) / 10

def buildBins : List ReliabilityBin :=
  (List.range 10).map fun index =>
    let members := binMembers points index
    let n := members.length
    { lo := (index : ℚ) / 10
      hi := (index + 1 : ℚ) / 10
      n := n
      meanConfidence :=
        if 0 < n then some ((members.map IsotonicPoint.confidence).sum / n) else none
      empiricalAccuracy :=
        if 0 < n then some ((members.countP IsotonicPoint.correct : ℚ) / n) else none }

def cutoff (curve : List IsotonicStep) (target : ℚ) : Option ℚ :=
  (curve.find? fun step => target ≤ step.calibrated).map IsotonicStep.confidence

variable (input : CalibrateInput)

def CalibrateInput.pointsOf (tier : Tier) : List IsotonicPoint :=
  (input.observations.filter fun observation => observation.tier = tier).map fun observation =>
    { confidence := observation.confidence, correct := observation.correct }

def CalibrateInput.curveOf (tier : Tier) : List IsotonicStep :=
  isotonicFit (input.pointsOf tier)

def CalibrateInput.thresholdsOf (tier : Tier) : TierThreshold :=
  { autoMatchMinConfidence := cutoff (input.curveOf tier) (input.targets.auto tier)
    confirmMinConfidence := cutoff (input.curveOf tier) (input.targets.confirm tier) }

def TierThreshold.isMissing (thresholds : TierThreshold) : Bool :=
  thresholds.autoMatchMinConfidence.isNone || thresholds.confirmMinConfidence.isNone

/-- How many samples were observed. -/
def CalibrateInput.sampleCount : Nat :=
  (input.observations.map ConfidenceObservation.sampleId).eraseDups.length

/-- What keeps a run from being calibrated. -/
def CalibrateInput.reasons : List String :=
  (if (input.sampleCount : ℚ) < input.minSamples then
      ["sample_count " ++ toString input.sampleCount ++ " < min " ++
        (JsNumber.finite input.minSamples).toText]
    else
      []) ++
    tiers.flatMap fun tier =>
      let count := (input.pointsOf tier).length
      if (count : ℚ) < input.minTierObservations then
        ["tier " ++ tier.text ++ " observations " ++ toString count ++ " < min " ++
          (JsNumber.finite input.minTierObservations).toText]
      else
        []

def calibrate (runDigest : CalibrateInput → String) (input : CalibrateInput) : CalibrateOutcome :=
  if input.reasons ≠ [] then
    .insufficient input.reasons input.sampleCount
  else
    let allReachable := tiers.all fun tier => !(input.thresholdsOf tier).isMissing
    .calibrated
      { id := "ccal-" ++ runDigest input
        sourceEvalRunId := input.run.id
        goldenSetVersion := input.run.goldenSetVersion
        schemaVersion := input.run.schemaVersion
        promptVersion := input.run.promptVersion
        modelVersion := input.run.modelVersion
        sampleCount := input.sampleCount
        thresholds :=
          if allReachable then
            some
              { targets := input.targets
                tiers := input.thresholdsOf
                fieldTier := fieldTier }
          else
            none
        reliability := fun tier =>
          { observationCount := (input.pointsOf tier).length
            bins := buildBins (input.pointsOf tier)
            isotonic := input.curveOf tier }
        status := if allReachable then .ready else .draft }

end Aiphabee.ChartEval
