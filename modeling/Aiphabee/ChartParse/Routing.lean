import Aiphabee.ChartEval.FieldMatrix
import Aiphabee.ChartEval.GoldenTruth

/-!
# Routing of a parsed chart

A parsed chart may be matched automatically only under a ready calibration of the
versions in use, with enough samples and a threshold that the least confident
field of the first tier meets.  Without a calibration a chart is put before the
user, and a chart whose symbol, exchange or timeframe is missing is shown only.
-/

namespace Aiphabee.ChartParse

open ChartEval (ChartParseResult Tier)

inductive ChartParseRouteDecision
  | visualOnly
  | userConfirm
  | autoMatch
deriving DecidableEq

def ChartParseRouteDecision.trust : ChartParseRouteDecision → Nat
  | .visualOnly => 0
  | .userConfirm => 1
  | .autoMatch => 2

inductive CalibrationStatus
  | draft
  | ready
  | superseded
deriving DecidableEq

structure CalibrationTierThreshold where
  autoMatchMinConfidence : Option JsNumber
  confirmMinConfidence : Option JsNumber

structure CalibrationThresholds where
  tiers : Tier → CalibrationTierThreshold

structure CalibrationRunForRouting where
  id : String
  modelVersion : String
  promptVersion : String
  sampleCount : JsNumber
  schemaVersion : String
  status : CalibrationStatus
  thresholds : Option CalibrationThresholds

inductive CalibrationReply
  | noLookup
  | failed
  | found (calibration : Option CalibrationRunForRouting)

inductive RouteReason
  | autoMatchThresholdMet
  | calibrationLookupFailed
  | missingP0Field
  | noCalibrationLookup
  | noReadyCalibration
  | readyCalibrationWithoutThresholds
  | sampleCountBelowMinimum
  | thresholdUserConfirm
  | thresholdVisualOnly
  | versionMismatch

structure ChartParseRoutingDecision where
  calibrationRunId : Option String
  confidence : Option JsNumber
  decision : ChartParseRouteDecision
  reason : RouteReason

def schemaVersion : String := "2026-07-02.chart-parse-schema.v1"

def promptVersion : String := "2026-07-02.chart-parse-prompt.v1"

def defaultChartParseRoutingMinCalibrationSamples : JsNumber := .ofNat 50

def p0MinimumConfidence (result : ChartParseResult) : Option JsNumber :=
  if result.symbol.value.isNone || result.exchange.value.isNone ||
      result.timeframe.value.isNone then
    none
  else
    some (JsNumber.min (JsNumber.min result.symbol.confidence result.exchange.confidence)
      result.timeframe.confidence)

def routeWithoutCalibration (confidence : Option JsNumber) (reason : RouteReason) :
    ChartParseRoutingDecision where
  calibrationRunId := none
  confidence
  decision := if confidence.isNone then .visualOnly else .userConfirm
  reason

def meets (threshold : Option JsNumber) (confidence : JsNumber) : Bool :=
  threshold.any fun threshold => JsNumber.le threshold confidence

def minimumSamples (minCalibrationSamples : Option JsNumber) : JsNumber :=
  minCalibrationSamples.getD defaultChartParseRoutingMinCalibrationSamples

def routeChartParseResult (reply : CalibrationReply) (minCalibrationSamples : Option JsNumber)
    (modelVersion : String) (result : ChartParseResult) : ChartParseRoutingDecision :=
  match p0MinimumConfidence result with
  | none => routeWithoutCalibration none .missingP0Field
  | some confidence =>
    match reply with
    | .noLookup => routeWithoutCalibration (some confidence) .noCalibrationLookup
    | .failed => routeWithoutCalibration (some confidence) .calibrationLookupFailed
    | .found none => routeWithoutCalibration (some confidence) .noReadyCalibration
    | .found (some calibration) =>
      if calibration.status ≠ .ready then
        routeWithoutCalibration (some confidence) .noReadyCalibration
      else if calibration.schemaVersion ≠ schemaVersion ∨
          calibration.promptVersion ≠ promptVersion ∨
            calibration.modelVersion ≠ modelVersion then
        routeWithoutCalibration (some confidence) .versionMismatch
      else if JsNumber.lt calibration.sampleCount (minimumSamples minCalibrationSamples) then
        routeWithoutCalibration (some confidence) .sampleCountBelowMinimum
      else
        match calibration.thresholds with
        | none =>
          routeWithoutCalibration (some confidence) .readyCalibrationWithoutThresholds
        | some thresholds =>
          if meets (thresholds.tiers .p0).autoMatchMinConfidence confidence then
            { calibrationRunId := some calibration.id
              confidence := some confidence
              decision := .autoMatch
              reason := .autoMatchThresholdMet }
          else if meets (thresholds.tiers .p0).confirmMinConfidence confidence then
            { calibrationRunId := some calibration.id
              confidence := some confidence
              decision := .userConfirm
              reason := .thresholdUserConfirm }
          else
            { calibrationRunId := some calibration.id
              confidence := some confidence
              decision := .visualOnly
              reason := .thresholdVisualOnly }

section Laws

structure AutoMatched
    (reply : CalibrationReply)
    (minCalibrationSamples : Option JsNumber)
    (modelVersion : String)
    (result : ChartParseResult)
    (calibration : CalibrationRunForRouting) : Prop where
  found : reply = .found (some calibration)
  ready : calibration.status = .ready
  versions : calibration.schemaVersion = schemaVersion ∧
    calibration.promptVersion = promptVersion ∧ calibration.modelVersion = modelVersion
  /-- The samples are not below the minimum; they reach it where both are numbers. -/
  samples : JsNumber.lt calibration.sampleCount (minimumSamples minCalibrationSamples) = false ∧
    (calibration.sampleCount ≠ .nan → minimumSamples minCalibrationSamples ≠ .nan →
      JsNumber.le (minimumSamples minCalibrationSamples) calibration.sampleCount = true)
  present : result.symbol.value.isSome = true ∧ result.exchange.value.isSome = true ∧
    result.timeframe.value.isSome = true
  /-- The least confident field of the first tier meets the threshold. -/
  confident : ∃ thresholds threshold confidence, calibration.thresholds = some thresholds ∧
    (thresholds.tiers .p0).autoMatchMinConfidence = some threshold ∧
      p0MinimumConfidence result = some confidence ∧ JsNumber.le threshold confidence = true

/-- A confidence that is the same or higher. -/
def Raised (before after : JsNumber) : Prop :=
  after = before ∨ JsNumber.le before after = true

/-- The same parse, with confidences of the first tier that are the same or higher. -/
structure P0Raised (result other : ChartParseResult) : Prop where
  symbol : other.symbol.value = result.symbol.value ∧
    Raised result.symbol.confidence other.symbol.confidence
  exchange : other.exchange.value = result.exchange.value ∧
    Raised result.exchange.confidence other.exchange.confidence
  timeframe : other.timeframe.value = result.timeframe.value ∧
    Raised result.timeframe.confidence other.timeframe.confidence

theorem raised_min {a a' b b' : JsNumber} (ha : Raised a a') (hb : Raised b b') :
    Raised (JsNumber.min a b) (JsNumber.min a' b') := by
  have hrefl : ∀ n : JsNumber, n = .nan ∨ JsNumber.le n n = true := by
    intro n
    cases n with
    | nan => exact Or.inl rfl
    | infinity negative => cases negative <;> exact Or.inr rfl
    | finite value => exact Or.inr (decide_eq_true le_rfl)
  have hnan : ∀ n : JsNumber, JsNumber.min n .nan = .nan := by
    intro n
    cases n <;> rfl
  have hle : ∀ n m : JsNumber, n ≠ .nan → m ≠ .nan →
      JsNumber.min n m = if JsNumber.le n m then n else m := by
    intro n m hn hm
    cases n <;> cases m <;> first | rfl | contradiction
  by_cases hnanA : a = .nan
  · -- What is not a number stays so.
    subst hnanA
    rcases ha with rfl | ha
    · exact Or.inl rfl
    · cases ha
  · by_cases hnanB : b = .nan
    · subst hnanB
      rcases hb with rfl | hb
      · exact Or.inl ((hnan a').trans (hnan a).symm)
      · cases hb
    · have hup : ∀ {n m : JsNumber}, n ≠ .nan → Raised n m → m ≠ .nan ∧ JsNumber.le n m = true := by
        rintro n m hn (rfl | hnm)
        · exact ⟨hn, (hrefl m).resolve_left hn⟩
        · refine ⟨?_, hnm⟩
          rintro rfl
          cases n with
          | infinity negative => cases negative <;> cases hnm
          | nan => cases hnm
          | finite value => cases hnm
      obtain ⟨hnanA', haa⟩ := hup hnanA ha
      obtain ⟨hnanB', hbb⟩ := hup hnanB hb
      refine Or.inr ?_
      rw [hle a b hnanA hnanB, hle a' b' hnanA' hnanB']
      split
      · next hab =>
          split
          · exact haa
          · exact JsNumber.le_trans hab hbb
      · next hab =>
          split
          · have hba := JsNumber.lt_of_not_le hnanA hnanB (Bool.eq_false_iff.mpr hab)
            rw [JsNumber.lt, Bool.and_eq_true] at hba
            exact JsNumber.le_trans hba.1 haa
          · exact hbb

/-- A threshold that is met is met by a higher confidence. -/
theorem meets_of_raised {threshold : Option JsNumber} {before after : JsNumber}
    (hraised : Raised before after) (h : meets threshold before = true) :
    meets threshold after = true := by
  obtain ⟨bound, hbound, hle⟩ := (Option.any_eq_true _ _).mp h
  refine (Option.any_eq_true _ _).mpr ⟨bound, hbound, ?_⟩
  rcases hraised with rfl | hup
  · exact hle
  · exact JsNumber.le_trans hle hup

variable {result other : ChartParseResult}

theorem p0MinimumConfidence_raised (h : P0Raised result other) :
    (p0MinimumConfidence result = none ∧ p0MinimumConfidence other = none) ∨
      ∃ before after, p0MinimumConfidence result = some before ∧
        p0MinimumConfidence other = some after ∧ Raised before after := by
  rw [p0MinimumConfidence, p0MinimumConfidence, h.symbol.1, h.exchange.1, h.timeframe.1]
  split
  · exact Or.inl ⟨rfl, rfl⟩
  · exact Or.inr ⟨_, _, rfl, rfl, raised_min (raised_min h.symbol.2 h.exchange.2) h.timeframe.2⟩

theorem p0MinimumConfidence_isSome {result : ChartParseResult} {confidence : JsNumber}
    (h : p0MinimumConfidence result = some confidence) :
    result.symbol.value.isSome = true ∧ result.exchange.value.isSome = true ∧
      result.timeframe.value.isSome = true := by
  rw [p0MinimumConfidence] at h
  split at h
  · cases h
  · next hpresent =>
      simp only [Bool.or_eq_true, not_or, Bool.not_eq_true, Option.isNone_eq_false_iff]
        at hpresent
      exact ⟨hpresent.1.1, hpresent.1.2, hpresent.2⟩

theorem route_autoMatch {reply : CalibrationReply} {minCalibrationSamples : Option JsNumber}
    {modelVersion : String} {result : ChartParseResult}
    (h : (routeChartParseResult reply minCalibrationSamples modelVersion result).decision =
      .autoMatch) :
    ∃ calibration, AutoMatched reply minCalibrationSamples modelVersion result calibration := by
  have hnever : ∀ confidence reason,
      (routeWithoutCalibration confidence reason).decision ≠ .autoMatch := by
    intro confidence reason
    cases confidence <;> exact nofun
  unfold routeChartParseResult at h
  split at h
  · exact absurd h (hnever _ _)
  · next confidence hconfidence =>
      split at h
      · exact absurd h (hnever _ _)
      · exact absurd h (hnever _ _)
      · exact absurd h (hnever _ _)
      · next calibration =>
          split at h
          · exact absurd h (hnever _ _)
          · next hready =>
              split at h
              · exact absurd h (hnever _ _)
              · next hversions =>
                  split at h
                  · exact absurd h (hnever _ _)
                  · next hsamples =>
                      split at h
                      · exact absurd h (hnever _ _)
                      · next thresholds hthresholds =>
                          split at h
                          · next hmeets =>
                              obtain ⟨threshold, hthreshold, hle⟩ :=
                                (Option.any_eq_true _ _).mp hmeets
                              push Not at hversions hready
                              rw [Bool.not_eq_true] at hsamples
                              refine ⟨calibration, rfl, hready, hversions, ⟨hsamples, ?_⟩,
                                p0MinimumConfidence_isSome hconfidence,
                                thresholds, threshold, confidence, hthresholds, hthreshold,
                                hconfidence, hle⟩
                              intro hcount hminimum
                              by_contra hbelow
                              rw [Bool.not_eq_true] at hbelow
                              rw [JsNumber.lt_of_not_le hminimum hcount hbelow] at hsamples
                              cases hsamples
                          · split at h <;> cases h

theorem route_trust_mono (reply : CalibrationReply) (minCalibrationSamples : Option JsNumber)
    (modelVersion : String) (h : P0Raised result other) :
    (routeChartParseResult reply minCalibrationSamples modelVersion result).decision.trust ≤
      (routeChartParseResult reply minCalibrationSamples modelVersion other).decision.trust := by
  rcases p0MinimumConfidence_raised h with ⟨hbefore, hafter⟩ | ⟨before, after, hbefore, hafter, hup⟩
  · simp only [routeChartParseResult, hbefore, hafter, le_refl]
  · simp only [routeChartParseResult, hbefore, hafter]
    split
    · exact le_rfl
    · exact le_rfl
    · exact le_rfl
    · split
      · exact le_rfl
      · split
        · exact le_rfl
        · split
          · exact le_rfl
          · split
            · exact le_rfl
            · next thresholds hthresholds =>
                split
                · next hmet => rw [if_pos (meets_of_raised hup hmet)]
                · split
                  · next hmet =>
                      rw [if_pos (meets_of_raised hup hmet)]
                      split
                      · exact Nat.le_succ 1
                      · exact le_rfl
                  · exact Nat.zero_le _

/--
A chart is matched automatically only on a ready calibration of the versions in
use that its least confident field meets, and a higher confidence of a field
never leads to a decision that trusts the reading less.
-/
theorem routing_failClosed_monotone (reply : CalibrationReply)
    (minCalibrationSamples : Option JsNumber) (modelVersion : String) (result : ChartParseResult) :
    ((routeChartParseResult reply minCalibrationSamples modelVersion result).decision =
        .autoMatch →
      ∃ calibration, AutoMatched reply minCalibrationSamples modelVersion result calibration) ∧
    ∀ other, P0Raised result other →
      (routeChartParseResult reply minCalibrationSamples modelVersion result).decision.trust ≤
        (routeChartParseResult reply minCalibrationSamples modelVersion other).decision.trust :=
  ⟨route_autoMatch, fun _ h => route_trust_mono reply minCalibrationSamples modelVersion h⟩

end Laws

end Aiphabee.ChartParse
