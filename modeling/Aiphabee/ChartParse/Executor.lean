import Mathlib.Algebra.BigOperators.Group.List.Lemmas
import Aiphabee.ChartParse.Routing

/-!
# The executor of the chart tool

An invocation fetches the image, asks the vision model at most twice, and stops at
the first answer that meets the contract, as it is or after its text was repaired.
It then routes the result and writes one record of it, whatever came of the
attempts.  The model, the store, the calibration and the sink may answer in any
way.
-/

namespace Aiphabee.ChartParse

open ChartEval (ChartParseResult IndicatorName DrawnLineKind TruthAnchor ChartPattern ChartType
  Exchange Timeframe)

section Usage

variable {N : Type} [AddCommMonoid N]

/-- What the model reports of a call; parts of it may be missing. -/
structure LanguageModelUsage (N : Type) where
  inputTokens : Option N
  outputTokens : Option N
  totalTokens : Option N

structure ChartParseUsageTotals (N : Type) where
  inputTokens : N
  outputTokens : N
  totalTokens : N

def emptyUsage : ChartParseUsageTotals N where
  inputTokens := 0
  outputTokens := 0
  totalTokens := 0

def LanguageModelUsage.input (usage : LanguageModelUsage N) : N := usage.inputTokens.getD 0

def LanguageModelUsage.output (usage : LanguageModelUsage N) : N := usage.outputTokens.getD 0

def LanguageModelUsage.total (usage : LanguageModelUsage N) : N :=
  usage.totalTokens.getD (usage.input + usage.output)

def addUsage (totals : ChartParseUsageTotals N) :
    Option (LanguageModelUsage N) → ChartParseUsageTotals N
  | none => totals
  | some usage =>
    { inputTokens := totals.inputTokens + usage.input
      outputTokens := totals.outputTokens + usage.output
      totalTokens := totals.totalTokens + usage.total }

end Usage

section Attempts

def parseChartImageMaxModelCalls : Nat := 2

variable {N : Type} [AddCommMonoid N]
variable {α : Type}

/-- The schema of the contract and the repair of a text, up to its reading as JSON. -/
structure Contract (α : Type) where
  safeParse : α → Option ChartParseResult
  jsonrepair : String → Option α

/-- How a call of the model ends. -/
inductive AttemptReply (α N : Type)
  | generated (object : α) (usage : Option (LanguageModelUsage N))
  | noObjectGenerated (text : Option String) (usage : Option (LanguageModelUsage N))
  | failed

def AttemptReply.usage : AttemptReply α N → Option (LanguageModelUsage N)
  | .generated _ usage => usage
  | .noObjectGenerated _ usage => usage
  | .failed => none

def repairAndValidate (contract : Contract α) (rawText : Option String) :
    Option ChartParseResult :=
  (rawText.filter (· ≠ "")).bind fun text => (contract.jsonrepair text).bind contract.safeParse

inductive ChartParseStatus
  | ready
  | degraded
  | parseFailed
deriving DecidableEq

structure ChartParseResultRecord (N : Type) where
  analysisRunId : Option String
  calibrationRunId : Option String
  errorCode : Option String
  id : String
  imageRef : String
  latencyMs : Int
  modelVersion : String
  promptVersion : String
  resultJson : Option ChartParseResult
  schemaVersion : String
  status : ChartParseStatus
  tenantId : String
  tokenCost : N

inductive ExecutorEvent (N : Type)
  | fetchImage
  | modelCall (call : Nat)
  | findCalibration
  | record (row : ChartParseResultRecord N)

structure VisionAttemptsResult (N : Type) where
  errorCode : Option String
  modelCallCount : Nat
  repairApplied : Bool
  result : Option ChartParseResult
  usage : ChartParseUsageTotals N

variable (contract : Contract α)
variable (replies : Nat → AttemptReply α N)

def visionAttempts :
    (left modelCallCount : Nat) → ChartParseUsageTotals N → Option String →
      List (ExecutorEvent N) × VisionAttemptsResult N
  | 0, modelCallCount, usage, errorCode =>
    ([],
      { errorCode := some (errorCode.getD "parse_failed"), modelCallCount
        repairApplied := false, result := none, usage })
  | left + 1, modelCallCount, usage, _ =>
    let next (usage : ChartParseUsageTotals N) (errorCode : String) :=
      let (events, result) := visionAttempts left (modelCallCount + 1) usage (some errorCode)
      (.modelCall modelCallCount :: events, result)
    let stop (usage : ChartParseUsageTotals N) (repairApplied : Bool)
        (result : ChartParseResult) :=
      ([.modelCall modelCallCount],
        { errorCode := none, modelCallCount := modelCallCount + 1, repairApplied
          result := some result, usage })
    match replies modelCallCount with
    | .generated object reported =>
      match contract.safeParse object with
      | some result => stop (addUsage usage reported) false result
      | none => next (addUsage usage reported) "schema_validation_failed"
    | .noObjectGenerated text reported =>
      match repairAndValidate contract text with
      | some result => stop (addUsage usage reported) true result
      | none => next (addUsage usage reported) "invalid_json_output"
    | .failed => next usage "vision_call_failed"

def runVisionAttempts : List (ExecutorEvent N) × VisionAttemptsResult N :=
  visionAttempts contract replies parseChartImageMaxModelCalls 0 emptyUsage none

end Attempts

section Evidence

variable {N : Type}

inductive ChartEvidenceStrength
  | weak
  | medium
  | unknown

inductive ChartEvidenceDataStatus
  | parsed
  | parsedPendingConfirmation
  | visualReferenceOnly
  | unavailable

def evidenceStrength : ChartParseRouteDecision → ChartEvidenceStrength
  | .autoMatch => .medium
  | .userConfirm => .weak
  | .visualOnly => .unknown

def dataStatus : ChartParseRouteDecision → ChartEvidenceDataStatus
  | .autoMatch => .parsed
  | .userConfirm => .parsedPendingConfirmation
  | .visualOnly => .visualReferenceOnly

/-- The values of a parse, without the confidences. -/
structure ChartEvidenceDataPoints where
  chartType : Option ChartType
  drawnLines : List (DrawnLineKind × List TruthAnchor)
  endTime : Option String
  exchange : Option Exchange
  indicators : List (IndicatorName × Option (List JsNumber))
  patterns : List ChartPattern
  symbol : Option String
  timeframe : Option Timeframe

def buildDataPoints (result : ChartParseResult) : ChartEvidenceDataPoints where
  chartType := result.chartType.value
  drawnLines := result.drawnLines.map fun line => (line.kind, line.anchors)
  endTime := result.endTime.value
  exchange := result.exchange.value
  indicators := result.indicators.map fun indicator => (indicator.name, indicator.params)
  patterns := result.patterns.map fun pattern => pattern.pattern
  symbol := result.symbol.value
  timeframe := result.timeframe.value

inductive EvidenceWarning
  | degraded
  | repairApplied
  | routed (reason : RouteReason)
  | chartTimeUnverified

def buildWarnings (record : ChartParseResultRecord N) (routing : ChartParseRoutingDecision)
    (repairApplied : Bool) : List EvidenceWarning :=
  (if record.status = .degraded then [.degraded] else []) ++
    (if repairApplied then [.repairApplied] else []) ++
      (if routing.decision ≠ .autoMatch then [.routed routing.reason] else []) ++
        [.chartTimeUnverified]

structure ChartEvidenceCandidate where
  asOf : Int
  calibrationRunId : Option String
  dataPoints : ChartEvidenceDataPoints
  evidenceStrength : ChartEvidenceStrength
  imageRef : String
  modelVersion : String
  promptVersion : String
  routeDecision : ChartParseRouteDecision
  routeReason : RouteReason
  schemaVersion : String
  sourceRecordId : String
  tenantId : String
  warnings : List EvidenceWarning

structure ChartEvidenceHandoff where
  dataStatus : ChartEvidenceDataStatus
  evidenceCandidate : Option ChartEvidenceCandidate

def deriveChartEvidenceHandoff (record : ChartParseResultRecord N) (repairApplied : Bool)
    (retrievedAt : Int) (routing : Option ChartParseRoutingDecision) : ChartEvidenceHandoff :=
  match routing, record.resultJson with
  | some routing, some result =>
    if record.status = .parseFailed then
      { dataStatus := .unavailable, evidenceCandidate := none }
    else
      { dataStatus := dataStatus routing.decision
        evidenceCandidate := some {
          asOf := retrievedAt
          calibrationRunId := routing.calibrationRunId
          dataPoints := buildDataPoints result
          evidenceStrength := evidenceStrength routing.decision
          imageRef := record.imageRef
          modelVersion := record.modelVersion
          promptVersion := record.promptVersion
          routeDecision := routing.decision
          routeReason := routing.reason
          schemaVersion := record.schemaVersion
          sourceRecordId := record.id
          tenantId := record.tenantId
          warnings := buildWarnings record routing repairApplied } }
  | _, _ => { dataStatus := .unavailable, evidenceCandidate := none }

end Evidence

section Invocations

variable {N : Type} [AddCommMonoid N]
variable {α : Type}

inductive FetchReply
  | found
  | missing
  | failed

/-- What the executor works with in one invocation, and how it all answers. -/
structure ParseChartImageDeps (α N : Type) where
  contract : Contract α
  fetchImage : FetchReply
  replies : Nat → AttemptReply α N
  calibration : CalibrationReply
  minCalibrationSamples : Option JsNumber
  modelVersion : String
  generatedId : String
  startedAt : Int
  completedAt : Int
  /-- Whether the sink takes the record; otherwise the invocation fails with its error. -/
  sinkAccepts : Bool

structure ParseChartImageRequest where
  analysisRunId : Option String
  imageRef : String
  tenantId : String

structure ParseChartImageOutcome (N : Type) where
  calibrationRunId : Option String
  dataStatus : ChartEvidenceDataStatus
  errorCode : Option String
  evidenceCandidate : Option ChartEvidenceCandidate
  latencyMs : Int
  modelCallCount : Nat
  recordId : String
  repairApplied : Bool
  result : Option ChartParseResult
  routeDecision : Option ChartParseRouteDecision
  status : ChartParseStatus
  usage : ChartParseUsageTotals N

def withoutImage (errorCode : String) : VisionAttemptsResult N where
  errorCode := some errorCode
  modelCallCount := 0
  repairApplied := false
  result := none
  usage := emptyUsage

variable (deps : ParseChartImageDeps α N)

/-- The attempts of an invocation. -/
def ParseChartImageDeps.attempts : List (ExecutorEvent N) × VisionAttemptsResult N :=
  match deps.fetchImage with
  | .found => runVisionAttempts deps.contract deps.replies
  | .missing => ([], withoutImage "image_not_found")
  | .failed => ([], withoutImage "image_fetch_failed")

def lookupEvents (result : Option ChartParseResult) : List (ExecutorEvent N) :=
  match result.bind p0MinimumConfidence, deps.calibration with
  | none, _ => []
  | _, .noLookup => []
  | some _, _ => [.findCalibration]

def routeDecisionOf : Option ChartParseRoutingDecision :=
  deps.attempts.2.result.map fun result =>
    routeChartParseResult deps.calibration deps.minCalibrationSamples deps.modelVersion result

def recordOf (request : ParseChartImageRequest) : ChartParseResultRecord N :=
  let attempts := deps.attempts.2
  let status : ChartParseStatus := if attempts.result.isNone then .parseFailed else .ready
  { analysisRunId := request.analysisRunId
    calibrationRunId := (routeDecisionOf deps).bind ChartParseRoutingDecision.calibrationRunId
    errorCode := if status = .ready then none else attempts.errorCode
    id := deps.generatedId
    imageRef := request.imageRef
    latencyMs := max 0 (deps.completedAt - deps.startedAt)
    modelVersion := deps.modelVersion
    promptVersion := promptVersion
    resultJson := attempts.result
    schemaVersion := schemaVersion
    status
    tenantId := request.tenantId
    tokenCost := attempts.usage.totalTokens }

/-- What an invocation returns once the sink has taken its record. -/
def outcomeOf (request : ParseChartImageRequest) : ParseChartImageOutcome N :=
  let attempts := deps.attempts.2
  let record := recordOf deps request
  let handoff := deriveChartEvidenceHandoff record attempts.repairApplied deps.completedAt
    (routeDecisionOf deps)
  { calibrationRunId := record.calibrationRunId
    dataStatus := handoff.dataStatus
    errorCode := record.errorCode
    evidenceCandidate := handoff.evidenceCandidate
    latencyMs := record.latencyMs
    modelCallCount := attempts.modelCallCount
    recordId := record.id
    repairApplied := attempts.repairApplied
    result := attempts.result
    routeDecision := (routeDecisionOf deps).map ChartParseRoutingDecision.decision
    status := record.status
    usage := attempts.usage }

/-- An invocation: what it does, and what it returns unless it fails. -/
def parseChartImage (request : ParseChartImageRequest) :
    List (ExecutorEvent N) × Option (ParseChartImageOutcome N) :=
  (.fetchImage :: deps.attempts.1 ++ lookupEvents deps deps.attempts.2.result ++
      [.record (recordOf deps request)],
    if deps.sinkAccepts then some (outcomeOf deps request) else none)

end Invocations

section Protocol

variable {N : Type} [AddCommMonoid N]
variable {α : Type}

def ExecutorEvent.call : ExecutorEvent N → Option Nat
  | .modelCall call => some call
  | _ => none

def ExecutorEvent.row : ExecutorEvent N → Option (ChartParseResultRecord N)
  | .record row => some row
  | _ => none

def validAnswer (contract : Contract α) : AttemptReply α N → Option ChartParseResult
  | .generated object _ => contract.safeParse object
  | .noObjectGenerated text _ => repairAndValidate contract text
  | .failed => none

def reportedUsage (replies : Nat → AttemptReply α N) (calls : Nat) :
    List (LanguageModelUsage N) :=
  (List.range calls).filterMap fun call => (replies call).usage

structure AgreesWith (row : ChartParseResultRecord N) (outcome : ParseChartImageOutcome N) :
    Prop where
  status : row.status = outcome.status
  result : row.resultJson = outcome.result
  errorCode : row.errorCode = outcome.errorCode
  latencyMs : row.latencyMs = outcome.latencyMs
  recordId : row.id = outcome.recordId
  calibrationRunId : row.calibrationRunId = outcome.calibrationRunId
  tokenCost : row.tokenCost = outcome.usage.totalTokens

/-- What an invocation keeps to, whatever it meets. -/
structure KeepsProtocol
    (deps : ParseChartImageDeps α N)
    (events : List (ExecutorEvent N))
    (returned : Option (ParseChartImageOutcome N))
    (calls : Nat) : Prop where
  /-- The model is called at most twice. -/
  numbered : events.filterMap ExecutorEvent.call = List.range calls
  atMostTwo : calls ≤ 2
  /-- No call follows an answer that meets the contract. -/
  stops : ∀ call, call + 1 < calls → validAnswer deps.contract (deps.replies call) = none
  returns : returned.isSome = deps.sinkAccepts
  /-- One record is written, and it agrees with what is returned. -/
  recorded : ∃ row, events.filterMap ExecutorEvent.row = [row] ∧
    ∀ outcome ∈ returned, AgreesWith row outcome
  ready : ∀ outcome ∈ returned, outcome.result.isSome = true → outcome.status = .ready
  counted : ∀ outcome ∈ returned, outcome.modelCallCount = calls
  /-- The usage is the sum of what the calls have reported. -/
  usage : ∀ outcome ∈ returned,
    outcome.usage.inputTokens =
        ((reportedUsage deps.replies calls).map LanguageModelUsage.input).sum ∧
      outcome.usage.outputTokens =
          ((reportedUsage deps.replies calls).map LanguageModelUsage.output).sum ∧
        outcome.usage.totalTokens =
          ((reportedUsage deps.replies calls).map LanguageModelUsage.total).sum

variable {contract : Contract α}
variable {replies : Nat → AttemptReply α N}

/-- What the loop does with the calls that it makes. -/
structure LoopSpec
    (contract : Contract α)
    (replies : Nat → AttemptReply α N)
    (left first : Nat)
    (usage : ChartParseUsageTotals N)
    (outcome : List (ExecutorEvent N) × VisionAttemptsResult N)
    (calls : Nat) : Prop where
  bound : calls ≤ left
  events : outcome.1 = (List.range' first calls).map ExecutorEvent.modelCall
  counted : outcome.2.modelCallCount = first + calls
  stops : ∀ call, first ≤ call → call + 1 < first + calls →
    validAnswer contract (replies call) = none
  usage : outcome.2.usage = ((List.range' first calls).map fun call =>
    (replies call).usage).foldl addUsage usage

theorem loopSpec_stop (left first : Nat) (usage : ChartParseUsageTotals N) (repairApplied : Bool)
    (result : ChartParseResult) :
    LoopSpec contract replies (left + 1) first usage
      ([.modelCall first],
        { errorCode := none, modelCallCount := first + 1, repairApplied
          result := some result, usage := addUsage usage (replies first).usage }) 1 where
  bound := Nat.le_add_left 1 left
  events := rfl
  counted := rfl
  stops := fun call hfirst hcall => by omega
  usage := rfl

theorem loopSpec_next {left first calls : Nat} {usage : ChartParseUsageTotals N}
    {events : List (ExecutorEvent N)} {result : VisionAttemptsResult N}
    (hinvalid : validAnswer contract (replies first) = none)
    (h : LoopSpec contract replies left (first + 1) (addUsage usage (replies first).usage)
      (events, result) calls) :
    LoopSpec contract replies (left + 1) first usage (.modelCall first :: events, result)
      (calls + 1) where
  bound := Nat.succ_le_succ h.bound
  events := by
    rw [List.range'_succ, List.map_cons, ← h.events]
  counted := by
    rw [h.counted]
    omega
  stops := by
    intro call hfirst hcall
    rcases Nat.eq_or_lt_of_le hfirst with rfl | hlater
    · exact hinvalid
    · exact h.stops call hlater (by omega)
  usage := by
    rw [List.range'_succ, List.map_cons, List.foldl_cons, ← h.usage]

theorem visionAttempts_stop {first : Nat} {result : ChartParseResult}
    (h : validAnswer contract (replies first) = some result) (left : Nat)
    (usage : ChartParseUsageTotals N) (errorCode : Option String) :
    ∃ repairApplied, visionAttempts contract replies (left + 1) first usage errorCode =
      ([.modelCall first],
        { errorCode := none, modelCallCount := first + 1, repairApplied
          result := some result, usage := addUsage usage (replies first).usage }) := by
  unfold visionAttempts
  cases hreply : replies first with
  | generated object reported =>
    rw [hreply, validAnswer] at h
    exact ⟨false, by simp only [h, AttemptReply.usage]⟩
  | noObjectGenerated text reported =>
    rw [hreply, validAnswer] at h
    exact ⟨true, by simp only [h, AttemptReply.usage]⟩
  | failed =>
    rw [hreply] at h
    cases h

theorem visionAttempts_next {first : Nat} (h : validAnswer contract (replies first) = none)
    (left : Nat) (usage : ChartParseUsageTotals N) (errorCode : Option String) :
    ∃ errorCode', visionAttempts contract replies (left + 1) first usage errorCode =
      (.modelCall first :: (visionAttempts contract replies left (first + 1)
          (addUsage usage (replies first).usage) (some errorCode')).1,
        (visionAttempts contract replies left (first + 1)
          (addUsage usage (replies first).usage) (some errorCode')).2) := by
  conv in visionAttempts _ _ (left + 1) _ _ _ => unfold visionAttempts
  cases hreply : replies first with
  | generated object reported =>
    rw [hreply, validAnswer] at h
    exact ⟨"schema_validation_failed", by simp only [h, AttemptReply.usage]⟩
  | noObjectGenerated text reported =>
    rw [hreply, validAnswer] at h
    exact ⟨"invalid_json_output", by simp only [h, AttemptReply.usage]⟩
  | failed => exact ⟨"vision_call_failed", by simp only [AttemptReply.usage, addUsage]⟩

theorem visionAttempts_spec (contract : Contract α) (replies : Nat → AttemptReply α N)
    (left first : Nat) (usage : ChartParseUsageTotals N) (errorCode : Option String) :
    ∃ calls, LoopSpec contract replies left first usage
      (visionAttempts contract replies left first usage errorCode) calls := by
  induction left generalizing first usage errorCode with
  | zero => exact ⟨0, ⟨le_rfl, rfl, rfl, fun call _ hcall => by omega, rfl⟩⟩
  | succ left ih =>
    cases hanswer : validAnswer contract (replies first) with
    | some result =>
      obtain ⟨repairApplied, hstop⟩ := visionAttempts_stop hanswer left usage errorCode
      rw [hstop]
      exact ⟨1, loopSpec_stop left first usage repairApplied result⟩
    | none =>
      obtain ⟨errorCode', hnext⟩ := visionAttempts_next hanswer left usage errorCode
      rw [hnext]
      obtain ⟨calls, hrest⟩ := ih (first + 1) (addUsage usage (replies first).usage)
        (some errorCode')
      exact ⟨calls + 1, loopSpec_next hanswer hrest⟩

theorem foldl_addUsage (reports : List (Option (LanguageModelUsage N)))
    (usage : ChartParseUsageTotals N) :
    (reports.foldl addUsage usage).inputTokens =
        usage.inputTokens + ((reports.filterMap id).map LanguageModelUsage.input).sum ∧
      (reports.foldl addUsage usage).outputTokens =
          usage.outputTokens + ((reports.filterMap id).map LanguageModelUsage.output).sum ∧
        (reports.foldl addUsage usage).totalTokens =
          usage.totalTokens + ((reports.filterMap id).map LanguageModelUsage.total).sum := by
  induction reports generalizing usage with
  | nil => simp
  | cons report rest ih =>
    rw [List.foldl_cons]
    obtain ⟨hinput, houtput, htotal⟩ := ih (addUsage usage report)
    cases report with
    | none => exact ⟨hinput, houtput, htotal⟩
    | some reported =>
      rw [hinput, houtput, htotal]
      simp [addUsage, add_assoc]

theorem attempts_spec (deps : ParseChartImageDeps α N) :
    ∃ calls, LoopSpec deps.contract deps.replies 2 0 emptyUsage deps.attempts calls := by
  unfold ParseChartImageDeps.attempts
  cases deps.fetchImage with
  | found => exact visionAttempts_spec deps.contract deps.replies 2 0 emptyUsage none
  | missing | failed => exact ⟨0, ⟨Nat.zero_le 2, rfl, rfl, fun call _ hcall => by omega, rfl⟩⟩

omit [AddCommMonoid N] in
theorem lookupEvents_quiet (deps : ParseChartImageDeps α N) (result : Option ChartParseResult) :
    (lookupEvents deps result).filterMap ExecutorEvent.call = [] ∧
      (lookupEvents deps result).filterMap ExecutorEvent.row = [] := by
  unfold lookupEvents
  split <;> exact ⟨rfl, rfl⟩

/-- Every invocation keeps to the protocol. -/
theorem parseChartImage_keepsProtocol (deps : ParseChartImageDeps α N)
    (request : ParseChartImageRequest) :
    ∃ calls, KeepsProtocol deps (parseChartImage deps request).1
      (parseChartImage deps request).2 calls := by
  obtain ⟨calls, hloop⟩ := attempts_spec deps
  obtain ⟨hcallQuiet, hrowQuiet⟩ := lookupEvents_quiet deps deps.attempts.2.result
  have hcalls : deps.attempts.1.filterMap ExecutorEvent.call = List.range calls := by
    rw [hloop.events, List.filterMap_map, List.range_eq_range']
    exact List.filterMap_some
  have hrows : deps.attempts.1.filterMap ExecutorEvent.row = [] := by
    rw [hloop.events, List.filterMap_map]
    exact List.filterMap_eq_nil_iff.mpr fun _ _ => rfl
  have husage : deps.attempts.2.usage =
      ((List.range calls).map fun call => (deps.replies call).usage).foldl addUsage
        emptyUsage := by
    rw [hloop.usage, List.range_eq_range']
  have hreported : reportedUsage deps.replies calls =
      ((List.range calls).map fun call => (deps.replies call).usage).filterMap id := by
    rw [List.filterMap_map]
    rfl
  obtain ⟨hinput, houtput, htotal⟩ := foldl_addUsage
    ((List.range calls).map fun call => (deps.replies call).usage)
    (emptyUsage : ChartParseUsageTotals N)
  rw [← husage, ← hreported] at hinput houtput htotal
  have hreturned : ∀ outcome ∈ (parseChartImage deps request).2,
      outcome = outcomeOf deps request :=
    fun _ houtcome => (Option.some.inj (Option.ite_none_right_eq_some.mp houtcome).2).symm
  refine ⟨calls, ?_, hloop.bound, ?_, ?_, ?_, ?_, ?_, ?_⟩
  · simp only [parseChartImage, List.filterMap_append, List.filterMap_cons, hcalls, hcallQuiet,
      ExecutorEvent.call, List.filterMap_nil, List.append_nil]
  · intro call hcall
    exact hloop.stops call (Nat.zero_le call) (by omega)
  · rw [parseChartImage]
    cases deps.sinkAccepts <;> rfl
  · simp only [parseChartImage, List.filterMap_append, List.filterMap_cons, hrows, hrowQuiet,
      ExecutorEvent.row, List.filterMap_nil, List.nil_append]
    refine ⟨recordOf deps request, rfl, fun outcome houtcome => ?_⟩
    rw [hreturned outcome houtcome]
    exact ⟨rfl, rfl, rfl, rfl, rfl, rfl, rfl⟩
  · intro outcome houtcome hresult
    rw [hreturned outcome houtcome] at hresult ⊢
    have hfound : deps.attempts.2.result.isNone = false := Option.isNone_eq_false_iff.mpr hresult
    exact if_neg (by rw [hfound]; exact Bool.false_ne_true)
  · intro outcome houtcome
    rw [hreturned outcome houtcome]
    exact hloop.counted.trans (Nat.zero_add calls)
  · intro outcome houtcome
    rw [hreturned outcome houtcome]
    exact ⟨hinput.trans (zero_add _), houtput.trans (zero_add _), htotal.trans (zero_add _)⟩

end Protocol

end Aiphabee.ChartParse
