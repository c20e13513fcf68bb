import Aiphabee.Text.JsDate
import Aiphabee.Text.JsNumber
import Aiphabee.Text.JsString
import Aiphabee.Transition.LabelledRuns

/-!
# The FastClaw agent runner

A run of the runner is an asynchronous generator.  It asks an authority and an
issuer, starts a transport, has the answer checked, and yields events.  While
the transport holds the callbacks it may call them at any time, the caller may
abort, the timer may fire, and a consumer may ask for the next event or leave.

What happens between two suspensions of the generator is one step, and so is a
callback up to its first wait.  A call of an operation that has not handed back
its promise is a suspension too, since the operation may call back or abort
before it does.  The trace of a run is what can be seen of it from outside.

The clock and the date parser of the platform are parameters.
-/

namespace Aiphabee.AgentRunner

variable (platform : RunnerPlatform)
variable (request : AgentExecutionRequest)

inductive AgentLayer
  | generic
  | research
deriving DecidableEq

inductive AgentRunMode
  | dryRun
  | guardedLive
  | runnerRemote
deriving DecidableEq

def AgentRunMode.text : AgentRunMode → String
  | .dryRun => "dry_run"
  | .guardedLive => "guarded_live"
  | .runnerRemote => "runner_remote"

inductive EventType
  | requested
  | started
  | blocked
  | completed
  | failed
deriving DecidableEq

def EventType.isTerminal : EventType → Bool
  | .blocked => true
  | .completed => true
  | .failed => true
  | _ => false

inductive FailureCode
  | invalidRequest
  | dedicatedIdentityUnavailable
  | researchEntitlementRequired
  | sandboxAuthorizationFailed
  | runCancelled
  | runTimeout
  | runBudgetExceeded
  | toolDenied
  | transportFailed
  | postCheckDenied

def FailureCode.text : FailureCode → String
  | .invalidRequest => "FASTCLAW_RUNNER_INVALID_REQUEST"
  | .dedicatedIdentityUnavailable => "FASTCLAW_DEDICATED_IDENTITY_UNAVAILABLE"
  | .researchEntitlementRequired => "FASTCLAW_RESEARCH_ENTITLEMENT_REQUIRED"
  | .sandboxAuthorizationFailed => "FASTCLAW_SANDBOX_AUTHORIZATION_FAILED"
  | .runCancelled => "FASTCLAW_RUN_CANCELLED"
  | .runTimeout => "FASTCLAW_RUN_TIMEOUT"
  | .runBudgetExceeded => "FASTCLAW_RUN_BUDGET_EXCEEDED"
  | .toolDenied => "FASTCLAW_TOOL_DENIED"
  | .transportFailed => "FASTCLAW_TRANSPORT_FAILED"
  | .postCheckDenied => "FASTCLAW_POST_CHECK_DENIED"

/-- How a run that fails ends. -/
inductive TerminalType
  | blocked
  | failed

def TerminalType.eventType : TerminalType → EventType
  | .blocked => .blocked
  | .failed => .failed

structure RunnerFailure where
  code : FailureCode
  retryable : Bool
  terminalType : TerminalType

/-- The phases of a run that its events tell. -/
inductive SemanticPhase
  | remoteAccepted
  | policyCheck
  | toolCompleted
  | finalCheck

def SemanticPhase.text : SemanticPhase → String
  | .remoteAccepted => "remote_accepted"
  | .policyCheck => "policy_check"
  | .toolCompleted => "tool_completed"
  | .finalCheck => "final_check"

/-- The phases a transport may report. -/
def semanticProgressPhases : List SemanticPhase :=
  [.remoteAccepted, .policyCheck, .toolCompleted, .finalCheck]

def SemanticPhase.ofText? (text : String) : Option SemanticPhase :=
  semanticProgressPhases.find? fun phase => phase.text = text

def runnerId : String := "fastclaw.personal-v0"

/-- What a run may use; the budget of rows and credits is not the runner's concern. -/
structure AgentRunBudget where
  maxParallelTools : JsNumber
  maxSteps : JsNumber
  maxTokens : JsNumber
  maxWallClockMs : JsNumber

structure AgentExecutionRequest where
  allowedTools : List String
  budget : AgentRunBudget
  layer : AgentLayer
  mode : AgentRunMode
  prompt : String
  requestId : String
  runId : String
  /-- The request comes with a signal to abort the run by. -/
  hasSignal : Bool
  tenantId : String
  userId : String

/-- Nothing is left of the text when it is trimmed. -/
def isBlank (value : String) : Bool :=
  JsString.trim value = ""

def isSafeWithin (value : JsNumber) (low high : Nat) : Bool :=
  value.isSafeInteger && !value.lt (.ofNat low) && !(JsNumber.ofNat high).lt value

def validRequest (request : AgentExecutionRequest) : Bool :=
  request.layer = .research &&
    request.mode = .runnerRemote &&
    !isBlank request.prompt &&
    !isBlank request.runId &&
    !isBlank request.requestId &&
    !isBlank request.tenantId &&
    !isBlank request.userId &&
    isSafeWithin request.budget.maxWallClockMs 1 600000 &&
    isSafeWithin request.budget.maxTokens 1 8000 &&
    isSafeWithin request.budget.maxSteps 1 8 &&
    isSafeWithin request.budget.maxParallelTools 1 3

/-- How many phases a transport may have reported: `maxSteps * 4 + 4`. -/
def progressLimit (maxSteps : JsNumber) : JsNumber :=
  match maxSteps with
  | .finite value => .finite (value * 4 + 4)
  | other => other

structure AllowedAuthority where
  externalUserIdentity : String
  fastclawAgentId : String
  fastclawUserId : String
  profileId : String
  tenantId : String
  userId : String

inductive AuthorityDecision
  | allowed (authority : AllowedAuthority)
  | blocked (code : FailureCode) (retryable : Bool)

/-- What the issuer hands out. -/
structure SandboxAuthorization where
  authorization : String
  expiresAt : String

structure TransportUsage where
  inputTokens : JsNumber
  outputTokens : JsNumber
  steps : JsNumber
deriving DecidableEq

structure TransportResult where
  rawAnswer : Option String
  usage : Option TransportUsage

/-- A result that has passed the checks of the runner. -/
structure AcceptedResult where
  rawAnswer : String
  usage : TransportUsage

inductive PostCheckDecision
  | approved (finalAnswer : Option String)
  | denied
deriving DecidableEq

structure TransportToolCall where
  callId : Option String
  name : Option String
deriving DecidableEq

structure AdmittedToolCall where
  callId : String
  name : String
  sandboxAuthorization : String
deriving DecidableEq

/-- Why a promise is rejected: a failure of the runner, or any other error. -/
abbrev Rejection := Option RunnerFailure

/-- How the executor settles a call. -/
inductive ToolOutcome
  | completed
  | denied
  | rejected (error : Rejection)

def identityMatches (request : AgentExecutionRequest) (authority : AllowedAuthority) : Bool :=
  authority.tenantId = request.tenantId &&
    authority.userId = request.userId &&
    !isBlank authority.externalUserIdentity &&
    !isBlank authority.fastclawAgentId &&
    !isBlank authority.fastclawUserId &&
    !isBlank authority.profileId

def isSafeCount (value : JsNumber) : Bool :=
  value.isSafeInteger && !value.lt .zero

def acceptResult (budget : AgentRunBudget) (result : Option TransportResult) :
    Option AcceptedResult :=
  match result with
  | some { rawAnswer := some rawAnswer, usage := some usage } =>
    if isSafeCount usage.outputTokens && isSafeCount usage.inputTokens &&
        isSafeCount usage.steps && !budget.maxTokens.lt usage.outputTokens &&
        !budget.maxSteps.lt usage.steps then
      some { rawAnswer, usage }
    else
      none
  | _ => none

def approvedAnswer : Option PostCheckDecision → Option String
  | some (.approved (some finalAnswer)) =>
    if isBlank finalAnswer then none else some finalAnswer
  | _ => none

inductive EventPayload
  | requested (mode : String) (runnerId : String)
  | started (runnerId : String)
  | phase (phase : String) (runnerId : String)
  | failure (code : String) (retryable : Bool)
  | completed (answer : String) (runnerId : String) (usage : TransportUsage)
  | empty
deriving DecidableEq

structure ExecutionEvent where
  createdAt : String
  eventIndex : Nat
  eventType : EventType
  layer : AgentLayer
  payload : EventPayload
  runId : String
  visibleToUser : Bool
deriving DecidableEq

/-- A valid reading of a clock, in milliseconds since the epoch. -/
structure ClockTime where
  time : Int
  valid : -8640000000000000 ≤ time ∧ time ≤ 8640000000000000

def ClockTime.text (reading : ClockTime) : String :=
  (JsDate.toISOString (some reading.time)).get rfl

/-- What the runner takes from the platform: the readings of the clock, and `Date.parse`. -/
structure RunnerPlatform where
  now : Nat → ClockTime
  dateParse : String → JsDate.Date

def event (request : AgentExecutionRequest) (index : Nat) (type : EventType)
    (payload : EventPayload) (visible : Bool) (now : ClockTime) : ExecutionEvent :=
  { createdAt := now.text
    eventIndex := index
    eventType := type
    layer := request.layer
    payload := payload
    runId := request.runId
    visibleToUser := visible }

/-- What ended the wait for a run: its caller, or its timer. -/
inductive AbortKind
  | cancelled
  | timeout
deriving DecidableEq

structure AbortController where
  aborted : Bool
  kind : AbortKind

/-- The operations the generator waits for, with what it holds meanwhile. -/
inductive Operation
  | resolve
  | issue (authority : AllowedAuthority)
  | transport
  | check (result : AcceptedResult)

/-- What an operation may fulfil its promise with. -/
inductive Fulfilment
  | authority (decision : AuthorityDecision)
  | authorization (issued : SandboxAuthorization)
  | answer (result : Option TransportResult)
  | postCheck (decision : Option PostCheckDecision)

/-- What the generator is resumed with. -/
inductive Resumption
  | resolved (decision : AuthorityDecision)
  | issued (authority : AllowedAuthority) (issued : SandboxAuthorization)
  | answered (result : Option TransportResult)
  | checked (result : AcceptedResult) (decision : Option PostCheckDecision)
  | rejected (operation : Operation) (error : Rejection)

def Operation.fulfil? : Operation → Fulfilment → Option Resumption
  | .resolve, .authority decision => some (.resolved decision)
  | .issue authority, .authorization issued => some (.issued authority issued)
  | .transport, .answer result => some (.answered result)
  | .check result, .postCheck decision => some (.checked result decision)
  | _, _ => none

/-- Where the generator is suspended. -/
inductive Point
  /-- Before its first event. -/
  | created
  /-- At the yield of `run.requested`. -/
  | requested
  /-- In the call of an operation that has not handed back its promise. -/
  | calling (operation : Operation)
  /-- At the promise of an operation. -/
  | awaiting (operation : Operation)
  /-- At a promise that is settled. -/
  | resuming (resumption : Resumption)
  /-- At the yield of the first `run.started`. -/
  | started (authority : AllowedAuthority) (issued : SandboxAuthorization)
  /-- At the yield of a phase; so many phases have been told. -/
  | replaying (told : Nat)
  /-- At the yield of the last event. -/
  | ended
  /-- Returned by itself. -/
  | finished
  /-- Given up by its consumer. -/
  | abandoned

/-- What a transport is started with. -/
structure TransportInput where
  externalUserIdentity : String
  fastclawAgentId : String
  fastclawUserId : String
  prompt : String
  runId : String
  sandboxAuthorization : String
deriving DecidableEq

/-- What can be seen of a run from outside. -/
inductive Observation
  | yielded (event : ExecutionEvent)
  | transportStarted (input : TransportInput)
  | executed (call : AdmittedToolCall)
  | toolRefused (call : TransportToolCall)
  | toolCompleted (callId : String)
  | toolDenied (callId : String)
  | toolFailed (callId : String)
  | postChecked (decision : Option PostCheckDecision)
  | signalled (kind : AbortKind)
deriving DecidableEq

structure CompletedPayload where
  answer : String
  usage : TransportUsage

structure RunnerState where
  point : Point
  index : Nat
  controller : Option AbortController
  /-- The timer of the run is armed. -/
  timeout : Bool
  /-- The signal of the request is aborted. -/
  callerAborted : Bool
  /-- The runner listens to the signal of the request. -/
  listening : Bool
  phases : List SemanticPhase
  acceptingCallbacks : Bool
  activeToolCalls : Nat
  callbackFailure : Option RunnerFailure
  toolCallCount : Nat
  seenToolCallIds : List String
  terminal : Option RunnerFailure
  completedPayload : Option CompletedPayload
  /-- The callbacks are in the hands of the transport, and hold this authorization. -/
  callbacks : Option SandboxAuthorization
  /-- The calls whose executor has not settled, by their identifiers. -/
  pendingToolCalls : List String
  /-- How often the clock has been read. -/
  clockReads : Nat
  trace : List Observation

/-- The generator when it has just been made. -/
def RunnerState.initial : RunnerState :=
  { point := .created
    index := 0
    controller := none
    timeout := false
    callerAborted := false
    listening := false
    phases := []
    acceptingCallbacks := false
    activeToolCalls := 0
    callbackFailure := none
    toolCallCount := 0
    seenToolCallIds := []
    terminal := none
    completedPayload := none
    callbacks := none
    pendingToolCalls := []
    clockReads := 0
    trace := [] }

variable (s : RunnerState)

namespace RunnerState

def aborted : Bool :=
  s.controller.any (·.aborted)

def abortFailure : RunnerFailure :=
  if s.controller.map (·.kind) = some .cancelled then
    { code := .runCancelled, retryable := false, terminalType := .failed }
  else
    { code := .runTimeout, retryable := true, terminalType := .failed }

def record (observation : Observation) : RunnerState :=
  { s with trace := s.trace ++ [observation] }

end RunnerState

variable (error : Rejection)

def yieldEvent (type : EventType) (payload : EventPayload) (visible : Bool) (s : RunnerState) :
    RunnerState :=
  let yielded := event request s.index type payload visible (platform.now s.clockReads)
  { s.record (.yielded yielded) with clockReads := s.clockReads + 1 }

def yieldNext (type : EventType) (payload : EventPayload) (point : Point) (s : RunnerState) :
    RunnerState :=
  { yieldEvent platform request type payload false s with
    index := s.index + 1
    point := point }

def yieldTerminal : RunnerState :=
  match s.terminal with
  | some failure =>
    { yieldEvent platform request failure.terminalType.eventType
        (.failure failure.code.text failure.retryable) true s with
      point := .ended }
  | none =>
    { yieldEvent platform request .completed
        (match s.completedPayload with
          | some completed => .completed completed.answer runnerId completed.usage
          | none => .empty) true s with
      point := .ended }

/-- Go on with telling the phases: the next one, or the end of the run. -/
def replay (told : Nat) (s : RunnerState) : RunnerState :=
  match s.phases[told]? with
  | some phase =>
    yieldNext platform request .started (.phase phase.text runnerId) (.replaying (told + 1)) s
  | none => yieldTerminal platform request s

/-- The `finally` block: callbacks are no longer accepted, and the signals are let go. -/
def RunnerState.finalize : RunnerState :=
  { s with
    acceptingCallbacks := false
    timeout := false
    listening := false
    controller := s.controller.map fun controller => { controller with aborted := true } }

/-- The end of the `try` statement, and what follows it. -/
def conclude : RunnerState :=
  replay platform request 0 s.finalize

/-- The `catch` block for a failure of the runner. -/
def fail (failure : RunnerFailure) (s : RunnerState) : RunnerState :=
  conclude platform request { s with terminal := some failure }

def failureFromUnknown : RunnerFailure :=
  error.getD { code := .transportFailed, retryable := true, terminalType := .failed }

def failureOf : Operation → Rejection → RunnerFailure
  | .issue _, none =>
    { code := .sandboxAuthorizationFailed, retryable := true, terminalType := .failed }
  | .check _, none =>
    { code := .postCheckDenied, retryable := true, terminalType := .blocked }
  | _, error => failureFromUnknown error

/-- From the yield of `run.requested` to the call of the authority. -/
def begin : RunnerState :=
  if validRequest request then
    if s.callerAborted then
      fail platform request
        { code := .runCancelled, retryable := false, terminalType := .failed } s
    else
      { s with
        controller := some { aborted := false, kind := .timeout }
        listening := request.hasSignal
        timeout := true
        point := .calling .resolve }
  else
    fail platform request
      { code := .invalidRequest, retryable := false, terminalType := .blocked } s

def afterResolve (decision : AuthorityDecision) (s : RunnerState) : RunnerState :=
  match decision with
  | .blocked code retryable =>
    fail platform request { code, retryable, terminalType := .blocked } s
  | .allowed authority =>
    if identityMatches request authority then
      { s with point := .calling (.issue authority) }
    else
      fail platform request
        { code := .dedicatedIdentityUnavailable, retryable := false, terminalType := .blocked } s

/-- From the authorization to the yield of `run.started`. -/
def afterIssue (authority : AllowedAuthority) (issued : SandboxAuthorization) (s : RunnerState) :
    RunnerState :=
  let unusable : RunnerFailure :=
    { code := .sandboxAuthorizationFailed, retryable := false, terminalType := .failed }
  match isBlank issued.authorization, platform.dateParse issued.expiresAt with
  | false, some expiresAt =>
    let checked := { s with clockReads := s.clockReads + 1 }
    if expiresAt ≤ (platform.now s.clockReads).time then
      fail platform request unusable checked
    else
      yieldNext platform request .started (.started runnerId) (.started authority issued) checked
  | _, _ => fail platform request unusable s

/-- From the yield of `run.started` to the call of the transport. -/
def startTransport (authority : AllowedAuthority) (issued : SandboxAuthorization)
    (s : RunnerState) : RunnerState :=
  let input : TransportInput :=
    { externalUserIdentity := authority.externalUserIdentity
      fastclawAgentId := authority.fastclawAgentId
      fastclawUserId := authority.fastclawUserId
      prompt := JsString.trim request.prompt
      runId := request.runId
      sandboxAuthorization := issued.authorization }
  { s.record (.transportStarted input) with
    acceptingCallbacks := true
    callbacks := some issued
    point := .calling .transport }

def afterTransport (result : Option TransportResult) (s : RunnerState) : RunnerState :=
  let closed := { s with acceptingCallbacks := false }
  match s.callbackFailure with
  | some failure => fail platform request failure closed
  | none =>
    match acceptResult request.budget result with
    | some accepted =>
      { closed with
        phases := s.phases ++ [.finalCheck]
        point := .calling (.check accepted) }
    | none =>
      fail platform request
        { code := .runBudgetExceeded, retryable := false, terminalType := .failed } closed

def afterCheck (result : AcceptedResult) (decision : Option PostCheckDecision) (s : RunnerState) :
    RunnerState :=
  match approvedAnswer decision with
  | some answer =>
    conclude platform request
      { s with completedPayload := some { answer, usage := result.usage } }
  | none =>
    fail platform request
      { code := .postCheckDenied, retryable := false, terminalType := .blocked } s

/-- Resume the generator with what its promise is settled with. -/
def resume (resumption : Resumption) (s : RunnerState) : RunnerState :=
  match resumption with
  | .resolved decision => afterResolve platform request decision s
  | .issued authority issued => afterIssue platform request authority issued s
  | .answered result => afterTransport platform request result s
  | .checked result decision => afterCheck platform request result decision s
  | .rejected operation error => fail platform request (failureOf operation error) s

def consumerNext : Option RunnerState :=
  match s.point with
  | .created =>
    some (yieldNext platform request .requested (.requested request.mode.text runnerId)
      .requested s)
  | .requested => some (begin platform request s)
  | .started authority issued => some (startTransport request authority issued s)
  | .replaying told => some (replay platform request told s)
  | .ended => some { s with point := .finished }
  | _ => none

/-- The consumer leaves: only the first `run.started` is yielded within the `try` statement. -/
def consumerReturn : Option RunnerState :=
  match s.point with
  | .created | .requested | .replaying _ | .ended => some { s with point := .abandoned }
  | .started _ _ => some { s.finalize with point := .abandoned }
  | _ => none

def consumerThrow (s : RunnerState) : Option RunnerState :=
  match s.point with
  | .created | .requested | .replaying _ | .ended => some { s with point := .abandoned }
  | .started _ _ => some (fail platform request (failureFromUnknown error) s)
  | _ => none

/-- The operation hands back its promise, and the generator waits for it with `runWithAbort`. -/
def returns : Option RunnerState :=
  match s.point with
  | .calling operation =>
    if s.aborted then
      some { s with point := .resuming (.rejected operation (some s.abortFailure)) }
    else
      some { s with point := .awaiting operation }
  | _ => none

def throws (s : RunnerState) : Option RunnerState :=
  match s.point with
  | .calling operation => some (fail platform request (failureOf operation error) s)
  | _ => none

/-- The promise is fulfilled; the trace shows what the post check has decided. -/
def fulfils (value : Fulfilment) (s : RunnerState) : Option RunnerState :=
  match s.point with
  | .awaiting operation =>
    match operation.fulfil? value with
    | some (.checked result decision) =>
      some { s.record (.postChecked decision) with point := .resuming (.checked result decision) }
    | some resumption => some { s with point := .resuming resumption }
    | none => none
  | _ => none

def rejects (s : RunnerState) : Option RunnerState :=
  match s.point with
  | .awaiting operation => some { s with point := .resuming (.rejected operation error) }
  | _ => none

def resumes : Option RunnerState :=
  match s.point with
  | .resuming resumption => some (resume platform request resumption s)
  | _ => none

def RunnerState.abort : RunnerState :=
  if s.aborted then
    s
  else
    { s with
      controller := s.controller.map fun controller => { controller with aborted := true }
      point :=
        match s.point with
        | .awaiting operation => .resuming (.rejected operation (some s.abortFailure))
        | other => other }

def callerAborts : Option RunnerState :=
  if request.hasSignal ∧ s.callerAborted = false then
    let signalled := { s.record (.signalled .cancelled) with callerAborted := true }
    if s.listening then
      some (RunnerState.abort
        { signalled with
          listening := false
          controller := s.controller.map fun controller =>
            { controller with kind := .cancelled } })
    else
      some signalled
  else
    none

def timerFires : Option RunnerState :=
  if s.timeout then
    some (RunnerState.abort { s.record (.signalled .timeout) with timeout := false })
  else
    none

def onProgress (phase : String) (s : RunnerState) : RunnerState :=
  match s.callbackFailure with
  | some _ => s
  | none =>
    match s.acceptingCallbacks, SemanticPhase.ofText? phase with
    | true, some phase =>
      if (progressLimit request.budget.maxSteps).le (.ofNat s.phases.length) then
        { s with
          callbackFailure :=
            some { code := .runBudgetExceeded, retryable := false, terminalType := .failed } }
      else
        { s with phases := s.phases ++ [phase] }
    | _, _ =>
      { s with
        callbackFailure :=
          some { code := .transportFailed, retryable := false, terminalType := .failed } }

def admissible (call : TransportToolCall) (s : RunnerState) : Option (String × String) :=
  match call with
  | { callId := some callId, name := some name } =>
    if !isBlank callId && !s.seenToolCallIds.contains callId &&
        request.allowedTools.contains name then
      some (callId, name)
    else
      none
  | _ => none

def refuseToolCall (call : TransportToolCall) (failure : RunnerFailure) (s : RunnerState) :
    RunnerState :=
  { s.record (.toolRefused call) with callbackFailure := some failure }

def onToolCall (issued : SandboxAuthorization) (call : TransportToolCall) (s : RunnerState) :
    RunnerState :=
  match s.callbackFailure with
  | some failure => refuseToolCall call failure s
  | none =>
    if s.acceptingCallbacks then
      -- a call that is refused counts, but is not active any more
      let counted :=
        { s with
          phases := s.phases ++ [.policyCheck]
          toolCallCount := s.toolCallCount + 1 }
      match admissible request call s with
      | none =>
        refuseToolCall call
          { code := .toolDenied, retryable := false, terminalType := .blocked } counted
      | some (callId, name) =>
        let seen := { counted with seenToolCallIds := s.seenToolCallIds ++ [callId] }
        if request.budget.maxSteps.lt (.ofNat (s.toolCallCount + 1)) ∨
            request.budget.maxParallelTools.lt (.ofNat (s.activeToolCalls + 1)) then
          refuseToolCall call
            { code := .runBudgetExceeded, retryable := false, terminalType := .failed } seen
        else
          { seen.record (.executed
              { callId, name, sandboxAuthorization := issued.authorization }) with
            activeToolCalls := s.activeToolCalls + 1
            pendingToolCalls := s.pendingToolCalls ++ [callId] }
    else
      refuseToolCall call
        { code := .runCancelled, retryable := false, terminalType := .failed } s

def toolSettles (callId : String) (outcome : ToolOutcome) (s : RunnerState) : RunnerState :=
  let settled :=
    { s with
      activeToolCalls := s.activeToolCalls - 1
      pendingToolCalls := s.pendingToolCalls.erase callId }
  match outcome with
  | .completed =>
    { settled.record (.toolCompleted callId) with phases := s.phases ++ [.toolCompleted] }
  | .denied =>
    { settled.record (.toolDenied callId) with
      callbackFailure :=
        some { code := .toolDenied, retryable := false, terminalType := .blocked } }
  | .rejected none =>
    { settled.record (.toolFailed callId) with
      callbackFailure :=
        some { code := .toolDenied, retryable := true, terminalType := .blocked } }
  | .rejected (some _) =>
    -- a failure of the runner is passed on without being noted
    settled.record (.toolFailed callId)

inductive RunnerAction
  | consumerNext
  | consumerReturn
  | consumerThrow (error : Rejection)
  | returns
  | throws (error : Rejection)
  | fulfils (value : Fulfilment)
  | rejects (error : Rejection)
  | resumes
  | callerAborts
  | timerFires
  | onProgress (phase : String)
  | onToolCall (call : TransportToolCall)
  | toolSettles (callId : String) (outcome : ToolOutcome)

def runnerStep (platform : RunnerPlatform) (request : AgentExecutionRequest) (s : RunnerState) :
    RunnerAction → Option RunnerState
  | .consumerNext => consumerNext platform request s
  | .consumerReturn => consumerReturn s
  | .consumerThrow error => consumerThrow platform request error s
  | .returns => returns s
  | .throws error => throws platform request error s
  | .fulfils value => fulfils value s
  | .rejects error => rejects error s
  | .resumes => resumes platform request s
  | .callerAborts => callerAborts request s
  | .timerFires => timerFires s
  | .onProgress phase =>
    s.callbacks.map fun _ => onProgress request phase s
  | .onToolCall call =>
    s.callbacks.map fun issued => onToolCall request issued call s
  | .toolSettles callId outcome =>
    if callId ∈ s.pendingToolCalls then some (toolSettles callId outcome s) else none

end Aiphabee.AgentRunner
