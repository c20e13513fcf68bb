import Aiphabee.FastClawTransport.CallbackEvents

/-!
# The transport of a FastClaw run

A run asks the service and reads its answer as a stream of lines.  An event of
a tool call has the application called, and what it hands back is posted to the
service before the next line is looked at; a post that the network fails is
made once more.

A run is followed by its trace: what it calls and posts, in order.  A run that
stops keeps the trace up to there.  What the callbacks and the service do with
a call is given: a call's id comes once in a run.
-/

namespace Aiphabee.FastClawTransport

open JsonMembers

variable {ω : Type}
variable (platform : Platform)

/-- `2 << 20`. -/
def maxStreamBytes : Nat := 2 * 2 ^ 20

/-- `1 << 20`. -/
def maxLineBytes : Nat := 2 ^ 20

/-- The most bytes of the answer to a post. -/
def maxReadbackBytes : Nat := 65536

/-- What a callback does with a tool call; it may hand back `undefined`. -/
inductive ToolOutcome (ω : Type)
  | threw
  | returned (output : Option ω)

structure Application (ω : Type) where
  onProgressThrows : Bool
  onToolCall : FastClawTransportToolCall → ToolOutcome ω
  bodyOf : ω → Option Utf8Text

/--
What becomes of a post: the network fails, with the run aborted meanwhile or
not, another error is thrown, or the service answers.
-/
inductive PostOutcome
  | networkFailure (aborted : Bool)
  | failed (name : String)
  | answered (status : Nat) (readbackText : Utf8Text)

structure ResultService where
  post : FastClawTransportToolCall → Nat → PostOutcome

/-- What a run does that can be seen from outside. -/
inductive Action
  | progress
  | toolCallStarted (call : FastClawTransportToolCall)
  | toolCallSettled (call : FastClawTransportToolCall)
  | resultPosted (call : FastClawTransportToolCall) (attempt : Nat) (body : Utf8Text)

def checkReadback (platform : Platform) (runId : JsText) (call : FastClawTransportToolCall)
    (attempt : Nat) (readbackText : Utf8Text) : Except Thrown Unit := do
  Checks.ensure (JsText.utf8Size readbackText ≤ maxReadbackBytes) (.service .resultInvalid)
  let readback ← Checks.require (platform.parseJson readbackText) (.service .resultInvalid)
  let replayed := booleanMember readback "replayed"
  Checks.ensure
    (isObject readback ∧
      stringMember readback "status" = some (JsText.ofString "accepted") ∧
      stringMember readback "run_id" = some runId ∧
      stringMember readback "call_id" = some call.callId ∧
      (replayed = some false ∨ (attempt ≠ 0 ∧ replayed = some true)))
    (.service .resultInvalid)

def settlePost (platform : Platform) (runId : JsText) (call : FastClawTransportToolCall)
    (attempt : Nat) : PostOutcome → Except Thrown Unit
  | .networkFailure _ => .error (.runtime typeErrorName)
  | .failed name => .error (.runtime name)
  | .answered status readbackText => do
      Checks.ensure (200 ≤ status ∧ status ≤ 299) (.service (.resultRejected status))
      checkReadback platform runId call attempt readbackText

/-- The error is a `TypeError` and the run goes on. -/
def PostOutcome.isNetworkFailure : PostOutcome → Bool
  | .networkFailure aborted => !aborted
  | _ => false

def postAttempts (platform : Platform) (service : ResultService) (runId : JsText)
    (call : FastClawTransportToolCall) (body : Utf8Text) :
    Nat → Nat → List Action × Except Thrown Unit
  | 0, _ => ([], .ok ())
  | left + 1, attempt =>
    let outcome := service.post call attempt
    match settlePost platform runId call attempt outcome with
    | .ok () => ([.resultPosted call attempt body], .ok ())
    | .error thrown =>
      if outcome.isNetworkFailure && attempt ≠ 1 then
        let (posts, result) := postAttempts platform service runId call body left (attempt + 1)
        (.resultPosted call attempt body :: posts, result)
      else
        ([.resultPosted call attempt body], .error thrown)

def postToolResult {ω : Type} (platform : Platform) (application : Application ω)
    (service : ResultService) (runId : JsText) (call : FastClawTransportToolCall)
    (output : Option ω) : List Action × Except Thrown Unit :=
  match output.bind application.bodyOf with
  | none => ([], .error (.service .outputInvalid))
  | some body => postAttempts platform service runId call body 2 0

section Events

structure RunState where
  accepted : Bool
  seenCalls : List JsText
  final : Option FastClawTransportResult
  transportPhase : TransportPhase
  trace : List Action

structure Stopped where
  transportPhase : TransportPhase
  trace : List Action
  thrown : Thrown

def RunState.stop {α : Type} (state : RunState) (thrown : Thrown) : Except Stopped α :=
  .error { transportPhase := state.transportPhase, trace := state.trace, thrown }

def RunState.start : RunState where
  accepted := false
  seenCalls := []
  final := none
  transportPhase := .streamRead
  trace := []

variable (application : Application ω)
variable (service : ResultService)
variable (runId : JsText)
variable (state : RunState)

def onRemoteAccepted : Except Stopped RunState :=
  if state.accepted || state.seenCalls.length > 0 || state.final.isSome then
    state.stop (.service .orderInvalid)
  else
    let state := { state with
      accepted := true
      transportPhase := .applicationCallback
      trace := state.trace ++ [.progress] }
    if application.onProgressThrows then state.stop .application else .ok state

def onHeartbeat : Except Stopped RunState :=
  if !state.accepted || state.final.isSome then
    state.stop (.service .orderInvalid)
  else
    .ok state

def onToolCall (call : FastClawTransportToolCall) (state : RunState) : Except Stopped RunState :=
  if !state.accepted || state.final.isSome || state.seenCalls.contains call.callId then
    state.stop (.service .orderInvalid)
  else
    let state := { state with
      seenCalls := state.seenCalls ++ [call.callId]
      transportPhase := .applicationCallback
      trace := state.trace ++ [Action.toolCallStarted call, .toolCallSettled call] }
    match application.onToolCall call with
    | .threw => state.stop .application
    | .returned output =>
      let (posts, result) := postToolResult platform application service runId call output
      let state := { state with
        transportPhase := .callbackResult
        trace := state.trace ++ posts }
      match result with
      | .error thrown => state.stop thrown
      | .ok () => .ok { state with transportPhase := .streamRead }

def onFinal (result : FastClawTransportResult) (state : RunState) : Except Stopped RunState :=
  if !state.accepted || state.final.isSome || result.usage.steps ≠ state.seenCalls.length then
    state.stop (.service .finalInvalid)
  else
    .ok { state with final := some result }

def onEvent : FastClawCallbackEvent → Except Stopped RunState
  | .remoteAccepted _ => onRemoteAccepted application state
  | .heartbeat _ => onHeartbeat state
  | .error _ _ => state.stop (.service .toolCallInvalid)
  | .toolCall _ call => onToolCall platform application service runId call state
  | .final _ result => onFinal result state

/-- `text.trim() === ""`. -/
def isBlank (text : Utf8Text) : Bool :=
  text.all JsString.isWhiteSpace

def onLine (line : Utf8Text) : Except Stopped RunState :=
  if JsText.utf8Size line > maxLineBytes then
    state.stop (.service .lineTooLarge)
  else if isBlank line then
    .ok state
  else
    match parseEvent platform line runId with
    | .error thrown => state.stop thrown
    | .ok event => onEvent platform application service runId state event

end Events

section Streams

variable (application : Application ω)
variable (service : ResultService)
variable (runId : JsText)

structure ResponseBody where
  chunks : List (List UInt8)
  readFailure : Option String

/-- The end of the stream has been reached. -/
def finishRun (reader : LineBuffer.Reader Char RunState) :
    Except Stopped (RunState × FastClawTransportResult) :=
  match reader.state.final with
  | none => reader.state.stop (.service .terminalMissing)
  | some result =>
    if isBlank reader.buffer then
      .ok (reader.state, result)
    else
      reader.state.stop (.service .terminalMissing)

def readChunks (readFailure : Option String) :
    List (List UInt8) → platform.decoder.Carry → Nat → LineBuffer.Reader Char RunState →
      Except Stopped (RunState × FastClawTransportResult)
  | [], carry, _, reader =>
    match readFailure with
    | some name => reader.state.stop (.runtime name)
    | none => do
        let reader ← LineBuffer.feed '\n' (onLine platform application service runId) reader
          (platform.decoder.finish carry)
        finishRun reader
  | chunk :: chunks, carry, totalBytes, reader =>
    if totalBytes + chunk.length > maxStreamBytes then
      reader.state.stop (.service .streamTooLarge)
    else do
      let decoded := platform.decoder.decode carry chunk
      let reader ← LineBuffer.feed '\n' (onLine platform application service runId) reader
        decoded.2
      readChunks readFailure chunks decoded.1 (totalBytes + chunk.length) reader

end Streams

structure TransportInput where
  externalUserIdentity : JsText
  fastclawAgentId : JsText
  fastclawUserId : JsText
  prompt : JsText
  runId : JsText
  sandboxAuthorization : JsText
  signalAborted : Bool

def TransportInput.isValid (input : TransportInput) : Bool :=
  validId input.runId && validId input.fastclawAgentId && validId input.fastclawUserId &&
    JsText.trim input.externalUserIdentity ≠ [] && JsText.trim input.prompt ≠ [] &&
    JsText.trim input.sandboxAuthorization ≠ []

inductive ServiceReply
  | failed (name : String)
  | answered (status : Nat) (contentType : Option String) (body : Option ResponseBody)

def isNdjson (contentType : Option String) : Bool :=
  contentType.any fun text =>
    "application/x-ndjson".toList.isPrefixOf (text.toList.map Char.toLower)

/-- How a run is rejected: with what the application threw, or with a code. -/
inductive Rejection
  | application
  | transport (code : TransportErrorCode)
deriving DecidableEq

/-- The `catch` of a run. -/
def rejectionOf (stopped : Stopped) : Rejection :=
  match stopped.thrown with
  | .application => .application
  | .service code => .transport code
  | .runtime name => .transport (.runtime stopped.transportPhase name)

structure RunReport where
  trace : List Action
  result : Except Rejection FastClawTransportResult

def reportOf : Except Stopped (RunState × FastClawTransportResult) → RunReport
  | .error stopped => { trace := stopped.trace, result := .error (rejectionOf stopped) }
  | .ok (state, result) => { trace := state.trace, result := .ok result }

def rejected (code : TransportErrorCode) : RunReport where
  trace := []
  result := .error (.transport code)

def run {ω : Type} (platform : Platform) (application : Application ω) (service : ResultService)
    (input : TransportInput) (reply : ServiceReply) : RunReport :=
  if input.signalAborted then
    rejected .serviceAborted
  else if !input.isValid then
    rejected .serviceInputInvalid
  else
    match reply with
    | .failed name => rejected (.runtime .runRequest name)
    | .answered status contentType body =>
      match body with
      | none => rejected .serviceRunRejected
      | some body =>
        if ¬(200 ≤ status ∧ status ≤ 299) then
          rejected .serviceRunRejected
        else if !isNdjson contentType then
          rejected .contentTypeInvalid
        else
          reportOf (readChunks platform application service input.runId body.readFailure
            body.chunks platform.decoder.start 0 ⟨RunState.start, []⟩)

end Aiphabee.FastClawTransport
