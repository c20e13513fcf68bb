import Aiphabee.Text.JsonMembers
import Aiphabee.Text.LineBuffer
import Aiphabee.Text.NumberText

/-!
# The events of a FastClaw callback stream

A line of the stream is the JSON text of an event.  An event belongs to a run
and says that the run was accepted, that it goes on, that the remote side
failed, that a tool is to be called, or what the answer is.

The parser of JSON and the decoder of UTF-8 are given by the platform.
-/

namespace Aiphabee.FastClawTransport

open JsText (ofString)
open JsonMembers Checks
open SandboxAuth (JsonValue fieldValue isAlphanumeric safeInteger?)

/-- The phase that the code of a runtime error names. -/
inductive TransportPhase
  | runRequest
  | streamRead
  | applicationCallback
  | callbackResult
deriving DecidableEq

inductive TransportErrorCode
  | serviceAborted
  | serviceInputInvalid
  | serviceRunRejected
  | contentTypeInvalid
  | streamTooLarge
  | lineTooLarge
  | orderInvalid
  | eventInvalid
  | runMismatch
  | toolCallInvalid
  | finalInvalid
  | outputInvalid
  | resultRejected (status : Nat)
  | resultInvalid
  | terminalMissing
  | runtime (phase : TransportPhase) (name : String)
deriving DecidableEq

/--
What is thrown within a run: an error of the transport, what a callback of the
application threw, or another error, with the end of the code it is given.
-/
inductive Thrown
  | service (code : TransportErrorCode)
  | application
  | runtime (name : String)

/-- The end of the code of a `TypeError`. -/
def typeErrorName : String := "TYPEERROR"

/-- What the runtime gives. -/
structure Platform where
  decoder : LineBuffer.StreamDecoder UInt8 Char
  parseJson : Utf8Text → Option JsonValue

mutual

/--
`String(value ?? "")`.  An object with a member `toString` has no text: the
member of a parsed value cannot be called.
-/
def stringOf : JsonValue → Option JsText
  | .null => some []
  | .boolean flag => some (ofString (if flag then "true" else "false"))
  | .number value => some (ofString value.toText)
  | .string text => some text
  | .array elements => (stringsOf elements).map ([0x2C].intercalate ·)
  | .object fields =>
    if (fieldValue fields "toString").isSome then
      none
    else
      some (ofString "[object Object]")

def stringsOf : List JsonValue → Option (List JsText)
  | [] => some []
  | element :: rest => do
      let text ← stringOf element
      let texts ← stringsOf rest
      pure (text :: texts)

end

/-- `String(member ?? "")`, which throws where the value has no text. -/
def stringOfMember (value : JsonValue) (key : String) : Except Thrown JsText :=
  match member value key with
  | none => .ok []
  | some found => require (stringOf found) (.runtime typeErrorName)

/-- The pattern `^[A-Za-z0-9._:-]{1,200}$`, without `.` and `..`. -/
def validId (value : JsText) : Bool :=
  1 ≤ value.length && value.length ≤ 200 &&
    value.all (fun u =>
      isAlphanumeric u || u.toNat = 46 || u.toNat = 95 || u.toNat = 58 || u.toNat = 45) &&
    value ≠ ofString "." && value ≠ ofString ".."

def safeCount : JsonValue → Option Nat
  | .number value =>
    (safeInteger? value).bind fun count => if 0 ≤ count then some count.toNat else none
  | _ => none

structure FastClawTransportToolCall where
  callId : JsText
  input : JsonValue
  name : JsText

structure FastClawTransportUsage where
  inputTokens : Nat
  outputTokens : Nat
  steps : Nat
deriving DecidableEq

structure FastClawTransportResult where
  rawAnswer : JsText
  usage : FastClawTransportUsage
deriving DecidableEq

inductive FastClawCallbackEvent
  | heartbeat (runId : JsText)
  | remoteAccepted (runId : JsText)
  | error (runId code : JsText)
  | toolCall (runId : JsText) (call : FastClawTransportToolCall)
  | final (runId : JsText) (result : FastClawTransportResult)

/-- The member `type` of a value is a text. -/
def hasType (value : JsonValue) (type : String) : Bool :=
  stringMember value "type" = some (ofString type)

def callOf (event : JsonValue) : Except Thrown FastClawTransportToolCall := do
  let call ← require (member event "call") (.service .toolCallInvalid)
  ensure (isObject call) (.service .toolCallInvalid)
  let callId ← stringOfMember call "call_id"
  ensure (validId callId) (.service .toolCallInvalid)
  let name ← stringOfMember call "name"
  ensure (validId name) (.service .toolCallInvalid)
  let input ← require (member call "input") (.service .toolCallInvalid)
  pure { callId, input, name }

def resultOf (event : JsonValue) : Option FastClawTransportResult := do
  let rawAnswer ← stringMember event "raw_answer"
  let usage ← member event "usage"
  let inputTokens ← (member usage "input_tokens").bind safeCount
  let outputTokens ← (member usage "output_tokens").bind safeCount
  let steps ← (member usage "steps").bind safeCount
  pure { rawAnswer, usage := { inputTokens, outputTokens, steps } }

def eventOf (runId : JsText) (event : JsonValue) : Except Thrown FastClawCallbackEvent :=
  if hasType event "remote_accepted" then
    .ok (.remoteAccepted runId)
  else if hasType event "heartbeat" then
    .ok (.heartbeat runId)
  else if hasType event "error" then
    if stringMember event "code" = some (ofString "AIPHABEE_TOOL_PROPOSAL_INVALID") then
      .ok (.error runId (ofString "AIPHABEE_TOOL_PROPOSAL_INVALID"))
    else
      .error (.service .eventInvalid)
  else if hasType event "tool_call" then
    (callOf event).map (.toolCall runId)
  else if hasType event "final" then
    (require (resultOf event) (.service .finalInvalid)).map (.final runId)
  else
    .error (.service .eventInvalid)

def parseEvent (platform : Platform) (line : Utf8Text) (expectedRunId : JsText) :
    Except Thrown FastClawCallbackEvent := do
  let event ← require (platform.parseJson line) (.service .eventInvalid)
  ensure (isObject event) (.service .eventInvalid)
  ensure (stringMember event "run_id" = some expectedRunId) (.service .runMismatch)
  eventOf expectedRunId event

inductive HoldsEvent
    (platform : Platform)
    (runId : JsText)
    (line : Utf8Text)
    (event : FastClawCallbackEvent) : Prop
  | intro (value : JsonValue)
      (parsed : platform.parseJson line = some value)
      (carried : stringMember value "run_id" = some runId)
      (read : eventOf runId value = .ok event)

def FastClawCallbackEvent.runId : FastClawCallbackEvent → JsText
  | .heartbeat id => id
  | .remoteAccepted id => id
  | .error id _ => id
  | .toolCall id _ => id
  | .final id _ => id

theorem eventOf_runId {runId : JsText} {value : JsonValue} {event : FastClawCallbackEvent}
    (h : eventOf runId value = .ok event) : event.runId = runId := by
  unfold eventOf at h
  split_ifs at h
  · cases h
    rfl
  · cases h
    rfl
  · cases h
    rfl
  · cases hcall : callOf value with
    | error thrown =>
      rw [hcall] at h
      cases h
    | ok call =>
      rw [hcall] at h
      cases h
      rfl
  · cases hresult : resultOf value with
    | none =>
      rw [hresult] at h
      cases h
    | some result =>
      rw [hresult] at h
      cases h
      rfl

theorem parseEvent_eq_ok (platform : Platform) (runId : JsText) (line : Utf8Text)
    (event : FastClawCallbackEvent) :
    parseEvent platform line runId = .ok event ↔ HoldsEvent platform runId line event := by
  simp only [parseEvent, bind_eq_ok, require_eq_ok, ensure_eq_ok]
  constructor
  · rintro ⟨value, hvalue, -, -, -, hrun, hevent⟩
    exact ⟨value, hvalue, hrun, hevent⟩
  · rintro ⟨value, hvalue, hrun, hevent⟩
    exact ⟨value, hvalue, (), isObject_of_stringMember hrun, (), hrun, hevent⟩

end Aiphabee.FastClawTransport
