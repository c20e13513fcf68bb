import Aiphabee.Text.JsString

/-!
# The FastClaw control-plane client

The lifecycle of a research agent is carried out on a remote FastClaw user.
This module has the vocabulary of that lifecycle, the identities derived from
a workspace and an account, and the client: every method sends at most one
request and either accepts its reply or says why not.

The digest of the platform is a parameter, and a reply is what the transport
brought back for a request.
-/

namespace Aiphabee.ResearchAgent

inductive ResearchAgentLifecycleIntent
  | activate
  | disable
  | delete
deriving DecidableEq

/-- The state a profile is meant to reach. -/
inductive ResearchAgentDesiredState
  | active
  | disabled
  | deleted
deriving DecidableEq

/-- The state a profile is known to be in. -/
inductive ResearchAgentLifecycleStatus
  | provisionPending
  | provisioning
  | active
  | disablePending
  | disabled
  | deletePending
  | deleted
  | blockedRetryable
deriving DecidableEq

inductive FastClawUserStatus
  | active
  | disabled
deriving DecidableEq

def desiredStateForIntent :
    ResearchAgentLifecycleIntent → ResearchAgentDesiredState
  | .activate => .active
  | .disable => .disabled
  | .delete => .deleted

def pendingStatusForIntent :
    ResearchAgentLifecycleIntent → ResearchAgentLifecycleStatus
  | .activate => .provisioning
  | .disable => .disablePending
  | .delete => .deletePending

def terminalStatusForIntent :
    ResearchAgentLifecycleIntent → ResearchAgentLifecycleStatus
  | .activate => .active
  | .disable => .disabled
  | .delete => .deleted

inductive FastClawLifecycleErrorCode
  | authRejected
  | conflict
  | httpError
  | notFound
  | rateLimited
  | responseInvalid
  | unavailable
  | invalidConfig
  | invalidInput

def FastClawLifecycleErrorCode.text :
    FastClawLifecycleErrorCode → String
  | .authRejected => "FASTCLAW_AUTH_REJECTED"
  | .conflict => "FASTCLAW_CONFLICT"
  | .httpError => "FASTCLAW_HTTP_ERROR"
  | .notFound => "FASTCLAW_NOT_FOUND"
  | .rateLimited => "FASTCLAW_RATE_LIMITED"
  | .responseInvalid => "FASTCLAW_RESPONSE_INVALID"
  | .unavailable => "FASTCLAW_UNAVAILABLE"
  | .invalidConfig => "INVALID_LIFECYCLE_CONFIG"
  | .invalidInput => "INVALID_LIFECYCLE_INPUT"

structure FastClawLifecycleError where
  code : FastClawLifecycleErrorCode
  message : String
  retryable : Bool := false

inductive RemoteError
  | fastClaw (error : FastClawLifecycleError)
  | platform

/-- The trimmed text, unless nothing is left of it. -/
def assertNonEmpty (value label : String) : Except FastClawLifecycleError String :=
  let normalized := JsString.trim value
  if normalized = "" then
    .error { code := .invalidInput, message := label ++ " is required" }
  else
    .ok normalized

def sha256Hex (digest : String → List UInt8) (value : String) : String :=
  JsString.hex (digest value)

def identityDigest (digest : String → List UInt8) (workspaceId accountId : String) :
    Except FastClawLifecycleError String :=
  match assertNonEmpty workspaceId "workspace id" with
  | .error error => .error error
  | .ok workspace =>
    match assertNonEmpty accountId "account id" with
    | .error error => .error error
    | .ok account =>
      .ok (sha256Hex digest (workspace ++ String.singleton (Char.ofNat 0) ++ account))

def fastClawExternalIdentity (identity : String) : String :=
  "aiphabee:v1:" ++ identity

/-- The external identity of the remote agent: the user's with its first prefix replaced. -/
def fastClawAgentExternalIdentity (identity : String) : String :=
  "aiphabee-agent:v1:" ++ identity

/-- The profile an identity belongs to: the user's external identity without its prefix. -/
def profileIdOf (identity : String) : String :=
  "research_agent_profile_" ++ identity

/-- The hash under which a remote identifier is recorded. -/
def hashLifecycleReference (digest : String → List UInt8) (value : String) :
    Except FastClawLifecycleError String :=
  (assertNonEmpty value "lifecycle reference").map (sha256Hex digest)

/-- The body of a response, as far as its reader gets. -/
inductive ControlContent (β : Type)
  | oversized
  | interrupted
  | notJson
  | notObject
  | object (body : β)

/-- What the transport brings back for one request. -/
inductive ControlReply (β : Type)
  | unreachable
  | response (status : Nat) (content : ControlContent β)

/-- The fields of a `/v1/users` response; a field that is not a string is absent. -/
structure UserBody where
  externalId : Option String
  userId : Option String

/-- The `agent` field of an agent response. -/
structure AgentRecord where
  externalId : Option String
  id : Option String

structure AgentBody where
  agent : Option AgentRecord
  created : Option Bool

/-- The `user` field of a status response. -/
structure UserRecord where
  id : Option String
  status : Option FastClawUserStatus

structure UserStatusBody where
  user : Option UserRecord

structure RemovalBody where
  ok : Bool
  deleted : Option Bool

def httpError (status : Nat) : FastClawLifecycleError :=
  if status = 401 ∨ status = 403 then
    { code := .authRejected
      message := "FastClaw control-plane authentication failed with HTTP " ++ toString status }
  else if status = 404 then
    { code := .notFound
      message := "FastClaw control-plane resource was not found" }
  else if status = 409 then
    { code := .conflict
      message := "FastClaw control-plane request conflicted with existing state" }
  else if status = 429 then
    { code := .rateLimited
      message := "FastClaw control-plane request was rate limited"
      retryable := true }
  else
    { code := .httpError
      message := "FastClaw control-plane request failed with HTTP " ++ toString status
      retryable := 500 ≤ status }

def responseInvalid (message : String) : RemoteError :=
  .fastClaw { code := .responseInvalid, message := message }

def requestJson {β : Type} : ControlReply β → Except RemoteError β
  | .unreachable =>
    .error (.fastClaw
      { code := .unavailable
        message := "FastClaw control-plane request failed"
        retryable := true })
  | .response status content =>
    if 200 ≤ status ∧ status ≤ 299 then
      match content with
      | .oversized =>
        .error (responseInvalid
          "FastClaw control-plane response exceeded the configured limit")
      | .interrupted => .error .platform
      | .notJson =>
        .error (responseInvalid "FastClaw control-plane response was not valid JSON")
      | .notObject =>
        .error (responseInvalid "FastClaw control-plane response must be an object")
      | .object body => .ok body
    else
      .error (.fastClaw (httpError status))

/-- A request to the control plane. -/
inductive RemoteCall
  | provisionUser (externalId : String)
  | provisionAgent (userId externalId : String)
  | setUserStatus (userId : String) (status : FastClawUserStatus)
  | removeUser (userId : String)

/-- A request that was sent, and whether its caller took it for carried out. -/
structure RemoteExchange where
  call : RemoteCall
  succeeded : Bool

/-- A computation that sends requests: those it sent, and how it ended. -/
structure Remote (ε α : Type) where
  calls : List RemoteExchange
  result : Except ε α

/-- A computation that sends nothing. -/
def Remote.ofExcept {ε α : Type} (result : Except ε α) : Remote ε α :=
  { calls := [], result := result }

/-- Go on with the value of a computation that succeeded. -/
def Remote.andThen {ε α β : Type} (first : Remote ε α) (next : α → Remote ε β) : Remote ε β :=
  match first.result with
  | .error error => { calls := first.calls, result := .error error }
  | .ok value =>
    { calls := first.calls ++ (next value).calls, result := (next value).result }

/-- Change the value of a computation. -/
def Remote.map {ε α β : Type} (f : α → β) (first : Remote ε α) : Remote ε β :=
  { calls := first.calls, result := first.result.map f }

def Remote.mapError {ε ε' α : Type} (f : ε → ε') (first : Remote ε α) : Remote ε' α :=
  { calls := first.calls, result := first.result.mapError f }

/-- Send one request, and read its reply. -/
def Remote.send {α : Type} (call : RemoteCall) (result : Except RemoteError α) :
    Remote RemoteError α :=
  { calls := [{ call := call, succeeded := result.isOk }], result := result }

def Remote.sendAbout {α : Type} (value label : String) (request : String → Remote RemoteError α) :
    Remote RemoteError α :=
  match assertNonEmpty value label with
  | .error error => .ofExcept (.error (.fastClaw error))
  | .ok normalized => request normalized

structure FastClawProvisionedUser where
  externalId : String
  userId : String

structure FastClawProvisionedAgent where
  agentId : String
  created : Bool

/-- What a `/v1/users` reply provisions. -/
def acceptUser (externalId : String) (reply : ControlReply UserBody) :
    Except RemoteError FastClawProvisionedUser :=
  match requestJson reply with
  | .error error => .error error
  | .ok body =>
    match body.userId with
    | some userId =>
      if body.externalId = some externalId ∧ userId ≠ "" then
        .ok { externalId := externalId, userId := userId }
      else
        .error (responseInvalid
          "FastClaw user response did not match the requested external identity")
    | none =>
      .error (responseInvalid
        "FastClaw user response did not match the requested external identity")

def provisionUser (externalIdentity : String) (reply : ControlReply UserBody) :
    Remote RemoteError FastClawProvisionedUser :=
  .sendAbout externalIdentity "FastClaw external identity" fun externalId =>
    .send (.provisionUser externalId) (acceptUser externalId reply)

def acceptAgent (externalId : String) (reply : ControlReply AgentBody) :
    Except RemoteError FastClawProvisionedAgent :=
  match requestJson reply with
  | .error error => .error error
  | .ok body =>
    match body.agent.bind AgentRecord.id, body.created with
    | some agentId, some created =>
      if body.agent.bind AgentRecord.externalId = some externalId ∧ agentId ≠ "" then
        .ok { agentId := agentId, created := created }
      else
        .error (responseInvalid
          "FastClaw Agent response did not match the idempotent provisioning contract")
    | _, _ =>
      .error (responseInvalid
        "FastClaw Agent response did not match the idempotent provisioning contract")

def provisionAgent (userId externalIdentity : String) (reply : ControlReply AgentBody) :
    Remote RemoteError FastClawProvisionedAgent :=
  .sendAbout userId "FastClaw user id" fun user =>
    .sendAbout externalIdentity "FastClaw Agent external identity" fun externalId =>
      .send (.provisionAgent user externalId) (acceptAgent externalId reply)

def acceptUserStatus (user : String) (status : FastClawUserStatus)
    (reply : ControlReply UserStatusBody) : Except RemoteError FastClawUserStatus :=
  match requestJson reply with
  | .error error => .error error
  | .ok body =>
    if body.user.bind UserRecord.id = some user ∧
        body.user.bind UserRecord.status = some status then
      .ok status
    else
      .error (responseInvalid
        "FastClaw user-status response did not match the requested state")

def setUserStatus (userId : String) (status : FastClawUserStatus)
    (reply : ControlReply UserStatusBody) : Remote RemoteError FastClawUserStatus :=
  .sendAbout userId "FastClaw user id" fun user =>
    .send (.setUserStatus user status) (acceptUserStatus user status reply)

/-- Whether a removal reply proves that the user is absent, and whether it was so before. -/
def acceptRemoval (reply : ControlReply RemovalBody) : Except RemoteError Bool :=
  match requestJson reply with
  | .error error => .error error
  | .ok body =>
    match body.ok, body.deleted with
    | true, some deleted => .ok (deleted = false)
    | _, _ =>
      .error (responseInvalid
        "FastClaw user removal response did not prove remote absence")

def removeUser (userId : String) (reply : ControlReply RemovalBody) : Remote RemoteError Bool :=
  .sendAbout userId "FastClaw user id" fun user =>
    .send (.removeUser user) (acceptRemoval reply)

end Aiphabee.ResearchAgent
