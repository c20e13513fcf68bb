import Aiphabee.ResearchAgent.LifecycleStore
import Aiphabee.Transition.LabelledRuns

/-!
# The lifecycle service

A lifecycle request is answered from the event log if its identifier is known,
denied on the authority of the account, or claims the profile, carries the
intent out on the remote user, and records how that ended.  The whole request
is one transaction: a request without a result leaves the tables as they were,
though not the remote user.
-/

namespace Aiphabee.ResearchAgent

open Transition

structure ResearchAgentLifecycleRequest where
  accountId : String
  intent : ResearchAgentLifecycleIntent
  reason : String
  requestId : String
  workspaceId : String

inductive PlatformStatus
  | active
  | closed
  | suspended
deriving DecidableEq

structure AuthorityRow where
  accountExists : Bool
  accountStatus : Option PlatformStatus
  workspaceExists : Bool
  workspaceStatus : Option PlatformStatus
  membershipActive : Bool
  subscriptionActive : Bool
  productAccessActive : Bool
  entitlementApproved : Bool

/-- What a request finds outside: the clock, the authority rows, and the replies it would get. -/
structure LifecycleSurroundings where
  now : Nat
  authority : AuthorityRow
  provisionUserReply : ControlReply UserBody
  provisionAgentReply : ControlReply AgentBody
  setUserStatusReply : ControlReply UserStatusBody
  removeUserReply : ControlReply RemovalBody

structure ResearchAgentLifecycleResult where
  desiredState : ResearchAgentDesiredState
  errorCode : Option String := none
  fastclawAgentIdHash : Option String := none
  fastclawUserIdHash : Option String := none
  lifecycleStatus : ResearchAgentLifecycleStatus
  outcome : ResearchAgentLifecycleOutcome
  profileId : String
  requestId : String
  retryable : Bool := false
  retryWithNewRequestId : Bool := false
  sandboxCreated : Bool := false
deriving DecidableEq

def resultFromEvent (event : ResearchAgentLifecycleEvent)
    (desiredState : ResearchAgentDesiredState) : ResearchAgentLifecycleResult :=
  { desiredState := desiredState
    errorCode := event.errorCode
    fastclawAgentIdHash := event.fastclawAgentIdHash
    fastclawUserIdHash := event.fastclawUserIdHash
    lifecycleStatus := event.toStatus
    outcome := event.outcome
    profileId := event.profileId
    requestId := event.requestId
    retryable := event.outcome = .retryableFailure ∨ event.outcome = .conflict
    retryWithNewRequestId := event.outcome = .retryableFailure ∨ event.outcome = .conflict }

/-- Whether an account may be activated. -/
def AuthorityRow.activateAllowed (row : AuthorityRow) : Bool :=
  row.accountStatus = some .active ∧
    row.workspaceStatus = some .active ∧
    row.membershipActive ∧
    row.subscriptionActive ∧
    row.productAccessActive ∧
    row.entitlementApproved

/-- Why a request is denied before anything is claimed. -/
def preconditionDenial (intent : ResearchAgentLifecycleIntent) (authority : AuthorityRow) :
    Option String :=
  if ¬ authority.accountExists then
    some "ACCOUNT_NOT_FOUND"
  else if ¬ authority.workspaceExists then
    some "WORKSPACE_NOT_FOUND"
  else if intent = .activate ∧ ¬ authority.activateAllowed then
    some "RESEARCH_AGENT_ENTITLEMENT_DENIED"
  else if intent = .delete ∧ authority.accountStatus ≠ some .closed then
    some "ACCOUNT_NOT_CLOSED"
  else
    none

structure RemoteState where
  fastclawAgentId : Option String := none
  fastclawUserId : Option String := none

/-- A reconciliation that failed, with the identifiers known by then. -/
structure ResearchAgentRemoteReconcileError where
  remoteCause : RemoteError
  fastclawUserId : Option String
  fastclawAgentId : Option String

def knownOrProvisionedUser (fastclawUserId : Option String) (externalIdentity : String)
    (surroundings : LifecycleSurroundings) : Remote RemoteError String :=
  match fastclawUserId with
  | some userId => .ofExcept (.ok userId)
  | none =>
    (provisionUser externalIdentity surroundings.provisionUserReply).map
      FastClawProvisionedUser.userId

def activatedUser (fastclawUserId : Option String) (externalIdentity : String)
    (surroundings : LifecycleSurroundings) : Remote RemoteError String :=
  match fastclawUserId with
  | some userId =>
    (setUserStatus userId .active surroundings.setUserStatusReply).map fun _ => userId
  | none =>
    (provisionUser externalIdentity surroundings.provisionUserReply).map
      FastClawProvisionedUser.userId

def knownOrProvisionedAgent (fastclawAgentId : Option String)
    (userId agentExternalIdentity : String) (surroundings : LifecycleSurroundings) :
    Remote RemoteError String :=
  match fastclawAgentId with
  | some agentId => .ofExcept (.ok agentId)
  | none =>
    (provisionAgent userId agentExternalIdentity surroundings.provisionAgentReply).map
      FastClawProvisionedAgent.agentId

def reconcileRemote (intent : ResearchAgentLifecycleIntent)
    (profile : ResearchAgentLifecycleProfile) (externalIdentity agentExternalIdentity : String)
    (surroundings : LifecycleSurroundings) : Remote ResearchAgentRemoteReconcileError RemoteState :=
  let failedWith (fastclawUserId : Option String) (cause : RemoteError) :
      ResearchAgentRemoteReconcileError :=
    { remoteCause := cause
      fastclawUserId := fastclawUserId
      fastclawAgentId := profile.fastclawAgentId }
  match intent with
  | .activate =>
    ((activatedUser profile.fastclawUserId externalIdentity surroundings).mapError
      (failedWith profile.fastclawUserId)).andThen fun userId =>
    ((knownOrProvisionedAgent profile.fastclawAgentId userId agentExternalIdentity
        surroundings).mapError (failedWith (some userId))).andThen fun agentId =>
    .ofExcept (.ok { fastclawAgentId := some agentId, fastclawUserId := some userId })
  | .disable =>
    ((knownOrProvisionedUser profile.fastclawUserId externalIdentity surroundings).mapError
      (failedWith profile.fastclawUserId)).andThen fun userId =>
    ((setUserStatus userId .disabled surroundings.setUserStatusReply).mapError
      (failedWith (some userId))).andThen fun _ =>
    .ofExcept (.ok
      { fastclawAgentId := profile.fastclawAgentId, fastclawUserId := some userId })
  | .delete =>
    ((knownOrProvisionedUser profile.fastclawUserId externalIdentity surroundings).mapError
      (failedWith profile.fastclawUserId)).andThen fun userId =>
    ((removeUser userId surroundings.removeUserReply).mapError
      (failedWith (some userId))).andThen fun _ =>
    .ofExcept (.ok {})

structure LifecycleExecution where
  calls : List RemoteExchange := []
  outcome : Except LifecycleFault (ResearchAgentLifecycleResult × LifecycleStore)

def claimInput (request : ResearchAgentLifecycleRequest) (identity : String) : ClaimInput :=
  { accountId := request.accountId
    desiredState := desiredStateForIntent request.intent
    externalIdentity := fastClawExternalIdentity identity
    intent := request.intent
    pendingStatus := pendingStatusForIntent request.intent
    profileId := profileIdOf identity
    requestId := request.requestId
    workspaceId := request.workspaceId }

/-- The event written for a claim that ends without remote calls. -/
def terminalEventInput (request : ResearchAgentLifecycleRequest)
    (profile : ResearchAgentLifecycleProfile) (errorCode : Option String)
    (outcome : ResearchAgentLifecycleOutcome) : EventWriteInput :=
  { errorCode := errorCode
    fastclawAgentId := profile.fastclawAgentId
    fastclawUserId := profile.fastclawUserId
    fromStatus := some profile.lifecycleStatus
    intent := request.intent
    outcome := outcome
    profileId := profile.profileId
    reason := request.reason
    requestId := request.requestId }

variable (digest : String → List UInt8)
variable (request : ResearchAgentLifecycleRequest)
variable (s : LifecycleStore)

/-- Record a claim that ends without remote calls, and answer from the event. -/
def recordTerminal (profile : ResearchAgentLifecycleProfile) (errorCode : Option String)
    (outcome : ResearchAgentLifecycleOutcome) :
    Except LifecycleFault (ResearchAgentLifecycleResult × LifecycleStore) :=
  match s.writeEvent digest (terminalEventInput request profile errorCode outcome)
      profile.lifecycleStatus with
  | .error fault => .error fault
  | .ok (written, event) =>
    .ok (resultFromEvent event (desiredStateForIntent request.intent), written)

/-- The event written for a reconciliation that succeeded. -/
def successEventInput (previousStatus : ResearchAgentLifecycleStatus)
    (profile : ResearchAgentLifecycleProfile) (remoteState : RemoteState) : EventWriteInput :=
  { errorCode := none
    fastclawAgentId := remoteState.fastclawAgentId
    fastclawUserId := remoteState.fastclawUserId
    fromStatus := some previousStatus
    intent := request.intent
    outcome := .succeeded
    profileId := profile.profileId
    reason := request.reason
    requestId := request.requestId }

/-- Whether an error is one of the client that may be retried. -/
def RemoteError.retryable : RemoteError → Bool
  | .fastClaw error => error.retryable
  | .platform => false

def RemoteError.recordedCode : RemoteError → String
  | .fastClaw error => error.code.text
  | .platform => "RESEARCH_AGENT_LIFECYCLE_FAILED"

/-- The error of a finalization as the service sees it. -/
def LifecycleFault.asRemoteError : LifecycleFault → RemoteError
  | .fastClaw cause => .fastClaw cause
  | _ => .platform

def failureEventInput (previousStatus : ResearchAgentLifecycleStatus)
    (profile : ResearchAgentLifecycleProfile) (cause : RemoteError)
    (fastclawUserId fastclawAgentId : Option String) : EventWriteInput :=
  { errorCode := some cause.recordedCode
    fastclawAgentId := fastclawAgentId
    fastclawUserId := fastclawUserId
    fromStatus := some previousStatus
    intent := request.intent
    outcome := if cause.retryable then .retryableFailure else .internalFailure
    profileId := profile.profileId
    reason := request.reason
    requestId := request.requestId }

def recordFailure (input : EventWriteInput) :
    Except LifecycleFault (ResearchAgentLifecycleResult × LifecycleStore) :=
  match s.finalizeFailure digest input with
  | .error fault => .error fault
  | .ok (failed, event) =>
    .ok (resultFromEvent event (desiredStateForIntent request.intent), failed)

def finalizeClaimed (previousStatus : ResearchAgentLifecycleStatus)
    (profile : ResearchAgentLifecycleProfile) :
    Except ResearchAgentRemoteReconcileError RemoteState →
      Except LifecycleFault (ResearchAgentLifecycleResult × LifecycleStore)
  | .error error =>
    recordFailure digest request s
      (failureEventInput request previousStatus profile error.remoteCause
        error.fastclawUserId error.fastclawAgentId)
  | .ok remoteState =>
    match s.finalizeSuccess digest
        (successEventInput request previousStatus profile remoteState)
        (terminalStatusForIntent request.intent) with
    | .ok (finished, event) =>
      .ok (resultFromEvent event (desiredStateForIntent request.intent), finished)
    | .error (fault, none) => .error fault
    | .error (fault, some left) =>
      recordFailure digest request left
        (failureEventInput request previousStatus profile fault.asRemoteError
          profile.fastclawUserId profile.fastclawAgentId)

def executeClaim (surroundings : LifecycleSurroundings) (request : ResearchAgentLifecycleRequest)
    (identity : String) (s : LifecycleStore) :
    LifecycleClaim → LifecycleExecution
  | .inProgress profile =>
    match hashOptional digest profile.fastclawAgentId,
        hashOptional digest profile.fastclawUserId with
    | .ok agentHash, .ok userHash =>
      { outcome := .ok
          ({ desiredState := desiredStateForIntent request.intent
             errorCode := some "LIFECYCLE_REQUEST_IN_PROGRESS"
             fastclawAgentIdHash := agentHash
             fastclawUserIdHash := userHash
             lifecycleStatus := profile.lifecycleStatus
             outcome := .conflict
             profileId := profileIdOf identity
             requestId := request.requestId
             retryable := true }, s) }
    | .error error, _ => { outcome := .error (.fastClaw error) }
    | _, .error error => { outcome := .error (.fastClaw error) }
  | .deleted profile =>
    { outcome := recordTerminal digest request s profile
        (some "RESEARCH_AGENT_PROFILE_DELETED") .denied }
  | .busy profile =>
    { outcome := recordTerminal digest request s profile
        (some "LIFECYCLE_LEASE_BUSY") .conflict }
  | .terminal profile =>
    { outcome := recordTerminal digest request s profile none .succeeded }
  | .claimed previousStatus profile =>
    let reconciled :=
      reconcileRemote request.intent profile
        (fastClawExternalIdentity identity)
        (fastClawAgentExternalIdentity identity)
        surroundings
    { calls := reconciled.calls
      outcome := finalizeClaimed digest request s previousStatus profile reconciled.result }

/-- The result of a request that is answered without a trace in the tables. -/
def untracedResult (identity errorCode : String) (desiredState : ResearchAgentDesiredState)
    (status : ResearchAgentLifecycleStatus) (outcome : ResearchAgentLifecycleOutcome) :
    ResearchAgentLifecycleResult :=
  { desiredState := desiredState
    errorCode := some errorCode
    lifecycleStatus := status
    outcome := outcome
    profileId := profileIdOf identity
    requestId := request.requestId }

def executeNew (surroundings : LifecycleSurroundings) (request : ResearchAgentLifecycleRequest)
    (identity : String) (s : LifecycleStore) : LifecycleExecution :=
  match preconditionDenial request.intent surroundings.authority with
  | some code =>
    if code = "ACCOUNT_NOT_FOUND" ∨ code = "WORKSPACE_NOT_FOUND" then
      { outcome := .ok
          (untracedResult request identity code .disabled .disabled .denied, s) }
    else
      match s.recordDenied digest (claimInput request identity) code request.reason with
      | .error fault => { outcome := .error fault }
      | .ok (recorded, event) =>
        { outcome := .ok
            (resultFromEvent event (desiredStateForIntent request.intent), recorded) }
  | none =>
    match s.claim surroundings.now (claimInput request identity) with
    | .error fault => { outcome := .error fault }
    | .ok (claimed, claim) =>
      executeClaim digest surroundings request identity claimed claim

def execute (surroundings : LifecycleSurroundings) (request : ResearchAgentLifecycleRequest)
    (s : LifecycleStore) : LifecycleExecution :=
  match identityDigest digest request.workspaceId request.accountId with
  | .error error => { outcome := .error (.fastClaw error) }
  | .ok identity =>
    match s.readEvent (profileIdOf identity) request.requestId with
    | some replay =>
      if replay.intent ≠ request.intent then
        { outcome := .ok
            (untracedResult request identity "LIFECYCLE_REQUEST_MISMATCH"
              (desiredStateForIntent request.intent) replay.toStatus .conflict, s) }
      else
        { outcome := .ok
            (resultFromEvent replay (desiredStateForIntent request.intent), s) }
    | none => executeNew digest surroundings request identity s

/-- What the caller of the service sees: the calls that were made, and the result or the fault. -/
structure LifecycleAnswer where
  calls : List RemoteExchange
  result : Except LifecycleFault ResearchAgentLifecycleResult

def runResearchAgentLifecycle (call : ResearchAgentLifecycleRequest × LifecycleSurroundings) :
    LifecycleStore × LifecycleAnswer :=
  let execution := execute digest call.2 call.1 s
  match execution.outcome with
  | .ok (result, committed) =>
    (committed, { calls := execution.calls, result := .ok result })
  | .error fault =>
    (s, { calls := execution.calls, result := .error fault })

end Aiphabee.ResearchAgent
