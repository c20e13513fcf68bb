import Aiphabee.ResearchAgent.FastClaw
import Aiphabee.Store.KeyedTable

/-!
# The lifecycle tables

The profile table has one row for every account in a workspace, and the event
table one row for every profile and request.  Every statement of the
repository class is a function on the two tables.  A statement that a
constraint of the schema rejects is a fault; the transaction around it is then
lost.

The part of a statement that concerns one profile row is a function of its
own: `none` means that its `where` clause does not hold of the row.
-/

namespace Aiphabee.ResearchAgent

open KeyedTable

inductive ResearchAgentLifecycleOutcome
  | succeeded
  | denied
  | conflict
  | retryableFailure
  | internalFailure
deriving DecidableEq

/-- The lease of a profile: the schema has both columns null or neither. -/
structure LifecycleLease where
  ownerRequestId : String
  expiresAt : Nat
deriving DecidableEq

structure ResearchAgentLifecycleProfile where
  profileId : String
  workspaceId : String
  accountId : String
  externalIdentity : String
  fastclawUserId : Option String := none
  fastclawAgentId : Option String := none
  desiredState : ResearchAgentDesiredState := .disabled
  lifecycleStatus : ResearchAgentLifecycleStatus := .disabled
  operationVersion : Nat := 0
  attemptCount : Nat := 0
  lease : Option LifecycleLease := none
  lastRequestId : Option String := none
  lastErrorCode : Option String := none
deriving DecidableEq

structure ResearchAgentLifecycleEvent where
  profileId : String
  requestId : String
  intent : ResearchAgentLifecycleIntent
  fromStatus : Option ResearchAgentLifecycleStatus
  toStatus : ResearchAgentLifecycleStatus
  outcome : ResearchAgentLifecycleOutcome
  errorCode : Option String
  fastclawUserIdHash : Option String
  fastclawAgentIdHash : Option String
  reason : String

/-- The unique pair of the profile table. -/
def ResearchAgentLifecycleProfile.accountKey (profile : ResearchAgentLifecycleProfile) :
    String × String :=
  (profile.workspaceId, profile.accountId)

/-- The unique pair of the event table. -/
def ResearchAgentLifecycleEvent.key (event : ResearchAgentLifecycleEvent) : String × String :=
  (event.profileId, event.requestId)

/-- The two tables. -/
structure LifecycleStore where
  profiles : List ResearchAgentLifecycleProfile := []
  events : List ResearchAgentLifecycleEvent := []

/-- The constraints of the schema that a statement may violate. -/
inductive LifecycleConstraint
  | profileKey
  | externalIdentity
  | fastclawUser
  | fastclawAgent
  | activeIdentifiers

/-- Why a lifecycle request has no result. -/
inductive LifecycleFault
  | fastClaw (error : FastClawLifecycleError)
  | error (message : String)
  | database (violated : LifecycleConstraint)

variable (s : LifecycleStore)

def LifecycleStore.readProfile (profileId : String) : Option ResearchAgentLifecycleProfile :=
  lookup ResearchAgentLifecycleProfile.profileId s.profiles profileId

/-- Insert a profile row whose account is new. -/
def LifecycleStore.insertProfile (profile : ResearchAgentLifecycleProfile) :
    Except LifecycleFault LifecycleStore :=
  if (s.readProfile profile.profileId).isSome then
    .error (.database .profileKey)
  else if (lookup ResearchAgentLifecycleProfile.externalIdentity s.profiles
      profile.externalIdentity).isSome then
    .error (.database .externalIdentity)
  else
    .ok { s with profiles := s.profiles ++ [profile] }

/-- Another profile has one of the remote identifiers of this one. -/
def takenBy (column : ResearchAgentLifecycleProfile → Option String)
    (profiles : List ResearchAgentLifecycleProfile) (profile : ResearchAgentLifecycleProfile) :
    Bool :=
  (column profile).isSome &&
    profiles.any fun other =>
      decide (other.profileId ≠ profile.profileId) && column other == column profile

def violatedConstraint (profiles : List ResearchAgentLifecycleProfile)
    (profile : ResearchAgentLifecycleProfile) : Option LifecycleConstraint :=
  if profile.lifecycleStatus = .active ∧
      (profile.fastclawUserId = none ∨ profile.fastclawAgentId = none) then
    some .activeIdentifiers
  else if takenBy ResearchAgentLifecycleProfile.fastclawUserId profiles profile then
    some .fastclawUser
  else if takenBy ResearchAgentLifecycleProfile.fastclawAgentId profiles profile then
    some .fastclawAgent
  else
    none

def LifecycleStore.updateProfile (profileId : String)
    (statement : ResearchAgentLifecycleProfile → Option ResearchAgentLifecycleProfile) :
    Except LifecycleFault (LifecycleStore × Option ResearchAgentLifecycleProfile) :=
  match (s.readProfile profileId).bind statement with
  | none => .ok (s, none)
  | some profile =>
    match violatedConstraint s.profiles profile with
    | some violated => .error (.database violated)
    | none =>
      .ok
        ({ s with
            profiles := put ResearchAgentLifecycleProfile.profileId s.profiles profile },
          some profile)

structure ClaimInput where
  accountId : String
  desiredState : ResearchAgentDesiredState
  externalIdentity : String
  intent : ResearchAgentLifecycleIntent
  pendingStatus : ResearchAgentLifecycleStatus
  profileId : String
  requestId : String
  workspaceId : String

inductive LifecycleClaim
  | busy (profile : ResearchAgentLifecycleProfile)
  | deleted (profile : ResearchAgentLifecycleProfile)
  | inProgress (profile : ResearchAgentLifecycleProfile)
  | terminal (profile : ResearchAgentLifecycleProfile)
  | claimed
      (previousStatus : ResearchAgentLifecycleStatus)
      (profile : ResearchAgentLifecycleProfile)

def lifecycleLeaseSeconds : Nat :=
  45

def ClaimInput.initialProfile (input : ClaimInput) : ResearchAgentLifecycleProfile :=
  { profileId := input.profileId
    workspaceId := input.workspaceId
    accountId := input.accountId
    externalIdentity := input.externalIdentity }

def LifecycleStore.ensureProfile (input : ClaimInput) : Except LifecycleFault LifecycleStore :=
  if (lookup ResearchAgentLifecycleProfile.accountKey s.profiles
      (input.workspaceId, input.accountId)).isSome then
    .ok s
  else
    s.insertProfile input.initialProfile

/-- The claiming update of one row: it needs a live profile whose lease is free or expired. -/
def claimRow (now : Nat) (input : ClaimInput) (profile : ResearchAgentLifecycleProfile) :
    Option ResearchAgentLifecycleProfile :=
  if profile.lifecycleStatus ≠ .deleted ∧
      profile.lease.all (fun lease => lease.expiresAt ≤ now) then
    some
      { profile with
        desiredState := input.desiredState
        lifecycleStatus := input.pendingStatus
        lease := some
          { ownerRequestId := input.requestId
            expiresAt := now + lifecycleLeaseSeconds }
        lastRequestId := some input.requestId
        lastErrorCode := none
        attemptCount := profile.attemptCount + 1
        operationVersion := profile.operationVersion + 1 }
  else
    none

def claimFromRead (intent : ResearchAgentLifecycleIntent)
    (current : ResearchAgentLifecycleProfile) : Option LifecycleClaim :=
  if current.lifecycleStatus = terminalStatusForIntent intent then
    some (.terminal current)
  else if current.lifecycleStatus = .deleted then
    some (.deleted current)
  else
    none

def claimFromBusy (input : ClaimInput) (busy : ResearchAgentLifecycleProfile) : LifecycleClaim :=
  match claimFromRead input.intent busy with
  | some claim => claim
  | none =>
    if busy.lease.map LifecycleLease.ownerRequestId = some input.requestId then
      .inProgress busy
    else
      .busy busy

def LifecycleStore.claim (now : Nat) (input : ClaimInput) :
    Except LifecycleFault (LifecycleStore × LifecycleClaim) :=
  match s.ensureProfile input with
  | .error fault => .error fault
  | .ok ensured =>
    match ensured.readProfile input.profileId with
    | none => .error (.error "research Agent profile missing after ensure")
    | some current =>
      match claimFromRead input.intent current with
      | some claim => .ok (ensured, claim)
      | none =>
        match ensured.updateProfile input.profileId (claimRow now input) with
        | .error fault => .error fault
        | .ok (updated, some profile) =>
          .ok (updated, .claimed current.lifecycleStatus profile)
        | .ok (updated, none) =>
          match updated.readProfile input.profileId with
          | none => .error (.error "research Agent busy profile missing")
          | some busy => .ok (updated, claimFromBusy input busy)

structure EventWriteInput where
  errorCode : Option String
  fastclawAgentId : Option String
  fastclawUserId : Option String
  fromStatus : Option ResearchAgentLifecycleStatus
  intent : ResearchAgentLifecycleIntent
  outcome : ResearchAgentLifecycleOutcome
  profileId : String
  reason : String
  requestId : String

def LifecycleStore.readEvent (profileId requestId : String) : Option ResearchAgentLifecycleEvent :=
  lookup ResearchAgentLifecycleEvent.key s.events (profileId, requestId)

variable (digest : String → List UInt8)

def hashOptional :
    Option String → Except FastClawLifecycleError (Option String)
  | none => .ok none
  | some value => (hashLifecycleReference digest value).map some

def eventRow (input : EventWriteInput) (toStatus : ResearchAgentLifecycleStatus) :
    Except FastClawLifecycleError ResearchAgentLifecycleEvent :=
  match hashOptional digest input.fastclawUserId with
  | .error error => .error error
  | .ok userHash =>
    match hashOptional digest input.fastclawAgentId with
    | .error error => .error error
    | .ok agentHash =>
      .ok
        { profileId := input.profileId
          requestId := input.requestId
          intent := input.intent
          fromStatus := input.fromStatus
          toStatus := toStatus
          outcome := input.outcome
          errorCode := input.errorCode
          fastclawUserIdHash := userHash
          fastclawAgentIdHash := agentHash
          reason := input.reason }

variable (s : LifecycleStore)
variable (input : EventWriteInput)

/-- Write an event unless its request has one, and read back what is stored. -/
def LifecycleStore.writeEvent (toStatus : ResearchAgentLifecycleStatus) :
    Except LifecycleFault (LifecycleStore × ResearchAgentLifecycleEvent) :=
  match eventRow digest input toStatus with
  | .error error => .error (.fastClaw error)
  | .ok row =>
    let written :=
      { s with events := insertIfAbsent ResearchAgentLifecycleEvent.key s.events row }
    match written.readEvent input.profileId input.requestId with
    | none => .error (.error "research Agent lifecycle audit event missing after write")
    | some stored => .ok (written, stored)

def LifecycleStore.noteDenied (input : ClaimInput) (errorCode : String) :
    Except LifecycleFault LifecycleStore :=
  if (lookup ResearchAgentLifecycleProfile.accountKey s.profiles
      (input.workspaceId, input.accountId)).isSome then
    .ok
      { s with
        profiles :=
          modify s.profiles
            (fun profile => profile.accountKey = (input.workspaceId, input.accountId))
            (fun profile =>
              { profile with
                lastRequestId := some input.requestId
                lastErrorCode := some errorCode }) }
  else
    s.insertProfile
      { input.initialProfile with
        lastRequestId := some input.requestId
        lastErrorCode := some errorCode }

def LifecycleStore.recordDenied (input : ClaimInput) (errorCode reason : String) :
    Except LifecycleFault (LifecycleStore × ResearchAgentLifecycleEvent) :=
  match s.noteDenied input errorCode with
  | .error fault => .error fault
  | .ok noted =>
    match noted.readProfile input.profileId with
    | none => .error (.error "research Agent denied profile missing")
    | some profile =>
      noted.writeEvent digest
        { errorCode := some errorCode
          fastclawAgentId := none
          fastclawUserId := none
          fromStatus := none
          intent := input.intent
          outcome := .denied
          profileId := profile.profileId
          reason := reason
          requestId := input.requestId }
        profile.lifecycleStatus

def finalizeSuccessRow (requestId : String) (terminalStatus : ResearchAgentLifecycleStatus)
    (fastclawUserId fastclawAgentId : Option String) (profile : ResearchAgentLifecycleProfile) :
    Option ResearchAgentLifecycleProfile :=
  if profile.lease.map LifecycleLease.ownerRequestId = some requestId then
    some
      { profile with
        lifecycleStatus := terminalStatus
        fastclawUserId := fastclawUserId
        fastclawAgentId := fastclawAgentId
        lease := none
        lastErrorCode := none
        operationVersion := profile.operationVersion + 1 }
  else
    none

/-- The status a failed request leaves behind: blocked if it may be retried, else the one before. -/
def failureStatus (outcome : ResearchAgentLifecycleOutcome)
    (fromStatus : Option ResearchAgentLifecycleStatus) : ResearchAgentLifecycleStatus :=
  if outcome = .retryableFailure then
    .blockedRetryable
  else
    fromStatus.getD .disabled

/-- The failing update of one row: it needs the lease of the request and keeps known identifiers. -/
def finalizeFailureRow (profile : ResearchAgentLifecycleProfile) :
    Option ResearchAgentLifecycleProfile :=
  if profile.lease.map LifecycleLease.ownerRequestId = some input.requestId then
    some
      { profile with
        lifecycleStatus := failureStatus input.outcome input.fromStatus
        fastclawUserId := input.fastclawUserId.orElse fun _ => profile.fastclawUserId
        fastclawAgentId := input.fastclawAgentId.orElse fun _ => profile.fastclawAgentId
        lease := none
        lastErrorCode := some (input.errorCode.getD "RESEARCH_AGENT_LIFECYCLE_FAILED")
        operationVersion := profile.operationVersion + 1 }
  else
    none

/--
Finish a claimed request that was carried out.  When it throws, the open
transaction is left as it stands then, unless a constraint aborted it.
-/
def LifecycleStore.finalizeSuccess (terminalStatus : ResearchAgentLifecycleStatus) :
    Except (LifecycleFault × Option LifecycleStore)
      (LifecycleStore × ResearchAgentLifecycleEvent) :=
  match s.updateProfile input.profileId
      (finalizeSuccessRow input.requestId terminalStatus
        input.fastclawUserId input.fastclawAgentId) with
  | .error fault => .error (fault, none)
  | .ok (updated, none) =>
    .error (.error "research Agent success finalization lost its lease", some updated)
  | .ok (updated, some profile) =>
    match updated.writeEvent digest input profile.lifecycleStatus with
    | .error fault => .error (fault, some updated)
    | .ok written => .ok written

/-- Finish a claimed request that failed. -/
def LifecycleStore.finalizeFailure :
    Except LifecycleFault (LifecycleStore × ResearchAgentLifecycleEvent) :=
  match s.updateProfile input.profileId (finalizeFailureRow input) with
  | .error fault => .error fault
  | .ok (_, none) =>
    .error (.error "research Agent failure finalization lost its lease")
  | .ok (updated, some profile) =>
    updated.writeEvent digest input profile.lifecycleStatus

end Aiphabee.ResearchAgent
