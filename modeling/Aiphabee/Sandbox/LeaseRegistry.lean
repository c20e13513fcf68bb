import Aiphabee.Transition.LabelledRuns

/-!
# The sandbox lease registry

One durable object per lease stores at most one lease record.  This module
translates the request handler of that object: the identity check of a lease
against the stored record, and one transition per request path.

The handler answers every request inside one storage transaction, so a request
is one atomic step from the stored record to the next one.  Requests are
numbered by their path; a path the handler does not know is `unknown`.  The
bodies are the parsed JSON bodies: an absent field is `none`.
-/

namespace Aiphabee.LeaseRegistry

open Transition

inductive SandboxOwnership
  | run (runId : String)
  | session (sessionId : String)
deriving DecidableEq

structure SandboxBackendAccessGrant where
  layer : String
  owner : SandboxOwnership
  runMode : String
  runnerFamily : String
  runnerId : String
  runnerSelectionContractVersion : String
  source : String
  tenantId : String
  userId : String
deriving DecidableEq

/-- The identity a lease record is bound to. -/
structure SandboxLeaseBinding where
  layer : String
  owner : SandboxOwnership
  runMode : String
  runnerFamily : String
  runnerId : String
  runnerSelectionContractVersion : String
  source : String
  tenantId : String
  userId : String
deriving DecidableEq

structure SandboxLease where
  accessGrant : SandboxBackendAccessGrant
  backendId : String
  leaseId : String
deriving DecidableEq

inductive LeaseStatus
  | destroyed
  | destroying
  | killed
  | pending
  | ready
deriving DecidableEq

/-- The status an aborted destroy goes back to. -/
inductive ResumeStatus
  | killed
  | ready
deriving DecidableEq

def ResumeStatus.toStatus : ResumeStatus → LeaseStatus
  | .killed => .killed
  | .ready => .ready

inductive ProcessState
  | running
  | starting
deriving DecidableEq

structure SandboxLeaseRecord where
  backendId : String
  binding : SandboxLeaseBinding
  destroyResumeStatus : Option ResumeStatus
  killRequested : Bool
  leaseId : String
  processId : Option String
  processState : Option ProcessState
  providerId : String
  sessionId : String
  status : LeaseStatus
deriving DecidableEq

/-- The paths the handler tells apart. -/
inductive LeaseRegistryPath
  | reserve
  | authorize
  | ready
  | processBegin
  | processRunning
  | processClear
  | kill
  | killFinish
  | destroyBegin
  | destroyFinish
  | destroyAbort
  | remove
  | unknown
deriving DecidableEq

structure LeaseRegistryBody where
  lease : Option SandboxLease := none
  processId : Option String := none
  record : Option SandboxLeaseRecord := none

/-- A request to the registry; `post` says whether its method is `POST`. -/
structure LeaseRegistryRequest where
  post : Bool := true
  path : LeaseRegistryPath
  body : LeaseRegistryBody

/-- How much is known about a destroy that has just been reserved. -/
inductive DestroyRecovery
  | fresh
  | unknown
deriving DecidableEq

/-- The responses of the registry, one constructor per shape of the JSON body. -/
inductive LeaseRegistryResponse
  | methodNotAllowed
  | blocked
  | noContent
  | allowed (record : SandboxLeaseRecord)
  | processReserved (record : SandboxLeaseRecord)
  | processRunning (killRequested : Bool)
  | alreadyTerminal
  | killReserved (processId providerId : String)
  | alreadyDestroyed
  | destroyReserved (providerId : String) (recovery : DestroyRecovery)

/-- The fields of a grant that a record is bound to. -/
def snapshotSandboxGrant (grant : SandboxBackendAccessGrant) : SandboxLeaseBinding where
  layer := grant.layer
  owner := grant.owner
  runMode := grant.runMode
  runnerFamily := grant.runnerFamily
  runnerId := grant.runnerId
  runnerSelectionContractVersion := grant.runnerSelectionContractVersion
  source := grant.source
  tenantId := grant.tenantId
  userId := grant.userId

/-- Field by field comparison of two bindings. -/
def bindingMatches (left right : SandboxLeaseBinding) : Bool :=
  left.layer == right.layer &&
    left.runMode == right.runMode &&
    left.runnerFamily == right.runnerFamily &&
    left.runnerId == right.runnerId &&
    left.runnerSelectionContractVersion == right.runnerSelectionContractVersion &&
    left.source == right.source &&
    left.tenantId == right.tenantId &&
    left.userId == right.userId &&
    match left.owner, right.owner with
    | .run leftRun, .run rightRun => leftRun == rightRun
    | .session leftSession, .session rightSession => leftSession == rightSession
    | _, _ => false

variable (record : SandboxLeaseRecord)

def recordMatchesLease (lease : SandboxLease) : Bool :=
  record.backendId == lease.backendId &&
    record.leaseId == lease.leaseId &&
    bindingMatches record.binding (snapshotSandboxGrant lease.accessGrant)

def SandboxLeaseRecord.withoutProcess : SandboxLeaseRecord :=
  { record with processId := none, processState := none }

/--
The part of the handler behind the identity check: the stored record `current`
matches the lease of the request.  Every arm that does not apply falls through
to the final `blocked`.
-/
def leaseTransition (path : LeaseRegistryPath) (processId : Option String)
    (current : SandboxLeaseRecord) : Option SandboxLeaseRecord × LeaseRegistryResponse :=
  match path with
  | .authorize =>
    if current.status = .ready then
      (some current, .allowed current)
    else
      (some current, .blocked)
  | .ready =>
    if current.status = .pending then
      (some { current with status := .ready }, .noContent)
    else
      (some current, .blocked)
  | .processBegin =>
    match processId with
    | some id =>
      if current.status = .ready ∧ current.processId = none then
        let record :=
          { current with
            processId := some id
            processState := some .starting }
        (some record, .processReserved record)
      else
        (some current, .blocked)
    | none => (some current, .blocked)
  | .processRunning =>
    if current.status = .ready ∧ current.processId = processId ∧
        current.processState = some .starting then
      (some { current with processState := some .running },
        .processRunning current.killRequested)
    else
      (some current, .blocked)
  | .processClear =>
    if current.processId = processId then
      (some
        { current.withoutProcess with
          destroyResumeStatus :=
            if current.status = .destroying ∧ current.killRequested = true then
              some .killed
            else
              current.destroyResumeStatus
          status :=
            if current.status = .ready ∧ current.killRequested = true then
              .killed
            else
              current.status },
        .noContent)
    else
      (some current, .blocked)
  | .kill =>
    if current.status = .destroyed ∨ current.status = .killed then
      (some current, .alreadyTerminal)
    else if current.status = .ready then
      match current.processId, current.processState with
      | some id, some _ =>
        (some { current with killRequested := true },
          .killReserved id current.providerId)
      | _, _ => (some current, .blocked)
    else
      (some current, .blocked)
  | .killFinish =>
    if current.status = .ready ∧ current.killRequested = true then
      (some { current.withoutProcess with status := .killed }, .noContent)
    else
      (some current, .blocked)
  | .destroyBegin =>
    match current.status with
    | .destroyed => (some current, .alreadyDestroyed)
    | .destroying => (some current, .destroyReserved current.providerId .unknown)
    | .ready =>
      (some
        { current with
          destroyResumeStatus := some .ready
          status := .destroying },
        .destroyReserved current.providerId .fresh)
    | .killed =>
      (some
        { current with
          destroyResumeStatus := some .killed
          status := .destroying },
        .destroyReserved current.providerId .fresh)
    | .pending => (some current, .blocked)
  | .destroyFinish =>
    if current.status = .destroying then
      (some
        { current.withoutProcess with
          destroyResumeStatus := none
          killRequested := true
          status := .destroyed },
        .noContent)
    else
      (some current, .blocked)
  | .destroyAbort =>
    match current.destroyResumeStatus with
    | some resume =>
      if current.status = .destroying then
        (some
          { current with
            destroyResumeStatus := none
            status := resume.toStatus },
          .noContent)
      else
        (some current, .blocked)
    | none => (some current, .blocked)
  | .remove =>
    if current.status = .pending then
      (none, .noContent)
    else
      (some current, .blocked)
  | .reserve => (some current, .blocked)
  | .unknown => (some current, .blocked)

def handleSandboxLeaseRegistryRequest (storage : Option SandboxLeaseRecord)
    (request : LeaseRegistryRequest) : Option SandboxLeaseRecord × LeaseRegistryResponse :=
  if request.post = false then
    (storage, .methodNotAllowed)
  else if request.path = .reserve then
    match storage, request.body.record with
    | none, some record => (some record, .noContent)
    | _, _ => (storage, .blocked)
  else
    match request.body.lease, storage with
    | some lease, some current =>
      if recordMatchesLease current lease = true then
        leaseTransition request.path request.body.processId current
      else
        (storage, .blocked)
    | _, _ => (storage, .blocked)

/-- A handled request together with its response, as one label of a run. -/
abbrev LeaseRegistryExchange :=
  LeaseRegistryRequest × LeaseRegistryResponse

abbrev registryStep :
    Option SandboxLeaseRecord → LeaseRegistryExchange →
      Option SandboxLeaseRecord → Prop :=
  Answers handleSandboxLeaseRegistryRequest

def SandboxLeaseRecord.identity :
    String × String × String × String × SandboxLeaseBinding :=
  (record.backendId, record.leaseId, record.providerId, record.sessionId, record.binding)

@[simp] theorem withoutProcess_killRequested :
    record.withoutProcess.killRequested = record.killRequested := by
  rfl

@[simp] theorem withoutProcess_processId :
    record.withoutProcess.processId = none := by
  rfl

@[simp] theorem withoutProcess_processState :
    record.withoutProcess.processState = none := by
  rfl

end Aiphabee.LeaseRegistry
