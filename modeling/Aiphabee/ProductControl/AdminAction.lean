import Aiphabee.ResearchAgent.LifecycleService
import Aiphabee.Text.Checks

/-!
# Admin actions on a research agent

An admin retries, disables or deletes the agent of a member, or kills one of
its runs.  The action is recorded under its request before the lifecycle
service or the run killer is called, and its outcome is recorded after.
-/

namespace Aiphabee.ProductControl

open ResearchAgent
open KeyedTable

/-! The checks of identifiers and of free texts, before anything is read or written. -/
section ControlIds

/-- The characters of the pattern `[A-Za-z0-9._:-]`. -/
def isIdCharacter (c : Char) : Bool :=
  c.isAlphanum || c = '.' || c = '_' || c = ':' || c = '-'

variable (value : String)

def validId : Bool :=
  1 ≤ value.toList.length && value.toList.length ≤ 200 && value.toList.all isIdCharacter &&
    value != "." && value != ".."

def validText : Bool :=
  0 < JsString.utf16Length value && JsString.utf16Length value ≤ 500 &&
    JsString.trim value = value && !JsString.hasControlCharacter value

/-- A lower-case hexadecimal digit. -/
def isHexDigit (c : Char) : Bool :=
  c.isDigit || ('a' ≤ c && c ≤ 'f')

def isHexGroup (length : Nat) (group : List Char) : Bool :=
  group.length = length && group.all isHexDigit

/-- The text `better-auth:`. -/
def authSubjectPrefix : List Char :=
  ['b', 'e', 't', 't', 'e', 'r', '-', 'a', 'u', 't', 'h', ':']

/--
The pattern `^better-auth:` of a UUID in lower case: its third group begins with
its version, one to eight, its fourth with one of `8`, `9`, `a` and `b`.
-/
def isLowerAuthSubject : Bool :=
  authSubjectPrefix.isPrefixOf value.toList &&
    match (value.toList.drop 12).splitOn '-' with
    | [first, second, third, fourth, fifth] =>
      isHexGroup 8 first && isHexGroup 4 second && isHexGroup 4 third &&
        isHexGroup 4 fourth && isHexGroup 12 fifth &&
        third.head?.any (fun c => '1' ≤ c && c ≤ '8') &&
        fourth.head?.any (fun c => ['8', '9', 'a', 'b'].contains c)
    | _ => false

/-- The service does not tell upper case from lower case here. -/
def validAuthSubject : Bool :=
  isLowerAuthSubject (String.ofList (value.toList.map Char.toLower))

end ControlIds

inductive ResearchAgentAdminAction
  | delete
  | disable
  | kill
  | retry
deriving DecidableEq

structure ResearchAgentAdminActionInput where
  action : ResearchAgentAdminAction
  actorAuthSubject : String
  reason : String
  requestId : String
  runId : Option String
  targetAccountId : String
  workspaceId : String

inductive ResearchAgentProductControlErrorCode
  | ADMIN_ACTION_INVALID
  | ADMIN_ACTION_REPLAY_MISMATCH
  | ADMIN_TARGET_INVALID
  | ADMIN_UNAUTHORIZED
  | AUTH_SUBJECT_INVALID
  | USAGE_INPUT_INVALID
  | USAGE_REPLAY_MISMATCH
deriving DecidableEq

inductive ProductControlError
  | input (code : ResearchAgentProductControlErrorCode) (message : String)
  | other (message : String)
  | database
deriving DecidableEq

@[irreducible] def validateAdminInput (input : ResearchAgentAdminActionInput) :
    Except ProductControlError Unit :=
  if !validAuthSubject input.actorAuthSubject || !validId input.workspaceId ||
      !validId input.targetAccountId || !validId input.requestId || !validText input.reason then
    .error
      (.input .ADMIN_ACTION_INVALID
        "admin action actor, target, request, workspace or reason is invalid")
  else if (input.action = .kill ∧ input.runId.all (!validId ·)) ∨
      (input.action ≠ .kill ∧ input.runId.isSome) then
    .error
      (.input .ADMIN_ACTION_INVALID
        "kill requires one run_id and lifecycle actions must not include run_id")
  else
    .ok ()

inductive ResearchAgentAdminEventStatus
  | denied
  | failed
  | started
  | succeeded
deriving DecidableEq

structure ResearchAgentAdminEvent where
  action : ResearchAgentAdminAction
  actorAccountId : String
  errorCode : Option String
  reason : String
  requestId : String
  runId : Option String
  status : ResearchAgentAdminEventStatus
  targetAccountId : String
  workspaceId : String

def ResearchAgentAdminEvent.key (event : ResearchAgentAdminEvent) : String × String :=
  (event.workspaceId, event.requestId)

inductive MembershipRole
  | owner
  | admin
  | member
  | viewer
  | billing
deriving DecidableEq

inductive MembershipStatus
  | active
  | suspended
  | removed
deriving DecidableEq

structure WorkspaceMembership where
  accountId : String
  workspaceId : String
  role : MembershipRole
  status : MembershipStatus
  validFrom : Int
  validTo : Option Int

structure Account where
  accountId : String
  authSubject : Option String
  status : PlatformStatus

/-- The tables that an admin action reads and writes, and the time. -/
structure ControlStore where
  now : Int
  accounts : List Account
  memberships : List WorkspaceMembership
  profiles : List ResearchAgentLifecycleProfile
  adminEvents : List ResearchAgentAdminEvent

def WorkspaceMembership.isCurrent (membership : WorkspaceMembership) (now : Int) : Bool :=
  membership.status = .active && membership.validFrom ≤ now &&
    membership.validTo.all (now < ·)

variable (s : ControlStore)

/-- `platform.resolve_active_account_id_by_auth_subject`. -/
def ControlStore.resolveActiveAccountId (authSubject : String) :
    Option String :=
  if isLowerAuthSubject authSubject then
    (s.accounts.find? fun account =>
      account.authSubject = some authSubject && account.status = .active).map (·.accountId)
  else
    none

inductive AdminRole
  | admin
  | owner

structure ResearchAgentAdminAuthority where
  actorAccountId : String
  role : AdminRole
  workspaceId : String

def ControlStore.readAdminAuthority (actorAuthSubject workspaceId : String) :
    Option ResearchAgentAdminAuthority :=
  match s.resolveActiveAccountId actorAuthSubject with
  | none => none
  | some accountId =>
    let rows := s.memberships.filter fun membership =>
      membership.accountId = accountId && membership.workspaceId = workspaceId &&
        (membership.role = .owner || membership.role = .admin) && membership.isCurrent s.now
    if rows = [] then
      none
    else
      some
        { actorAccountId := accountId
          role := if rows.any (·.role = .owner) then .owner else .admin
          workspaceId := workspaceId }

structure ResearchAgentAdminTarget where
  accountExists : Bool
  membershipActive : Bool
  profileExists : Bool

def ControlStore.readAdminTarget (workspaceId targetAccountId : String) :
    ResearchAgentAdminTarget where
  accountExists := s.accounts.any (·.accountId = targetAccountId)
  membershipActive := s.memberships.any fun membership =>
    membership.workspaceId = workspaceId && membership.accountId = targetAccountId &&
      membership.isCurrent s.now
  profileExists := s.profiles.any fun profile =>
    profile.workspaceId = workspaceId && profile.accountId = targetAccountId &&
      profile.lifecycleStatus != .deleted

def ControlStore.readAdminEvent (workspaceId requestId : String) : Option ResearchAgentAdminEvent :=
  lookup ResearchAgentAdminEvent.key s.adminEvents (workspaceId, requestId)

def startedEvent (authority : ResearchAgentAdminAuthority) (input : ResearchAgentAdminActionInput) :
    ResearchAgentAdminEvent :=
  { action := input.action
    actorAccountId := authority.actorAccountId
    errorCode := none
    reason := input.reason
    requestId := input.requestId
    runId := input.runId
    status := .started
    targetAccountId := input.targetAccountId
    workspaceId := input.workspaceId }

def isEventOf (authority : ResearchAgentAdminAuthority) (input : ResearchAgentAdminActionInput)
    (event : ResearchAgentAdminEvent) : Prop :=
  event.actorAccountId = authority.actorAccountId ∧
    event.targetAccountId = input.targetAccountId ∧ event.action = input.action ∧
    event.runId = input.runId ∧ event.reason = input.reason

instance (authority : ResearchAgentAdminAuthority) (input : ResearchAgentAdminActionInput)
    (event : ResearchAgentAdminEvent) : Decidable (isEventOf authority input event) :=
  inferInstanceAs (Decidable (_ ∧ _ ∧ _ ∧ _ ∧ _))

def ControlStore.beginAdminAction (authority : ResearchAgentAdminAuthority)
    (input : ResearchAgentAdminActionInput) :
    Except ProductControlError (ResearchAgentAdminEvent × Bool) × ControlStore :=
  let begun :=
    { s with
      adminEvents :=
        insertIfAbsent ResearchAgentAdminEvent.key s.adminEvents
          (startedEvent authority input) }
  match begun.readAdminEvent input.workspaceId input.requestId with
  | none => (.error (.other "admin event missing after begin"), begun)
  | some event =>
    if isEventOf authority input event then
      (.ok (event, event.status ≠ .started), begun)
    else
      (.error
        (.input .ADMIN_ACTION_REPLAY_MISMATCH
          "admin request ID is already bound to a different action"), begun)

structure AdminOutcome where
  status : ResearchAgentAdminEventStatus
  errorCode : Option String
  retryable : Bool

def ResearchAgentAdminEvent.withOutcome (event : ResearchAgentAdminEvent) (outcome : AdminOutcome) :
    ResearchAgentAdminEvent :=
  { event with status := outcome.status, errorCode := outcome.errorCode }

def ControlStore.recordOutcome (workspaceId requestId : String) (outcome : AdminOutcome) :
    ControlStore :=
  { s with
    adminEvents :=
      modify s.adminEvents
        (fun event => event.key = (workspaceId, requestId) ∧ event.status = .started)
        (·.withOutcome outcome) }

def ControlStore.finalizeAdminAction (workspaceId requestId : String) (outcome : AdminOutcome) :
    Except ProductControlError ResearchAgentAdminEvent × ControlStore :=
  let finalized := s.recordOutcome workspaceId requestId outcome
  match finalized.readAdminEvent workspaceId requestId with
  | none => (.error (.other "admin event missing after finalize"), finalized)
  | some event => (.ok event, finalized)

structure ResearchAgentRunKill where
  reason : String
  requestId : String
  runId : String
  tenantId : String
  userId : String

inductive AdminCall
  | kill (request : ResearchAgentRunKill)
  | lifecycle (request : ResearchAgentLifecycleRequest)

/-- How a call ended. -/
inductive AdminAnswer
  | killed (alreadyTerminal : Bool)
  | lifecycle (result : ResearchAgentLifecycleResult)
  | thrown
deriving DecidableEq

/--
The services that an action calls.  They give no answer where they throw; they
and other requests may change the store meanwhile.
-/
structure ControlDependencies where
  kill : ControlStore → ResearchAgentRunKill → Option Bool × ControlStore
  lifecycle : ControlStore → ResearchAgentLifecycleRequest →
    Option ResearchAgentLifecycleResult × ControlStore

structure ResearchAgentAdminActionResult where
  action : ResearchAgentAdminAction
  errorCode : Option String
  requestId : String
  replayed : Bool
  retryable : Bool
  status : ResearchAgentAdminEventStatus
  targetAccountId : String
  workspaceId : String
deriving DecidableEq

def adminResult (event : ResearchAgentAdminEvent) (replayed retryable : Bool) :
    ResearchAgentAdminActionResult :=
  { action := event.action
    errorCode := event.errorCode
    requestId := event.requestId
    replayed := replayed
    retryable := retryable
    status := if event.status = .started then .failed else event.status
    targetAccountId := event.targetAccountId
    workspaceId := event.workspaceId }

def performAdminAction (dependencies : ControlDependencies) (input : ResearchAgentAdminActionInput)
    (s : ControlStore) : AdminCall × AdminAnswer × ControlStore :=
  let lifecycle (intent : ResearchAgentLifecycleIntent) :=
    let request : ResearchAgentLifecycleRequest :=
      { accountId := input.targetAccountId
        intent := intent
        reason := input.reason
        requestId := input.requestId
        workspaceId := input.workspaceId }
    let reply := dependencies.lifecycle s request
    (AdminCall.lifecycle request, (reply.1.map AdminAnswer.lifecycle).getD .thrown, reply.2)
  match input.action with
  | .kill =>
    -- A kill that is validated has a run.
    let request : ResearchAgentRunKill :=
      { reason := input.reason
        requestId := input.requestId
        runId := input.runId.getD ""
        tenantId := input.workspaceId
        userId := input.targetAccountId }
    let reply := dependencies.kill s request
    (.kill request, (reply.1.map AdminAnswer.killed).getD .thrown, reply.2)
  | .retry => lifecycle .activate
  | .disable => lifecycle .disable
  | .delete => lifecycle .delete

def outcomeOf : AdminAnswer → AdminOutcome
  | .killed _ => { status := .succeeded, errorCode := none, retryable := false }
  | .lifecycle result =>
    if result.outcome ≠ .succeeded then
      { status := if result.outcome = .denied then .denied else .failed
        errorCode := some (result.errorCode.getD "ADMIN_LIFECYCLE_FAILED")
        retryable := result.retryable }
    else
      { status := .succeeded, errorCode := none, retryable := false }
  | .thrown =>
    { status := .failed
      errorCode := some "ADMIN_DEPENDENCY_RETRYABLE"
      retryable := true }

def targetAllowed (action : ResearchAgentAdminAction) (target : ResearchAgentAdminTarget) : Bool :=
  target.accountExists &&
    (if action = .retry then target.membershipActive else target.profileExists)

structure AdminExecution where
  result : Except ProductControlError ResearchAgentAdminActionResult
  store : ControlStore
  calls : List (AdminCall × AdminAnswer) := []
  recorded : Bool := false

def authorizeAdminAction (input : ResearchAgentAdminActionInput) (s : ControlStore) :
    Except ProductControlError ResearchAgentAdminAuthority := do
  validateAdminInput input
  let authority ← Checks.require (s.readAdminAuthority input.actorAuthSubject input.workspaceId)
    (.input .ADMIN_UNAUTHORIZED "current owner or admin workspace membership is required")
  Checks.ensure
    (targetAllowed input.action (s.readAdminTarget input.workspaceId input.targetAccountId))
    (.input .ADMIN_TARGET_INVALID
      "admin target must be a current member for retry or own an exact workspace profile for control")
  pure authority

def executeBegun (dependencies : ControlDependencies) (input : ResearchAgentAdminActionInput)
    (event : ResearchAgentAdminEvent) (replayed : Bool) (begun : ControlStore) : AdminExecution :=
  if event.status ≠ .started then
    { result := .ok
        (adminResult event true
          (event.status = .failed ∧ event.errorCode = some "ADMIN_DEPENDENCY_RETRYABLE"))
      store := begun }
  else
    let (call, answer, performed) := performAdminAction dependencies input begun
    let finalized := performed.finalizeAdminAction input.workspaceId input.requestId
      (outcomeOf answer)
    { result := finalized.1.map fun event =>
        adminResult event replayed (outcomeOf answer).retryable
      store := finalized.2
      calls := [(call, answer)]
      recorded :=
        (performed.readAdminEvent input.workspaceId input.requestId).any
          (·.status = .started) }

def executeAdminAction (dependencies : ControlDependencies) (input : ResearchAgentAdminActionInput)
    (s : ControlStore) : AdminExecution :=
  match authorizeAdminAction input s with
  | .error error => { result := .error error, store := s }
  | .ok authority =>
    let begun := s.beginAdminAction authority input
    match begun.1 with
    | .error error => { result := .error error, store := begun.2 }
    | .ok begin => executeBegun dependencies input begin.1 begin.2 begun.2

end Aiphabee.ProductControl
