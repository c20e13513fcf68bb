import Aiphabee.Sandbox.RunGuard

/-!
# The sandbox bridge

The bridge handler authorizes a request with a run token, claims its operation
from the run guard, calls the provider sandbox, and for a destroy finishes or
aborts the destroy at the guard.  Requests of one run interleave at every await.

A world holds the stored guard state of the run, the guard requests that are out, the
state of every request, and the fact that the provider has carried out a destroy.  A
guard request is served once or never, with or without an answer, and also after its
client has given up on it; a client that gives up throws.  `/record-exec` reads the
stored state before its body has arrived, and writes it back afterwards.  A provider
destroy that outlives its timer still settles later.  Token verification, hashing and
path resolution are functions of other packages and stay parameters.

The destroy branch of the handler catches the provider call and the guard's
`finish-destroy` together and then aborts the destroy, whichever of them failed; and an
execution receipt writes back a state that may be older than the destroy.
`bridge_destroy_final_iff` says exactly when a destroyed run stays closed.
-/

namespace Aiphabee.Bridge

open Transition
open RunGuard

inductive BridgeRoute
  | create
  | destroy (id : String)
  | exec (id : String)
  | files (id : String)
  | kill (id : String)
  | running (id : String)
  | file (id filePath : String)

inductive SandboxRunTokenErrorCode
  | invalidClaims
  | invalidScope
  | invalidSecret
  | invalidSignature
  | invalidToken
  | tokenExpired
  | tokenNotYetValid
deriving DecidableEq

def SandboxRunTokenErrorCode.text : SandboxRunTokenErrorCode → String
  | .invalidClaims => "INVALID_CLAIMS"
  | .invalidScope => "INVALID_SCOPE"
  | .invalidSecret => "INVALID_SECRET"
  | .invalidSignature => "INVALID_SIGNATURE"
  | .invalidToken => "INVALID_TOKEN"
  | .tokenExpired => "TOKEN_EXPIRED"
  | .tokenNotYetValid => "TOKEN_NOT_YET_VALID"

def guardCodeText : RunGuardCode → String
  | .callBudgetExhausted => "CALL_BUDGET_EXHAUSTED"
  | .destroyInProgress => "DESTROY_IN_PROGRESS"
  | .tokenStateMismatch => "TOKEN_STATE_MISMATCH"

inductive JsonField (α : Type)
  | absent
  | value (a : α)
  | other

/-- The fields of an exec body; an element of `argv` that is no string is `none`. -/
structure ExecInput where
  argv : JsonField (List (Option String))
  cwd : JsonField String
  timeoutMs : JsonField Int

/-- The body of a request as the handler reads it: too large, or a text and its JSON value. -/
inductive BridgeBody
  | tooLarge
  | invalidJson (content : String)
  | null (content : String)
  | json (content : String) (input : ExecInput)

/-- What an execution returns. -/
structure SandboxExecResult where
  exitCode : Int
  stderr : String
  stdout : String
deriving DecidableEq

/-- A request; `verifyToken` is the outcome of verifying its bearer token for a scope. -/
structure BridgeRequest where
  method : String
  pathname : String
  verifyToken : SandboxRunScope → Except SandboxRunTokenErrorCode SandboxRunTokenClaims
  body : BridgeBody := .invalidJson ""
  pathParameter : Option String := none

inductive BridgeResponse
  | healthy
  | error (status : Nat) (code message : String)
  | created (id providerInstanceHash : String)
  | running (execReceipt : Option SandboxExecReceipt) (running terminal : Bool)
  | noContent
  | status (status : String)
  | execSse (result : SandboxExecResult)
  | content (content : String)
  | listing (files : String)
deriving DecidableEq

/-- What the handler takes from other packages. -/
structure BridgeDependencies where
  decodeURIComponent : String → Option String
  deriveSandboxId : SandboxRunTokenClaims → String
  resolveWorkspacePath : String → Option String
  shellQuote : String → String
  sha256Hex : String → String
  jsonArgv : List String → String

/-- `MAX_BODY_BYTES` -/
def maxBodyBytes : Nat := 1048576

/-- `MAX_COMMAND_BYTES` -/
def maxCommandBytes : Nat := 65536

/-- `MAX_EXEC_TIMEOUT_MS` -/
def maxExecTimeoutMs : Int := 600000

variable (deps : BridgeDependencies)

def route (pathname : String) : Option BridgeRoute :=
  if pathname = "/v1/sandbox" then
    some .create
  else if "/v1/sandbox/".toList.isPrefixOf pathname.toList = true then
    let rest := pathname.toList.drop 12
    let id := rest.takeWhile (· != '/')
    let suffix := String.ofList (rest.drop (id.length + 1))
    if id = [] then
      none
    else if suffix = "" then
      some (.destroy (String.ofList id))
    else if suffix = "exec" then
      some (.exec (String.ofList id))
    else if suffix = "kill" then
      some (.kill (String.ofList id))
    else if suffix = "files" then
      some (.files (String.ofList id))
    else if suffix = "running" then
      some (.running (String.ofList id))
    else if "file/".toList.isPrefixOf suffix.toList = true then
      (deps.decodeURIComponent (String.ofList (suffix.toList.drop 5))).map
        (.file (String.ofList id))
    else
      none
  else
    none

def methodAllowed (matched : BridgeRoute) (method : String) : Bool :=
  match matched with
  | .create | .exec _ | .kill _ => method == "POST"
  | .destroy _ => method == "DELETE"
  | .file _ _ => method == "GET" || method == "PUT"
  | .files _ | .running _ => method == "GET"

def requiredScope : BridgeRoute → SandboxRunScope
  | .create => .create
  | .destroy _ | .kill _ => .destroy
  | .exec _ => .exec
  | .running _ => .status
  | .file _ _ | .files _ => .file

def operation : BridgeRoute → RunGuardOperation
  | .create => .create
  | .destroy _ | .kill _ => .destroy
  | .exec _ => .exec
  | .running _ => .status
  | .file _ _ | .files _ => .file

def BridgeRoute.id? : BridgeRoute → Option String
  | .create => none
  | .destroy id | .exec id | .files id | .kill id | .running id | .file id _ => some id

def tokenErrorResponse (code : SandboxRunTokenErrorCode) : BridgeResponse :=
  .error (if code = .invalidScope then 403 else 401) code.text
    "sandbox authorization rejected"

def operationFailed : BridgeResponse :=
  .error 502 "SANDBOX_OPERATION_FAILED" "sandbox operation failed"

def bodyTooLarge : BridgeResponse :=
  .error 413 "BODY_TOO_LARGE" "request body exceeds maximum size"

def outputTooLarge : BridgeResponse :=
  .error 502 "OUTPUT_TOO_LARGE" "sandbox output exceeds maximum size"

def claimRejected (code : Option RunGuardCode) : BridgeResponse :=
  .error (if code = some .callBudgetExhausted then 429 else 409)
    ((code.map guardCodeText).getD "RUN_GUARD_REJECTED") "run guard rejected operation"

/-- What a request that passed authorization goes on with. -/
structure AuthorizedRequest where
  matched : BridgeRoute
  claims : SandboxRunTokenClaims

/-- The part of the handler before the guard is asked. -/
def authorizeRequest (request : BridgeRequest) :
    Except BridgeResponse AuthorizedRequest :=
  if request.method = "GET" ∧ request.pathname = "/health" then
    .error .healthy
  else
    match route deps request.pathname with
    | none => .error (.error 404 "NOT_FOUND" "route not found")
    | some matched =>
      if methodAllowed matched request.method = false then
        .error (.error 405 "METHOD_NOT_ALLOWED" "method is not allowed for this route")
      else
        match request.verifyToken (requiredScope matched) with
        | .error code => .error (tokenErrorResponse code)
        | .ok claims =>
          if matched.id?.all (· == deps.deriveSandboxId claims) = true then
            .ok { matched := matched, claims := claims }
          else
            .error
              (.error 403 "SANDBOX_ID_MISMATCH"
                "sandbox id is not authorized for this run")

/-- The command of an exec body, its working directory and its argument vector. -/
structure ExecCommand where
  argv : List String
  command : String
  cwd : String
  timeoutMs : Int
deriving DecidableEq

/-- The strings of an `argv` of 1 to 32 strings. -/
def validArgv (argv : JsonField (List (Option String))) : Option (List String) :=
  match argv with
  | .value parts =>
    if parts.length = 0 ∨ 32 < parts.length then none else parts.mapM id
  | _ => none

def validateExec (body : BridgeBody) :
    Except BridgeResponse ExecCommand :=
  match body with
  | .tooLarge => .error bodyTooLarge
  | .invalidJson _ => .error (.error 400 "INVALID_JSON" "request body is invalid JSON")
  | .null _ => .error operationFailed
  | .json _ input =>
    match validArgv input.argv with
    | none =>
      .error (.error 400 "INVALID_ARGV" "argv must be a non-empty string array")
    | some argv =>
      let command := String.intercalate " " (argv.map deps.shellQuote)
      if maxCommandBytes < command.utf8ByteSize then
        .error (.error 413 "COMMAND_TOO_LARGE" "command exceeds maximum size")
      else
        match input.timeoutMs with
        | .value timeoutMs =>
          if timeoutMs < 1 ∨ maxExecTimeoutMs < timeoutMs then
            .error
              (.error 400 "INVALID_TIMEOUT" "timeout_ms must be between 1 and 600000")
          else
            let resolved :=
              match input.cwd with
              | .absent => deps.resolveWorkspacePath "/workspace"
              | .value cwd => deps.resolveWorkspacePath cwd
              | .other => none
            match resolved with
            | some cwd =>
              .ok
                { argv := argv, command := command, cwd := cwd,
                  timeoutMs := timeoutMs }
            | none =>
              .error (.error 400 "INVALID_CWD" "cwd must remain under /workspace")
        | _ =>
          .error
            (.error 400 "INVALID_TIMEOUT" "timeout_ms must be between 1 and 600000")

/-- The text of a body within the limit. -/
def BridgeBody.content? : BridgeBody → Option String
  | .tooLarge => none
  | .invalidJson content | .null content | .json content _ => some content

/-- Where a request that passed authorization stands. -/
inductive BridgePhase
  | claiming
  | probing
  | hashing
  | checking (execReceipt : Option SandboxExecReceipt)
  | destroying
  | finishing
  | aborting
  | executing (command : ExecCommand)
  | recording (result : SandboxExecResult) (receipt : SandboxExecReceipt)
  | reading (path : String)
  | writing (path content : String)
  | listing (path : String)
  | responded (response : BridgeResponse)
deriving DecidableEq

def afterClaim (request : BridgeRequest) (matched : BridgeRoute) (decision : RunGuardDecision) :
    BridgePhase :=
  if decision.allowed = false then
    .responded (claimRejected decision.code)
  else
    match matched with
    | .create => .probing
    | .running _ =>
      if decision.terminal = true then
        .responded (.running decision.execReceipt false true)
      else
        .checking decision.execReceipt
    | .destroy _ =>
      if decision.terminal = true then .responded .noContent else .destroying
    | .kill _ =>
      if decision.terminal = true then
        .responded (.status "already_terminal")
      else
        .destroying
    | .exec _ =>
      match validateExec deps request.body with
      | .error response => .responded response
      | .ok command => .executing command
    | .file _ filePath =>
      match deps.resolveWorkspacePath ("/" ++ filePath) with
      | none => .responded (.error 400 "INVALID_PATH" "path must remain under /workspace")
      | some path =>
        if request.method = "GET" then
          .reading path
        else if request.method = "PUT" then
          match request.body.content? with
          | none => .responded bodyTooLarge
          | some content => .writing path content
        else
          .responded (.error 405 "METHOD_NOT_ALLOWED" "GET or PUT required")
    | .files _ =>
      match deps.resolveWorkspacePath (request.pathParameter.getD "/workspace") with
      | none => .responded (.error 400 "INVALID_PATH" "path must remain under /workspace")
      | some path => .listing path

/-- What the provider may answer to the calls other than its destroy. -/
inductive ProviderReply
  | running (ready : Bool)
  | instanceHash (hash : String)
  | executed (result : SandboxExecResult)
  | read (content : String)
  | wrote
  | listed (files : String)
  | rejected

/-- How a request goes on after the provider answered, if it waits for that answer. -/
def afterProvider (claims : SandboxRunTokenClaims) (phase : BridgePhase) (reply : ProviderReply) :
    Option BridgePhase :=
  match phase, reply with
  | .probing, .running true => some .hashing
  | .probing, .running false =>
    some
      (.responded
        (.error 502 "SANDBOX_START_FAILED" "sandbox failed its readiness probe"))
  | .hashing, .instanceHash hash =>
    some (.responded (.created (deps.deriveSandboxId claims) hash))
  | .checking execReceipt, .running running =>
    some (.responded (.running execReceipt running false))
  | .executing command, .executed result =>
    if maxBodyBytes < (result.stdout ++ result.stderr).utf8ByteSize then
      some (.responded outputTooLarge)
    else
      some
        (.recording result
          { argvSha256 := deps.sha256Hex (deps.jsonArgv command.argv)
            exitCode := result.exitCode
            stdoutSha256 := deps.sha256Hex result.stdout })
  | .reading _, .read content =>
    if maxBodyBytes < content.utf8ByteSize then
      some (.responded outputTooLarge)
    else
      some (.responded (.content content))
  | .writing _ _, .wrote => some (.responded .noContent)
  | .listing _, .listed files =>
    if maxBodyBytes < files.utf8ByteSize then
      some (.responded outputTooLarge)
    else
      some (.responded (.listing files))
  | .probing, .rejected | .hashing, .rejected | .checking _, .rejected
  | .executing _, .rejected | .reading _, .rejected | .writing _ _, .rejected
  | .listing _, .rejected => some (.responded operationFailed)
  | _, _ => none

def destroyDone : BridgeRoute → BridgeResponse
  | .kill _ => .status "killed"
  | _ => .noContent

def destroyFailed : BridgeRoute → BridgeResponse
  | .kill _ => .error 502 "SANDBOX_KILL_FAILED" "sandbox kill failed"
  | _ => .error 502 "SANDBOX_DESTROY_FAILED" "sandbox destroy failed"

/-- A request that passed authorization; `destroyPending` outlives the timer of the destroy. -/
structure BridgeCall where
  request : BridgeRequest
  authorized : AuthorizedRequest
  phase : BridgePhase := .claiming
  destroyPending : Bool := false

/-- A request number: not received, refused before any claim, or admitted. -/
inductive CallState
  | idle
  | refused (response : BridgeResponse)
  | admitted (call : BridgeCall)

/-- A request to the guard that is not served yet; `read` is what `/record-exec` has read. -/
structure GuardJob where
  call : Nat
  request : RunGuardRequest
  read : Option RunGuardState := none

structure BridgeWorld where
  guard : Option RunGuardState
  jobs : List GuardJob
  calls : Nat → CallState
  providerDestroyed : Bool

/-- The world before the first request of a run. -/
def initialWorld : BridgeWorld where
  guard := none
  jobs := []
  calls := fun _ => .idle
  providerDestroyed := false

/-- What may happen next; `delivered` says whether a guard request that is served is answered. -/
inductive BridgeEvent
  | receive (call : Nat) (request : BridgeRequest)
  | guardReads (job : Nat)
  | guardServes (job : Nat) (delivered : Bool)
  | guardFails (call : Nat)
  | provider (call : Nat) (reply : ProviderReply)
  | destroySucceeds (call : Nat)
  | destroyFails (call : Nat)
  | destroyTimesOut (call : Nat)

/-- The guard request that a request waits for. -/
def BridgeCall.guardRequest (call : BridgeCall) : Option RunGuardRequest :=
  match call.phase with
  | .claiming => some (.claim call.authorized.claims (operation call.authorized.matched))
  | .finishing => some .finishDestroy
  | .aborting => some .abortDestroy
  | .recording _ receipt => some (.recordExec call.authorized.claims (some receipt))
  | _ => none

/-- How a request goes on after the guard answered; the guard client throws without an answer. -/
def afterGuard (call : BridgeCall) (response : Option RunGuardResponse) : BridgePhase :=
  match call.phase, response with
  | .claiming, some (.decision decision) =>
    afterClaim deps call.request call.authorized.matched decision
  | .finishing, some .noContent => .responded (destroyDone call.authorized.matched)
  -- The catch of the destroy branch aborts although the sandbox is gone.
  | .finishing, _ => .aborting
  | .aborting, some .noContent => .responded (destroyFailed call.authorized.matched)
  | .recording result _, some .noContent => .responded (.execSse result)
  | _, _ => .responded operationFailed

/-- What a request to the guard stores and answers; a state that was read is not read again. -/
def GuardJob.serve (job : GuardJob) (storage : Option RunGuardState) :
    Option RunGuardState × RunGuardResponse :=
  match job.request, job.read with
  | .recordExec claims receipt, some state =>
    ((recordExec state claims receipt).1.or storage, (recordExec state claims receipt).2)
  | request, _ => handleRunGuardRequest storage request

def BridgeWorld.call? (w : BridgeWorld) (i : Nat) : Option BridgeCall :=
  match w.calls i with
  | .admitted call => some call
  | _ => none

def BridgeWorld.setCall (w : BridgeWorld) (i : Nat) (state : CallState) : BridgeWorld :=
  { w with calls := Function.update w.calls i state }

/-- A request goes on, and sends the guard request that it now waits for. -/
def BridgeWorld.setAdmitted (w : BridgeWorld) (i : Nat) (call : BridgeCall) : BridgeWorld :=
  { w.setCall i (.admitted call) with
    jobs := w.jobs ++ call.guardRequest.toList.map fun request => { call := i, request } }

def BridgeWorld.move (w : BridgeWorld) (i : Nat) (call : BridgeCall) (phase : BridgePhase) :
    BridgeWorld :=
  w.setAdmitted i { call with phase := phase }

def bridgeStep (w : BridgeWorld) :
    BridgeEvent → Option BridgeWorld
  | .receive i request =>
    match w.calls i with
    | .idle =>
      match authorizeRequest deps request with
      | .error response => some (w.setCall i (.refused response))
      | .ok authorized => some (w.setAdmitted i { request := request, authorized := authorized })
    | _ => none
  | .guardReads n =>
    (w.jobs[n]?).bind fun job =>
      match job.request, job.read, w.guard with
      | .recordExec _ _, none, some state =>
        some { w with jobs := w.jobs.set n { job with read := some state } }
      | _, _, _ => none
  | .guardServes n delivered =>
    (w.jobs[n]?).map fun job =>
      let served := job.serve w.guard
      let w := { w with guard := served.1, jobs := w.jobs.eraseIdx n }
      match w.call? job.call with
      | some call =>
        -- An answer that nobody waits for any more is dropped.
        if delivered = true ∧ call.guardRequest = some job.request then
          let phase := afterGuard deps call (some served.2)
          w.setAdmitted job.call
            { call with
              phase := phase
              destroyPending := call.destroyPending || phase = .destroying }
        else w
      | none => w
  | .guardFails i =>
    (w.call? i).bind fun call =>
      if call.guardRequest.isSome = true then some (w.move i call (afterGuard deps call none))
      else none
  | .provider i reply =>
    (w.call? i).bind fun call =>
      (afterProvider deps call.authorized.claims call.phase reply).map (w.move i call)
  | .destroySucceeds i =>
    (w.call? i).bind fun call =>
      if call.destroyPending = true then
        let call := { call with destroyPending := false }
        some
          { (if call.phase = .destroying then w.move i call .finishing
              else w.setCall i (.admitted call)) with
            providerDestroyed := true }
      else
        none
  | .destroyFails i =>
    (w.call? i).bind fun call =>
      if call.destroyPending = true then
        let call := { call with destroyPending := false }
        some
          (if call.phase = .destroying then w.move i call .aborting
            else w.setCall i (.admitted call))
      else
        none
  | .destroyTimesOut i =>
    (w.call? i).bind fun call =>
      if call.phase = .destroying then some (w.move i call .aborting) else none

/-- A provider destroy of this request has not settled yet. -/
def BridgeWorld.pending (w : BridgeWorld) (i : Nat) : Prop :=
  ∃ call, w.call? i = some call ∧ call.destroyPending = true

/-- Only the request an event is about changes. -/
theorem setCall_pending {w : BridgeWorld} {i j : Nat} {state : CallState}
    (hstate : ∀ call, state = .admitted call → call.destroyPending = true → w.pending i)
    (h : (w.setCall i state).pending j) : w.pending j := by
  obtain ⟨call, hcall, hpending⟩ := h
  by_cases hij : j = i
  · subst hij
    refine hstate call ?_ hpending
    cases state <;> simp_all [BridgeWorld.call?, BridgeWorld.setCall]
  · refine ⟨call, ?_, hpending⟩
    simpa [BridgeWorld.call?, BridgeWorld.setCall, Function.update_of_ne hij] using hcall

theorem setAdmitted_pending {w : BridgeWorld} {i j : Nat} {call : BridgeCall}
    (hcall : call.destroyPending = true → w.pending i) (h : (w.setAdmitted i call).pending j) :
    w.pending j := by
  refine setCall_pending ?_ (show (w.setCall i (.admitted call)).pending j from h)
  rintro _ ⟨⟩ hpending
  exact hcall hpending

section Closed

/-- The guard accepts no call any more unless it is reopened. -/
def Shut (storage : Option RunGuardState) : Prop :=
  ∃ state, storage = some state ∧ (state.closed ∨ state.maxCalls ≤ state.callCount)

/-- The guard accepts no call whatever happens: the run is over, or its budget is spent. -/
def Sealed (storage : Option RunGuardState) : Prop :=
  ∃ state, storage = some state ∧
    (state.terminal = true ∨ state.maxCalls ≤ state.callCount)

/-- Every create, exec and file claim is rejected. -/
def RejectsCalls (storage : Option RunGuardState) : Prop :=
  ∀ claims operation, operation.isCall = true →
    (applyRunGuardClaim storage claims operation).1.allowed = false

variable {storage : Option RunGuardState}

theorem rejectsCalls_of_shut (h : Shut storage) : RejectsCalls storage := by
  obtain ⟨state, rfl, hshut⟩ := h
  intro claims operation hop
  have houtcome := applyRunGuardClaim_outcome (some state) claims operation
  generalize (applyRunGuardClaim (some state) claims operation).1 = d at houtcome ⊢
  generalize (applyRunGuardClaim (some state) claims operation).2 = next at houtcome
  simp only [Option.getD_some] at houtcome
  cases houtcome with
  | rejected _ hallowed => exact hallowed
  | reported hcontrol _ => exact absurd hop (by simp [hcontrol])
  | destroying hdestroy _ _ => exact absurd hop (by simp [hdestroy, RunGuardOperation.isCall])
  | counted _ hopen hbudget =>
    rcases hshut with hclosed | hspent
    · exact absurd hclosed hopen
    · exact absurd hbudget (Nat.not_lt.mpr hspent)

def openingToken (state : RunGuardState) : SandboxRunTokenClaims where
  exp := state.exp
  iat := 0
  jti := state.jti
  maxCalls := state.maxCalls
  scopes := state.scopes
  tenantHash := state.tenantHash
  userHash := state.userHash

theorem openingToken_matches (state : RunGuardState) :
    stateMatchesClaims state (openingToken state) = true := by
  simp [stateMatchesClaims, openingToken]

theorem rejectsCalls_iff_shut (state : RunGuardState) :
    RejectsCalls (some state) ↔ Shut (some state) := by
  refine ⟨?_, rejectsCalls_of_shut⟩
  intro h
  refine ⟨state, rfl, ?_⟩
  by_contra hopen
  obtain ⟨hclosed, hbudget⟩ := not_or.mp hopen
  have hrejected := h (openingToken state) .exec rfl
  unfold RunGuardState.closed at hclosed
  simp [applyRunGuardClaim, openingToken_matches, hclosed, hbudget, decision] at hrejected

theorem shut_handle {request : RunGuardRequest} (hrequest : request ≠ .abortDestroy)
    (h : Shut storage) : Shut (handleRunGuardRequest storage request).1 := by
  obtain ⟨state, rfl, hshut⟩ := h
  cases request with
  | notPost | unknown => exact ⟨state, rfl, hshut⟩
  | finishDestroy => exact ⟨_, rfl, Or.inl (Or.inr rfl)⟩
  | abortDestroy => exact absurd rfl hrequest
  | claim claims operation =>
    have houtcome := applyRunGuardClaim_outcome (some state) claims operation
    simp only [handleRunGuardRequest]
    generalize (applyRunGuardClaim (some state) claims operation).1 = d at houtcome
    generalize (applyRunGuardClaim (some state) claims operation).2 = next at houtcome ⊢
    simp only [Option.getD_some] at houtcome
    refine ⟨next, rfl, ?_⟩
    cases houtcome with
    | rejected | reported => exact hshut
    | destroying => exact Or.inl (Or.inl rfl)
    | counted _ hopen hbudget =>
      rcases hshut with hclosed | hspent
      · exact absurd hclosed hopen
      · exact absurd hbudget (Nat.not_lt.mpr hspent)
  | recordExec claims receipt =>
    cases receipt with
    | none => exact ⟨state, rfl, hshut⟩
    | some receipt =>
      simp only [handleRunGuardRequest]
      split
      · exact ⟨_, rfl, hshut⟩
      · exact ⟨state, rfl, hshut⟩

theorem shut_abort_iff (storage : Option RunGuardState) :
    Shut (handleRunGuardRequest storage .abortDestroy).1 ↔ Sealed storage := by
  cases storage with
  | none => simp [handleRunGuardRequest, Shut, Sealed]
  | some state => simp [handleRunGuardRequest, Shut, Sealed, RunGuardState.closed]

theorem opened_handle (request : RunGuardRequest) (h : storage ≠ none) :
    (handleRunGuardRequest storage request).1 ≠ none := by
  obtain ⟨state, rfl⟩ := Option.ne_none_iff_exists'.mp h
  have hstep : guardStep (some state) (request, (handleRunGuardRequest (some state) request).2)
      (handleRunGuardRequest (some state) request).1 := rfl
  obtain ⟨state', hstate', _⟩ := guardStep_some hstep
  simp [hstate']

/-- Served after a destroy, this request leaves the guard shut: an abort needs a run that is
over or has no budget left, and a receipt a state that was read with none left. -/
def GuardJob.KeepsShut (job : GuardJob) (storage : Option RunGuardState) : Prop :=
  match job.request, job.read with
  | .abortDestroy, _ => Sealed storage
  | .recordExec claims (some receipt), some state =>
    execReceiptValid state claims receipt = true → state.maxCalls ≤ state.callCount
  | _, _ => True

theorem execReceiptValid_open {state : RunGuardState} {claims : SandboxRunTokenClaims}
    {receipt : SandboxExecReceipt} (h : execReceiptValid state claims receipt = true) :
    ¬ state.closed := by
  simp only [execReceiptValid, Bool.and_eq_true, Bool.not_eq_true'] at h
  simp [RunGuardState.closed, h]

theorem shut_recordExec_iff {state : RunGuardState} {claims : SandboxRunTokenClaims}
    {receipt : SandboxExecReceipt} (h : Shut storage) :
    Shut ((recordExec state claims (some receipt)).1.or storage) ↔
      (execReceiptValid state claims receipt = true → state.maxCalls ≤ state.callCount) := by
  unfold recordExec
  by_cases hvalid : execReceiptValid state claims receipt = true
  · have hopen := execReceiptValid_open hvalid
    unfold RunGuardState.closed at hopen
    simp [hvalid, Shut, RunGuardState.closed, hopen]
  · simp [hvalid, h]

theorem shut_serve_iff (job : GuardJob) (h : Shut storage) :
    Shut (job.serve storage).1 ↔ job.KeepsShut storage := by
  obtain ⟨i, request, read⟩ := job
  cases request with
  | abortDestroy => exact shut_abort_iff storage
  | recordExec claims receipt =>
    cases read with
    | none =>
      refine iff_of_true (shut_handle (by simp) h) ?_
      cases receipt <;> trivial
    | some state =>
      cases receipt with
      | none => exact iff_of_true h trivial
      | some receipt => exact shut_recordExec_iff h
  | _ => exact iff_of_true (shut_handle (by simp) h) trivial

theorem opened_serve (job : GuardJob) (h : storage ≠ none) : (job.serve storage).1 ≠ none := by
  unfold GuardJob.serve
  split
  · next claims receipt state _ _ =>
    cases hput : (recordExec state claims receipt).1 <;> simp [h]
  · exact opened_handle _ h

end Closed

section Safety

/-- Once the provider's destroy has succeeded, no create, exec or file claim is allowed. -/
def DestroyFinal (w : BridgeWorld) : Prop :=
  w.providerDestroyed = true → RejectsCalls w.guard

/-- A run whose sandbox is being destroyed, or is destroyed, has been opened. -/
structure Opened (w : BridgeWorld) : Prop where
  pending : ∀ i, w.pending i → w.guard ≠ none
  destroyed : w.providerDestroyed = true → w.guard ≠ none

def DestroyGuard (w : BridgeWorld) : BridgeEvent → Prop
  | .destroySucceeds _ => Shut w.guard
  | .guardServes n _ =>
    w.providerDestroyed = true → ∀ job ∈ w.jobs[n]?, job.KeepsShut w.guard
  | _ => True

/-- What one event can do to the run guard, to the provider's destroys and to the sandbox. -/
structure BridgeChange
    (w : BridgeWorld)
    (event : BridgeEvent)
    (w' : BridgeWorld) : Prop where
  guard :
    w'.guard = w.guard ∨
      ∃ n delivered job,
        event = .guardServes n delivered ∧ w.jobs[n]? = some job ∧
          w'.guard = (job.serve w.guard).1
  started : ∀ i, w'.pending i → w.pending i ∨ w'.guard ≠ none
  destroyed :
    w'.providerDestroyed = true →
      w.providerDestroyed = true ∨
        ∃ i, event = .destroySucceeds i ∧ w.pending i ∧ w'.guard = w.guard

variable {event : BridgeEvent}
variable {w : BridgeWorld}
variable {i : Nat}
variable {call : BridgeCall}

theorem bridgeChange_setCall {state : CallState}
    (hstate : ∀ call, state = .admitted call → call.destroyPending = true → w.pending i) :
    BridgeChange w event (w.setCall i state) where
  guard := Or.inl rfl
  started := fun _ h => Or.inl (setCall_pending hstate h)
  destroyed := Or.inl

theorem bridgeChange_setAdmitted (hcall : call.destroyPending = true → w.pending i) :
    BridgeChange w event (w.setAdmitted i call) where
  guard := Or.inl rfl
  started := fun _ h => Or.inl (setAdmitted_pending hcall h)
  destroyed := Or.inl

theorem bridgeChange_move (hcall : w.call? i = some call) (phase : BridgePhase) :
    BridgeChange w event (w.move i call phase) :=
  bridgeChange_setAdmitted fun hpending => ⟨call, hcall, hpending⟩

variable {deps : BridgeDependencies}

/-- Only the answer to a claim starts a destroy, and the claim has opened the run. -/
theorem opened_of_destroying {job : GuardJob} {storage : Option RunGuardState}
    {response : RunGuardResponse} (hrequest : call.guardRequest = some job.request)
    (hphase : afterGuard deps call (some response) = .destroying) :
    (job.serve storage).1 ≠ none := by
  unfold BridgeCall.guardRequest at hrequest
  unfold afterGuard at hphase
  cases hcall : call.phase <;> rw [hcall] at hrequest hphase <;> cases response <;>
    simp at hrequest hphase
  rw [GuardJob.serve, ← hrequest]
  simp [handleRunGuardRequest]

theorem bridgeChange_serves {w' : BridgeWorld} {n : Nat} {delivered : Bool}
    (hstep : Fires (bridgeStep deps) w (.guardServes n delivered) w') :
    BridgeChange w (.guardServes n delivered) w' := by
  obtain ⟨job, hjob, rfl⟩ := Option.map_eq_some_iff.mp hstep
  dsimp only
  split
  · next call hcall =>
    split
    · next hanswer =>
      refine ⟨Or.inr ⟨n, delivered, job, rfl, hjob, rfl⟩, fun j hj => ?_, Or.inl⟩
      by_cases hphase : afterGuard deps call (some (job.serve w.guard).2) = .destroying
      · exact Or.inr (opened_of_destroying hanswer.2 hphase)
      · refine Or.inl (setAdmitted_pending (fun hpending => ?_) hj)
        simp only [hphase, decide_false, Bool.or_false] at hpending
        exact ⟨call, hcall, hpending⟩
    · exact ⟨Or.inr ⟨n, delivered, job, rfl, hjob, rfl⟩, fun _ => Or.inl, Or.inl⟩
  · exact ⟨Or.inr ⟨n, delivered, job, rfl, hjob, rfl⟩, fun _ => Or.inl, Or.inl⟩

theorem bridgeStep_change {w w' : BridgeWorld} (hstep : Fires (bridgeStep deps) w event w') :
    BridgeChange w event w' := by
  cases event with
  | receive i request =>
    unfold Fires bridgeStep at hstep
    simp only at hstep
    split at hstep
    · split at hstep
      · cases hstep
        exact bridgeChange_setCall (by simp)
      · cases hstep
        refine bridgeChange_setAdmitted fun hpending => ?_
        cases hpending
    · cases hstep
  | guardReads n =>
    obtain ⟨job, hjob, hstep⟩ := Option.bind_eq_some_iff.mp hstep
    split at hstep
    · cases hstep
      exact ⟨Or.inl rfl, fun _ => Or.inl, Or.inl⟩
    · cases hstep
  | guardServes n delivered => exact bridgeChange_serves hstep
  | guardFails i =>
    obtain ⟨call, hcall, _, rfl⟩ := of_bind_guarded hstep
    exact bridgeChange_move hcall _
  | provider i reply =>
    obtain ⟨call, hcall, hstep⟩ := Option.bind_eq_some_iff.mp hstep
    obtain ⟨phase, _, rfl⟩ := Option.map_eq_some_iff.mp hstep
    exact bridgeChange_move hcall phase
  | destroySucceeds i =>
    obtain ⟨call, hcall, hpending, rfl⟩ := of_bind_guarded hstep
    dsimp only
    split
    · refine ⟨Or.inl rfl, fun _ h => Or.inl (setAdmitted_pending (fun hagain => ?_) h),
        fun _ => Or.inr ⟨i, rfl, ⟨call, hcall, hpending⟩, rfl⟩⟩
      cases hagain
    · refine ⟨Or.inl rfl, fun _ h => Or.inl (setCall_pending ?_ h),
        fun _ => Or.inr ⟨i, rfl, ⟨call, hcall, hpending⟩, rfl⟩⟩
      exact fun _ _ _ => ⟨call, hcall, hpending⟩
  | destroyFails i =>
    obtain ⟨call, hcall, hpending, rfl⟩ := of_bind_guarded hstep
    dsimp only
    split
    · refine bridgeChange_setAdmitted fun hagain => ?_
      cases hagain
    · exact bridgeChange_setCall fun _ _ _ => ⟨call, hcall, hpending⟩
  | destroyTimesOut i =>
    obtain ⟨call, hcall, _, rfl⟩ := of_bind_guarded hstep
    exact bridgeChange_move hcall _

theorem BridgeChange.opened {w w' : BridgeWorld} (hchange : BridgeChange w event w')
    (h : w.guard ≠ none) : w'.guard ≠ none := by
  rcases hchange.guard with hsame | ⟨_, _, job, _, _, hguard⟩
  · rwa [hsame]
  · rw [hguard]
    exact opened_serve job h

theorem opened_step (w : BridgeWorld) (event : BridgeEvent) (w' : BridgeWorld)
    (hstep : Fires (bridgeStep deps) w event w') (h : Opened w) : Opened w' := by
  have hchange := bridgeStep_change hstep
  constructor
  · intro i hi
    rcases hchange.started i hi with hold | hnew
    · exact hchange.opened (h.pending i hold)
    · exact hnew
  · intro hdestroyed
    rcases hchange.destroyed hdestroyed with hold | ⟨i, _, hpending, _⟩
    · exact hchange.opened (h.destroyed hold)
    · exact hchange.opened (h.pending i hpending)

theorem opened_initialWorld : Opened initialWorld := by
  constructor
  · rintro i ⟨call, hcall, _⟩
    simp [BridgeWorld.call?, initialWorld] at hcall
  · intro h
    cases h

theorem destroyFinal_iff (h : Opened w) :
    DestroyFinal w ↔ (w.providerDestroyed = true → Shut w.guard) := by
  unfold DestroyFinal
  refine forall_congr' fun hdestroyed => ?_
  obtain ⟨state, hstate⟩ := Option.ne_none_iff_exists'.mp (h.destroyed hdestroyed)
  rw [hstate]
  exact rejectsCalls_iff_shut state

theorem destroyFinal_step (w : BridgeWorld) (event : BridgeEvent) (w' : BridgeWorld)
    (hstep : Fires (bridgeStep deps) w event w') (hopened : Opened w) (hfinal : DestroyFinal w)
    (hguard : DestroyGuard w event) : DestroyFinal w' := by
  have hchange := bridgeStep_change hstep
  rw [destroyFinal_iff (opened_step w event w' hstep hopened)]
  rw [destroyFinal_iff hopened] at hfinal
  intro hdestroyed
  rcases hchange.destroyed hdestroyed with hold | ⟨i, rfl, _, hsame⟩
  · rcases hchange.guard with hsame | ⟨n, delivered, job, rfl, hjob, hserved⟩
    · rw [hsame]
      exact hfinal hold
    · rw [hserved]
      exact (shut_serve_iff job (hfinal hold)).mpr (hguard hold job hjob)
  · rw [hsame]
    exact hguard

theorem destroyGuard_of_final (w : BridgeWorld) (event : BridgeEvent) (w' : BridgeWorld)
    (hstep : Fires (bridgeStep deps) w event w') (hopened : Opened w) (hbefore : DestroyFinal w)
    (hfinal : DestroyFinal w') : DestroyGuard w event := by
  rw [destroyFinal_iff (opened_step w event w' hstep hopened)] at hfinal
  rw [destroyFinal_iff hopened] at hbefore
  cases event with
  | destroySucceeds i =>
    obtain ⟨call, _, _, rfl⟩ := of_bind_guarded hstep
    dsimp only at hfinal
    split at hfinal
    · exact hfinal rfl
    · exact hfinal rfl
  | guardServes n delivered =>
    intro hdestroyed job hjob
    have hshut := hbefore hdestroyed
    obtain ⟨served, hserved, rfl⟩ := Option.map_eq_some_iff.mp hstep
    obtain rfl := Option.some.inj (hserved.symm.trans hjob)
    refine (shut_serve_iff served hshut).mp ?_
    dsimp only at hfinal
    split at hfinal
    · split at hfinal
      · exact hfinal hdestroyed
      · exact hfinal hdestroyed
    · exact hfinal hdestroyed
  | _ => trivial

/--
The bridge over all interleavings: after the provider's destroy has succeeded
no create, exec or file claim of the run is ever allowed, if and only if every
provider destroy succeeded while the run guard was shut, and after one no abort was
served unless the run was over or its budget spent, and no execution receipt was
written to a state that had been read with budget left.
-/
theorem bridge_destroy_final_iff {deps : BridgeDependencies} {events : List BridgeEvent}
    {w : BridgeWorld} (hrun : Run (Fires (bridgeStep deps)) initialWorld events w) :
    Run (Guarded (Fires (bridgeStep deps)) DestroyGuard) initialWorld events w ↔
      Always (Fires (bridgeStep deps)) DestroyFinal initialWorld events :=
  Run.guarded_iff_always
    (fires_deterministic (bridgeStep deps))
    opened_step
    destroyFinal_step
    destroyGuard_of_final
    hrun
    opened_initialWorld
    (fun h => by cases h)

/-- Dependencies under which the runs below are computed. -/
def exampleDependencies : BridgeDependencies where
  decodeURIComponent := some
  deriveSandboxId := fun _ => "ab-0"
  resolveWorkspacePath := some
  shellQuote := id
  sha256Hex := fun _ => String.ofList (List.replicate 64 '0')
  jsonArgv := String.intercalate ","

def bridgeClaims : SandboxRunTokenClaims :=
  { exampleClaims with maxCalls := 3 }

def exampleRequest (method pathname : String) : BridgeRequest where
  method := method
  pathname := pathname
  verifyToken := fun scope =>
    if scope ∈ bridgeClaims.scopes then .ok bridgeClaims else .error .invalidScope

/--
The sandbox of a run is created and destroyed; the guard never receives
`finish-destroy`, so the handler aborts the destroy that has been carried out.
-/
def reopeningEvents : List BridgeEvent :=
  [.receive 0 (exampleRequest "POST" "/v1/sandbox"), .guardServes 0 true,
    .receive 1 (exampleRequest "DELETE" "/v1/sandbox/ab-0"), .guardServes 0 true,
    .destroySucceeds 1, .guardFails 1, .guardServes 1 true]

theorem reopening_run :
    ∃ w,
      Run (Fires (bridgeStep exampleDependencies)) initialWorld reopeningEvents w ∧
      w.providerDestroyed = true ∧
      (applyRunGuardClaim w.guard bridgeClaims .create).1.allowed = true := by
  have hend :
      (fire (bridgeStep exampleDependencies) initialWorld reopeningEvents).map
        (fun w =>
          (w.providerDestroyed,
            (applyRunGuardClaim w.guard bridgeClaims .create).1.allowed)) =
        some (true, true) := by
    decide
  obtain ⟨w, hw, hresult⟩ := Option.map_eq_some_iff.mp hend
  obtain ⟨hdestroyed, hallowed⟩ := Prod.ext_iff.mp hresult
  exact ⟨w, run_fires_iff.mpr hw, hdestroyed, hallowed⟩

/-- The run that reopens a destroyed run breaks the guard. -/
theorem bridge_destroy_final_iff_reopening :
    ∃ w,
      Run (Fires (bridgeStep exampleDependencies)) initialWorld reopeningEvents w ∧
      ¬ Run (Guarded (Fires (bridgeStep exampleDependencies)) DestroyGuard)
          initialWorld reopeningEvents w := by
  obtain ⟨w, hrun, hdestroyed, hallowed⟩ := reopening_run
  refine ⟨w, hrun, ?_⟩
  rw [bridge_destroy_final_iff hrun]
  intro halways
  have hfinal := halways reopeningEvents [] w (List.append_nil _).symm hrun hdestroyed
  rw [hfinal bridgeClaims .create rfl] at hallowed
  cases hallowed

/-- A lost `finish-destroy` reopens a run whose sandbox the provider has destroyed. -/
theorem destroyed_run_reopened :
    ¬ ∀ deps events w,
        Run (Fires (bridgeStep deps)) initialWorld events w → DestroyFinal w := by
  intro h
  obtain ⟨w, hrun, hdestroyed, hallowed⟩ := reopening_run
  rw [h _ _ _ hrun hdestroyed bridgeClaims .create rfl] at hallowed
  cases hallowed

def execRequest : BridgeRequest :=
  { exampleRequest "POST" "/v1/sandbox/ab-0/exec" with
    body := .json "" { argv := .value [some "ls"], cwd := .absent, timeoutMs := .value 1000 } }

/-- A receipt that was read before a destroy reopens the run, whose destroy was finished. -/
example :
    (fire (bridgeStep exampleDependencies) initialWorld
      [.receive 0 (exampleRequest "POST" "/v1/sandbox"), .guardServes 0 true,
        .receive 1 execRequest, .guardServes 0 true, .provider 1 (.executed ⟨0, "", ""⟩),
        .guardReads 0, .receive 2 (exampleRequest "DELETE" "/v1/sandbox/ab-0"),
        .guardServes 1 true, .destroySucceeds 2, .guardServes 1 true, .guardServes 0 true]).map
      (fun w =>
        (w.providerDestroyed, (applyRunGuardClaim w.guard bridgeClaims .exec).1.allowed)) =
      some (true, true) := by
  decide +kernel

end Safety

end Aiphabee.Bridge
