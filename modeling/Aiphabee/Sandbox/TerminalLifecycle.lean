import Aiphabee.Sandbox.LeaseRegistry
import Aiphabee.Text.JsString

/-!
# The terminal lifecycle of a run

`runSandboxTerminalLifecycle` creates a sandbox, executes one command in it,
stops the execution when its control or a deadline says so, destroys the sandbox
and writes one terminal record.

The function is one asynchronous procedure.  Its state is where it waits, and
what the promises it holds have settled to.  An event settles a promise, fires a
timer, or lets the procedure resume.  A wait for several promises carries its
winner: the promise that settles first wins, and between that moment and the
resumption anything else may happen.  When some of the promises have settled
before the wait begins, the winner is the one whose reaction is queued first.

Every operation of the backend may settle in time, be rejected, or outlive the
grace period; `Bounded` is the outcome of such a bounded operation.  Readings of
the clock are left out.
-/

namespace Aiphabee.TerminalLifecycle

open LeaseRegistry

/-- Why a control may abort a run. -/
inductive SandboxLifecycleControlReason
  | clientCancelled
  | globalKill
  | killSwitch
  | tenantKill
deriving DecidableEq

inductive SandboxKillReason
  | clientCancelled
  | globalKill
  | hardTimeout
  | killSwitch
  | softTimeout
  | streamInterrupted
  | tenantKill
deriving DecidableEq

def SandboxLifecycleControlReason.killReason :
    SandboxLifecycleControlReason → SandboxKillReason
  | .clientCancelled => .clientCancelled
  | .globalKill => .globalKill
  | .killSwitch => .killSwitch
  | .tenantKill => .tenantKill

/-- How a run may end. -/
inductive SandboxTerminalState
  | clientCancelled
  | completed
  | createFailed
  | executionFailed
  | globalKilled
  | hardTimeout
  | killSwitch
  | softTimeout
  | streamInterrupted
  | tenantKilled
deriving DecidableEq

/-- What is known about the kill of a run. -/
inductive SandboxTerminalKillStatus
  | alreadyTerminal
  | confirmed
  | failed
  | notRequested
  | unconfirmed
deriving DecidableEq

/-- What is known about the cleanup of a run. -/
inductive SandboxTerminalCleanupStatus
  | alreadyDestroyed
  | backendOwnedUnconfirmed
  | destroyed
  | failed
  | notRequired
  | unconfirmed
deriving DecidableEq

structure SandboxTerminalCleanup where
  executionClosed : Bool
  releaseSafe : Bool
  status : SandboxTerminalCleanupStatus
deriving DecidableEq

/-- What a run has used, without the readings of the clock. -/
structure SandboxObservedExecutionUsage where
  exitCode : Option Int
  outputEventCount : Nat
  stderrBytes : Nat
  stdoutBytes : Nat
deriving DecidableEq

structure SandboxTerminalLifecycleRecord where
  cleanup : SandboxTerminalCleanup
  executionTerminalSeen : Bool
  killStatus : SandboxTerminalKillStatus
  leaseId : Option String
  recordKey : String
  requestedKillReason : Option SandboxKillReason
  runId : String
  terminalRecordCount : Nat := 1
  terminalState : SandboxTerminalState
  usage : SandboxObservedExecutionUsage
  version : String := "2026-07-11.sandbox-terminal-lifecycle.v0"
deriving DecidableEq

/-- The input of the lifecycle; `preAborted` says whether its control is aborted from the start. -/
structure RunSandboxTerminalLifecycleInput where
  accessGrant : SandboxBackendAccessGrant
  control : Option SandboxLifecycleControlReason
  preAborted : Bool
  runId : String

structure ExecutionMeter where
  outputEventCount : Nat := 0
  stderrBytes : Nat := 0
  stdoutBytes : Nat := 0

structure ExecutionObservation where
  executionTerminalSeen : Bool
  exitCode : Option Int
  outputEventCount : Nat
  requestedKillReason : Option SandboxKillReason
  stderrBytes : Nat
  stdoutBytes : Nat
  terminalState : SandboxTerminalState
deriving DecidableEq

structure LifecycleDecision extends ExecutionObservation where
  killStatus : SandboxTerminalKillStatus
deriving DecidableEq

inductive OutputStream
  | stderr
  | stdout

/-- What the iterator of an execution may yield next; a `failed` without reason is the backend's. -/
inductive StreamItem
  | output (stream : OutputStream) (chunk : String)
  | exit (exitCode : Int)
  | failed (reason : Option SandboxKillReason)
  | done
  | throws

/-- The outcome of an operation that is given a grace period. -/
inductive Bounded (α : Type)
  | settled (value : α)
  | rejected
  | timedOut
deriving DecidableEq

inductive SandboxKillResult
  | alreadyTerminal
  | killed
  | failed
deriving DecidableEq

inductive SandboxDestroyResult
  | alreadyDestroyed
  | destroyed
  | failed
deriving DecidableEq

/-- What `backend.execute` does; the iterator of its handle may be refused. -/
inductive ExecuteOutcome
  | throws
  | iteratorThrows
  | streams

/-- The run id is a non-empty opaque identifier. -/
def validateRunId (runId : String) : Bool :=
  JsString.utf16Length runId != 0 && JsString.utf16Length runId ≤ 128 &&
    JsString.trim runId == runId && !JsString.hasControlCharacter runId

variable (input : RunSandboxTerminalLifecycleInput)

def validInput : Bool :=
  validateRunId input.runId &&
    match input.accessGrant.owner with
    | .run runId => runId == input.runId
    | .session _ => false

def controlTerminalState : SandboxLifecycleControlReason → SandboxTerminalState
  | .clientCancelled => .clientCancelled
  | .globalKill => .globalKilled
  | .killSwitch => .killSwitch
  | .tenantKill => .tenantKilled

def executionFailureTerminalState : Option SandboxKillReason → SandboxTerminalState
  | none => .executionFailed
  | some .clientCancelled => .clientCancelled
  | some .globalKill => .globalKilled
  | some .hardTimeout => .hardTimeout
  | some .killSwitch => .killSwitch
  | some .softTimeout => .softTimeout
  | some .streamInterrupted => .streamInterrupted
  | some .tenantKill => .tenantKilled

def mapKillResult : Bounded SandboxKillResult → SandboxTerminalKillStatus
  | .settled .alreadyTerminal => .alreadyTerminal
  | .settled .killed => .confirmed
  | .settled .failed => .failed
  | .rejected => .failed
  | .timedOut => .unconfirmed

def destroyLease : Bounded SandboxDestroyResult → SandboxTerminalCleanup
  | .timedOut => { executionClosed := true, releaseSafe := false, status := .unconfirmed }
  | .rejected => { executionClosed := true, releaseSafe := false, status := .failed }
  | .settled .destroyed =>
    { executionClosed := true, releaseSafe := true, status := .destroyed }
  | .settled .alreadyDestroyed =>
    { executionClosed := true, releaseSafe := true, status := .alreadyDestroyed }
  | .settled .failed => { executionClosed := true, releaseSafe := false, status := .failed }

def emptyObservation (terminalState : SandboxTerminalState) (meter : ExecutionMeter) :
    ExecutionObservation where
  executionTerminalSeen := false
  exitCode := none
  outputEventCount := meter.outputEventCount
  requestedKillReason := none
  stderrBytes := meter.stderrBytes
  stdoutBytes := meter.stdoutBytes
  terminalState := terminalState

def ExecutionMeter.count (meter : ExecutionMeter) :
    StreamItem → ExecutionMeter
  | .output .stdout chunk =>
    { meter with
      outputEventCount := meter.outputEventCount + 1
      stdoutBytes := meter.stdoutBytes + chunk.utf8ByteSize }
  | .output .stderr chunk =>
    { meter with
      outputEventCount := meter.outputEventCount + 1
      stderrBytes := meter.stderrBytes + chunk.utf8ByteSize }
  | _ => meter

/-- What `consumeExecution` returns on an item that is not output. -/
def consumeExecution (meter : ExecutionMeter) :
    StreamItem → Option ExecutionObservation
  | .output _ _ => none
  | .exit exitCode =>
    some
      { emptyObservation (if exitCode = 0 then .completed else .executionFailed) meter with
        executionTerminalSeen := true
        exitCode := some exitCode }
  | .failed reason =>
    some
      { emptyObservation (executionFailureTerminalState reason) meter with
        executionTerminalSeen := true
        requestedKillReason := reason }
  | .done | .throws =>
    some
      { emptyObservation .streamInterrupted meter with
        requestedKillReason := some .streamInterrupted }

inductive CreateSettlement
  | create (result : Option SandboxLease)
  | timeout
deriving DecidableEq

/-- The promises the first wait races. -/
inductive CreateRace
  | settlement (settlement : CreateSettlement)
  | control (reason : SandboxLifecycleControlReason)
deriving DecidableEq

/-- The promises that end an execution for good. -/
inductive StopRace
  | execution (observation : ExecutionObservation)
  | hard
  | control (reason : SandboxLifecycleControlReason)
deriving DecidableEq

inductive ExecutionRace
  | stop (stop : StopRace)
  | soft
deriving DecidableEq

/-- What a kill is followed by: a decision, or a second wait after a soft deadline. -/
inductive AfterKill
  | decide (observation : ExecutionObservation)
  | soft
deriving DecidableEq

/-- Where the lifecycle waits; `won` is the promise that has ended the wait, if one has. -/
inductive LifecyclePhase
  | rejected
  | creating (won : Option CreateRace)
  | settlingCreate
      (reason : SandboxLifecycleControlReason) (won : Option CreateSettlement)
  | destroyingCancelled
      (reason : SandboxLifecycleControlReason) (lease : SandboxLease)
      (won : Option (Bounded SandboxDestroyResult))
  | starting (lease : SandboxLease)
  | executing (lease : SandboxLease) (won : Option ExecutionRace)
  | killing
      (lease : SandboxLease) (next : AfterKill) (won : Option (Bounded SandboxKillResult))
  | afterSoft
      (lease : SandboxLease) (softKillStatus : SandboxTerminalKillStatus)
      (won : Option StopRace)
  | destroying
      (lease : SandboxLease) (decision : LifecycleDecision)
      (won : Option (Bounded SandboxDestroyResult))
  | closing
      (lease : SandboxLease) (decision : LifecycleDecision)
      (cleanup : SandboxTerminalCleanup) (won : Option (Bounded Unit))
  | recording (record : SandboxTerminalLifecycleRecord)
  | returned (record : SandboxTerminalLifecycleRecord) (persisted : Bool)
deriving DecidableEq

/-- The promise of `backend.create`; a failed or rejected create has no lease. -/
inductive CreateState
  | notCalled
  | pending
  | settled (result : Option SandboxLease)
deriving DecidableEq

/-- The continuation that destroys a sandbox created too late. -/
inductive LateCleanup
  | none
  | registered
  | done
deriving DecidableEq

inductive ExecutionState
  | notStarted
  | streaming
  | settled (observation : ExecutionObservation)
deriving DecidableEq

/-- The execution handle and its promise `closed`. -/
inductive HandleState
  | none
  | opened
  | closed
  | rejected
deriving DecidableEq

structure LifecycleState where
  phase : LifecyclePhase
  create : CreateState := .notCalled
  createTimedOut : Bool := false
  late : LateCleanup := .none
  controlAborted : Bool := false
  softFired : Bool := false
  hardFired : Bool := false
  execution : ExecutionState := .notStarted
  handle : HandleState := .none
  meter : ExecutionMeter := {}
  killCalls : List SandboxKillReason := []
  destroyCalls : List SandboxLease := []
  records : List SandboxTerminalLifecycleRecord := []

/-- What may happen next. -/
inductive LifecycleEvent
  | createSettles (result : Option SandboxLease)
  | createTimeout
  | controlAborts
  | executes (outcome : ExecuteOutcome)
  | streams (item : StreamItem)
  | handleSettles (closed : Bool)
  | softDeadline
  | hardDeadline
  | killEnds (outcome : Bounded SandboxKillResult)
  | destroyEnds (outcome : Bounded SandboxDestroyResult)
  | closeTimesOut
  | resumes
  | lateCleanup
  | recordSettles (persisted : Bool)

def terminalRecord (lease : Option SandboxLease) (cleanup : SandboxTerminalCleanup)
    (decision : LifecycleDecision) (meter : ExecutionMeter) : SandboxTerminalLifecycleRecord where
  cleanup := cleanup
  executionTerminalSeen := decision.executionTerminalSeen
  killStatus := decision.killStatus
  leaseId := lease.map SandboxLease.leaseId
  recordKey :=
    input.runId ++ ":" ++ (lease.map SandboxLease.leaseId).getD "no-lease" ++ ":terminal:v0"
  requestedKillReason := decision.requestedKillReason
  runId := input.runId
  terminalState := decision.terminalState
  usage :=
    { exitCode := decision.exitCode
      outputEventCount := meter.outputEventCount
      stderrBytes := meter.stderrBytes
      stdoutBytes := meter.stdoutBytes }

/-- The decision on a run that ended with a requested stop. -/
def stopped (terminalState : SandboxTerminalState) (reason : Option SandboxKillReason)
    (meter : ExecutionMeter) : ExecutionObservation :=
  { emptyObservation terminalState meter with requestedKillReason := reason }

/-- The decision on a run that executed nothing. -/
def unexecuted (terminalState : SandboxTerminalState) (reason : Option SandboxKillReason) :
    LifecycleDecision :=
  { stopped terminalState reason {} with killStatus := .notRequested }

def cancelledRecord (reason : SandboxLifecycleControlReason) (lease : Option SandboxLease)
    (cleanup : SandboxTerminalCleanup) : SandboxTerminalLifecycleRecord :=
  terminalRecord input lease cleanup
    (unexecuted (controlTerminalState reason) (some reason.killReason)) {}

def backendOwned : SandboxTerminalCleanup where
  executionClosed := true
  releaseSafe := false
  status := .backendOwnedUnconfirmed

def createFailedRecord : SandboxTerminalLifecycleRecord :=
  terminalRecord input none backendOwned (unexecuted .createFailed none) {}

def preAbortedRecord (reason : SandboxLifecycleControlReason) : SandboxTerminalLifecycleRecord :=
  cancelledRecord input reason none
    { executionClosed := true, releaseSafe := true, status := .notRequired }

/-- A create settlement ends the waits it takes part in. -/
def LifecyclePhase.offerCreate (settlement : CreateSettlement) : LifecyclePhase → LifecyclePhase
  | .creating won => .creating (won.or (some (.settlement settlement)))
  | .settlingCreate reason won => .settlingCreate reason (won.or (some settlement))
  | phase => phase

/-- The end of an execution, a hard deadline or a control ends the waits it takes part in. -/
def LifecyclePhase.offerStop (stop : StopRace) : LifecyclePhase → LifecyclePhase
  | .executing lease won => .executing lease (won.or (some (.stop stop)))
  | .afterSoft lease softKillStatus won =>
    .afterSoft lease softKillStatus (won.or (some stop))
  | phase => phase

/-- An aborted control also ends the first wait. -/
def LifecyclePhase.offerControl (reason : SandboxLifecycleControlReason) :
    LifecyclePhase → LifecyclePhase
  | .creating won => .creating (won.or (some (.control reason)))
  | phase => phase.offerStop (.control reason)

/-- A soft deadline ends the wait for the execution. -/
def LifecyclePhase.offerSoft : LifecyclePhase → LifecyclePhase
  | .executing lease won => .executing lease (won.or (some .soft))
  | phase => phase

/-- A closed or rejected stream ends the last wait. -/
def LifecyclePhase.offerClosing (outcome : Bounded Unit) : LifecyclePhase → LifecyclePhase
  | .closing lease decision cleanup won =>
    .closing lease decision cleanup (won.or (some outcome))
  | phase => phase

def LifecyclePhase.createTimerRuns : LifecyclePhase → Bool
  | .creating _ | .settlingCreate _ _ => true
  | _ => false

def LifecyclePhase.deadlinesRun : LifecyclePhase → Bool
  | .executing _ _ | .killing _ _ _ | .afterSoft _ _ _ => true
  | _ => false

variable (s : LifecycleState)

def LifecycleState.recordTerminal (record : SandboxTerminalLifecycleRecord) : LifecycleState :=
  { s with phase := .recording record, records := s.records ++ [record] }

/-- Ask the backend to kill the execution. -/
def LifecycleState.requestKill (lease : SandboxLease) (reason : SandboxKillReason)
    (next : AfterKill) : LifecycleState :=
  { s with phase := .killing lease next none, killCalls := s.killCalls ++ [reason] }

def LifecycleState.requestDestroy (lease : SandboxLease) (phase : LifecyclePhase) :
    LifecycleState :=
  { s with phase := phase, destroyCalls := s.destroyCalls ++ [lease] }

/-- Leave the destruction of a late sandbox to a continuation of its create. -/
def LifecycleState.registerLateCleanup : LifecycleState :=
  { s with late := .registered }

/-- Whether the second wait for a create has ended before it begins; the deadline goes first. -/
def LifecycleState.settlement? : Option CreateSettlement :=
  if s.createTimedOut = true then
    some .timeout
  else
    match s.create with
    | .settled result => some (.create result)
    | _ => none

def LifecycleState.control? : Option StopRace :=
  if s.controlAborted = true then input.control.map StopRace.control else none

/-- Whether the wait for an execution has ended before it begins. -/
def LifecycleState.executed? : Option StopRace :=
  match s.execution with
  | .settled observation => some (.execution observation)
  | _ => s.control? input

/-- Whether the wait after a soft deadline has ended before it begins. -/
def LifecycleState.stopped? : Option StopRace :=
  if s.hardFired = true then some .hard else s.executed? input

/-- Whether the wait for the stream has ended before it begins. -/
def LifecycleState.closed? : Option (Bounded Unit) :=
  match s.handle, s.execution with
  | .rejected, _ => some .rejected
  | .closed, .settled _ => some (.settled ())
  | _, _ => none

def LifecycleState.stop (lease : SandboxLease) : StopRace → LifecycleState
  | .execution observation =>
    if observation.terminalState = .streamInterrupted then
      s.requestKill lease .streamInterrupted (.decide observation)
    else
      s.requestDestroy lease
        (.destroying lease { observation with killStatus := .notRequested } none)
  | .hard =>
    s.requestKill lease .hardTimeout
      (.decide (stopped .hardTimeout (some .hardTimeout) s.meter))
  | .control reason =>
    s.requestKill lease reason.killReason
      (.decide (stopped (controlTerminalState reason) (some reason.killReason) s.meter))

def resumeLifecycle : Option LifecycleState :=
  match s.phase with
  | .creating (some (.control reason)) =>
    some { s with phase := .settlingCreate reason s.settlement? }
  | .creating (some (.settlement .timeout)) =>
    some (s.registerLateCleanup.recordTerminal (createFailedRecord input))
  | .creating (some (.settlement (.create none))) =>
    some (s.recordTerminal (createFailedRecord input))
  | .creating (some (.settlement (.create (some lease)))) =>
    some { s with phase := .starting lease }
  | .settlingCreate reason (some (.create (some lease))) =>
    some (s.requestDestroy lease (.destroyingCancelled reason lease none))
  | .settlingCreate reason (some (.create none)) =>
    some (s.recordTerminal (cancelledRecord input reason none backendOwned))
  | .settlingCreate reason (some .timeout) =>
    some
      (s.registerLateCleanup.recordTerminal
        (cancelledRecord input reason none backendOwned))
  | .destroyingCancelled reason lease (some outcome) =>
    some (s.recordTerminal (cancelledRecord input reason (some lease) (destroyLease outcome)))
  | .executing lease (some (.stop stop)) => some (s.stop lease stop)
  | .executing lease (some .soft) => some (s.requestKill lease .softTimeout .soft)
  | .killing lease (.decide observation) (some outcome) =>
    some
      (s.requestDestroy lease
        (.destroying lease { observation with killStatus := mapKillResult outcome } none))
  | .killing lease .soft (some outcome) =>
    if mapKillResult outcome = .confirmed ∨ mapKillResult outcome = .alreadyTerminal then
      some
        (s.requestDestroy lease
          (.destroying lease
            { stopped .softTimeout (some .softTimeout) s.meter with
              killStatus := mapKillResult outcome }
            none))
    else
      some { s with phase := .afterSoft lease (mapKillResult outcome) (s.stopped? input) }
  | .afterSoft lease softKillStatus (some (.execution observation)) =>
    some
      (s.requestDestroy lease
        (.destroying lease
          { observation with
            killStatus := softKillStatus
            requestedKillReason := some .softTimeout
            terminalState := .softTimeout }
          none))
  | .afterSoft lease _ (some stop) => some (s.stop lease stop)
  | .destroying lease decision (some outcome) =>
    if s.handle = .none then
      some
        (s.recordTerminal
          (terminalRecord input (some lease) (destroyLease outcome) decision s.meter))
    else
      some { s with phase := .closing lease decision (destroyLease outcome) s.closed? }
  | .closing lease decision cleanup (some outcome) =>
    some
      (s.recordTerminal
        (terminalRecord input (some lease)
          (if outcome = .settled () then
            cleanup
          else
            { cleanup with executionClosed := false, releaseSafe := false })
          decision s.meter))
  | _ => none

def lifecycleStep :
    LifecycleEvent → Option LifecycleState
  | .createSettles result =>
    if s.create = .pending then
      some
        { s with
          create := .settled result
          phase := s.phase.offerCreate (.create result) }
    else
      none
  | .createTimeout =>
    if s.phase.createTimerRuns = true ∧ s.createTimedOut = false then
      some { s with createTimedOut := true, phase := s.phase.offerCreate .timeout }
    else
      none
  | .controlAborts =>
    match input.control with
    | some reason =>
      if s.controlAborted = false then
        some { s with controlAborted := true, phase := s.phase.offerControl reason }
      else
        none
    | none => none
  | .executes outcome =>
    match s.phase with
    | .starting lease =>
      let s' :=
        match outcome with
        | .throws =>
          { s with
            execution := .settled (emptyObservation .executionFailed s.meter) }
        | .iteratorThrows =>
          { s with
            execution := .settled (emptyObservation .executionFailed s.meter)
            handle := .opened }
        | .streams => { s with execution := .streaming, handle := .opened }
      some
        { s' with
          phase := .executing lease ((s'.executed? input).map ExecutionRace.stop) }
    | _ => none
  | .streams item =>
    if s.execution = .streaming then
      match consumeExecution s.meter item with
      | none => some { s with meter := s.meter.count item }
      | some observation =>
        some
          { s with
            execution := .settled observation
            phase :=
              if s.handle = .closed then
                (s.phase.offerStop (.execution observation)).offerClosing (.settled ())
              else
                s.phase.offerStop (.execution observation) }
    else
      none
  | .handleSettles closed =>
    if s.handle = .opened then
      let s' := { s with handle := if closed = true then .closed else .rejected }
      match s'.closed? with
      | some outcome => some { s' with phase := s.phase.offerClosing outcome }
      | none => some s'
    else
      none
  | .softDeadline =>
    if s.phase.deadlinesRun = true ∧ s.softFired = false then
      some { s with softFired := true, phase := s.phase.offerSoft }
    else
      none
  | .hardDeadline =>
    if s.phase.deadlinesRun = true ∧ s.hardFired = false then
      some { s with hardFired := true, phase := s.phase.offerStop .hard }
    else
      none
  | .killEnds outcome =>
    match s.phase with
    | .killing lease next none =>
      some { s with phase := .killing lease next (some outcome) }
    | _ => none
  | .destroyEnds outcome =>
    match s.phase with
    | .destroyingCancelled reason lease none =>
      some { s with phase := .destroyingCancelled reason lease (some outcome) }
    | .destroying lease decision none =>
      some { s with phase := .destroying lease decision (some outcome) }
    | _ => none
  | .closeTimesOut =>
    match s.phase with
    | .closing lease decision cleanup none =>
      some { s with phase := .closing lease decision cleanup (some .timedOut) }
    | _ => none
  | .resumes => resumeLifecycle input s
  | .lateCleanup =>
    match s.late, s.create with
    | .registered, .settled result =>
      some { s with late := .done, destroyCalls := s.destroyCalls ++ result.toList }
    | _, _ => none
  | .recordSettles persisted =>
    match s.phase with
    | .recording record => some { s with phase := .returned record persisted }
    | _ => none

def initialState : LifecycleState :=
  if validInput input = false then
    { phase := .rejected }
  else
    match input.control, input.preAborted with
    | some reason, true =>
      { phase := .recording (preAbortedRecord input reason)
        controlAborted := true
        records := [preAbortedRecord input reason] }
    | _, _ => { phase := .creating none, create := .pending }

end Aiphabee.TerminalLifecycle
