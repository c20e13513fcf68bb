import Aiphabee.Text.JsText
import Aiphabee.Transition.LabelledRuns

/-!
# The event stream of a sandbox execution

An execution hands its consumer a queue and starts a process in the sandbox of
the lease.  What the process prints is pushed into the queue by callbacks, which
may come at any time from the start of the process on.  How the execution ends is
pushed as one terminal event, after which the sandbox is tidied up and the queue
is closed.

The code between two waits is one step, and so is each callback and each event
that the consumer takes.  What the process has printed and what the consumer has
been handed is remembered beside the state of the program.
-/

namespace Aiphabee.ExecutionStream

inductive OutputStream
  | stderr
  | stdout
deriving DecidableEq

/-- The classes of errors that the end of an execution tells apart. -/
inductive ExecuteError
  | operationTimeout
  | requestRejected
  | outputLimit
  | other
deriving DecidableEq

inductive FailureReason
  | hardTimeout
  | backendFailure

inductive ExecutionEvent
  | output (chunk : JsText) (sequence : Nat) (stream : OutputStream)
  | exit (exitCode : Int) (sequence : Nat)
  | failed (reason : FailureReason) (retryable : Bool) (sequence : Nat)

namespace ExecutionEvent

def sequence : ExecutionEvent → Nat
  | .output _ n _ => n
  | .exit _ n => n
  | .failed _ _ n => n

def terminal : ExecutionEvent → Bool
  | .output _ _ _ => false
  | _ => true

/-- The bytes that an event takes in the queue. -/
def size : ExecutionEvent → Nat
  | .output chunk _ _ => (JsText.encode chunk).length
  | _ => 0

def chunk? : ExecutionEvent → Option (OutputStream × JsText)
  | .output chunk _ stream => some (stream, chunk)
  | _ => none

end ExecutionEvent

def maxOutputQueueBytes : Nat := 1048576

def maxOutputQueueEvents : Nat := 1024

structure EventQueue where
  ended : Bool
  events : List (ExecutionEvent × Nat)
  queuedBytes : Nat
  bytes_eq : queuedBytes = (events.map Prod.snd).sum

namespace EventQueue

def empty : EventQueue :=
  { ended := false
    events := []
    queuedBytes := 0
    bytes_eq := rfl }

variable (queue : EventQueue)

def refuses (event : ExecutionEvent) : Bool :=
  queue.ended ||
    (!event.terminal &&
      (decide (maxOutputQueueEvents ≤ queue.events.length) ||
        decide (maxOutputQueueBytes < queue.queuedBytes + event.size)))

def append (event : ExecutionEvent) : EventQueue :=
  { ended := queue.ended
    events := queue.events ++ [(event, event.size)]
    queuedBytes := queue.queuedBytes + event.size
    bytes_eq := by simp [queue.bytes_eq] }

def push (event : ExecutionEvent) : EventQueue × Bool :=
  if queue.refuses event then (queue, false) else (queue.append event, true)

def close : EventQueue :=
  { queue with ended := true }

def shift : Option (ExecutionEvent × EventQueue) :=
  match h : queue.events with
  | [] => none
  | (event, size) :: rest =>
    some
      (event,
        { ended := queue.ended
          events := rest
          queuedBytes := queue.queuedBytes - size
          bytes_eq := by simp [queue.bytes_eq, h] })

end EventQueue

inductive EgressAccess
  | denyAll
  | toolGateway (runId : String)

/-- A request to execute; an access that does not pass its validation is absent. -/
structure ExecuteInput where
  egressAccess : Option EgressAccess
  /-- The run that owns the lease, when a run does. -/
  ownerRunId : Option String

/-- What the execution is waiting for. -/
inductive Phase
  | beginProcess
  | cleanOutbound
  | setOutbound
  | getSession
  | startProcess
  | markRunning
  | killRequested
  | finishKill
  | streamedExit
  | stopProcess (error : ExecuteError)
  | waitForExit (error : ExecuteError)
  | killStarting (error : ExecuteError)
  | removeOutbound
  | clearProcess
  | closed
deriving DecidableEq

/-- The execution waits with a timer. -/
def Phase.timed : Phase → Bool
  | .beginProcess => false
  | .getSession => false
  | .markRunning => false
  | .finishKill => false
  | .clearProcess => false
  | .closed => false
  | _ => true

/-- The terminal event has been pushed. -/
def Phase.afterTerminal : Phase → Bool
  | .removeOutbound => true
  | .clearProcess => true
  | .closed => true
  | _ => false

structure ExecutionState where
  queue : EventQueue
  phase : Phase
  egressAccess : EgressAccess
  sequence : Nat
  processId : Option String
  /-- The provider has handed back a process. -/
  process : Bool
  processBound : Bool
  processStartAttempted : Bool
  processStartStateUncertain : Bool
  processTerminalConfirmed : Bool
  sandbox : Bool
  outboundStateConfirmedClean : Bool
  toolGatewayConfigurationAttempted : Bool
  toolGatewayConfigurationConfirmed : Bool
  /-- How the callbacks have settled the exit. -/
  streamedExit : Option (Except ExecuteError Int)
  /-- What the process has printed so far. -/
  produced : List (OutputStream × JsText)
  /-- What the consumer has been handed so far. -/
  delivered : List ExecutionEvent

/-- The state before anything has happened. -/
def ExecutionState.blank : ExecutionState :=
  { queue := .empty
    phase := .beginProcess
    egressAccess := .denyAll
    sequence := 0
    processId := none
    process := false
    processBound := false
    processStartAttempted := false
    processStartStateUncertain := false
    processTerminalConfirmed := false
    sandbox := false
    outboundStateConfirmedClean := false
    toolGatewayConfigurationAttempted := false
    toolGatewayConfigurationConfirmed := false
    streamedExit := none
    produced := []
    delivered := [] }

variable (state : ExecutionState)

namespace ExecutionState

/-- The end of the clean-up. -/
def close : ExecutionState :=
  { state with
    phase := .closed
    queue := state.queue.close }

def clearOrClose : ExecutionState :=
  if state.processId.isSome && state.processBound && state.processTerminalConfirmed &&
      state.outboundStateConfirmedClean && !state.processStartStateUncertain then
    { state with phase := .clearProcess }
  else
    state.close

def cleanUp : ExecutionState :=
  if state.sandbox &&
      (state.toolGatewayConfigurationAttempted || !state.outboundStateConfirmedClean) then
    { state with phase := .removeOutbound }
  else
    state.clearOrClose

def pushTerminal (event : Nat → ExecutionEvent) : ExecutionState :=
  { state with
    queue := (state.queue.push (event state.sequence)).1
    sequence := state.sequence + 1 }

def pushExit (exitCode : Int) : ExecutionState :=
  ({ state with processTerminalConfirmed := true }.pushTerminal (.exit exitCode)).cleanUp

def pushFailed (error : ExecuteError) : ExecutionState :=
  (state.pushTerminal
    (.failed (if error = .operationTimeout then .hardTimeout else .backendFailure)
      (decide (error = .other)))).cleanUp

def fail (error : ExecuteError) : ExecutionState :=
  let state :=
    if state.processStartAttempted then state
    else { state with processTerminalConfirmed := true }
  if state.process then
    { state with phase := .stopProcess error }
  else if state.processStartAttempted && state.processBound && state.processId.isSome then
    { state with phase := .killStarting error }
  else
    state.pushFailed error

end ExecutionState

/-- What the lease registry and the sandbox binding answer to the start of a process. -/
inductive Reservation
  | refused
  | reserved
  | reservedWithoutSandbox
deriving DecidableEq

inductive ExecutionLabel
  /-- The process prints a chunk. -/
  | output (stream : OutputStream) (data : JsText)
  /-- The process exits. -/
  | exit (code : Option Int)
  /-- The process has an error. -/
  | error
  /-- The consumer takes the next event. -/
  | take
  /-- The lease registry answers to the start of the process. -/
  | reserved (reservation : Reservation)
  /-- The provider has started the process. -/
  | started (id : String)
  /-- The lease registry has marked the process running. -/
  | marked (killRequested : Bool)
  /-- What the execution is waiting for is done. -/
  | resolved
  /-- What the execution is waiting for fails. -/
  | rejected (error : ExecuteError)
  /-- The timer of what the execution is waiting for fires. -/
  | timedOut
deriving DecidableEq

variable (input : ExecuteInput)

namespace ExecutionState

/-- A promise settles once. -/
def settle (result : Except ExecuteError Int) : ExecutionState :=
  { state with streamedExit := state.streamedExit.orElse fun _ => some result }

def onOutput (stream : OutputStream) (data : JsText) : ExecutionState :=
  let state := { state with produced := state.produced ++ [(stream, data)] }
  let pushed := state.queue.push (.output data state.sequence stream)
  if pushed.2 then
    { state with queue := pushed.1, sequence := state.sequence + 1 }
  else
    state.settle (.error .outputLimit)

def onExit (code : Option Int) : ExecutionState :=
  match code with
  | none => state.settle (.error .other)
  | some code => state.settle (.ok code)

def take : Option ExecutionState :=
  state.queue.shift.map fun taken =>
    { state with queue := taken.2, delivered := state.delivered ++ [taken.1] }

def configureOutbound (state : ExecutionState) : ExecutionState :=
  let state := { state with outboundStateConfirmedClean := true }
  match state.egressAccess with
  | .denyAll => { state with phase := .getSession }
  | .toolGateway runId =>
    if input.ownerRunId.any fun owner => owner ≠ runId then
      state.fail .requestRejected
    else
      { state with
        toolGatewayConfigurationAttempted := true
        outboundStateConfirmedClean := false
        phase := .setOutbound }

def onReserved : Reservation → ExecutionState
  | .refused => state.fail .requestRejected
  | .reserved => { state with processBound := true, sandbox := true, phase := .cleanOutbound }
  | .reservedWithoutSandbox => { state with processBound := true }.fail .other

/-- The process that the provider hands back has the identifier it was given. -/
def onStarted (id : String) : ExecutionState :=
  let state := { state with process := true }
  if state.processId = some id then { state with phase := .markRunning } else state.fail .other

def onOutboundRemoved : ExecutionState :=
  if !state.toolGatewayConfigurationAttempted || state.toolGatewayConfigurationConfirmed then
    { state with outboundStateConfirmedClean := true }.clearOrClose
  else
    state.clearOrClose

def onResolved (state : ExecutionState) : Option ExecutionState :=
  match state.phase with
  | .cleanOutbound => some (state.configureOutbound input)
  | .setOutbound =>
    some { state with toolGatewayConfigurationConfirmed := true, phase := .getSession }
  | .getSession => some { state with processStartAttempted := true, phase := .startProcess }
  | .killRequested => some { state with phase := .finishKill }
  | .finishKill => some { state with phase := .streamedExit }
  | .streamedExit =>
    state.streamedExit.map fun
      | .ok exitCode => state.pushExit exitCode
      | .error error => state.fail error
  | .stopProcess error => some { state with phase := .waitForExit error }
  | .waitForExit error => some ({ state with processTerminalConfirmed := true }.pushFailed error)
  | .killStarting error => some ({ state with processTerminalConfirmed := true }.pushFailed error)
  | .removeOutbound => some state.onOutboundRemoved
  | .clearProcess => some state.close
  | _ => none

def onRejected (error : ExecuteError) : Option ExecutionState :=
  match state.phase with
  | .startProcess =>
    some ({ state with
      processStartStateUncertain :=
        state.processStartStateUncertain || decide (error = ExecuteError.operationTimeout) }.fail
        error)
  | .streamedExit => none
  | .stopProcess cause => some (state.pushFailed cause)
  | .waitForExit cause => some (state.pushFailed cause)
  | .killStarting cause => some (state.pushFailed cause)
  | .removeOutbound => some { state with outboundStateConfirmedClean := false }.clearOrClose
  | .clearProcess => some state.close
  | .closed => none
  | _ => some (state.fail error)

def onTimedOut : Option ExecutionState :=
  if state.phase.timed then
    if state.phase = .streamedExit then some (state.fail .operationTimeout)
    else state.onRejected .operationTimeout
  else
    none

end ExecutionState

def step (state : ExecutionState) : ExecutionLabel → Option ExecutionState
  | .output stream data =>
    if state.processStartAttempted then some (state.onOutput stream data) else none
  | .exit code => if state.processStartAttempted then some (state.onExit code) else none
  | .error => if state.processStartAttempted then some (state.settle (.error .other)) else none
  | .take => state.take
  | .reserved reservation =>
    if state.phase = .beginProcess then some (state.onReserved reservation) else none
  | .started id => if state.phase = .startProcess then some (state.onStarted id) else none
  | .marked killRequested =>
    if state.phase = .markRunning then
      some { state with phase := if killRequested then .killRequested else .streamedExit }
    else
      none
  | .resolved => state.onResolved input
  | .rejected error => state.onRejected error
  | .timedOut => state.onTimedOut

/--
The state in which `execute` hands back the queue.  The identifier of the process
is absent when quoting its command or drawing the identifier throws.
-/
def execute (newId : Option String) : ExecutionState :=
  match input.egressAccess with
  | none => ExecutionState.blank.fail .requestRejected
  | some egressAccess =>
    match newId with
    | none => ExecutionState.blank.fail .other
    | some id =>
      { ExecutionState.blank with egressAccess := egressAccess, processId := some id }

end Aiphabee.ExecutionStream
