import Mathlib.Data.List.Infix
import Aiphabee.Sandbox.ExecutionStream

/-!
# What the consumer of an execution receives

The events of an execution are numbered without a gap, and one terminal event is
among them, whatever the process and the provider do.  Two things can go wrong:
the queue may take a chunk although it has refused one before, and it may take
one although the terminal event is already in it.  `stream_intact_iff` says that
nothing else can.
-/

namespace Aiphabee.ExecutionStream

open Transition

def outputs (events : List ExecutionEvent) : List (OutputStream × JsText) :=
  events.filterMap ExecutionEvent.chunk?

namespace ExecutionState

/-- What the consumer has been handed, and what is still in the queue for it. -/
def stream (state : ExecutionState) : List ExecutionEvent :=
  state.delivered ++ state.queue.events.map Prod.fst

/-- The consumer has come to the end of the events. -/
def consumed (state : ExecutionState) : Bool :=
  state.queue.ended && state.queue.events.isEmpty

def takeMany : Nat → ExecutionState → ExecutionState
  | 0, state => state
  | count + 1, state =>
    match state.take with
    | none => state
    | some next => takeMany count next

end ExecutionState

/-- The consumer has been handed numbered events, the first chunks of the process, and one end. -/
structure Received (state : ExecutionState) : Prop where
  numbered : state.delivered.map ExecutionEvent.sequence = List.range state.delivered.length
  gapFree : outputs state.delivered <+: state.produced
  terminalLast : ∀ event ∈ state.delivered.dropLast, event.terminal = false
  complete : state.consumed = true →
    ∃ event, state.delivered.getLast? = some event ∧ event.terminal = true

/-- However many events of the queue the consumer takes, it has received what it should. -/
def Intact (state : ExecutionState) : Prop :=
  ∀ count, Received (state.takeMany count)

/--
A callback that prints a chunk which the queue takes: no terminal event has been
pushed, and the first chunk that the queue has not taken, if any, was the same.
-/
def Admits (state : ExecutionState) : ExecutionLabel → Prop
  | .output stream data =>
    state.queue.refuses (.output data state.sequence stream) = false →
      state.phase.afterTerminal = false ∧
        ∀ missing, state.produced[(outputs state.stream).length]? = some missing →
          missing = (stream, data)
  | _ => True

section Frames

structure Streaming where
  queue : EventQueue
  phase : Phase
  sequence : Nat
  produced : List (OutputStream × JsText)
  delivered : List ExecutionEvent

/-- The other parts of a state say where the execution goes on. -/
def ExecutionState.streaming (state : ExecutionState) : Streaming :=
  { queue := state.queue
    phase := state.phase
    sequence := state.sequence
    produced := state.produced
    delivered := state.delivered }

structure Keeps (state : Streaming) (next : ExecutionState) : Prop where
  events : next.queue.events = state.queue.events
  sequence : next.sequence = state.sequence
  produced : next.produced = state.produced
  delivered : next.delivered = state.delivered
  afterTerminal : next.phase.afterTerminal = state.phase.afterTerminal
  ended : next.queue.ended = decide (next.phase = .closed)

structure Ends (state : Streaming) (next : ExecutionState) : Prop where
  events : ∃ event : ExecutionEvent, event.terminal = true ∧ event.sequence = state.sequence ∧
    next.queue.events = state.queue.events ++ [(event, event.size)]
  sequence : next.sequence = state.sequence + 1
  produced : next.produced = state.produced
  delivered : next.delivered = state.delivered
  before : state.phase.afterTerminal = false
  after : next.phase.afterTerminal = true
  ended : next.queue.ended = decide (next.phase = .closed)

/-- What a step of the execution itself does to its events. -/
def Proceeds (state : Streaming) (next : ExecutionState) : Prop :=
  Keeps state next ∨ Ends state next

/-- No terminal event has been pushed, and the queue takes one. -/
structure Open (queue : EventQueue) (phase : Phase) : Prop where
  ended : queue.ended = false
  before : phase.afterTerminal = false

variable {state : ExecutionState}

theorem not_closed (h : state.phase.afterTerminal = false) : state.phase ≠ .closed := by
  intro hclosed
  rw [hclosed] at h
  cases h

/-- The end of the clean-up pushes no event. -/
theorem clearOrClose_keeps (hended : state.queue.ended = false) :
    state.clearOrClose.queue.events = state.queue.events ∧
      state.clearOrClose.sequence = state.sequence ∧
      state.clearOrClose.produced = state.produced ∧
      state.clearOrClose.delivered = state.delivered ∧
      state.clearOrClose.phase.afterTerminal = true ∧
      state.clearOrClose.queue.ended = decide (state.clearOrClose.phase = .closed) := by
  rw [ExecutionState.clearOrClose]
  split
  · simp [hended, Phase.afterTerminal]
  · simp [ExecutionState.close, EventQueue.close, Phase.afterTerminal]

theorem cleanUp_keeps (hended : state.queue.ended = false) :
    state.cleanUp.queue.events = state.queue.events ∧
      state.cleanUp.sequence = state.sequence ∧
      state.cleanUp.produced = state.produced ∧
      state.cleanUp.delivered = state.delivered ∧
      state.cleanUp.phase.afterTerminal = true ∧
      state.cleanUp.queue.ended = decide (state.cleanUp.phase = .closed) := by
  rw [ExecutionState.cleanUp]
  split
  · simp [hended, Phase.afterTerminal]
  · exact clearOrClose_keeps hended

theorem pushTerminal_queue (hended : state.queue.ended = false) {event : Nat → ExecutionEvent}
    (hterminal : (event state.sequence).terminal = true) :
    (state.pushTerminal event).queue = state.queue.append (event state.sequence) := by
  have hrefuses : state.queue.refuses (event state.sequence) = false := by
    simp [EventQueue.refuses, hended, hterminal]
  simp [ExecutionState.pushTerminal, EventQueue.push, hrefuses]

theorem pushTerminal_cleanUp_ends (state : ExecutionState) (event : Nat → ExecutionEvent)
    (hopen : Open state.queue state.phase) (hterminal : (event state.sequence).terminal = true)
    (hnumber : (event state.sequence).sequence = state.sequence) :
    Ends state.streaming (state.pushTerminal event).cleanUp := by
  have hqueue := pushTerminal_queue hopen.ended hterminal
  have hstill : (state.pushTerminal event).queue.ended = false := by
    rw [hqueue]
    exact hopen.ended
  obtain ⟨hevents, hsequence, hproduced, hdelivered, hafter, hclosed⟩ := cleanUp_keeps hstill
  exact
    { events := ⟨event state.sequence, hterminal, hnumber, by rw [hevents, hqueue]; rfl⟩
      sequence := hsequence
      produced := hproduced
      delivered := hdelivered
      before := hopen.before
      after := hafter
      ended := hclosed }

theorem pushFailed_ends (state : ExecutionState) (hopen : Open state.queue state.phase)
    (error : ExecuteError) : Ends state.streaming (state.pushFailed error) :=
  pushTerminal_cleanUp_ends state _ hopen rfl rfl

theorem pushExit_ends (hopen : Open state.queue state.phase) (exitCode : Int) :
    Ends state.streaming (state.pushExit exitCode) :=
  pushTerminal_cleanUp_ends { state with processTerminalConfirmed := true } (.exit exitCode)
    hopen rfl rfl

theorem fail_proceeds (state : ExecutionState) (hopen : Open state.queue state.phase)
    (error : ExecuteError) : Proceeds state.streaming (state.fail error) := by
  have hmarked : ∀ marked : ExecutionState, marked.streaming = state.streaming →
      Proceeds state.streaming
        (if marked.process then { marked with phase := .stopProcess error }
        else if marked.processStartAttempted && marked.processBound && marked.processId.isSome then
          { marked with phase := .killStarting error }
        else marked.pushFailed error) := by
    intro marked heq
    rw [← heq]
    have hqueue : marked.queue = state.queue := congrArg Streaming.queue heq
    have hphase : marked.phase = state.phase := congrArg Streaming.phase heq
    rw [← hqueue, ← hphase] at hopen
    split
    · exact Or.inl ⟨rfl, rfl, rfl, rfl, hopen.before.symm, hopen.ended⟩
    · split
      · exact Or.inl ⟨rfl, rfl, rfl, rfl, hopen.before.symm, hopen.ended⟩
      · exact Or.inr (pushFailed_ends marked hopen error)
  rw [ExecutionState.fail]
  split
  · exact hmarked state rfl
  · exact hmarked { state with processTerminalConfirmed := true } rfl

theorem keeps_of_phase {next : ExecutionState} (hopen : Open state.queue state.phase)
    (hnext : { next.streaming with phase := state.phase } = state.streaming)
    (hphase : next.phase.afterTerminal = false) : Proceeds state.streaming next := by
  have hqueue : next.queue = state.queue := congrArg Streaming.queue hnext
  refine Or.inl ⟨congrArg EventQueue.events hqueue, congrArg Streaming.sequence hnext,
    congrArg Streaming.produced hnext, congrArg Streaming.delivered hnext,
    hphase.trans hopen.before.symm, ?_⟩
  rw [hqueue, hopen.ended]
  exact (decide_eq_false (not_closed hphase)).symm

theorem clearOrClose_proceeds (state : ExecutionState) (hended : state.queue.ended = false)
    (hafter : state.phase.afterTerminal = true) : Proceeds state.streaming state.clearOrClose := by
  obtain ⟨hevents, hsequence, hproduced, hdelivered, hphase, hclosed⟩ :=
    clearOrClose_keeps hended
  exact Or.inl ⟨hevents, hsequence, hproduced, hdelivered, hphase.trans hafter.symm, hclosed⟩

theorem close_proceeds (hafter : state.phase.afterTerminal = true) :
    Proceeds state.streaming state.close :=
  Or.inl ⟨rfl, rfl, rfl, rfl, hafter.symm, rfl⟩

theorem onOutboundRemoved_proceeds (hended : state.queue.ended = false)
    (hafter : state.phase.afterTerminal = true) :
    Proceeds state.streaming state.onOutboundRemoved := by
  rw [ExecutionState.onOutboundRemoved]
  split
  · exact clearOrClose_proceeds
      { state with outboundStateConfirmedClean := true } hended hafter
  · exact clearOrClose_proceeds state hended hafter

theorem onReserved_proceeds (hopen : Open state.queue state.phase) (reservation : Reservation) :
    Proceeds state.streaming (state.onReserved reservation) := by
  cases reservation with
  | refused => exact fail_proceeds state hopen _
  | reserved => exact keeps_of_phase hopen rfl rfl
  | reservedWithoutSandbox =>
    exact fail_proceeds { state with processBound := true } hopen _

theorem configureOutbound_proceeds (hopen : Open state.queue state.phase) (input : ExecuteInput) :
    Proceeds state.streaming (state.configureOutbound input) := by
  rw [ExecutionState.configureOutbound]
  dsimp only
  split
  · exact keeps_of_phase hopen rfl rfl
  · split
    · exact fail_proceeds
        { state with outboundStateConfirmedClean := true } hopen _
    · exact keeps_of_phase hopen rfl rfl

theorem onStarted_proceeds (hopen : Open state.queue state.phase) (id : String) :
    Proceeds state.streaming (state.onStarted id) := by
  rw [ExecutionState.onStarted]
  split
  · exact keeps_of_phase hopen rfl rfl
  · exact fail_proceeds { state with process := true } hopen _

end Frames

section Steps

variable {input : ExecuteInput}
variable {state next : ExecutionState}

theorem open_of_phase (hended : state.queue.ended = decide (state.phase = .closed)) {phase : Phase}
    (hphase : state.phase = phase) (hbefore : phase.afterTerminal = false) :
    Open state.queue state.phase := by
  rw [← hphase] at hbefore
  exact ⟨hended.trans (decide_eq_false (not_closed hbefore)), hbefore⟩

theorem onResolved_proceeds (hended : state.queue.ended = decide (state.phase = .closed))
    (h : state.onResolved input = some next) : Proceeds state.streaming next := by
  rw [ExecutionState.onResolved] at h
  split at h
  next hphase =>
    cases h
    exact configureOutbound_proceeds (open_of_phase hended hphase rfl) input
  next hphase =>
    cases h
    exact keeps_of_phase (open_of_phase hended hphase rfl) rfl rfl
  next hphase =>
    cases h
    exact keeps_of_phase (open_of_phase hended hphase rfl) rfl rfl
  next hphase =>
    cases h
    exact keeps_of_phase (open_of_phase hended hphase rfl) rfl rfl
  next hphase =>
    cases h
    exact keeps_of_phase (open_of_phase hended hphase rfl) rfl rfl
  next hphase =>
    have hopen := open_of_phase hended hphase rfl
    obtain ⟨settled, _, rfl⟩ := Option.map_eq_some_iff.mp h
    cases settled with
    | ok exitCode => exact Or.inr (pushExit_ends hopen exitCode)
    | error error => exact fail_proceeds state hopen error
  next error hphase =>
    cases h
    exact keeps_of_phase (open_of_phase hended hphase rfl) rfl rfl
  next error hphase =>
    have hopen := open_of_phase hended hphase rfl
    cases h
    exact Or.inr (pushFailed_ends
      { state with processTerminalConfirmed := true } hopen error)
  next error hphase =>
    have hopen := open_of_phase hended hphase rfl
    cases h
    exact Or.inr (pushFailed_ends
      { state with processTerminalConfirmed := true } hopen error)
  next hphase =>
    have hopen : state.queue.ended = false := by simp [hended, hphase]
    cases h
    exact onOutboundRemoved_proceeds hopen (hphase ▸ rfl)
  next hphase =>
    cases h
    exact close_proceeds (hphase ▸ rfl)
  next => cases h

theorem onRejected_proceeds {error : ExecuteError}
    (hended : state.queue.ended = decide (state.phase = .closed))
    (h : state.onRejected error = some next) : Proceeds state.streaming next := by
  rw [ExecutionState.onRejected] at h
  split at h
  next hphase =>
    have hopen := open_of_phase hended hphase rfl
    cases h
    exact fail_proceeds
      { state with
        processStartStateUncertain :=
          state.processStartStateUncertain || decide (error = ExecuteError.operationTimeout) }
      hopen error
  next => cases h
  next cause hphase =>
    cases h
    exact Or.inr (pushFailed_ends state (open_of_phase hended hphase rfl) cause)
  next cause hphase =>
    cases h
    exact Or.inr (pushFailed_ends state (open_of_phase hended hphase rfl) cause)
  next cause hphase =>
    cases h
    exact Or.inr (pushFailed_ends state (open_of_phase hended hphase rfl) cause)
  next hphase =>
    have hopen : state.queue.ended = false := by simp [hended, hphase]
    cases h
    exact clearOrClose_proceeds
      { state with outboundStateConfirmedClean := false } hopen (hphase ▸ rfl)
  next hphase =>
    cases h
    exact close_proceeds (hphase ▸ rfl)
  next => cases h
  next =>
    have hbefore : state.phase.afterTerminal = false := by
      cases hphase : state.phase <;> simp_all [Phase.afterTerminal]
    have hopen := open_of_phase hended rfl hbefore
    cases h
    exact fail_proceeds state hopen error

/-- What a step does to the events, when neither the process prints nor the consumer takes one. -/
theorem step_proceeds {label : ExecutionLabel}
    (hended : state.queue.ended = decide (state.phase = .closed))
    (houtput : ∀ stream data, label ≠ .output stream data) (htake : label ≠ .take)
    (h : step input state label = some next) : Proceeds state.streaming next := by
  have hsettle : ∀ result, Proceeds state.streaming (state.settle result) := fun result =>
    Or.inl ⟨rfl, rfl, rfl, rfl, rfl, hended⟩
  cases label with
  | output stream data => exact absurd rfl (houtput stream data)
  | take => exact absurd rfl htake
  | exit code =>
    obtain ⟨_, rfl⟩ := Option.ite_some_none_eq_some.mp h
    cases code with
    | none => exact hsettle _
    | some code => exact hsettle _
  | error =>
    obtain ⟨_, rfl⟩ := Option.ite_some_none_eq_some.mp h
    exact hsettle _
  | reserved reservation =>
    obtain ⟨hphase, rfl⟩ := Option.ite_some_none_eq_some.mp h
    exact onReserved_proceeds (open_of_phase hended hphase rfl) reservation
  | started id =>
    obtain ⟨hphase, rfl⟩ := Option.ite_some_none_eq_some.mp h
    exact onStarted_proceeds (open_of_phase hended hphase rfl) id
  | marked killRequested =>
    obtain ⟨hphase, rfl⟩ := Option.ite_some_none_eq_some.mp h
    have hopen := open_of_phase hended hphase rfl
    cases killRequested with
    | false => exact keeps_of_phase hopen rfl rfl
    | true => exact keeps_of_phase hopen rfl rfl
  | resolved => exact onResolved_proceeds hended h
  | rejected error => exact onRejected_proceeds hended h
  | timedOut =>
    simp only [step, ExecutionState.onTimedOut] at h
    split at h
    · split at h
      next hphase =>
        have hopen := open_of_phase hended hphase rfl
        cases h
        exact fail_proceeds state hopen _
      next => exact onRejected_proceeds hended h
    · cases h

/-- A chunk that is refused leaves the stream, and one that is taken is its last event. -/
theorem onOutput_cases (state : ExecutionState) (stream : OutputStream) (data : JsText) :
    (state.queue.refuses (.output data state.sequence stream) = true ∧
        (state.onOutput stream data).queue = state.queue ∧
        (state.onOutput stream data).sequence = state.sequence ∨
      state.queue.refuses (.output data state.sequence stream) = false ∧
        (state.onOutput stream data).queue =
          state.queue.append (.output data state.sequence stream) ∧
        (state.onOutput stream data).sequence = state.sequence + 1) ∧
      (state.onOutput stream data).phase = state.phase ∧
      (state.onOutput stream data).produced = state.produced ++ [(stream, data)] ∧
      (state.onOutput stream data).delivered = state.delivered := by
  cases hrefuses : state.queue.refuses (.output data state.sequence stream) with
  | true => simp [ExecutionState.onOutput, EventQueue.push, hrefuses, ExecutionState.settle]
  | false => simp [ExecutionState.onOutput, EventQueue.push, hrefuses]

theorem take_eq_some (h : state.take = some next) :
    ∃ event size rest, state.queue.events = (event, size) :: rest ∧
      next.queue.events = rest ∧
      next.queue.ended = state.queue.ended ∧
      next.delivered = state.delivered ++ [event] ∧
      next.phase = state.phase ∧
      next.sequence = state.sequence ∧
      next.produced = state.produced := by
  obtain ⟨taken, htaken, rfl⟩ := Option.map_eq_some_iff.mp h
  rw [EventQueue.shift] at htaken
  split at htaken
  · cases htaken
  next event size rest hevents =>
    cases htaken
    exact ⟨event, size, rest, hevents, rfl, rfl, rfl, rfl, rfl, rfl⟩

theorem take_eq_none (h : state.take = none) : state.queue.events = [] := by
  rw [ExecutionState.take, Option.map_eq_none_iff, EventQueue.shift] at h
  split at h
  next hevents => exact hevents
  · cases h

theorem take_stream (h : state.take = some next) : next.stream = state.stream := by
  obtain ⟨event, size, rest, hevents, hrest, _, hdelivered, _⟩ := take_eq_some h
  simp [ExecutionState.stream, hevents, hrest, hdelivered]

end Steps

section Invariant

variable {input : ExecuteInput}
variable {state next : ExecutionState}

/-- What holds of the stream whatever happens. -/
structure Invariant (state : ExecutionState) : Prop where
  numbered : state.stream.map ExecutionEvent.sequence = List.range state.sequence
  terminals : state.stream.countP ExecutionEvent.terminal =
    if state.phase.afterTerminal then 1 else 0
  ended : state.queue.ended = decide (state.phase = .closed)

theorem Invariant.of_keeps (h : Invariant state) (hkeeps : Keeps state.streaming next) :
    Invariant next := by
  have hstream : next.stream = state.stream := by
    rw [ExecutionState.stream, hkeeps.events, hkeeps.delivered]
    rfl
  exact
    { numbered := by rw [hstream, hkeeps.sequence]; exact h.numbered
      terminals := by rw [hstream, hkeeps.afterTerminal]; exact h.terminals
      ended := hkeeps.ended }

theorem stream_append {event : ExecutionEvent × Nat}
    (hevents : next.queue.events = state.queue.events ++ [event])
    (hdelivered : next.delivered = state.delivered) : next.stream = state.stream ++ [event.1] := by
  simp [ExecutionState.stream, hevents, hdelivered]

theorem Invariant.of_ends (h : Invariant state) (hends : Ends state.streaming next) :
    Invariant next := by
  obtain ⟨event, hterminal, hnumber, hevents⟩ := hends.events
  have hstream : next.stream = state.stream ++ [event] :=
    stream_append hevents hends.delivered
  have hbefore : state.phase.afterTerminal = false := hends.before
  have hsequence : event.sequence = state.sequence := hnumber
  have hnext : next.sequence = state.sequence + 1 := hends.sequence
  exact
    { numbered := by simp [hstream, hnext, hsequence, h.numbered, List.range_succ]
      terminals := by simp [hstream, h.terminals, hbefore, hends.after, hterminal]
      ended := hends.ended }

theorem Invariant.onOutput (h : Invariant state) (stream : OutputStream) (data : JsText) :
    Invariant (state.onOutput stream data) := by
  obtain ⟨hqueue, hphase, _, hdelivered⟩ := onOutput_cases state stream data
  rcases hqueue with ⟨_, hqueue, hsequence⟩ | ⟨_, hqueue, hsequence⟩
  · have hstream : (state.onOutput stream data).stream = state.stream := by
      rw [ExecutionState.stream, hqueue, hdelivered]
      rfl
    exact
      { numbered := by rw [hstream, hsequence]; exact h.numbered
        terminals := by rw [hstream, hphase]; exact h.terminals
        ended := by rw [hqueue, hphase]; exact h.ended }
  · have hstream := stream_append (congrArg EventQueue.events hqueue) hdelivered
    have hnumber : (ExecutionEvent.output data state.sequence stream).sequence =
        state.sequence := rfl
    have hterminal : (ExecutionEvent.output data state.sequence stream).terminal = false := rfl
    exact
      { numbered := by simp [hstream, hsequence, hnumber, h.numbered, List.range_succ]
        terminals := by simp [hstream, hphase, h.terminals, hterminal]
        ended := by rw [hqueue, hphase]; exact h.ended }

theorem Invariant.take (h : Invariant state) (htake : state.take = some next) : Invariant next := by
  obtain ⟨_, _, _, _, _, hended, _, hphase, hsequence, _⟩ := take_eq_some htake
  have hstream := take_stream htake
  exact
    { numbered := by rw [hstream, hsequence]; exact h.numbered
      terminals := by rw [hstream, hphase]; exact h.terminals
      ended := by rw [hended, hphase]; exact h.ended }

theorem Invariant.step {label : ExecutionLabel} (h : Invariant state)
    (hstep : step input state label = some next) : Invariant next := by
  by_cases htake : label = .take
  · subst htake
    exact h.take hstep
  · by_cases houtput : ∃ stream data, label = .output stream data
    · obtain ⟨stream, data, rfl⟩ := houtput
      obtain ⟨_, rfl⟩ := Option.ite_some_none_eq_some.mp hstep
      exact h.onOutput stream data
    · have hother : ∀ stream data, label ≠ .output stream data := by
        rintro stream data rfl
        exact houtput ⟨stream, data, rfl⟩
      rcases step_proceeds h.ended hother htake hstep with hkeeps | hends
      · exact h.of_keeps hkeeps
      · exact h.of_ends hends

/-- The invariant holds as soon as the consumer has its queue. -/
theorem Invariant.execute (input : ExecuteInput) (newId : Option String) :
    Invariant (execute input newId) := by
  have hblank : Invariant ExecutionState.blank :=
    { numbered := rfl
      terminals := rfl
      ended := rfl }
  have hfail : ∀ error, Invariant (ExecutionState.blank.fail error) := by
    intro error
    rcases fail_proceeds .blank ⟨rfl, rfl⟩ error with hkeeps | hends
    · exact hblank.of_keeps hkeeps
    · exact hblank.of_ends hends
  rw [ExecutionStream.execute]
  split
  · exact hfail _
  · split
    · exact hfail _
    · exact
        { numbered := rfl
          terminals := rfl
          ended := rfl }

end Invariant

section Whole

variable {input : ExecuteInput}
variable {state next : ExecutionState}

/-- The stream has the first chunks of the process, and nothing after its end. -/
structure Whole (state : ExecutionState) : Prop where
  gapFree : outputs state.stream <+: state.produced
  terminalLast : ∀ event ∈ state.stream.dropLast, event.terminal = false

/-- Taking events changes what has been handed over, not the stream. -/
theorem takeMany_stream (count : Nat) (state : ExecutionState) :
    (state.takeMany count).stream = state.stream ∧
      (state.takeMany count).produced = state.produced := by
  induction count generalizing state with
  | zero => exact ⟨rfl, rfl⟩
  | succ count ih =>
    rw [ExecutionState.takeMany]
    cases htake : state.take with
    | none => exact ⟨rfl, rfl⟩
    | some next =>
      obtain ⟨_, _, _, _, _, _, _, _, _, hproduced⟩ := take_eq_some htake
      obtain ⟨hstream, hrest⟩ := ih next
      exact ⟨hstream.trans (take_stream htake), hrest.trans hproduced⟩

theorem Invariant.takeMany (count : Nat) (h : Invariant state) :
    Invariant (state.takeMany count) := by
  induction count generalizing state with
  | zero => exact h
  | succ count ih =>
    rw [ExecutionState.takeMany]
    cases htake : state.take with
    | none => exact h
    | some next => exact ih (h.take htake)

theorem takeMany_length (state : ExecutionState) {count : Nat}
    (h : state.queue.events.length ≤ count) : (state.takeMany count).queue.events = [] := by
  induction count generalizing state with
  | zero => exact List.length_eq_zero_iff.mp (Nat.le_zero.mp h)
  | succ count ih =>
    rw [ExecutionState.takeMany]
    cases htake : state.take with
    | none => exact take_eq_none htake
    | some next =>
      obtain ⟨_, _, rest, hevents, hrest, _⟩ := take_eq_some htake
      rw [hevents, List.length_cons] at h
      refine ih next ?_
      rw [hrest]
      omega

theorem getLast_terminal {events : List ExecutionEvent}
    (hlast : ∀ event ∈ events.dropLast, event.terminal = false)
    (hterminal : events.countP ExecutionEvent.terminal = 1) :
    ∃ event, events.getLast? = some event ∧ event.terminal = true := by
  obtain ⟨found, hfound, hends⟩ := List.countP_pos_iff.mp (hterminal ▸ Nat.one_pos)
  have hne : events ≠ [] := List.ne_nil_of_mem hfound
  refine ⟨events.getLast hne, List.getLast?_eq_some_getLast hne, ?_⟩
  rw [← List.dropLast_concat_getLast hne] at hfound
  rcases List.mem_append.mp hfound with hearlier | hfinal
  · rw [hlast found hearlier] at hends
    cases hends
  · rwa [List.mem_singleton.mp hfinal] at hends

theorem mem_dropLast_stream {event : ExecutionEvent} (h : event ∈ state.delivered.dropLast) :
    event ∈ state.stream.dropLast := by
  rw [ExecutionState.stream]
  by_cases hrest : state.queue.events.map Prod.fst = []
  · rw [hrest, List.append_nil]
    exact h
  · rw [List.dropLast_append_of_ne_nil hrest]
    exact List.mem_append_left _ (List.mem_of_mem_dropLast h)

theorem Whole.received (h : Whole state) (hstate : Invariant state) : Received state := by
  have hbegins : state.delivered <+: state.stream := List.prefix_append _ _
  have hnumbers := hbegins.map ExecutionEvent.sequence
  rw [hstate.numbered] at hnumbers
  refine
    { numbered := ?_
      gapFree := (hbegins.filterMap _).trans h.gapFree
      terminalLast := fun event hevent => h.terminalLast event (mem_dropLast_stream hevent)
      complete := ?_ }
  · have htake := List.prefix_iff_eq_take.mp hnumbers
    have hlength := hnumbers.length_le
    rw [List.length_map, List.length_range] at hlength
    rw [List.length_map, List.take_range, Nat.min_eq_left hlength] at htake
    exact htake
  · intro hconsumed
    obtain ⟨hended, hempty⟩ := Bool.and_eq_true_iff.mp hconsumed
    have hstream : state.stream = state.delivered := by
      simp [ExecutionState.stream, List.isEmpty_iff.mp hempty]
    have hclosed : state.phase = .closed := of_decide_eq_true (hstate.ended ▸ hended)
    have hterminals := hstate.terminals
    rw [hclosed, hstream] at hterminals
    have hlast := h.terminalLast
    rw [hstream] at hlast
    exact getLast_terminal hlast hterminals

theorem intact_iff_whole (hstate : Invariant state) : Intact state ↔ Whole state := by
  constructor
  · intro h
    have hall := h state.queue.events.length
    obtain ⟨hstream, hproduced⟩ := takeMany_stream state.queue.events.length state
    have hempty := takeMany_length state le_rfl
    have hdelivered : (state.takeMany state.queue.events.length).delivered = state.stream := by
      rw [← hstream, ExecutionState.stream, hempty]
      simp
    exact
      { gapFree := by rw [← hdelivered, ← hproduced]; exact hall.gapFree
        terminalLast := by rw [← hdelivered]; exact hall.terminalLast }
  · intro h count
    obtain ⟨hstream, hproduced⟩ := takeMany_stream count state
    have hwhole : Whole (state.takeMany count) :=
      { gapFree := by rw [hstream, hproduced]; exact h.gapFree
        terminalLast := by rw [hstream]; exact h.terminalLast }
    exact hwhole.received (hstate.takeMany count)

/-- A further element goes on with a list exactly when it is the next one, if there is a next one.
-/
theorem prefix_concat_iff {α : Type} {taken all : List α} (h : taken <+: all) {a : α} :
    taken ++ [a] <+: all ++ [a] ↔ ∀ missing, all[taken.length]? = some missing → missing = a := by
  obtain ⟨rest, rfl⟩ := h
  rw [List.append_assoc, List.prefix_append_right_inj, List.getElem?_append_right le_rfl,
    Nat.sub_self]
  cases rest with
  | nil => simp
  | cons first rest => simp [eq_comm]

theorem terminal_free_iff (hstate : Invariant state) :
    (∀ event ∈ state.stream, event.terminal = false) ↔ state.phase.afterTerminal = false := by
  have hterminals := hstate.terminals
  cases hphase : state.phase.afterTerminal with
  | false =>
    rw [hphase] at hterminals
    simpa using List.countP_eq_zero.mp hterminals
  | true =>
    rw [hphase] at hterminals
    have hone : 0 < state.stream.countP ExecutionEvent.terminal := by simp [hterminals]
    obtain ⟨event, hevent, hterminal⟩ := List.countP_pos_iff.mp hone
    refine iff_of_false (fun h => ?_) (by simp)
    rw [h event hevent] at hterminal
    cases hterminal

/-- A chunk that the queue takes leaves the stream whole exactly when it may come. -/
theorem whole_onOutput_iff (hstate : Invariant state) (hwhole : Whole state) (stream : OutputStream)
    (data : JsText) : Whole (state.onOutput stream data) ↔ Admits state (.output stream data) := by
  obtain ⟨hqueue, hphase, hproduced, hdelivered⟩ := onOutput_cases state stream data
  rcases hqueue with ⟨hrefuses, hqueue, _⟩ | ⟨hrefuses, hqueue, _⟩
  · have hstream : (state.onOutput stream data).stream = state.stream := by
      rw [ExecutionState.stream, hqueue, hdelivered]
      rfl
    have hkept : Whole (state.onOutput stream data) :=
      { gapFree := by
          rw [hstream, hproduced]
          exact hwhole.gapFree.trans (List.prefix_append _ _)
        terminalLast := by rw [hstream]; exact hwhole.terminalLast }
    exact iff_of_true hkept fun hadmitted => by rw [hrefuses] at hadmitted; cases hadmitted
  · have hstream := stream_append (congrArg EventQueue.events hqueue) hdelivered
    have hlast : (state.onOutput stream data).stream.dropLast = state.stream := by
      rw [hstream, List.dropLast_concat]
    have houtputs : outputs (state.onOutput stream data).stream =
        outputs state.stream ++ [(stream, data)] := by
      rw [hstream]
      simp [outputs, ExecutionEvent.chunk?]
    have hend := terminal_free_iff hstate
    constructor
    · intro h _
      refine ⟨hend.mp ?_, ?_⟩
      · rw [← hlast]
        exact h.terminalLast
      · refine (prefix_concat_iff hwhole.gapFree).mp ?_
        rw [← houtputs, ← hproduced]
        exact h.gapFree
    · intro h
      obtain ⟨hbefore, hmissing⟩ := h hrefuses
      exact
        { gapFree := by
            rw [houtputs, hproduced]
            exact (prefix_concat_iff hwhole.gapFree).mpr hmissing
          terminalLast := by
            rw [hlast]
            exact hend.mpr hbefore }

theorem Whole.of_proceeds (h : Whole state) (hstate : Invariant state)
    (hproceeds : Proceeds state.streaming next) : Whole next := by
  rcases hproceeds with hkeeps | hends
  · have hstream : next.stream = state.stream := by
      rw [ExecutionState.stream, hkeeps.events, hkeeps.delivered]
      rfl
    exact
      { gapFree := by rw [hstream, hkeeps.produced]; exact h.gapFree
        terminalLast := by rw [hstream]; exact h.terminalLast }
  · obtain ⟨event, hterminal, _, hevents⟩ := hends.events
    have hstream : next.stream = state.stream ++ [event] :=
      stream_append hevents hends.delivered
    have houtputs : outputs next.stream = outputs state.stream := by
      cases event with
      | output chunk n stream => cases hterminal
      | exit code n => simp [hstream, outputs, ExecutionEvent.chunk?]
      | failed reason retryable n => simp [hstream, outputs, ExecutionEvent.chunk?]
    exact
      { gapFree := by rw [houtputs, hends.produced]; exact h.gapFree
        terminalLast := by
          rw [hstream, List.dropLast_concat]
          exact (terminal_free_iff hstate).mpr hends.before }

theorem whole_step_iff {label : ExecutionLabel} (h : Whole state) (hstate : Invariant state)
    (hstep : step input state label = some next) : Whole next ↔ Admits state label := by
  by_cases htake : label = .take
  · subst htake
    obtain ⟨_, _, _, _, _, _, _, _, _, hproduced⟩ := take_eq_some hstep
    have hstream := take_stream hstep
    have hkept : Whole next :=
      { gapFree := by rw [hstream, hproduced]; exact h.gapFree
        terminalLast := by rw [hstream]; exact h.terminalLast }
    exact iff_of_true hkept trivial
  · by_cases houtput : ∃ stream data, label = .output stream data
    · obtain ⟨stream, data, rfl⟩ := houtput
      obtain ⟨_, rfl⟩ := Option.ite_some_none_eq_some.mp hstep
      exact whole_onOutput_iff hstate h stream data
    · have hother : ∀ stream data, label ≠ .output stream data := by
        rintro stream data rfl
        exact houtput ⟨stream, data, rfl⟩
      have hadmits : Admits state label := by
        cases label with
        | output stream data => exact absurd rfl (hother stream data)
        | _ => trivial
      exact iff_of_true (h.of_proceeds hstate (step_proceeds hstate.ended hother htake hstep))
        hadmits

theorem Whole.execute (input : ExecuteInput) (newId : Option String) :
    Whole (execute input newId) := by
  have hblank : Whole ExecutionState.blank :=
    { gapFree := List.prefix_rfl
      terminalLast := fun event hevent => by cases hevent }
  have hstate : Invariant ExecutionState.blank :=
    { numbered := rfl
      terminals := rfl
      ended := rfl }
  rw [ExecutionStream.execute]
  split
  · exact hblank.of_proceeds hstate (fail_proceeds .blank ⟨rfl, rfl⟩ _)
  · split
    · exact hblank.of_proceeds hstate (fail_proceeds .blank ⟨rfl, rfl⟩ _)
    · exact
        { gapFree := List.prefix_rfl
          terminalLast := fun event hevent => by cases hevent }

end Whole

/--
An execution hands its consumer numbered events, the first chunks of its process
and one terminal event at the end, in every state of a run and however much of
the queue the consumer takes, exactly when the queue takes no chunk after the
terminal event and none in the place of another that it has refused.
-/
theorem stream_intact_iff (input : ExecuteInput) (newId : Option String)
    (labels : List ExecutionLabel) (state : ExecutionState)
    (h : Run (Fires (step input)) (execute input newId) labels state) :
    Run (Guarded (Fires (step input)) Admits) (execute input newId) labels state ↔
      Always (Fires (step input)) Intact (execute input newId) labels := by
  refine Run.guarded_iff_always (I := Invariant) (fires_deterministic _)
    (fun _ _ _ hstep hstate => hstate.step hstep) ?_ ?_ h (Invariant.execute input newId) ?_
  · intro before label after hstep hstate hintact hadmits
    refine (intact_iff_whole (hstate.step hstep)).mpr ?_
    exact (whole_step_iff ((intact_iff_whole hstate).mp hintact) hstate hstep).mpr hadmits
  · intro before label after hstep hstate hintact hnext
    refine (whole_step_iff ((intact_iff_whole hstate).mp hintact) hstate hstep).mp ?_
    exact (intact_iff_whole (hstate.step hstep)).mp hnext
  · exact (intact_iff_whole (Invariant.execute input newId)).mpr (Whole.execute input newId)

/-- A process that prints one chunk and exits. -/
def hello : List ExecutionLabel :=
  [.reserved .reserved, .resolved, .resolved, .started "p", .marked false,
    .output .stdout [104, 105], .exit (some 0), .resolved, .take, .take, .resolved]

/-- The consumer of a process that prints one chunk receives it and the exit. -/
theorem stream_intact_iff_hello :
    ∃ state,
      Run (Fires (step { egressAccess := some .denyAll, ownerRunId := none }))
        (execute { egressAccess := some .denyAll, ownerRunId := none } (some "p")) hello state ∧
      state.consumed = true ∧
      Always (Fires (step { egressAccess := some .denyAll, ownerRunId := none })) Intact
        (execute { egressAccess := some .denyAll, ownerRunId := none } (some "p")) hello := by
  refine ⟨_, run_fires_iff.mpr rfl, rfl, ?_⟩
  refine (stream_intact_iff _ _ _ _ (run_fires_iff.mpr rfl)).mp ?_
  repeat refine Run.cons ⟨trivial, rfl⟩ ?_
  refine Run.cons ⟨fun _ => ⟨rfl, fun missing hmissing => ?_⟩, rfl⟩ ?_
  · cases hmissing
  · repeat refine Run.cons ⟨trivial, rfl⟩ ?_
    exact Run.nil _

/-- A process that has exited and prints a chunk while it is cleared from its lease. -/
def lateChunk : List ExecutionLabel :=
  [.reserved .reserved, .resolved, .resolved, .started "p", .marked false, .exit (some 0),
    .resolved, .output .stdout [104, 105], .resolved, .take, .take]

/-- The late chunk is delivered after the exit. -/
theorem stream_ends_with_lateChunk :
    ∃ state,
      Run (Fires (step { egressAccess := some .denyAll, ownerRunId := none }))
        (execute { egressAccess := some .denyAll, ownerRunId := none } (some "p"))
        lateChunk state ∧
      state.consumed = true ∧
      state.delivered = [.exit 0 0, .output [104, 105] 1 .stdout] ∧
      ¬Received state := by
  refine ⟨_, run_fires_iff.mpr rfl, rfl, rfl, fun h => ?_⟩
  have hexit := h.terminalLast (.exit 0 0) List.mem_cons_self
  cases hexit

end Aiphabee.ExecutionStream
