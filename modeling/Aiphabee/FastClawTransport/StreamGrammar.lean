import Aiphabee.FastClawTransport.CallbackStream

/-!
# The grammar of a callback stream

The streams that a run accepts: lines within the limits, of which those that
are not blank hold one event that accepts the run, heartbeats and tool calls
with different ids, and one final event that counts the tool calls.  White
space may stand behind the last line.

The lines of a stream do not depend on its chunks, and the trace of every run
is made of the tool calls of some lines that begin the stream.
-/

namespace Aiphabee.FastClawTransport

variable {ω : Type}
variable {platform : Platform}
variable {application : Application ω}
variable {service : ResultService}
variable {runId : JsText}

def FastClawCallbackEvent.call? : FastClawCallbackEvent → Option FastClawTransportToolCall
  | .toolCall _ call => some call
  | _ => none

/-- The events between the first and the last one of a run. -/
def FastClawCallbackEvent.isWork : FastClawCallbackEvent → Bool
  | .heartbeat _ => true
  | .toolCall _ _ => true
  | _ => false

def callsOf (events : List FastClawCallbackEvent) : List FastClawTransportToolCall :=
  events.filterMap FastClawCallbackEvent.call?

def callIdsOf (events : List FastClawCallbackEvent) : List JsText :=
  (callsOf events).map FastClawTransportToolCall.callId

/-- The lines that are not blank hold the events, one each. -/
inductive HoldEvents
    (platform : Platform)
    (runId : JsText) : List Utf8Text → List FastClawCallbackEvent → Prop
  | nil : HoldEvents platform runId [] []
  | blank {line : Utf8Text} {lines : List Utf8Text} {events : List FastClawCallbackEvent}
      (white : isBlank line = true)
      (rest : HoldEvents platform runId lines events) :
      HoldEvents platform runId (line :: lines) events
  | event {line : Utf8Text} {lines : List Utf8Text} {event : FastClawCallbackEvent}
      {events : List FastClawCallbackEvent}
      (text : isBlank line = false)
      (holds : HoldsEvent platform runId line event)
      (rest : HoldEvents platform runId lines events) :
      HoldEvents platform runId (line :: lines) (event :: events)

/-- An attempt to post the output of a call is answered, and its readback accepted. -/
def PostAccepted (platform : Platform) (service : ResultService) (runId : JsText)
    (call : FastClawTransportToolCall) (attempt : Nat) : Prop :=
  settlePost platform runId call attempt (service.post call attempt) = .ok ()

/--
The callback of a tool call hands back an output with a JSON text, and its
first post succeeds, or the second does after a failure of the network.
-/
def CallSucceeds (platform : Platform) (application : Application ω) (service : ResultService)
    (runId : JsText) (call : FastClawTransportToolCall) : Prop :=
  (∃ output body, application.onToolCall call = .returned (some output) ∧
    application.bodyOf output = some body) ∧
    (PostAccepted platform service runId call 0 ∨
      ((service.post call 0).isNetworkFailure = true ∧ PostAccepted platform service runId call 1))

/-- What a tool call leaves in the trace: a second post follows a failed network only. -/
inductive CallSteps
    (service : ResultService)
    (call : FastClawTransportToolCall) : List Action → Prop
  | unposted : CallSteps service call [.toolCallStarted call, .toolCallSettled call]
  | once (body : Utf8Text) :
      CallSteps service call
        [.toolCallStarted call, .toolCallSettled call, .resultPosted call 0 body]
  | twice (body : Utf8Text)
      (failed : (service.post call 0).isNetworkFailure = true) :
      CallSteps service call
        [.toolCallStarted call, .toolCallSettled call, .resultPosted call 0 body,
          .resultPosted call 1 body]

def LinesOf (platform : Platform) (bytes : List UInt8) (lines : List Utf8Text) (tail : Utf8Text) :
    Prop :=
  platform.decoder.text bytes = LineBuffer.joinLines '\n' lines tail ∧
    (∀ line ∈ lines, '\n' ∉ line) ∧ '\n' ∉ tail

/-- The streams of the grammar. -/
structure Accepts
    (platform : Platform)
    (runId : JsText)
    (bytes : List UInt8)
    (lines : List Utf8Text)
    (tail : Utf8Text)
    (work : List FastClawCallbackEvent)
    (answer : FastClawTransportResult) : Prop where
  lines_of : LinesOf platform bytes lines tail
  stream_small : bytes.length ≤ maxStreamBytes
  lines_small : ∀ line ∈ lines, JsText.utf8Size line ≤ maxLineBytes
  tail_blank : isBlank tail = true
  holds : HoldEvents platform runId lines
    (.remoteAccepted runId :: work ++ [.final runId answer])
  works : ∀ event ∈ work, event.isWork = true
  distinct : (callIdsOf work).Nodup
  counted : answer.usage.steps = (callsOf work).length

section Calls

def callActions (platform : Platform) (application : Application ω) (service : ResultService)
    (runId : JsText) (call : FastClawTransportToolCall) : List Action :=
  [Action.toolCallStarted call, .toolCallSettled call] ++
    match application.onToolCall call with
    | .threw => []
    | .returned output => (postToolResult platform application service runId call output).1

variable (call : FastClawTransportToolCall)

theorem postAttempts_cases (body : Utf8Text) :
    (PostAccepted platform service runId call 0 ∧
      postAttempts platform service runId call body 2 0 =
        ([.resultPosted call 0 body], .ok ())) ∨
    (¬PostAccepted platform service runId call 0 ∧
      (service.post call 0).isNetworkFailure = false ∧
      ∃ thrown, postAttempts platform service runId call body 2 0 =
        ([.resultPosted call 0 body], .error thrown)) ∨
    (¬PostAccepted platform service runId call 0 ∧
      (service.post call 0).isNetworkFailure = true ∧
      postAttempts platform service runId call body 2 0 =
        ([.resultPosted call 0 body, .resultPosted call 1 body],
          settlePost platform runId call 1 (service.post call 1))) := by
  cases hfirst : settlePost platform runId call 0 (service.post call 0) with
  | ok done =>
    refine Or.inl ⟨hfirst, ?_⟩
    simp only [postAttempts, hfirst]
  | error thrown =>
    have hrefused : ¬PostAccepted platform service runId call 0 := by
      intro h
      rw [PostAccepted, hfirst] at h
      cases h
    cases hnetwork : (service.post call 0).isNetworkFailure with
    | false =>
      refine Or.inr (Or.inl ⟨hrefused, rfl, thrown, ?_⟩)
      simp [postAttempts, hfirst, hnetwork]
    | true =>
      refine Or.inr (Or.inr ⟨hrefused, rfl, ?_⟩)
      cases hsecond : settlePost platform runId call 1 (service.post call 1) with
      | ok done => simp [postAttempts, hfirst, hnetwork, hsecond]
      | error second => simp [postAttempts, hfirst, hnetwork, hsecond]

theorem callActions_steps :
    CallSteps service call (callActions platform application service runId call) := by
  rw [callActions]
  cases application.onToolCall call with
  | threw => exact CallSteps.unposted
  | returned output =>
    cases hbody : output.bind application.bodyOf with
    | none =>
      simp only [postToolResult, hbody]
      exact CallSteps.unposted
    | some body =>
      simp only [postToolResult, hbody]
      rcases @postAttempts_cases platform service runId call body with
          ⟨-, h⟩ | ⟨-, -, thrown, h⟩ | ⟨-, hnetwork, h⟩
      · rw [h]
        exact CallSteps.once body
      · rw [h]
        exact CallSteps.once body
      · rw [h]
        exact CallSteps.twice body hnetwork

theorem postAttempts_eq_ok (body : Utf8Text) :
    (postAttempts platform service runId call body 2 0).2 = .ok () ↔
      PostAccepted platform service runId call 0 ∨
        ((service.post call 0).isNetworkFailure = true ∧
          PostAccepted platform service runId call 1) := by
  rcases @postAttempts_cases platform service runId call body with
    ⟨haccepted, h⟩ | ⟨hrefused, hother, thrown, h⟩ | ⟨hrefused, hnetwork, h⟩
  · simp [h, haccepted]
  · simp [h, hrefused, hother]
  · rw [h, or_iff_right hrefused, and_iff_right hnetwork, PostAccepted]

theorem callSucceeds_iff :
    CallSucceeds platform application service runId call ↔
      ∃ output, application.onToolCall call = .returned output ∧
        (postToolResult platform application service runId call output).2 = .ok () := by
  constructor
  · rintro ⟨⟨output, body, hcall, hbody⟩, hposts⟩
    refine ⟨some output, hcall, ?_⟩
    simp only [postToolResult, Option.bind_some, hbody]
    exact (postAttempts_eq_ok call body).mpr hposts
  · rintro ⟨output, hcall, hposted⟩
    cases output with
    | none => simp [postToolResult] at hposted
    | some output =>
      cases hbody : application.bodyOf output with
      | none => simp [postToolResult, hbody] at hposted
      | some body =>
        simp only [postToolResult, Option.bind_some, hbody] at hposted
        exact ⟨⟨output, body, hcall, hbody⟩, (postAttempts_eq_ok call body).mp hposted⟩

end Calls

section Events

def traceOf : Except Stopped RunState → List Action
  | .error stopped => stopped.trace
  | .ok state => state.trace

/-- The run is accepted and not answered. -/
def RunState.IsOpen (state : RunState) : Prop :=
  state.accepted = true ∧ state.final = none

def RunState.afterCall (state : RunState) (call : FastClawTransportToolCall)
    (actions : List Action) : RunState :=
  { state with
    seenCalls := state.seenCalls ++ [call.callId]
    transportPhase := .streamRead
    trace := state.trace ++ actions }

variable {state : RunState}

theorem RunState.IsOpen.afterCall (hopen : state.IsOpen) (call : FastClawTransportToolCall)
    (actions : List Action) : (state.afterCall call actions).IsOpen :=
  hopen

theorem onToolCall_cases (hopen : state.IsOpen) (call : FastClawTransportToolCall) :
    (call.callId ∈ state.seenCalls ∧
      onToolCall platform application service runId call state =
        state.stop (.service .orderInvalid)) ∨
    (call.callId ∉ state.seenCalls ∧ CallSucceeds platform application service runId call ∧
      onToolCall platform application service runId call state =
        .ok (state.afterCall call (callActions platform application service runId call))) ∨
    (call.callId ∉ state.seenCalls ∧ ¬CallSucceeds platform application service runId call ∧
      ∃ stopped, onToolCall platform application service runId call state = .error stopped ∧
        stopped.trace = state.trace ++ callActions platform application service runId call) := by
  obtain ⟨haccepted, hfinal⟩ := hopen
  by_cases hseen : call.callId ∈ state.seenCalls
  · exact Or.inl ⟨hseen, by simp [onToolCall, hseen]⟩
  · refine Or.inr ?_
    have hsucceeds := @callSucceeds_iff _ platform application service runId call
    cases hcall : application.onToolCall call with
    | threw =>
      refine Or.inr ⟨hseen, ?_, ⟨.applicationCallback, _, .application⟩, ?_, rfl⟩
      · rw [hsucceeds]
        rintro ⟨output, h, -⟩
        rw [hcall] at h
        cases h
      · simp [onToolCall, haccepted, hfinal, hseen, hcall, RunState.stop, callActions]
    | returned output =>
      cases hposted : (postToolResult platform application service runId call output).2 with
      | ok done =>
        refine Or.inl ⟨hseen, hsucceeds.mpr ⟨output, hcall, hposted⟩, ?_⟩
        simp [onToolCall, haccepted, hfinal, hseen, hcall, hposted, RunState.afterCall,
          callActions]
      | error thrown =>
        refine Or.inr ⟨hseen, ?_, ⟨.callbackResult, _, thrown⟩, ?_, rfl⟩
        · rw [hsucceeds]
          rintro ⟨other, h, hok⟩
          rw [hcall] at h
          cases h
          rw [hposted] at hok
          cases hok
        · simp [onToolCall, haccepted, hfinal, hseen, hcall, hposted, RunState.stop,
            callActions]

variable {result : FastClawTransportResult}

theorem onEvent_answered (h : state.final = some result) (event : FastClawCallbackEvent) :
    ∃ thrown, onEvent platform application service runId state event = state.stop thrown := by
  cases event with
  | heartbeat id => exact ⟨.service .orderInvalid, by simp [onEvent, onHeartbeat, h]⟩
  | remoteAccepted id => exact ⟨.service .orderInvalid, by simp [onEvent, onRemoteAccepted, h]⟩
  | error id code => exact ⟨_, rfl⟩
  | toolCall id call => exact ⟨.service .orderInvalid, by simp [onEvent, onToolCall, h]⟩
  | final id other => exact ⟨.service .finalInvalid, by simp [onEvent, onFinal, h]⟩

theorem onEvent_start (event : FastClawCallbackEvent) (h : ∀ id, event ≠ .remoteAccepted id) :
    ∃ thrown, onEvent platform application service runId RunState.start event =
      RunState.start.stop thrown := by
  cases event with
  | heartbeat id => exact ⟨.service .orderInvalid, by simp [onEvent, onHeartbeat, RunState.start]⟩
  | remoteAccepted id => exact absurd rfl (h id)
  | error id code => exact ⟨_, rfl⟩
  | toolCall id call =>
    exact ⟨.service .orderInvalid, by simp [onEvent, onToolCall, RunState.start]⟩
  | final id other => exact ⟨.service .finalInvalid, by simp [onEvent, onFinal, RunState.start]⟩

def RunState.begun : RunState :=
  { RunState.start with
    accepted := true
    transportPhase := .applicationCallback
    trace := [.progress] }

theorem RunState.begun_isOpen : RunState.begun.IsOpen :=
  ⟨rfl, rfl⟩

theorem onEvent_remoteAccepted (id : JsText) :
    onEvent platform application service runId RunState.start (.remoteAccepted id) =
      if application.onProgressThrows then RunState.begun.stop .application
      else .ok RunState.begun :=
  rfl

theorem onEvent_heartbeat (hopen : state.IsOpen) (id : JsText) :
    onEvent platform application service runId state (.heartbeat id) = .ok state := by
  simp [onEvent, onHeartbeat, hopen.1, hopen.2]

theorem onFinal_open (hopen : state.IsOpen) (result : FastClawTransportResult) :
    onFinal result state =
      if result.usage.steps = state.seenCalls.length then
        .ok { state with final := some result }
      else
        state.stop (.service .finalInvalid) := by
  obtain ⟨haccepted, hfinal⟩ := hopen
  by_cases h : result.usage.steps = state.seenCalls.length <;>
    simp [onFinal, haccepted, hfinal, h]

variable {answer : FastClawTransportResult}
variable (events : List FastClawCallbackEvent)

/-- An open run that ends with an answer has done the work before it, and all of it succeeded. -/
theorem work_of_answered {state last : RunState} (hopen : state.IsOpen)
    (hrun : events.foldlM (onEvent platform application service runId) state = .ok last)
    (hlast : last.final = some answer) :
    ∃ work id, events = work ++ [.final id answer] ∧
      (∀ event ∈ work, event.isWork = true) ∧
      (∀ callId ∈ callIdsOf work, callId ∉ state.seenCalls) ∧ (callIdsOf work).Nodup ∧
      answer.usage.steps = state.seenCalls.length + (callsOf work).length ∧
      (∀ call ∈ callsOf work, CallSucceeds platform application service runId call) ∧
      last.trace = state.trace ++
        (callsOf work).flatMap (callActions platform application service runId) := by
  induction events generalizing state with
  | nil =>
    obtain rfl : state = last := by simpa [pure, Except.pure] using hrun
    rw [hopen.2] at hlast
    cases hlast
  | cons event rest ih =>
    rw [List.foldlM_cons] at hrun
    cases event with
    | heartbeat id =>
      rw [onEvent_heartbeat hopen] at hrun
      obtain ⟨work, last_id, rfl, hwork, hrest⟩ := ih hopen hrun
      exact ⟨.heartbeat id :: work, last_id, rfl,
        List.forall_mem_cons.mpr ⟨rfl, hwork⟩, hrest⟩
    | remoteAccepted id =>
      simp [onEvent, onRemoteAccepted, hopen.1, RunState.stop, bind, Except.bind] at hrun
    | error id code =>
      simp [onEvent, RunState.stop, bind, Except.bind] at hrun
    | toolCall id call =>
      change onToolCall platform application service runId call state >>= _ = _ at hrun
      rcases onToolCall_cases hopen call with
        ⟨-, h⟩ | ⟨hnew, hsucceeds, h⟩ | ⟨-, -, stopped, h, -⟩
      · rw [h] at hrun
        cases hrun
      · rw [h] at hrun
        obtain ⟨work, lastId, rfl, hwork, hfresh, hnodup, hsteps, hcalls, htrace⟩ :=
          ih (hopen.afterCall call _) hrun
        have hapart : ∀ other ∈ callIdsOf work,
            other ∉ state.seenCalls ∧ other ≠ call.callId := by
          intro other hother
          simpa [RunState.afterCall] using hfresh other hother
        refine ⟨.toolCall id call :: work, lastId, rfl,
          List.forall_mem_cons.mpr ⟨rfl, hwork⟩, ?_, ?_, ?_, ?_, ?_⟩
        · exact List.forall_mem_cons.mpr ⟨hnew, fun other hother => (hapart other hother).1⟩
        · exact List.nodup_cons.mpr ⟨fun h => (hapart _ h).2 rfl, hnodup⟩
        · change answer.usage.steps = _ + ((callsOf work).length + 1)
          simp only [RunState.afterCall, List.length_append, List.length_singleton] at hsteps
          omega
        · exact List.forall_mem_cons.mpr ⟨hsucceeds, hcalls⟩
        · rw [htrace]
          exact List.append_assoc _ _ _
      · rw [h] at hrun
        cases hrun
    | final id result =>
      change onFinal result state >>= _ = _ at hrun
      rw [onFinal_open hopen] at hrun
      split at hrun
      next hsteps =>
        cases rest with
        | nil =>
          obtain rfl : { state with final := some result } = last := by
            simpa [pure, Except.pure, bind, Except.bind] using hrun
          obtain rfl : result = answer := by simpa using hlast
          exact ⟨[], id, rfl, by simp, by simp [callIdsOf, callsOf],
            List.nodup_nil, hsteps, by simp [callsOf], by simp [callsOf]⟩
        | cons next rest =>
          obtain ⟨thrown, h⟩ := @onEvent_answered _ platform application service runId
            { state with final := some result } result rfl next
          change (next :: rest).foldlM (onEvent platform application service runId)
            { state with final := some result } = _ at hrun
          rw [List.foldlM_cons, h] at hrun
          cases hrun
      next => cases hrun

/-- Work with new ids whose calls succeed and are counted is answered. -/
theorem answered_of_work (work : List FastClawCallbackEvent) (id : JsText) (hopen : state.IsOpen)
    (hwork : ∀ event ∈ work, event.isWork = true)
    (hfresh : ∀ callId ∈ callIdsOf work, callId ∉ state.seenCalls) (hnodup : (callIdsOf work).Nodup)
    (hsteps : answer.usage.steps = state.seenCalls.length + (callsOf work).length)
    (hcalls : ∀ call ∈ callsOf work, CallSucceeds platform application service runId call) :
    ∃ last,
      (work ++ [FastClawCallbackEvent.final id answer]).foldlM
          (onEvent platform application service runId) state = .ok last ∧
        last.final = some answer := by
  induction work generalizing state with
  | nil =>
    refine ⟨{ state with final := some answer }, ?_, rfl⟩
    have hcount : answer.usage.steps = state.seenCalls.length := by
      simpa [callsOf] using hsteps
    have hstep := onFinal_open hopen answer
    rw [if_pos hcount] at hstep
    simp [onEvent, hstep]
  | cons event rest ih =>
    have hrest := List.forall_mem_cons.mp hwork
    rw [List.cons_append, List.foldlM_cons]
    cases event with
    | heartbeat other =>
      rw [onEvent_heartbeat hopen]
      exact ih hopen hrest.2 hfresh hnodup hsteps hcalls
    | toolCall other call =>
      have hnew : call.callId ∉ state.seenCalls := hfresh _ List.mem_cons_self
      have hsucceeds : CallSucceeds platform application service runId call :=
        hcalls _ List.mem_cons_self
      obtain ⟨hnot, htail⟩ := List.nodup_cons.mp hnodup
      change ∃ last, (onToolCall platform application service runId call state >>= _) = _ ∧ _
      rcases @onToolCall_cases _ platform application service runId state hopen call with
        ⟨h, -⟩ | ⟨-, -, h⟩ | ⟨-, h, -⟩
      · exact absurd h hnew
      · rw [h]
        refine ih (hopen.afterCall call _) hrest.2 ?_ htail ?_ ?_
        · intro callId hmem
          have hold := hfresh callId (List.mem_cons_of_mem _ hmem)
          have hother : callId ≠ call.callId := fun heq => hnot (heq ▸ hmem)
          simp [RunState.afterCall, hold, hother]
        · change answer.usage.steps = (state.seenCalls ++ [call.callId]).length + _
          change answer.usage.steps = _ + ((callsOf rest).length + 1) at hsteps
          simp only [List.length_append, List.length_singleton]
          omega
        · exact fun call hcall => hcalls call (List.mem_cons_of_mem _ hcall)
      · exact absurd hsucceeds h
    | remoteAccepted other => exact absurd hrest.1 (by simp [FastClawCallbackEvent.isWork])
    | error other code => exact absurd hrest.1 (by simp [FastClawCallbackEvent.isWork])
    | final other result => exact absurd hrest.1 (by simp [FastClawCallbackEvent.isWork])

/-- Work with new ids that begins the events. -/
structure WorkBegins
    (seen : List JsText)
    (events work : List FastClawCallbackEvent) : Prop where
  begins : work <+: events
  works : ∀ event ∈ work, event.isWork = true
  fresh : ∀ callId ∈ callIdsOf work, callId ∉ seen
  distinct : (callIdsOf work).Nodup

theorem WorkBegins.nil (seen : List JsText) (events : List FastClawCallbackEvent) :
    WorkBegins seen events [] where
  begins := List.nil_prefix
  works := by simp
  fresh := by simp [callIdsOf, callsOf]
  distinct := List.nodup_nil

variable {events work : List FastClawCallbackEvent}

theorem WorkBegins.heartbeat {seen : List JsText} (h : WorkBegins seen events work) (id : JsText) :
    WorkBegins seen (.heartbeat id :: events) (.heartbeat id :: work) where
  begins := List.cons_prefix_cons.mpr ⟨rfl, h.begins⟩
  works := List.forall_mem_cons.mpr ⟨rfl, h.works⟩
  fresh := h.fresh
  distinct := h.distinct

theorem WorkBegins.toolCall {seen : List JsText} {call : FastClawTransportToolCall}
    (hnew : call.callId ∉ seen) (h : WorkBegins (seen ++ [call.callId]) events work) (id : JsText) :
    WorkBegins seen (.toolCall id call :: events) (.toolCall id call :: work) where
  begins := List.cons_prefix_cons.mpr ⟨rfl, h.begins⟩
  works := List.forall_mem_cons.mpr ⟨rfl, h.works⟩
  fresh := List.forall_mem_cons.mpr ⟨hnew, fun other hother hseen =>
    h.fresh other hother (List.mem_append_left _ hseen)⟩
  distinct := List.nodup_cons.mpr ⟨fun hmem =>
    h.fresh _ hmem (List.mem_append_right _ List.mem_cons_self), h.distinct⟩

theorem traceOf_answered (h : state.final = some result) (events : List FastClawCallbackEvent) :
    traceOf (events.foldlM (onEvent platform application service runId) state) = state.trace := by
  cases events with
  | nil => rfl
  | cons event rest =>
    obtain ⟨thrown, hstop⟩ := @onEvent_answered _ platform application service runId state result
      h event
    rw [List.foldlM_cons, hstop]
    rfl

/-- Whatever the outcome, the trace grows by the calls of some work that begins the events. -/
theorem traceOf_open (hopen : state.IsOpen) :
    ∃ work, WorkBegins state.seenCalls events work ∧
      traceOf (events.foldlM (onEvent platform application service runId) state) =
        state.trace ++ (callsOf work).flatMap (callActions platform application service runId) := by
  have hnothing : ∀ (state : RunState) (events : List FastClawCallbackEvent)
      (outcome : Except Stopped RunState), traceOf outcome = state.trace →
      ∃ work, WorkBegins state.seenCalls events work ∧
        traceOf outcome = state.trace ++
          (callsOf work).flatMap (callActions platform application service runId) := by
    intro state events outcome h
    exact ⟨[], WorkBegins.nil _ _, by simp [h, callsOf]⟩
  induction events generalizing state with
  | nil => exact hnothing _ _ _ rfl
  | cons event rest ih =>
    rw [List.foldlM_cons]
    cases event with
    | heartbeat id =>
      rw [onEvent_heartbeat hopen]
      obtain ⟨work, hbegins, htrace⟩ := ih hopen
      exact ⟨.heartbeat id :: work, hbegins.heartbeat id, htrace⟩
    | toolCall id call =>
      change ∃ work, _ ∧
        traceOf (onToolCall platform application service runId call state >>= _) = _
      rcases @onToolCall_cases _ platform application service runId state hopen call with
        ⟨-, h⟩ | ⟨hnew, -, h⟩ | ⟨hnew, -, stopped, h, htrace⟩
      · rw [h]
        exact hnothing _ _ _ rfl
      · rw [h]
        obtain ⟨work, hbegins, htrace⟩ := ih (hopen.afterCall call _)
        refine ⟨.toolCall id call :: work, hbegins.toolCall hnew id, ?_⟩
        exact htrace.trans (List.append_assoc _ _ _)
      · rw [h]
        refine ⟨[.toolCall id call], (WorkBegins.nil _ rest).toolCall hnew id, ?_⟩
        exact htrace.trans (by simp [callsOf, FastClawCallbackEvent.call?])
    | remoteAccepted id =>
      refine hnothing _ _ _ ?_
      simp [onEvent, onRemoteAccepted, hopen.1, RunState.stop, bind, Except.bind, traceOf]
    | error id code => exact hnothing _ _ _ rfl
    | final id result =>
      refine hnothing _ _ _ ?_
      change traceOf (onFinal result state >>= _) = _
      rw [onFinal_open hopen]
      split
      · exact @traceOf_answered _ _ _ _ _ { state with final := some result } result rfl rest
      · rfl

theorem answered_start {last : RunState}
    (hrun : events.foldlM (onEvent platform application service runId) RunState.start = .ok last)
    (hlast : last.final = some answer) :
    ∃ first rest, events = .remoteAccepted first :: rest ∧
      application.onProgressThrows = false ∧
      rest.foldlM (onEvent platform application service runId) RunState.begun = .ok last := by
  cases events with
  | nil =>
    obtain rfl : RunState.start = last := by simpa [pure, Except.pure] using hrun
    cases hlast
  | cons event rest =>
    rw [List.foldlM_cons] at hrun
    by_cases hfirst : ∃ id, event = .remoteAccepted id
    · obtain ⟨id, rfl⟩ := hfirst
      rw [onEvent_remoteAccepted] at hrun
      cases hthrows : application.onProgressThrows with
      | true =>
        rw [hthrows] at hrun
        cases hrun
      | false =>
        rw [hthrows] at hrun
        exact ⟨id, rest, rfl, rfl, hrun⟩
    · obtain ⟨thrown, hstop⟩ := @onEvent_start _ platform application service runId event
        fun id h => hfirst ⟨id, h⟩
      rw [hstop] at hrun
      cases hrun

theorem traceOf_start :
    traceOf (events.foldlM (onEvent platform application service runId) RunState.start) = [] ∨
      ∃ first rest work, events = .remoteAccepted first :: rest ∧ WorkBegins [] rest work ∧
        traceOf (events.foldlM (onEvent platform application service runId) RunState.start) =
          .progress :: (callsOf work).flatMap (callActions platform application service runId) := by
  cases events with
  | nil => exact Or.inl rfl
  | cons event rest =>
    rw [List.foldlM_cons]
    by_cases hfirst : ∃ id, event = .remoteAccepted id
    · obtain ⟨id, rfl⟩ := hfirst
      refine Or.inr ⟨id, rest, ?_⟩
      rw [onEvent_remoteAccepted]
      cases application.onProgressThrows with
      | true => exact ⟨[], rfl, WorkBegins.nil _ _, rfl⟩
      | false =>
        obtain ⟨work, hbegins, htrace⟩ := @traceOf_open _ platform application service runId
          RunState.begun rest RunState.begun_isOpen
        exact ⟨work, rfl, hbegins, htrace⟩
    · obtain ⟨thrown, hstop⟩ := @onEvent_start _ platform application service runId event
        fun id h => hfirst ⟨id, h⟩
      rw [hstop]
      exact Or.inl rfl

end Events

end Aiphabee.FastClawTransport
