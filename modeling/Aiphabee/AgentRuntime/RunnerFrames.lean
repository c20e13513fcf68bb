import Aiphabee.AgentRuntime.FastClawRunner

/-!
# What the steps of a run leave alone

A step is either a callback or a step of the generator and its signals.  A
callback leaves the generator alone, and the other steps leave the tool calls
alone, the start of the transport apart.  Either kind shows at most one
observation.
-/

namespace Aiphabee.AgentRunner

variable {platform : RunnerPlatform}
variable {request : AgentExecutionRequest}
variable {s t : RunnerState}

section Observations

def Observation.event? : Observation → Option ExecutionEvent
  | .yielded event => some event
  | _ => none

def Observation.executed? : Observation → Option AdmittedToolCall
  | .executed call => some call
  | _ => none

def Observation.isTool : Observation → Bool
  | .executed _ => true
  | .toolRefused _ => true
  | .toolCompleted _ => true
  | .toolDenied _ => true
  | .toolFailed _ => true
  | _ => false

def Observation.isWork : Observation → Bool
  | .transportStarted _ => true
  | observation => observation.isTool

def events (trace : List Observation) : List ExecutionEvent :=
  trace.filterMap Observation.event?

def executions (trace : List Observation) : List AdmittedToolCall :=
  trace.filterMap Observation.executed?

@[simp] theorem events_append (xs ys : List Observation) :
    events (xs ++ ys) = events xs ++ events ys := by
  simp [events]

@[simp] theorem executions_append (xs ys : List Observation) :
    executions (xs ++ ys) = executions xs ++ executions ys := by
  simp [executions]

theorem mem_events {trace : List Observation} {e : ExecutionEvent} :
    e ∈ events trace ↔ .yielded e ∈ trace := by
  simp only [events, List.mem_filterMap]
  constructor
  · rintro ⟨o, ho, heq⟩
    cases o with
    | yielded e' =>
      cases heq
      exact ho
    | _ => cases heq
  · intro h
    exact ⟨_, h, rfl⟩

variable {o : Observation}

theorem events_snoc (trace : List Observation) (h : o.event? = none) :
    events (trace ++ [o]) = events trace := by
  simp [events, h]

theorem executions_snoc (trace : List Observation) (h : o.executed? = none) :
    executions (trace ++ [o]) = executions trace := by
  simp [executions, h]

theorem Observation.event?_of_isTool (h : o.isTool = true) : o.event? = none := by
  cases o <;> first | rfl | cases h

theorem Observation.executed?_of_not_isWork (h : o.isWork = false) : o.executed? = none := by
  cases o <;> first | rfl | cases h

end Observations

section Steps

/-- The generator is within its `try` statement, beyond the checks of the request. -/
def Point.isWorking : Point → Bool
  | .calling _ => true
  | .awaiting _ => true
  | .resuming _ => true
  | .started _ _ => true
  | _ => false

/-- The generator waits for a promise. -/
def Point.isAwaiting : Point → Bool
  | .awaiting _ => true
  | _ => false

/-- The transport has been started, and its result has not been taken. -/
def Point.inTransport : Point → Bool
  | .calling .transport => true
  | .awaiting .transport => true
  | .resuming (.answered _) => true
  | .resuming (.rejected .transport _) => true
  | _ => false

/-- The transport has not been started, and still may be. -/
def Point.isEarly : Point → Bool
  | .created => true
  | .requested => true
  | .calling .resolve => true
  | .calling (.issue _) => true
  | .awaiting .resolve => true
  | .awaiting (.issue _) => true
  | .resuming (.resolved _) => true
  | .resuming (.issued _ _) => true
  | .resuming (.rejected .resolve _) => true
  | .resuming (.rejected (.issue _) _) => true
  | .started _ _ => true
  | _ => false

/-- The generator has left its `try` statement. -/
def Point.isOut : Point → Bool
  | .replaying _ => true
  | .ended => true
  | .finished => true
  | .abandoned => true
  | _ => false

/-- The generator has no further event. -/
def Point.isOver : Point → Bool
  | .ended => true
  | .finished => true
  | .abandoned => true
  | _ => false

def RunnerAction.isCallback : RunnerAction → Bool
  | .onProgress _ => true
  | .onToolCall _ => true
  | .toolSettles _ _ => true
  | _ => false

/--
The steps of the generator and of its signals, by what they lead to.  A failure
may come after a look at the clock, or after the callbacks are closed.
-/
inductive GeneratorStep (platform : RunnerPlatform) (request : AgentExecutionRequest)
    (s : RunnerState) : RunnerAction → RunnerState → Prop
  | requests (hpoint : s.point = .created) :
    GeneratorStep platform request s .consumerNext
      (yieldNext platform request .requested (.requested request.mode.text runnerId) .requested s)
  | begins (hpoint : s.point = .requested) (hvalid : validRequest request = true) :
    GeneratorStep platform request s .consumerNext
      { s with
        controller := some { aborted := false, kind := .timeout }
        listening := request.hasSignal
        timeout := true
        point := .calling .resolve }
  | transports (authority : AllowedAuthority) (issued : SandboxAuthorization)
      (hpoint : s.point = .started authority issued) :
    GeneratorStep platform request s .consumerNext (startTransport request authority issued s)
  | tells (told : Nat) (hpoint : s.point = .replaying told) :
    GeneratorStep platform request s .consumerNext (replay platform request told s)
  | finishes (hpoint : s.point = .ended) :
    GeneratorStep platform request s .consumerNext { s with point := .finished }
  | leaves {a : RunnerAction} (hpoint : s.point.isWorking = false) :
    GeneratorStep platform request s a { s with point := .abandoned }
  | quits {a : RunnerAction} :
    GeneratorStep platform request s a { s.finalize with point := .abandoned }
  | waits (operation : Operation) (hpoint : s.point = .calling operation)
      (hlive : s.aborted = false) :
    GeneratorStep platform request s .returns { s with point := .awaiting operation }
  | rejects {a : RunnerAction} (operation : Operation) (error : Rejection)
      (hpoint : s.point = .calling operation ∨ s.point = .awaiting operation) :
    GeneratorStep platform request s a { s with point := .resuming (.rejected operation error) }
  | fulfils (value : Fulfilment) (operation : Operation) (resumption : Resumption)
      (hpoint : s.point = .awaiting operation) (hvalue : operation.fulfil? value = some resumption)
      (hunchecked : ∀ result decision, resumption ≠ .checked result decision) :
    GeneratorStep platform request s (.fulfils value) { s with point := .resuming resumption }
  | postChecks {a : RunnerAction} (result : AcceptedResult) (decision : Option PostCheckDecision)
      (hpoint : s.point = .awaiting (.check result)) :
    GeneratorStep platform request s a
      { s.record (.postChecked decision) with point := .resuming (.checked result decision) }
  | issues (authority : AllowedAuthority)
      (hpoint : s.point = .resuming (.resolved (.allowed authority))) :
    GeneratorStep platform request s .resumes { s with point := .calling (.issue authority) }
  | starts (authority : AllowedAuthority) (issued : SandboxAuthorization)
      (hpoint : s.point = .resuming (.issued authority issued)) :
    GeneratorStep platform request s .resumes
      (yieldNext platform request .started (.started runnerId) (.started authority issued)
        { s with clockReads := s.clockReads + 1 })
  | checks (result : Option TransportResult) (accepted : AcceptedResult)
      (hpoint : s.point = .resuming (.answered result)) (hfailure : s.callbackFailure = none)
      (haccepted : acceptResult request.budget result = some accepted) :
    GeneratorStep platform request s .resumes
      { s with
        acceptingCallbacks := false
        phases := s.phases ++ [.finalCheck]
        point := .calling (.check accepted) }
  | concludes (result : AcceptedResult) (decision : Option PostCheckDecision) (answer : String)
      (hpoint : s.point = .resuming (.checked result decision))
      (hanswer : approvedAnswer decision = some answer) :
    GeneratorStep platform request s .resumes
      (conclude platform request
        { s with completedPayload := some { answer, usage := result.usage } })
  | fails {a : RunnerAction} (failure : RunnerFailure) (clockReads : Nat) (accepting : Bool)
      (hpoint : s.point.isOver = false) :
    GeneratorStep platform request s a
      (fail platform request failure
        { s with clockReads := clockReads, acceptingCallbacks := accepting })
  | hears :
    GeneratorStep platform request s .callerAborts
      { s.record (.signalled .cancelled) with callerAborted := true }
  | interrupts {a : RunnerAction} (kind : AbortKind) (callerAborted listening timeout : Bool)
      (controller : Option AbortController)
      (hcontroller : controller.isSome = s.controller.isSome)
      (haborted : controller.any (·.aborted) = s.aborted) :
    GeneratorStep platform request s a
      (RunnerState.abort
        { s.record (.signalled kind) with callerAborted, listening, timeout, controller })

theorem generatorStep_fail (a : RunnerAction) (failure : RunnerFailure)
    (hpoint : s.point.isOver = false) :
    GeneratorStep platform request s a (fail platform request failure s) :=
  .fails failure s.clockReads s.acceptingCallbacks hpoint

theorem generatorStep_resume {resumption : Resumption} (hpoint : s.point = .resuming resumption) :
    GeneratorStep platform request s .resumes (resume platform request resumption s) := by
  have hopen : s.point.isOver = false := by
    rw [hpoint]
    rfl
  have hfail := fun failure => @generatorStep_fail platform request s .resumes failure hopen
  cases resumption with
  | resolved decision =>
    cases decision with
    | blocked code retryable => exact hfail _
    | allowed authority =>
      simp only [resume, afterResolve]
      split
      · exact .issues authority hpoint
      · exact hfail _
  | issued authority issued =>
    simp only [resume, afterIssue]
    split
    · split
      · exact .fails _ (s.clockReads + 1) s.acceptingCallbacks hopen
      · exact .starts authority issued hpoint
    · exact hfail _
  | answered result =>
    simp only [resume, afterTransport]
    split
    · exact .fails _ s.clockReads false hopen
    · next hfailure =>
        split
        · next accepted haccepted => exact .checks result accepted hpoint hfailure haccepted
        · exact .fails _ s.clockReads false hopen
  | checked result decision =>
    simp only [resume, afterCheck]
    split
    · next answer hanswer => exact .concludes result decision answer hpoint hanswer
    · exact hfail _
  | rejected operation error => exact hfail _

/-- Every step is a callback or one of the generator and its signals. -/
theorem generatorStep_of_step {a : RunnerAction} (h : runnerStep platform request s a = some t)
    (ha : a.isCallback = false) :
    GeneratorStep platform request s a t := by
  have hfail : ∀ point failure, s.point = point → point.isOver = false →
      GeneratorStep platform request s a (fail platform request failure s) := by
    rintro _ failure rfl hopen
    exact generatorStep_fail a failure hopen
  have hleave : ∀ point, s.point = point → point.isWorking = false →
      GeneratorStep platform request s a { s with point := .abandoned } := by
    rintro _ rfl hout
    exact .leaves hout
  cases a with
  | consumerNext =>
    simp only [runnerStep, consumerNext] at h
    split at h
    · next hpoint =>
        cases h
        exact .requests hpoint
    · next hpoint =>
        cases h
        unfold begin
        split
        · next hvalid =>
            split
            · exact hfail _ _ hpoint rfl
            · exact .begins hpoint hvalid
        · exact hfail _ _ hpoint rfl
    · next authority issued hpoint =>
        cases h
        exact .transports authority issued hpoint
    · next told hpoint =>
        cases h
        exact .tells told hpoint
    · next hpoint =>
        cases h
        exact .finishes hpoint
    · cases h
  | consumerReturn =>
    simp only [runnerStep, consumerReturn] at h
    split at h
    all_goals first | cases h; exact hleave _ ‹_› rfl | cases h
    exact .quits
  | consumerThrow error =>
    simp only [runnerStep, consumerThrow] at h
    split at h
    all_goals first | cases h; exact hleave _ ‹_› rfl | cases h
    exact hfail _ _ ‹_› rfl
  | returns =>
    simp only [runnerStep, returns] at h
    split at h
    · next operation hpoint =>
        split at h
        · cases h
          exact .rejects operation _ (.inl hpoint)
        · next hlive =>
            cases h
            exact .waits operation hpoint (by simpa using hlive)
    · cases h
  | throws error =>
    simp only [runnerStep, throws] at h
    split at h <;> cases h
    exact hfail _ _ ‹_› rfl
  | fulfils value =>
    simp only [runnerStep, fulfils] at h
    split at h
    · next operation hpoint =>
        split at h
        · next result decision hfulfil =>
            cases h
            cases operation <;> cases value <;> cases hfulfil
            exact .postChecks result decision hpoint
        · next resumption hchecked hfulfil =>
            cases h
            exact .fulfils value operation resumption hpoint hfulfil hchecked
        · cases h
    · cases h
  | rejects error =>
    simp only [runnerStep, rejects] at h
    split at h
    · next operation hpoint =>
        cases h
        exact .rejects operation error (.inr hpoint)
    · cases h
  | resumes =>
    simp only [runnerStep, resumes] at h
    split at h
    · next hpoint =>
        cases h
        exact generatorStep_resume hpoint
    · cases h
  | callerAborts =>
    simp only [runnerStep, callerAborts] at h
    split at h
    · split at h
      · cases h
        refine .interrupts .cancelled true false s.timeout _ (by simp) ?_
        cases hcontroller : s.controller <;> simp [RunnerState.aborted, hcontroller]
      · cases h
        exact .hears
    · cases h
  | timerFires =>
    simp only [runnerStep, timerFires] at h
    split at h <;> cases h
    exact .interrupts .timeout s.callerAborted s.listening false s.controller rfl rfl
  | _ => cases ha

end Steps

structure ToolsKept (s t : RunnerState) (shown : Option Observation) : Prop where
  active : t.activeToolCalls = s.activeToolCalls
  failure : t.callbackFailure = s.callbackFailure
  count : t.toolCallCount = s.toolCallCount
  seen : t.seenToolCallIds = s.seenToolCallIds
  pending : t.pendingToolCalls = s.pendingToolCalls
  callbacks : t.callbacks = s.callbacks
  trace : t.trace = s.trace ++ shown.toList
  unrelated : ∀ o ∈ shown, o.isWork = false

structure GeneratorKept (s t : RunnerState) (shown : Option Observation) : Prop where
  point : t.point = s.point
  index : t.index = s.index
  controller : t.controller = s.controller
  timeout : t.timeout = s.timeout
  callerAborted : t.callerAborted = s.callerAborted
  accepting : t.acceptingCallbacks = s.acceptingCallbacks
  terminal : t.terminal = s.terminal
  completed : t.completedPayload = s.completedPayload
  callbacks : t.callbacks = s.callbacks
  trace : t.trace = s.trace ++ shown.toList
  related : ∀ o ∈ shown, o.isTool = true

theorem yieldNext_toolsKept (type : EventType) (payload : EventPayload) (point : Point)
    (s : RunnerState) :
    ToolsKept s (yieldNext platform request type payload point s)
      (some (.yielded
        (event request s.index type payload false (platform.now s.clockReads)))) := by
  refine ⟨rfl, rfl, rfl, rfl, rfl, rfl, rfl, ?_⟩
  rintro o ⟨⟩
  rfl

/-- Telling a phase, or the end, leaves the tool calls alone. -/
theorem replay_toolsKept (told : Nat) (s : RunnerState) :
    ∃ e, ToolsKept s (replay platform request told s) (some (.yielded e)) := by
  unfold replay
  split
  · exact ⟨_, yieldNext_toolsKept _ _ _ s⟩
  · unfold yieldTerminal
    split <;>
      exact ⟨_, rfl, rfl, rfl, rfl, rfl, rfl, rfl, by rintro o ⟨⟩; rfl⟩

/-- The end of the `try` statement leaves the tool calls alone. -/
theorem conclude_toolsKept (s : RunnerState) :
    ∃ e, ToolsKept s (conclude platform request s) (some (.yielded e)) := by
  obtain ⟨e, h⟩ := @replay_toolsKept platform request 0 s.finalize
  exact ⟨e, h.active, h.failure, h.count, h.seen, h.pending, h.callbacks, h.trace, h.unrelated⟩

theorem fail_toolsKept (failure : RunnerFailure) (s : RunnerState) :
    ∃ e, ToolsKept s (fail platform request failure s) (some (.yielded e)) := by
  obtain ⟨e, h⟩ := @conclude_toolsKept platform request
    { s with terminal := some failure }
  exact ⟨e, h.active, h.failure, h.count, h.seen, h.pending, h.callbacks, h.trace, h.unrelated⟩

theorem ToolsKept.silent (active : t.activeToolCalls = s.activeToolCalls)
    (failure : t.callbackFailure = s.callbackFailure) (count : t.toolCallCount = s.toolCallCount)
    (seen : t.seenToolCallIds = s.seenToolCallIds)
    (pending : t.pendingToolCalls = s.pendingToolCalls) (callbacks : t.callbacks = s.callbacks)
    (trace : t.trace = s.trace) : ToolsKept s t none :=
  { active, failure, count, seen, pending, callbacks
    trace := by simp [trace]
    unrelated := by rintro o ⟨⟩ }

/-- A failure after changes that leave the tool calls alone leaves them alone. -/
theorem fail_toolsKept_of {s s' : RunnerState} (h : ToolsKept s s' none) (failure : RunnerFailure) :
    ∃ shown, ToolsKept s (fail platform request failure s') shown := by
  obtain ⟨e, h'⟩ := @fail_toolsKept platform request failure s'
  have htrace : s'.trace = s.trace := by simpa using h.trace
  exact ⟨_, h'.active.trans h.active, h'.failure.trans h.failure, h'.count.trans h.count,
    h'.seen.trans h.seen, h'.pending.trans h.pending, h'.callbacks.trans h.callbacks,
    htrace ▸ h'.trace, h'.unrelated⟩

theorem abort_toolsKept (s : RunnerState) : ToolsKept s s.abort none := by
  unfold RunnerState.abort
  split
  · exact .silent rfl rfl rfl rfl rfl rfl rfl
  · exact .silent rfl rfl rfl rfl rfl rfl rfl

theorem abort_toolsKept_of {s s' : RunnerState} {kind : AbortKind}
    (h : ToolsKept s s' (some (.signalled kind))) :
    ToolsKept s s'.abort (some (.signalled kind)) := by
  have habort := abort_toolsKept s'
  have htrace : s'.abort.trace = s'.trace := by simpa using habort.trace
  exact ⟨habort.active.trans h.active, habort.failure.trans h.failure, habort.count.trans h.count,
    habort.seen.trans h.seen, habort.pending.trans h.pending,
    habort.callbacks.trans h.callbacks, htrace.trans h.trace, h.unrelated⟩

theorem toolsKept_of_step {a : RunnerAction} (h : runnerStep platform request s a = some t)
    (ha : a.isCallback = false) :
    (∃ authority issued, a = .consumerNext ∧ s.point = .started authority issued ∧
      t = startTransport request authority issued s) ∨
    ∃ shown, ToolsKept s t shown := by
  cases generatorStep_of_step h ha with
  | transports authority issued hpoint => exact .inl ⟨authority, issued, rfl, hpoint, rfl⟩
  | requests => exact .inr ⟨_, yieldNext_toolsKept _ _ _ s⟩
  | tells told => exact .inr ((replay_toolsKept told s).imp' _ fun _ => id)
  | starts authority issued =>
    exact .inr ⟨some (.yielded _), rfl, rfl, rfl, rfl, rfl, rfl, rfl, by rintro o ⟨⟩; rfl⟩
  | concludes =>
    obtain ⟨e, hkept⟩ := @conclude_toolsKept platform request { s with completedPayload := _ }
    exact .inr ⟨_, hkept.active, hkept.failure, hkept.count, hkept.seen, hkept.pending,
      hkept.callbacks, hkept.trace, hkept.unrelated⟩
  | fails failure =>
    refine .inr (fail_toolsKept_of ?_ failure)
    exact .silent rfl rfl rfl rfl rfl rfl rfl
  | postChecks result decision =>
    exact .inr ⟨some (.postChecked _), rfl, rfl, rfl, rfl, rfl, rfl, rfl, by rintro o ⟨⟩; rfl⟩
  | hears =>
    exact .inr ⟨some (.signalled _), rfl, rfl, rfl, rfl, rfl, rfl, rfl, by rintro o ⟨⟩; rfl⟩
  | interrupts kind =>
    exact .inr ⟨_, @abort_toolsKept_of s _ kind
      ⟨rfl, rfl, rfl, rfl, rfl, rfl, rfl, by rintro o ⟨⟩; rfl⟩⟩
  | _ => exact .inr ⟨none, .silent rfl rfl rfl rfl rfl rfl rfl⟩

theorem generatorKept_of_step {a : RunnerAction} (h : runnerStep platform request s a = some t)
    (ha : a.isCallback = true) :
    ∃ shown, GeneratorKept s t shown := by
  cases a with
  | onProgress phase =>
    simp only [runnerStep, Option.map_eq_some_iff] at h
    obtain ⟨_, _, rfl⟩ := h
    refine ⟨none, ?_⟩
    unfold onProgress
    split
    · exact ⟨rfl, rfl, rfl, rfl, rfl, rfl, rfl, rfl, rfl, by simp, by rintro o ⟨⟩⟩
    · split
      · split <;>
          exact ⟨rfl, rfl, rfl, rfl, rfl, rfl, rfl, rfl, rfl, by simp, by rintro o ⟨⟩⟩
      · exact ⟨rfl, rfl, rfl, rfl, rfl, rfl, rfl, rfl, rfl, by simp, by rintro o ⟨⟩⟩
  | onToolCall call =>
    simp only [runnerStep, Option.map_eq_some_iff] at h
    obtain ⟨issued, _, rfl⟩ := h
    have hrefused : ∃ shown, shown = some (Observation.toolRefused call) ∧
        ∀ o ∈ shown, o.isTool = true := ⟨_, rfl, by rintro o ⟨⟩; rfl⟩
    obtain ⟨shown, rfl, hrelated⟩ := hrefused
    unfold onToolCall
    split
    · exact ⟨_, rfl, rfl, rfl, rfl, rfl, rfl, rfl, rfl, rfl, rfl, hrelated⟩
    · split
      · dsimp only
        split
        · exact ⟨_, rfl, rfl, rfl, rfl, rfl, rfl, rfl, rfl, rfl, rfl, hrelated⟩
        · split
          · exact ⟨_, rfl, rfl, rfl, rfl, rfl, rfl, rfl, rfl, rfl, rfl, hrelated⟩
          · exact ⟨some (.executed _), rfl, rfl, rfl, rfl, rfl, rfl, rfl, rfl, rfl, rfl,
              by rintro o ⟨⟩; rfl⟩
      · exact ⟨_, rfl, rfl, rfl, rfl, rfl, rfl, rfl, rfl, rfl, rfl, hrelated⟩
  | toolSettles callId outcome =>
    simp only [runnerStep] at h
    split at h <;> cases h
    unfold toolSettles
    split
    · exact ⟨some (.toolCompleted callId), rfl, rfl, rfl, rfl, rfl, rfl, rfl, rfl, rfl, rfl,
        by rintro o ⟨⟩; rfl⟩
    · exact ⟨some (.toolDenied callId), rfl, rfl, rfl, rfl, rfl, rfl, rfl, rfl, rfl, rfl,
        by rintro o ⟨⟩; rfl⟩
    · exact ⟨some (.toolFailed callId), rfl, rfl, rfl, rfl, rfl, rfl, rfl, rfl, rfl, rfl,
        by rintro o ⟨⟩; rfl⟩
    · exact ⟨some (.toolFailed callId), rfl, rfl, rfl, rfl, rfl, rfl, rfl, rfl, rfl, rfl,
        by rintro o ⟨⟩; rfl⟩
  | _ => cases ha

end Aiphabee.AgentRunner
