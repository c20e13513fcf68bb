import Aiphabee.AgentRuntime.RunnerFrames

/-!
# The stages of a run, and its tool calls

Beyond its first event a generator works for a valid request only.  While it
waits for a promise, its signal is not aborted and its timer is armed.  The
callbacks are accepted between the start of the transport and the moment its
result is taken.

The calls of tools that reach the executor are allowed, are distinct, and stay
within the budget of the request.
-/

namespace Aiphabee.AgentRunner

variable {platform : RunnerPlatform}
variable {request : AgentExecutionRequest}

section Stages

/-- What the place of the generator says about its signals and its callbacks. -/
structure Staged (request : AgentExecutionRequest) (s : RunnerState) : Prop where
  valid : s.point.isWorking = true → validRequest request = true
  given : s.callbacks.isSome = true → validRequest request = true
  controlled : s.point.isWorking = true → s.controller.isSome = true
  armed : s.point.isWorking = true → s.aborted = false → s.timeout = true
  waiting : s.point.isAwaiting = true → s.aborted = false
  accepting : s.acceptingCallbacks = s.point.inTransport
  early : s.point.isEarly = true → s.callbacks = none

variable {s : RunnerState}

/-- A generator that is out of its `try` statement. -/
theorem staged_of_out (hpoint : s.point.isOut = true) (haccepting : s.acceptingCallbacks = false)
    (hgiven : s.callbacks.isSome = true → validRequest request = true) : Staged request s := by
  have hnot : s.point.isWorking = false ∧ s.point.isAwaiting = false ∧
      s.point.inTransport = false ∧ s.point.isEarly = false := by
    cases hp : s.point <;> rw [hp] at hpoint <;>
      first | exact ⟨rfl, rfl, rfl, rfl⟩ | cases hpoint
  obtain ⟨hworking, hawaiting, htransport, hearly⟩ := hnot
  exact
    { valid := by simp [hworking]
      given := hgiven
      controlled := by simp [hworking]
      armed := by simp [hworking]
      waiting := by simp [hawaiting]
      accepting := haccepting.trans htransport.symm
      early := by simp [hearly] }

/-- Telling a phase, or the end, is out of the `try` statement. -/
theorem replay_point (told : Nat) (s : RunnerState) :
    (replay platform request told s).point.isOut = true := by
  unfold replay
  split
  · rfl
  · unfold yieldTerminal
    split <;> rfl

/-- Telling a phase, or the end, leaves the callbacks and the signals. -/
theorem replay_kept (told : Nat) (s : RunnerState) :
    (replay platform request told s).callbacks = s.callbacks ∧
      (replay platform request told s).acceptingCallbacks = s.acceptingCallbacks ∧
      (replay platform request told s).phases = s.phases ∧
      (replay platform request told s).terminal = s.terminal := by
  unfold replay
  split
  · exact ⟨rfl, rfl, rfl, rfl⟩
  · unfold yieldTerminal
    split <;> exact ⟨rfl, rfl, rfl, rfl⟩

/-- The end of the `try` statement. -/
theorem staged_conclude (hgiven : s.callbacks.isSome = true → validRequest request = true) :
    Staged request (conclude platform request s) := by
  obtain ⟨hcallbacks, haccepting, _⟩ :=
    @replay_kept platform request 0 s.finalize
  refine staged_of_out (replay_point 0 s.finalize) haccepting ?_
  intro hsome
  exact hgiven ((congrArg Option.isSome hcallbacks).symm.trans hsome)

variable {s : RunnerState}

theorem Staged.move {point : Point} (h : Staged request s) (hworking : s.point.isWorking = true)
    (hawaiting : point.isAwaiting = true → s.aborted = false)
    (htransport : point.inTransport = s.point.inTransport)
    (hearly : point.isEarly = true → s.point.isEarly = true) :
    Staged request { s with point := point } :=
  { valid := fun _ => h.valid hworking
    given := h.given
    controlled := fun _ => h.controlled hworking
    armed := fun _ => h.armed hworking
    waiting := hawaiting
    accepting := h.accepting.trans htransport.symm
    early := fun hpoint => h.early (hearly hpoint) }

/-- The stage of a run depends on the place, the signals and the callbacks. -/
theorem Staged.congr {s t : RunnerState} (h : Staged request s) (hpoint : t.point = s.point)
    (hcontroller : t.controller = s.controller) (htimeout : t.timeout = s.timeout)
    (haccepting : t.acceptingCallbacks = s.acceptingCallbacks)
    (hcallbacks : t.callbacks = s.callbacks) : Staged request t := by
  have haborted : t.aborted = s.aborted := by
    simp only [RunnerState.aborted, hcontroller]
  exact
    { valid := by rw [hpoint]; exact h.valid
      given := by rw [hcallbacks]; exact h.given
      controlled := by rw [hpoint, hcontroller]; exact h.controlled
      armed := by rw [hpoint, haborted, htimeout]; exact h.armed
      waiting := by rw [hpoint, haborted]; exact h.waiting
      accepting := by rw [haccepting, hpoint]; exact h.accepting
      early := by rw [hpoint, hcallbacks]; exact h.early }

theorem Staged.notAccepting {point : Point} (h : Staged request s) (hpoint : s.point = point)
    (houtside : point.inTransport = false) :
    s.acceptingCallbacks = false := by
  rw [h.accepting, hpoint, houtside]

/-- The place after an abort is of the same kind, but no promise is waited for. -/
theorem abort_point (h : s.aborted = false) :
    s.abort.point.isAwaiting = false ∧
      s.abort.point.isWorking = s.point.isWorking ∧
      s.abort.point.inTransport = s.point.inTransport ∧
      s.abort.point.isEarly = s.point.isEarly := by
  simp only [RunnerState.abort, h, Bool.false_eq_true, if_false]
  cases s.point with
  | awaiting operation =>
    cases operation <;> exact ⟨rfl, rfl, rfl, rfl⟩
  | _ => exact ⟨rfl, rfl, rfl, rfl⟩

theorem abort_aborted (h : s.controller.isSome = true) : s.abort.aborted = true := by
  obtain ⟨controller, hcontroller⟩ := Option.isSome_iff_exists.mp h
  unfold RunnerState.abort
  split
  · assumption
  · simp [RunnerState.aborted, hcontroller]

/-- A signal aborts the controller, whether or not the timer is still armed. -/
theorem Staged.abort {s s' : RunnerState} (h : Staged request s) (hpoint : s'.point = s.point)
    (hcontroller : s'.controller.isSome = s.controller.isSome) (haborted : s'.aborted = s.aborted)
    (haccepting : s'.acceptingCallbacks = s.acceptingCallbacks)
    (hcallbacks : s'.callbacks = s.callbacks) : Staged request s'.abort := by
  have hfields : s'.abort.acceptingCallbacks = s.acceptingCallbacks ∧
      s'.abort.callbacks = s.callbacks ∧ s'.abort.controller.isSome = s.controller.isSome := by
    unfold RunnerState.abort
    split
    · exact ⟨haccepting, hcallbacks, hcontroller⟩
    · exact ⟨haccepting, hcallbacks, by simp [hcontroller]⟩
  obtain ⟨haccepting', hcallbacks', hcontroller'⟩ := hfields
  have hplaces : s'.abort.point.isAwaiting = false ∧
      s'.abort.point.isWorking = s.point.isWorking ∧
      s'.abort.point.inTransport = s.point.inTransport ∧
      s'.abort.point.isEarly = s.point.isEarly := by
    cases hlive : s'.aborted with
    | false =>
      rw [← hpoint]
      exact abort_point hlive
    | true =>
      have hsame : s'.abort = s' := by
        simp [RunnerState.abort, hlive]
      have hawaiting : s.point.isAwaiting = false := by
        cases hawait : s.point.isAwaiting with
        | false => rfl
        | true =>
          rw [haborted, h.waiting hawait] at hlive
          cases hlive
      rw [hsame, hpoint]
      exact ⟨hawaiting, rfl, rfl, rfl⟩
  obtain ⟨hawaiting, hworking, htransport, hearly⟩ := hplaces
  exact
    { valid := by rw [hworking]; exact h.valid
      given := by rw [hcallbacks']; exact h.given
      controlled := by rw [hworking, hcontroller']; exact h.controlled
      armed := by
        intro hwork hlive
        have hsome : s'.controller.isSome = true :=
          hcontroller.trans (h.controlled (hworking ▸ hwork))
        rw [abort_aborted hsome] at hlive
        cases hlive
      waiting := by simp [hawaiting]
      accepting := by rw [haccepting', htransport]; exact h.accepting
      early := by rw [hearly, hcallbacks']; exact h.early }

theorem Staged.generator {s t : RunnerState} {a : RunnerAction} (hs : Staged request s)
    (h : GeneratorStep platform request s a t) : Staged request t := by
  have hworking : ∀ point, s.point = point → point.isWorking = true →
      s.point.isWorking = true := by
    rintro _ hpoint hworking
    rwa [hpoint]
  cases h with
  | requests hpoint =>
    have hnone : s.callbacks = none := hs.early (by rw [hpoint]; rfl)
    exact
      { valid := fun hworking => by cases hworking
        given := hs.given
        controlled := fun hworking => by cases hworking
        armed := fun hworking => by cases hworking
        waiting := fun hawaiting => by cases hawaiting
        accepting := hs.notAccepting hpoint rfl
        early := fun _ => hnone }
  | begins hpoint hvalid =>
    have hnone : s.callbacks = none := hs.early (by rw [hpoint]; rfl)
    exact
      { valid := fun _ => hvalid
        given := hs.given
        controlled := fun _ => rfl
        armed := fun _ _ => rfl
        waiting := fun hawaiting => by cases hawaiting
        accepting := hs.notAccepting hpoint rfl
        early := fun _ => hnone }
  | transports authority issued hpoint =>
    have hworking := hworking _ hpoint rfl
    exact
      { valid := fun _ => hs.valid hworking
        given := fun _ => hs.valid hworking
        controlled := fun _ => hs.controlled hworking
        armed := fun _ => hs.armed hworking
        waiting := fun hawaiting => by cases hawaiting
        accepting := rfl
        early := fun hearly => by cases hearly }
  | tells told hpoint =>
    obtain ⟨hcallbacks, haccepting, _⟩ := @replay_kept platform request told s
    refine staged_of_out (replay_point _ s) (haccepting.trans (hs.notAccepting hpoint rfl)) ?_
    rw [hcallbacks]
    exact hs.given
  | finishes hpoint => exact staged_of_out rfl (hs.notAccepting hpoint rfl) hs.given
  | leaves hpoint =>
    refine staged_of_out rfl (hs.notAccepting rfl ?_) hs.given
    cases hplace : s.point <;> rw [hplace] at hpoint <;> first | rfl | cases hpoint
  | quits => exact staged_of_out rfl rfl hs.given
  | waits operation hpoint hlive =>
    refine hs.move (hworking _ hpoint rfl) (fun _ => hlive) ?_ ?_
    · rw [hpoint]
      cases operation <;> rfl
    · rw [hpoint]
      cases operation <;> exact id
  | rejects operation error hpoint =>
    rcases hpoint with hpoint | hpoint
    all_goals
      refine hs.move (hworking _ hpoint rfl) (fun hawaiting => by cases hawaiting) ?_ ?_
      · rw [hpoint]
        cases operation <;> rfl
      · rw [hpoint]
        cases operation <;> exact id
  | fulfils value operation resumption hpoint hvalue _ =>
    refine hs.move (hworking _ hpoint rfl) (fun hawaiting => by cases hawaiting) ?_ ?_
    · rw [hpoint]
      cases operation <;> cases value <;> cases hvalue <;> rfl
    · rw [hpoint]
      cases operation <;> cases value <;> cases hvalue <;> exact id
  | postChecks result decision hpoint =>
    have hmoved : Staged request { s with point := .resuming (.checked result decision) } :=
      hs.move (hworking _ hpoint rfl) (fun hawaiting => by cases hawaiting) (by rw [hpoint]; rfl)
        (fun hearly => by cases hearly)
    exact hmoved.congr rfl rfl rfl rfl rfl
  | issues authority hpoint =>
    exact hs.move (hworking _ hpoint rfl) (fun hawaiting => by cases hawaiting)
      (by rw [hpoint]; rfl) (fun _ => by rw [hpoint]; rfl)
  | starts authority issued hpoint =>
    have hmoved : Staged request { s with point := .started authority issued } :=
      hs.move (hworking _ hpoint rfl) (fun hawaiting => by cases hawaiting) (by rw [hpoint]; rfl)
        (fun _ => by rw [hpoint]; rfl)
    exact hmoved.congr rfl rfl rfl rfl rfl
  | checks result accepted hpoint =>
    have hworking := hworking _ hpoint rfl
    exact
      { valid := fun _ => hs.valid hworking
        given := hs.given
        controlled := fun _ => hs.controlled hworking
        armed := fun _ => hs.armed hworking
        waiting := fun hawaiting => by cases hawaiting
        accepting := rfl
        early := fun hearly => by cases hearly }
  | concludes => exact staged_conclude hs.given
  | fails => exact staged_conclude hs.given
  | hears => exact hs.congr rfl rfl rfl rfl rfl
  | interrupts kind _ _ _ _ hcontroller haborted =>
    exact hs.abort rfl hcontroller haborted rfl rfl

theorem Staged.step {s t : RunnerState} {a : RunnerAction}
    (h : runnerStep platform request s a = some t) (hs : Staged request s) : Staged request t := by
  cases hcallback : a.isCallback with
  | true =>
    obtain ⟨_, hkept⟩ := generatorKept_of_step h hcallback
    exact hs.congr hkept.point hkept.controller hkept.timeout hkept.accepting hkept.callbacks
  | false => exact hs.generator (generatorStep_of_step h hcallback)

theorem staged_initial : Staged request RunnerState.initial :=
  { valid := fun hworking => by cases hworking
    given := fun hsome => by cases hsome
    controlled := fun hworking => by cases hworking
    armed := fun hworking => by cases hworking
    waiting := fun hawaiting => by cases hawaiting
    accepting := rfl
    early := fun _ => rfl }

end Stages

def admitsToolCall (request : AgentExecutionRequest) (call : TransportToolCall) (s : RunnerState) :
    Bool :=
  s.callbackFailure.isNone &&
    s.acceptingCallbacks &&
    (admissible request call s).isSome &&
    !request.budget.maxSteps.lt (.ofNat (s.toolCallCount + 1)) &&
    !request.budget.maxParallelTools.lt (.ofNat (s.activeToolCalls + 1))

structure ToolCallRefused (call : TransportToolCall) (s t : RunnerState) : Prop where
  trace : t.trace = s.trace ++ [.toolRefused call]
  failure : t.callbackFailure.isSome = true
  pending : t.pendingToolCalls = s.pendingToolCalls
  active : t.activeToolCalls = s.activeToolCalls
  count : s.toolCallCount ≤ t.toolCallCount
  seen : ∀ callId ∈ s.seenToolCallIds, callId ∈ t.seenToolCallIds

structure ToolCallExecuted (call : AdmittedToolCall) (s t : RunnerState) : Prop where
  trace : t.trace = s.trace ++ [.executed call]
  failure : t.callbackFailure = s.callbackFailure
  pending : t.pendingToolCalls = s.pendingToolCalls ++ [call.callId]
  active : t.activeToolCalls = s.activeToolCalls + 1
  count : t.toolCallCount = s.toolCallCount + 1
  seen : t.seenToolCallIds = s.seenToolCallIds ++ [call.callId]

variable {call : TransportToolCall} {s : RunnerState}

theorem admissible_spec {callId name : String}
    (h : admissible request call s = some (callId, name)) :
    call = { callId := some callId, name := some name } ∧
      callId ∉ s.seenToolCallIds ∧ name ∈ request.allowedTools := by
  unfold admissible at h
  split at h
  · split at h
    · next hall =>
        cases h
        simp only [Bool.and_eq_true, Bool.not_eq_true', List.contains_eq_mem,
          decide_eq_true_eq, decide_eq_false_iff_not] at hall
        exact ⟨rfl, hall.1.2, hall.2⟩
    · cases h
  · cases h

theorem onToolCall_refused (issued : SandboxAuthorization)
    (h : admitsToolCall request call s = false) :
    ToolCallRefused call s (onToolCall request issued call s) := by
  unfold onToolCall
  split
  · exact ⟨rfl, rfl, rfl, rfl, le_rfl, fun _ => id⟩
  · next hfailure =>
      split
      · next haccepting =>
          dsimp only
          split
          · exact ⟨rfl, rfl, rfl, rfl, Nat.le_succ _, fun _ => id⟩
          · next callId name hadmissible =>
              split
              · exact ⟨rfl, rfl, rfl, rfl, Nat.le_succ _,
                  fun _ hmem => List.mem_append_left _ hmem⟩
              · next hbudget =>
                  simp only [not_or, Bool.not_eq_true] at hbudget
                  simp [admitsToolCall, hfailure, haccepting, hadmissible, hbudget.1,
                    hbudget.2] at h
      · exact ⟨rfl, rfl, rfl, rfl, le_rfl, fun _ => id⟩

theorem onToolCall_executed (issued : SandboxAuthorization)
    (h : admitsToolCall request call s = true) :
    ∃ callId name, admissible request call s = some (callId, name) ∧
      ToolCallExecuted { callId, name, sandboxAuthorization := issued.authorization } s
        (onToolCall request issued call s) := by
  simp only [admitsToolCall, Bool.and_eq_true, Option.isNone_iff_eq_none, Bool.not_eq_true'] at h
  obtain ⟨⟨⟨⟨hfailure, haccepting⟩, hadmissible⟩, hsteps⟩, hparallel⟩ := h
  obtain ⟨⟨callId, name⟩, hadmissible⟩ := Option.isSome_iff_exists.mp hadmissible
  refine ⟨callId, name, hadmissible, ?_⟩
  simp only [onToolCall, hfailure, haccepting, hadmissible, hsteps, hparallel, if_true,
    Bool.false_eq_true, or_self, if_false]
  exact ⟨rfl, hfailure.symm ▸ rfl, rfl, rfl, rfl, rfl⟩

def ToolOutcome.observation (callId : String) : ToolOutcome → Observation
  | .completed => .toolCompleted callId
  | .denied => .toolDenied callId
  | .rejected _ => .toolFailed callId

def ToolOutcome.isNoted : ToolOutcome → Bool
  | .completed => false
  | .denied => true
  | .rejected error => error.isNone

structure ToolCallSettled
    (callId : String) (outcome : ToolOutcome) (s t : RunnerState) : Prop where
  trace : t.trace = s.trace ++ [outcome.observation callId]
  noted : outcome.isNoted = true → t.callbackFailure.isSome = true
  unnoted : outcome.isNoted = false → t.callbackFailure = s.callbackFailure
  pending : t.pendingToolCalls = s.pendingToolCalls.erase callId
  active : t.activeToolCalls = s.activeToolCalls - 1
  count : t.toolCallCount = s.toolCallCount
  seen : t.seenToolCallIds = s.seenToolCallIds

theorem toolSettles_settled (callId : String) (outcome : ToolOutcome) (s : RunnerState) :
    ToolCallSettled callId outcome s (toolSettles callId outcome s) := by
  cases outcome with
  | completed => exact ⟨rfl, (fun h => by cases h), fun _ => rfl, rfl, rfl, rfl, rfl⟩
  | denied => exact ⟨rfl, fun _ => rfl, (fun h => by cases h), rfl, rfl, rfl, rfl⟩
  | rejected error =>
    cases error with
    | none => exact ⟨rfl, fun _ => rfl, (fun h => by cases h), rfl, rfl, rfl, rfl⟩
    | some failure => exact ⟨rfl, (fun h => by cases h), fun _ => rfl, rfl, rfl, rfl, rfl⟩

theorem onProgress_tools (phase : String) (s : RunnerState) :
    (onProgress request phase s).trace = s.trace ∧
      (onProgress request phase s).activeToolCalls = s.activeToolCalls ∧
      (onProgress request phase s).toolCallCount = s.toolCallCount ∧
      (onProgress request phase s).seenToolCallIds = s.seenToolCallIds ∧
      (onProgress request phase s).pendingToolCalls = s.pendingToolCalls ∧
      (s.callbackFailure.isSome = true →
        (onProgress request phase s).callbackFailure.isSome = true) := by
  unfold onProgress
  split
  · exact ⟨rfl, rfl, rfl, rfl, rfl, id⟩
  · split
    · split
      · exact ⟨rfl, rfl, rfl, rfl, rfl, fun _ => rfl⟩
      · exact ⟨rfl, rfl, rfl, rfl, rfl, id⟩
    · exact ⟨rfl, rfl, rfl, rfl, rfl, fun _ => rfl⟩

structure ToolsBounded (request : AgentExecutionRequest) (s : RunnerState) : Prop where
  known : ∀ call ∈ executions s.trace, call.callId ∈ s.seenToolCallIds
  distinct : ((executions s.trace).map (·.callId)).Nodup
  allowed : ∀ call ∈ executions s.trace, call.name ∈ request.allowedTools
  counted : (executions s.trace).length ≤ s.toolCallCount
  steps : executions s.trace ≠ [] →
    (JsNumber.ofNat (executions s.trace).length).le request.budget.maxSteps = true
  active : s.pendingToolCalls.length = s.activeToolCalls
  parallel : s.pendingToolCalls ≠ [] →
    (JsNumber.ofNat s.pendingToolCalls.length).le request.budget.maxParallelTools = true

/-- A bound of a valid request that a count does not pass. -/
theorem le_bound_of_not_lt {bound : JsNumber} {low high n : Nat}
    (hsafe : isSafeWithin bound low high = true) (h : bound.lt (.ofNat n) = false) :
    (JsNumber.ofNat n).le bound = true := by
  simp only [isSafeWithin, Bool.and_eq_true] at hsafe
  exact JsNumber.ofNat_le_of_not_lt hsafe.1.1 h

theorem validRequest_bounds (h : validRequest request = true) :
    isSafeWithin request.budget.maxSteps 1 8 = true ∧
      isSafeWithin request.budget.maxParallelTools 1 3 = true := by
  simp only [validRequest, Bool.and_eq_true] at h
  exact ⟨h.1.2, h.2⟩

theorem ToolsBounded.congr {s t : RunnerState} (h : ToolsBounded request s)
    (hexecutions : executions t.trace = executions s.trace)
    (hseen : ∀ callId ∈ s.seenToolCallIds, callId ∈ t.seenToolCallIds)
    (hcount : s.toolCallCount ≤ t.toolCallCount)
    (hpending : t.pendingToolCalls = s.pendingToolCalls)
    (hactive : t.activeToolCalls = s.activeToolCalls) : ToolsBounded request t :=
  { known := by
      rw [hexecutions]
      exact fun call hcall => hseen _ (h.known call hcall)
    distinct := by rw [hexecutions]; exact h.distinct
    allowed := by rw [hexecutions]; exact h.allowed
    counted := by
      rw [hexecutions]
      exact h.counted.trans hcount
    steps := by rw [hexecutions]; exact h.steps
    active := by rw [hpending, hactive]; exact h.active
    parallel := by rw [hpending]; exact h.parallel }

theorem ToolsBounded.execute (h : ToolsBounded request s) (hvalid : validRequest request = true)
    (issued : SandboxAuthorization) (hadmits : admitsToolCall request call s = true) :
    ToolsBounded request (onToolCall request issued call s) := by
  obtain ⟨callId, name, hadmissible, hstep⟩ := onToolCall_executed issued hadmits
  obtain ⟨_, hfresh, hallowed⟩ := admissible_spec hadmissible
  obtain ⟨hsafeSteps, hsafeParallel⟩ := validRequest_bounds hvalid
  simp only [admitsToolCall, Bool.and_eq_true, Bool.not_eq_true'] at hadmits
  have hexecutions : executions (onToolCall request issued call s).trace =
      executions s.trace ++ [{ callId, name, sandboxAuthorization := issued.authorization }] := by
    rw [hstep.trace, executions_append]
    rfl
  have hsteps := le_bound_of_not_lt hsafeSteps hadmits.1.2
  have hparallel := le_bound_of_not_lt hsafeParallel hadmits.2
  refine
    { known := ?_
      distinct := ?_
      allowed := ?_
      counted := ?_
      steps := ?_
      active := ?_
      parallel := ?_ }
  · intro other hother
    rw [hexecutions] at hother
    rw [hstep.seen]
    rcases List.mem_append.mp hother with hother | hother
    · exact List.mem_append_left _ (h.known other hother)
    · rw [List.mem_singleton.mp hother]
      exact List.mem_append_right _ (List.mem_singleton_self _)
  · rw [hexecutions, List.map_append, List.map_singleton]
    refine List.nodup_append.mpr ⟨h.distinct, List.pairwise_singleton _ _, ?_⟩
    rintro other hother new hnew rfl
    obtain ⟨earlier, hearlier, hsame⟩ := List.mem_map.mp hother
    have hknown := h.known earlier hearlier
    rw [hsame, List.mem_singleton.mp hnew] at hknown
    exact hfresh hknown
  · intro other hother
    rw [hexecutions] at hother
    rcases List.mem_append.mp hother with hother | hother
    · exact h.allowed other hother
    · rw [List.mem_singleton.mp hother]
      exact hallowed
  · rw [hexecutions, hstep.count, List.length_append]
    exact Nat.succ_le_succ h.counted
  · intro _
    rw [hexecutions, List.length_append]
    exact JsNumber.ofNat_le_mono hsteps (Nat.succ_le_succ h.counted)
  · rw [hstep.pending, hstep.active, List.length_append, h.active]
    rfl
  · intro _
    rw [hstep.pending, List.length_append, h.active]
    exact hparallel

theorem ToolsBounded.settle {s t : RunnerState} {callId : String} {outcome : ToolOutcome}
    (h : ToolsBounded request s) (hpending : callId ∈ s.pendingToolCalls)
    (hstep : ToolCallSettled callId outcome s t) : ToolsBounded request t := by
  have hexecutions : executions t.trace = executions s.trace := by
    rw [hstep.trace]
    exact executions_snoc _ (by cases outcome <;> rfl)
  have hlength := List.length_erase_of_mem hpending
  refine
    { known := by rw [hexecutions, hstep.seen]; exact h.known
      distinct := by rw [hexecutions]; exact h.distinct
      allowed := by rw [hexecutions]; exact h.allowed
      counted := by rw [hexecutions, hstep.count]; exact h.counted
      steps := by rw [hexecutions]; exact h.steps
      active := by rw [hstep.pending, hstep.active, hlength, h.active]
      parallel := ?_ }
  intro _
  rw [hstep.pending, hlength]
  exact JsNumber.ofNat_le_mono (h.parallel (List.ne_nil_of_mem hpending)) (Nat.sub_le _ _)

theorem ToolsBounded.step {s t : RunnerState} {a : RunnerAction}
    (h : runnerStep platform request s a = some t) (hstaged : Staged request s)
    (hs : ToolsBounded request s) : ToolsBounded request t := by
  cases hcallback : a.isCallback with
  | false =>
    rcases toolsKept_of_step h hcallback with ⟨authority, issued, _, _, rfl⟩ | ⟨shown, hkept⟩
    · exact hs.congr (executions_snoc _ rfl) (fun _ => id) le_rfl rfl rfl
    · refine hs.congr ?_ (by rw [hkept.seen]; exact fun _ => id) hkept.count.ge hkept.pending
        hkept.active
      rw [hkept.trace]
      cases shown with
      | none => simp
      | some o =>
        exact executions_snoc _ (Observation.executed?_of_not_isWork (hkept.unrelated o rfl))
  | true =>
    cases a with
    | onProgress phase =>
      simp only [runnerStep, Option.map_eq_some_iff] at h
      obtain ⟨_, _, rfl⟩ := h
      obtain ⟨htrace, hactive, hcount, hseen, hpending, _⟩ :=
        @onProgress_tools request phase s
      exact hs.congr (by rw [htrace]) (by rw [hseen]; exact fun _ => id) hcount.ge hpending
        hactive
    | onToolCall call =>
      simp only [runnerStep, Option.map_eq_some_iff] at h
      obtain ⟨issued, hissued, rfl⟩ := h
      cases hadmits : admitsToolCall request call s with
      | true => exact hs.execute (hstaged.given (by rw [hissued]; rfl)) issued hadmits
      | false =>
        have hstep := onToolCall_refused issued hadmits
        refine hs.congr ?_ hstep.seen hstep.count hstep.pending hstep.active
        rw [hstep.trace]
        exact executions_snoc _ rfl
    | toolSettles callId outcome =>
      simp only [runnerStep] at h
      split at h
      · next hpending =>
          cases h
          exact hs.settle hpending (toolSettles_settled callId outcome s)
      · cases h
    | _ => cases hcallback

theorem toolsBounded_initial : ToolsBounded request RunnerState.initial :=
  { known := by simp [RunnerState.initial, executions]
    distinct := List.nodup_nil
    allowed := by simp [RunnerState.initial, executions]
    counted := le_rfl
    steps := fun hne => absurd rfl hne
    active := rfl
    parallel := fun hne => absurd rfl hne }

end Aiphabee.AgentRunner
