import Aiphabee.AgentRuntime.RunnerEvents

/-!
# What a run still does after its signal

Once its caller has aborted or its timer has fired, a run should neither start
the transport nor invoke the executor.  The generator looks at its signal when
it waits for a promise only, and the callbacks look at a flag that is taken
back when the generator is resumed.

`runner_quiet_iff` says exactly which steps break the rule: the consumer's
request that takes the generator from the first `run.started` to the transport,
and a tool call that the callback still admits.
-/

namespace Aiphabee.AgentRunner

open Transition

variable {platform : RunnerPlatform}
variable {request : AgentExecutionRequest}

def Observation.isEffect : Observation → Bool
  | .transportStarted _ => true
  | .executed _ => true
  | _ => false

/-- A signal is among what has been shown. -/
def Signalled (trace : List Observation) : Prop :=
  ∃ kind, .signalled kind ∈ trace

/-- After a signal neither the transport is started nor the executor invoked. -/
def QuietAfterSignal (trace : List Observation) : Prop :=
  ∀ before kind after, trace = before ++ .signalled kind :: after →
    ∀ o ∈ after, o.isEffect = false

/-- What is shown next keeps the rule unless it is an effect after a signal. -/
theorem quietAfterSignal_snoc {trace : List Observation} {o : Observation} :
    QuietAfterSignal (trace ++ [o]) ↔
      QuietAfterSignal trace ∧ (o.isEffect = true → ¬ Signalled trace) := by
  constructor
  · intro h
    refine ⟨?_, ?_⟩
    · rintro before kind after rfl o' ho'
      exact h before kind (after ++ [o]) (by simp) o' (List.mem_append_left _ ho')
    · rintro heffect ⟨kind, hmem⟩
      obtain ⟨before, after, rfl⟩ := List.append_of_mem hmem
      have hquiet := h before kind (after ++ [o]) (by simp) o
        (List.mem_append_right _ (List.mem_singleton_self o))
      rw [hquiet] at heffect
      cases heffect
  · rintro ⟨hquiet, hnext⟩ before kind after heq o' ho'
    rcases List.eq_nil_or_concat after with rfl | ⟨front, last, rfl⟩
    · cases ho'
    · rw [List.concat_eq_append, ← List.cons_append, ← List.append_assoc] at heq
      obtain ⟨htrace, hlast⟩ := List.append_inj' heq rfl
      cases hlast
      rw [List.concat_eq_append] at ho'
      rcases List.mem_append.mp ho' with ho' | ho'
      · exact hquiet before kind front htrace o' ho'
      · rw [List.mem_singleton.mp ho']
        cases heffect : o.isEffect with
        | false => rfl
        | true => exact absurd ⟨kind, by simp [htrace]⟩ (hnext heffect)

theorem QuietAfterSignal.append {trace : List Observation} {shown : Option Observation}
    (h : QuietAfterSignal trace) (hshown : ∀ o ∈ shown, o.isEffect = false) :
    QuietAfterSignal (trace ++ shown.toList) := by
  cases shown with
  | none => simpa using h
  | some o =>
    refine quietAfterSignal_snoc.mpr ⟨h, ?_⟩
    intro heffect
    rw [hshown o rfl] at heffect
    cases heffect

/--
The generator is not taken from the first `run.started` to the transport after
a signal, and no tool call that its callback admits comes after one.
-/
def HeedsSignal (request : AgentExecutionRequest) (s : RunnerState) : RunnerAction → Prop
  | .consumerNext =>
    ∀ authority issued, s.point = .started authority issued → ¬ Signalled s.trace
  | .onToolCall call => admitsToolCall request call s = true → ¬ Signalled s.trace
  | _ => True

theorem quiet_of_heeds {s t : RunnerState} {a : RunnerAction}
    (h : runnerStep platform request s a = some t) (hs : QuietAfterSignal s.trace)
    (hheeds : HeedsSignal request s a) : QuietAfterSignal t.trace := by
  cases hcallback : a.isCallback with
  | false =>
    rcases toolsKept_of_step h hcallback with
      ⟨authority, issued, rfl, hpoint, rfl⟩ | ⟨shown, hkept⟩
    · exact quietAfterSignal_snoc.mpr ⟨hs, fun _ => hheeds authority issued hpoint⟩
    · rw [hkept.trace]
      refine hs.append ?_
      intro o ho
      have hwork := hkept.unrelated o ho
      cases o <;> first | rfl | cases hwork
  | true =>
    cases a with
    | onProgress phase =>
      simp only [runnerStep, Option.map_eq_some_iff] at h
      obtain ⟨_, _, rfl⟩ := h
      rw [(onProgress_tools phase s).1]
      exact hs
    | onToolCall call =>
      simp only [runnerStep, Option.map_eq_some_iff] at h
      obtain ⟨issued, _, rfl⟩ := h
      cases hadmits : admitsToolCall request call s with
      | true =>
        obtain ⟨_, _, _, hstep⟩ := onToolCall_executed issued hadmits
        rw [hstep.trace]
        exact quietAfterSignal_snoc.mpr ⟨hs, fun _ => hheeds hadmits⟩
      | false =>
        rw [(onToolCall_refused issued hadmits).trace]
        refine quietAfterSignal_snoc.mpr ⟨hs, ?_⟩
        rintro ⟨⟩
    | toolSettles callId outcome =>
      simp only [runnerStep] at h
      split at h <;> cases h
      rw [(toolSettles_settled callId outcome s).trace]
      refine quietAfterSignal_snoc.mpr ⟨hs, ?_⟩
      cases outcome <;> rintro ⟨⟩
    | _ => cases hcallback

theorem heeds_of_quiet {s t : RunnerState} {a : RunnerAction}
    (h : runnerStep platform request s a = some t) (ht : QuietAfterSignal t.trace) :
    HeedsSignal request s a := by
  cases a with
  | consumerNext =>
    intro authority issued hpoint
    simp only [runnerStep, consumerNext, hpoint, Option.some.injEq] at h
    subst h
    exact (quietAfterSignal_snoc.mp ht).2 rfl
  | onToolCall call =>
    intro hadmits
    simp only [runnerStep, Option.map_eq_some_iff] at h
    obtain ⟨issued, _, rfl⟩ := h
    obtain ⟨_, _, _, hstep⟩ := onToolCall_executed issued hadmits
    rw [hstep.trace] at ht
    exact (quietAfterSignal_snoc.mp ht).2 rfl
  | _ => trivial

/-- The steps of a run that all heed the signal are those that start nothing after it. -/
theorem runner_quiet_iff {actions : List RunnerAction} {s : RunnerState}
    (h : Run (Fires (runnerStep platform request)) .initial actions s) :
    Run (Guarded (Fires (runnerStep platform request)) (HeedsSignal request)) .initial actions s ↔
      Always (Fires (runnerStep platform request)) (fun s => QuietAfterSignal s.trace)
        .initial actions := by
  refine Run.guarded_iff_always (I := fun _ => True) (fires_deterministic _)
    (fun _ _ _ _ _ => trivial) ?_ ?_ h trivial ?_
  · intro s a t hstep _ hs hheeds
    exact quiet_of_heeds hstep hs hheeds
  · intro s a t hstep _ _ ht
    exact heeds_of_quiet hstep ht
  · intro before kind after heq
    simp [RunnerState.initial] at heq

/-- A caller that aborts at the first event is heeded. -/
theorem runner_quiet_iff_early :
    Always (Fires (runnerStep samplePlatform sampleRequest))
      (fun s => QuietAfterSignal s.trace) .initial [.consumerNext, .callerAborts] := by
  have hguarded : ∃ s, Run (Guarded (Fires (runnerStep samplePlatform sampleRequest))
      (HeedsSignal sampleRequest)) .initial [.consumerNext, .callerAborts] s := by
    refine ⟨_, Run.cons ⟨?_, rfl⟩ (Run.cons ⟨trivial, rfl⟩ (Run.nil _))⟩
    intro authority issued hpoint
    cases hpoint
  obtain ⟨s, hguarded⟩ := hguarded
  exact (runner_quiet_iff hguarded.of_guarded).mp hguarded

/--
The caller aborts while the consumer holds the first `run.started`: the transport
is started all the same, and a tool call that it makes is executed.
-/
theorem runner_works_after_signal :
    ∃ s, Run (Fires (runnerStep samplePlatform sampleRequest)) .initial
        (sampleStart ++ [.callerAborts, .consumerNext, .onToolCall sampleToolCall]) s ∧
      ¬ QuietAfterSignal s.trace ∧
      ∃ before input call,
        s.trace = before ++
          [.signalled .cancelled, .transportStarted input, .executed call] := by
  have htrace : (fire (runnerStep samplePlatform sampleRequest) .initial
      (sampleStart ++ [.callerAborts, .consumerNext, .onToolCall sampleToolCall])).map
        (fun s => s.trace.drop 2) =
      some [.signalled .cancelled,
        .transportStarted
          { externalUserIdentity := "external"
            fastclawAgentId := "agent"
            fastclawUserId := "user"
            prompt := "prompt"
            runId := "run"
            sandboxAuthorization := "token" },
        .executed
          { callId := "call", name := "resolve_security", sandboxAuthorization := "token" }] := by
    decide +kernel
  obtain ⟨s, hs, hdrop⟩ := Option.map_eq_some_iff.mp htrace
  have heq := (List.take_append_drop 2 s.trace).symm
  rw [hdrop] at heq
  refine ⟨s, run_fires_iff.mpr hs, ?_, _, _, _, heq⟩
  intro hquiet
  have hstarted := hquiet _ _ _ heq _ List.mem_cons_self
  cases hstarted

end Aiphabee.AgentRunner
