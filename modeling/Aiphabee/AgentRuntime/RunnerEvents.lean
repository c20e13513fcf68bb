import Aiphabee.AgentRuntime.RunnerTools

/-!
# The event protocol of a run

Whatever the transport, the executor, the post check, the signals and the
consumer do, the events of a run are numbered from zero without gaps, the last
one is the only one that may end the run, and a completed run has its answer
from the post check.  The executor is invoked within the budget of the request
only.

`runner_event_protocol` is stated for every run.  It also says that a run whose
consumer stays can always be ended by the consumer, the generator and the timer
alone, so that nothing else is needed for the last event to come.
-/

namespace Aiphabee.AgentRunner

open Transition

variable {platform : RunnerPlatform}
variable {request : AgentExecutionRequest}
variable {s t : RunnerState}
variable {s : RunnerState}
variable {a : RunnerAction}

/-- Events numbered from zero, none of which ends the run. -/
structure OpenLog (es : List ExecutionEvent) : Prop where
  indexed : es.map (·.eventIndex) = List.range es.length
  running : ∀ e ∈ es, e.eventType.isTerminal = false

/-- Events numbered from zero, of which the last one and no other ends the run. -/
def ClosedLog (es : List ExecutionEvent) : Prop :=
  ∃ front last,
    es = front ++ [last] ∧ OpenLog front ∧
    last.eventIndex = front.length ∧ last.eventType.isTerminal = true

theorem OpenLog.snoc {es : List ExecutionEvent} {e : ExecutionEvent} (h : OpenLog es)
    (hindex : e.eventIndex = es.length) (htype : e.eventType.isTerminal = false) :
    OpenLog (es ++ [e]) := by
  refine ⟨?_, ?_⟩
  · rw [List.map_append, h.indexed, List.length_append, List.length_singleton, List.range_succ]
    simp [hindex]
  · intro e' he'
    rcases List.mem_append.mp he' with he' | he'
    · exact h.running e' he'
    · rw [List.mem_singleton.mp he']
      exact htype

theorem ClosedLog.indexed {es : List ExecutionEvent} (h : ClosedLog es) :
    es.map (·.eventIndex) = List.range es.length := by
  obtain ⟨front, last, rfl, hfront, hindex, _⟩ := h
  rw [List.map_append, hfront.indexed, List.length_append, List.length_singleton,
    List.range_succ]
  simp [hindex]

def OpenAt (s : RunnerState) : Prop :=
  OpenLog (events s.trace) ∧ s.index = (events s.trace).length

theorem OpenAt.of_events (h : OpenAt s) (hindex : t.index = s.index)
    (hevents : events t.trace = events s.trace) : OpenAt t := by
  obtain ⟨hlog, hcount⟩ := h
  exact ⟨hevents ▸ hlog, by rw [hindex, hevents, hcount]⟩

/-- The events of a run by the place the generator is at. -/
structure Numbered (s : RunnerState) : Prop where
  running : s.point.isOver = false → OpenAt s
  closed : s.point = .ended ∨ s.point = .finished → ClosedLog (events s.trace)
  left : s.point = .abandoned → OpenLog (events s.trace) ∨ ClosedLog (events s.trace)

theorem OpenAt.numbered (h : OpenAt s) (hpoint : s.point.isOver = false) : Numbered s := by
  refine ⟨fun _ => h, ?_, ?_⟩
  · rintro (heq | heq) <;> rw [heq] at hpoint <;> cases hpoint
  · intro heq
    rw [heq] at hpoint
    cases hpoint

theorem ClosedLog.numbered (h : ClosedLog (events s.trace)) (hpoint : s.point = .ended) :
    Numbered s := by
  refine ⟨?_, fun _ => h, ?_⟩
  · intro hover
    rw [hpoint] at hover
    cases hover
  · intro heq
    rw [hpoint] at heq
    cases heq

theorem OpenAt.yieldNext (h : OpenAt s) {type : EventType} (htype : type.isTerminal = false)
    (payload : EventPayload) (point : Point) :
    OpenAt (yieldNext platform request type payload point s) := by
  obtain ⟨hlog, hindex⟩ := h
  have hevents : events (AgentRunner.yieldNext platform request type payload point s).trace =
      events s.trace ++ [event request s.index type payload false (platform.now s.clockReads)] := by
    simp [AgentRunner.yieldNext, yieldEvent, RunnerState.record, events, Observation.event?]
  refine ⟨?_, ?_⟩
  · rw [hevents]
    exact hlog.snoc hindex htype
  · rw [hevents, List.length_append, List.length_singleton, ← hindex]
    rfl

theorem OpenAt.yieldLast {s t : RunnerState} (h : OpenAt s) {type : EventType}
    {payload : EventPayload} (htype : type.isTerminal = true)
    (ht : t = { yieldEvent platform request type payload true s with point := .ended }) :
    Numbered t := by
  subst ht
  refine ClosedLog.numbered ⟨events s.trace,
    event request s.index type payload true (platform.now s.clockReads), ?_, h.1, h.2, htype⟩ rfl
  simp [yieldEvent, RunnerState.record, events, Observation.event?]

theorem OpenAt.replay (h : OpenAt s) (told : Nat) : Numbered (replay platform request told s) := by
  unfold AgentRunner.replay
  split
  · exact (h.yieldNext rfl _ _).numbered rfl
  · unfold yieldTerminal
    split
    · next failure _ =>
        refine h.yieldLast ?_ rfl
        cases failure.terminalType <;> rfl
    · exact h.yieldLast rfl rfl

theorem OpenAt.fail (h : OpenAt s) (failure : RunnerFailure) :
    Numbered (fail platform request failure s) :=
  OpenAt.replay (s := RunnerState.finalize { s with terminal := some failure }) h 0

theorem Numbered.congr (h : Numbered s) (hpoint : t.point = s.point) (hindex : t.index = s.index)
    (hevents : events t.trace = events s.trace) : Numbered t := by
  refine ⟨?_, ?_, ?_⟩
  · intro hover
    exact (h.running (hpoint ▸ hover)).of_events hindex hevents
  · intro heq
    rw [hevents]
    exact h.closed (hpoint ▸ heq)
  · intro heq
    rw [hevents]
    exact h.left (hpoint ▸ heq)

/-- Aborting the controller shows nothing, and moves a wait only. -/
theorem Numbered.abort (h : Numbered s) : Numbered s.abort := by
  unfold RunnerState.abort
  split
  · exact h
  · cases hpoint : s.point with
    | awaiting operation =>
      have hopen : OpenAt s := h.running (by rw [hpoint]; rfl)
      exact OpenAt.numbered hopen rfl
    | _ => exact h.congr hpoint.symm rfl rfl

/-- A generator that is given up keeps its events. -/
theorem Numbered.abandon (h : Numbered s) : Numbered { s with point := .abandoned } := by
  refine ⟨?_, ?_, fun _ => ?_⟩
  · intro hover
    cases hover
  · rintro (heq | heq) <;> cases heq
  · cases hover : s.point.isOver with
    | false => exact .inl (h.running hover).1
    | true =>
      cases hpoint : s.point with
      | ended => exact .inr (h.closed (.inl hpoint))
      | finished => exact .inr (h.closed (.inr hpoint))
      | abandoned => exact h.left hpoint
      | _ =>
        rw [hpoint] at hover
        cases hover

theorem Numbered.generator (hs : Numbered s) (h : GeneratorStep platform request s a t) :
    Numbered t := by
  have hopen : ∀ point, s.point = point → point.isOver = false → OpenAt s := by
    rintro point rfl hover
    exact hs.running hover
  cases h with
  | requests hpoint => exact ((hopen _ hpoint rfl).yieldNext rfl _ _).numbered rfl
  | begins hpoint => exact OpenAt.numbered (hopen _ hpoint rfl) rfl
  | transports authority issued hpoint =>
    exact OpenAt.numbered ((hopen _ hpoint rfl).of_events rfl (events_snoc _ rfl)) rfl
  | tells told hpoint => exact (hopen _ hpoint rfl).replay told
  | finishes hpoint =>
    refine ⟨?_, fun _ => hs.closed (.inl hpoint), ?_⟩
    · intro hover
      cases hover
    · intro heq
      cases heq
  | leaves => exact hs.abandon
  | quits =>
    have hfinal : Numbered s.finalize := hs.congr rfl rfl rfl
    exact hfinal.abandon
  | waits operation hpoint => exact OpenAt.numbered (hopen _ hpoint rfl) rfl
  | rejects operation error hpoint =>
    rcases hpoint with hpoint | hpoint <;> exact OpenAt.numbered (hopen _ hpoint rfl) rfl
  | fulfils value operation resumption hpoint => exact OpenAt.numbered (hopen _ hpoint rfl) rfl
  | postChecks result decision hpoint =>
    exact OpenAt.numbered ((hopen _ hpoint rfl).of_events rfl (events_snoc _ rfl)) rfl
  | issues authority hpoint => exact OpenAt.numbered (hopen _ hpoint rfl) rfl
  | starts authority issued hpoint =>
    have hread : OpenAt { s with clockReads := s.clockReads + 1 } := hopen _ hpoint rfl
    exact (hread.yieldNext rfl _ _).numbered rfl
  | checks result accepted hpoint => exact OpenAt.numbered (hopen _ hpoint rfl) rfl
  | concludes result decision answer hpoint =>
    have hfinal : OpenAt (RunnerState.finalize
        { s with completedPayload := some { answer, usage := result.usage } }) :=
      hopen _ hpoint rfl
    exact hfinal.replay 0
  | fails failure clockReads accepting hpoint =>
    have hread : OpenAt { s with clockReads := clockReads, acceptingCallbacks := accepting } :=
      hs.running hpoint
    exact hread.fail failure
  | hears => exact hs.congr rfl rfl (events_snoc _ rfl)
  | interrupts => exact Numbered.abort (hs.congr rfl rfl (events_snoc _ rfl))

/-- A callback shows no event. -/
theorem GeneratorKept.events {shown : Option Observation} (h : GeneratorKept s t shown) :
    events t.trace = events s.trace := by
  rw [h.trace, events_append]
  cases shown with
  | none => exact List.append_nil _
  | some o => simp [AgentRunner.events, Observation.event?_of_isTool (h.related o rfl)]

theorem Numbered.step (h : runnerStep platform request s a = some t) (hs : Numbered s) :
    Numbered t := by
  cases hcallback : a.isCallback with
  | true =>
    obtain ⟨_, hkept⟩ := generatorKept_of_step h hcallback
    exact hs.congr hkept.point hkept.index hkept.events
  | false => exact hs.generator (generatorStep_of_step h hcallback)

theorem numbered_initial : Numbered RunnerState.initial :=
  OpenAt.numbered ⟨⟨rfl, by rintro e ⟨⟩⟩, rfl⟩ rfl

def AnswerApproved (trace : List Observation) (answer : String) : Prop :=
  ∃ decision, .postChecked decision ∈ trace ∧ approvedAnswer decision = some answer

def EventApproved (trace : List Observation) (e : ExecutionEvent) : Prop :=
  e.eventType = .completed →
    ∃ answer usage, e.payload = .completed answer runnerId usage ∧ AnswerApproved trace answer

structure AnswersApproved (s : RunnerState) : Prop where
  told : ∀ e ∈ events s.trace, EventApproved s.trace e
  kept : ∀ completed, s.completedPayload = some completed →
    AnswerApproved s.trace completed.answer

/-- The places at which an approved answer is due. -/
structure ApprovalDue (s : RunnerState) : Prop where
  checked : ∀ result decision, s.point = .resuming (.checked result decision) →
    .postChecked decision ∈ s.trace
  concluded : ∀ told, s.point = .replaying told → s.terminal = none →
    s.completedPayload.isSome = true

theorem AnswerApproved.append {trace : List Observation} {answer : String}
    (h : AnswerApproved trace answer) (shown : List Observation) :
    AnswerApproved (trace ++ shown) answer := by
  obtain ⟨decision, hmem, hanswer⟩ := h
  exact ⟨decision, List.mem_append_left _ hmem, hanswer⟩

theorem AnswersApproved.of_shown {shown : List Observation} (h : AnswersApproved s)
    (htrace : t.trace = s.trace ++ shown) (hevents : events t.trace = events s.trace)
    (hkept : t.completedPayload = s.completedPayload) :
    AnswersApproved t := by
  refine ⟨?_, ?_⟩
  · intro e he htype
    obtain ⟨answer, usage, hpayload, happroved⟩ := h.told e (hevents ▸ he) htype
    exact ⟨answer, usage, hpayload, htrace ▸ happroved.append shown⟩
  · intro completed hcompleted
    exact htrace ▸ (h.kept completed (hkept ▸ hcompleted)).append shown

theorem AnswersApproved.of_yield {e : ExecutionEvent} (h : AnswersApproved s)
    (htrace : t.trace = s.trace ++ [.yielded e]) (hkept : t.completedPayload = s.completedPayload)
    (he : EventApproved s.trace e) : AnswersApproved t := by
  refine ⟨?_, ?_⟩
  · intro e' he' htype
    rw [htrace, events_append] at he'
    have happroved : EventApproved s.trace e' := by
      rcases List.mem_append.mp he' with he' | he'
      · exact h.told e' he'
      · rw [List.mem_singleton.mp he']
        exact he
    obtain ⟨answer, usage, hpayload, hanswer⟩ := happroved htype
    exact ⟨answer, usage, hpayload, htrace ▸ hanswer.append _⟩
  · intro completed hcompleted
    exact htrace ▸ (h.kept completed (hkept ▸ hcompleted)).append _

/-- Telling a phase, or the end: a run without a failure has an answer. -/
theorem AnswersApproved.replay (h : AnswersApproved s)
    (hanswer : s.terminal = none → s.completedPayload.isSome = true) (told : Nat) :
    AnswersApproved (replay platform request told s) ∧
      ApprovalDue (replay platform request told s) := by
  unfold AgentRunner.replay
  split
  · refine ⟨h.of_yield rfl rfl ?_, ⟨?_, fun _ _ => hanswer⟩⟩
    · intro htype
      cases htype
    · intro result decision heq
      cases heq
  · unfold yieldTerminal
    split
    · next failure _ =>
        refine ⟨h.of_yield rfl rfl ?_, ⟨?_, ?_⟩⟩
        · intro htype
          have hfailed : failure.terminalType.eventType = .completed := htype
          cases hkind : failure.terminalType <;> rw [hkind] at hfailed <;> cases hfailed
        · intro result decision heq
          cases heq
        · intro told heq
          cases heq
    · next hterminal =>
        obtain ⟨completed, hcompleted⟩ := Option.isSome_iff_exists.mp (hanswer hterminal)
        refine ⟨h.of_yield rfl rfl ?_, ⟨?_, ?_⟩⟩
        · intro _
          refine ⟨completed.answer, completed.usage, ?_, h.kept completed hcompleted⟩
          simp only [event, hcompleted]
        · intro result decision heq
          cases heq
        · intro told heq
          cases heq

theorem AnswersApproved.fail (h : AnswersApproved s) (failure : RunnerFailure) :
    AnswersApproved (fail platform request failure s) ∧
      ApprovalDue (fail platform request failure s) := by
  have hfinal : AnswersApproved (RunnerState.finalize { s with terminal := some failure }) :=
    ⟨h.told, h.kept⟩
  exact hfinal.replay (fun hterminal => by cases hterminal) 0

/-- The place is one at which an approved answer is due. -/
def Point.owesApproval : Point → Bool
  | .resuming (.checked _ _) => true
  | .replaying _ => true
  | _ => false

theorem approvalDue_of_point (h : s.point.owesApproval = false) : ApprovalDue s := by
  refine ⟨?_, ?_⟩
  · intro result decision heq
    rw [heq] at h
    cases h
  · intro told heq
    rw [heq] at h
    cases h

/-- What is told, what is kept, and what is due. -/
def Approved (s : RunnerState) : Prop :=
  AnswersApproved s ∧ ApprovalDue s

theorem Approved.abort (h : Approved s) : Approved s.abort := by
  obtain ⟨happroved, hdue⟩ := h
  unfold RunnerState.abort
  split
  · exact ⟨happroved, hdue⟩
  · refine ⟨⟨happroved.told, happroved.kept⟩, ?_⟩
    cases hpoint : s.point with
    | awaiting operation => exact approvalDue_of_point rfl
    | resuming resumption =>
      refine ⟨?_, ?_⟩
      · rintro result decision ⟨⟩
        exact hdue.checked _ _ hpoint
      · intro told heq
        cases heq
    | replaying told =>
      refine ⟨?_, ?_⟩
      · intro result decision heq
        cases heq
      · rintro told' ⟨⟩
        exact hdue.concluded _ hpoint
    | _ => exact approvalDue_of_point rfl

/-- What is due depends on the place, and on what has been recorded since. -/
theorem ApprovalDue.of_shown {shown : List Observation} (h : ApprovalDue s)
    (hpoint : t.point = s.point) (htrace : t.trace = s.trace ++ shown)
    (hterminal : t.terminal = s.terminal) (hcompleted : t.completedPayload = s.completedPayload) :
    ApprovalDue t := by
  refine ⟨?_, ?_⟩
  · intro result decision heq
    rw [htrace]
    exact List.mem_append_left _ (h.checked result decision (hpoint ▸ heq))
  · intro told heq hnone
    rw [hcompleted]
    exact h.concluded told (hpoint ▸ heq) (hterminal ▸ hnone)

theorem Approved.generator (hs : Approved s) (h : GeneratorStep platform request s a t) :
    Approved t := by
  obtain ⟨happroved, hdue⟩ := hs
  have hsilent : ∀ point, point.owesApproval = false → Approved { s with point := point } :=
    fun point hpoint => ⟨⟨happroved.told, happroved.kept⟩, approvalDue_of_point hpoint⟩
  have hsignalled : ∀ kind, Approved (s.record (.signalled kind)) := fun kind =>
    ⟨happroved.of_shown rfl (events_snoc _ rfl) rfl, hdue.of_shown rfl rfl rfl rfl⟩
  cases h with
  | requests =>
    refine ⟨happroved.of_yield rfl rfl ?_, approvalDue_of_point rfl⟩
    intro htype
    cases htype
  | transports =>
    exact ⟨happroved.of_shown rfl (events_snoc _ rfl) rfl, approvalDue_of_point rfl⟩
  | tells told hpoint => exact happroved.replay (hdue.concluded told hpoint) told
  | fulfils value operation resumption _ _ hunchecked =>
    refine hsilent _ ?_
    cases resumption with
    | checked result decision => exact absurd rfl (hunchecked result decision)
    | _ => rfl
  | postChecks result decision =>
    refine ⟨happroved.of_shown rfl (events_snoc _ rfl) rfl, ?_, fun told heq => by cases heq⟩
    rintro result decision ⟨⟩
    exact List.mem_append_right _ (List.mem_singleton_self _)
  | starts =>
    refine ⟨happroved.of_yield rfl rfl ?_, approvalDue_of_point rfl⟩
    intro htype
    cases htype
  | concludes result decision answer hpoint hanswer =>
    have hfinal : AnswersApproved (RunnerState.finalize
        { s with completedPayload := some { answer, usage := result.usage } }) := by
      refine ⟨happroved.told, ?_⟩
      rintro completed ⟨⟩
      exact ⟨decision, hdue.checked result decision hpoint, hanswer⟩
    exact hfinal.replay (fun _ => rfl) 0
  | fails failure clockReads accepting =>
    have hread : AnswersApproved
        { s with clockReads := clockReads, acceptingCallbacks := accepting } :=
      ⟨happroved.told, happroved.kept⟩
    exact hread.fail failure
  | hears =>
    obtain ⟨htold, hnext⟩ := hsignalled .cancelled
    exact ⟨⟨htold.told, htold.kept⟩, hnext.checked, hnext.concluded⟩
  | interrupts kind =>
    obtain ⟨htold, hnext⟩ := hsignalled kind
    exact Approved.abort ⟨⟨htold.told, htold.kept⟩, hnext.checked, hnext.concluded⟩
  | _ => exact ⟨⟨happroved.told, happroved.kept⟩, approvalDue_of_point rfl⟩

theorem Approved.step (h : runnerStep platform request s a = some t) (hs : Approved s) :
    Approved t := by
  cases hcallback : a.isCallback with
  | true =>
    obtain ⟨_, hkept⟩ := generatorKept_of_step h hcallback
    exact ⟨hs.1.of_shown hkept.trace hkept.events hkept.completed,
      hs.2.of_shown hkept.point hkept.trace hkept.terminal hkept.completed⟩
  | false => exact hs.generator (generatorStep_of_step h hcallback)

/-- Before the first event nothing is told. -/
theorem approved_initial : Approved RunnerState.initial := by
  refine ⟨⟨?_, ?_⟩, approvalDue_of_point rfl⟩
  · intro e he
    cases he
  · intro completed hcompleted
    cases hcompleted

section Progress

def RunnerAction.isDriver : RunnerAction → Bool
  | .consumerNext => true
  | .returns => true
  | .resumes => true
  | .timerFires => true
  | _ => false

/-- The consumer, the generator and the timer can bring the run to its end. -/
def CanEnd (platform : RunnerPlatform) (request : AgentExecutionRequest) (s : RunnerState) : Prop :=
  ∃ actions t,
    (∀ a ∈ actions, a.isDriver = true) ∧
    Run (Fires (runnerStep platform request)) s actions t ∧ t.point = .finished

theorem CanEnd.cons {s t : RunnerState} {a : RunnerAction} (h : CanEnd platform request t)
    (hstep : runnerStep platform request s a = some t) (ha : a.isDriver = true) :
    CanEnd platform request s := by
  obtain ⟨actions, u, hdrivers, hrun, hfinished⟩ := h
  refine ⟨a :: actions, u, ?_, Run.cons hstep hrun, hfinished⟩
  intro b hb
  rcases List.mem_cons.mp hb with rfl | hb
  · exact ha
  · exact hdrivers b hb

/-- After the last event the generator returns. -/
theorem canEnd_ended (hpoint : s.point = .ended) : CanEnd platform request s := by
  refine ⟨[.consumerNext], { s with point := .finished }, ?_, Run.single ?_, rfl⟩
  · intro a ha
    rw [List.mem_singleton.mp ha]
    rfl
  · simp [Fires, runnerStep, consumerNext, hpoint]

theorem canEnd_replay (s : RunnerState) (told : Nat) :
    CanEnd platform request (replay platform request told s) := by
  -- by induction on the number of phases that are still to be told
  generalize hleft : s.phases.length - told = left
  induction left generalizing s told with
  | zero =>
    have hnone : s.phases[told]? = none := List.getElem?_eq_none (by omega)
    simp only [replay, hnone, yieldTerminal]
    split <;> exact canEnd_ended rfl
  | succ left ih =>
    have hlt : told < s.phases.length := by omega
    have hrest := ih (replay platform request told s) (told + 1)
      (by rw [(replay_kept told s).2.2.1]; omega)
    refine hrest.cons ?_ (a := .consumerNext) rfl
    simp [runnerStep, consumerNext, replay, yieldNext, hlt]

theorem canEnd_fail (failure : RunnerFailure) (s : RunnerState) :
    CanEnd platform request (fail platform request failure s) :=
  canEnd_replay _ 0

variable {s : RunnerState} {operation : Operation}

theorem canEnd_rejected {error : Rejection}
    (hpoint : s.point = .resuming (.rejected operation error)) : CanEnd platform request s := by
  refine (canEnd_fail (failureOf operation error) s).cons (a := .resumes) ?_ rfl
  simp [runnerStep, resumes, hpoint, resume]

/-- A promise that is never settled is ended by the timer. -/
theorem canEnd_awaiting (h : Staged request s) (hpoint : s.point = .awaiting operation) :
    CanEnd platform request s := by
  have hlive : s.aborted = false := h.waiting (by rw [hpoint]; rfl)
  have harmed : s.timeout = true := h.armed (by rw [hpoint]; rfl) hlive
  have hnext : (RunnerState.abort
      { s.record (.signalled .timeout) with timeout := false }).point =
        .resuming (.rejected operation (some s.abortFailure)) := by
    have hlive' : RunnerState.aborted
        { s.record (.signalled .timeout) with timeout := false } = false := hlive
    simp only [RunnerState.abort, hlive', Bool.false_eq_true, if_false]
    simp only [RunnerState.record, hpoint]
    rfl
  refine (canEnd_rejected hnext).cons (a := .timerFires) ?_ rfl
  simp [runnerStep, timerFires, harmed]

/-- An operation that hands back its promise is waited for, unless the signal is aborted. -/
theorem canEnd_calling (h : Staged request s) (hpoint : s.point = .calling operation) :
    CanEnd platform request s := by
  cases hlive : s.aborted with
  | true =>
    have hstep : runnerStep platform request s .returns =
        some { s with point := .resuming (.rejected operation (some s.abortFailure)) } := by
      simp [runnerStep, returns, hpoint, hlive]
    exact (canEnd_rejected rfl).cons hstep rfl
  | false =>
    have hstep : runnerStep platform request s .returns =
        some { s with point := .awaiting operation } := by
      simp [runnerStep, returns, hpoint, hlive]
    exact (canEnd_awaiting (h.step hstep) rfl).cons hstep rfl

/-- From the first `run.started` the transport is called. -/
theorem canEnd_started {authority : AllowedAuthority} {issued : SandboxAuthorization}
    (h : Staged request s) (hpoint : s.point = .started authority issued) :
    CanEnd platform request s := by
  have hstep : runnerStep platform request s .consumerNext =
      some (startTransport request authority issued s) := by
    simp [runnerStep, consumerNext, hpoint]
  exact (canEnd_calling (h.step hstep) rfl).cons hstep rfl

/-- The places a generator is at when it has gone on from a settled promise. -/
def Point.isNext : Point → Bool
  | .calling _ => true
  | .started _ _ => true
  | .replaying _ => true
  | .ended => true
  | _ => false

theorem canEnd_next (h : Staged request s) (hnext : s.point.isNext = true) :
    CanEnd platform request s := by
  cases hpoint : s.point with
  | calling operation => exact canEnd_calling h hpoint
  | started authority issued => exact canEnd_started h hpoint
  | replaying told =>
    refine (canEnd_replay s told).cons (a := .consumerNext) ?_ rfl
    simp [runnerStep, consumerNext, hpoint]
  | ended => exact canEnd_ended hpoint
  | _ =>
    rw [hpoint] at hnext
    cases hnext

theorem replay_isNext (told : Nat) (s : RunnerState) :
    (replay platform request told s).point.isNext = true := by
  unfold replay
  split
  · rfl
  · unfold yieldTerminal
    split <;> rfl

/-- Beyond the first event the authority is called, or the run fails. -/
theorem begin_isNext (s : RunnerState) : (begin platform request s).point.isNext = true := by
  unfold begin
  split
  · split
    · exact replay_isNext 0 _
    · rfl
  · exact replay_isNext 0 _

/-- A settled promise leads to the next operation, to the first `run.started`, or to the end. -/
theorem resume_isNext (resumption : Resumption) (s : RunnerState) :
    (resume platform request resumption s).point.isNext = true := by
  have hfail : ∀ failure s', (fail platform request failure s').point.isNext = true :=
    fun _ _ => replay_isNext 0 _
  cases resumption with
  | resolved decision =>
    simp only [resume, afterResolve]
    split
    · exact hfail _ _
    · split
      · rfl
      · exact hfail _ _
  | issued authority issued =>
    simp only [resume, afterIssue]
    split
    · split
      · exact hfail _ _
      · rfl
    · exact hfail _ _
  | answered result =>
    simp only [resume, afterTransport]
    split
    · exact hfail _ _
    · split
      · rfl
      · exact hfail _ _
  | checked result decision =>
    simp only [resume, afterCheck]
    split
    · exact replay_isNext 0 _
    · exact hfail _ _
  | rejected operation error => exact hfail _ _

theorem canEnd_of_staged (h : Staged request s) (hstays : s.point ≠ .abandoned) :
    CanEnd platform request s := by
  have hrequested : ∀ {t}, Staged request t → t.point = .requested → CanEnd platform request t := by
    intro t ht hpoint
    have hstep : runnerStep platform request t .consumerNext =
        some (begin platform request t) := by
      simp [runnerStep, consumerNext, hpoint]
    exact (canEnd_next (ht.step hstep) (begin_isNext t)).cons hstep rfl
  cases hpoint : s.point with
  | created =>
    have hstep : runnerStep platform request s .consumerNext =
        some (yieldNext platform request .requested
          (.requested request.mode.text runnerId) .requested s) := by
      simp [runnerStep, consumerNext, hpoint]
    exact (hrequested (h.step hstep) rfl).cons hstep rfl
  | requested => exact hrequested h hpoint
  | awaiting operation => exact canEnd_awaiting h hpoint
  | resuming resumption =>
    have hstep : runnerStep platform request s .resumes =
        some (resume platform request resumption s) := by
      simp [runnerStep, resumes, hpoint]
    exact (canEnd_next (h.step hstep) (resume_isNext resumption s)).cons hstep rfl
  | finished => exact ⟨[], s, by simp, Run.nil s, hpoint⟩
  | abandoned => exact absurd hpoint hstays
  | _ => exact canEnd_next h (by rw [hpoint]; rfl)

end Progress

/-- What holds of every state a run goes through. -/
structure RunnerInvariant (request : AgentExecutionRequest) (s : RunnerState) : Prop where
  staged : Staged request s
  bounded : ToolsBounded request s
  numbered : Numbered s
  approved : Approved s

theorem RunnerInvariant.step {s t : RunnerState} {a : RunnerAction}
    (h : runnerStep platform request s a = some t) (hs : RunnerInvariant request s) :
    RunnerInvariant request t :=
  { staged := hs.staged.step h
    bounded := hs.bounded.step h hs.staged
    numbered := hs.numbered.step h
    approved := hs.approved.step h }

variable {s : RunnerState}

theorem RunnerInvariant.of_run {actions : List RunnerAction}
    (h : Run (Fires (runnerStep platform request)) .initial actions s) :
    RunnerInvariant request s := by
  refine Run.preserves (fun s a t hstep hs => hs.step hstep) h ?_
  exact
    { staged := staged_initial
      bounded := toolsBounded_initial
      numbered := numbered_initial
      approved := approved_initial }

theorem Numbered.indexed (h : Numbered s) :
    (events s.trace).map (·.eventIndex) = List.range (events s.trace).length := by
  cases hpoint : s.point with
  | ended => exact (h.closed (.inl hpoint)).indexed
  | finished => exact (h.closed (.inr hpoint)).indexed
  | abandoned =>
    rcases h.left hpoint with hlog | hlog
    · exact hlog.indexed
    · exact hlog.indexed
  | _ => exact (h.running (by rw [hpoint]; rfl)).1.indexed

theorem Numbered.terminal_last (h : Numbered s) :
    ∀ e ∈ (events s.trace).dropLast, e.eventType.isTerminal = false := by
  have hopen : OpenLog (events s.trace) →
      ∀ e ∈ (events s.trace).dropLast, e.eventType.isTerminal = false :=
    fun hlog e he => hlog.running e ((List.dropLast_sublist _).subset he)
  have hclosed : ClosedLog (events s.trace) →
      ∀ e ∈ (events s.trace).dropLast, e.eventType.isTerminal = false := by
    rintro ⟨front, last, heq, hfront, _⟩ e he
    rw [heq, List.dropLast_concat] at he
    exact hfront.running e he
  cases hpoint : s.point with
  | ended => exact hclosed (h.closed (.inl hpoint))
  | finished => exact hclosed (h.closed (.inr hpoint))
  | abandoned => exact (h.left hpoint).elim hopen hclosed
  | _ => exact hopen (h.running (by rw [hpoint]; rfl)).1

/--
The event protocol of the runner, in every state of every run: the events are
numbered without gaps, none but the last one ends the run, a run that is
finished has such a last event, and one whose consumer stays can be brought to
its end; a completed run tells an answer that the post check has approved; the
executor is invoked for allowed tools, once for a call, and within the budget.
-/
theorem runner_event_protocol {actions : List RunnerAction} {s : RunnerState}
    (h : Run (Fires (runnerStep platform request)) .initial actions s) :
    ((events s.trace).map (·.eventIndex) = List.range (events s.trace).length ∧
      (∀ e ∈ (events s.trace).dropLast, e.eventType.isTerminal = false) ∧
      (s.point = .finished → ∃ last,
        (events s.trace).getLast? = some last ∧ last.eventType.isTerminal = true) ∧
      (s.point ≠ .abandoned → CanEnd platform request s)) ∧
    (∀ e ∈ events s.trace, EventApproved s.trace e) ∧
    (∀ call ∈ executions s.trace, call.name ∈ request.allowedTools) ∧
    ((executions s.trace).map (·.callId)).Nodup ∧
    (executions s.trace ≠ [] →
      (JsNumber.ofNat (executions s.trace).length).le request.budget.maxSteps = true) ∧
    (s.pendingToolCalls ≠ [] →
      (JsNumber.ofNat s.pendingToolCalls.length).le request.budget.maxParallelTools = true) := by
  have hinv := RunnerInvariant.of_run h
  have hfinished : s.point = .finished → ∃ last,
      (events s.trace).getLast? = some last ∧ last.eventType.isTerminal = true := by
    intro hpoint
    obtain ⟨front, last, heq, _, _, hterminal⟩ := hinv.numbered.closed (.inr hpoint)
    exact ⟨last, by rw [heq, List.getLast?_concat], hterminal⟩
  exact
    ⟨⟨hinv.numbered.indexed, hinv.numbered.terminal_last, hfinished, canEnd_of_staged hinv.staged⟩,
      hinv.approved.1.told, hinv.bounded.allowed, hinv.bounded.distinct, hinv.bounded.steps,
      hinv.bounded.parallel⟩

/-- A platform whose clock stands still. -/
def samplePlatform : RunnerPlatform :=
  { now := fun _ => { time := 0, valid := by decide }
    dateParse := fun _ => some 1 }

def sampleRequest : AgentExecutionRequest :=
  { allowedTools := ["resolve_security"]
    budget :=
      { maxParallelTools := .finite 1
        maxSteps := .finite 3
        maxTokens := .finite 500
        maxWallClockMs := .finite 5000 }
    layer := .research
    mode := .runnerRemote
    prompt := "prompt"
    requestId := "request"
    runId := "run"
    hasSignal := true
    tenantId := "tenant"
    userId := "user" }

/-- From the first event to the yield of the first `run.started`. -/
def sampleStart : List RunnerAction :=
  [.consumerNext, .consumerNext, .returns,
    .fulfils (.authority (.allowed
      { externalUserIdentity := "external"
        fastclawAgentId := "agent"
        fastclawUserId := "user"
        profileId := "profile"
        tenantId := "tenant"
        userId := "user" })),
    .resumes, .returns,
    .fulfils (.authorization { authorization := "token", expiresAt := "later" }),
    .resumes]

def sampleToolCall : TransportToolCall :=
  { callId := some "call", name := some "resolve_security" }

/-- The result of the transport of the sample request. -/
def sampleAnswer : Fulfilment :=
  .answer (some
    { rawAnswer := some "raw"
      usage := some
        { inputTokens := .finite 1, outputTokens := .finite 1, steps := .finite 1 } })

/-- From the result of the transport to the end of a run with four phases. -/
def sampleEnd : List RunnerAction :=
  [.fulfils sampleAnswer, .resumes, .returns,
    .fulfils (.postCheck (some (.approved (some "answer")))), .resumes,
    .consumerNext, .consumerNext, .consumerNext]

/-- A run with one tool call. -/
theorem runner_event_protocol_sample :
    ∃ s, Run (Fires (runnerStep samplePlatform sampleRequest)) .initial
        (sampleStart ++ [.consumerNext, .returns, .onToolCall sampleToolCall,
          .toolSettles "call" .completed] ++ sampleEnd) s ∧
      (events s.trace).map (·.eventIndex) = List.range (events s.trace).length := by
  have hsome : (fire (runnerStep samplePlatform sampleRequest) .initial
      (sampleStart ++ [.consumerNext, .returns, .onToolCall sampleToolCall,
        .toolSettles "call" .completed] ++ sampleEnd)).isSome = true := by
    decide +kernel
  obtain ⟨s, hs⟩ := Option.isSome_iff_exists.mp hsome
  exact ⟨s, run_fires_iff.mpr hs, (runner_event_protocol (run_fires_iff.mpr hs)).1.1⟩

end Aiphabee.AgentRunner
