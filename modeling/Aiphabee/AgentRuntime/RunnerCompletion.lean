import Aiphabee.AgentRuntime.RunnerEvents

/-!
# What a completed run says about its tool calls

A run that is completed should have had every tool call completed.  The
failures of the callbacks are looked at once, when the result of the transport
is taken.  A call that has not settled by then, a call made later, and a
failure of the runner that the executor passes on are never looked at.

`runner_completion` says that nothing else breaks the rule, and that each of
these does: the run can go on to be completed all the same.
-/

namespace Aiphabee.AgentRunner

open Transition

variable {platform : RunnerPlatform}
variable {request : AgentExecutionRequest}

def Observation.isToolFailure : Observation → Bool
  | .toolRefused _ => true
  | .toolDenied _ => true
  | .toolFailed _ => true
  | _ => false

def CallsCompleted (trace : List Observation) : Prop :=
  (∀ o ∈ trace, o.isToolFailure = false) ∧
    ∀ call, .executed call ∈ trace → .toolCompleted call.callId ∈ trace

/-- Whenever the run is completed, its calls were completed before. -/
def SoundCompletion (trace : List Observation) : Prop :=
  ∀ before e after, trace = before ++ .yielded e :: after →
    e.eventType = .completed → CallsCompleted before

variable {trace : List Observation} {o : Observation}

/-- What is shown next keeps the rule unless it completes the run. -/
theorem soundCompletion_snoc (h : SoundCompletion trace)
    (hnext : ∀ e, o = .yielded e → e.eventType = .completed → CallsCompleted trace) :
    SoundCompletion (trace ++ [o]) := by
  intro before e after heq htype
  rcases List.eq_nil_or_concat after with rfl | ⟨front, last, rfl⟩
  · obtain ⟨rfl, hlast⟩ := List.append_inj' heq rfl
    cases hlast
    exact hnext e rfl htype
  · rw [List.concat_eq_append, ← List.cons_append, ← List.append_assoc] at heq
    obtain ⟨htrace, _⟩ := List.append_inj' heq rfl
    exact h before e front htrace htype

theorem SoundCompletion.append {shown : Option Observation} (h : SoundCompletion trace)
    (hshown : ∀ e, shown = some (.yielded e) → e.eventType = .completed → CallsCompleted trace) :
    SoundCompletion (trace ++ shown.toList) := by
  cases shown with
  | none => simpa using h
  | some o =>
    refine soundCompletion_snoc h ?_
    rintro e rfl
    exact hshown e rfl

structure CallLedger (s : RunnerState) : Prop where
  settled : ∀ call, .executed call ∈ s.trace →
    call.callId ∈ s.pendingToolCalls ∨ .toolCompleted call.callId ∈ s.trace ∨
      ∃ o ∈ s.trace, o.isToolFailure = true
  executed : ∀ callId ∈ s.pendingToolCalls, ∃ call, .executed call ∈ s.trace ∧ call.callId = callId
  unsettled : ∀ callId ∈ s.pendingToolCalls, .toolCompleted callId ∉ s.trace
  seen : ∀ callId, callId ∈ s.pendingToolCalls ∨ .toolCompleted callId ∈ s.trace →
    callId ∈ s.seenToolCallIds
  distinct : s.pendingToolCalls.Nodup
  idle : s.callbacks = none → s.pendingToolCalls = [] ∧ ∀ o ∈ s.trace, o.isTool = false

theorem Observation.isTool_of_not_isWork (h : o.isWork = false) :
    o.isTool = false := by
  cases o <;> first | rfl | cases h

theorem CallLedger.of_shown {s t : RunnerState} {shown : List Observation} (h : CallLedger s)
    (htrace : t.trace = s.trace ++ shown) (hshown : ∀ o ∈ shown, o.isTool = false)
    (hpending : t.pendingToolCalls = s.pendingToolCalls)
    (hseen : t.seenToolCallIds = s.seenToolCallIds)
    (hcallbacks : t.callbacks = none → s.callbacks = none) : CallLedger t := by
  have hold : ∀ {o : Observation}, o ∈ t.trace → o.isTool = true → o ∈ s.trace := by
    intro o ho htool
    rw [htrace] at ho
    rcases List.mem_append.mp ho with ho | ho
    · exact ho
    · rw [hshown o ho] at htool
      cases htool
  have hnew : ∀ {o : Observation}, o ∈ s.trace → o ∈ t.trace := by
    intro o ho
    rw [htrace]
    exact List.mem_append_left _ ho
  refine
    { settled := ?_
      executed := ?_
      unsettled := ?_
      seen := ?_
      distinct := by rw [hpending]; exact h.distinct
      idle := ?_ }
  · intro call hcall
    rw [hpending]
    rcases h.settled call (hold hcall rfl) with hmem | hmem | ⟨o, ho, hfailure⟩
    · exact .inl hmem
    · exact .inr (.inl (hnew hmem))
    · exact .inr (.inr ⟨o, hnew ho, hfailure⟩)
  · intro callId hmem
    rw [hpending] at hmem
    obtain ⟨call, hcall, heq⟩ := h.executed callId hmem
    exact ⟨call, hnew hcall, heq⟩
  · intro callId hmem hcompleted
    rw [hpending] at hmem
    exact h.unsettled callId hmem (hold hcompleted rfl)
  · intro callId hmem
    rw [hpending] at hmem
    rw [hseen]
    exact h.seen callId (hmem.imp_right fun hcompleted => hold hcompleted rfl)
  · intro hnone
    obtain ⟨hidle, htools⟩ := h.idle (hcallbacks hnone)
    refine ⟨hpending.trans hidle, ?_⟩
    intro o ho
    rw [htrace] at ho
    rcases List.mem_append.mp ho with ho | ho
    · exact htools o ho
    · exact hshown o ho

theorem CallLedger.refuse {s t : RunnerState} {call : TransportToolCall} (h : CallLedger s)
    (hstep : ToolCallRefused call s t) (hgiven : t.callbacks ≠ none) : CallLedger t := by
  refine
    { settled := ?_
      executed := ?_
      unsettled := ?_
      seen := ?_
      distinct := by rw [hstep.pending]; exact h.distinct
      idle := fun hnone => absurd hnone hgiven }
  · intro other _
    refine .inr (.inr ⟨.toolRefused call, ?_, rfl⟩)
    rw [hstep.trace]
    exact List.mem_append_right _ (List.mem_singleton_self _)
  · intro callId hmem
    rw [hstep.pending] at hmem
    obtain ⟨other, hother, heq⟩ := h.executed callId hmem
    refine ⟨other, ?_, heq⟩
    rw [hstep.trace]
    exact List.mem_append_left _ hother
  · intro callId hmem hcompleted
    rw [hstep.pending] at hmem
    rw [hstep.trace] at hcompleted
    rcases List.mem_append.mp hcompleted with hcompleted | hcompleted
    · exact h.unsettled callId hmem hcompleted
    · cases List.mem_singleton.mp hcompleted
  · intro callId hmem
    rw [hstep.pending, hstep.trace] at hmem
    refine hstep.seen callId (h.seen callId (hmem.imp_right ?_))
    intro hcompleted
    rcases List.mem_append.mp hcompleted with hcompleted | hcompleted
    · exact hcompleted
    · cases List.mem_singleton.mp hcompleted

theorem CallLedger.execute {s t : RunnerState} {call : AdmittedToolCall} (h : CallLedger s)
    (hstep : ToolCallExecuted call s t) (hfresh : call.callId ∉ s.seenToolCallIds)
    (hgiven : t.callbacks ≠ none) : CallLedger t := by
  have hold : ∀ {callId}, .toolCompleted callId ∈ t.trace → .toolCompleted callId ∈ s.trace := by
    intro callId hcompleted
    rw [hstep.trace] at hcompleted
    rcases List.mem_append.mp hcompleted with hcompleted | hcompleted
    · exact hcompleted
    · cases List.mem_singleton.mp hcompleted
  have hnew : ∀ {o : Observation}, o ∈ s.trace → o ∈ t.trace := by
    intro o ho
    rw [hstep.trace]
    exact List.mem_append_left _ ho
  refine
    { settled := ?_
      executed := ?_
      unsettled := ?_
      seen := ?_
      distinct := ?_
      idle := fun hnone => absurd hnone hgiven }
  · intro other hother
    rw [hstep.pending]
    rw [hstep.trace] at hother
    rcases List.mem_append.mp hother with hother | hother
    · rcases h.settled other hother with hmem | hmem | ⟨o, ho, hfailure⟩
      · exact .inl (List.mem_append_left _ hmem)
      · exact .inr (.inl (hnew hmem))
      · exact .inr (.inr ⟨o, hnew ho, hfailure⟩)
    · cases List.mem_singleton.mp hother
      exact .inl (List.mem_append_right _ (List.mem_singleton_self _))
  · intro callId hmem
    rw [hstep.pending] at hmem
    rcases List.mem_append.mp hmem with hmem | hmem
    · obtain ⟨other, hother, heq⟩ := h.executed callId hmem
      exact ⟨other, hnew hother, heq⟩
    · refine ⟨call, ?_, (List.mem_singleton.mp hmem).symm⟩
      rw [hstep.trace]
      exact List.mem_append_right _ (List.mem_singleton_self _)
  · intro callId hmem hcompleted
    rw [hstep.pending] at hmem
    rcases List.mem_append.mp hmem with hmem | hmem
    · exact h.unsettled callId hmem (hold hcompleted)
    · rw [List.mem_singleton.mp hmem] at hcompleted
      exact hfresh (h.seen _ (.inr (hold hcompleted)))
  · intro callId hmem
    rw [hstep.pending] at hmem
    rw [hstep.seen]
    rcases hmem with hmem | hcompleted
    · rcases List.mem_append.mp hmem with hmem | hmem
      · exact List.mem_append_left _ (h.seen callId (.inl hmem))
      · exact List.mem_append_right _ hmem
    · exact List.mem_append_left _ (h.seen callId (.inr (hold hcompleted)))
  · rw [hstep.pending]
    refine List.nodup_append.mpr ⟨h.distinct, List.pairwise_singleton _ _, ?_⟩
    rintro callId hmem _ hlast rfl
    rw [List.mem_singleton.mp hlast] at hmem
    exact hfresh (h.seen _ (.inl hmem))

theorem CallLedger.settle {s t : RunnerState} {callId : String} {outcome : ToolOutcome}
    (h : CallLedger s) (hstep : ToolCallSettled callId outcome s t)
    (hpending : callId ∈ s.pendingToolCalls) (hcallbacks : t.callbacks = s.callbacks) :
    CallLedger t := by
  have hnew : ∀ {o : Observation}, o ∈ s.trace → o ∈ t.trace := by
    intro o ho
    rw [hstep.trace]
    exact List.mem_append_left _ ho
  have hlast : outcome.observation callId ∈ t.trace := by
    rw [hstep.trace]
    exact List.mem_append_right _ (List.mem_singleton_self _)
  have hcompleted : ∀ other, .toolCompleted other ∈ t.trace →
      .toolCompleted other ∈ s.trace ∨ other = callId := by
    intro other hother
    rw [hstep.trace] at hother
    rcases List.mem_append.mp hother with hother | hother
    · exact .inl hother
    · cases outcome <;> cases List.mem_singleton.mp hother
      exact .inr rfl
  refine
    { settled := ?_
      executed := ?_
      unsettled := ?_
      seen := ?_
      distinct := by rw [hstep.pending]; exact h.distinct.erase _
      idle := ?_ }
  · intro call hcall
    have hcall' : .executed call ∈ s.trace := by
      rw [hstep.trace] at hcall
      rcases List.mem_append.mp hcall with hcall | hcall
      · exact hcall
      · cases outcome <;> cases List.mem_singleton.mp hcall
    rcases h.settled call hcall' with hmem | hmem | ⟨o, ho, hfailure⟩
    · by_cases hsame : call.callId = callId
      · cases outcome with
        | completed =>
          rw [hsame]
          exact .inr (.inl hlast)
        | denied => exact .inr (.inr ⟨_, hlast, rfl⟩)
        | rejected error => exact .inr (.inr ⟨_, hlast, rfl⟩)
      · rw [hstep.pending]
        exact .inl ((List.mem_erase_of_ne hsame).mpr hmem)
    · exact .inr (.inl (hnew hmem))
    · exact .inr (.inr ⟨o, hnew ho, hfailure⟩)
  · intro other hmem
    rw [hstep.pending] at hmem
    obtain ⟨call, hcall, heq⟩ := h.executed other (List.mem_of_mem_erase hmem)
    exact ⟨call, hnew hcall, heq⟩
  · intro other hmem hother
    rw [hstep.pending, h.distinct.mem_erase_iff] at hmem
    rcases hcompleted other hother with hother | hsame
    · exact h.unsettled other hmem.2 hother
    · exact hmem.1 hsame
  · intro other hmem
    rw [hstep.seen]
    rcases hmem with hmem | hother
    · rw [hstep.pending] at hmem
      exact h.seen other (.inl (List.mem_of_mem_erase hmem))
    · rcases hcompleted other hother with hother | rfl
      · exact h.seen other (.inr hother)
      · exact h.seen _ (.inl hpending)
  · intro hnone
    obtain ⟨hidle, _⟩ := h.idle (hcallbacks ▸ hnone)
    rw [hidle] at hpending
    cases hpending

variable {a : RunnerAction}

theorem CallLedger.step {s t : RunnerState} (h : runnerStep platform request s a = some t)
    (hs : CallLedger s) : CallLedger t := by
  cases hcallback : a.isCallback with
  | false =>
    rcases toolsKept_of_step h hcallback with ⟨authority, issued, _, _, rfl⟩ | ⟨shown, hkept⟩
    · have hshown : ∀ input, ∀ o ∈ [Observation.transportStarted input], o.isTool = false := by
        intro input o ho
        rw [List.mem_singleton.mp ho]
        rfl
      exact hs.of_shown rfl (hshown _) rfl rfl (fun h => by cases h)
    · refine hs.of_shown hkept.trace ?_ hkept.pending hkept.seen
        (fun hnone => hkept.callbacks ▸ hnone)
      intro o ho
      exact Observation.isTool_of_not_isWork (hkept.unrelated o (Option.mem_toList.mp ho))
  | true =>
    obtain ⟨_, hgenerator⟩ := generatorKept_of_step h hcallback
    cases a with
    | onProgress phase =>
      simp only [runnerStep, Option.map_eq_some_iff] at h
      obtain ⟨_, _, rfl⟩ := h
      obtain ⟨htrace, _, _, hseen, hpending, _⟩ :=
        @onProgress_tools request phase s
      refine hs.of_shown (htrace.trans (List.append_nil _).symm) ?_ hpending hseen
        (fun hnone => hgenerator.callbacks ▸ hnone)
      intro o ho
      cases ho
    | onToolCall call =>
      simp only [runnerStep, Option.map_eq_some_iff] at h
      obtain ⟨issued, hissued, rfl⟩ := h
      have hgiven : (onToolCall request issued call s).callbacks ≠ none := by
        rw [hgenerator.callbacks, hissued]
        intro h
        cases h
      cases hadmits : admitsToolCall request call s with
      | true =>
        obtain ⟨callId, name, hadmissible, hstep⟩ := onToolCall_executed issued hadmits
        exact hs.execute hstep (admissible_spec hadmissible).2.1 hgiven
      | false => exact hs.refuse (onToolCall_refused issued hadmits) hgiven
    | toolSettles callId outcome =>
      simp only [runnerStep] at h
      split at h
      · next hpending =>
          cases h
          exact hs.settle (toolSettles_settled callId outcome s) hpending hgenerator.callbacks
      · cases h
    | _ => cases hcallback

theorem callLedger_initial : CallLedger RunnerState.initial := by
  refine
    { settled := ?_
      executed := ?_
      unsettled := ?_
      seen := ?_
      distinct := List.nodup_nil
      idle := fun _ => ⟨rfl, ?_⟩ }
  · intro call hcall
    cases hcall
  · intro callId hmem
    cases hmem
  · intro callId hmem
    cases hmem
  · rintro callId (hmem | hmem) <;> cases hmem
  · intro o ho
    cases ho

section Guard

/-- The transport has been started, and nothing that has been decided keeps the run from
completion. -/
def mayComplete (request : AgentExecutionRequest) (s : RunnerState) : Bool :=
  s.terminal.isNone &&
    match s.point with
    | .calling .transport => s.callbackFailure.isNone && !s.aborted
    | .awaiting .transport => s.callbackFailure.isNone
    | .resuming (.answered result) =>
      s.callbackFailure.isNone && !s.aborted && (acceptResult request.budget result).isSome
    | .calling (.check _) => !s.aborted
    | .awaiting (.check _) => true
    | .resuming (.checked _ decision) => (approvedAnswer decision).isSome
    | .replaying _ => true
    | _ => false

/--
While the run may complete, no tool call is made after the result of the
transport is taken, no call is pending when it is taken, and the executor
passes no failure of the runner on.
-/
def LetsToolsFinish (request : AgentExecutionRequest) (s : RunnerState) : RunnerAction → Prop
  | .onToolCall _ => mayComplete request s = true → s.acceptingCallbacks = true
  | .toolSettles _ (.rejected (some _)) => mayComplete request s = false
  | .resumes =>
    ∀ result, s.point = .resuming (.answered result) → mayComplete request s = true →
      s.pendingToolCalls = []
  | _ => True

def LeadsToCompletion (request : AgentExecutionRequest) (s t : RunnerState) : Prop :=
  mayComplete request t = true ∨
    ∃ e, t.trace = s.trace ++ [.yielded e] ∧ e.eventType = .completed

/-- Telling a phase, or the end, leads to completion for want of a failure only. -/
theorem replay_leads {s s' : RunnerState} {told : Nat} (htrace : s'.trace = s.trace)
    (h : LeadsToCompletion request s (replay platform request told s')) : s'.terminal = none := by
  unfold replay yieldTerminal at h
  split at h
  · rcases h with hmay | ⟨e, heq, htype⟩
    · simpa [mayComplete, yieldNext, yieldEvent, RunnerState.record] using hmay
    · simp only [yieldNext, yieldEvent, RunnerState.record, htrace, List.append_cancel_left_eq,
        List.cons.injEq, Observation.yielded.injEq, and_true] at heq
      subst heq
      cases htype
  · split at h
    · next failure hterminal =>
        rcases h with hmay | ⟨e, heq, htype⟩
        · simp [mayComplete] at hmay
        · simp only [yieldEvent, RunnerState.record, htrace, List.append_cancel_left_eq,
            List.cons.injEq, Observation.yielded.injEq, and_true] at heq
          subst heq
          have hfailed : failure.terminalType.eventType = .completed := htype
          cases hkind : failure.terminalType <;> rw [hkind] at hfailed <;> cases hfailed
    · assumption

theorem not_fail_leads {s s' : RunnerState} {failure : RunnerFailure}
    (htrace : s'.trace = s.trace) :
    ¬ LeadsToCompletion request s (fail platform request failure s') := by
  intro h
  have hnone : (RunnerState.finalize { s' with terminal := some failure }).terminal = none :=
    replay_leads htrace h
  cases hnone

variable {s t : RunnerState}

theorem leads_silent (htrace : t.trace = s.trace) (h : LeadsToCompletion request s t) :
    mayComplete request t = true := by
  rcases h with hmay | ⟨e, heq, _⟩
  · exact hmay
  · rw [htrace] at heq
    simp at heq

/-- Whether a run may complete depends on its place, its failures and its signal. -/
theorem mayComplete_congr (hpoint : t.point = s.point) (hterminal : t.terminal = s.terminal)
    (hfailure : t.callbackFailure = s.callbackFailure) (haborted : t.aborted = s.aborted) :
    mayComplete request t = mayComplete request s := by
  simp only [mayComplete, hpoint, hterminal, hfailure, haborted]

variable {s : RunnerState}

theorem mayComplete_of_abort (h : mayComplete request s.abort = true) :
    mayComplete request s = true ∧ s.abort.point.inTransport = s.point.inTransport := by
  cases hlive : s.aborted with
  | true =>
    have hsame : s.abort = s := by
      simp [RunnerState.abort, hlive]
    rw [hsame] at h ⊢
    exact ⟨h, rfl⟩
  | false =>
    refine ⟨?_, (abort_point hlive).2.2.1⟩
    simp only [RunnerState.abort, hlive, Bool.false_eq_true, if_false, mayComplete,
      Bool.and_eq_true] at h ⊢
    refine ⟨h.1, ?_⟩
    have hplace := h.2
    cases hpoint : s.point with
    | awaiting operation =>
      rw [hpoint] at hplace
      cases hplace
    | calling operation =>
      rw [hpoint] at hplace
      cases operation with
      | transport =>
        simp only [Bool.and_eq_true] at hplace
        simp [hplace.1]
      | check result => rfl
      | _ => cases hplace
    | resuming resumption =>
      rw [hpoint] at hplace
      cases resumption with
      | answered result =>
        simp only [Bool.and_eq_true] at hplace
        simp [hplace.1.1, hplace.2]
      | checked result decision => exact hplace
      | _ => cases hplace
    | replaying told => rfl
    | _ =>
      rw [hpoint] at hplace
      cases hplace

theorem leads_signalled {s t : RunnerState} {kind : AbortKind}
    (htrace : t.trace = s.trace ++ [.signalled kind]) (h : LeadsToCompletion request s t) :
    mayComplete request t = true := by
  rcases h with hmay | ⟨e, heq, _⟩
  · exact hmay
  · rw [htrace] at heq
    simp at heq

theorem signal_leads {s s' : RunnerState} {kind : AbortKind} {P : Prop}
    (haborted : s'.aborted = s.aborted) (hpoint : s'.point = s.point)
    (hterminal : s'.terminal = s.terminal) (hfailure : s'.callbackFailure = s.callbackFailure)
    (htrace : s'.trace = s.trace ++ [.signalled kind]) (h : LeadsToCompletion request s s'.abort) :
    mayComplete request s = true ∧
      (s.point.inTransport = false ∨ s'.abort.point.inTransport = true ∨ P) := by
  have hkept : s'.abort.trace = s.trace ++ [.signalled kind] := by
    have habort := (abort_toolsKept s').trace
    rw [habort, htrace]
    simp
  obtain ⟨hmay, htransport⟩ := mayComplete_of_abort (leads_signalled hkept h)
  refine ⟨(mayComplete_congr hpoint hterminal hfailure haborted).symm.trans hmay, ?_⟩
  rw [htransport, hpoint]
  cases s.point.inTransport with
  | false => exact .inl rfl
  | true => exact .inr (.inl rfl)

variable {a : RunnerAction}

theorem not_yieldNext_leads {s s' : RunnerState} {type : EventType} {payload : EventPayload}
    {point : Point} (htrace : s'.trace = s.trace) (htype : type ≠ .completed)
    (hmay : mayComplete request (yieldNext platform request type payload point s') = false) :
    ¬ LeadsToCompletion request s (yieldNext platform request type payload point s') := by
  rintro (hmay' | ⟨e, heq, hcompleted⟩)
  · rw [hmay] at hmay'
    cases hmay'
  · simp only [yieldNext, yieldEvent, RunnerState.record, htrace, List.append_cancel_left_eq,
      List.cons.injEq, Observation.yielded.injEq, and_true] at heq
    subst heq
    exact htype hcompleted

/--
A step of the generator or of its signals leads to completion from a place where
the run may complete, the start of the transport apart.  It leaves the transport
when its result is taken only.
-/
theorem leads_of_step {s t : RunnerState} (h : runnerStep platform request s a = some t)
    (ha : a.isCallback = false) (hleads : LeadsToCompletion request s t) :
    (∃ authority issued, s.point = .started authority issued ∧
      t = startTransport request authority issued s) ∨
    mayComplete request s = true ∧
      (s.point.inTransport = false ∨ t.point.inTransport = true ∨
        ∃ result, a = .resumes ∧ s.point = .resuming (.answered result)) := by
  have hdead : ∀ {s' : RunnerState}, s'.trace = s.trace → mayComplete request s' = false →
      ¬ LeadsToCompletion request s s' := by
    intro s' htrace hmay hleads
    rw [leads_silent htrace hleads] at hmay
    cases hmay
  cases generatorStep_of_step h ha with
  | requests =>
    exact absurd hleads (not_yieldNext_leads rfl (by decide) (by simp [mayComplete, yieldNext]))
  | transports authority issued hpoint => exact .inl ⟨authority, issued, hpoint, rfl⟩
  | tells told hpoint =>
    have hnone : s.terminal = none := replay_leads rfl hleads
    exact .inr ⟨by simp [mayComplete, hpoint, hnone], .inl (by rw [hpoint]; rfl)⟩
  | waits operation hpoint hlive =>
    have hmay := leads_silent (by rfl) hleads
    cases operation with
    | transport =>
      refine .inr ⟨?_, .inr (.inl rfl)⟩
      simpa [mayComplete, hpoint, hlive] using hmay
    | check result =>
      refine .inr ⟨?_, .inl (by rw [hpoint]; rfl)⟩
      simpa [mayComplete, hpoint, hlive] using hmay
    | _ => simp [mayComplete] at hmay
  | fulfils value operation resumption hpoint hvalue hunchecked =>
    have hmay := leads_silent (by rfl) hleads
    cases operation <;> cases value <;> cases hvalue
    · simp [mayComplete] at hmay
    · simp [mayComplete] at hmay
    · refine .inr ⟨?_, .inr (.inl rfl)⟩
      simp only [mayComplete, Bool.and_eq_true] at hmay
      simp [mayComplete, hpoint, hmay.1, hmay.2.1.1]
    · exact absurd rfl (hunchecked _ _)
  | postChecks result decision hpoint =>
    refine .inr ⟨?_, .inl (by rw [hpoint]; rfl)⟩
    rcases hleads with hmay | ⟨e, heq, _⟩
    · have hnone : s.terminal.isNone = true := by
        simp only [mayComplete, Bool.and_eq_true] at hmay
        exact hmay.1
      simpa [mayComplete, hpoint] using hnone
    · simp [RunnerState.record] at heq
  | starts =>
    exact absurd hleads (not_yieldNext_leads rfl (by decide) (by simp [mayComplete, yieldNext]))
  | checks result accepted hpoint hfailure haccepted =>
    have hmay := leads_silent (by rfl) hleads
    have hlive : s.aborted = false ∧ s.terminal = none := by
      simpa [mayComplete, RunnerState.aborted, and_comm] using hmay
    exact .inr ⟨by simp [mayComplete, hpoint, hfailure, haccepted, hlive],
      .inr (.inr ⟨result, rfl, hpoint⟩)⟩
  | concludes result decision answer hpoint hanswer =>
    have hnone : (RunnerState.finalize
        { s with completedPayload := some { answer, usage := result.usage } }).terminal = none :=
      replay_leads rfl hleads
    have hrunning : s.terminal = none := hnone
    exact .inr ⟨by simp [mayComplete, hpoint, hrunning, hanswer], .inl (by rw [hpoint]; rfl)⟩
  | fails => exact absurd hleads (not_fail_leads rfl)
  | hears =>
    have hmay := leads_signalled rfl hleads
    have hsame : mayComplete request s = true :=
      (mayComplete_congr rfl rfl rfl rfl).symm.trans hmay
    refine .inr ⟨hsame, ?_⟩
    cases htransport : s.point.inTransport with
    | false => exact .inl rfl
    | true => exact .inr (.inl htransport)
  | interrupts kind _ _ _ _ _ haborted =>
    exact .inr (signal_leads haborted rfl rfl rfl rfl hleads)
  | _ => exact absurd hleads (hdead rfl (by simp [mayComplete]))

theorem mayComplete_mono (hpoint : t.point = s.point) (hterminal : t.terminal = s.terminal)
    (hfailure : t.callbackFailure.isNone = true → s.callbackFailure.isNone = true)
    (haborted : t.aborted = s.aborted) (h : mayComplete request t = true) :
    mayComplete request s = true := by
  simp only [mayComplete, hpoint, hterminal, haborted, Bool.and_eq_true] at h ⊢
  refine ⟨h.1, ?_⟩
  have hplace := h.2
  split <;> simp_all

/-- Once its result is taken, a failure of the callbacks does not keep a run from completion. -/
theorem mayComplete_outside (hpoint : t.point = s.point) (hterminal : t.terminal = s.terminal)
    (haborted : t.aborted = s.aborted) (houtside : s.point.inTransport = false)
    (h : mayComplete request s = true) : mayComplete request t = true := by
  simp only [mayComplete, hpoint, hterminal, haborted, Bool.and_eq_true] at h ⊢
  refine ⟨h.1, ?_⟩
  have hplace := h.2
  split <;> simp_all [Point.inTransport]

theorem callbackFailure_of_mayComplete (h : mayComplete request s = true)
    (htransport : s.point.inTransport = true) : s.callbackFailure = none := by
  simp only [mayComplete, Bool.and_eq_true] at h
  have hplace := h.2
  split at hplace <;> simp_all [Point.inTransport]

/-- What holds of every state of a run whose steps let the tools finish. -/
structure CompletionInvariant (request : AgentExecutionRequest) (s : RunnerState) : Prop where
  runner : RunnerInvariant request s
  ledger : CallLedger s
  clean : mayComplete request s = true → ∀ o ∈ s.trace, o.isToolFailure = false
  closed : mayComplete request s = true → s.point.inTransport = false → s.pendingToolCalls = []
  sound : SoundCompletion s.trace

theorem CallLedger.callsCompleted (h : CallLedger s)
    (hclean : ∀ o ∈ s.trace, o.isToolFailure = false) (hpending : s.pendingToolCalls = []) :
    CallsCompleted s.trace := by
  refine ⟨hclean, ?_⟩
  intro call hcall
  rcases h.settled call hcall with hmem | hmem | ⟨o, ho, hfailure⟩
  · rw [hpending] at hmem
    cases hmem
  · exact hmem
  · rw [hclean o ho] at hfailure
    cases hfailure

theorem not_inTransport_of_completed {t : RunnerState} {e : ExecutionEvent} (h : Numbered t)
    (he : .yielded e ∈ t.trace) (htype : e.eventType = .completed) :
    t.point.inTransport = false := by
  cases hover : t.point.isOver with
  | true =>
    cases hpoint : t.point <;> rw [hpoint] at hover <;> first | rfl | cases hover
  | false =>
    have hrunning := (h.running hover).1.running e (mem_events.mpr he)
    rw [htype] at hrunning
    cases hrunning

theorem CompletionInvariant.generator {s t : RunnerState}
    (h : runnerStep platform request s a = some t) (ha : a.isCallback = false)
    (hs : CompletionInvariant request s) (hlets : LetsToolsFinish request s a) :
    CompletionInvariant request t := by
  have hrunner := hs.runner.step h
  have hledger := hs.ledger.step h
  rcases toolsKept_of_step h ha with ⟨authority, issued, _, hpoint, rfl⟩ | ⟨shown, hkept⟩
  · have hnone : s.callbacks = none := hs.runner.staged.early (by rw [hpoint]; rfl)
    refine
      { runner := hrunner
        ledger := hledger
        clean := ?_
        closed := ?_
        sound := ?_ }
    · intro _ o ho
      rcases List.mem_append.mp ho with ho | ho
      · have htool := (hs.ledger.idle hnone).2 o ho
        cases o <;> first | rfl | cases htool
      · rw [List.mem_singleton.mp ho]
        rfl
    · intro _ houtside
      cases houtside
    · refine soundCompletion_snoc hs.sound ?_
      rintro e ⟨⟩
  · have hfrom : LeadsToCompletion request s t →
        mayComplete request s = true ∧
          (s.point.inTransport = false ∨ t.point.inTransport = true ∨
            s.pendingToolCalls = []) := by
      intro hleads
      rcases leads_of_step h ha hleads with ⟨authority, issued, _, rfl⟩ | ⟨hmay, hplace⟩
      · have hshown := List.append_cancel_left hkept.trace
        cases shown with
        | none => cases hshown
        | some o =>
          cases hshown
          have hwork := hkept.unrelated _ rfl
          cases hwork
      · refine ⟨hmay, ?_⟩
        rcases hplace with houtside | hinside | ⟨result, rfl, hanswered⟩
        · exact .inl houtside
        · exact .inr (.inl hinside)
        · exact .inr (.inr (hlets result hanswered hmay))
    refine
      { runner := hrunner
        ledger := hledger
        clean := ?_
        closed := ?_
        sound := ?_ }
    · intro hmay o ho
      rw [hkept.trace] at ho
      rcases List.mem_append.mp ho with ho | ho
      · exact hs.clean (hfrom (.inl hmay)).1 o ho
      · have hwork := hkept.unrelated o (Option.mem_toList.mp ho)
        cases o <;> first | rfl | cases hwork
    · intro hmay houtside
      rw [hkept.pending]
      obtain ⟨hmay', hplace⟩ := hfrom (.inl hmay)
      rcases hplace with houtside' | hinside | hpending
      · exact hs.closed hmay' houtside'
      · rw [houtside] at hinside
        cases hinside
      · exact hpending
    · rw [hkept.trace]
      refine hs.sound.append ?_
      intro e hshown htype
      have htrace : t.trace = s.trace ++ [.yielded e] := by
        rw [hkept.trace, hshown]
        rfl
      obtain ⟨hmay, hplace⟩ := hfrom (.inr ⟨e, htrace, htype⟩)
      refine hs.ledger.callsCompleted (hs.clean hmay) ?_
      rcases hplace with houtside | hinside | hpending
      · exact hs.closed hmay houtside
      · have he : .yielded e ∈ t.trace := by
          rw [htrace]
          exact List.mem_append_right _ (List.mem_singleton_self _)
        rw [not_inTransport_of_completed hrunner.numbered he htype] at hinside
        cases hinside
      · exact hpending

section Callbacks

variable {s t : RunnerState} {shown : Option Observation}

theorem GeneratorKept.aborted (h : GeneratorKept s t shown) : t.aborted = s.aborted := by
  simp only [RunnerState.aborted, h.controller]

theorem GeneratorKept.mayComplete (h : GeneratorKept s t shown)
    (hfailure : t.callbackFailure.isNone = true → s.callbackFailure.isNone = true)
    (hmay : mayComplete request t = true) : mayComplete request s = true :=
  mayComplete_mono h.point h.terminal hfailure h.aborted hmay

/-- A failure that is noted in the transport keeps the run from completion. -/
theorem GeneratorKept.not_mayComplete (h : GeneratorKept s t shown)
    (hinside : s.point.inTransport = true) (hsome : t.callbackFailure.isSome = true) :
    AgentRunner.mayComplete request t = false := by
  rw [Bool.eq_false_iff]
  intro hmay
  rw [callbackFailure_of_mayComplete hmay (by rw [h.point]; exact hinside)] at hsome
  cases hsome

/-- A callback keeps the invariant where it shows no failure and leaves no call to a closed run. -/
theorem CompletionInvariant.keep {shows : List Observation} (hs : CompletionInvariant request s)
    (hrunner : RunnerInvariant request t) (hledger : CallLedger t) (hkept : GeneratorKept s t shown)
    (htrace : t.trace = s.trace ++ shows)
    (hmay : mayComplete request t = true →
      mayComplete request s = true ∧ (∀ o ∈ shows, o.isToolFailure = false) ∧
        (s.point.inTransport = false → t.pendingToolCalls = s.pendingToolCalls)) :
    CompletionInvariant request t := by
  refine
    { runner := hrunner
      ledger := hledger
      clean := ?_
      closed := ?_
      sound := ?_ }
  · intro hmay' o ho
    obtain ⟨hbefore, hshows, _⟩ := hmay hmay'
    rw [htrace] at ho
    rcases List.mem_append.mp ho with ho | ho
    · exact hs.clean hbefore o ho
    · exact hshows o ho
  · intro hmay' houtside
    obtain ⟨hbefore, _, hpending⟩ := hmay hmay'
    rw [hkept.point] at houtside
    exact (hpending houtside).trans (hs.closed hbefore houtside)
  · rw [hkept.trace]
    refine hs.sound.append ?_
    rintro e rfl htype
    have htool := hkept.related _ rfl
    cases htool

variable {issued : SandboxAuthorization} {call : TransportToolCall}

theorem CompletionInvariant.execute (hs : CompletionInvariant request s)
    (ht : t = onToolCall request issued call s) (hrunner : RunnerInvariant request t)
    (hledger : CallLedger t) (hkept : GeneratorKept s t shown)
    (hadmits : admitsToolCall request call s = true) : CompletionInvariant request t := by
  obtain ⟨_, _, _, hstep⟩ := onToolCall_executed issued hadmits
  rw [← ht] at hstep
  refine hs.keep hrunner hledger hkept hstep.trace ?_
  intro hmay
  refine ⟨hkept.mayComplete (by rw [hstep.failure]; exact id) hmay, ?_, ?_⟩
  · intro o ho
    rw [List.mem_singleton.mp ho]
    rfl
  · intro houtside
    simp only [admitsToolCall, Bool.and_eq_true, hs.runner.staged.accepting, houtside] at hadmits
    cases hadmits.1.1.1.2

theorem CompletionInvariant.refuse (hs : CompletionInvariant request s)
    (ht : t = onToolCall request issued call s) (hrunner : RunnerInvariant request t)
    (hledger : CallLedger t) (hkept : GeneratorKept s t shown)
    (hadmits : admitsToolCall request call s = false)
    (hlets : mayComplete request s = true → s.acceptingCallbacks = true) :
    CompletionInvariant request t := by
  have hstep := onToolCall_refused issued hadmits
  rw [← ht] at hstep
  refine hs.keep hrunner hledger hkept hstep.trace ?_
  intro hmay
  have hbefore : mayComplete request s = true := by
    refine hkept.mayComplete ?_ hmay
    intro hnone
    have hsome := hstep.failure
    rw [Option.isNone_iff_eq_none.mp hnone] at hsome
    cases hsome
  have hinside := hlets hbefore
  rw [hs.runner.staged.accepting] at hinside
  rw [hkept.not_mayComplete hinside hstep.failure] at hmay
  cases hmay

theorem CompletionInvariant.settle {callId : String} {outcome : ToolOutcome}
    (hs : CompletionInvariant request s) (hstep : ToolCallSettled callId outcome s t)
    (hrunner : RunnerInvariant request t) (hledger : CallLedger t) (hkept : GeneratorKept s t shown)
    (hpending : callId ∈ s.pendingToolCalls)
    (hlets : LetsToolsFinish request s (.toolSettles callId outcome)) :
    CompletionInvariant request t := by
  have hinside : mayComplete request s = true → s.point.inTransport = true := by
    intro hmay
    cases hplace : s.point.inTransport with
    | true => rfl
    | false =>
      rw [hs.closed hmay hplace] at hpending
      cases hpending
  refine hs.keep hrunner hledger hkept hstep.trace ?_
  intro hmay
  have hunnoted : outcome.isNoted = false := by
    rw [Bool.eq_false_iff]
    intro hnoted
    have hbefore : mayComplete request s = true := by
      refine hkept.mayComplete ?_ hmay
      intro hnone
      have hsome := hstep.noted hnoted
      rw [Option.isNone_iff_eq_none.mp hnone] at hsome
      cases hsome
    rw [hkept.not_mayComplete (hinside hbefore) (hstep.noted hnoted)] at hmay
    cases hmay
  have hbefore := hkept.mayComplete (by rw [hstep.unnoted hunnoted]; exact id) hmay
  refine ⟨hbefore, ?_, ?_⟩
  · intro o ho
    rw [List.mem_singleton.mp ho]
    cases outcome with
    | completed => rfl
    | denied => cases hunnoted
    | rejected error =>
      cases error with
      | none => cases hunnoted
      | some failure =>
        have hnever : mayComplete request s = false := hlets
        rw [hbefore] at hnever
        cases hnever
  · intro houtside
    rw [hinside hbefore] at houtside
    cases houtside

end Callbacks

theorem CompletionInvariant.callback {s t : RunnerState}
    (h : runnerStep platform request s a = some t) (ha : a.isCallback = true)
    (hs : CompletionInvariant request s) (hlets : LetsToolsFinish request s a) :
    CompletionInvariant request t := by
  have hrunner := hs.runner.step h
  have hledger := hs.ledger.step h
  obtain ⟨_, hkept⟩ := generatorKept_of_step h ha
  cases a with
  | onProgress phase =>
    simp only [runnerStep, Option.map_eq_some_iff] at h
    obtain ⟨_, _, rfl⟩ := h
    obtain ⟨htrace, _, _, _, hpending, hfailure⟩ := @onProgress_tools request phase s
    refine hs.keep hrunner hledger hkept (htrace.trans (List.append_nil _).symm) ?_
    intro hmay
    refine ⟨hkept.mayComplete ?_ hmay, by simp, fun _ => hpending⟩
    intro hnone
    cases hsome : s.callbackFailure with
    | none => rfl
    | some failure =>
      have hstill := hfailure (by rw [hsome]; rfl)
      rw [Option.isNone_iff_eq_none.mp hnone] at hstill
      cases hstill
  | onToolCall call =>
    simp only [runnerStep, Option.map_eq_some_iff] at h
    obtain ⟨issued, _, rfl⟩ := h
    cases hadmits : admitsToolCall request call s with
    | true => exact hs.execute rfl hrunner hledger hkept hadmits
    | false => exact hs.refuse rfl hrunner hledger hkept hadmits hlets
  | toolSettles callId outcome =>
    simp only [runnerStep] at h
    split at h
    · next hpending =>
        cases h
        exact hs.settle (toolSettles_settled callId outcome s) hrunner hledger hkept hpending hlets
    · cases h
  | _ => cases ha

theorem CompletionInvariant.of_run {actions : List RunnerAction}
    (h : Run (Guarded (Fires (runnerStep platform request)) (LetsToolsFinish request))
      .initial actions s) :
    CompletionInvariant request s := by
  refine Run.preserves ?_ h ?_
  · rintro s a t ⟨hlets, hstep⟩ hs
    cases hcallback : a.isCallback with
    | false => exact hs.generator hstep hcallback hlets
    | true => exact hs.callback hstep hcallback hlets
  · have hinitial : Run (Fires (runnerStep platform request)) .initial [] .initial := Run.nil _
    refine
      { runner := RunnerInvariant.of_run hinitial
        ledger := callLedger_initial
        clean := ?_
        closed := ?_
        sound := ?_ }
    · intro hmay
      cases hmay
    · intro hmay
      cases hmay
    · intro before e after heq
      simp [RunnerState.initial] at heq

end Guard

/-- The later trace says no more about the tool calls. -/
def ToolsUntouched (trace later : List Observation) : Prop :=
  ∃ shown, later = trace ++ shown ∧ ∀ o ∈ shown, o.isTool = false

theorem ToolsUntouched.refl (trace : List Observation) : ToolsUntouched trace trace :=
  ⟨[], by simp, by simp⟩

theorem ToolsUntouched.snoc {trace later : List Observation} (h : ToolsUntouched trace later)
    (ho : o.isTool = false) :
    ToolsUntouched trace (later ++ [o]) := by
  obtain ⟨shown, rfl, hshown⟩ := h
  refine ⟨shown ++ [o], by simp, ?_⟩
  intro o' ho'
  rcases List.mem_append.mp ho' with ho' | ho'
  · exact hshown o' ho'
  · rw [List.mem_singleton.mp ho']
    exact ho

/-- The run can be completed without a further word about the tool calls. -/
def CanComplete (platform : RunnerPlatform) (request : AgentExecutionRequest)
    (trace : List Observation) (s : RunnerState) : Prop :=
  ∃ actions t later e,
    Run (Fires (runnerStep platform request)) s actions t ∧
    t.trace = later ++ [.yielded e] ∧ e.eventType = .completed ∧ ToolsUntouched trace later

theorem CanComplete.cons {s t : RunnerState} (h : CanComplete platform request trace t)
    (hstep : runnerStep platform request s a = some t) :
    CanComplete platform request trace s := by
  obtain ⟨actions, u, later, e, hrun, htrace, htype, huntouched⟩ := h
  exact ⟨a :: actions, u, later, e, Run.cons hstep hrun, htrace, htype, huntouched⟩

theorem canComplete_replay (s : RunnerState) (told : Nat) (hnone : s.terminal = none)
    (h : ToolsUntouched trace s.trace) :
    CanComplete platform request trace (replay platform request told s) := by
  -- by induction on the number of phases that are still to be told
  generalize hleft : s.phases.length - told = left
  induction left generalizing s told with
  | zero =>
    have hend : s.phases[told]? = none := List.getElem?_eq_none (by omega)
    simp only [replay, hend, yieldTerminal, hnone]
    exact ⟨[], _, s.trace, _, Run.nil _, rfl, rfl, h⟩
  | succ left ih =>
    have hlt : told < s.phases.length := by omega
    obtain ⟨_, _, hphases, hterminal⟩ := @replay_kept platform request told s
    have htold : ToolsUntouched trace (replay platform request told s).trace := by
      obtain ⟨e, hkept⟩ := @replay_toolsKept platform request told s
      rw [hkept.trace]
      exact h.snoc rfl
    have hrest := ih (replay platform request told s) (told + 1) (hterminal.trans hnone) htold
      (by rw [hphases]; omega)
    refine hrest.cons (a := .consumerNext) ?_
    simp [runnerStep, consumerNext, replay, yieldNext, hlt]

variable {s : RunnerState} {result : AcceptedResult}

theorem canComplete_checked {decision : Option PostCheckDecision} {answer : String}
    (hpoint : s.point = .resuming (.checked result decision))
    (hanswer : approvedAnswer decision = some answer) (hnone : s.terminal = none)
    (h : ToolsUntouched trace s.trace) : CanComplete platform request trace s := by
  have hrest : CanComplete platform request trace (conclude platform request
      { s with completedPayload := some { answer, usage := result.usage } }) :=
    canComplete_replay _ 0 hnone h
  refine hrest.cons (a := .resumes) ?_
  simp [runnerStep, resumes, hpoint, resume, afterCheck, hanswer]

theorem canComplete_awaitingCheck (hpoint : s.point = .awaiting (.check result))
    (hnone : s.terminal = none) (h : ToolsUntouched trace s.trace) :
    CanComplete platform request trace s := by
  have hanswer : approvedAnswer (some (.approved (some "answer"))) = some "answer" := by
    decide +kernel
  have hstep : runnerStep platform request s
      (.fulfils (.postCheck (some (.approved (some "answer"))))) =
        some { s.record (.postChecked (some (.approved (some "answer")))) with
          point := .resuming (.checked result (some (.approved (some "answer")))) } := by
    simp [runnerStep, fulfils, hpoint, Operation.fulfil?]
  refine CanComplete.cons ?_ hstep
  exact canComplete_checked rfl hanswer hnone (h.snoc rfl)

/-- A post check that is called may hand back its promise. -/
theorem canComplete_callingCheck (hpoint : s.point = .calling (.check result))
    (hlive : s.aborted = false) (hnone : s.terminal = none) (h : ToolsUntouched trace s.trace) :
    CanComplete platform request trace s := by
  have hstep : runnerStep platform request s .returns =
      some { s with point := .awaiting (.check result) } := by
    simp [runnerStep, returns, hpoint, hlive]
  have hrest : CanComplete platform request trace
      { s with point := .awaiting (.check result) } :=
    canComplete_awaitingCheck rfl hnone h
  exact hrest.cons hstep

theorem canComplete_answered {result : Option TransportResult} {accepted : AcceptedResult}
    (hpoint : s.point = .resuming (.answered result)) (hfailure : s.callbackFailure = none)
    (haccepted : acceptResult request.budget result = some accepted) (hlive : s.aborted = false)
    (hnone : s.terminal = none) (h : ToolsUntouched trace s.trace) :
    CanComplete platform request trace s := by
  have hstep : runnerStep platform request s .resumes =
      some
        { s with
          acceptingCallbacks := false
          phases := s.phases ++ [.finalCheck]
          point := .calling (.check accepted) } := by
    simp [runnerStep, resumes, hpoint, resume, afterTransport, hfailure, haccepted]
  have hrest : CanComplete platform request trace
      { s with
        acceptingCallbacks := false
        phases := s.phases ++ [.finalCheck]
        point := .calling (.check accepted) } :=
    canComplete_callingCheck rfl hlive hnone h
  exact hrest.cons hstep

theorem not_lt_zero_of_isSafeWithin {bound : JsNumber} {high : Nat}
    (h : isSafeWithin bound 1 high = true) : bound.lt .zero = false := by
  simp only [isSafeWithin, Bool.and_eq_true, Bool.not_eq_true'] at h
  obtain ⟨⟨hsafe, hlow⟩, _⟩ := h
  cases bound with
  | nan => rfl
  | infinity negative => cases hsafe
  | finite value =>
    simp only [JsNumber.lt, JsNumber.le, JsNumber.ofNat, JsNumber.zero, Bool.and_eq_false_iff,
      Bool.not_eq_false', decide_eq_true_eq, decide_eq_false_iff_not] at hlow ⊢
    refine .inr ?_
    rcases hlow with hlow | hlow
    · exact le_of_lt (lt_trans (by norm_num) (not_le.mp hlow))
    · exact le_trans (by norm_num) hlow

theorem exists_acceptable (h : validRequest request = true) :
    ∃ result accepted, acceptResult request.budget result = some accepted := by
  have hzero : isSafeCount .zero = true := by decide
  have htokens : isSafeWithin request.budget.maxTokens 1 8000 = true := by
    simp only [validRequest, Bool.and_eq_true] at h
    exact h.1.1.2
  refine ⟨some
    { rawAnswer := some "raw"
      usage := some { inputTokens := .zero, outputTokens := .zero, steps := .zero } }, ?_⟩
  simp [acceptResult, hzero, not_lt_zero_of_isSafeWithin htokens,
    not_lt_zero_of_isSafeWithin (validRequest_bounds h).1]

theorem canComplete_awaitingTransport (hstaged : Staged request s)
    (hpoint : s.point = .awaiting .transport) (hfailure : s.callbackFailure = none)
    (hnone : s.terminal = none) (h : ToolsUntouched trace s.trace) :
    CanComplete platform request trace s := by
  have hvalid := hstaged.valid (by rw [hpoint]; rfl)
  have hlive := hstaged.waiting (by rw [hpoint]; rfl)
  obtain ⟨result, accepted, haccepted⟩ := exists_acceptable hvalid
  have hstep : runnerStep platform request s (.fulfils (.answer result)) =
      some { s with point := .resuming (.answered result) } := by
    simp [runnerStep, fulfils, hpoint, Operation.fulfil?]
  have hrest : CanComplete platform request trace
      { s with point := .resuming (.answered result) } :=
    canComplete_answered rfl hfailure haccepted hlive hnone h
  exact hrest.cons hstep

theorem canComplete_of_mayComplete (hstaged : Staged request s)
    (hmay : mayComplete request s = true) : CanComplete platform request s.trace s := by
  simp only [mayComplete, Bool.and_eq_true, Option.isNone_iff_eq_none] at hmay
  obtain ⟨hnone, hplace⟩ := hmay
  have huntouched := ToolsUntouched.refl s.trace
  cases hpoint : s.point with
  | calling operation =>
    rw [hpoint] at hplace
    cases operation with
    | transport =>
      simp only [Bool.and_eq_true, Option.isNone_iff_eq_none, Bool.not_eq_true'] at hplace
      have hstep : runnerStep platform request s .returns =
          some { s with point := .awaiting .transport } := by
        simp [runnerStep, returns, hpoint, hplace.2]
      have hrest : CanComplete platform request s.trace
          { s with point := .awaiting .transport } :=
        canComplete_awaitingTransport (hstaged.step hstep) rfl hplace.1 hnone huntouched
      exact hrest.cons hstep
    | check result =>
      exact canComplete_callingCheck hpoint (by simpa using hplace) hnone huntouched
    | _ => cases hplace
  | awaiting operation =>
    rw [hpoint] at hplace
    cases operation with
    | transport =>
      exact canComplete_awaitingTransport hstaged hpoint (by simpa using hplace) hnone huntouched
    | check result => exact canComplete_awaitingCheck hpoint hnone huntouched
    | _ => cases hplace
  | resuming resumption =>
    rw [hpoint] at hplace
    cases resumption with
    | answered result =>
      simp only [Bool.and_eq_true, Option.isNone_iff_eq_none, Bool.not_eq_true'] at hplace
      obtain ⟨⟨hfailure, hlive⟩, haccepted⟩ := hplace
      obtain ⟨accepted, haccepted⟩ := Option.isSome_iff_exists.mp haccepted
      exact canComplete_answered hpoint hfailure haccepted hlive hnone huntouched
    | checked result decision =>
      obtain ⟨answer, hanswer⟩ := Option.isSome_iff_exists.mp hplace
      exact canComplete_checked hpoint hanswer hnone huntouched
    | _ => cases hplace
  | replaying told =>
    refine (canComplete_replay s told hnone huntouched).cons (a := .consumerNext) ?_
    simp [runnerStep, consumerNext, hpoint]
  | _ =>
    rw [hpoint] at hplace
    cases hplace

theorem breach_of_canComplete (h : CanComplete platform request s.trace s)
    (hbad : (∃ o ∈ s.trace, o.isToolFailure = true) ∨
      ∃ call, .executed call ∈ s.trace ∧ .toolCompleted call.callId ∉ s.trace) :
    ∃ actions t, Run (Fires (runnerStep platform request)) s actions t ∧
      ¬ SoundCompletion t.trace := by
  obtain ⟨actions, t, later, e, hrun, htrace, htype, shown, rfl, hshown⟩ := h
  refine ⟨actions, t, hrun, ?_⟩
  intro hsound
  obtain ⟨hclean, hcompleted⟩ := hsound (s.trace ++ shown) e [] htrace htype
  rcases hbad with ⟨o, ho, hfailure⟩ | ⟨call, hcall, hmissing⟩
  · rw [hclean o (List.mem_append_left _ ho)] at hfailure
    cases hfailure
  · rcases List.mem_append.mp (hcompleted call (List.mem_append_left _ hcall)) with hmem | hmem
    · exact hmissing hmem
    · have htool := hshown _ hmem
      cases htool

theorem CallLedger.of_run {actions : List RunnerAction}
    (h : Run (Fires (runnerStep platform request)) .initial actions s) : CallLedger s :=
  Run.preserves (fun _ _ _ hstep hs => hs.step hstep) h callLedger_initial

theorem breach_of_step {actions : List RunnerAction} {s t : RunnerState}
    (hrun : Run (Fires (runnerStep platform request)) .initial actions s)
    (h : runnerStep platform request s a = some t) (hlets : ¬ LetsToolsFinish request s a) :
    ∃ more u, Run (Fires (runnerStep platform request)) t more u ∧ ¬ SoundCompletion u.trace := by
  have hrunner := RunnerInvariant.of_run hrun
  have hledger := CallLedger.of_run hrun
  have hstaged := hrunner.staged.step h
  have hbreach : mayComplete request t = true →
      ((∃ o ∈ t.trace, o.isToolFailure = true) ∨
        ∃ call, .executed call ∈ t.trace ∧ .toolCompleted call.callId ∉ t.trace) →
      ∃ more u, Run (Fires (runnerStep platform request)) t more u ∧ ¬ SoundCompletion u.trace :=
    fun hmay => breach_of_canComplete (canComplete_of_mayComplete hstaged hmay)
  cases a with
  | onToolCall call =>
    simp only [LetsToolsFinish, Classical.not_imp, Bool.not_eq_true] at hlets
    obtain ⟨hmay, haccepting⟩ := hlets
    obtain ⟨_, hgenerator⟩ := generatorKept_of_step h rfl
    simp only [runnerStep, Option.map_eq_some_iff] at h
    obtain ⟨issued, _, rfl⟩ := h
    have hrefused : admitsToolCall request call s = false := by
      simp [admitsToolCall, haccepting]
    have houtside : s.point.inTransport = false := by
      rw [← hrunner.staged.accepting, haccepting]
    refine hbreach (mayComplete_outside hgenerator.point hgenerator.terminal hgenerator.aborted
      houtside hmay) (.inl ⟨.toolRefused call, ?_, rfl⟩)
    rw [(onToolCall_refused issued hrefused).trace]
    exact List.mem_append_right _ (List.mem_singleton_self _)
  | toolSettles callId outcome =>
    obtain ⟨_, hgenerator⟩ := generatorKept_of_step h rfl
    simp only [runnerStep] at h
    split at h <;> cases h
    cases outcome with
    | completed => exact absurd trivial hlets
    | denied => exact absurd trivial hlets
    | rejected error =>
      cases error with
      | none => exact absurd trivial hlets
      | some failure =>
        have hmay : mayComplete request s = true := by
          simpa [LetsToolsFinish] using hlets
        have hstep := toolSettles_settled callId (.rejected (some failure)) s
        refine hbreach ((mayComplete_congr hgenerator.point hgenerator.terminal
          (hstep.unnoted rfl) hgenerator.aborted).trans hmay) (.inl ⟨.toolFailed callId, ?_, rfl⟩)
        rw [hstep.trace]
        exact List.mem_append_right _ (List.mem_singleton_self _)
  | resumes =>
    simp only [LetsToolsFinish, not_forall] at hlets
    obtain ⟨result, hpoint, hmay, hpending⟩ := hlets
    obtain ⟨callId, hmem⟩ := List.exists_mem_of_ne_nil _ hpending
    obtain ⟨call, hcall, rfl⟩ := hledger.executed callId hmem
    have hmissing := hledger.unsettled _ hmem
    simp only [mayComplete, hpoint, Bool.and_eq_true, Option.isNone_iff_eq_none,
      Bool.not_eq_true'] at hmay
    obtain ⟨hnone, ⟨hfailure, hlive⟩, haccepted⟩ := hmay
    obtain ⟨accepted, haccepted⟩ := Option.isSome_iff_exists.mp haccepted
    simp only [runnerStep, resumes, hpoint, resume, afterTransport, hfailure, haccepted,
      Option.some.injEq] at h
    subst h
    refine hbreach ?_ (.inr ⟨call, hcall, hmissing⟩)
    simpa [mayComplete, hnone, RunnerState.aborted] using hlive
  | _ => exact absurd trivial hlets

/--
In every run whose steps let the tools finish, every call was completed when the
run was.  A step that does not let them finish can be followed to a completed
run in which a call was refused, has failed, or is pending.
-/
theorem runner_completion (platform : RunnerPlatform) (request : AgentExecutionRequest) :
    (∀ actions s,
      Run (Guarded (Fires (runnerStep platform request)) (LetsToolsFinish request))
        .initial actions s → SoundCompletion s.trace) ∧
    ∀ actions s a t,
      Run (Fires (runnerStep platform request)) .initial actions s →
      runnerStep platform request s a = some t → ¬ LetsToolsFinish request s a →
      ∃ more u, Run (Fires (runnerStep platform request)) t more u ∧
        ¬ SoundCompletion u.trace :=
  ⟨fun _ _ h => (CompletionInvariant.of_run h).sound, fun _ _ _ _ => breach_of_step⟩

/-- A call is still with the executor when the transport answers, and is denied during the check. -/
theorem runner_completes_with_denied_call :
    ∃ s, Run (Fires (runnerStep samplePlatform sampleRequest)) .initial
        (sampleStart ++ [.consumerNext, .returns, .onToolCall sampleToolCall,
          .fulfils sampleAnswer, .resumes, .returns, .toolSettles "call" .denied,
          .fulfils (.postCheck (some (.approved (some "answer")))), .resumes,
          .consumerNext, .consumerNext]) s ∧
      ¬ SoundCompletion s.trace := by
  have htrace : (fire (runnerStep samplePlatform sampleRequest) .initial
      (sampleStart ++ [.consumerNext, .returns, .onToolCall sampleToolCall,
        .fulfils sampleAnswer, .resumes, .returns, .toolSettles "call" .denied,
        .fulfils (.postCheck (some (.approved (some "answer")))), .resumes,
        .consumerNext, .consumerNext])).map (fun s =>
          (s.trace.dropLast.contains (.toolDenied "call"),
            (s.trace.getLast?.bind Observation.event?).map (·.eventType))) =
      some (true, some .completed) := by
    decide +kernel
  obtain ⟨s, hs, hseen⟩ := Option.map_eq_some_iff.mp htrace
  simp only [Prod.mk.injEq, List.contains_eq_mem, decide_eq_true_eq, Option.map_eq_some_iff,
    Option.bind_eq_some_iff] at hseen
  obtain ⟨hdenied, e, ⟨o, hlast, hevent⟩, htype⟩ := hseen
  have hyielded : o = .yielded e := by
    cases o <;> cases hevent
    rfl
  subst hyielded
  refine ⟨s, run_fires_iff.mpr hs, ?_⟩
  intro hsound
  have hclean := (hsound _ e [] (List.dropLast_append_getLast? _ hlast).symm htype).1 _ hdenied
  cases hclean

end Aiphabee.AgentRunner
