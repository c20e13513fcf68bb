import Aiphabee.Sandbox.TerminalLifecycleRuns

/-!
# What a terminal record says

A terminal record claims that a sandbox may be released, and that a run was
completed.  This module relates both claims to the events of the run: `Sound`
says, for every wait of the lifecycle, which of the events seen so far its
record may rely on.  `terminalRecord_sound` reads the claims of every record off
the events before it.
-/

namespace Aiphabee.TerminalLifecycle

open LeaseRegistry
open Transition

variable (past : List LifecycleEvent)

section Vocabulary

/-- A destroy of the backend has reported the sandbox gone. -/
def DestroyConfirmed : Prop :=
  LifecycleEvent.destroyEnds (.settled .destroyed) ∈ past ∨
    LifecycleEvent.destroyEnds (.settled .alreadyDestroyed) ∈ past

/-- The grace period of the stream has not passed. -/
def InGrace : Prop :=
  LifecycleEvent.closeTimesOut ∉ past

/-- Neither the control nor a deadline has asked for a stop. -/
def NoStop : Prop :=
  LifecycleEvent.controlAborts ∉ past ∧ LifecycleEvent.softDeadline ∉ past ∧
    LifecycleEvent.hardDeadline ∉ past

/-- The execution exited with code zero before anything asked for a stop. -/
def CleanExit : Prop :=
  ∃ pre post, past = pre ++ LifecycleEvent.streams (.exit 0) :: post ∧ NoStop pre

variable {past : List LifecycleEvent}

theorem DestroyConfirmed.later (h : DestroyConfirmed past) (event : LifecycleEvent) :
    DestroyConfirmed (past ++ [event]) :=
  h.imp (List.mem_append_left _) (List.mem_append_left _)

theorem CleanExit.later (h : CleanExit past) (event : LifecycleEvent) :
    CleanExit (past ++ [event]) := by
  obtain ⟨pre, post, rfl, hpre⟩ := h
  exact ⟨pre, post ++ [event], by simp, hpre⟩

theorem InGrace.later (h : InGrace past) (event : LifecycleEvent)
    (hevent : event ≠ .closeTimesOut) : InGrace (past ++ [event]) := by
  unfold InGrace at *
  simp [h, hevent.symm]

theorem exit_of_completed {meter : ExecutionMeter} {item : StreamItem}
    {observation : ExecutionObservation} (h : consumeExecution meter item = some observation)
    (hcompleted : observation.terminalState = .completed) : item = .exit 0 := by
  cases item with
  | output stream chunk => cases h
  | exit exitCode =>
    obtain rfl := Option.some.inj h
    by_cases hzero : exitCode = 0
    · rw [hzero]
    · simp [emptyObservation, hzero] at hcompleted
  | failed reason =>
    obtain rfl := Option.some.inj h
    rcases reason with _ | reason
    · simp [emptyObservation, executionFailureTerminalState] at hcompleted
    · cases reason <;>
        simp [emptyObservation, executionFailureTerminalState] at hcompleted
  | done =>
    obtain rfl := Option.some.inj h
    simp [emptyObservation] at hcompleted
  | throws =>
    obtain rfl := Option.some.inj h
    simp [emptyObservation] at hcompleted

theorem confirmed_of_releaseSafe {outcome : Bounded SandboxDestroyResult}
    (hpast : LifecycleEvent.destroyEnds outcome ∈ past)
    (h : (destroyLease outcome).releaseSafe = true) : DestroyConfirmed past := by
  rcases outcome with (_ | _ | _) | _ | _
  · exact Or.inr hpast
  · exact Or.inl hpast
  all_goals cases h

end Vocabulary

section Sound

/-- Nothing has been executed. -/
@[mk_iff] structure Unstarted (past : List LifecycleEvent) (s : LifecycleState) : Prop where
  handle : s.handle = .none
  killCalls : s.killCalls = []
  soft : s.softFired = false
  hard : s.hardFired = false
  grace : InGrace past

variable (s : LifecycleState)

def Decided (terminalState : SandboxTerminalState) : Prop :=
  terminalState = .completed → CleanExit past ∧ s.killCalls = []

def StreamClosed : Prop :=
  s.handle = .closed ∧ ∃ observation, s.execution = .settled observation

@[mk_iff] structure RecordSound
    (past : List LifecycleEvent)
    (s : LifecycleState)
    (record : SandboxTerminalLifecycleRecord) : Prop where
  releaseSafe : record.cleanup.releaseSafe = true →
    s.create = .notCalled ∨
      DestroyConfirmed past ∧ (s.handle ≠ .none → StreamClosed s ∧ InGrace past)
  completed : Decided past s record.terminalState

/-- What a wait may rely on. -/
def SoundAt : LifecyclePhase → Prop
  | .rejected => True
  | .creating _ => Unstarted past s
  | .settlingCreate _ _ => Unstarted past s
  | .starting _ => Unstarted past s
  | .executing _ won =>
    s.killCalls = [] ∧ InGrace past ∧
      (won = none →
        s.controlAborted = false ∧ s.softFired = false ∧ s.hardFired = false) ∧
      ∀ observation, won = some (.stop (.execution observation)) →
        observation.terminalState = .completed → CleanExit past
  | .killing _ next _ =>
    InGrace past ∧
      ∀ observation, next = .decide observation →
        observation.terminalState ≠ .completed
  | .afterSoft _ _ _ => InGrace past
  | .destroyingCancelled _ _ won =>
    s.handle = .none ∧
      ∀ outcome, won = some outcome → LifecycleEvent.destroyEnds outcome ∈ past
  | .destroying _ decision won =>
    InGrace past ∧ Decided past s decision.terminalState ∧
      ∀ outcome, won = some outcome → LifecycleEvent.destroyEnds outcome ∈ past
  | .closing _ decision cleanup won =>
    Decided past s decision.terminalState ∧
      (cleanup.releaseSafe = true → DestroyConfirmed past) ∧
      (won ≠ some .timedOut → InGrace past) ∧
      (won = some (.settled ()) → StreamClosed s)
  | .recording record => RecordSound past s record
  | .returned record _ => RecordSound past s record

structure FlagsAgree
    (input : RunSandboxTerminalLifecycleInput)
    (past : List LifecycleEvent)
    (s : LifecycleState) : Prop where
  control : s.controlAborted = false → LifecycleEvent.controlAborts ∉ past
  controlled : s.controlAborted = true → input.control ≠ none
  soft : s.softFired = false → LifecycleEvent.softDeadline ∉ past
  hard : s.hardFired = false → LifecycleEvent.hardDeadline ∉ past

structure Sound
    (input : RunSandboxTerminalLifecycleInput)
    (past : List LifecycleEvent)
    (s : LifecycleState) : Prop where
  flags : FlagsAgree input past s
  phase : SoundAt past s s.phase

def LifecycleState.grounds :=
  (s.create, s.controlAborted, s.softFired, s.hardFired, s.execution, s.handle, s.killCalls)

variable {past : List LifecycleEvent}
variable {phase : LifecyclePhase}

variable {s t : LifecycleState}

theorem SoundAt.congr (h : SoundAt past s phase) (hsame : t.grounds = s.grounds) :
    SoundAt past t phase := by
  simp only [LifecycleState.grounds, Prod.mk.injEq] at hsame
  obtain ⟨hcreate, hcontrol, hsoft, hhard, hexecution, hhandle, hkill⟩ := hsame
  unfold SoundAt at h ⊢
  simp only [unstarted_iff, recordSound_iff, Decided, StreamClosed] at h ⊢
  rw [hcreate, hcontrol, hsoft, hhard, hexecution, hhandle, hkill]
  exact h

variable {s : LifecycleState}

/-- What a wait relies on stays true while events go by. -/
theorem SoundAt.later (h : SoundAt past s phase) (event : LifecycleEvent)
    (hevent : event ≠ .closeTimesOut) : SoundAt (past ++ [event]) s phase := by
  have hmem : ∀ e, e ∈ past → e ∈ past ++ [event] := fun e he => List.mem_append_left _ he
  have hdecided :
      ∀ state, Decided past s state → Decided (past ++ [event]) s state :=
    fun _ hd hc => ⟨(hd hc).1.later event, (hd hc).2⟩
  cases phase with
  | rejected => trivial
  | creating | settlingCreate | starting =>
    exact ⟨h.handle, h.killCalls, h.soft, h.hard, h.grace.later event hevent⟩
  | executing =>
    exact
      ⟨h.1, h.2.1.later event hevent, h.2.2.1,
        fun o hwon hcompleted => (h.2.2.2 o hwon hcompleted).later event⟩
  | killing => exact ⟨h.1.later event hevent, h.2⟩
  | afterSoft => exact InGrace.later h event hevent
  | destroyingCancelled => exact ⟨h.1, fun o ho => hmem _ (h.2 o ho)⟩
  | destroying =>
    exact ⟨h.1.later event hevent, hdecided _ h.2.1, fun o ho => hmem _ (h.2.2 o ho)⟩
  | closing =>
    exact
      ⟨hdecided _ h.1, fun hsafe => (h.2.1 hsafe).later event,
        fun hwon => (h.2.2.1 hwon).later event hevent, h.2.2.2⟩
  | recording | returned =>
    refine ⟨fun hsafe => ?_, hdecided _ h.completed⟩
    exact (h.releaseSafe hsafe).imp_right fun hconfirmed =>
      ⟨hconfirmed.1.later event,
        fun hhandle => ⟨(hconfirmed.2 hhandle).1, (hconfirmed.2 hhandle).2.later event hevent⟩⟩

theorem soundAt_offerCreate {create : CreateState} {createTimedOut : Bool}
    {settlement : CreateSettlement} (hcreate : s.create = .notCalled → create = .notCalled)
    (h : SoundAt past s s.phase) :
    SoundAt past
      { s with
        create := create
        createTimedOut := createTimedOut
        phase := s.phase.offerCreate settlement }
      (s.phase.offerCreate settlement) := by
  unfold LifecyclePhase.offerCreate
  cases hphase : s.phase <;>
    simp only [hphase, SoundAt, unstarted_iff, recordSound_iff, Decided, StreamClosed] at h ⊢ <;>
    grind

theorem soundAt_offerControl {reason : SandboxLifecycleControlReason} (h : SoundAt past s s.phase) :
    SoundAt past
      { s with controlAborted := true, phase := s.phase.offerControl reason }
      (s.phase.offerControl reason) := by
  unfold LifecyclePhase.offerControl LifecyclePhase.offerStop
  cases hphase : s.phase <;>
    simp only [hphase, SoundAt, unstarted_iff, recordSound_iff, Decided, StreamClosed] at h ⊢ <;>
    grind [Option.or_eq_some_iff, Option.or_eq_none_iff]

theorem soundAt_offerSoft (hruns : s.phase.deadlinesRun = true) (h : SoundAt past s s.phase) :
    SoundAt past
      { s with softFired := true, phase := s.phase.offerSoft } s.phase.offerSoft := by
  unfold LifecyclePhase.offerSoft
  unfold LifecyclePhase.deadlinesRun at hruns
  cases hphase : s.phase <;>
    simp only [hphase, SoundAt, unstarted_iff, recordSound_iff, Decided, StreamClosed]
      at h hruns ⊢ <;>
    grind [Option.or_eq_some_iff, Option.or_eq_none_iff]

theorem soundAt_offerHard (hruns : s.phase.deadlinesRun = true) (h : SoundAt past s s.phase) :
    SoundAt past
      { s with hardFired := true, phase := s.phase.offerStop .hard }
      (s.phase.offerStop .hard) := by
  unfold LifecyclePhase.offerStop
  unfold LifecyclePhase.deadlinesRun at hruns
  cases hphase : s.phase <;>
    simp only [hphase, SoundAt, unstarted_iff, recordSound_iff, Decided, StreamClosed]
      at h hruns ⊢ <;>
    grind [Option.or_eq_some_iff, Option.or_eq_none_iff]

variable {observation : ExecutionObservation}

/-- The end of an execution may complete the run if nothing has asked for a stop. -/
theorem soundAt_offerExecution
    (hclean : s.controlAborted = false → s.softFired = false → s.hardFired = false →
      observation.terminalState = .completed → CleanExit past)
    (h : SoundAt past s s.phase) :
    SoundAt past
      { s with
        execution := .settled observation
        phase := s.phase.offerStop (.execution observation) }
      (s.phase.offerStop (.execution observation)) := by
  unfold LifecyclePhase.offerStop
  cases hphase : s.phase <;>
    simp only [hphase, SoundAt, unstarted_iff, recordSound_iff, Decided, StreamClosed] at h ⊢ <;>
    grind [Option.or_eq_some_iff, Option.or_eq_none_iff]

/-- A closed stream ends the last wait in time; a rejected one ends it without a claim. -/
theorem soundAt_offerClosing (outcome : Bounded Unit) (h : SoundAt past s phase)
    (hclosed : outcome = .settled () → StreamClosed s) :
    SoundAt past s (phase.offerClosing outcome) := by
  unfold LifecyclePhase.offerClosing
  cases phase <;> simp only [SoundAt] at h ⊢ <;>
    grind [Option.or_eq_some_iff, Option.or_eq_none_iff]

theorem soundAt_handle (handle : HandleState) (hopened : s.handle = .opened)
    (h : SoundAt past s phase) : SoundAt past { s with handle := handle } phase := by
  cases phase <;>
    simp only [SoundAt, unstarted_iff, recordSound_iff, Decided, StreamClosed] at h ⊢ <;>
    grind

/-- A decision that does not call the run completed claims nothing. -/
theorem decided_of_ne {terminalState : SandboxTerminalState} (h : terminalState ≠ .completed) :
    Decided past s terminalState :=
  fun hcompleted => absurd hcompleted h

variable {record : SandboxTerminalLifecycleRecord}

theorem recordSound_of_silent (hsafe : record.cleanup.releaseSafe = false)
    (hstate : record.terminalState ≠ .completed) :
    RecordSound past s record where
  releaseSafe := fun h => by
    rw [hsafe] at h
    cases h
  completed := decided_of_ne hstate

theorem controlTerminalState_ne_completed (reason : SandboxLifecycleControlReason) :
    controlTerminalState reason ≠ .completed := by
  cases reason <;> simp [controlTerminalState]

theorem createFailedRecord_ne_completed (input : RunSandboxTerminalLifecycleInput) :
    (createFailedRecord input).terminalState ≠ .completed := by
  simp [createFailedRecord, terminalRecord, unexecuted, stopped, emptyObservation]

theorem streamClosed_of_closed? (h : s.closed? = some (.settled ())) : StreamClosed s := by
  unfold LifecycleState.closed? at h
  split at h
  · cases h
  · next hhandle hexecution => exact ⟨hhandle, _, hexecution⟩
  · cases h

theorem soundAt_stop {lease : SandboxLease} {stop : StopRace} (hgrace : InGrace past)
    (hexecution : ∀ observation, stop = .execution observation →
      Decided past s observation.terminalState) :
    SoundAt past (s.stop lease stop) (s.stop lease stop).phase := by
  cases stop with
  | execution observation =>
    simp only [LifecycleState.stop]
    split
    · next hstate =>
        refine ⟨hgrace, ?_⟩
        rintro _ ⟨⟩
        simp [hstate]
    · exact ⟨hgrace, hexecution observation rfl, by simp⟩
  | hard =>
    refine ⟨hgrace, ?_⟩
    rintro _ ⟨⟩
    simp [stopped, emptyObservation]
  | control reason =>
    refine ⟨hgrace, ?_⟩
    rintro _ ⟨⟩
    exact controlTerminalState_ne_completed reason

variable {input : RunSandboxTerminalLifecycleInput}

/-- Resuming keeps what the waits rely on. -/
theorem soundAt_resume (hstep : resumeLifecycle input s = some t) (h : SoundAt past s s.phase) :
    SoundAt past t t.phase := by
  unfold resumeLifecycle at hstep
  generalize s.phase = phase at hstep h
  split at hstep
  all_goals try cases hstep
  · exact ⟨h.handle, h.killCalls, h.soft, h.hard, h.grace⟩
  · exact recordSound_of_silent rfl (createFailedRecord_ne_completed input)
  · exact recordSound_of_silent rfl (createFailedRecord_ne_completed input)
  · exact ⟨h.handle, h.killCalls, h.soft, h.hard, h.grace⟩
  · exact ⟨h.handle, by simp⟩
  · exact recordSound_of_silent rfl (controlTerminalState_ne_completed _)
  · exact recordSound_of_silent rfl (controlTerminalState_ne_completed _)
  · refine ⟨fun hsafe => Or.inr ⟨?_, fun hhandle => absurd h.1 hhandle⟩, ?_⟩
    · exact confirmed_of_releaseSafe (h.2 _ rfl) hsafe
    · exact decided_of_ne (controlTerminalState_ne_completed _)
  · refine soundAt_stop h.2.1 ?_
    rintro observation rfl hcompleted
    exact ⟨h.2.2.2 observation rfl hcompleted, h.1⟩
  · exact ⟨h.2.1, by simp⟩
  · exact ⟨h.1, decided_of_ne (h.2 _ rfl), by simp⟩
  · split at hstep <;> cases hstep
    · exact ⟨h.1, decided_of_ne (by simp [stopped, emptyObservation]), by simp⟩
    · exact h.1
  · exact ⟨h, decided_of_ne (by simp), by simp⟩
  · next hnot => exact soundAt_stop h fun observation heq => absurd heq (hnot observation)
  · split at hstep
    · next hhandle =>
        cases hstep
        refine ⟨fun hsafe => Or.inr ⟨?_, fun hne => absurd hhandle hne⟩, h.2.1⟩
        exact confirmed_of_releaseSafe (h.2.2 _ rfl) hsafe
    · cases hstep
      exact
        ⟨h.2.1, fun hsafe => confirmed_of_releaseSafe (h.2.2 _ rfl) hsafe,
          fun _ => h.1, streamClosed_of_closed?⟩
  · refine ⟨fun hsafe => Or.inr ?_, h.1⟩
    simp only [terminalRecord] at hsafe
    split at hsafe
    · next hsettled =>
        subst hsettled
        exact ⟨h.2.1 hsafe, fun _ => ⟨h.2.2.2 rfl, h.2.2.1 (by simp)⟩⟩
    · cases hsafe

theorem FlagsAgree.congr (h : FlagsAgree input past s)
    (hsame : (t.controlAborted, t.softFired, t.hardFired) =
      (s.controlAborted, s.softFired, s.hardFired)) :
    FlagsAgree input past t := by
  simp only [Prod.mk.injEq] at hsame
  obtain ⟨hcontrol, hsoft, hhard⟩ := hsame
  exact
    ⟨by rw [hcontrol]; exact h.control, by rw [hcontrol]; exact h.controlled,
      by rw [hsoft]; exact h.soft, by rw [hhard]; exact h.hard⟩

/-- A wait that went on when the execution began was not stopped by an aborted control. -/
theorem control_of_executed?_none (hflags : FlagsAgree input past s)
    (h : s.executed? input = none) : s.controlAborted = false := by
  unfold LifecycleState.executed? LifecycleState.control? at h
  split at h
  · cases h
  · split at h
    · next haborted =>
        exact absurd (Option.map_eq_none_iff.mp h) (hflags.controlled haborted)
    · next haborted => simpa using haborted

theorem execution_of_executed? (h : s.executed? input = some (.execution observation)) :
    s.execution = .settled observation := by
  unfold LifecycleState.executed? LifecycleState.control? at h
  split at h
  · next hexecution =>
      cases h
      exact hexecution
  · split at h
    · simp at h
    · cases h

variable {event : LifecycleEvent}

theorem FlagsAgree.later (h : FlagsAgree input past s) (hcontrol : event ≠ .controlAborts)
    (hsoft : event ≠ .softDeadline) (hhard : event ≠ .hardDeadline) :
    FlagsAgree input (past ++ [event]) s where
  control := fun hflag => by simpa [hcontrol.symm] using h.control hflag
  controlled := h.controlled
  soft := fun hflag => by simpa [hsoft.symm] using h.soft hflag
  hard := fun hflag => by simpa [hhard.symm] using h.hard hflag

theorem flagsAgree_step (hstep : Fires (lifecycleStep input) s event t)
    (h : FlagsAgree input past s) : FlagsAgree input (past ++ [event]) t := by
  cases event with
  | controlAborts =>
    simp only [Fires, lifecycleStep] at hstep
    split at hstep
    · next reason hcontrol =>
        obtain ⟨_, rfl⟩ := Option.ite_some_none_eq_some.mp hstep
        exact
          ⟨by simp, by simp [hcontrol], fun hflag => by simpa using h.soft hflag,
            fun hflag => by simpa using h.hard hflag⟩
    · cases hstep
  | softDeadline =>
    simp only [Fires, lifecycleStep, Option.ite_none_right_eq_some, Option.some.injEq] at hstep
    obtain ⟨_, rfl⟩ := hstep
    exact
      ⟨fun hflag => by simpa using h.control hflag, h.controlled, by simp,
        fun hflag => by simpa using h.hard hflag⟩
  | hardDeadline =>
    simp only [Fires, lifecycleStep, Option.ite_none_right_eq_some, Option.some.injEq] at hstep
    obtain ⟨_, rfl⟩ := hstep
    exact
      ⟨fun hflag => by simpa using h.control hflag, h.controlled,
        fun hflag => by simpa using h.soft hflag, by simp⟩
  | resumes =>
    have hsame := promises_resume hstep
    simp only [LifecycleState.promises, Prod.mk.injEq] at hsame
    exact (h.later (by simp) (by simp) (by simp)).congr (by simp [hsame])
  | _ =>
    simp only [Fires, lifecycleStep] at hstep
    have hsame : (t.controlAborted, t.softFired, t.hardFired) =
        (s.controlAborted, s.softFired, s.hardFired) := by
      grind
    exact (h.later (by simp) (by simp) (by simp)).congr hsame

theorem Sound.executes {outcome : ExecuteOutcome} (h : Sound input past s)
    (hstep : lifecycleStep input s (.executes outcome) = some t) :
    SoundAt (past ++ [.executes outcome]) t t.phase := by
  obtain ⟨hflags, hsound⟩ := h
  simp only [lifecycleStep] at hstep
  split at hstep
  · next lease hphase =>
      rw [hphase] at hsound
      cases hstep
      have hgrace := hsound.grace.later (.executes outcome) (by simp)
      refine ⟨?_, hgrace, ?_, ?_⟩
      · cases outcome <;> exact hsound.killCalls
      · intro hnone
        have hcontrol := Option.map_eq_none_iff.mp hnone
        cases outcome with
        | throws | iteratorThrows => cases hcontrol
        | streams =>
          exact
            ⟨control_of_executed?_none (hflags.congr rfl) hcontrol, hsound.soft,
              hsound.hard⟩
      · intro observation hwon hcompleted
        obtain ⟨stop, hstop, hexecution⟩ := Option.map_eq_some_iff.mp hwon
        obtain rfl := ExecutionRace.stop.inj hexecution
        have hsettled := execution_of_executed? hstop
        cases outcome with
        | throws | iteratorThrows =>
          obtain rfl := ExecutionState.settled.inj hsettled
          simp [emptyObservation] at hcompleted
        | streams => cases hsettled
  · cases hstep

theorem Sound.streams {item : StreamItem} (h : Sound input past s)
    (hstep : lifecycleStep input s (.streams item) = some t) :
    SoundAt (past ++ [.streams item]) t t.phase := by
  obtain ⟨hflags, hsound⟩ := h
  simp only [lifecycleStep, Option.ite_none_right_eq_some] at hstep
  obtain ⟨_, hstep⟩ := hstep
  split at hstep
  · cases hstep
    exact (hsound.later _ (by simp)).congr rfl
  · next observation hobservation =>
      cases hstep
      have hclean : s.controlAborted = false → s.softFired = false → s.hardFired = false →
          observation.terminalState = .completed →
          CleanExit (past ++ [.streams item]) := by
        intro hcontrol hsoft hhard hcompleted
        obtain rfl := exit_of_completed hobservation hcompleted
        exact
          ⟨past, [], rfl, hflags.control hcontrol, hflags.soft hsoft, hflags.hard hhard⟩
      have hoffered :=
        soundAt_offerExecution hclean (hsound.later (.streams item) (by simp))
      split
      · next hclosed =>
          have hclosing :=
            soundAt_offerClosing (.settled ()) hoffered
              (fun _ => ⟨hclosed, observation, rfl⟩)
          exact hclosing.congr rfl
      · exact hoffered

theorem Sound.handleSettles {closed : Bool} (h : Sound input past s)
    (hstep : lifecycleStep input s (.handleSettles closed) = some t) :
    SoundAt (past ++ [.handleSettles closed]) t t.phase := by
  obtain ⟨_, hsound⟩ := h
  simp only [lifecycleStep, Option.ite_none_right_eq_some] at hstep
  obtain ⟨hopened, hstep⟩ := hstep
  have hhandle := soundAt_handle (if closed = true then .closed else .rejected)
    hopened (hsound.later (.handleSettles closed) (by simp))
  split at hstep
  · next outcome houtcome =>
      cases hstep
      have hclosing :=
        soundAt_offerClosing outcome hhandle
          (fun hsettled => streamClosed_of_closed? (hsettled ▸ houtcome))
      exact hclosing.congr rfl
  · cases hstep
    exact hhandle

theorem Sound.destroyEnds {outcome : Bounded SandboxDestroyResult} (h : Sound input past s)
    (hstep : lifecycleStep input s (.destroyEnds outcome) = some t) :
    SoundAt (past ++ [.destroyEnds outcome]) t t.phase := by
  obtain ⟨_, hsound⟩ := h
  simp only [lifecycleStep] at hstep
  split at hstep
  · next hphase =>
      have hlater := hsound.later (.destroyEnds outcome) (by simp)
      rw [hphase] at hlater
      cases hstep
      refine ⟨hlater.1, ?_⟩
      rintro _ ⟨⟩
      simp
  · next hphase =>
      have hlater := hsound.later (.destroyEnds outcome) (by simp)
      rw [hphase] at hlater
      cases hstep
      refine ⟨hlater.1, hlater.2.1, ?_⟩
      rintro _ ⟨⟩
      simp
  · cases hstep

theorem soundAt_step (hstep : Fires (lifecycleStep input) s event t) (h : Sound input past s) :
    SoundAt (past ++ [event]) t t.phase := by
  have hsound := h.phase
  unfold Fires lifecycleStep at hstep
  cases event with
  | createSettles result =>
    obtain ⟨hpending, rfl⟩ := Option.ite_some_none_eq_some.mp hstep
    exact soundAt_offerCreate (by simp [hpending]) (hsound.later _ (by simp))
  | createTimeout =>
    obtain ⟨_, rfl⟩ := Option.ite_some_none_eq_some.mp hstep
    exact soundAt_offerCreate id (hsound.later _ (by simp))
  | controlAborts =>
    simp only at hstep
    split at hstep
    · obtain ⟨_, rfl⟩ := Option.ite_some_none_eq_some.mp hstep
      exact soundAt_offerControl (hsound.later _ (by simp))
    · cases hstep
  | executes outcome => exact h.executes hstep
  | streams item => exact h.streams hstep
  | handleSettles closed => exact h.handleSettles hstep
  | softDeadline =>
    obtain ⟨hruns, rfl⟩ := Option.ite_some_none_eq_some.mp hstep
    exact soundAt_offerSoft hruns.1 (hsound.later _ (by simp))
  | hardDeadline =>
    obtain ⟨hruns, rfl⟩ := Option.ite_some_none_eq_some.mp hstep
    exact soundAt_offerHard hruns.1 (hsound.later _ (by simp))
  | killEnds outcome =>
    simp only at hstep
    split at hstep
    · next hphase =>
        have hlater := hsound.later (.killEnds outcome) (by simp)
        rw [hphase] at hlater
        cases hstep
        exact hlater
    · cases hstep
  | destroyEnds outcome => exact h.destroyEnds hstep
  | closeTimesOut =>
    simp only at hstep
    split at hstep
    · next hphase =>
        rw [hphase] at hsound
        cases hstep
        refine ⟨fun hcompleted => ?_, fun hsafe => ?_, by simp, by simp⟩
        · exact ⟨(hsound.1 hcompleted).1.later _, (hsound.1 hcompleted).2⟩
        · exact (hsound.2.1 hsafe).later _
    · cases hstep
  | resumes => exact soundAt_resume hstep (hsound.later _ (by simp))
  | lateCleanup =>
    simp only at hstep
    split at hstep
    · cases hstep
      exact (hsound.later _ (by simp)).congr rfl
    · cases hstep
  | recordSettles persisted =>
    simp only at hstep
    split at hstep
    · next hphase =>
        have hlater := hsound.later (.recordSettles persisted) (by simp)
        rw [hphase] at hlater
        cases hstep
        exact ⟨hlater.releaseSafe, hlater.completed⟩
    · cases hstep

theorem sound_initialState (input : RunSandboxTerminalLifecycleInput) :
    Sound input [] (initialState input) := by
  unfold initialState
  split
  · exact ⟨⟨by simp, by simp, by simp, by simp⟩, trivial⟩
  · split
    · next hcontrol _ =>
        refine ⟨⟨by simp, by simp [hcontrol], by simp, by simp⟩, ?_, ?_⟩
        · exact fun _ => Or.inl rfl
        · exact decided_of_ne (controlTerminalState_ne_completed _)
    · exact ⟨⟨by simp, by simp, by simp, by simp⟩, rfl, rfl, rfl, rfl, by simp [InGrace]⟩

theorem sound_run {events : List LifecycleEvent}
    (hrun : Run (Fires (lifecycleStep input)) (initialState input) events s) :
    Sound input events s :=
  hrun.history
    (fun _ _ _ _ hstep h => ⟨flagsAgree_step hstep h.flags, soundAt_step hstep h⟩)
    (sound_initialState input)

theorem recorded_of_mem (h : Ledger input s) (hmem : record ∈ s.records) :
    s.phase = .recording record ∨ ∃ persisted, s.phase = .returned record persisted := by
  unfold Ledger LedgerAt at h
  cases hphase : s.phase <;>
    simp only [hphase, untouched_iff, inHand_iff, handedOver_iff, recorded_iff] at h <;>
    grind

/--
Soundness of terminal records over all orders of events.  A record that calls
the release safe was written without any create, or after a destroy of the
sandbox has reported it gone; and if an execution had been started, its stream
was closed and the execution settled before the grace period passed.  A record
that calls the run completed was written after an exit with code zero that no
aborted control and no deadline preceded, and no kill was ever requested.
-/
theorem terminalRecord_sound {input : RunSandboxTerminalLifecycleInput}
    {events : List LifecycleEvent} {s : LifecycleState}
    (hrun : Run (Fires (lifecycleStep input)) (initialState input) events s) :
    ∀ record, record ∈ s.records →
      (record.cleanup.releaseSafe = true →
        s.create = .notCalled ∨
          DestroyConfirmed events ∧
            (s.handle ≠ .none → StreamClosed s ∧ InGrace events)) ∧
      (record.terminalState = .completed →
        CleanExit events ∧ s.killCalls = []) := by
  intro record hmem
  have hledger : Ledger input s := hrun.preserves ledger_step (ledger_initialState input)
  have hsound := (sound_run hrun).phase
  rcases recorded_of_mem hledger hmem with hphase | ⟨persisted, hphase⟩
  · rw [hphase] at hsound
    exact ⟨hsound.releaseSafe, hsound.completed⟩
  · rw [hphase] at hsound
    exact ⟨hsound.releaseSafe, hsound.completed⟩

/-- A run that prints, exits with code zero, and whose sandbox is destroyed in time. -/
def completedEvents : List LifecycleEvent :=
  [.createSettles (some exampleLease), .resumes, .executes .streams,
    .streams (.output .stdout "done"), .streams (.exit 0), .resumes,
    .destroyEnds (.settled .destroyed), .resumes, .handleSettles true, .resumes]

/-- The record of that run is completed and safe, and its claims hold. -/
theorem terminalRecord_sound_completed :
    ∃ s record,
      Run (Fires (lifecycleStep exampleInput)) (initialState exampleInput)
        completedEvents s ∧
      record ∈ s.records ∧ DestroyConfirmed completedEvents ∧ CleanExit completedEvents := by
  have hend :
      (fire (lifecycleStep exampleInput) (initialState exampleInput) completedEvents).map
        (fun s =>
          (s.create, s.records.map fun record =>
            (record.cleanup.releaseSafe, record.terminalState))) =
        some (.settled (some exampleLease), [(true, .completed)]) := by
    decide
  obtain ⟨s, hs, hresult⟩ := Option.map_eq_some_iff.mp hend
  obtain ⟨hcreate, hrecords⟩ := Prod.ext_iff.mp hresult
  obtain ⟨record, rest, heq, hrecord, _⟩ := List.map_eq_cons_iff.mp hrecords
  obtain ⟨hsafe, hstate⟩ := Prod.ext_iff.mp hrecord
  have hrun := run_fires_iff.mpr hs
  have hmem : record ∈ s.records := by simp [heq]
  obtain ⟨hrelease, hcompleted⟩ := terminalRecord_sound hrun record hmem
  refine ⟨s, record, hrun, hmem, ?_, (hcompleted hstate).1⟩
  rcases hrelease hsafe with hnone | ⟨hconfirmed, _⟩
  · rw [show s.create = .settled (some exampleLease) from hcreate] at hnone
    cases hnone
  · exact hconfirmed

end Sound

end Aiphabee.TerminalLifecycle
