import Aiphabee.ProductControl.AdminAction

/-!
# Repeating an admin action

An admin event keeps its action, and once it is final it keeps its outcome.  An
action that is repeated after an execution recorded its outcome therefore calls
nothing.  It returns the recorded result exactly when the admin and the target
still pass the checks that come before the event is read, and when the answer
of the lifecycle service was one whose retryability the event tells.
-/

namespace Aiphabee.ProductControl

open ResearchAgent
open KeyedTable

variable {authority : ResearchAgentAdminAuthority}
variable {input : ResearchAgentAdminActionInput}
variable {event : ResearchAgentAdminEvent}

def KeepsEvent (before after : ResearchAgentAdminEvent) : Prop :=
  after = { before with status := after.status, errorCode := after.errorCode } ∧
    (before.status ≠ .started → after = before)

def EventsKept (before after : ControlStore) : Prop :=
  ∀ workspaceId requestId event,
    before.readAdminEvent workspaceId requestId = some event →
      ∃ event', after.readAdminEvent workspaceId requestId = some event' ∧
        KeepsEvent event event'

structure ControlDependencies.KeepEvents (dependencies : ControlDependencies) : Prop where
  kill : ∀ s request, EventsKept s (dependencies.kill s request).2
  lifecycle : ∀ s request, EventsKept s (dependencies.lifecycle s request).2

theorem KeepsEvent.rfl {event : ResearchAgentAdminEvent} : KeepsEvent event event :=
  ⟨Eq.refl _, fun _ => Eq.refl _⟩

theorem KeepsEvent.trans {first second third : ResearchAgentAdminEvent}
    (h : KeepsEvent first second) (h' : KeepsEvent second third) : KeepsEvent first third := by
  refine ⟨?_, fun hfinal => ?_⟩
  · rw [h'.1, h.1]
  · have hsecond := h.2 hfinal
    rw [h'.2 (by rw [hsecond]; exact hfinal), hsecond]

theorem EventsKept.rfl {s : ControlStore} : EventsKept s s :=
  fun _ _ event h => ⟨event, h, KeepsEvent.rfl⟩

theorem EventsKept.trans {first second third : ControlStore} (h : EventsKept first second)
    (h' : EventsKept second third) : EventsKept first third := by
  intro workspaceId requestId event hevent
  obtain ⟨event', hevent', hkeeps⟩ := h _ _ _ hevent
  obtain ⟨event'', hevent'', hkeeps'⟩ := h' _ _ _ hevent'
  exact ⟨event'', hevent'', hkeeps.trans hkeeps'⟩

theorem EventsKept.of_events {before after : ControlStore}
    (h : after.adminEvents = before.adminEvents) : EventsKept before after := by
  intro workspaceId requestId event hevent
  refine ⟨event, ?_, KeepsEvent.rfl⟩
  rw [ControlStore.readAdminEvent, h]
  exact hevent

section Statements

variable {s begun performed finalized : ControlStore}

theorem beginAdminAction_eventsKept :
    EventsKept s (s.beginAdminAction authority input).2 := by
  have hstore : (s.beginAdminAction authority input).2 =
      { s with
        adminEvents :=
          insertIfAbsent ResearchAgentAdminEvent.key s.adminEvents
            (startedEvent authority input) } := by
    rw [ControlStore.beginAdminAction]
    split
    · rfl
    · split <;> rfl
  intro workspaceId requestId event hevent
  rw [hstore]
  exact ⟨event, lookup_insertIfAbsent_of_some hevent, KeepsEvent.rfl⟩

theorem beginAdminAction_eq_ok {replayed : Bool}
    (h : s.beginAdminAction authority input = (.ok (event, replayed), begun)) :
    begun.readAdminEvent input.workspaceId input.requestId = some event ∧
      isEventOf authority input event ∧ replayed = decide (event.status ≠ .started) := by
  rw [ControlStore.beginAdminAction] at h
  split at h
  next => cases h
  next found hfound =>
    split at h
    next hof =>
      obtain ⟨hresult, rfl⟩ := Prod.mk.inj h
      obtain ⟨rfl, rfl⟩ := Prod.mk.inj (Except.ok.inj hresult)
      exact ⟨hfound, hof, rfl⟩
    next => cases h

theorem beginAdminAction_of_event
    (h : s.readAdminEvent input.workspaceId input.requestId = some event) :
    s.beginAdminAction authority input =
      (if isEventOf authority input event then
        .ok (event, event.status ≠ .started)
      else
        .error
          (.input .ADMIN_ACTION_REPLAY_MISMATCH
            "admin request ID is already bound to a different action"), s) := by
  have hsame : insertIfAbsent ResearchAgentAdminEvent.key s.adminEvents
      (startedEvent authority input) = s.adminEvents := by
    have hlookup : lookup ResearchAgentAdminEvent.key s.adminEvents
        (ResearchAgentAdminEvent.key (startedEvent authority input)) = some event := h
    rw [insertIfAbsent, hlookup]
    rfl
  rw [ControlStore.beginAdminAction, hsame]
  simp only [h]
  split <;> rfl

variable {workspaceId requestId : String}
variable {outcome : AdminOutcome}

theorem readAdminEvent_recordOutcome (workspaceId' requestId' : String) :
    (s.recordOutcome workspaceId requestId outcome).readAdminEvent workspaceId' requestId' =
      (s.readAdminEvent workspaceId' requestId').map fun event =>
        if event.key = (workspaceId, requestId) ∧ event.status = .started then
          event.withOutcome outcome
        else
          event :=
  lookup_modify fun _ => rfl

theorem finalizeAdminAction_store :
    (s.finalizeAdminAction workspaceId requestId outcome).2 =
      s.recordOutcome workspaceId requestId outcome := by
  rw [ControlStore.finalizeAdminAction]
  split <;> rfl

theorem recordOutcome_eventsKept :
    EventsKept s (s.recordOutcome workspaceId requestId outcome) := by
  intro workspaceId' requestId' event hevent
  rw [readAdminEvent_recordOutcome, hevent, Option.map_some]
  refine ⟨_, rfl, ?_⟩
  split
  next hstarted => exact ⟨rfl, fun hfinal => absurd hstarted.2 hfinal⟩
  next => exact KeepsEvent.rfl

theorem finalizeAdminAction_of_started (outcome : AdminOutcome)
    (hevent : s.readAdminEvent workspaceId requestId = some event)
    (hstarted : event.status = .started) :
    s.finalizeAdminAction workspaceId requestId outcome =
        (.ok (event.withOutcome outcome), s.recordOutcome workspaceId requestId outcome) ∧
      (s.recordOutcome workspaceId requestId outcome).readAdminEvent workspaceId requestId =
        some (event.withOutcome outcome) := by
  have hread : (s.recordOutcome workspaceId requestId outcome).readAdminEvent workspaceId
      requestId = some (event.withOutcome outcome) := by
    rw [readAdminEvent_recordOutcome, hevent, Option.map_some, if_pos]
    exact ⟨lookup_key hevent, hstarted⟩
  refine ⟨?_, hread⟩
  simp only [ControlStore.finalizeAdminAction, hread]

end Statements

section Executions

variable {dependencies : ControlDependencies}
variable {s : ControlStore}

theorem performAdminAction_eventsKept (h : dependencies.KeepEvents) :
    EventsKept s (performAdminAction dependencies input s).2.2 := by
  simp only [performAdminAction]
  split
  · exact h.kill s _
  all_goals exact h.lifecycle s _

theorem executeBegun_eventsKept {replayed : Bool} (h : dependencies.KeepEvents) :
    EventsKept s (executeBegun dependencies input event replayed s).store := by
  rw [executeBegun]
  split
  · exact EventsKept.rfl
  · have hperformed : EventsKept s (performAdminAction dependencies input s).2.2 :=
      performAdminAction_eventsKept h
    refine hperformed.trans ?_
    dsimp only
    rw [finalizeAdminAction_store]
    exact recordOutcome_eventsKept

variable {error : ProductControlError}

theorem executeAdminAction_of_unauthorized (h : authorizeAdminAction input s = .error error) :
    executeAdminAction dependencies input s = { result := .error error, store := s } := by
  simp only [executeAdminAction, h]

/-- An action whose request is bound to another one. -/
theorem executeAdminAction_of_mismatch {begun : ControlStore}
    (hauthority : authorizeAdminAction input s = .ok authority)
    (hbegin : s.beginAdminAction authority input = (.error error, begun)) :
    executeAdminAction dependencies input s = { result := .error error, store := begun } := by
  simp only [executeAdminAction, hauthority, hbegin]

theorem executeAdminAction_of_begun {pair : ResearchAgentAdminEvent × Bool} {begun : ControlStore}
    (hauthority : authorizeAdminAction input s = .ok authority)
    (hbegin : s.beginAdminAction authority input = (.ok pair, begun)) :
    executeAdminAction dependencies input s =
      executeBegun dependencies input pair.1 pair.2 begun := by
  simp only [executeAdminAction, hauthority, hbegin]

theorem executeAdminAction_eventsKept (h : dependencies.KeepEvents) :
    EventsKept s (executeAdminAction dependencies input s).store := by
  cases hauthority : authorizeAdminAction input s with
  | error error =>
    rw [executeAdminAction_of_unauthorized hauthority]
    exact EventsKept.rfl
  | ok authority =>
    have hbegun : EventsKept s (s.beginAdminAction authority input).2 :=
      beginAdminAction_eventsKept
    rcases hbegin : s.beginAdminAction authority input with ⟨result, begun⟩
    rw [hbegin] at hbegun
    cases result with
    | error error =>
      rw [executeAdminAction_of_mismatch hauthority hbegin]
      exact hbegun
    | ok pair =>
      rw [executeAdminAction_of_begun hauthority hbegin]
      exact hbegun.trans (executeBegun_eventsKept h)

theorem executeBegun_recorded {replayed : Bool} (hkept : dependencies.KeepEvents)
    (hevent : s.readAdminEvent input.workspaceId input.requestId = some event)
    (h : (executeBegun dependencies input event replayed s).recorded = true) :
    event.status = .started ∧ ∃ call answer,
      (executeBegun dependencies input event replayed s).calls = [(call, answer)] ∧
      (executeBegun dependencies input event replayed s).result =
        .ok (adminResult (event.withOutcome (outcomeOf answer)) replayed
          (outcomeOf answer).retryable) ∧
      (executeBegun dependencies input event replayed s).store.readAdminEvent
          input.workspaceId input.requestId =
        some (event.withOutcome (outcomeOf answer)) := by
  rw [executeBegun] at h ⊢
  split at h
  next => cases h
  next hstarted =>
    rw [if_neg hstarted]
    have hperformed : EventsKept s (performAdminAction dependencies input s).2.2 :=
      performAdminAction_eventsKept hkept
    rcases hperform : performAdminAction dependencies input s with ⟨call, answer, performed⟩
    rw [hperform] at h hperformed
    dsimp only at h hperformed ⊢
    -- The event that the execution finds started is the one it began with.
    obtain ⟨event', hevent', hkeeps⟩ := hperformed _ _ _ hevent
    rw [hevent', Option.any_some, decide_eq_true_eq] at h
    have hsame : event'.withOutcome (outcomeOf answer) =
        event.withOutcome (outcomeOf answer) := by
      rw [hkeeps.1]
      rfl
    obtain ⟨hfinalize, hread⟩ :=
      finalizeAdminAction_of_started (outcomeOf answer) hevent' h
    rw [hsame] at hfinalize hread
    rw [hfinalize]
    exact ⟨not_not.mp hstarted, call, answer, rfl, rfl, hread⟩

theorem executeAdminAction_recorded (hkept : dependencies.KeepEvents)
    (h : (executeAdminAction dependencies input s).recorded = true) :
    ∃ authority event call answer,
      authorizeAdminAction input s = .ok authority ∧
      isEventOf authority input event ∧
      (executeAdminAction dependencies input s).calls = [(call, answer)] ∧
      (executeAdminAction dependencies input s).result =
        .ok (adminResult (event.withOutcome (outcomeOf answer)) false
          (outcomeOf answer).retryable) ∧
      (executeAdminAction dependencies input s).store.readAdminEvent input.workspaceId
          input.requestId =
        some (event.withOutcome (outcomeOf answer)) := by
  cases hauthority : authorizeAdminAction input s with
  | error error =>
    rw [executeAdminAction_of_unauthorized hauthority] at h
    cases h
  | ok authority =>
    rcases hbegin : s.beginAdminAction authority input with ⟨result, begun⟩
    cases result with
    | error error =>
      rw [executeAdminAction_of_mismatch hauthority hbegin] at h
      cases h
    | ok pair =>
      obtain ⟨event, replayed⟩ := pair
      obtain ⟨hevent, hof, hreplayed⟩ := beginAdminAction_eq_ok hbegin
      rw [executeAdminAction_of_begun hauthority hbegin] at h ⊢
      obtain ⟨hstarted, call, answer, hcalls, hresult, hread⟩ :=
        executeBegun_recorded hkept hevent h
      have hfalse : replayed = false := by
        rw [hreplayed, hstarted]
        rfl
      rw [hfalse] at hcalls hresult hread ⊢
      exact ⟨authority, event, call, answer, rfl, hof, hcalls, hresult, hread⟩

theorem executeAdminAction_of_final
    (hevent : s.readAdminEvent input.workspaceId input.requestId = some event)
    (hfinal : event.status ≠ .started) :
    executeAdminAction dependencies input s =
      { result := authorizeAdminAction input s >>= fun authority =>
          if isEventOf authority input event then
            .ok
              (adminResult event true
                (event.status = .failed ∧
                  event.errorCode = some "ADMIN_DEPENDENCY_RETRYABLE"))
          else
            .error
              (.input .ADMIN_ACTION_REPLAY_MISMATCH
                "admin request ID is already bound to a different action")
        store := s } := by
  cases hauthority : authorizeAdminAction input s with
  | error error => rw [executeAdminAction_of_unauthorized hauthority, Checks.error_bind]
  | ok authority =>
    rw [Checks.ok_bind]
    have hbegin : s.beginAdminAction authority input = _ := beginAdminAction_of_event hevent
    by_cases hof : isEventOf authority input event
    · rw [if_pos hof] at hbegin ⊢
      rw [executeAdminAction_of_begun hauthority hbegin, executeBegun, if_pos hfinal]
    · rw [if_neg hof] at hbegin ⊢
      rw [executeAdminAction_of_mismatch hauthority hbegin]

end Executions

/-- What may happen to the store: executions of admin actions, and changes of the other tables. -/
inductive ControlStep : ControlStore → ControlStore → Prop
  | execution
      (dependencies : ControlDependencies)
      (input : ResearchAgentAdminActionInput)
      (s : ControlStore)
      (hkept : dependencies.KeepEvents) :
      ControlStep s (executeAdminAction dependencies input s).store
  | otherTables
      (s s' : ControlStore)
      (hevents : s'.adminEvents = s.adminEvents) :
      ControlStep s s'

theorem controlStep_eventsKept {s s' : ControlStore} (h : ControlStep s s') : EventsKept s s' := by
  cases h with
  | execution dependencies input s hkept => exact executeAdminAction_eventsKept hkept
  | otherTables s s' hevents => exact EventsKept.of_events hevents

theorem run_eventsKept {s s' : ControlStore} (h : Relation.ReflTransGen ControlStep s s') :
    EventsKept s s' := by
  induction h with
  | refl => exact EventsKept.rfl
  | tail _ hstep ih => exact ih.trans (controlStep_eventsKept hstep)

def ReturnsRecorded (first second : AdminExecution) : Prop :=
  ∃ result, first.result = .ok result ∧ second.result = .ok { result with replayed := true }

/--
The event tells whether an answer is retryable: it is a success, an exception, or
a failure of the lifecycle service that is retryable exactly when it has the
code of an exception.
-/
def TellsRetryable : AdminAnswer → Prop
  | .lifecycle result =>
    result.outcome ≠ .succeeded →
      (result.retryable = true ↔
        result.outcome ≠ .denied ∧ result.errorCode = some "ADMIN_DEPENDENCY_RETRYABLE")
  | _ => True

/--
What a repeated action needs: the same admin has authority, the target is
allowed, and the event tells whether the answers to the first execution are
retryable.
-/
structure Repeatable
    (input : ResearchAgentAdminActionInput)
    (before later : ControlStore)
    (answers : List AdminAnswer) : Prop where
  authority :
    (later.readAdminAuthority input.actorAuthSubject input.workspaceId).map (·.actorAccountId) =
      (before.readAdminAuthority input.actorAuthSubject input.workspaceId).map (·.actorAccountId)
  target :
    targetAllowed input.action
      (later.readAdminTarget input.workspaceId input.targetAccountId) = true
  answers : ∀ answer ∈ answers, TellsRetryable answer

theorem outcomeOf_status (answer : AdminAnswer) : (outcomeOf answer).status ≠ .started := by
  cases answer with
  | killed alreadyTerminal => exact ResearchAgentAdminEventStatus.noConfusion
  | thrown => exact ResearchAgentAdminEventStatus.noConfusion
  | lifecycle result =>
    rw [outcomeOf]
    split
    · dsimp only
      split <;> exact ResearchAgentAdminEventStatus.noConfusion
    · exact ResearchAgentAdminEventStatus.noConfusion

theorem tellsRetryable_iff (answer : AdminAnswer) :
    TellsRetryable answer ↔
      (outcomeOf answer).retryable =
        decide ((outcomeOf answer).status = .failed ∧
          (outcomeOf answer).errorCode = some "ADMIN_DEPENDENCY_RETRYABLE") := by
  cases answer with
  | killed alreadyTerminal => exact ⟨fun _ => rfl, fun _ => trivial⟩
  | thrown => exact ⟨fun _ => rfl, fun _ => trivial⟩
  | lifecycle result =>
    have hcode : result.errorCode.getD "ADMIN_LIFECYCLE_FAILED" =
        "ADMIN_DEPENDENCY_RETRYABLE" ↔
          result.errorCode = some "ADMIN_DEPENDENCY_RETRYABLE" := by
      cases result.errorCode <;> simp
    rw [TellsRetryable, outcomeOf]
    by_cases hsucceeded : result.outcome = .succeeded
    · simp [hsucceeded]
    · by_cases hdenied : result.outcome = .denied
      · simp [hdenied]
      · cases result.retryable <;> simp [hsucceeded, hdenied, hcode]

theorem authorizeAdminAction_eq_ok {input : ResearchAgentAdminActionInput} {s : ControlStore}
    {authority : ResearchAgentAdminAuthority} :
    authorizeAdminAction input s = .ok authority ↔
      validateAdminInput input = .ok () ∧
        s.readAdminAuthority input.actorAuthSubject input.workspaceId = some authority ∧
        targetAllowed input.action
          (s.readAdminTarget input.workspaceId input.targetAccountId) = true := by
  simp only [authorizeAdminAction, Checks.bind_eq_ok, Checks.require_eq_ok, Checks.ensure_eq_ok]
  constructor
  · rintro ⟨_, hvalid, found, hfound, _, htarget, hresult⟩
    obtain rfl := Except.ok.inj hresult
    exact ⟨hvalid, hfound, htarget⟩
  · rintro ⟨hvalid, hfound, htarget⟩
    exact ⟨(), hvalid, authority, hfound, (), htarget, rfl⟩

/--
After an execution recorded the outcome of an action, the action is repeated
without a call and without a change of the store; and it returns the recorded
result exactly when it is repeatable.
-/
theorem adminAction_replay_iff {input : ResearchAgentAdminActionInput}
    {dependencies laterDependencies : ControlDependencies} {before later : ControlStore}
    (hkept : dependencies.KeepEvents)
    (hrecorded : (executeAdminAction dependencies input before).recorded = true)
    (hlater : Relation.ReflTransGen ControlStep
      (executeAdminAction dependencies input before).store later) :
    (executeAdminAction laterDependencies input later).calls = [] ∧
      (executeAdminAction laterDependencies input later).store = later ∧
      (ReturnsRecorded (executeAdminAction dependencies input before)
          (executeAdminAction laterDependencies input later) ↔
        Repeatable input before later
          ((executeAdminAction dependencies input before).calls.map Prod.snd)) := by
  obtain ⟨authority, event, call, answer, hauthorized, hof, hcalls, hresult, hread⟩ :=
    executeAdminAction_recorded hkept hrecorded
  have hfinal : (event.withOutcome (outcomeOf answer)).status ≠ .started :=
    outcomeOf_status answer
  obtain ⟨event', hevent', hkeeps⟩ := run_eventsKept hlater _ _ _ hread
  obtain rfl := hkeeps.2 hfinal
  rw [executeAdminAction_of_final hevent' hfinal]
  refine ⟨rfl, rfl, ?_⟩
  obtain ⟨hvalid, hbefore, -⟩ := authorizeAdminAction_eq_ok.mp hauthorized
  rw [ReturnsRecorded, hresult, hcalls]
  constructor
  · rintro ⟨result, hfirst, hsecond⟩
    obtain rfl := Except.ok.inj hfirst
    obtain ⟨authority', hauthorized', hif⟩ := Checks.bind_eq_ok.mp hsecond
    obtain ⟨-, hauthority', htarget'⟩ := authorizeAdminAction_eq_ok.mp hauthorized'
    split at hif
    next hof' =>
      have hretryable := congrArg ResearchAgentAdminActionResult.retryable (Except.ok.inj hif)
      refine ⟨?_, htarget', ?_⟩
      · rw [hauthority', hbefore, Option.map_some, Option.map_some, ← hof'.1]
        exact congrArg some hof.1
      · intro other hother
        obtain rfl := List.mem_singleton.mp hother
        exact (tellsRetryable_iff other).mpr hretryable.symm
    next => cases hif
  · intro h
    have hactor := h.authority
    rw [hbefore, Option.map_some, Option.map_eq_some_iff] at hactor
    obtain ⟨authority', hauthority', hsame⟩ := hactor
    have hauthorized' : authorizeAdminAction input later = .ok authority' :=
      authorizeAdminAction_eq_ok.mpr ⟨hvalid, hauthority', h.target⟩
    have hof' : isEventOf authority' input (event.withOutcome (outcomeOf answer)) :=
      ⟨hof.1.trans hsame.symm, hof.2⟩
    have hretryable := (tellsRetryable_iff answer).mp
      (h.answers answer (List.mem_singleton.mpr rfl))
    refine ⟨_, rfl, ?_⟩
    rw [hauthorized', Checks.ok_bind, if_pos hof', hretryable]
    rfl

def activeStore : ControlStore :=
  { now := 0
    accounts :=
      [{ accountId := "account-admin"
         authSubject := some "better-auth:00000000-0000-4000-8000-000000000000"
         status := .active },
       { accountId := "account-member", authSubject := none, status := .closed }]
    memberships :=
      [{ accountId := "account-admin"
         workspaceId := "workspace"
         role := .admin
         status := .active
         validFrom := 0
         validTo := none }]
    profiles :=
      [{ profileId := "profile"
         workspaceId := "workspace"
         accountId := "account-member"
         externalIdentity := "identity"
         lifecycleStatus := .active }]
    adminEvents := [] }

def memberInput (action : ResearchAgentAdminAction) : ResearchAgentAdminActionInput :=
  { action := action
    actorAuthSubject := "better-auth:00000000-0000-4000-8000-000000000000"
    reason := "reason"
    requestId := "request"
    runId := if action = .kill then some "run" else none
    targetAccountId := "account-member"
    workspaceId := "workspace" }

def lifecycleEnding (status : ResearchAgentLifecycleStatus)
    (outcome : ResearchAgentLifecycleOutcome) (errorCode : Option String) (retryable : Bool) :
    ControlDependencies where
  kill s _ := (some false, s)
  lifecycle s request :=
    (some
      { desiredState := desiredStateForIntent request.intent
        errorCode := errorCode
        lifecycleStatus := status
        outcome := outcome
        profileId := "profile"
        requestId := request.requestId
        retryable := retryable },
      { s with profiles := s.profiles.map ({ · with lifecycleStatus := status }) })

theorem lifecycleEnding_keepEvents (status : ResearchAgentLifecycleStatus)
    (outcome : ResearchAgentLifecycleOutcome) (errorCode : Option String) (retryable : Bool) :
    (lifecycleEnding status outcome errorCode retryable).KeepEvents where
  kill _ _ := EventsKept.rfl
  lifecycle _ _ := EventsKept.of_events rfl

def executeTwice (dependencies : ControlDependencies) (input : ResearchAgentAdminActionInput)
    (s : ControlStore) : AdminExecution × AdminExecution :=
  let first := executeAdminAction dependencies input s
  (first, executeAdminAction dependencies input first.store)

/-- A kill is repeated as recorded. -/
theorem adminAction_replay_kill :
    ReturnsRecorded
      (executeTwice (lifecycleEnding .active .succeeded none false) (memberInput .kill)
        activeStore).1
      (executeTwice (lifecycleEnding .active .succeeded none false) (memberInput .kill)
        activeStore).2 := by
  have hkept := lifecycleEnding_keepEvents .active .succeeded none false
  refine (adminAction_replay_iff hkept (by decide +kernel)
    Relation.ReflTransGen.refl).2.2.mpr ⟨by decide +kernel, by decide +kernel, ?_⟩
  intro answer hanswer
  have hkilled : answer = .killed false := by
    have hcalls : (executeAdminAction (lifecycleEnding .active .succeeded none false)
        (memberInput .kill) activeStore).calls.map Prod.snd = [.killed false] := by
      decide +kernel
    rw [hcalls] at hanswer
    exact List.mem_singleton.mp hanswer
  rw [hkilled]
  trivial

def deleteTwice : AdminExecution × AdminExecution :=
  executeTwice (lifecycleEnding .deleted .succeeded none false) (memberInput .delete) activeStore

def failedDisableTwice : AdminExecution × AdminExecution :=
  executeTwice
    (lifecycleEnding .blockedRetryable .retryableFailure (some "FASTCLAW_UNAVAILABLE") true)
    (memberInput .disable) activeStore

/--
A delete that succeeded is refused when it is repeated, because its target has no
profile any more; a failure that is retryable is not retryable when it is
repeated.
-/
theorem adminAction_not_replayed :
    (deleteTwice.1.recorded = true ∧ ¬ReturnsRecorded deleteTwice.1 deleteTwice.2) ∧
      failedDisableTwice.1.recorded = true ∧
        ¬ReturnsRecorded failedDisableTwice.1 failedDisableTwice.2 := by
  refine ⟨⟨by decide +kernel, ?_⟩, by decide +kernel, ?_⟩
  · rintro ⟨result, -, hsecond⟩
    have hdenied : deleteTwice.2.result =
        .error (.input .ADMIN_TARGET_INVALID
          "admin target must be a current member for retry or own an exact workspace profile for control") := by
      decide +kernel
    rw [hdenied] at hsecond
    cases hsecond
  · rintro ⟨result, hfirst, hsecond⟩
    have hretryable : failedDisableTwice.1.result.toOption.map (·.retryable) = some true := by
      decide +kernel
    have hreplayed : failedDisableTwice.2.result.toOption.map (·.retryable) = some false := by
      decide +kernel
    rw [hfirst] at hretryable
    rw [hsecond] at hreplayed
    exact absurd (hretryable.symm.trans hreplayed) (by decide)

end Aiphabee.ProductControl
