import Aiphabee.Sandbox.LeaseRegistryInvariant

/-!
# Concurrent destroys of one lease

`CloudflareSandboxBackend.destroy` reserves the destroy in the lease registry,
destroys the provider sandbox under a timer, and then finishes the destroy in
the registry, or aborts it when the provider refused and the reservation was
fresh.  Any number of such calls may run on one lease at the same time; they
interleave at every await.

A world holds the registry, one small state machine for every call, and the
fact that some provider destroy of the lease has succeeded.  A registry call
may be answered, may take effect although its answer is lost, or may be lost
altogether.  A provider destroy that outlives its timer still completes later.

The registry keeps no owner of a destroy, so one call can abort the destroy
another call has already carried out.  `destroy_final_iff` says exactly when a
lease whose provider was destroyed is never seen ready again.
-/

namespace Aiphabee.BackendDestroy

open Transition
open LeaseRegistry

inductive SandboxDestroyResult
  | destroyed
  | alreadyDestroyed
  | failed (retryable : Bool)
deriving DecidableEq

/-- Where a call of `destroy` stands. -/
inductive DestroyPhase
  | idle
  | beginning
  | destroying (recovery : DestroyRecovery)
  | finishing
  | aborting
  | returned (result : SandboxDestroyResult)
deriving DecidableEq

/-- Where the provider call of a `destroy` stands, whether or not the call still waits for it. -/
inductive ProviderCall
  | notStarted
  | pending
  | settled
deriving DecidableEq

/-- One call of `destroy`. -/
structure DestroyCall where
  phase : DestroyPhase := .idle
  provider : ProviderCall := .notStarted

structure DestroyWorld where
  registry : Option SandboxLeaseRecord
  calls : Nat → DestroyCall
  providerDestroyed : Bool

/-- What may happen next; `delivered` says whether an applied request was also answered. -/
inductive DestroyEvent
  | start (call : Nat)
  | beginApplied (call : Nat) (delivered : Bool)
  | beginLost (call : Nat)
  | providerSucceeds (call : Nat)
  | providerFails (call : Nat)
  | providerTimesOut (call : Nat)
  | finishApplied (call : Nat) (delivered : Bool)
  | finishLost (call : Nat)
  | abortApplied (call : Nat) (delivered : Bool)
  | abortLost (call : Nat)
  | otherRequest (request : LeaseRegistryRequest)

def DestroyWorld.setCall (w : DestroyWorld) (i : Nat) (call : DestroyCall) : DestroyWorld :=
  { w with calls := Function.update w.calls i call }

@[simp] theorem setCall_calls (w : DestroyWorld) (i : Nat) (call : DestroyCall) :
    (w.setCall i call).calls = Function.update w.calls i call := by
  rfl

def destroyRequest (lease : SandboxLease) (path : LeaseRegistryPath) : LeaseRegistryRequest :=
  { path := path, body := { lease := some lease } }

/-- How a call goes on after the registry answered its `/destroy/begin`. -/
def afterBegin : LeaseRegistryResponse → DestroyCall
  | .alreadyDestroyed => { phase := .returned .alreadyDestroyed }
  | .destroyReserved _ recovery =>
    { phase := .destroying recovery, provider := .pending }
  | _ => { phase := .returned (.failed false) }

def afterProviderFailure : DestroyRecovery → DestroyPhase
  | .fresh => .aborting
  | .unknown => .returned (.failed true)

/-- What a call returns after its `/destroy/finish`. -/
def afterFinish : LeaseRegistryResponse → SandboxDestroyResult
  | .noContent => .destroyed
  | _ => .failed true

/-- Requests of other parties: they neither reserve the lease anew nor destroy it. -/
def otherPath : LeaseRegistryPath → Bool
  | .reserve | .destroyBegin | .destroyFinish | .destroyAbort => false
  | _ => true

def destroyStep (lease : SandboxLease) (w : DestroyWorld) :
    DestroyEvent → Option DestroyWorld
  | .start i =>
    if (w.calls i).phase = .idle then
      some (w.setCall i { phase := .beginning })
    else
      none
  | .beginApplied i delivered =>
    if (w.calls i).phase = .beginning then
      let reply :=
        handleSandboxLeaseRegistryRequest w.registry (destroyRequest lease .destroyBegin)
      some
        { w.setCall i
            (if delivered = true then afterBegin reply.2
             else { phase := .returned (.failed true) }) with
          registry := reply.1 }
    else
      none
  | .beginLost i =>
    if (w.calls i).phase = .beginning then
      some (w.setCall i { phase := .returned (.failed true) })
    else
      none
  | .providerSucceeds i =>
    if (w.calls i).provider = .pending then
      let phase :=
        match (w.calls i).phase with
        | .destroying _ => .finishing
        | phase => phase
      some
        { w.setCall i { phase := phase, provider := .settled } with
          providerDestroyed := true }
    else
      none
  | .providerFails i =>
    if (w.calls i).provider = .pending then
      let phase :=
        match (w.calls i).phase with
        | .destroying recovery => afterProviderFailure recovery
        | phase => phase
      some (w.setCall i { phase := phase, provider := .settled })
    else
      none
  | .providerTimesOut i =>
    match (w.calls i).phase with
    | .destroying _ =>
      some
        (w.setCall i
          { phase := .returned (.failed true), provider := (w.calls i).provider })
    | _ => none
  | .finishApplied i delivered =>
    if (w.calls i).phase = .finishing then
      let reply :=
        handleSandboxLeaseRegistryRequest w.registry (destroyRequest lease .destroyFinish)
      some
        { w.setCall i
            { phase :=
                .returned (if delivered = true then afterFinish reply.2 else .failed true)
              provider := (w.calls i).provider } with
          registry := reply.1 }
    else
      none
  | .finishLost i =>
    if (w.calls i).phase = .finishing then
      some
        (w.setCall i
          { phase := .returned (.failed true), provider := (w.calls i).provider })
    else
      none
  | .abortApplied i _ =>
    -- The result of an abort is the same whether or not the registry answers it.
    if (w.calls i).phase = .aborting then
      some
        { w.setCall i
            { phase := .returned (.failed true), provider := (w.calls i).provider } with
          registry :=
            (handleSandboxLeaseRegistryRequest w.registry
              (destroyRequest lease .destroyAbort)).1 }
    else
      none
  | .abortLost i =>
    if (w.calls i).phase = .aborting then
      some
        (w.setCall i
          { phase := .returned (.failed true), provider := (w.calls i).provider })
    else
      none
  | .otherRequest request =>
    if otherPath request.path = true then
      some { w with registry := (handleSandboxLeaseRegistryRequest w.registry request).1 }
    else
      none

variable (registry : Option SandboxLeaseRecord)

def initialWorld : DestroyWorld where
  registry := registry
  calls := fun _ => {}
  providerDestroyed := false

section Registry

def NotStatus (status : LeaseStatus) (registry : Option SandboxLeaseRecord) : Prop :=
  ∀ r, registry = some r → r.status ≠ status

/-- The registry would put a destroy of this lease back to ready if it were aborted now. -/
def AbortReopens (lease : SandboxLease) (registry : Option SandboxLeaseRecord) : Prop :=
  ∃ r, registry = some r ∧ recordMatchesLease r lease = true ∧
    r.status = .destroying ∧ r.destroyResumeStatus = some .ready

variable {registry : Option SandboxLeaseRecord}
variable {request : LeaseRegistryRequest}

theorem notPending_handle (hpath : request.path ≠ .reserve) (h : NotStatus .pending registry) :
    NotStatus .pending (handleSandboxLeaseRegistryRequest registry request).1 := by
  intro r' hr' hpending
  rcases handle_cases registry request hpath with hsame | ⟨r, lease, rfl, _, _, htrans⟩
  · exact h r' (hsame ▸ hr') hpending
  · rw [htrans] at hr'
    exact h r rfl ((leaseTransition_status hr').2 hpending)

theorem notReady_handle (hpath : request.path ≠ .reserve) (hpending : NotStatus .pending registry)
    (h : NotStatus .ready registry)
    (habort : request.path = .destroyAbort → ∀ lease, request.body.lease = some lease →
      ¬ AbortReopens lease registry) :
    NotStatus .ready (handleSandboxLeaseRegistryRequest registry request).1 := by
  intro r' hr' hready
  rcases handle_cases registry request hpath with
    hsame | ⟨r, lease, rfl, hlease, hmatch, htrans⟩
  · exact h r' (hsame ▸ hr') hready
  · rw [htrans] at hr'
    rcases (leaseTransition_status hr').1 hready with hr | ⟨_, hr⟩ | ⟨hpath', hr, hresume⟩
    · exact h r rfl hr
    · exact hpending r rfl hr
    · exact habort hpath' lease hlease ⟨r, rfl, hmatch, hr, hresume⟩

theorem abortReopens_ready {lease : SandboxLease} (h : AbortReopens lease registry) :
    ¬ NotStatus .ready
      (handleSandboxLeaseRegistryRequest registry
        (destroyRequest lease .destroyAbort)).1 := by
  obtain ⟨r, rfl, hmatch, hstatus, hresume⟩ := h
  intro hnot
  refine hnot { r with destroyResumeStatus := none, status := .ready } ?_ rfl
  simp [handleSandboxLeaseRegistryRequest, destroyRequest, hmatch, leaseTransition,
    hstatus, hresume, ResumeStatus.toStatus]

theorem destroyReserved_notPending {lease : SandboxLease} {providerId : String}
    {recovery : DestroyRecovery}
    (h : (handleSandboxLeaseRegistryRequest registry
      (destroyRequest lease .destroyBegin)).2 = .destroyReserved providerId recovery) :
    NotStatus .pending
      (handleSandboxLeaseRegistryRequest registry (destroyRequest lease .destroyBegin)).1 := by
  cases registry with
  | none => simp [handleSandboxLeaseRegistryRequest, destroyRequest] at h
  | some r =>
    refine notPending_handle (by simp [destroyRequest]) ?_
    rintro _ ⟨⟩ hpending
    by_cases hmatch : recordMatchesLease r lease = true <;>
      simp [handleSandboxLeaseRegistryRequest, destroyRequest, hmatch, leaseTransition,
        hpending] at h

end Registry

section Safety

def ClosedRegistry : Prop :=
  NotStatus .ready registry ∧
    ∀ request record,
      (handleSandboxLeaseRegistryRequest registry request).2 ≠ .allowed record

theorem closedRegistry_iff :
    ClosedRegistry registry ↔ NotStatus .ready registry := by
  refine ⟨fun h => h.1, fun h => ⟨h, ?_⟩⟩
  intro request record hallowed
  cases registry with
  | none =>
    simp only [handleSandboxLeaseRegistryRequest] at hallowed
    grind
  | some r =>
    have hstatus : r.status ≠ .ready := h r rfl
    unfold handleSandboxLeaseRegistryRequest leaseTransition at hallowed
    grind

/-- Once a provider destroy has succeeded, the lease is neither ready nor authorized. -/
def DestroyFinal (w : DestroyWorld) : Prop :=
  w.providerDestroyed = true → ClosedRegistry w.registry

structure Begun (w : DestroyWorld) : Prop where
  calls : ∀ i, (w.calls i).provider ≠ .notStarted → NotStatus .pending w.registry
  destroyed : w.providerDestroyed = true → NotStatus .pending w.registry

/--
The guard under which a destroy is final: a provider destroy completes only
while the lease is not recorded as ready, and an abort is not applied once a
provider destroy has completed if it would reopen the lease.
-/
def DestroyGuard (lease : SandboxLease) (w : DestroyWorld) :
    DestroyEvent → Prop
  | .providerSucceeds _ => NotStatus .ready w.registry
  | .abortApplied _ _ => w.providerDestroyed = true → ¬ AbortReopens lease w.registry
  | _ => True

/-- What one event can do to the registry, to the provider calls and to the provider. -/
structure DestroyChange
    (lease : SandboxLease)
    (w : DestroyWorld)
    (event : DestroyEvent)
    (w' : DestroyWorld) : Prop where
  registry :
    w'.registry = w.registry ∨
      ∃ request,
        request.path ≠ .reserve ∧
          w'.registry = (handleSandboxLeaseRegistryRequest w.registry request).1 ∧
          (request.path = .destroyAbort →
            request = destroyRequest lease .destroyAbort ∧
              ∃ i delivered, event = .abortApplied i delivered)
  started :
    ∀ i, (w'.calls i).provider ≠ .notStarted →
      (w.calls i).provider ≠ .notStarted ∨ NotStatus .pending w'.registry
  destroyed :
    w'.providerDestroyed = true →
      w.providerDestroyed = true ∨
        ∃ i, event = .providerSucceeds i ∧ (w.calls i).provider = .pending ∧
          w'.registry = w.registry

variable {call : DestroyCall}
variable {w : DestroyWorld}

theorem setCall_provider {i j : Nat}
    (hcall : call.provider ≠ .notStarted → (w.calls i).provider ≠ .notStarted)
    (h : ((w.setCall i call).calls j).provider ≠ .notStarted) :
    (w.calls j).provider ≠ .notStarted := by
  by_cases hij : j = i
  · subst hij
    exact hcall (by simpa using h)
  · simpa [Function.update_of_ne hij] using h

variable {lease : SandboxLease}
variable {event : DestroyEvent}

theorem destroyChange_setCall {i : Nat}
    (hcall : call.provider ≠ .notStarted → (w.calls i).provider ≠ .notStarted) :
    DestroyChange lease w event (w.setCall i call) where
  registry := Or.inl rfl
  started := fun _ h => Or.inl (setCall_provider hcall h)
  destroyed := Or.inl

theorem destroyChange_request {i : Nat} (request : LeaseRegistryRequest)
    (hpath : request.path ≠ .reserve)
    (habort : request.path = .destroyAbort →
      request = destroyRequest lease .destroyAbort ∧
        ∃ i delivered, event = .abortApplied i delivered)
    (hcall : call.provider ≠ .notStarted → (w.calls i).provider ≠ .notStarted) :
    DestroyChange lease w event
      { w.setCall i call with
        registry := (handleSandboxLeaseRegistryRequest w.registry request).1 } where
  registry := Or.inr ⟨request, hpath, rfl, habort⟩
  started := fun _ h => Or.inl (setCall_provider hcall h)
  destroyed := Or.inl

theorem destroyStep_change {w w' : DestroyWorld} (hstep : Fires (destroyStep lease) w event w') :
    DestroyChange lease w event w' := by
  unfold Fires destroyStep at hstep
  cases event with
  | start i =>
    obtain ⟨_, rfl⟩ := Option.ite_some_none_eq_some.mp hstep
    exact destroyChange_setCall (by simp)
  | beginApplied i delivered =>
    obtain ⟨_, rfl⟩ := Option.ite_some_none_eq_some.mp hstep
    refine ⟨Or.inr ⟨destroyRequest lease .destroyBegin, by simp [destroyRequest], rfl,
      by simp [destroyRequest]⟩, ?_, Or.inl⟩
    intro j hj
    by_cases hij : j = i
    · -- Only an answered reservation starts the provider call.
      subst hij
      refine Or.inr ?_
      cases delivered with
      | false => simp at hj
      | true =>
        cases hreply : (handleSandboxLeaseRegistryRequest w.registry
          (destroyRequest lease .destroyBegin)).2 with
        | destroyReserved _ _ => exact destroyReserved_notPending hreply
        | _ => simp [hreply, afterBegin] at hj
    · exact Or.inl (by simpa [Function.update_of_ne hij] using hj)
  | beginLost i =>
    obtain ⟨_, rfl⟩ := Option.ite_some_none_eq_some.mp hstep
    exact destroyChange_setCall (by simp)
  | providerSucceeds i =>
    obtain ⟨hpending, rfl⟩ := Option.ite_some_none_eq_some.mp hstep
    refine ⟨Or.inl rfl, ?_, fun _ => Or.inr ⟨i, rfl, hpending, rfl⟩⟩
    exact fun j hj => Or.inl (setCall_provider (fun _ => by simp [hpending]) hj)
  | providerFails i =>
    obtain ⟨hpending, rfl⟩ := Option.ite_some_none_eq_some.mp hstep
    exact destroyChange_setCall (fun _ => by simp [hpending])
  | providerTimesOut i =>
    simp only at hstep
    split at hstep
    · cases hstep
      exact destroyChange_setCall id
    · cases hstep
  | finishApplied i delivered =>
    obtain ⟨_, rfl⟩ := Option.ite_some_none_eq_some.mp hstep
    exact destroyChange_request _ (by simp [destroyRequest]) (by simp [destroyRequest]) id
  | finishLost i =>
    obtain ⟨_, rfl⟩ := Option.ite_some_none_eq_some.mp hstep
    exact destroyChange_setCall id
  | abortApplied i delivered =>
    obtain ⟨_, rfl⟩ := Option.ite_some_none_eq_some.mp hstep
    exact destroyChange_request _ (by simp [destroyRequest])
      (fun _ => ⟨rfl, i, delivered, rfl⟩) id
  | abortLost i =>
    obtain ⟨_, rfl⟩ := Option.ite_some_none_eq_some.mp hstep
    exact destroyChange_setCall id
  | otherRequest request =>
    obtain ⟨hother, rfl⟩ := Option.ite_some_none_eq_some.mp hstep
    refine ⟨Or.inr ⟨request, ?_, rfl, ?_⟩, fun _ h => Or.inl h, Or.inl⟩
    · rintro hpath
      simp [hpath, otherPath] at hother
    · intro hpath
      simp [hpath, otherPath] at hother

/-- Until a new reservation, no event makes a record pending. -/
theorem DestroyChange.notPending {w w' : DestroyWorld} (hchange : DestroyChange lease w event w')
    (h : NotStatus .pending w.registry) : NotStatus .pending w'.registry := by
  rcases hchange.registry with hsame | ⟨request, hpath, hreg, _⟩
  · rwa [hsame]
  · rw [hreg]
    exact notPending_handle hpath h

theorem begun_step (w : DestroyWorld) (event : DestroyEvent) (w' : DestroyWorld)
    (hstep : Fires (destroyStep lease) w event w') (h : Begun w) : Begun w' := by
  have hchange := destroyStep_change hstep
  constructor
  · intro i hi
    rcases hchange.started i hi with hold | hnew
    · exact hchange.notPending (h.calls i hold)
    · exact hnew
  · intro hdestroyed
    rcases hchange.destroyed hdestroyed with hold | ⟨i, _, hpending, _⟩
    · exact hchange.notPending (h.destroyed hold)
    · exact hchange.notPending (h.calls i (by simp [hpending]))

theorem begun_initialWorld : Begun (initialWorld registry) :=
  ⟨fun _ h => absurd rfl h, fun h => by cases h⟩

theorem destroyFinal_step (w : DestroyWorld) (event : DestroyEvent) (w' : DestroyWorld)
    (hstep : Fires (destroyStep lease) w event w') (hbegun : Begun w) (hfinal : DestroyFinal w)
    (hguard : DestroyGuard lease w event) : DestroyFinal w' := by
  have hchange := destroyStep_change hstep
  intro hdestroyed
  rw [closedRegistry_iff]
  rcases hchange.destroyed hdestroyed with hold | ⟨i, rfl, _, hsame⟩
  · have hnotReady := (hfinal hold).1
    rcases hchange.registry with hsame | ⟨request, hpath, hreg, habort⟩
    · rwa [hsame]
    · rw [hreg]
      refine notReady_handle hpath (hbegun.destroyed hold) hnotReady ?_
      intro hpath' lease' hlease'
      obtain ⟨rfl, i, delivered, rfl⟩ := habort hpath'
      obtain rfl : lease = lease' := Option.some.inj hlease'
      exact hguard hold
  · rw [hsame]
    exact hguard

theorem destroyGuard_of_final (w : DestroyWorld) (event : DestroyEvent) (w' : DestroyWorld)
    (hstep : Fires (destroyStep lease) w event w') (hfinal : DestroyFinal w') :
    DestroyGuard lease w event := by
  unfold Fires destroyStep at hstep
  cases event with
  | providerSucceeds i =>
    obtain ⟨_, rfl⟩ := Option.ite_some_none_eq_some.mp hstep
    exact (hfinal rfl).1
  | abortApplied i delivered =>
    obtain ⟨_, rfl⟩ := Option.ite_some_none_eq_some.mp hstep
    exact fun hdestroyed hreopens => abortReopens_ready hreopens (hfinal hdestroyed).1
  | _ => trivial

/--
Destroys of one lease over all interleavings: the lease is never ready nor
authorized after a provider destroy has succeeded, if and only if every
provider destroy completed while the lease was not recorded as ready and no
abort that would reopen the lease was applied after one.
-/
theorem destroy_final_iff {lease : SandboxLease} {registry : Option SandboxLeaseRecord}
    {events : List DestroyEvent} {w : DestroyWorld}
    (hrun : Run (Fires (destroyStep lease)) (initialWorld registry) events w) :
    Run (Guarded (Fires (destroyStep lease)) (DestroyGuard lease))
        (initialWorld registry) events w ↔
      Always (Fires (destroyStep lease)) DestroyFinal (initialWorld registry) events :=
  Run.guarded_iff_always
    (fires_deterministic (destroyStep lease))
    begun_step
    destroyFinal_step
    (fun w event w' hstep _ _ hfinal => destroyGuard_of_final w event w' hstep hfinal)
    hrun
    (begun_initialWorld registry)
    (fun h => by cases h)

def readyRecord : SandboxLeaseRecord :=
  { exampleRecord with status := .ready }

/--
Two calls share one destroy.  The second one reserves it again while the first
one waits for the provider, and its provider destroy succeeds; then the provider
refuses the first call, which aborts the destroy before the second one finishes.
-/
def reopeningEvents : List DestroyEvent :=
  [.start 0, .beginApplied 0 true, .start 1, .beginApplied 1 true,
    .providerSucceeds 1, .providerFails 0, .abortApplied 0 true, .finishApplied 1 true]

theorem reopening_run :
    ∃ w,
      Run (Fires (destroyStep readyRecord.lease))
        (initialWorld (some readyRecord)) reopeningEvents w ∧
      w.providerDestroyed = true ∧
      w.registry = some readyRecord := by
  have hend :
      (fire (destroyStep readyRecord.lease)
          (initialWorld (some readyRecord)) reopeningEvents).map
        (fun w => (w.providerDestroyed, w.registry)) = some (true, some readyRecord) := by
    decide
  obtain ⟨w, hw, hresult⟩ := Option.map_eq_some_iff.mp hend
  obtain ⟨hdestroyed, hregistry⟩ := Prod.ext_iff.mp hresult
  exact ⟨w, run_fires_iff.mpr hw, hdestroyed, hregistry⟩

/-- The run that reopens a destroyed lease breaks the guard. -/
theorem destroy_final_iff_reopening :
    ∃ w,
      Run (Fires (destroyStep readyRecord.lease))
        (initialWorld (some readyRecord)) reopeningEvents w ∧
      ¬ Run (Guarded (Fires (destroyStep readyRecord.lease)) (DestroyGuard readyRecord.lease))
          (initialWorld (some readyRecord)) reopeningEvents w := by
  obtain ⟨w, hrun, hdestroyed, hregistry⟩ := reopening_run
  refine ⟨w, hrun, ?_⟩
  rw [destroy_final_iff hrun]
  intro halways
  have hclosed := halways reopeningEvents [] w (List.append_nil _).symm hrun hdestroyed
  exact hclosed.1 readyRecord hregistry rfl

/-- One call's abort makes a lease ready again whose provider another call has destroyed. -/
theorem destroyed_lease_reopened :
    ¬ ∀ lease registry events w,
        Run (Fires (destroyStep lease)) (initialWorld registry) events w →
          DestroyFinal w := by
  intro h
  obtain ⟨w, hrun, hdestroyed, hregistry⟩ := reopening_run
  exact (h _ _ _ _ hrun hdestroyed).1 readyRecord hregistry rfl

end Safety

end Aiphabee.BackendDestroy
