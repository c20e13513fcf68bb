import Aiphabee.Sandbox.LeaseRegistry

/-!
# What every run of the lease registry keeps

The handler of the lease registry rewrites one record from a dozen request
paths.  `LeaseChange` says once what a request can do to a stored record; every
invariant below is a case analysis on it.

* `Coherent` is the invariant of a record.  It is kept by every request, and
  under it the process fields, the killed and destroyed statuses and the kill
  flag are consistent.
* The kill flag is a latch: `killLatched_step`.
* A killed lease never becomes ready again: `NeverReady` and `neverReady_change`.
* The identity of a record is fixed until it is removed: `change_identity`.
-/

namespace Aiphabee.LeaseRegistry

open Transition

variable (storage : Option SandboxLeaseRecord)

section Changes

/-- What one request can do to a stored record that it does not remove. -/
inductive LeaseChange :
    SandboxLeaseRecord → SandboxLeaseRecord → Prop
  | stay (r : SandboxLeaseRecord) :
      LeaseChange r r
  | ready
      {r : SandboxLeaseRecord}
      (hstatus : r.status = .pending) :
      LeaseChange r { r with status := .ready }
  | processBegin
      {r : SandboxLeaseRecord}
      (id : String)
      (hstatus : r.status = .ready)
      (hfree : r.processId = none) :
      LeaseChange r
        { r with processId := some id, processState := some .starting }
  | processRunning
      {r : SandboxLeaseRecord}
      (hstatus : r.status = .ready)
      (hstate : r.processState = some .starting) :
      LeaseChange r { r with processState := some .running }
  | processClear
      (r : SandboxLeaseRecord) :
      LeaseChange r
        { r.withoutProcess with
          destroyResumeStatus :=
            if r.status = .destroying ∧ r.killRequested = true then
              some .killed
            else
              r.destroyResumeStatus
          status :=
            if r.status = .ready ∧ r.killRequested = true then
              .killed
            else
              r.status }
  | kill
      {r : SandboxLeaseRecord}
      (hstatus : r.status = .ready)
      (hprocess : r.processId ≠ none) :
      LeaseChange r { r with killRequested := true }
  | killFinish
      {r : SandboxLeaseRecord}
      (hstatus : r.status = .ready)
      (hkill : r.killRequested = true) :
      LeaseChange r { r.withoutProcess with status := .killed }
  | destroyBegin
      {r : SandboxLeaseRecord}
      (resume : ResumeStatus)
      (hstatus : r.status = resume.toStatus) :
      LeaseChange r
        { r with destroyResumeStatus := some resume, status := .destroying }
  | destroyFinish
      {r : SandboxLeaseRecord}
      (hstatus : r.status = .destroying) :
      LeaseChange r
        { r.withoutProcess with
          destroyResumeStatus := none
          killRequested := true
          status := .destroyed }
  | destroyAbort
      {r : SandboxLeaseRecord}
      (resume : ResumeStatus)
      (hresume : r.destroyResumeStatus = some resume)
      (hstatus : r.status = .destroying) :
      LeaseChange r
        { r with destroyResumeStatus := none, status := resume.toStatus }

/--
Behind the identity check, a request changes the record or, when the record is
still pending, removes it.
-/
theorem leaseTransition_cases (path : LeaseRegistryPath) (processId : Option String)
    (r : SandboxLeaseRecord) :
    (∃ r', (leaseTransition path processId r).1 = some r' ∧ LeaseChange r r') ∨
      (path = .remove ∧ r.status = .pending ∧
        leaseTransition path processId r = (none, .noContent)) := by
  cases path with
  | authorize =>
    refine Or.inl ⟨r, ?_, LeaseChange.stay r⟩
    simp only [leaseTransition]
    split <;> rfl
  | ready =>
    by_cases h : r.status = .pending
    · exact Or.inl ⟨_, by simp only [leaseTransition, if_pos h], LeaseChange.ready h⟩
    · exact Or.inl ⟨r, by simp only [leaseTransition, if_neg h], LeaseChange.stay r⟩
  | processBegin =>
    cases processId with
    | none => exact Or.inl ⟨r, rfl, LeaseChange.stay r⟩
    | some id =>
      by_cases h : r.status = .ready ∧ r.processId = none
      · exact Or.inl
          ⟨_, by simp only [leaseTransition, if_pos h],
            LeaseChange.processBegin id h.1 h.2⟩
      · exact Or.inl
          ⟨r, by simp only [leaseTransition, if_neg h], LeaseChange.stay r⟩
  | processRunning =>
    by_cases h : r.status = .ready ∧ r.processId = processId ∧
        r.processState = some .starting
    · exact Or.inl
        ⟨_, by simp only [leaseTransition, if_pos h],
          LeaseChange.processRunning h.1 h.2.2⟩
    · exact Or.inl
        ⟨r, by simp only [leaseTransition, if_neg h], LeaseChange.stay r⟩
  | processClear =>
    by_cases h : r.processId = processId
    · exact Or.inl
        ⟨_, by simp only [leaseTransition, if_pos h], LeaseChange.processClear r⟩
    · exact Or.inl
        ⟨r, by simp only [leaseTransition, if_neg h], LeaseChange.stay r⟩
  | kill =>
    by_cases hdone : r.status = .destroyed ∨ r.status = .killed
    · exact Or.inl
        ⟨r, by simp only [leaseTransition, if_pos hdone], LeaseChange.stay r⟩
    · by_cases hready : r.status = .ready
      · cases hid : r.processId with
        | none =>
          exact Or.inl
            ⟨r, by simp only [leaseTransition, if_neg hdone, if_pos hready, hid],
              LeaseChange.stay r⟩
        | some id =>
          cases hstate : r.processState with
          | none =>
            exact Or.inl
              ⟨r,
                by simp only [leaseTransition, if_neg hdone, if_pos hready, hid,
                  hstate],
                LeaseChange.stay r⟩
          | some state =>
            refine Or.inl ⟨_, ?_, LeaseChange.kill hready (by simp [hid])⟩
            simp only [leaseTransition, if_neg hdone, if_pos hready, hid, hstate]
      · exact Or.inl
          ⟨r, by simp only [leaseTransition, if_neg hdone, if_neg hready],
            LeaseChange.stay r⟩
  | killFinish =>
    by_cases h : r.status = .ready ∧ r.killRequested = true
    · exact Or.inl
        ⟨_, by simp only [leaseTransition, if_pos h],
          LeaseChange.killFinish h.1 h.2⟩
    · exact Or.inl
        ⟨r, by simp only [leaseTransition, if_neg h], LeaseChange.stay r⟩
  | destroyBegin =>
    cases h : r.status with
    | destroyed =>
      exact Or.inl ⟨r, by simp only [leaseTransition, h], LeaseChange.stay r⟩
    | destroying =>
      exact Or.inl ⟨r, by simp only [leaseTransition, h], LeaseChange.stay r⟩
    | pending =>
      exact Or.inl ⟨r, by simp only [leaseTransition, h], LeaseChange.stay r⟩
    | ready =>
      exact Or.inl
        ⟨_, by simp only [leaseTransition, h],
          LeaseChange.destroyBegin .ready h⟩
    | killed =>
      exact Or.inl
        ⟨_, by simp only [leaseTransition, h],
          LeaseChange.destroyBegin .killed h⟩
  | destroyFinish =>
    by_cases h : r.status = .destroying
    · exact Or.inl
        ⟨_, by simp only [leaseTransition, if_pos h], LeaseChange.destroyFinish h⟩
    · exact Or.inl
        ⟨r, by simp only [leaseTransition, if_neg h], LeaseChange.stay r⟩
  | destroyAbort =>
    cases hresume : r.destroyResumeStatus with
    | none =>
      exact Or.inl
        ⟨r, by simp only [leaseTransition, hresume], LeaseChange.stay r⟩
    | some resume =>
      by_cases h : r.status = .destroying
      · exact Or.inl
          ⟨_, by simp only [leaseTransition, hresume, if_pos h],
            LeaseChange.destroyAbort resume hresume h⟩
      · exact Or.inl
          ⟨r, by simp only [leaseTransition, hresume, if_neg h],
            LeaseChange.stay r⟩
  | remove =>
    by_cases h : r.status = .pending
    · exact Or.inr ⟨rfl, h, by simp only [leaseTransition, if_pos h]⟩
    · exact Or.inl
        ⟨r, by simp only [leaseTransition, if_neg h], LeaseChange.stay r⟩
  | reserve => exact Or.inl ⟨r, rfl, LeaseChange.stay r⟩
  | unknown => exact Or.inl ⟨r, rfl, LeaseChange.stay r⟩

variable {storage' : Option SandboxLeaseRecord}
variable {exchange : LeaseRegistryExchange}

theorem registryStep_some {r : SandboxLeaseRecord}
    (hstep : registryStep (some r) exchange storage') :
    (∃ r', storage' = some r' ∧ LeaseChange r r') ∨
      (exchange.1.path = .remove ∧ exchange.2 = .noContent ∧
        r.status = .pending ∧ storage' = none) := by
  obtain ⟨request, response⟩ := exchange
  unfold registryStep Answers handleSandboxLeaseRegistryRequest at hstep
  by_cases hpost : request.post = false
  · rw [if_pos hpost] at hstep
    exact Or.inl ⟨r, (Prod.ext_iff.mp hstep).1.symm, LeaseChange.stay r⟩
  rw [if_neg hpost] at hstep
  by_cases hpath : request.path = .reserve
  · rw [if_pos hpath] at hstep
    exact Or.inl ⟨r, (Prod.ext_iff.mp hstep).1.symm, LeaseChange.stay r⟩
  rw [if_neg hpath] at hstep
  cases hlease : request.body.lease with
  | none =>
    rw [hlease] at hstep
    exact Or.inl ⟨r, (Prod.ext_iff.mp hstep).1.symm, LeaseChange.stay r⟩
  | some lease =>
    rw [hlease] at hstep
    simp only at hstep
    by_cases hmatch : recordMatchesLease r lease = true
    · rw [if_pos hmatch] at hstep
      rcases leaseTransition_cases request.path request.body.processId r with
        ⟨r', hr', hchange⟩ | ⟨hremove, hpending, hnone⟩
      · rw [hstep] at hr'
        exact Or.inl ⟨r', hr', hchange⟩
      · rw [hnone] at hstep
        obtain ⟨h₁, h₂⟩ := Prod.ext_iff.mp hstep
        exact Or.inr ⟨hremove, h₂.symm, hpending, h₁.symm⟩
    · rw [if_neg hmatch] at hstep
      exact Or.inl ⟨r, (Prod.ext_iff.mp hstep).1.symm, LeaseChange.stay r⟩

theorem registryStep_none (hstep : registryStep none exchange storage') :
    storage' = none ∨
      (exchange.1.path = .reserve ∧ storage' = exchange.1.body.record) := by
  obtain ⟨request, response⟩ := exchange
  unfold registryStep Answers handleSandboxLeaseRegistryRequest at hstep
  by_cases hpost : request.post = false
  · rw [if_pos hpost] at hstep
    exact Or.inl (Prod.ext_iff.mp hstep).1.symm
  rw [if_neg hpost] at hstep
  by_cases hpath : request.path = .reserve
  · rw [if_pos hpath] at hstep
    cases hrecord : request.body.record with
    | none =>
      rw [hrecord] at hstep
      exact Or.inl (Prod.ext_iff.mp hstep).1.symm
    | some record =>
      rw [hrecord] at hstep
      exact Or.inr ⟨hpath, (Prod.ext_iff.mp hstep).1.symm⟩
  · rw [if_neg hpath] at hstep
    cases hlease : request.body.lease with
    | none =>
      rw [hlease] at hstep
      exact Or.inl (Prod.ext_iff.mp hstep).1.symm
    | some lease =>
      rw [hlease] at hstep
      exact Or.inl (Prod.ext_iff.mp hstep).1.symm

/--
Behind the identity check, a lease becomes ready only when it is activated or
when a destroy that began on a ready lease is aborted, and never pending.
-/
theorem leaseTransition_status {path : LeaseRegistryPath} {processId : Option String}
    {r r' : SandboxLeaseRecord} (h : (leaseTransition path processId r).1 = some r') :
    (r'.status = .ready →
      r.status = .ready ∨ (path = .ready ∧ r.status = .pending) ∨
        (path = .destroyAbort ∧ r.status = .destroying ∧
          r.destroyResumeStatus = some .ready)) ∧
      (r'.status = .pending → r.status = .pending) := by
  cases path with
  | destroyAbort =>
    cases hresume : r.destroyResumeStatus with
    | none => simp only [leaseTransition, hresume] at h; grind
    | some resume =>
      simp only [leaseTransition, hresume] at h
      cases resume <;> grind [ResumeStatus.toStatus]
  | _ =>
    simp only [leaseTransition] at h
    grind [SandboxLeaseRecord.withoutProcess]

theorem handle_cases (request : LeaseRegistryRequest) (hpath : request.path ≠ .reserve) :
    (handleSandboxLeaseRegistryRequest storage request).1 = storage ∨
      ∃ r lease,
        storage = some r ∧ request.body.lease = some lease ∧
          recordMatchesLease r lease = true ∧
          handleSandboxLeaseRegistryRequest storage request =
            leaseTransition request.path request.body.processId r := by
  unfold handleSandboxLeaseRegistryRequest
  by_cases hpost : request.post = false
  · exact Or.inl (by rw [if_pos hpost])
  rw [if_neg hpost, if_neg hpath]
  cases hlease : request.body.lease with
  | none => exact Or.inl rfl
  | some lease =>
    cases storage with
    | none => exact Or.inl rfl
    | some r =>
      by_cases hmatch : recordMatchesLease r lease = true
      · exact Or.inr ⟨r, lease, rfl, rfl, hmatch, if_pos hmatch⟩
      · exact Or.inl (by simp only [if_neg hmatch])

theorem processReserved_only_when_free {r reserved : SandboxLeaseRecord}
    (hstep : registryStep (some r) exchange storage')
    (hresponse : exchange.2 = .processReserved reserved) :
    r.status = .ready ∧ r.processId = none := by
  obtain ⟨request, response⟩ := exchange
  obtain rfl : response = .processReserved reserved := hresponse
  unfold registryStep Answers handleSandboxLeaseRegistryRequest leaseTransition at hstep
  grind

end Changes

structure Consistent (r : SandboxLeaseRecord) : Prop where
  process : r.processState.isSome = r.processId.isSome
  stopped : r.status = .killed ∨ r.status = .destroyed → r.processId = none
  killing : r.status = .ready → r.killRequested = true → r.processId ≠ none

structure Coherent (r : SandboxLeaseRecord) : Prop extends Consistent r where
  pending : r.status = .pending → r.killRequested = false
  resumeKilled :
    r.status = .destroying → r.destroyResumeStatus = some .killed →
      r.processId = none
  resumeReady :
    r.status = .destroying → r.destroyResumeStatus = some .ready →
      r.killRequested = true → r.processId ≠ none

def freshRecord (backendId leaseId providerId sessionId : String) (binding : SandboxLeaseBinding) :
    SandboxLeaseRecord where
  backendId := backendId
  binding := binding
  destroyResumeStatus := none
  killRequested := false
  leaseId := leaseId
  processId := none
  processState := none
  providerId := providerId
  sessionId := sessionId
  status := .pending

theorem freshRecord_coherent (backendId leaseId providerId sessionId : String)
    (binding : SandboxLeaseBinding) :
    Coherent (freshRecord backendId leaseId providerId sessionId binding) := by
  constructor
  · constructor <;> simp [freshRecord]
  all_goals simp [freshRecord]

variable {r r' : SandboxLeaseRecord}

theorem coherent_change (hchange : LeaseChange r r') (h : Coherent r) :
    Coherent r' := by
  obtain ⟨⟨hprocess, hstopped, hkilling⟩, hpending, hkilled, hready⟩ := h
  cases hchange with
  | stay => exact ⟨⟨hprocess, hstopped, hkilling⟩, hpending, hkilled, hready⟩
  | ready hstatus =>
    have hkill := hpending hstatus
    constructor
    · constructor <;> simp [hprocess, hkill]
    all_goals simp
  | processBegin id hstatus hfree =>
    constructor
    · constructor <;> simp [hstatus]
    all_goals simp [hstatus]
  | processRunning hstatus hstate =>
    have hsome : r.processId.isSome = true := by simpa [hstate] using hprocess.symm
    constructor
    · constructor <;> simp_all
    all_goals simp [hstatus]
  | processClear =>
    -- Only the two conditionals of the source depend on the status.
    by_cases hkill : r.killRequested = true
    · cases hstatus : r.status <;>
        (constructor
         · constructor <;> simp_all
         all_goals simp_all)
    · constructor
      · constructor <;> simp [hkill]
      all_goals simp_all
  | kill hstatus hid =>
    constructor
    · constructor <;> simp_all
    all_goals simp [hstatus]
  | killFinish hstatus hkill =>
    constructor
    · constructor <;> simp
    all_goals simp
  | destroyBegin resume hstatus =>
    cases resume <;>
      (constructor
       · constructor <;> simp_all [ResumeStatus.toStatus]
       all_goals simp_all [ResumeStatus.toStatus])
  | destroyFinish hstatus =>
    constructor
    · constructor <;> simp
    all_goals simp
  | destroyAbort resume hresume hstatus =>
    cases resume <;>
      (constructor
       · constructor <;> simp_all [ResumeStatus.toStatus]
       all_goals simp_all [ResumeStatus.toStatus])

def CoherentStorage : Prop :=
  ∀ r, storage = some r → Coherent r

variable (exchange : LeaseRegistryExchange)

/-- The record a reservation presents is coherent; other requests present none. -/
def ReservesCoherent : Prop :=
  exchange.1.path = .reserve →
    ∀ r, exchange.1.body.record = some r → Coherent r

variable (storage' : Option SandboxLeaseRecord)

theorem coherentStorage_step (hstep : registryStep storage exchange storage')
    (hreserve : ReservesCoherent exchange) (h : CoherentStorage storage) :
    CoherentStorage storage' := by
  cases storage with
  | none =>
    rcases registryStep_none hstep with rfl | ⟨hpath, rfl⟩
    · exact h
    · exact hreserve hpath
  | some r =>
    rcases registryStep_some hstep with ⟨r', rfl, hchange⟩ | ⟨_, _, _, rfl⟩
    · rintro _ ⟨⟩
      exact coherent_change hchange (h r rfl)
    · rintro _ ⟨⟩

theorem coherentStorage_run {exchanges : List LeaseRegistryExchange}
    {storage : Option SandboxLeaseRecord} (hrun : Run registryStep none exchanges storage)
    (hreserve : ∀ exchange, exchange ∈ exchanges → ReservesCoherent exchange) :
    CoherentStorage storage :=
  hrun.preserves_of_labels coherentStorage_step hreserve (by rintro _ ⟨⟩)

/-- A stored coherent record whose kill flag is set. -/
def KillLatched : Prop :=
  ∃ r, storage = some r ∧ Coherent r ∧ r.killRequested = true

theorem killRequested_change (hchange : LeaseChange r r') (h : r.killRequested = true) :
    r'.killRequested = true := by
  cases hchange with
  | kill | destroyFinish => rfl
  | _ => exact h

/-- A set kill flag survives every request: a pending record has none, so nothing removes it. -/
theorem killLatched_step (hstep : registryStep storage exchange storage')
    (h : KillLatched storage) : KillLatched storage' := by
  obtain ⟨r, rfl, hcoherent, hkill⟩ := h
  rcases registryStep_some hstep with ⟨r', rfl, hchange⟩ | ⟨_, _, hpending, _⟩
  · exact
      ⟨r', rfl, coherent_change hchange hcoherent, killRequested_change hchange hkill⟩
  · have := hcoherent.pending hpending
    rw [hkill] at this
    cases this

theorem killLatched_no_process (hstep : registryStep storage exchange storage')
    (h : KillLatched storage) :
    ∀ reserved, exchange.2 ≠ .processReserved reserved := by
  obtain ⟨r, rfl, hcoherent, hkill⟩ := h
  intro reserved hresponse
  obtain ⟨hready, hfree⟩ := processReserved_only_when_free hstep hresponse
  exact hcoherent.killing hready hkill hfree

/-- A record from which no destroy can be aborted back to ready. -/
def NeverReady (r : SandboxLeaseRecord) : Prop :=
  r.status = .killed ∨ r.status = .destroyed ∨
    (r.status = .destroying ∧ r.destroyResumeStatus ≠ some .ready)

theorem NeverReady.not_ready {r : SandboxLeaseRecord} (h : NeverReady r) : r.status ≠ .ready := by
  rcases h with h | h | ⟨h, _⟩ <;> simp [h]

theorem NeverReady.not_pending {r : SandboxLeaseRecord} (h : NeverReady r) :
    r.status ≠ .pending := by
  rcases h with h | h | ⟨h, _⟩ <;> simp [h]

theorem neverReady_change (hchange : LeaseChange r r') (h : NeverReady r) : NeverReady r' := by
  have hnot := h.not_ready
  have hpend := h.not_pending
  cases hchange with
  | stay => exact h
  | ready hstatus => exact absurd hstatus hpend
  | processBegin _ hstatus _ => exact absurd hstatus hnot
  | processRunning hstatus _ => exact absurd hstatus hnot
  | kill hstatus _ => exact absurd hstatus hnot
  | killFinish hstatus _ => exact absurd hstatus hnot
  | processClear =>
    rcases h with h | h | ⟨h, hresume⟩
    · exact Or.inl (by simp [h])
    · exact Or.inr (Or.inl (by simp [h]))
    · refine Or.inr (Or.inr ⟨by simp [h], ?_⟩)
      by_cases hkill : r.killRequested = true <;> simp [h, hkill, hresume]
  | destroyBegin resume hstatus =>
    cases resume with
    | killed => exact Or.inr (Or.inr ⟨rfl, by simp⟩)
    | ready => exact absurd hstatus hnot
  | destroyFinish => exact Or.inr (Or.inl rfl)
  | destroyAbort resume hresume hstatus =>
    cases resume with
    | killed => exact Or.inl rfl
    | ready =>
      rcases h with h | h | ⟨_, hne⟩
      · simp [hstatus] at h
      · simp [hstatus] at h
      · exact absurd hresume hne

def NeverReadyStorage : Prop :=
  ∃ r, storage = some r ∧ NeverReady r

theorem neverReadyStorage_step (hstep : registryStep storage exchange storage')
    (h : NeverReadyStorage storage) :
    NeverReadyStorage storage' := by
  obtain ⟨r, rfl, hnever⟩ := h
  rcases registryStep_some hstep with ⟨r', rfl, hchange⟩ | ⟨_, _, hpending, _⟩
  · exact ⟨r', rfl, neverReady_change hchange hnever⟩
  · exact absurd hpending hnever.not_pending

theorem change_identity (hchange : LeaseChange r r') :
    r'.identity = r.identity := by
  cases hchange <;> rfl

/-- A request that removed the stored record. -/
def Removes : Prop :=
  exchange.1.path = .remove ∧ exchange.2 = .noContent

theorem identity_run {r : SandboxLeaseRecord} {exchanges : List LeaseRegistryExchange}
    {storage' : Option SandboxLeaseRecord} (hrun : Run registryStep (some r) exchanges storage')
    (hkept : ∀ exchange, exchange ∈ exchanges → ¬ Removes exchange) :
    ∃ r', storage' = some r' ∧ r'.identity = r.identity := by
  refine hrun.preserves_of_labels
    (I := fun storage => ∃ r', storage = some r' ∧ r'.identity = r.identity)
    (K := fun exchange => ¬ Removes exchange) ?_ hkept ⟨r, rfl, rfl⟩
  rintro _ exchange storage hstep hkeep ⟨q, rfl, hq⟩
  rcases registryStep_some hstep with ⟨r', rfl, hchange⟩ | ⟨hpath, hresponse, _, _⟩
  · exact ⟨r', rfl, (change_identity hchange).trans hq⟩
  · exact absurd ⟨hpath, hresponse⟩ hkeep

def SandboxLeaseRecord.lease (r : SandboxLeaseRecord) : SandboxLease where
  accessGrant :=
    { layer := r.binding.layer
      owner := r.binding.owner
      runMode := r.binding.runMode
      runnerFamily := r.binding.runnerFamily
      runnerId := r.binding.runnerId
      runnerSelectionContractVersion := r.binding.runnerSelectionContractVersion
      source := r.binding.source
      tenantId := r.binding.tenantId
      userId := r.binding.userId }
  backendId := r.backendId
  leaseId := r.leaseId

/--
The lease registry over all runs.  Starting from an empty registry and serving
any requests whose reservations present coherent records, every stored record
is consistent; its kill flag is never cleared, and behind it no process is
reserved; once killed it is never ready again; and until it is removed it keeps
its backend, lease, provider and session ids and its binding.
-/
theorem leaseRegistry_lawful {exchanges : List LeaseRegistryExchange} {r : SandboxLeaseRecord}
    (hrun : Run registryStep none exchanges (some r))
    (hreserve : ∀ exchange, exchange ∈ exchanges → ReservesCoherent exchange) :
    r.processState.isSome = r.processId.isSome ∧
      (r.status = .killed ∨ r.status = .destroyed → r.processId = none) ∧
      (r.status = .ready → r.killRequested = true → r.processId ≠ none) ∧
      ∀ later storage',
        Run registryStep (some r) later storage' →
          (r.killRequested = true →
            (∃ r', storage' = some r' ∧ r'.killRequested = true) ∧
              ∀ exchange, exchange ∈ later →
                ∀ reserved, exchange.2 ≠ .processReserved reserved) ∧
          (r.status = .killed →
            ∃ r', storage' = some r' ∧ r'.status ≠ .ready) ∧
          ((∀ exchange, exchange ∈ later → ¬ Removes exchange) →
            ∃ r', storage' = some r' ∧ r'.identity = r.identity) := by
  have hcoherent : Coherent r := coherentStorage_run hrun hreserve r rfl
  refine ⟨hcoherent.process, hcoherent.stopped, hcoherent.killing, ?_⟩
  intro later storage' hlater
  refine ⟨?_, ?_, identity_run hlater⟩
  · intro hkill
    have hlatched : KillLatched (some r) := ⟨r, rfl, hcoherent, hkill⟩
    obtain ⟨r', hr', _, hkill'⟩ := hlater.preserves killLatched_step hlatched
    exact
      ⟨⟨r', hr', hkill'⟩,
        hlater.forall_labels killLatched_step killLatched_no_process hlatched⟩
  · intro hkilled
    obtain ⟨r', hr', hnever⟩ :=
      hlater.preserves neverReadyStorage_step ⟨r, rfl, Or.inl hkilled⟩
    exact ⟨r', hr', hnever.not_ready⟩

def exampleBinding : SandboxLeaseBinding where
  layer := "research"
  owner := .run "run-registry"
  runMode := "runner_remote"
  runnerFamily := "fastclaw"
  runnerId := "fastclaw.personal-v0"
  runnerSelectionContractVersion := "v0"
  source := "agent_runner_selection"
  tenantId := "tenant-1"
  userId := "user-1"

def exampleRecord : SandboxLeaseRecord :=
  freshRecord "cloudflare.sandbox-v0" "lease-registry" "provider-registry"
    "session-registry" exampleBinding

def exampleRequests : List LeaseRegistryRequest :=
  { path := .reserve, body := { record := some exampleRecord } } ::
    [(.ready, none), (.processBegin, some "process-1"), (.kill, none),
      (.processRunning, some "process-1"), (.killFinish, none),
      (.destroyBegin, none), (.destroyAbort, none)].map
        fun request =>
          { path := request.1
            body := { lease := some exampleRecord.lease, processId := request.2 } }

/-- A killed lease survives an aborted destroy as a killed lease, for good. -/
theorem leaseRegistry_lawful_killed :
    (serve handleSandboxLeaseRegistryRequest none exampleRequests).1 =
      some { exampleRecord with killRequested := true, status := .killed } ∧
    ∀ later storage',
      Run registryStep
        (some { exampleRecord with killRequested := true, status := .killed })
        later storage' →
      ∃ r', storage' = some r' ∧ r'.status ≠ .ready := by
  have hserved := serve_run handleSandboxLeaseRegistryRequest none exampleRequests
  have hend :
      (serve handleSandboxLeaseRegistryRequest none exampleRequests).1 =
        some { exampleRecord with killRequested := true, status := .killed } := by
    decide
  rw [hend] at hserved
  have hreserve :
      ∀ exchange,
        exchange ∈ (serve handleSandboxLeaseRegistryRequest none exampleRequests).2 →
          ReservesCoherent exchange := by
    intro exchange hmem hpath record hrecord
    have hfresh : exchange.1.body.record = some exampleRecord := by
      have hall :
          ∀ e ∈ (serve handleSandboxLeaseRegistryRequest none exampleRequests).2,
            e.1.path = .reserve → e.1.body.record = some exampleRecord := by
        decide
      exact hall exchange hmem hpath
    rw [hrecord] at hfresh
    cases hfresh
    exact freshRecord_coherent _ _ _ _ _
  refine ⟨hend, ?_⟩
  intro later storage' hlater
  exact ((leaseRegistry_lawful hserved hreserve).2.2.2 later storage' hlater).2.1 rfl

/--
The registry stores a reserved record as it is: one request leaves a record
with a process id and no process state.
-/
theorem reserve_stores_inconsistent_record :
    ¬ ∀ exchanges r,
        Run registryStep none exchanges (some r) →
          r.processState.isSome = r.processId.isSome := by
  intro h
  have hserved :=
    serve_run handleSandboxLeaseRegistryRequest none
      [{ path := .reserve,
         body := { record := some { exampleRecord with processId := some "process-1" } } }]
  exact absurd (h _ { exampleRecord with processId := some "process-1" } hserved) (by decide)

end Aiphabee.LeaseRegistry
