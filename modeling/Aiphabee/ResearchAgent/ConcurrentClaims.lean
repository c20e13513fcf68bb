import Aiphabee.ResearchAgent.LifecycleReplay

/-!
# Concurrent lifecycle transactions on one profile

Any number of lifecycle transactions run on one profile row and interleave
statement by statement, under READ COMMITTED: a statement sees the last
committed row, or the row its own transaction has written.  A row that is
written but not committed keeps every other writer waiting; a statement that
has to wait is not possible yet.

A transaction reads the profile before its claiming update, and puts the
status it has read back when it fails for good.  `failure_leaves_status` says
what it leaves behind, and when that is the status its update replaced.
-/

namespace Aiphabee.ResearchAgent.ConcurrentClaims

open Transition

variable {phase : TransactionPhase}
variable {transactions : Transactions}
variable {w w' : RowWorld}
variable {event : RowEvent}
variable {i : Nat}
variable {status : ResearchAgentLifecycleStatus}

/-- What a transaction that is ready to commit has done. -/
inductive Ending
  | untouched
  | succeeded
  | failed
      (outcome : ResearchAgentLifecycleOutcome)
      (fromStatus : ResearchAgentLifecycleStatus)
deriving DecidableEq

inductive TransactionPhase
  | idle
  | ensuring
  | reading
  | claiming (previousStatus : ResearchAgentLifecycleStatus)
  | readingBusy
  | finalizing
      (previousStatus : ResearchAgentLifecycleStatus)
      (claimed : ResearchAgentLifecycleProfile)
  | denying
  | auditing (ending : Ending)
  | committing (ending : Ending)
  | over
deriving DecidableEq

structure RowWorld where
  committed : Option ResearchAgentLifecycleProfile
  uncommitted : Option (Nat × ResearchAgentLifecycleProfile)
  phases : Nat → TransactionPhase

/-- The statements; `known` says whether the event of the request was found. -/
inductive RowEvent
  | start (i : Nat) (known : Bool)
  | ensure (i : Nat)
  | read (i : Nat)
  | claim (i : Nat)
  | readBusy (i : Nat)
  | finalize (i : Nat)
  | noteDenied (i : Nat)
  | writeEvent (i : Nat)
  | commit (i : Nat)
  | rollback (i : Nat)

structure Transactions where
  identity : String
  requests : Nat → ResearchAgentLifecycleRequest
  surroundings : Nat → LifecycleSurroundings

def Transactions.input (transactions : Transactions) (i : Nat) : ClaimInput :=
  claimInput (transactions.requests i) transactions.identity

/-- Move a transaction to its next statement. -/
def RowWorld.goTo (w : RowWorld) (i : Nat) (phase : TransactionPhase) : RowWorld :=
  { w with phases := Function.update w.phases i phase }

def RowWorld.write (w : RowWorld) (i : Nat) (profile : ResearchAgentLifecycleProfile) : RowWorld :=
  { w with uncommitted := some (i, profile) }

def RowWorld.written (w : RowWorld) (i : Nat) : Option ResearchAgentLifecycleProfile :=
  match w.uncommitted with
  | some (owner, profile) => if owner = i then some profile else none
  | none => none

/-- The row a transaction sees: its own, else the committed one. -/
def RowWorld.visible (w : RowWorld) (i : Nat) : Option ResearchAgentLifecycleProfile :=
  match w.written i with
  | some profile => some profile
  | none => w.committed

/-- No other transaction has written the row. -/
def RowWorld.free (w : RowWorld) (i : Nat) : Bool :=
  match w.uncommitted with
  | some (owner, _) => owner = i
  | none => true

/-- Where a request goes once its event and its authority are read. -/
def afterAuthority (intent : ResearchAgentLifecycleIntent) (authority : AuthorityRow) :
    TransactionPhase :=
  match preconditionDenial intent authority with
  | none => .ensuring
  | some code =>
    if code = "ACCOUNT_NOT_FOUND" ∨ code = "WORKSPACE_NOT_FOUND" then
      .committing .untouched
    else
      .denying

def finalizeRow (transactions : Transactions) (i : Nat)
    (previousStatus : ResearchAgentLifecycleStatus) (claimed row : ResearchAgentLifecycleProfile) :
    Option (ResearchAgentLifecycleProfile × Ending) :=
  let request := transactions.requests i
  match (reconcileRemote request.intent claimed
      (fastClawExternalIdentity transactions.identity)
      (fastClawAgentExternalIdentity transactions.identity)
      (transactions.surroundings i)).result with
  | .ok state =>
    (finalizeSuccessRow request.requestId (terminalStatusForIntent request.intent)
      state.fastclawUserId state.fastclawAgentId row).map fun row => (row, .succeeded)
  | .error error =>
    let input := failureEventInput request previousStatus claimed error.remoteCause
      error.fastclawUserId error.fastclawAgentId
    (finalizeFailureRow input row).map fun row => (row, .failed input.outcome previousStatus)

/-- The next world, when the statement is possible. -/
def rowStep (transactions : Transactions) (w : RowWorld) :
    RowEvent → Option RowWorld
  | .start i known =>
    if w.phases i = .idle then
      if known then
        some (w.goTo i (.committing .untouched))
      else
        some (w.goTo i (afterAuthority (transactions.requests i).intent
          (transactions.surroundings i).authority))
    else
      none
  | .ensure i =>
    if w.phases i = .ensuring then
      if (w.visible i).isSome then
        some (w.goTo i .reading)
      else if w.free i then
        some ((w.write i (transactions.input i).initialProfile).goTo i .reading)
      else
        none
    else
      none
  | .read i =>
    if w.phases i = .reading then
      match w.visible i with
      | none => none
      | some current =>
        match claimFromRead (transactions.requests i).intent current with
        | some _ => some (w.goTo i (.auditing .untouched))
        | none => some (w.goTo i (.claiming current.lifecycleStatus))
    else
      none
  | .claim i =>
    match w.phases i with
    | .claiming previousStatus =>
      if w.free i then
        match (w.visible i).bind
            (claimRow (transactions.surroundings i).now (transactions.input i)) with
        | some claimed =>
          some ((w.write i claimed).goTo i (.finalizing previousStatus claimed))
        | none => some (w.goTo i .readingBusy)
      else
        none
    | _ => none
  | .readBusy i =>
    if w.phases i = .readingBusy then
      match w.visible i with
      | none => none
      | some busy =>
        match claimFromBusy (transactions.input i) busy with
        | .inProgress _ => some (w.goTo i (.committing .untouched))
        | _ => some (w.goTo i (.auditing .untouched))
    else
      none
  | .finalize i =>
    match w.phases i, w.written i with
    | .finalizing previousStatus claimed, some row =>
      match finalizeRow transactions i previousStatus claimed row with
      | some (final, ending) => some ((w.write i final).goTo i (.auditing ending))
      | none => none
    | _, _ => none
  | .noteDenied i =>
    if w.phases i = .denying ∧ w.free i then
      let profile := (w.visible i).getD (transactions.input i).initialProfile
      some ((w.write i
        { profile with
          lastRequestId := some (transactions.requests i).requestId
          lastErrorCode := preconditionDenial (transactions.requests i).intent
            (transactions.surroundings i).authority }).goTo i (.auditing .untouched))
    else
      none
  | .writeEvent i =>
    match w.phases i with
    | .auditing ending => some (w.goTo i (.committing ending))
    | _ => none
  | .commit i =>
    match w.phases i with
    | .committing _ =>
      some
        { committed := w.visible i
          uncommitted := if (w.written i).isSome then none else w.uncommitted
          phases := Function.update w.phases i .over }
    | _ => none
  | .rollback i =>
    if w.phases i ≠ .idle ∧ w.phases i ≠ .over then
      some
        { committed := w.committed
          uncommitted := if (w.written i).isSome then none else w.uncommitted
          phases := Function.update w.phases i .over }
    else
      none

def RowWorld.committedStatus (w : RowWorld) : ResearchAgentLifecycleStatus :=
  match w.committed with
  | some profile => profile.lifecycleStatus
  | none => .disabled

/-- Nothing has begun. -/
structure Quiescent (w : RowWorld) : Prop where
  unwritten : w.uncommitted = none
  idle : ∀ i, w.phases i = .idle

section Rows

variable {w : RowWorld}
variable {i k : Nat}
variable {profile : ResearchAgentLifecycleProfile}

@[simp] theorem goTo_committed : (w.goTo i phase).committed = w.committed := by
  rfl

@[simp] theorem goTo_written : (w.goTo i phase).written k = w.written k := by
  rfl

@[simp] theorem goTo_phases : (w.goTo i phase).phases = Function.update w.phases i phase := by
  rfl

@[simp] theorem write_committed : (w.write i profile).committed = w.committed := by
  rfl

@[simp] theorem write_phases : (w.write i profile).phases = w.phases := by
  rfl

@[simp] theorem write_written_self : (w.write i profile).written i = some profile := by
  simp [RowWorld.write, RowWorld.written]

theorem write_written_of_ne (h : k ≠ i) : (w.write i profile).written k = none := by
  simp [RowWorld.write, RowWorld.written, h.symm]

theorem written_of_free (hfree : w.free i = true) (h : k ≠ i) : w.written k = none := by
  simp only [RowWorld.free, RowWorld.written] at hfree ⊢
  cases huncommitted : w.uncommitted with
  | none => rfl
  | some entry =>
    obtain ⟨owner, row⟩ := entry
    rw [huncommitted] at hfree
    have howner : owner = i := by simpa using hfree
    subst howner
    simp [h.symm]

theorem free_of_written (h : w.written i ≠ none) : w.free i = true := by
  simp only [RowWorld.free, RowWorld.written] at h ⊢
  cases huncommitted : w.uncommitted with
  | none => rfl
  | some entry =>
    obtain ⟨owner, row⟩ := entry
    rw [huncommitted] at h
    by_cases howner : owner = i
    · simp [howner]
    · simp [howner] at h

theorem visible_of_written (h : w.written i = some profile) : w.visible i = some profile := by
  simp [RowWorld.visible, h]

theorem visible_of_unwritten (h : w.written i = none) : w.visible i = w.committed := by
  simp [RowWorld.visible, h]

theorem written_of_released {committed : Option ResearchAgentLifecycleProfile}
    {phases : Nat → TransactionPhase} :
    RowWorld.written
        { committed := committed
          uncommitted := if (w.written i).isSome then none else w.uncommitted
          phases := phases } k =
      if k = i then none else w.written k := by
  cases hwritten : w.written i with
  | none =>
    by_cases hk : k = i
    · subst hk
      simpa [RowWorld.written] using hwritten
    · simp [RowWorld.written, hk]
  | some row =>
    have hfree := free_of_written (w := w) (i := i) (by simp [hwritten])
    by_cases hk : k = i
    · simp [RowWorld.written, hk]
    · have hother := written_of_free hfree hk
      simp [hk, hother]
      simp [RowWorld.written]

end Rows

section Frames

variable {k : Nat}

@[simp] def RowEvent.transaction : RowEvent → Nat
  | .start i _ => i
  | .ensure i => i
  | .read i => i
  | .claim i => i
  | .readBusy i => i
  | .finalize i => i
  | .noteDenied i => i
  | .writeEvent i => i
  | .commit i => i
  | .rollback i => i

structure LeavesAlone (w w' : RowWorld) (k : Nat) : Prop where
  phase : w'.phases k = w.phases k
  written : w'.written k = w.written k
  committed : w.written k ≠ none → w'.committed = w.committed

theorem leavesAlone_goTo {i : Nat} {phase : TransactionPhase} (h : k ≠ i) :
    LeavesAlone w (w.goTo i phase) k :=
  ⟨by simp [h], rfl, fun _ => rfl⟩

theorem leavesAlone_write {i : Nat} {phase : TransactionPhase}
    {profile : ResearchAgentLifecycleProfile} (hfree : w.free i = true) (h : k ≠ i) :
    LeavesAlone w ((w.write i profile).goTo i phase) k := by
  refine ⟨by simp [h], ?_, fun _ => rfl⟩
  rw [goTo_written, write_written_of_ne h, written_of_free hfree h]

/-- The statements of a transaction, by what they do to the row and to its own phase. -/
inductive StatementStep (transactions : Transactions) (w : RowWorld) : RowEvent → RowWorld → Prop
  | started (i : Nat) (known : Bool) (next : TransactionPhase) (hphase : w.phases i = .idle)
      (hnext : next = .committing .untouched ∨ next = .ensuring ∨ next = .denying) :
    StatementStep transactions w (.start i known) (w.goTo i next)
  | ensured (i : Nat) (hphase : w.phases i = .ensuring) :
    StatementStep transactions w (.ensure i) (w.goTo i .reading)
  | created (i : Nat) (hphase : w.phases i = .ensuring) (hfree : w.free i = true)
      (hnone : w.visible i = none) :
    StatementStep transactions w (.ensure i)
      ((w.write i (transactions.input i).initialProfile).goTo i .reading)
  | decided (i : Nat) (hphase : w.phases i = .reading) :
    StatementStep transactions w (.read i) (w.goTo i (.auditing .untouched))
  | undecided (i : Nat) (current : ResearchAgentLifecycleProfile)
      (hphase : w.phases i = .reading) (hvisible : w.visible i = some current) :
    StatementStep transactions w (.read i) (w.goTo i (.claiming current.lifecycleStatus))
  | claimed (i : Nat) (previousStatus : ResearchAgentLifecycleStatus)
      (profile : ResearchAgentLifecycleProfile)
      (hphase : w.phases i = .claiming previousStatus) (hfree : w.free i = true) :
    StatementStep transactions w (.claim i)
      ((w.write i profile).goTo i (.finalizing previousStatus profile))
  | missed (i : Nat) (previousStatus : ResearchAgentLifecycleStatus)
      (hphase : w.phases i = .claiming previousStatus) :
    StatementStep transactions w (.claim i) (w.goTo i .readingBusy)
  | busy (i : Nat) (next : TransactionPhase) (hphase : w.phases i = .readingBusy)
      (hnext : next = .committing .untouched ∨ next = .auditing .untouched) :
    StatementStep transactions w (.readBusy i) (w.goTo i next)
  | finalized (i : Nat) (previousStatus : ResearchAgentLifecycleStatus)
      (claimed row final : ResearchAgentLifecycleProfile) (ending : Ending)
      (hphase : w.phases i = .finalizing previousStatus claimed) (hwritten : w.written i = some row)
      (hfinal : finalizeRow transactions i previousStatus claimed row = some (final, ending)) :
    StatementStep transactions w (.finalize i) ((w.write i final).goTo i (.auditing ending))
  | noted (i : Nat) (profile : ResearchAgentLifecycleProfile) (hphase : w.phases i = .denying)
      (hfree : w.free i = true) :
    StatementStep transactions w (.noteDenied i)
      ((w.write i profile).goTo i (.auditing .untouched))
  | audited (i : Nat) (ending : Ending) (hphase : w.phases i = .auditing ending) :
    StatementStep transactions w (.writeEvent i) (w.goTo i (.committing ending))
  | committed (i : Nat) (ending : Ending) (hphase : w.phases i = .committing ending) :
    StatementStep transactions w (.commit i)
      { committed := w.visible i
        uncommitted := if (w.written i).isSome then none else w.uncommitted
        phases := Function.update w.phases i .over }
  | rolledBack (i : Nat) (hover : w.phases i ≠ .over) :
    StatementStep transactions w (.rollback i)
      { committed := w.committed
        uncommitted := if (w.written i).isSome then none else w.uncommitted
        phases := Function.update w.phases i .over }

theorem statementStep_of_step (hstep : rowStep transactions w event = some w') :
    StatementStep transactions w event w' := by
  cases event with
  | start i known =>
    simp only [rowStep, Option.ite_none_right_eq_some] at hstep
    obtain ⟨hphase, hstep⟩ := hstep
    split at hstep
    · cases hstep
      exact .started i known _ hphase (.inl rfl)
    · cases hstep
      refine .started i known _ hphase ?_
      unfold afterAuthority
      split
      · exact .inr (.inl rfl)
      · split
        · exact .inl rfl
        · exact .inr (.inr rfl)
  | ensure i =>
    simp only [rowStep, Option.ite_none_right_eq_some] at hstep
    obtain ⟨hphase, hstep⟩ := hstep
    split at hstep
    · cases hstep
      exact .ensured i hphase
    · next hvisible =>
        obtain ⟨hfree, rfl⟩ := Option.ite_some_none_eq_some.mp hstep
        exact .created i hphase hfree (by simpa using hvisible)
  | read i =>
    simp only [rowStep, Option.ite_none_right_eq_some] at hstep
    obtain ⟨hphase, hstep⟩ := hstep
    split at hstep
    · cases hstep
    · next current hvisible =>
        split at hstep <;> cases hstep
        · exact .decided i hphase
        · exact .undecided i current hphase hvisible
  | claim i =>
    simp only [rowStep] at hstep
    split at hstep
    · next previousStatus hphase =>
        simp only [Option.ite_none_right_eq_some] at hstep
        obtain ⟨hfree, hstep⟩ := hstep
        split at hstep <;> cases hstep
        · exact .claimed i previousStatus _ hphase hfree
        · exact .missed i previousStatus hphase
    · cases hstep
  | readBusy i =>
    simp only [rowStep, Option.ite_none_right_eq_some] at hstep
    obtain ⟨hphase, hstep⟩ := hstep
    split at hstep
    · cases hstep
    · split at hstep <;> cases hstep
      · exact .busy i _ hphase (.inl rfl)
      · exact .busy i _ hphase (.inr rfl)
  | finalize i =>
    simp only [rowStep] at hstep
    split at hstep
    · next hphase hwritten =>
        split at hstep
        · next hfinal =>
            cases hstep
            exact .finalized i _ _ _ _ _ hphase hwritten hfinal
        · cases hstep
    · cases hstep
  | noteDenied i =>
    obtain ⟨⟨hphase, hfree⟩, rfl⟩ := Option.ite_some_none_eq_some.mp hstep
    exact .noted i _ hphase hfree
  | writeEvent i =>
    simp only [rowStep] at hstep
    split at hstep
    · next ending hphase =>
        cases hstep
        exact .audited i ending hphase
    · cases hstep
  | commit i =>
    simp only [rowStep] at hstep
    split at hstep
    · next ending hphase =>
        cases hstep
        exact .committed i ending hphase
    · cases hstep
  | rollback i =>
    obtain ⟨⟨_, hover⟩, rfl⟩ := Option.ite_some_none_eq_some.mp hstep
    exact .rolledBack i hover

theorem step_leavesAlone (hstep : rowStep transactions w event = some w')
    (hk : k ≠ event.transaction) : LeavesAlone w w' k := by
  cases statementStep_of_step hstep with
  | created i _ hfree => exact leavesAlone_write hfree hk
  | claimed i _ _ _ hfree => exact leavesAlone_write hfree hk
  | noted i _ _ hfree => exact leavesAlone_write hfree hk
  | finalized i _ _ _ _ _ _ hwritten =>
    exact leavesAlone_write (free_of_written (by simp [hwritten])) hk
  | committed i =>
    have hne : k ≠ i := hk
    refine ⟨by simp [hne], by rw [written_of_released, if_neg hne], ?_⟩
    intro hwritten
    exact visible_of_unwritten (written_of_free (free_of_written hwritten) hne.symm)
  | rolledBack i =>
    have hne : k ≠ i := hk
    exact ⟨by simp [hne], by rw [written_of_released, if_neg hne], fun _ => rfl⟩
  | _ => exact leavesAlone_goTo hk

end Frames

/-- The phases in which a transaction has written nothing. -/
@[simp] def TransactionPhase.unwriting : TransactionPhase → Bool
  | .idle | .ensuring | .denying | .over => true
  | _ => false

/-- The phases in which a transaction has written at most the initial row. -/
@[simp] def TransactionPhase.early : TransactionPhase → Bool
  | .reading | .claiming _ => true
  | _ => false

/-- What a transaction has done, once it has written its profile. -/
@[simp] def TransactionPhase.ending : TransactionPhase → Option Ending
  | .auditing ending => some ending
  | .committing ending => some ending
  | _ => none

structure OrderlyAt (w : RowWorld) (i : Nat) : Prop where
  unwritten : (w.phases i).unwriting = true → w.written i = none
  fresh :
    (w.phases i).early = true →
      ∀ row, w.written i = some row →
        row.lifecycleStatus = .disabled ∧ w.committed = none
  failed :
    ∀ outcome fromStatus,
      (w.phases i).ending = some (.failed outcome fromStatus) →
      ∃ row, w.written i = some row ∧
        row.lifecycleStatus = failureStatus outcome (some fromStatus)

theorem OrderlyAt.of_leavesAlone (h : OrderlyAt w i) (halone : LeavesAlone w w' i) :
    OrderlyAt w' i := by
  refine ⟨?_, ?_, ?_⟩
  · rw [halone.phase, halone.written]
    exact h.unwritten
  · rw [halone.phase, halone.written]
    intro hearly row hrow
    obtain ⟨hstatus, hcommitted⟩ := h.fresh hearly row hrow
    exact ⟨hstatus, (halone.committed (by simp [hrow])).trans hcommitted⟩
  · rw [halone.phase, halone.written]
    exact h.failed

theorem orderlyAt_goTo {phase : TransactionPhase} (hunwriting : phase.unwriting = false)
    (hearly : phase.early = false)
    (hending : ∀ outcome fromStatus, phase.ending ≠ some (.failed outcome fromStatus)) :
    OrderlyAt (w.goTo i phase) i := by
  have hphase : (w.goTo i phase).phases i = phase := by simp
  refine ⟨?_, ?_, ?_⟩ <;> rw [hphase]
  · intro h
    rw [hunwriting] at h
    cases h
  · intro h
    rw [hearly] at h
    cases h
  · intro outcome fromStatus h
    exact absurd h (hending outcome fromStatus)

theorem orderlyAt_of_unwritten (hwritten : w.written i = none)
    (hending : ∀ outcome fromStatus,
      (w.phases i).ending ≠ some (.failed outcome fromStatus)) :
    OrderlyAt w i := by
  refine ⟨fun _ => hwritten, ?_, ?_⟩
  · intro _ row hrow
    rw [hwritten] at hrow
    cases hrow
  · intro outcome fromStatus h
    exact absurd h (hending outcome fromStatus)

theorem finalizeRow_failed {previousStatus fromStatus : ResearchAgentLifecycleStatus}
    {claimed row final : ResearchAgentLifecycleProfile} {outcome : ResearchAgentLifecycleOutcome}
    (h : finalizeRow transactions i previousStatus claimed row =
      some (final, .failed outcome fromStatus)) :
    fromStatus = previousStatus ∧
      final.lifecycleStatus = failureStatus outcome (some previousStatus) := by
  simp only [finalizeRow] at h
  split at h
  · simp at h
  · obtain ⟨found, hfound, heq⟩ := Option.map_eq_some_iff.mp h
    simp only [Prod.mk.injEq, Ending.failed.injEq] at heq
    obtain ⟨rfl, rfl, rfl⟩ := heq
    simp only [finalizeFailureRow, Option.ite_none_right_eq_some, Option.some.injEq] at hfound
    obtain ⟨_, rfl⟩ := hfound
    exact ⟨rfl, rfl⟩

theorem orderlyAt_own (hstep : rowStep transactions w event = some w')
    (h : OrderlyAt w event.transaction) : OrderlyAt w' event.transaction := by
  have hunwritten : ∀ {i phase}, OrderlyAt w i → w.phases i = phase → phase.unwriting = true →
      w.written i = none := by
    rintro i _ horderly rfl hunwriting
    exact horderly.unwritten hunwriting
  cases statementStep_of_step hstep with
  | started i known next hphase hnext =>
    refine orderlyAt_of_unwritten (hunwritten h hphase rfl) ?_
    rcases hnext with rfl | rfl | rfl <;>
      simp
  | ensured i hphase =>
    exact orderlyAt_of_unwritten (hunwritten h hphase rfl)
      (by simp)
  | created i hphase _ hnone =>
    have hcommitted := (visible_of_unwritten (hunwritten h hphase rfl)).symm.trans hnone
    refine ⟨by simp, ?_,
      by simp⟩
    intro _ row hrow
    simp only [RowEvent.transaction, goTo_written, write_written_self, Option.some.injEq] at hrow
    subst hrow
    exact ⟨rfl, hcommitted⟩
  | undecided i current hphase =>
    refine ⟨by simp, ?_,
      by simp⟩
    intro _ row hrow
    refine h.fresh ?_ row hrow
    change (w.phases i).early = true
    rw [hphase]
    rfl
  | busy i next _ hnext => rcases hnext with rfl | rfl <;> exact orderlyAt_goTo rfl rfl nofun
  | finalized i previousStatus claimed row final ending _ _ hfinal =>
    refine ⟨by simp,
      by simp, ?_⟩
    intro outcome fromStatus hending
    simp only [RowEvent.transaction, goTo_phases, Function.update_self,
      TransactionPhase.ending, Option.some.injEq] at hending
    subst hending
    obtain ⟨rfl, hstatus⟩ := finalizeRow_failed hfinal
    exact ⟨_, by simp, hstatus⟩
  | audited i ending hphase =>
    refine ⟨by simp,
      by simp, ?_⟩
    intro outcome fromStatus hending
    refine h.failed outcome fromStatus ?_
    change (w.phases i).ending = _
    rw [hphase]
    simpa using hending
  | committed i =>
    exact orderlyAt_of_unwritten ((written_of_released (k := i)).trans (if_pos rfl))
      (by simp)
  | rolledBack i =>
    exact orderlyAt_of_unwritten ((written_of_released (k := i)).trans (if_pos rfl))
      (by simp)
  | _ => exact orderlyAt_goTo rfl rfl nofun

theorem orderly_of_run {w₀ : RowWorld} {events : List RowEvent} (hquiet : Quiescent w₀)
    (hrun : Run (Fires (rowStep transactions)) w₀ events w) : ∀ i, OrderlyAt w i := by
  refine hrun.preserves (I := fun w => ∀ i, OrderlyAt w i) ?_ ?_
  · intro w event w' hstep h i
    by_cases hi : i = event.transaction
    · exact hi ▸ orderlyAt_own hstep (h _)
    · exact (h i).of_leavesAlone (step_leavesAlone hstep hi)
  · intro i
    refine orderlyAt_of_unwritten ?_ ?_
    · simp [RowWorld.written, hquiet.unwritten]
    · simp [hquiet.idle, TransactionPhase.ending]

theorem transaction_of_phase (hstep : rowStep transactions w event = some w')
    (h : w'.phases i ≠ w.phases i) : event.transaction = i := by
  by_contra hne
  exact h (step_leavesAlone hstep (Ne.symm hne)).phase

@[simp] def TransactionPhase.rank : TransactionPhase → Nat
  | .idle => 0
  | .ensuring | .denying => 1
  | .reading => 2
  | .claiming _ => 3
  | .readingBusy | .finalizing _ _ => 4
  | .auditing _ => 5
  | .committing _ => 6
  | .over => 7

theorem rank_le_of_step (hstep : rowStep transactions w event = some w') :
    (w.phases i).rank ≤ (w'.phases i).rank := by
  by_cases hi : i = event.transaction
  · subst hi
    cases statementStep_of_step hstep with
    | started i known next hphase hnext => rcases hnext with rfl | rfl | rfl <;> simp [hphase]
    | busy i next hphase hnext => rcases hnext with rfl | rfl <;> simp [hphase]
    | rolledBack i => cases hphase : w.phases i <;> simp [hphase]
    | _ => simp [*]
  · rw [(step_leavesAlone hstep hi).phase]

@[simp] def TransactionPhase.claimedFrom :
    TransactionPhase → Option ResearchAgentLifecycleStatus
  | .finalizing previousStatus _ => some previousStatus
  | .auditing (.failed _ fromStatus) => some fromStatus
  | .committing (.failed _ fromStatus) => some fromStatus
  | _ => none

theorem claim_entry (hstep : rowStep transactions w event = some w')
    (hbefore : (w.phases i).claimedFrom ≠ some status)
    (hafter : (w'.phases i).claimedFrom = some status) :
    event = .claim i ∧ w.phases i = .claiming status := by
  obtain rfl : event.transaction = i := by
    refine transaction_of_phase hstep ?_
    intro heq
    exact hbefore (heq ▸ hafter)
  cases statementStep_of_step hstep with
  | claimed i previousStatus profile hphase =>
    obtain rfl : previousStatus = status := by simpa using hafter
    exact ⟨rfl, hphase⟩
  | finalized i previousStatus claimed row final ending hphase _ hfinal =>
    cases ending with
    | failed outcome fromStatus =>
      obtain ⟨rfl, _⟩ := finalizeRow_failed hfinal
      exact absurd (by simpa using hafter) (by simpa [hphase] using hbefore)
    | _ => simp at hafter
  | audited i ending hphase => cases ending <;> simp_all
  | started i known next _ hnext => rcases hnext with rfl | rfl | rfl <;> simp at hafter
  | busy i next _ hnext => rcases hnext with rfl | rfl <;> simp at hafter
  | _ => simp at hafter

theorem read_entry (hstep : rowStep transactions w event = some w')
    (hbefore : w.phases i ≠ .claiming status) (hafter : w'.phases i = .claiming status) :
    event = .read i ∧ w.phases i = .reading ∧
      ∃ current, w.visible i = some current ∧ current.lifecycleStatus = status := by
  obtain rfl : event.transaction = i := by
    refine transaction_of_phase hstep ?_
    intro heq
    exact hbefore (heq ▸ hafter)
  cases statementStep_of_step hstep with
  | undecided i current hphase hvisible =>
    exact ⟨rfl, hphase, current, hvisible, by simpa using hafter⟩
  | started i known next _ hnext => rcases hnext with rfl | rfl | rfl <;> simp at hafter
  | busy i next _ hnext => rcases hnext with rfl | rfl <;> simp at hafter
  | _ => simp at hafter

section Failures

variable {w₀ w w' : RowWorld}
variable {events : List RowEvent}

def KeepsStatus (transactions : Transactions) : RowWorld → RowEvent → RowWorld → Prop :=
  fun w event w' =>
    Fires (rowStep transactions) w event w' ∧ w'.committedStatus = w.committedStatus

theorem committedStatus_of_keeps (hrun : Run (KeepsStatus transactions) w events w') :
    w'.committedStatus = w.committedStatus := by
  refine hrun.preserves (I := fun q => q.committedStatus = w.committedStatus) ?_ rfl
  intro p event q hstep hp
  exact hstep.2.trans hp

theorem claimed_event (hstep : rowStep transactions w event = some w') (hi : event.transaction = i)
    (hbefore : (w.phases i).claimedFrom = some status)
    (hafter : (w'.phases i).claimedFrom = some status) :
    event = .finalize i ∨ event = .writeEvent i := by
  subst hi
  cases statementStep_of_step hstep with
  | finalized => exact Or.inl rfl
  | audited => exact Or.inr rfl
  | claimed i previousStatus profile hphase => simp [hphase] at hbefore
  | started i known next _ hnext => rcases hnext with rfl | rfl | rfl <;> simp at hafter
  | busy i next _ hnext => rcases hnext with rfl | rfl <;> simp at hafter
  | _ => simp at hafter

theorem claimed_holds (hstep : rowStep transactions w event = some w')
    (hwritten : w.written i ≠ none) (hbefore : (w.phases i).claimedFrom = some status)
    (hafter : (w'.phases i).claimedFrom = some status) :
    w'.written i ≠ none ∧ w'.committed = w.committed := by
  by_cases hi : event.transaction = i
  · rcases claimed_event hstep hi hbefore hafter with rfl | rfl
    · cases statementStep_of_step hstep
      exact ⟨by simp, rfl⟩
    · cases statementStep_of_step hstep
      exact ⟨hwritten, rfl⟩
  · have halone := step_leavesAlone hstep (Ne.symm hi)
    rw [halone.written]
    exact ⟨hwritten, halone.committed hwritten⟩

theorem claim_writes (hstep : rowStep transactions w (.claim i) = some w')
    (hafter : (w'.phases i).claimedFrom = some status) : w'.written i ≠ none := by
  cases statementStep_of_step hstep with
  | claimed => simp
  | missed => simp at hafter

theorem rank_of_claim (hstep : rowStep transactions w (.claim i) = some w') :
    (∃ previousStatus, w.phases i = .claiming previousStatus) ∧ 4 ≤ (w'.phases i).rank := by
  cases statementStep_of_step hstep with
  | claimed _ previousStatus _ hphase => exact ⟨⟨previousStatus, hphase⟩, by simp⟩
  | missed _ previousStatus hphase => exact ⟨⟨previousStatus, hphase⟩, by simp⟩

theorem rank_of_read (hstep : rowStep transactions w (.read i) = some w') :
    w.phases i = .reading ∧ 3 ≤ (w'.phases i).rank := by
  cases statementStep_of_step hstep with
  | decided _ hphase => exact ⟨hphase, by simp⟩
  | undecided _ _ hphase => exact ⟨hphase, by simp⟩

theorem read_status {current : ResearchAgentLifecycleProfile} (horderly : OrderlyAt w i)
    (hphase : w.phases i = .reading) (hvisible : w.visible i = some current) :
    current.lifecycleStatus = w.committedStatus := by
  cases hwritten : w.written i with
  | none =>
    rw [visible_of_unwritten hwritten] at hvisible
    simp [RowWorld.committedStatus, hvisible]
  | some row =>
    obtain ⟨hstatus, hcommitted⟩ := horderly.fresh (by rw [hphase]; rfl) row hwritten
    rw [visible_of_written hwritten] at hvisible
    cases hvisible
    simp [RowWorld.committedStatus, hcommitted, hstatus]

theorem claimed_since {after : List RowEvent} {atClaim claimed : RowWorld}
    (hclaim : rowStep transactions atClaim (.claim i) = some claimed)
    (hafter : Run (Fires (rowStep transactions)) claimed after w)
    (hend : (w.phases i).claimedFrom = some status) :
    atClaim.phases i = .claiming status ∧ Run (KeepsStatus transactions) claimed after w := by
  obtain ⟨⟨previousStatus, hbefore⟩, hrank⟩ := rank_of_claim hclaim
  have hall := hafter.within_of_end
    (I := fun w => 4 ≤ (w.phases i).rank)
    (Q := fun w => (w.phases i).claimedFrom = some status)
    (fun p a q hstep hp => hp.trans (rank_le_of_step hstep))
    (by
      intro p a q hstep hp hq
      by_contra hne
      obtain ⟨_, hclaiming⟩ := claim_entry hstep hne hq
      rw [hclaiming] at hp
      simp [TransactionPhase.rank] at hp)
    hrank hend
  obtain ⟨hclaimed, hwithin⟩ := hall
  have hentry := claim_entry hclaim (by simp [hbefore, TransactionPhase.claimedFrom]) hclaimed
  refine ⟨hentry.2, ?_⟩
  refine hwithin.into (I := fun w => w.written i ≠ none) ?_ (claim_writes hclaim hclaimed)
  rintro p a q ⟨hp, hstep, hq⟩ hwritten
  obtain ⟨hheld, hcommitted⟩ := claimed_holds hstep hwritten hp hq
  exact ⟨hheld, hstep, by simp [RowWorld.committedStatus, hcommitted]⟩

theorem ready_since {between : List RowEvent} {atRead read : RowWorld}
    (horderly : OrderlyAt atRead i) (hread : rowStep transactions atRead (.read i) = some read)
    (hbetween : Run (Fires (rowStep transactions)) read between w)
    (hend : w.phases i = .claiming status) : status = atRead.committedStatus := by
  obtain ⟨hbefore, hrank⟩ := rank_of_read hread
  have hall := hbetween.within_of_end
    (I := fun w => 3 ≤ (w.phases i).rank)
    (Q := fun w => w.phases i = .claiming status)
    (fun p a q hstep hp => hp.trans (rank_le_of_step hstep))
    (by
      intro p a q hstep hp hq
      by_contra hne
      obtain ⟨_, hreading, _⟩ := read_entry hstep hne hq
      rw [hreading] at hp
      simp [TransactionPhase.rank] at hp)
    hrank hend
  obtain ⟨_, _, current, hvisible, hstatus⟩ := read_entry hread (by simp [hbefore]) hall.1
  rw [← hstatus]
  exact read_status horderly hbefore hvisible

theorem exists_read_and_claim (hquiet : Quiescent w₀)
    (hrun : Run (Fires (rowStep transactions)) w₀ events w)
    (hend : (w.phases i).claimedFrom = some status) :
    ∃ before between after,
      events = before ++ .read i :: (between ++ .claim i :: after) := by
  obtain ⟨pre, event, after, p, q, rfl, hpre, hp, hstep, hq, _⟩ :=
    hrun.exists_entry (Q := fun w => (w.phases i).claimedFrom = some status)
      (by simp [hquiet.idle, TransactionPhase.claimedFrom]) hend
  obtain ⟨rfl, hclaiming⟩ := claim_entry hstep hp hq
  obtain ⟨before, event, between, p, q, rfl, _, hp, hstep, hq, _⟩ :=
    hpre.exists_entry (Q := fun w => w.phases i = .claiming status)
      (by simp [hquiet.idle]) hclaiming
  obtain ⟨rfl, _⟩ := read_entry hstep hp hq
  exact ⟨before, between, after, by simp⟩

structure LeavesStatus
    (transactions : Transactions)
    (w₀ : RowWorld)
    (events : List RowEvent)
    (w w' : RowWorld)
    (i : Nat)
    (outcome : ResearchAgentLifecycleOutcome) : Prop where
  retryable :
    outcome = .retryableFailure →
      w'.committedStatus = .blockedRetryable
  claimed :
    ∃ before between after,
      events = before ++ .read i :: (between ++ .claim i :: after)
  refused :
    ∀ before between after atRead read atClaim claimed,
      events = before ++ .read i :: (between ++ .claim i :: after) →
      Run (Fires (rowStep transactions)) w₀ before atRead →
      rowStep transactions atRead (.read i) = some read →
      Run (Fires (rowStep transactions)) read between atClaim →
      rowStep transactions atClaim (.claim i) = some claimed →
      Run (Fires (rowStep transactions)) claimed after w →
        Run (KeepsStatus transactions) claimed after w ∧
        (outcome ≠ .retryableFailure →
          Run (KeepsStatus transactions) read between atClaim →
            w'.committedStatus = atClaim.committedStatus)

/--
A transaction that commits a retryable failure leaves the profile blocked.
One that commits any other failure leaves the status that was committed just
before its claiming update, if no commit has changed it since the transaction
read the profile; from the claiming update on none can.
-/
theorem failure_leaves_status (transactions : Transactions) {w₀ w w' : RowWorld}
    {events : List RowEvent} {i : Nat} {outcome : ResearchAgentLifecycleOutcome}
    {fromStatus : ResearchAgentLifecycleStatus} (hquiet : Quiescent w₀)
    (hrun : Run (Fires (rowStep transactions)) w₀ events w)
    (hphase : w.phases i = .committing (.failed outcome fromStatus))
    (hcommit : rowStep transactions w (.commit i) = some w') :
    LeavesStatus transactions w₀ events w w' i outcome := by
  have hend : (w.phases i).claimedFrom = some fromStatus := by
    rw [hphase]
    rfl
  have hfinal : w'.committedStatus = failureStatus outcome (some fromStatus) := by
    obtain ⟨row, hwritten, hstatus⟩ :=
      (orderly_of_run hquiet hrun i).failed outcome fromStatus (by rw [hphase]; rfl)
    simp only [rowStep, hphase, Option.some.injEq] at hcommit
    subst hcommit
    simpa [RowWorld.committedStatus, visible_of_written hwritten] using hstatus
  refine ⟨?_, exists_read_and_claim hquiet hrun hend, ?_⟩
  · rintro rfl
    rw [hfinal]
    rfl
  · intro before between after atRead read atClaim claimed _ hbefore hread hbetween hclaim hafter
    obtain ⟨hclaiming, hkept⟩ := claimed_since hclaim hafter hend
    refine ⟨hkept, ?_⟩
    intro hinternal hunchanged
    have hread_step : read.committedStatus = atRead.committedStatus := by
      simp only [rowStep, Option.ite_none_right_eq_some] at hread
      obtain ⟨_, hread⟩ := hread
      split at hread
      · cases hread
      · split at hread <;> cases hread <;> rfl
    have hstatus := ready_since (orderly_of_run hquiet hbefore i) hread hbetween hclaiming
    calc
      w'.committedStatus = failureStatus outcome (some fromStatus) := hfinal
      _ = fromStatus := by simp [failureStatus, hinternal]
      _ = atRead.committedStatus := hstatus
      _ = read.committedStatus := hread_step.symm
      _ = atClaim.committedStatus := (committedStatus_of_keeps hunchanged).symm

/--
Every transaction that commits a failure leaves the status that was committed
just before its claiming update.
-/
def LeavesReplacedStatus (transactions : Transactions) : Prop :=
  ∀ w₀ w w' atClaim claimed before after i outcome fromStatus,
    Quiescent w₀ →
    Run (Fires (rowStep transactions)) w₀ before atClaim →
    rowStep transactions atClaim (.claim i) = some claimed →
    Run (Fires (rowStep transactions)) claimed after w →
    w.phases i = .committing (.failed outcome fromStatus) →
    rowStep transactions w (.commit i) = some w' →
    w'.committedStatus = atClaim.committedStatus

/-- Activations of one account: the first gets the given reply about its agent, the others succeed.
-/
def activations (agentReply : ControlReply AgentBody) : Transactions :=
  { identity := "770061"
    requests := fun i => lifecycleRequest .activate (if i = 0 then "r0" else "r1")
    surroundings := fun i =>
      if i = 0 then
        { willingSurroundings with provisionAgentReply := agentReply }
      else
        willingSurroundings }

def disabledWorld : RowWorld :=
  { committed := some ((activations .unreachable).input 0).initialProfile
    uncommitted := none
    phases := fun _ => .idle }

theorem disabledWorld_quiescent :
    Quiescent disabledWorld :=
  ⟨rfl, fun _ => rfl⟩

def opening (i : Nat) : List RowEvent :=
  [.start i false, .ensure i, .read i]

/-- A transaction that is carried out from its claim to the event it writes. -/
def closing (i : Nat) : List RowEvent :=
  [.finalize i, .writeEvent i]

def observe (transactions : Transactions) (before after : List RowEvent) (i : Nat) :
    Option (ResearchAgentLifecycleStatus × TransactionPhase × ResearchAgentLifecycleStatus) :=
  (fire (rowStep transactions) disabledWorld before).bind fun atClaim =>
    (rowStep transactions atClaim (.claim i)).bind fun claimed =>
      (fire (rowStep transactions) claimed after).bind fun w =>
        (rowStep transactions w (.commit i)).map fun w' =>
          (atClaim.committedStatus, w.phases i, w'.committedStatus)

/-- A failure that is seen to change the status refutes that failures leave it. -/
theorem not_leavesReplacedStatus {transactions : Transactions} {before after : List RowEvent}
    {i : Nat} {outcome : ResearchAgentLifecycleOutcome}
    {replaced fromStatus final : ResearchAgentLifecycleStatus}
    (h : observe transactions before after i =
      some (replaced, .committing (.failed outcome fromStatus), final))
    (hne : final ≠ replaced) :
    ¬ LeavesReplacedStatus transactions := by
  intro hall
  obtain ⟨atClaim, hbefore, h⟩ := Option.bind_eq_some_iff.mp h
  obtain ⟨claimed, hclaim, h⟩ := Option.bind_eq_some_iff.mp h
  obtain ⟨w, hafter, h⟩ := Option.bind_eq_some_iff.mp h
  obtain ⟨w', hcommit, h⟩ := Option.map_eq_some_iff.mp h
  simp only [Prod.mk.injEq] at h
  obtain ⟨rfl, hphase, rfl⟩ := h
  exact hne (hall _ _ _ _ _ _ _ _ _ _ disabledWorld_quiescent (run_fires_iff.mpr hbefore)
    hclaim (run_fires_iff.mpr hafter) hphase hcommit)

/--
A failure that may be retried blocks the disabled profile it has claimed; and
one that may not be puts back the status it has read, over the activation that
another transaction has committed since.
-/
theorem replaced_status_lost :
    ¬ LeavesReplacedStatus (activations .unreachable) ∧
      ¬ LeavesReplacedStatus (activations (.response 404 .notJson)) := by
  constructor
  · have hblocked : observe (activations .unreachable) (opening 0) (closing 0) 0 =
        some (.disabled, .committing (.failed .retryableFailure .disabled),
          .blockedRetryable) := by
      decide
    exact not_leavesReplacedStatus hblocked (by decide)
  · have hraced : observe (activations (.response 404 .notJson))
        (opening 0 ++ opening 1 ++ [.claim 1] ++ closing 1 ++ [.commit 1]) (closing 0) 0 =
        some (.active, .committing (.failed .internalFailure .disabled), .disabled) := by
      decide
    exact not_leavesReplacedStatus hraced (by decide)

/-- An activation that is refused for good, alone, leaves the profile disabled as it was. -/
theorem failure_leaves_status_refused :
    ∃ w w',
      LeavesStatus (activations (.response 404 .notJson)) disabledWorld
        (opening 0 ++ .claim 0 :: closing 0) w w' 0 .internalFailure ∧
      w'.committedStatus = disabledWorld.committedStatus := by
  have hseen :
      ((fire (rowStep (activations (.response 404 .notJson))) disabledWorld
          (opening 0 ++ .claim 0 :: closing 0)).bind fun w =>
        (rowStep (activations (.response 404 .notJson)) w (.commit 0)).map fun w' =>
          (w.phases 0, w'.committedStatus)) =
      some (.committing (.failed .internalFailure .disabled), .disabled) := by
    decide
  obtain ⟨w, hrun, hseen⟩ := Option.bind_eq_some_iff.mp hseen
  obtain ⟨w', hcommit, hseen⟩ := Option.map_eq_some_iff.mp hseen
  obtain ⟨hphase, hstatus⟩ := Prod.mk.inj hseen
  exact ⟨w, w', failure_leaves_status _ disabledWorld_quiescent (run_fires_iff.mpr hrun)
    hphase hcommit, hstatus⟩

end Failures

end Aiphabee.ResearchAgent.ConcurrentClaims
