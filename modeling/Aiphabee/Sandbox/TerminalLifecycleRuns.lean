import Aiphabee.Sandbox.LeaseRegistryInvariant
import Aiphabee.Sandbox.TerminalLifecycle

/-!
# What every run of the terminal lifecycle keeps

`Ledger` says, for every wait of the lifecycle, what has become of the create,
which leases have been destroyed and which records have been written.  It is
kept by every event.  From it follows that a lifecycle which has nothing left to
do has written one record and destroyed every lease it was given, once
(`terminalLifecycle_exactly_once`); a potential shows that it gets there after a
bounded number of events, and that until then some event of its own is possible.
-/

namespace Aiphabee.TerminalLifecycle

open LeaseRegistry
open Transition

variable {input : RunSandboxTerminalLifecycleInput}
variable {s : LifecycleState}

section Ledger

def CreateState.lease? : CreateState → Option SandboxLease
  | .settled result => result
  | _ => none

/-- Nothing has been destroyed or recorded, and nothing is left to a continuation. -/
@[mk_iff] structure Untouched (s : LifecycleState) : Prop where
  late : s.late = .none
  destroyCalls : s.destroyCalls = []
  records : s.records = []

/-- The sandbox of this lease has been created, and is still to be destroyed. -/
@[mk_iff] structure InHand (lease : SandboxLease) (s : LifecycleState) : Prop where
  create : s.create = .settled (some lease)
  untouched : Untouched s

@[mk_iff] structure HandedOver (lease : SandboxLease) (s : LifecycleState) : Prop where
  create : s.create = .settled (some lease)
  late : s.late = .none
  destroyCalls : s.destroyCalls = [lease]
  records : s.records = []

@[mk_iff] structure Recorded (record : SandboxTerminalLifecycleRecord)
    (s : LifecycleState) : Prop where
  records : s.records = [record]
  done : s.late ≠ .registered →
    s.create ≠ .pending ∧ s.destroyCalls = s.create.lease?.toList
  registered : s.late = .registered → s.create ≠ .notCalled ∧ s.destroyCalls = []

/-- What has become of the create and its lease, wait by wait. -/
def LedgerAt (input : RunSandboxTerminalLifecycleInput) (s : LifecycleState) : LifecyclePhase → Prop
  | .rejected => validInput input = false ∧ s.create = .notCalled ∧ Untouched s
  | .creating won =>
    s.create ≠ .notCalled ∧ Untouched s ∧ s.hardFired = false ∧
      (won = none → s.createTimedOut = false) ∧
      ∀ result, won = some (.settlement (.create result)) → s.create = .settled result
  | .settlingCreate _ won =>
    s.create ≠ .notCalled ∧ Untouched s ∧ (won = none → s.createTimedOut = false) ∧
      ∀ result, won = some (.create result) → s.create = .settled result
  | .starting lease => InHand lease s ∧ s.hardFired = false
  | .executing lease won => InHand lease s ∧ (won = none → s.hardFired = false)
  | .killing lease _ _ => InHand lease s
  | .afterSoft lease _ won => InHand lease s ∧ (won = none → s.hardFired = false)
  | .destroyingCancelled _ lease _ => HandedOver lease s
  | .destroying lease _ _ => HandedOver lease s
  | .closing lease _ _ _ => HandedOver lease s
  | .recording record => Recorded record s
  | .returned record _ => Recorded record s

def Ledger (input : RunSandboxTerminalLifecycleInput) (s : LifecycleState) : Prop :=
  LedgerAt input s s.phase

theorem ledger_initialState (input : RunSandboxTerminalLifecycleInput) :
    Ledger input (initialState input) := by
  unfold initialState
  split
  · next hinvalid => exact ⟨hinvalid, rfl, rfl, rfl, rfl⟩
  · split
    · exact ⟨rfl, fun _ => ⟨by simp, rfl⟩, by simp⟩
    · exact ⟨by simp, ⟨rfl, rfl, rfl⟩, rfl, fun _ => rfl, by simp⟩

/-- What the ledger looks at. -/
def LifecycleState.accounts (s : LifecycleState) :=
  (s.phase, s.create, s.createTimedOut, s.hardFired, s.late, s.destroyCalls, s.records)

theorem Ledger.congr {s t : LifecycleState} (h : Ledger input s) (hsame : t.accounts = s.accounts) :
    Ledger input t := by
  simp only [LifecycleState.accounts, Prod.mk.injEq] at hsame
  obtain ⟨hphase, hcreate, htimer, hhard, hlate, hdestroy, hrecords⟩ := hsame
  unfold Ledger LedgerAt at h ⊢
  simp only [untouched_iff, inHand_iff, handedOver_iff, recorded_iff] at h ⊢
  rw [hphase, hcreate, htimer, hhard, hlate, hdestroy, hrecords]
  exact h

theorem ledger_offerCreate {create : CreateState} {createTimedOut : Bool}
    {settlement : CreateSettlement}
    (hcreate : settlement = .timeout ∧ create = s.create ∨
      s.create = .pending ∧ ∃ result, settlement = .create result ∧ create = .settled result)
    (h : Ledger input s) :
    Ledger input
      { s with
        create := create
        createTimedOut := createTimedOut
        phase := s.phase.offerCreate settlement } := by
  unfold Ledger LedgerAt LifecyclePhase.offerCreate at *
  cases hphase : s.phase <;>
    simp only [hphase, untouched_iff, inHand_iff, handedOver_iff, recorded_iff] at h ⊢ <;>
    grind [CreateState.lease?, Option.or_eq_some_iff, Option.or_eq_none_iff]

theorem ledger_offerStop {hardFired : Bool} (stop : StopRace)
    (hhard : hardFired = s.hardFired ∨ s.phase.deadlinesRun = true) (h : Ledger input s) :
    Ledger input { s with hardFired := hardFired, phase := s.phase.offerStop stop } := by
  unfold Ledger LedgerAt LifecyclePhase.offerStop LifecyclePhase.deadlinesRun at *
  cases hphase : s.phase <;>
    simp only [hphase, untouched_iff, inHand_iff, handedOver_iff, recorded_iff] at h ⊢ <;>
    grind [CreateState.lease?, Option.or_eq_some_iff, Option.or_eq_none_iff]

theorem ledger_offerControl {reason : SandboxLifecycleControlReason} (h : Ledger input s) :
    Ledger input { s with phase := s.phase.offerControl reason } := by
  cases hphase : s.phase with
  | creating won =>
    rw [Ledger, hphase] at h
    refine
      ⟨h.1, ⟨h.2.1.late, h.2.1.destroyCalls, h.2.1.records⟩, h.2.2.1, by simp, ?_⟩
    intro result hwon
    rcases Option.or_eq_some_iff.mp hwon with hold | ⟨_, hnew⟩
    · exact h.2.2.2.2 result hold
    · cases hnew
  | _ =>
    have hstop := ledger_offerStop (.control reason) (Or.inl rfl) h
    rw [hphase] at hstop
    exact hstop

theorem ledger_offerSoft (h : Ledger input s) :
    Ledger input { s with phase := s.phase.offerSoft } := by
  unfold Ledger LedgerAt LifecyclePhase.offerSoft at *
  cases hphase : s.phase <;>
    simp only [hphase, untouched_iff, inHand_iff, handedOver_iff, recorded_iff] at h ⊢ <;>
    grind [Option.or_eq_none_iff]

theorem ledger_offerClosing (outcome : Bounded Unit) (h : Ledger input s) :
    Ledger input { s with phase := s.phase.offerClosing outcome } := by
  unfold Ledger LedgerAt LifecyclePhase.offerClosing at *
  cases hphase : s.phase <;>
    simp only [hphase, untouched_iff, inHand_iff, handedOver_iff, recorded_iff] at h ⊢ <;>
    exact h

variable {lease : SandboxLease}

theorem HandedOver.of_inHand (h : InHand lease s) (phase : LifecyclePhase) :
    HandedOver lease (s.requestDestroy lease phase) where
  create := h.create
  late := h.untouched.late
  destroyCalls := by simp [LifecycleState.requestDestroy, h.untouched.destroyCalls]
  records := h.untouched.records

theorem InHand.requestKill (h : InHand lease s) (reason : SandboxKillReason) (next : AfterKill) :
    InHand lease (s.requestKill lease reason next) :=
  ⟨h.create, h.untouched.late, h.untouched.destroyCalls, h.untouched.records⟩

theorem Recorded.of_handedOver (h : HandedOver lease s) (record : SandboxTerminalLifecycleRecord) :
    Recorded record (s.recordTerminal record) where
  records := by simp [LifecycleState.recordTerminal, h.records]
  done := fun _ => by
    simp [LifecycleState.recordTerminal, h.create, h.destroyCalls, CreateState.lease?]
  registered := fun hlate => by
    simp [LifecycleState.recordTerminal, h.late] at hlate

theorem Recorded.of_failed (hcreate : s.create = .settled none) (h : Untouched s)
    (record : SandboxTerminalLifecycleRecord) :
    Recorded record (s.recordTerminal record) where
  records := by simp [LifecycleState.recordTerminal, h.records]
  done := fun _ => by
    simp [LifecycleState.recordTerminal, hcreate, h.destroyCalls, CreateState.lease?]
  registered := fun hlate => by
    simp [LifecycleState.recordTerminal, h.late] at hlate

/-- A create that may still yield a lease is left to the continuation. -/
theorem Recorded.of_late (hcreate : s.create ≠ .notCalled) (h : Untouched s)
    (record : SandboxTerminalLifecycleRecord) :
    Recorded record (s.registerLateCleanup.recordTerminal record) where
  records := by
    simp [LifecycleState.recordTerminal, LifecycleState.registerLateCleanup, h.records]
  done := fun hlate => absurd rfl hlate
  registered := fun _ => ⟨hcreate, h.destroyCalls⟩

theorem ledger_stop (h : InHand lease s) (stop : StopRace) : Ledger input (s.stop lease stop) := by
  cases stop with
  | execution observation =>
    simp only [LifecycleState.stop]
    split
    · exact h.requestKill _ _
    · exact HandedOver.of_inHand h _
  | hard => exact h.requestKill _ _
  | control reason => exact h.requestKill _ _

/-- A wait that begins after a soft deadline has ended if the hard one has passed. -/
theorem stopped?_hard (h : s.stopped? input = none) : s.hardFired = false := by
  unfold LifecycleState.stopped? at h
  split at h
  · cases h
  · next hhard => simpa using hhard

/-- A second wait for a create that goes on has no deadline behind it. -/
theorem settlement?_none (h : s.settlement? = none) : s.createTimedOut = false := by
  unfold LifecycleState.settlement? at h
  split at h
  · cases h
  · next htimer => simpa using htimer

variable {result : Option SandboxLease}

theorem settlement?_create (h : s.settlement? = some (.create result)) :
    s.create = .settled result := by
  unfold LifecycleState.settlement? at h
  split at h
  · cases h
  · split at h
    · next hcreate =>
        cases h
        exact hcreate
    · cases h

/-- Whatever ended the wait, the lifecycle resumes with its ledger in order. -/
theorem ledger_resume {s t : LifecycleState} (hstep : resumeLifecycle input s = some t)
    (h : Ledger input s) : Ledger input t := by
  unfold Ledger at h
  unfold resumeLifecycle at hstep
  generalize s.phase = phase at hstep h
  split at hstep
  all_goals try cases hstep
  · exact
      ⟨h.1, ⟨h.2.1.late, h.2.1.destroyCalls, h.2.1.records⟩, settlement?_none,
        fun _ => settlement?_create⟩
  · exact Recorded.of_late h.1 h.2.1 _
  · exact Recorded.of_failed (h.2.2.2.2 none rfl) h.2.1 _
  · exact
      ⟨⟨h.2.2.2.2 _ rfl, h.2.1.late, h.2.1.destroyCalls, h.2.1.records⟩, h.2.2.1⟩
  · exact HandedOver.of_inHand ⟨h.2.2.2 _ rfl, h.2.1⟩ _
  · exact Recorded.of_failed (h.2.2.2 none rfl) h.2.1 _
  · exact Recorded.of_late h.1 h.2.1 _
  · exact Recorded.of_handedOver h _
  · exact ledger_stop h.1 _
  · exact h.1.requestKill _ _
  · exact HandedOver.of_inHand h _
  · split at hstep <;> cases hstep
    · exact HandedOver.of_inHand h _
    · exact
        ⟨⟨h.create, h.untouched.late, h.untouched.destroyCalls, h.untouched.records⟩,
          stopped?_hard⟩
  · exact HandedOver.of_inHand h.1 _
  · exact ledger_stop h.1 _
  · split at hstep <;> cases hstep
    · exact Recorded.of_handedOver h _
    · exact ⟨h.create, h.late, h.destroyCalls, h.records⟩
  · exact Recorded.of_handedOver h _

theorem ledger_lateCleanup (hlate : s.late = .registered) (hcreate : s.create = .settled result)
    (h : Ledger input s) :
    Ledger input { s with late := .done, destroyCalls := s.destroyCalls ++ result.toList } := by
  unfold Ledger LedgerAt at *
  cases hphase : s.phase <;>
    simp only [hphase, untouched_iff, inHand_iff, handedOver_iff, recorded_iff] at h ⊢ <;>
    grind [CreateState.lease?]

theorem ledger_step (s : LifecycleState) (event : LifecycleEvent) (t : LifecycleState)
    (hstep : Fires (lifecycleStep input) s event t) (h : Ledger input s) : Ledger input t := by
  unfold Fires lifecycleStep at hstep
  cases event with
  | createSettles result =>
    obtain ⟨hpending, rfl⟩ := Option.ite_some_none_eq_some.mp hstep
    exact ledger_offerCreate (Or.inr ⟨hpending, result, rfl, rfl⟩) h
  | createTimeout =>
    obtain ⟨_, rfl⟩ := Option.ite_some_none_eq_some.mp hstep
    exact ledger_offerCreate (Or.inl ⟨rfl, rfl⟩) h
  | controlAborts =>
    simp only at hstep
    split at hstep
    · obtain ⟨_, rfl⟩ := Option.ite_some_none_eq_some.mp hstep
      exact (ledger_offerControl h).congr rfl
    · cases hstep
  | executes outcome =>
    simp only at hstep
    split at hstep
    · next lease hphase =>
        rw [Ledger, hphase] at h
        cases hstep
        cases outcome <;>
          exact
            ⟨⟨h.1.create, h.1.untouched.late, h.1.untouched.destroyCalls,
              h.1.untouched.records⟩, fun _ => h.2⟩
    · cases hstep
  | streams item =>
    simp only [Option.ite_none_right_eq_some] at hstep
    obtain ⟨_, hstep⟩ := hstep
    split at hstep
    · cases hstep
      exact h.congr rfl
    · next observation _ =>
        cases hstep
        have hstop := ledger_offerStop (.execution observation) (Or.inl rfl) h
        split
        · exact (ledger_offerClosing (.settled ()) hstop).congr rfl
        · exact hstop.congr rfl
  | handleSettles closed =>
    simp only [Option.ite_none_right_eq_some] at hstep
    obtain ⟨_, hstep⟩ := hstep
    split at hstep
    · next outcome _ =>
        cases hstep
        exact (ledger_offerClosing outcome h).congr rfl
    · cases hstep
      exact h.congr rfl
  | softDeadline =>
    obtain ⟨_, rfl⟩ := Option.ite_some_none_eq_some.mp hstep
    exact (ledger_offerSoft h).congr rfl
  | hardDeadline =>
    obtain ⟨hruns, rfl⟩ := Option.ite_some_none_eq_some.mp hstep
    exact ledger_offerStop _ (Or.inr hruns.1) h
  | killEnds outcome =>
    simp only at hstep
    split at hstep
    · next hphase =>
        rw [Ledger, hphase] at h
        cases hstep
        exact ⟨h.create, h.untouched.late, h.untouched.destroyCalls, h.untouched.records⟩
    · cases hstep
  | destroyEnds outcome =>
    simp only at hstep
    split at hstep
    · next hphase =>
        rw [Ledger, hphase] at h
        cases hstep
        exact ⟨h.create, h.late, h.destroyCalls, h.records⟩
    · next hphase =>
        rw [Ledger, hphase] at h
        cases hstep
        exact ⟨h.create, h.late, h.destroyCalls, h.records⟩
    · cases hstep
  | closeTimesOut =>
    simp only at hstep
    split at hstep
    · next hphase =>
        rw [Ledger, hphase] at h
        cases hstep
        exact ⟨h.create, h.late, h.destroyCalls, h.records⟩
    · cases hstep
  | resumes => exact ledger_resume hstep h
  | lateCleanup =>
    simp only at hstep
    split at hstep
    · next hlate hcreate =>
        cases hstep
        exact ledger_lateCleanup hlate hcreate h
    · cases hstep
  | recordSettles persisted =>
    simp only at hstep
    split at hstep
    · next hphase =>
        rw [Ledger, hphase] at h
        cases hstep
        exact ⟨h.records, h.done, h.registered⟩
    · cases hstep

end Ledger

section Potential

def waiting {α : Type} (won : Option α) : Nat :=
  if won.isSome = true then 0 else 1

/-- How far a wait is from the terminal record. -/
def LifecyclePhase.rank : LifecyclePhase → Nat
  | .rejected => 0
  | .creating won => 26 + waiting won
  | .settlingCreate _ won => 24 + waiting won
  | .starting _ => 22
  | .executing _ won => 16 + waiting won
  | .killing _ .soft won => 14 + waiting won
  | .afterSoft _ _ won => 12 + waiting won
  | .killing _ (.decide _) won => 10 + waiting won
  | .destroying _ _ won => 8 + waiting won
  | .closing _ _ _ won => 6 + waiting won
  | .destroyingCancelled _ _ won => 4 + waiting won
  | .recording _ => 2
  | .returned _ _ => 0

/-- How many times a create, a continuation, an execution and a handle can still change. -/
def LifecycleState.unsettled (s : LifecycleState) : Nat :=
  (if s.create = .pending then 1 else 0) +
    (match s.late with
      | .none => 2
      | .registered => 1
      | .done => 0) +
    (match s.execution with
      | .notStarted => 2
      | .streaming => 1
      | .settled _ => 0) +
    (match s.handle with
      | .none => 2
      | .opened => 1
      | _ => 0)

/-- How many timers and controls have not fired yet. -/
def LifecycleState.unfired (s : LifecycleState) : Nat :=
  (if s.createTimedOut = true then 0 else 1) + (if s.controlAborted = true then 0 else 1) +
    (if s.softFired = true then 0 else 1) + (if s.hardFired = true then 0 else 1)

/-- A bound on the events that are still possible, output aside. -/
def LifecycleState.potential (s : LifecycleState) : Nat :=
  s.phase.rank + s.unsettled + s.unfired

def LifecycleEvent.weight : LifecycleEvent → Nat
  | .streams (.output _ _) => 0
  | _ => 1

theorem weight_le (event : LifecycleEvent) : event.weight ≤ 1 := by
  unfold LifecycleEvent.weight
  split <;> omega

theorem output_of_consumeExecution {meter : ExecutionMeter} {item : StreamItem}
    (h : consumeExecution meter item = none) : ∃ stream chunk, item = .output stream chunk := by
  cases item with
  | output stream chunk => exact ⟨stream, chunk, rfl⟩
  | _ => cases h

@[simp] theorem waiting_some {α : Type} (a : α) : waiting (some a) = 0 := by
  rfl

theorem waiting_le {α : Type} (won : Option α) : waiting won ≤ 1 := by
  unfold waiting
  split <;> omega

variable (phase : LifecyclePhase)

theorem rank_offerCreate (settlement : CreateSettlement) :
    (phase.offerCreate settlement).rank ≤ phase.rank := by
  cases phase <;> simp [LifecyclePhase.offerCreate, LifecyclePhase.rank]

theorem rank_offerStop (stop : StopRace) :
    (phase.offerStop stop).rank ≤ phase.rank := by
  cases phase <;> simp [LifecyclePhase.offerStop, LifecyclePhase.rank]

theorem rank_offerControl (reason : SandboxLifecycleControlReason) :
    (phase.offerControl reason).rank ≤ phase.rank := by
  cases phase <;>
    simp [LifecyclePhase.offerControl, LifecyclePhase.offerStop, LifecyclePhase.rank]

theorem rank_offerSoft :
    phase.offerSoft.rank ≤ phase.rank := by
  cases phase <;> simp [LifecyclePhase.offerSoft, LifecyclePhase.rank]

theorem rank_offerClosing (outcome : Bounded Unit) :
    (phase.offerClosing outcome).rank ≤ phase.rank := by
  cases phase <;> simp [LifecyclePhase.offerClosing, LifecyclePhase.rank]

variable {s t : LifecycleState}

/-- A resumption that leaves the promises alone and comes nearer to the record. -/
theorem potential_of_rank (hrank : t.phase.rank + 1 ≤ s.phase.rank)
    (hunsettled : t.unsettled = s.unsettled) (hunfired : t.unfired = s.unfired) :
    t.potential + 1 ≤ s.potential := by
  unfold LifecycleState.potential
  omega

/-- Leaving a create to the continuation costs no more than the record is worth. -/
theorem potential_late {record : SandboxTerminalLifecycleRecord} (hrank : 4 ≤ s.phase.rank) :
    (s.registerLateCleanup.recordTerminal record).potential + 1 ≤ s.potential := by
  have hunsettled : s.registerLateCleanup.unsettled ≤ s.unsettled + 1 := by
    unfold LifecycleState.registerLateCleanup LifecycleState.unsettled
    simp only
    split <;> omega
  have hrecord :
      (s.registerLateCleanup.recordTerminal record).potential =
        2 + s.registerLateCleanup.unsettled + s.unfired := rfl
  rw [hrecord]
  unfold LifecycleState.potential
  omega

theorem rank_stop (s : LifecycleState) (lease : SandboxLease) (stop : StopRace) :
    (s.stop lease stop).phase.rank ≤ 11 := by
  cases stop with
  | execution observation =>
    simp only [LifecycleState.stop]
    split
    · exact Nat.add_le_add_left (waiting_le _) 10
    · exact le_trans (Nat.add_le_add_left (waiting_le _) 8) (by omega)
  | hard => exact Nat.add_le_add_left (waiting_le _) 10
  | control reason => exact Nat.add_le_add_left (waiting_le _) 10

theorem potential_of_phase {phase : LifecyclePhase} (hphase : s.phase = phase)
    (hrank : Nat.ble (t.phase.rank + 1) phase.rank = true) (hunsettled : t.unsettled = s.unsettled)
    (hunfired : t.unfired = s.unfired) : t.potential + 1 ≤ s.potential :=
  potential_of_rank (hphase ▸ Nat.le_of_ble_eq_true hrank) hunsettled hunfired

theorem potential_stop {lease : SandboxLease} {stop : StopRace} (hrank : 12 ≤ s.phase.rank) :
    (s.stop lease stop).potential + 1 ≤ s.potential := by
  have hphase := rank_stop s lease stop
  refine potential_of_rank (by omega) ?_ ?_ <;>
    cases stop <;> simp only [LifecycleState.stop] <;> first | rfl | (split <;> rfl)

/-- Resuming brings the lifecycle nearer to its record. -/
theorem potential_resume (hstep : resumeLifecycle input s = some t) :
    t.potential + 1 ≤ s.potential := by
  unfold resumeLifecycle at hstep
  split at hstep
  -- a wait that ends in a decision, a kill, a destroy or a record
  all_goals try (cases hstep; exact potential_of_phase ‹s.phase = _› rfl rfl rfl)
  · next hphase =>
      cases hstep
      refine potential_of_rank ?_ rfl rfl
      have hwait := waiting_le s.settlement?
      rw [hphase]
      simp only [LifecyclePhase.rank, waiting_some]
      omega
  · next hphase =>
      cases hstep
      exact potential_late (by rw [hphase]; exact Nat.le_of_ble_eq_true rfl)
  · next hphase =>
      cases hstep
      exact potential_late (by rw [hphase]; exact Nat.le_of_ble_eq_true rfl)
  · next hphase =>
      cases hstep
      exact potential_stop (by rw [hphase]; exact Nat.le_of_ble_eq_true rfl)
  · next hphase =>
      split at hstep <;> cases hstep
      · exact potential_of_phase hphase rfl rfl rfl
      · refine potential_of_rank ?_ rfl rfl
        have hwait := waiting_le (s.stopped? input)
        rw [hphase]
        simp only [LifecyclePhase.rank, waiting_some]
        omega
  · next hphase =>
      cases hstep
      exact potential_stop (by rw [hphase]; exact Nat.le_of_ble_eq_true rfl)
  · next hphase =>
      split at hstep <;> cases hstep
      · exact potential_of_phase hphase rfl rfl rfl
      · refine potential_of_rank ?_ rfl rfl
        have hwait := waiting_le s.closed?
        rw [hphase]
        simp only [LifecyclePhase.rank, waiting_some]
        omega
  · cases hstep

/-- The potential after an event whose phase, promises and timers are bounded so. -/
theorem potential_of_le (hrank : t.phase.rank ≤ s.phase.rank)
    (hrest : t.unsettled + t.unfired + 1 ≤ s.unsettled + s.unfired) :
    t.potential + 1 ≤ s.potential := by
  unfold LifecycleState.potential
  omega

theorem potential_step (s : LifecycleState) (event : LifecycleEvent) (t : LifecycleState)
    (hstep : Fires (lifecycleStep input) s event t) : t.potential + event.weight ≤ s.potential := by
  unfold Fires lifecycleStep at hstep
  cases event with
  | createSettles result =>
    obtain ⟨hpending, rfl⟩ := Option.ite_some_none_eq_some.mp hstep
    refine potential_of_le (rank_offerCreate _ _) ?_
    simp only [LifecycleState.unsettled, LifecycleState.unfired, hpending]
    grind
  | createTimeout =>
    obtain ⟨⟨_, htimer⟩, rfl⟩ := Option.ite_some_none_eq_some.mp hstep
    refine potential_of_le (rank_offerCreate _ _) ?_
    simp only [LifecycleState.unsettled, LifecycleState.unfired, htimer]
    grind
  | controlAborts =>
    simp only at hstep
    split at hstep
    · obtain ⟨hcontrol, rfl⟩ := Option.ite_some_none_eq_some.mp hstep
      refine potential_of_le (rank_offerControl _ _) ?_
      simp only [LifecycleState.unsettled, LifecycleState.unfired, hcontrol]
      grind
    · cases hstep
  | executes outcome =>
    simp only at hstep
    split at hstep
    · next lease hphase =>
        cases hstep
        unfold LifecycleState.potential
        rw [hphase]
        cases outcome <;>
          simp only [LifecyclePhase.rank, LifecycleState.unsettled, LifecycleState.unfired,
            LifecycleState.executed?, Option.map_some, waiting_some,
            LifecycleEvent.weight] <;>
          grind [waiting_le]
    · cases hstep
  | streams item =>
    simp only [Option.ite_none_right_eq_some] at hstep
    obtain ⟨hstreaming, hstep⟩ := hstep
    split at hstep
    · next houtput =>
        cases hstep
        obtain ⟨stream, chunk, rfl⟩ := output_of_consumeExecution houtput
        exact Nat.le_refl _
    · cases hstep
      refine le_trans (Nat.add_le_add_left (weight_le _) _) (potential_of_le ?_ ?_)
      · simp only
        split
        · exact le_trans (rank_offerClosing _ _) (rank_offerStop _ _)
        · exact rank_offerStop _ _
      · simp only [LifecycleState.unsettled, LifecycleState.unfired, hstreaming]
        grind
  | handleSettles closed =>
    simp only [Option.ite_none_right_eq_some] at hstep
    obtain ⟨hopened, hstep⟩ := hstep
    split at hstep
    · cases hstep
      refine potential_of_le (rank_offerClosing _ _) ?_
      simp only [LifecycleState.unsettled, LifecycleState.unfired, hopened]
      cases closed <;> grind
    · cases hstep
      refine potential_of_le (Nat.le_refl _) ?_
      simp only [LifecycleState.unsettled, LifecycleState.unfired, hopened]
      cases closed <;> grind
  | softDeadline =>
    obtain ⟨⟨_, hfired⟩, rfl⟩ := Option.ite_some_none_eq_some.mp hstep
    refine potential_of_le (rank_offerSoft _) ?_
    simp only [LifecycleState.unsettled, LifecycleState.unfired, hfired]
    grind
  | hardDeadline =>
    obtain ⟨⟨_, hfired⟩, rfl⟩ := Option.ite_some_none_eq_some.mp hstep
    refine potential_of_le (rank_offerStop _ _) ?_
    simp only [LifecycleState.unsettled, LifecycleState.unfired, hfired]
    grind
  | killEnds outcome =>
    simp only at hstep
    split at hstep
    · next next hphase =>
        cases hstep
        refine potential_of_rank ?_ rfl rfl
        rw [hphase]
        cases next <;> exact Nat.le_of_ble_eq_true rfl
    · cases hstep
  | destroyEnds outcome =>
    simp only at hstep
    split at hstep
    · next hphase =>
        cases hstep
        exact potential_of_phase hphase rfl rfl rfl
    · next hphase =>
        cases hstep
        exact potential_of_phase hphase rfl rfl rfl
    · cases hstep
  | closeTimesOut =>
    simp only at hstep
    split at hstep
    · next hphase =>
        cases hstep
        exact potential_of_phase hphase rfl rfl rfl
    · cases hstep
  | resumes => exact potential_resume hstep
  | lateCleanup =>
    simp only at hstep
    split at hstep
    · next hlate _ =>
        cases hstep
        refine potential_of_le (Nat.le_refl _) ?_
        simp only [LifecycleState.unsettled, LifecycleState.unfired, hlate]
        grind
    · cases hstep
  | recordSettles persisted =>
    simp only at hstep
    split at hstep
    · next hphase =>
        cases hstep
        exact potential_of_phase hphase rfl rfl rfl
    · cases hstep

theorem potential_initialState (input : RunSandboxTerminalLifecycleInput) :
    (initialState input).potential ≤ 38 := by
  unfold initialState
  split
  · exact Nat.le_of_ble_eq_true rfl
  · split <;> exact Nat.le_of_ble_eq_true rfl

/-- The number of events of a run, output aside. -/
def eventCount (events : List LifecycleEvent) : Nat :=
  (events.map LifecycleEvent.weight).sum

theorem eventCount_le {events : List LifecycleEvent}
    (hrun : Run (Fires (lifecycleStep input)) (initialState input) events s) :
    eventCount events ≤ 38 := by
  have h :=
    hrun.loss_le (I := fun _ => True) (f := LifecycleState.potential)
      (fun _ _ _ _ _ => trivial)
      (fun s event t hstep _ => potential_step s event t hstep) trivial
  have hstart := potential_initialState input
  unfold eventCount
  omega

end Potential

/-- The events the lifecycle brings about itself: its timers, its resumptions, its continuation. -/
def LifecycleEvent.own : LifecycleEvent → Bool
  | .createTimeout | .executes _ | .softDeadline | .hardDeadline | .closeTimesOut
  | .killEnds .timedOut | .destroyEnds .timedOut | .resumes | .lateCleanup => true
  | _ => false

/-- The lifecycle has nothing left to do. -/
def Quiet (input : RunSandboxTerminalLifecycleInput) (s : LifecycleState) : Prop :=
  ∀ event, event.own = true → lifecycleStep input s event = none

def LifecyclePhase.ended : LifecyclePhase → Bool
  | .creating won => won.isSome
  | .settlingCreate _ won => won.isSome
  | .executing _ won => won.isSome
  | .killing _ _ won => won.isSome
  | .afterSoft _ _ won => won.isSome
  | .destroyingCancelled _ _ won => won.isSome
  | .destroying _ _ won => won.isSome
  | .closing _ _ _ won => won.isSome
  | _ => false

/-- A lifecycle that cannot resume still waits, or is past its waits. -/
theorem ended_of_resume_none (h : resumeLifecycle input s = none) : s.phase.ended = false := by
  unfold resumeLifecycle at h
  cases hphase : s.phase with
  | creating won =>
    rcases won with _ | ((_ | lease) | _) | reason
    · rfl
    all_goals simp [hphase] at h
  | settlingCreate reason won =>
    rcases won with _ | (_ | lease) | _
    · rfl
    all_goals simp [hphase] at h
  | executing lease won =>
    rcases won with _ | stop | _
    · rfl
    all_goals simp [hphase] at h
  | killing lease next won =>
    cases won with
    | none => rfl
    | some outcome =>
      cases next with
      | decide observation => simp [hphase] at h
      | soft =>
        simp only [hphase] at h
        split at h <;> cases h
  | afterSoft lease softKillStatus won =>
    rcases won with _ | _ | _ | reason
    · rfl
    all_goals simp [hphase] at h
  | destroyingCancelled reason lease won =>
    cases won with
    | none => rfl
    | some outcome => simp [hphase] at h
  | destroying lease decision won =>
    cases won with
    | none => rfl
    | some outcome =>
      simp only [hphase] at h
      split at h <;> cases h
  | closing lease decision cleanup won =>
    cases won with
    | none => rfl
    | some outcome => simp [hphase] at h
  | _ => rfl

theorem recorded_of_quiet (h : Ledger input s) (hquiet : Quiet input s) :
    (validInput input = false ∧ s.create = .notCalled ∧ Untouched s) ∨
      ∃ record, Recorded record s := by
  have hended : s.phase.ended = false := ended_of_resume_none (hquiet .resumes rfl)
  rw [Ledger] at h
  cases hphase : s.phase with
  | rejected =>
    rw [hphase] at h
    exact Or.inl h
  | recording record =>
    rw [hphase] at h
    exact Or.inr ⟨record, h⟩
  | returned record persisted =>
    rw [hphase] at h
    exact Or.inr ⟨record, h⟩
  | creating won =>
    rw [hphase] at h hended
    have hwon : won = none := by simpa [LifecyclePhase.ended] using hended
    have htimer := hquiet .createTimeout rfl
    simp [lifecycleStep, hphase, LifecyclePhase.createTimerRuns, h.2.2.2.1 hwon] at htimer
  | settlingCreate reason won =>
    rw [hphase] at h hended
    have hwon : won = none := by simpa [LifecyclePhase.ended] using hended
    have htimer := hquiet .createTimeout rfl
    simp [lifecycleStep, hphase, LifecyclePhase.createTimerRuns, h.2.2.1 hwon] at htimer
  | starting lease =>
    have hexecute := hquiet (.executes .throws) rfl
    simp [lifecycleStep, hphase] at hexecute
  | executing lease won =>
    rw [hphase] at h hended
    have hwon : won = none := by simpa [LifecyclePhase.ended] using hended
    have hhard := hquiet .hardDeadline rfl
    simp [lifecycleStep, hphase, LifecyclePhase.deadlinesRun, h.2 hwon] at hhard
  | afterSoft lease softKillStatus won =>
    rw [hphase] at h hended
    have hwon : won = none := by simpa [LifecyclePhase.ended] using hended
    have hhard := hquiet .hardDeadline rfl
    simp [lifecycleStep, hphase, LifecyclePhase.deadlinesRun, h.2 hwon] at hhard
  | killing lease next won =>
    rw [hphase] at hended
    obtain rfl : won = none := by simpa [LifecyclePhase.ended] using hended
    have hkill := hquiet (.killEnds .timedOut) rfl
    simp [lifecycleStep, hphase] at hkill
  | destroyingCancelled reason lease won =>
    rw [hphase] at hended
    obtain rfl : won = none := by simpa [LifecyclePhase.ended] using hended
    have hdestroy := hquiet (.destroyEnds .timedOut) rfl
    simp [lifecycleStep, hphase] at hdestroy
  | destroying lease decision won =>
    rw [hphase] at hended
    obtain rfl : won = none := by simpa [LifecyclePhase.ended] using hended
    have hdestroy := hquiet (.destroyEnds .timedOut) rfl
    simp [lifecycleStep, hphase] at hdestroy
  | closing lease decision cleanup won =>
    rw [hphase] at hended
    obtain rfl : won = none := by simpa [LifecyclePhase.ended] using hended
    have hclose := hquiet .closeTimesOut rfl
    simp [lifecycleStep, hphase] at hclose

theorem Recorded.destroyed_of_quiet {record : SandboxTerminalLifecycleRecord}
    (h : Recorded record s) (hquiet : Quiet input s) : s.destroyCalls = s.create.lease?.toList := by
  by_cases hlate : s.late = .registered
  · have hcleanup := hquiet .lateCleanup rfl
    obtain ⟨_, hnone⟩ := h.registered hlate
    cases hcreate : s.create with
    | settled result => simp [lifecycleStep, hlate, hcreate] at hcleanup
    | _ => simp [hnone, CreateState.lease?]
  · exact (h.done hlate).2

/-- The leases `backend.create` yields in a run. -/
def leasesYielded (events : List LifecycleEvent) : List SandboxLease :=
  events.flatMap fun
    | .createSettles result => result.toList
    | _ => []

def LifecycleState.promises (s : LifecycleState) :=
  (s.create, s.createTimedOut, s.controlAborted, s.softFired, s.hardFired, s.execution,
    s.handle, s.meter)

theorem promises_stop (s : LifecycleState) (lease : SandboxLease) (stop : StopRace) :
    (s.stop lease stop).promises = s.promises := by
  cases stop with
  | execution observation =>
    simp only [LifecycleState.stop]
    split <;> rfl
  | _ => rfl

/-- Resuming settles no promise and fires no timer. -/
theorem promises_resume {s t : LifecycleState} (hstep : resumeLifecycle input s = some t) :
    t.promises = s.promises := by
  unfold resumeLifecycle at hstep
  split at hstep <;> first | (cases hstep; rfl) | skip
  · cases hstep
    exact promises_stop _ _ _
  · split at hstep <;> (cases hstep; rfl)
  · cases hstep
    exact promises_stop _ _ _
  · split at hstep <;> (cases hstep; rfl)
  · cases hstep

theorem lease?_step {s t : LifecycleState} {event : LifecycleEvent}
    (hstep : Fires (lifecycleStep input) s event t) :
    t.create.lease?.toList = s.create.lease?.toList ++ leasesYielded [event] := by
  cases event with
  | createSettles result =>
    simp only [Fires, lifecycleStep, Option.ite_none_right_eq_some, Option.some.injEq] at hstep
    obtain ⟨hpending, rfl⟩ := hstep
    simp [hpending, CreateState.lease?, leasesYielded]
  | resumes =>
    have hcreate : t.create = s.create := congrArg Prod.fst (promises_resume hstep)
    simp [hcreate, leasesYielded]
  | _ =>
    simp only [Fires, lifecycleStep] at hstep
    have hcreate : t.create = s.create := by
      grind
    simp [hcreate, leasesYielded]

theorem leasesYielded_run {events : List LifecycleEvent}
    (hrun : Run (Fires (lifecycleStep input)) (initialState input) events s) :
    leasesYielded events = s.create.lease?.toList := by
  refine hrun.history
    (I := fun past s => leasesYielded past = s.create.lease?.toList) ?_ ?_
  · intro past s event t hstep hpast
    rw [lease?_step hstep, ← hpast]
    simp [leasesYielded]
  · unfold initialState
    split
    · rfl
    · split <;> rfl

/-- An input that is not accepted reaches neither the backend nor the record. -/
def Refused (s : LifecycleState) : Prop :=
  s.phase = .rejected ∧ s.create = .notCalled ∧ Untouched s

theorem refused_step (s : LifecycleState) (event : LifecycleEvent) (t : LifecycleState)
    (hstep : Fires (lifecycleStep input) s event t) (h : Refused s) : Refused t := by
  obtain ⟨hphase, hcreate, hlate, hdestroy, hrecords⟩ := h
  have hresume : resumeLifecycle input s = none := by
    simp [resumeLifecycle, hphase]
  simp only [Refused, untouched_iff]
  cases event with
  | resumes => simp [Fires, lifecycleStep, hresume] at hstep
  | _ =>
    simp only [Fires, lifecycleStep, hphase, hcreate, hlate, LifecyclePhase.createTimerRuns,
      LifecyclePhase.deadlinesRun, LifecyclePhase.offerControl, LifecyclePhase.offerStop,
      LifecyclePhase.offerClosing] at hstep
    grind

theorem Ledger.at_most_once (h : Ledger input s) :
    s.records.length ≤ 1 ∧
      (s.destroyCalls = [] ∨ s.destroyCalls = s.create.lease?.toList) := by
  unfold Ledger LedgerAt at h
  cases hphase : s.phase <;>
    simp only [hphase, untouched_iff, inHand_iff, handedOver_iff, recorded_iff] at h <;>
    grind [CreateState.lease?]

/--
Exactly-once finalisation over all orders of events.  A run of an accepted input
has a bounded number of events besides output; it never writes a second record
and never destroys a lease twice; and once it has nothing left to do it has
written one record and has destroyed exactly the leases the create yielded,
early or late, each of them once.  A refused input reaches nothing.
-/
theorem terminalLifecycle_exactly_once {input : RunSandboxTerminalLifecycleInput}
    {events : List LifecycleEvent} {s : LifecycleState}
    (hrun : Run (Fires (lifecycleStep input)) (initialState input) events s) :
    eventCount events ≤ 38 ∧
    s.records.length ≤ 1 ∧
    (s.destroyCalls = [] ∨ s.destroyCalls = leasesYielded events) ∧
    (leasesYielded events).length ≤ 1 ∧
    (validInput input = true → Quiet input s →
      s.records.length = 1 ∧ s.destroyCalls = leasesYielded events) ∧
    (validInput input = false →
      s.records = [] ∧ s.destroyCalls = [] ∧ leasesYielded events = []) := by
  have hledger : Ledger input s := hrun.preserves ledger_step (ledger_initialState input)
  have hyielded := leasesYielded_run hrun
  rw [hyielded]
  obtain ⟨hrecords, hdestroys⟩ := hledger.at_most_once
  refine ⟨eventCount_le hrun, hrecords, hdestroys, ?_, ?_, ?_⟩
  · cases s.create.lease? <;> simp
  · intro hvalid hquiet
    rcases recorded_of_quiet hledger hquiet with ⟨hinvalid, _⟩ | ⟨record, hrecorded⟩
    · rw [hvalid] at hinvalid
      cases hinvalid
    · exact ⟨by rw [hrecorded.records]; rfl, hrecorded.destroyed_of_quiet hquiet⟩
  · intro hinvalid
    have hstart : Refused (initialState input) := by
      unfold initialState
      rw [if_pos hinvalid]
      exact ⟨rfl, rfl, rfl, rfl, rfl⟩
    obtain ⟨_, hcreate, huntouched⟩ := hrun.preserves refused_step hstart
    exact ⟨huntouched.records, huntouched.destroyCalls, by rw [hcreate]; rfl⟩

def exampleLease : SandboxLease :=
  exampleRecord.lease

def exampleInput : RunSandboxTerminalLifecycleInput where
  accessGrant := exampleLease.accessGrant
  control := some .clientCancelled
  preAborted := false
  runId := "run-registry"

def lateCreateEvents : List LifecycleEvent :=
  [.createTimeout, .resumes, .recordSettles true, .createSettles (some exampleLease),
    .lateCleanup]

theorem quiet_of_returned {record : SandboxTerminalLifecycleRecord} {persisted : Bool}
    (hphase : s.phase = .returned record persisted) (hlate : s.late ≠ .registered) :
    Quiet input s := by
  intro event hown
  cases event with
  | resumes => simp [lifecycleStep, resumeLifecycle, hphase]
  | lateCleanup =>
    simp only [lifecycleStep]
    split
    · next h _ => exact absurd h hlate
    · rfl
  | createSettles | controlAborts | streams | handleSettles | recordSettles => cases hown
  | _ =>
    simp [lifecycleStep, hphase, LifecyclePhase.createTimerRuns,
      LifecyclePhase.deadlinesRun]

/-- The lease of a late create is destroyed once, after the one record. -/
theorem terminalLifecycle_exactly_once_late :
    ∃ s,
      Run (Fires (lifecycleStep exampleInput)) (initialState exampleInput)
        lateCreateEvents s ∧
      s.records.length = 1 ∧ s.destroyCalls = [exampleLease] := by
  have hend :
      (fire (lifecycleStep exampleInput) (initialState exampleInput) lateCreateEvents).map
        (fun s => (s.phase, s.late)) =
        some (.returned (createFailedRecord exampleInput) true, .done) := by
    decide
  obtain ⟨s, hs, hresult⟩ := Option.map_eq_some_iff.mp hend
  obtain ⟨hphase, hlate⟩ := Prod.mk.inj hresult
  have hrun := run_fires_iff.mpr hs
  have hquiet : Quiet exampleInput s := quiet_of_returned hphase (by simp [hlate])
  obtain ⟨_, _, _, _, hdone, _⟩ := terminalLifecycle_exactly_once hrun
  obtain ⟨hrecords, hdestroys⟩ := hdone (by decide) hquiet
  exact ⟨s, hrun, hrecords, hdestroys⟩

end Aiphabee.TerminalLifecycle
