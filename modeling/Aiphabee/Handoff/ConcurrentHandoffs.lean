import Aiphabee.Handoff.HandoffOrphans

/-!
# Concurrent hand-offs over shared stores

Any number of approved candidates are stored at the same time, in one object
store and one record store.  A put, an insert, a lookup and a delete are each
one step; the record store refuses an identifier or a key of a tenant that is
taken.  Identical candidates have one key.

A compensating delete does not see what others do with its key.
`records_hold_objects` says that it is the only danger: while no delete takes a
key that another candidate has put and not yet recorded, or that an active
record has, every active record has its object.
-/

namespace Aiphabee.DurableHandoff

open JsString (hex)
open Transition
open LeaseRegistry (SandboxLease)

variable {digest : List UInt8 → Except Thrown (List UInt8)}

/-- Two texts that end in the same way after their last dash have the same end. -/
theorem suffix_eq_of_no_dash {xs ys ds es : List Char} (hds : '-' ∉ ds) (hes : '-' ∉ es)
    (h : xs ++ '-' :: ds = ys ++ '-' :: es) : ds = es := by
  have htail : ∀ (zs fs : List Char), '-' ∉ fs →
      ((zs ++ '-' :: fs).reverse.takeWhile fun c => c ≠ '-') = fs.reverse := by
    intro zs fs hfs
    have hall : ∀ c ∈ fs.reverse, decide (c ≠ '-') = true := by
      intro c hc
      have hmem : c ∈ fs := List.mem_reverse.mp hc
      simp only [decide_eq_true_eq]
      rintro rfl
      exact hfs hmem
    rw [List.reverse_append, List.reverse_cons, List.append_assoc,
      List.takeWhile_append_of_pos hall]
    simp
  have heq := (htail xs ds hds).symm.trans (h ▸ htail ys es hes)
  simpa using congrArg List.reverse heq

theorem hex_no_dash (bytes : List UInt8) : '-' ∉ (hex bytes).toList := by
  have hdigit : ∀ n < 16, "0123456789abcdef".toList.getD n '0' ≠ '-' := by
    decide
  intro hmem
  obtain ⟨byte, _, hc⟩ : ∃ byte ∈ bytes, '-' ∈ JsString.byteHex byte.toNat := by
    simpa [hex] using hmem
  rcases List.mem_cons.mp hc with heq | hc
  · exact hdigit _ (Nat.mod_lt _ (by decide)) heq.symm
  · exact hdigit _ (Nat.mod_lt _ (by decide)) (List.mem_singleton.mp hc).symm

theorem sha256_ok {digest : List UInt8 → Except Thrown (List UInt8)} {bytes : List UInt8}
    {hash : String} (h : sha256 digest bytes = .ok hash) :
    ∃ found, hash = "sha256:" ++ hex found := by
  simp only [sha256] at h
  cases hdigest : digest bytes with
  | error thrown =>
    rw [hdigest] at h
    cases h
  | ok found =>
    rw [hdigest] at h
    cases h
    exact ⟨found, rfl⟩

theorem hashDigits_hex (found : List UInt8) :
    hashDigits ("sha256:" ++ hex found) = hex found := by
  have hlength : "sha256:".length = "sha256:".toList.length := rfl
  rw [hashDigits, String.toList_append, hlength, List.drop_left, String.ofList_toList]

/-- What follows the last dash of a text is determined by the text. -/
theorem append_dash_cancel {left right x y : String} (hx : '-' ∉ x.toList) (hy : '-' ∉ y.toList)
    (h : left ++ "-" ++ x = right ++ "-" ++ y) : x = y := by
  have hchars := congrArg String.toList h
  have hdash : "-".toList = ['-'] := rfl
  rw [String.toList_append, String.toList_append, String.toList_append, String.toList_append,
    hdash, List.append_assoc, List.append_assoc] at hchars
  exact String.toList_injective (suffix_eq_of_no_dash hx hy hchars)

theorem storageKey_hash {identity identity' : HandoffIdentity} {id id' : String}
    {kind kind' : DurableHandoffKind} {found found' : List UInt8}
    (h : storageKey identity ("sha256:" ++ hex found) id kind =
      storageKey identity' ("sha256:" ++ hex found') id' kind') :
    hex found = hex found' := by
  unfold storageKey at h
  rw [hashDigits_hex, hashDigits_hex] at h
  exact append_dash_cancel (hex_no_dash found) (hex_no_dash found') h

/-- An approved candidate that has been inspected, with the record that is to be stored for it. -/
structure HandoffJob (digest : List UInt8 → Except Thrown (List UInt8)) where
  behaviour : CandidateBehaviour
  lease : SandboxLease
  identity : HandoffIdentity
  approval : DurableHandoffApprovalDecision
  candidate : DurableHandoffCandidate
  bytes : List UInt8
  record : DurableHandoffRecord
  prepared :
    prepareCandidate digest behaviour lease identity approval candidate = .ok (.inr (bytes, record))

/-- Where the storing of a candidate stands. -/
inductive JobPhase
  | idle
  | inserting
  | finding
  | deleting (reasonCode : RejectionReason)
  | over (item : DurableHandoffItemResult)
deriving DecidableEq

/-- The candidate is not between its put and its end. -/
def JobPhase.settled : JobPhase → Bool
  | .idle => true
  | .over _ => true
  | _ => false

structure SharedWorld where
  stores : HandoffWorld
  expired : DurableHandoffRecord → Bool
  phases : Nat → JobPhase

/-- The steps of the candidates; a lookup may fail, and a record may expire. -/
inductive HandoffEvent
  | put (i : Nat) (write : WriteOutcome)
  | insert (i : Nat) (write : WriteOutcome)
  | find (i : Nat) (answered : Bool)
  | delete (i : Nat) (write : WriteOutcome)
  | expire (record : DurableHandoffRecord)

def HandoffJob.key (job : HandoffJob digest) : String :=
  job.record.storageKey

def HandoffJob.object (job : HandoffJob digest) : StoredObject :=
  { bytes := job.bytes
    contentType := job.record.contentType }

def conflictFree (records : List DurableHandoffRecord) (record : DurableHandoffRecord) : Bool :=
  records.all fun other =>
    other.id ≠ record.id &&
      !(other.tenantId = record.tenantId && other.storageKey = record.storageKey)

/-- Move a candidate on. -/
def SharedWorld.goTo (w : SharedWorld) (i : Nat) (phase : JobPhase) : SharedWorld :=
  { w with phases := Function.update w.phases i phase }

def handoffStep (jobs : Nat → HandoffJob digest) (w : SharedWorld) :
    HandoffEvent → Option SharedWorld
  | .put i write =>
    if w.phases i = .idle then
      some ({ w with stores := w.stores.put write (jobs i).key (jobs i).object }.goTo i
        (if write.succeeds then .inserting else .deleting .objectWriteFailed))
    else
      none
  | .insert i write =>
    if w.phases i = .inserting ∧
        (write.applies = false ∨ conflictFree w.stores.records (jobs i).record = true) then
      some ({ w with stores := w.stores.insert write (jobs i).record }.goTo i
        (if write.succeeds then
          .over (.persisted (jobs i).candidate.candidateId (jobs i).record)
        else
          .finding))
    else
      none
  | .find i answered =>
    if w.phases i = .finding then
      if answered then
        match w.stores.findActiveById w.expired (jobs i).record.id
            (jobs i).record.tenantId with
        | some existing =>
          some (w.goTo i (.over (if sameHandoff existing (jobs i).record then
            .persisted (jobs i).candidate.candidateId existing
          else
            .cleanupRequired (jobs i).candidate.candidateId (jobs i).key)))
        | none => some (w.goTo i (.deleting .recordWriteFailed))
      else
        some (w.goTo i (.over
          (.cleanupRequired (jobs i).candidate.candidateId (jobs i).key)))
    else
      none
  | .delete i write =>
    match w.phases i with
    | .deleting reasonCode =>
      some ({ w with stores := w.stores.delete write (jobs i).key }.goTo i
        (.over (if write.succeeds then
          .rejected (jobs i).candidate.candidateId reasonCode
        else
          .cleanupRequired (jobs i).candidate.candidateId (jobs i).key)))
    | _ => none
  | .expire record =>
    some { w with expired := fun other => w.expired other || other = record }

def SharedWorld.active (w : SharedWorld) (record : DurableHandoffRecord) : Bool :=
  record.deletedAt.isNone && !w.expired record

def Holds (digest : List UInt8 → Except Thrown (List UInt8)) (stores : HandoffWorld)
    (record : DurableHandoffRecord) : Prop :=
  ∃ object, stores.objects record.storageKey = some object ∧
    sha256 digest object.bytes = .ok record.contentHashSha256

def RecordsHoldObjects (digest : List UInt8 → Except Thrown (List UInt8)) (w : SharedWorld) :
    Prop :=
  ∀ record ∈ w.stores.records, w.active record = true → Holds digest w.stores record

/-- Nothing has begun, and nothing is recorded; the object store may hold anything. -/
structure HandoffsBefore (w : SharedWorld) : Prop where
  unrecorded : w.stores.records = []
  idle : ∀ i, w.phases i = .idle

/--
A delete that is applied takes no key that another candidate has put and not
yet recorded, and none of an active record.
-/
def DeletesOwnOnly (jobs : Nat → HandoffJob digest) (w : SharedWorld) : HandoffEvent → Prop
  | .delete i write =>
    write.applies = true →
      (∀ k, k ≠ i → w.phases k = .inserting → (jobs k).key ≠ (jobs i).key) ∧
      ∀ record ∈ w.stores.records,
        w.active record = true → record.storageKey ≠ (jobs i).key
  | _ => True

section Jobs

theorem prepareCandidate_record {behaviour : CandidateBehaviour} {lease : SandboxLease}
    {identity : HandoffIdentity} {approval : DurableHandoffApprovalDecision}
    {candidate : DurableHandoffCandidate} {bytes : List UInt8} {record : DurableHandoffRecord}
    (h : prepareCandidate digest behaviour lease identity approval candidate =
      .ok (.inr (bytes, record))) :
    ∃ contentHash scan,
      handoffRecord digest behaviour lease identity approval candidate bytes contentHash scan =
        .ok record := by
  simp only [prepareCandidate] at h
  split at h
  · cases h
  · cases h
  · next found contentHash scan _ =>
      cases hrecord : handoffRecord digest behaviour lease identity approval candidate found
          contentHash scan with
      | error thrown =>
        rw [hrecord] at h
        cases h
      | ok made =>
        rw [hrecord] at h
        cases h
        exact ⟨contentHash, scan, hrecord⟩

theorem HandoffJob.hashed (job : HandoffJob digest) :
    sha256 digest job.bytes = .ok job.record.contentHashSha256 :=
  (prepareCandidate_spec job.prepared).hashed

theorem HandoffJob.key_eq (job : HandoffJob digest) :
    job.key = storageKey job.identity job.record.contentHashSha256 job.record.id
      job.candidate.kind := by
  obtain ⟨contentHash, scan, hrecord⟩ := prepareCandidate_record job.prepared
  obtain ⟨hhash, _, _, _, _, _, hkey⟩ := handoffRecord_fields hrecord
  rw [hhash]
  exact hkey

theorem hash_eq_of_key_eq {job other : HandoffJob digest} (h : job.key = other.key) :
    job.record.contentHashSha256 = other.record.contentHashSha256 := by
  obtain ⟨found, hfound⟩ := sha256_ok job.hashed
  obtain ⟨found', hfound'⟩ := sha256_ok other.hashed
  rw [job.key_eq, other.key_eq, hfound, hfound'] at h
  rw [hfound, hfound', storageKey_hash h]

variable {stores : HandoffWorld} {write : WriteOutcome}

theorem holds_put {job other : HandoffJob digest}
    (h : Holds digest stores other.record ∨ other.key = job.key ∧ write.applies = true) :
    Holds digest (stores.put write job.key job.object) other.record := by
  by_cases hkey : other.key = job.key
  · by_cases happlies : write.applies = true
    · refine ⟨job.object, ?_, ?_⟩
      · have hsame : other.record.storageKey = job.key := hkey
        simp [HandoffWorld.put, happlies, hsame]
      · rw [hash_eq_of_key_eq hkey]
        exact job.hashed
    · rcases h with hbefore | ⟨_, happlied⟩
      · simpa [HandoffWorld.put, happlies] using hbefore
      · exact absurd happlied happlies
  · rcases h with ⟨object, hobject, hhash⟩ | ⟨heq, _⟩
    · have htouch := touchesOnly_put stores write job.key job.object
      exact ⟨object, (htouch.otherObjects _ hkey).trans hobject, hhash⟩
    · exact absurd heq hkey

/-- A delete leaves what is held under other keys. -/
theorem holds_delete {key : String} {record : DurableHandoffRecord}
    (hne : write.applies = true → record.storageKey ≠ key) (h : Holds digest stores record) :
    Holds digest (stores.delete write key) record := by
  unfold HandoffWorld.delete
  split
  · next happlies =>
      obtain ⟨object, hobject, hhash⟩ := h
      exact ⟨object, by simp [hne happlies, hobject], hhash⟩
  · exact h

theorem holds_insert {inserted record : DurableHandoffRecord} (h : Holds digest stores record) :
    Holds digest (stores.insert write inserted) record := by
  unfold HandoffWorld.insert
  split
  · exact h
  · exact h

end Jobs

section Invariant

variable {jobs : Nat → HandoffJob digest}
variable {w w' : SharedWorld}

/-- What holds while deletes take their own keys only. -/
structure ObjectsKept
    (jobs : Nat → HandoffJob digest)
    (w : SharedWorld) : Prop where
  ofJobs : ∀ record ∈ w.stores.records, ∃ i, record = (jobs i).record
  recorded : RecordsHoldObjects digest w
  inserting : ∀ i, w.phases i = .inserting → Holds digest w.stores (jobs i).record

/-- Nothing is recorded and nobody inserts before the hand-offs begin. -/
theorem objectsKept_before (h : HandoffsBefore w) : ObjectsKept jobs w := by
  refine ⟨?_, ?_, ?_⟩
  · simp [h.unrecorded]
  · intro record hrecord
    rw [h.unrecorded] at hrecord
    cases hrecord
  · intro i hphase
    rw [h.idle i] at hphase
    cases hphase

variable {i : Nat}

theorem ObjectsKept.goTo {phase : JobPhase} (h : ObjectsKept jobs w) (hphase : phase ≠ .inserting) :
    ObjectsKept jobs (w.goTo i phase) := by
  refine ⟨h.ofJobs, h.recorded, ?_⟩
  intro k hk
  by_cases hki : k = i
  · subst hki
    simp only [SharedWorld.goTo, Function.update_self] at hk
    exact absurd hk hphase
  · simp only [SharedWorld.goTo, Function.update_of_ne hki] at hk
    exact h.inserting k hk

variable {write : WriteOutcome}

theorem objectsKept_put (h : ObjectsKept jobs w)
    (hstep : handoffStep jobs w (.put i write) = some w') : ObjectsKept jobs w' := by
  simp only [handoffStep, Option.ite_none_right_eq_some, Option.some.injEq] at hstep
  obtain ⟨_, rfl⟩ := hstep
  have hrecords : (w.stores.put write (jobs i).key (jobs i).object).records =
      w.stores.records := by
    unfold HandoffWorld.put
    split <;> rfl
  refine ⟨?_, ?_, ?_⟩
  · intro record hrecord
    exact h.ofJobs record (hrecords ▸ hrecord)
  · intro record hrecord hactive
    have hstored : record ∈ w.stores.records := hrecords ▸ hrecord
    obtain ⟨k, rfl⟩ := h.ofJobs record hstored
    exact holds_put (Or.inl (h.recorded _ hstored hactive))
  · intro k hk
    by_cases hki : k = i
    · subst hki
      refine holds_put (Or.inr ⟨rfl, ?_⟩)
      simp only [SharedWorld.goTo, Function.update_self] at hk
      split at hk
      · next hsucceeds => exact applies_of_succeeds hsucceeds
      · cases hk
    · simp only [SharedWorld.goTo, Function.update_of_ne hki] at hk
      exact holds_put (Or.inl (h.inserting k hk))

theorem objectsKept_insert (h : ObjectsKept jobs w)
    (hstep : handoffStep jobs w (.insert i write) = some w') : ObjectsKept jobs w' := by
  simp only [handoffStep, Option.ite_none_right_eq_some, Option.some.injEq] at hstep
  obtain ⟨⟨hphase, _⟩, rfl⟩ := hstep
  have hstored : ObjectsKept jobs
      { w with stores := w.stores.insert write (jobs i).record } := by
    have hmem : ∀ record ∈ (w.stores.insert write (jobs i).record).records,
        record ∈ w.stores.records ∨ record = (jobs i).record := by
      intro record hrecord
      unfold HandoffWorld.insert at hrecord
      split at hrecord
      · simpa using hrecord
      · exact Or.inl hrecord
    refine ⟨?_, ?_, fun k hk => holds_insert (h.inserting k hk)⟩
    · intro record hrecord
      rcases hmem record hrecord with hbefore | rfl
      · exact h.ofJobs record hbefore
      · exact ⟨i, rfl⟩
    · intro record hrecord hactive
      rcases hmem record hrecord with hbefore | rfl
      · exact holds_insert (h.recorded record hbefore hactive)
      · exact holds_insert (h.inserting i hphase)
  refine hstored.goTo ?_
  split <;> simp

theorem objectsKept_find {answered : Bool} (h : ObjectsKept jobs w)
    (hstep : handoffStep jobs w (.find i answered) = some w') : ObjectsKept jobs w' := by
  simp only [handoffStep, Option.ite_none_right_eq_some] at hstep
  obtain ⟨_, hstep⟩ := hstep
  split at hstep
  · split at hstep
    · cases hstep
      exact h.goTo (by simp)
    · cases hstep
      exact h.goTo (by simp)
  · cases hstep
    exact h.goTo (by simp)

theorem objectsKept_delete (h : ObjectsKept jobs w) (hown : DeletesOwnOnly jobs w (.delete i write))
    (hstep : handoffStep jobs w (.delete i write) = some w') : ObjectsKept jobs w' := by
  simp only [handoffStep] at hstep
  split at hstep
  · next reasonCode hphase =>
      cases hstep
      have hrecords : (w.stores.delete write (jobs i).key).records = w.stores.records := by
        unfold HandoffWorld.delete
        split <;> rfl
      have hdeleted : ObjectsKept jobs
          { w with stores := w.stores.delete write (jobs i).key } := by
        refine ⟨?_, ?_, ?_⟩
        · intro record hrecord
          exact h.ofJobs record (hrecords ▸ hrecord)
        · intro record hrecord hactive
          have hstored : record ∈ w.stores.records := hrecords ▸ hrecord
          exact holds_delete (fun happlies => (hown happlies).2 record hstored hactive)
            (h.recorded record hstored hactive)
        · intro k hk
          refine holds_delete ?_ (h.inserting k hk)
          intro happlies
          have hki : k ≠ i := by
            rintro rfl
            have hk : w.phases k = .inserting := hk
            rw [hphase] at hk
            cases hk
          exact (hown happlies).1 k hki hk
      exact hdeleted.goTo (by simp)
  · cases hstep

theorem objectsKept_step {event : HandoffEvent} (h : ObjectsKept jobs w)
    (hown : DeletesOwnOnly jobs w event) (hstep : handoffStep jobs w event = some w') :
    ObjectsKept jobs w' := by
  cases event with
  | put i write => exact objectsKept_put h hstep
  | insert i write => exact objectsKept_insert h hstep
  | find i answered => exact objectsKept_find h hstep
  | delete i write => exact objectsKept_delete h hown hstep
  | expire record =>
    cases hstep
    refine ⟨h.ofJobs, ?_, h.inserting⟩
    intro other hother hactive
    refine h.recorded other hother ?_
    simp only [SharedWorld.active, Bool.and_eq_true, Bool.not_eq_true',
      Bool.or_eq_false_iff] at hactive ⊢
    exact ⟨hactive.1, hactive.2.1⟩

/--
While every delete takes its own key only, every active record has its object,
in every state of every run; so also where no candidate is between its put and
its end.
-/
theorem records_hold_objects (digest : List UInt8 → Except Thrown (List UInt8))
    (jobs : Nat → HandoffJob digest) {w₀ w : SharedWorld} {events : List HandoffEvent}
    (hbefore : HandoffsBefore w₀)
    (hrun : Run (Guarded (Fires (handoffStep jobs)) (DeletesOwnOnly jobs)) w₀ events w) :
    RecordsHoldObjects digest w :=
  (hrun.preserves (I := ObjectsKept jobs)
    (fun _ _ _ hstep h => objectsKept_step h hstep.1 hstep.2)
    (objectsKept_before hbefore)).recorded

end Invariant

/-- A candidate that is approved and goes through. -/
def memoryJob : HandoffJob losingCollaborators.digest where
  behaviour := willingBehaviour
  lease := runLease
  identity :=
    { runId := "run"
      tenantId := "tenant"
      userId := "user" }
  approval :=
    { approvedAt := "2026-07-11T06:00:00.000Z"
      approver := "policy"
      candidateId := "c1"
      decisionId := "decision"
      status := .approved }
  candidate := memoryCandidate "c1"
  bytes := [1]
  record :=
    { approval :=
        { approvedAt := "2026-07-11T06:00:00.000Z"
          approver := "policy"
          decisionId := "decision" }
      byteSize := 1
      classification := .userPrivate
      contentHashSha256 := "sha256:00"
      contentType := "text/plain"
      contractVersion := durableHandoffContractVersion
      createdAt := "2026-07-11T06:00:00.000Z"
      deletedAt := none
      evidenceIds := ["e"]
      expiresAt := none
      id := "handoff_00"
      kind := .memory
      leaseId := "lease"
      ownerUserId := "user"
      provenance := (memoryCandidate "c1").provenance
      workspacePath := "outputs/m"
      retentionPolicy := .userManaged
      runId := "run"
      scan :=
        { classification := .userPrivate
          engine := "scanner"
          scannedAt := "2026-07-11T06:00:00.000Z"
          signatureVersion := "v1" }
      storageKey := "agent-handoff/v0/tenant/user/run/memory/handoff_00-00"
      tenantId := "tenant" }
  prepared := by decide

def emptyWorld : SharedWorld :=
  { stores := .before (fun _ => none) []
    expired := fun _ => false
    phases := fun _ => .idle }

/-- Two identical candidates: the second has its insert refused and finds nothing, then the first
records. -/
def crossing : List HandoffEvent :=
  [.put 0 .settles, .put 1 .settles, .insert 1 (.rejects false), .find 1 true,
    .insert 0 .settles, .delete 1 .settles]

theorem crossing_ends :
    (fire (handoffStep fun _ => memoryJob) emptyWorld crossing).map (fun w =>
        (w.stores.records, w.stores.objects memoryJob.key, w.active memoryJob.record)) =
      some ([memoryJob.record], none, true) := by
  decide

/-- The compensating delete of one candidate takes the object of the record of the other. -/
theorem record_without_object :
    ∃ w, Run (Fires (handoffStep fun _ => memoryJob)) emptyWorld crossing w ∧
      (∀ i, (w.phases i).settled = true) ∧
      ¬ RecordsHoldObjects losingCollaborators.digest w := by
  obtain ⟨w, hfire, hseen⟩ := Option.map_eq_some_iff.mp crossing_ends
  simp only [Prod.mk.injEq] at hseen
  obtain ⟨hrecords, hobject, hactive⟩ := hseen
  refine ⟨w, run_fires_iff.mpr hfire, ?_, ?_⟩
  · intro i
    have hphases : (fire (handoffStep fun _ => memoryJob) emptyWorld crossing).map
        (fun w => (w.phases i).settled) = some true := by
      rcases i with _ | _ | i
      · decide
      · decide
      · rfl
    rw [hfire] at hphases
    exact Option.some.inj hphases
  · intro hholds
    obtain ⟨object, hstored, _⟩ := hholds memoryJob.record (by simp [hrecords]) hactive
    have hgone : w.stores.objects memoryJob.record.storageKey = none := hobject
    rw [hgone] at hstored
    cases hstored

/-- Two identical candidates one after the other: the second finds the record of the first. -/
def orderly : List HandoffEvent :=
  [.put 0 .settles, .insert 0 .settles, .put 1 .settles, .insert 1 (.rejects false),
    .find 1 true]

/-- Handed over one after the other, the candidates keep the object of their record. -/
theorem records_hold_objects_orderly :
    ∃ w, fire (handoffStep fun _ => memoryJob) emptyWorld orderly = some w ∧
      RecordsHoldObjects losingCollaborators.digest w := by
  have hguarded : ∀ event ∈ orderly, ∀ w : SharedWorld,
      DeletesOwnOnly (fun _ => memoryJob) w event := by
    simp [orderly, DeletesOwnOnly]
  have hfires : (fire (handoffStep fun _ => memoryJob) emptyWorld orderly).isSome = true := by
    decide
  obtain ⟨w, hfire⟩ := Option.isSome_iff_exists.mp hfires
  refine ⟨w, hfire, ?_⟩
  have hrun : Run (Guarded (Fires (handoffStep fun _ => memoryJob))
      (DeletesOwnOnly fun _ => memoryJob)) emptyWorld orderly w :=
    (run_fires_iff.mpr hfire).guarded hguarded
  exact records_hold_objects losingCollaborators.digest (fun _ => memoryJob)
    ⟨rfl, fun _ => rfl⟩ hrun

end Aiphabee.DurableHandoff
