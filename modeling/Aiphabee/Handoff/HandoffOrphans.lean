import Aiphabee.Handoff.DurableHandoff
import Mathlib.Data.List.Nodup
import Mathlib.Data.List.Perm.Subperm

/-!
# What a durable hand-off leaves behind

An object is orphaned when the hand-off has put it, it is still stored, and no
record of the tenant has its key.  Every orphan of the processed candidates is
listed as needing cleanup; but when a later candidate throws, the items are
thrown away with it.  `handoff_law_iff` says that this is the only way in which
the law of the hand-off fails.
-/

namespace Aiphabee.DurableHandoff

open LeaseRegistry (SandboxLease)

variable {decisions : List DurableHandoffApprovalDecision}
variable {candidates : List DurableHandoffCandidate}
variable {identity : HandoffIdentity}

section Worlds

def HandoffWorld.Recorded (w : HandoffWorld) (tenantId key : String) : Prop :=
  ∃ record ∈ w.records, record.tenantId = tenantId ∧ record.storageKey = key

structure HandoffWorld.Orphaned
    (w : HandoffWorld)
    (tenantId key : String) : Prop where
  wasPut : key ∈ w.putKeys
  stored : (w.objects key).isSome = true
  unrecorded : ¬ w.Recorded tenantId key

structure TouchesOnly
    (key : String)
    (w w' : HandoffWorld) : Prop where
  records : w.records ⊆ w'.records
  putKeys : w.putKeys ⊆ w'.putKeys
  otherPut : ∀ k, k ≠ key → k ∈ w'.putKeys → k ∈ w.putKeys
  otherObjects : ∀ k, k ≠ key → w'.objects k = w.objects k
  destroyCalls : w'.destroyCalls = w.destroyCalls

variable {w w' w'' : HandoffWorld}
variable {key : String}

theorem TouchesOnly.refl (key : String) (w : HandoffWorld) : TouchesOnly key w w :=
  ⟨fun _ h => h, fun _ h => h, fun _ _ h => h, fun _ _ => rfl, rfl⟩

theorem TouchesOnly.trans (h₁ : TouchesOnly key w w') (h₂ : TouchesOnly key w' w'') :
    TouchesOnly key w w'' where
  records := fun _ h => h₂.records (h₁.records h)
  putKeys := fun _ h => h₂.putKeys (h₁.putKeys h)
  otherPut := fun k hk h => h₁.otherPut k hk (h₂.otherPut k hk h)
  otherObjects := fun k hk => (h₂.otherObjects k hk).trans (h₁.otherObjects k hk)
  destroyCalls := h₂.destroyCalls.trans h₁.destroyCalls

theorem touchesOnly_put (w : HandoffWorld) (write : WriteOutcome) (key : String)
    (object : StoredObject) : TouchesOnly key w (w.put write key object) := by
  unfold HandoffWorld.put
  split
  · refine ⟨fun _ h => h, fun _ h => by simp [h], ?_, ?_, rfl⟩
    · intro k hk h
      simpa [hk] using h
    · intro k hk
      simp [hk]
  · exact TouchesOnly.refl key w

theorem touchesOnly_delete (w : HandoffWorld) (write : WriteOutcome) (key : String) :
    TouchesOnly key w (w.delete write key) := by
  unfold HandoffWorld.delete
  split
  · refine ⟨fun _ h => h, fun _ h => h, fun _ _ h => h, ?_, rfl⟩
    intro k hk
    simp [hk]
  · exact TouchesOnly.refl key w

theorem touchesOnly_insert (w : HandoffWorld) (write : WriteOutcome) (record : DurableHandoffRecord)
    (key : String) : TouchesOnly key w (w.insert write record) := by
  unfold HandoffWorld.insert
  split
  · exact ⟨fun _ h => by simp [h], fun _ h => h, fun _ _ h => h, fun _ _ => rfl, rfl⟩
  · exact TouchesOnly.refl key w

variable {write : WriteOutcome}

theorem applies_of_succeeds (h : write.succeeds = true) :
    write.applies = true := by
  cases write with
  | settles => rfl
  | rejects => cases h
  | throws => cases h

theorem mem_putKeys_put {object : StoredObject} (h : write.succeeds = true) :
    key ∈ (w.put write key object).putKeys := by
  simp [HandoffWorld.put, applies_of_succeeds h]

theorem mem_records_insert {record : DurableHandoffRecord} (h : write.succeeds = true) :
    record ∈ (w.insert write record).records := by
  simp [HandoffWorld.insert, applies_of_succeeds h]

theorem objects_delete (h : write.succeeds = true) :
    (w.delete write key).objects key = none := by
  simp [HandoffWorld.delete, applies_of_succeeds h]

/-- A record that is found is stored, under the identifier and the tenant it was looked up with. -/
theorem findActiveById_some {expired : DurableHandoffRecord → Bool} {id tenantId : String}
    {record : DurableHandoffRecord} (h : w.findActiveById expired id tenantId = some record) :
    record ∈ w.records ∧ record.id = id ∧ record.tenantId = tenantId ∧
      record.deletedAt = none ∧ expired record = false := by
  have hmem := List.mem_of_find?_eq_some h
  have hfound := List.find?_some h
  simp only [Bool.and_eq_true, decide_eq_true_eq, Option.isNone_iff_eq_none,
    Bool.not_eq_true'] at hfound
  obtain ⟨⟨⟨hid, htenant⟩, hdeleted⟩, hexpired⟩ := hfound
  exact ⟨hmem, hid, htenant, hdeleted, hexpired⟩

end Worlds

section Storing

variable {w : HandoffWorld}

def ItemFits (behaviour : CandidateBehaviour) (candidateId : String) (record : DurableHandoffRecord)
    (w : HandoffWorld) : DurableHandoffItemResult → Prop
  | .persisted id stored =>
    id = candidateId ∧ stored ∈ w.records ∧ stored.id = record.id ∧
      stored.tenantId = record.tenantId ∧ sameHandoff stored record = true ∧
      behaviour.put = .settles ∧ record.storageKey ∈ w.putKeys
  | .rejected id _ => id = candidateId ∧ w.objects record.storageKey = none
  | .cleanupRequired id key => id = candidateId ∧ key = record.storageKey

theorem sameHandoff_self (record : DurableHandoffRecord) : sameHandoff record record = true := by
  simp [sameHandoff]

theorem succeeds_iff {write : WriteOutcome} : write.succeeds = true ↔ write = .settles := by
  cases write <;> simp [WriteOutcome.succeeds]

theorem compensate_spec (behaviour : CandidateBehaviour) (candidateId : String)
    (reasonCode : RejectionReason) (record : DurableHandoffRecord) (w : HandoffWorld) :
    let after := compensate behaviour candidateId reasonCode record.storageKey w
    TouchesOnly record.storageKey w after.1 ∧
      ItemFits behaviour candidateId record after.1 after.2 := by
  refine ⟨touchesOnly_delete w behaviour.delete record.storageKey, ?_⟩
  simp only [compensate]
  split
  · next hdelete => exact ⟨rfl, objects_delete hdelete⟩
  · exact ⟨rfl, rfl⟩

theorem storeCandidate_spec (behaviour : CandidateBehaviour) (candidateId : String)
    (bytes : List UInt8) (record : DurableHandoffRecord) (w : HandoffWorld) :
    let after := storeCandidate behaviour candidateId bytes record w
    TouchesOnly record.storageKey w after.1 ∧
      ItemFits behaviour candidateId record after.1 after.2 := by
  let object : StoredObject := { bytes := bytes, contentType := record.contentType }
  have hput := touchesOnly_put w behaviour.put record.storageKey object
  have hinsert := hput.trans
    (touchesOnly_insert (w.put behaviour.put record.storageKey object) behaviour.insert record
      record.storageKey)
  simp only [storeCandidate]
  split
  · next hputs =>
      have hkey : record.storageKey ∈
          ((w.put behaviour.put record.storageKey object).insert behaviour.insert record).putKeys :=
        (touchesOnly_insert _ behaviour.insert record record.storageKey).putKeys
          (mem_putKeys_put hputs)
      split
      · next hinserts =>
          exact ⟨hinsert, rfl, mem_records_insert hinserts, rfl, rfl, sameHandoff_self record,
            succeeds_iff.mp hputs, hkey⟩
      · split
        · exact ⟨hinsert, rfl, rfl⟩
        · exact ⟨hinsert, rfl, rfl⟩
        · split
          · next existing hfound =>
              obtain ⟨hstored, hid, htenant, _, _⟩ := findActiveById_some hfound
              split
              · next hsame =>
                  exact ⟨hinsert, rfl, hstored, hid, htenant, hsame, succeeds_iff.mp hputs, hkey⟩
              · exact ⟨hinsert, rfl, rfl⟩
          · obtain ⟨htouch, hfits⟩ := compensate_spec behaviour candidateId .recordWriteFailed
              record ((w.put behaviour.put record.storageKey object).insert behaviour.insert record)
            exact ⟨hinsert.trans htouch, hfits⟩
  · obtain ⟨htouch, hfits⟩ := compensate_spec behaviour candidateId .objectWriteFailed record
      (w.put behaviour.put record.storageKey object)
    exact ⟨hput.trans htouch, hfits⟩

theorem orphaned_store {behaviour : CandidateBehaviour} {candidateId : String}
    {record : DurableHandoffRecord} {w' : HandoffWorld} {item : DurableHandoffItemResult}
    {key : String} (htouch : TouchesOnly record.storageKey w w')
    (hfits : ItemFits behaviour candidateId record w' item) (h : w'.Orphaned record.tenantId key) :
    w.Orphaned record.tenantId key ∨ item = .cleanupRequired candidateId key := by
  by_cases hkey : key = record.storageKey
  · right
    subst hkey
    cases item with
    | persisted id stored =>
      obtain ⟨_, hstored, _, htenant, hsame, _, _⟩ := hfits
      simp only [sameHandoff, Bool.and_eq_true, decide_eq_true_eq] at hsame
      exact absurd ⟨stored, hstored, htenant, hsame.1.1.1⟩ h.unrecorded
    | rejected id reasonCode =>
      have hstored := h.stored
      rw [hfits.2] at hstored
      cases hstored
    | cleanupRequired id key =>
      obtain ⟨rfl, rfl⟩ := hfits
      rfl
  · left
    refine ⟨htouch.otherPut key hkey h.wasPut, ?_, ?_⟩
    · rw [← htouch.otherObjects key hkey]
      exact h.stored
    · rintro ⟨stored, hstored, hrest⟩
      exact h.unrecorded ⟨stored, htouch.records hstored, hrest⟩

end Storing

theorem collectDecisions_spec {expected : List String}
    {decisions given collected : List DurableHandoffApprovalDecision}
    (hnodup : (decisions.map (·.candidateId)).Nodup)
    (hexpected : ∀ decision ∈ decisions, decision.candidateId ∈ expected)
    (h : collectDecisions expected decisions given = .ok collected) :
    collected = decisions ++ given ∧
      (collected.map (·.candidateId)).Nodup ∧
      ∀ decision ∈ collected, decision.candidateId ∈ expected := by
  induction given generalizing decisions with
  | nil =>
    cases h
    exact ⟨by simp, hnodup, hexpected⟩
  | cons decision rest ih =>
    simp only [collectDecisions] at h
    split at h
    · cases h
    · next hformed =>
        simp only [decisionMalformed, Bool.or_eq_true, not_or] at hformed
        have hin : decision.candidateId ∈ expected := by
          simpa using hformed.1.1.1.1.1
        have hnew : decision.candidateId ∉ decisions.map (·.candidateId) := by
          simpa using hformed.1.1.1.1.2
        obtain ⟨hcollected, hrest⟩ := ih
          (by
            rw [List.map_append, List.nodup_append]
            refine ⟨hnodup, by simp, ?_⟩
            rintro a ha b hb rfl
            obtain rfl := List.mem_singleton.mp hb
            exact hnew ha)
          (by
            intro other hother
            rcases List.mem_append.mp hother with hother | hother
            · exact hexpected other hother
            · obtain rfl := List.mem_singleton.mp hother
              exact hin)
          h
        exact ⟨by simpa using hcollected, hrest⟩

theorem validateApprovalSet_spec {approval : DurableHandoffApprovalSet}
    (h : validateApprovalSet approval identity candidates = .ok decisions) :
    decisions = approval.decisions ∧
      (decisions.map (·.candidateId)).Nodup ∧
      (∀ decision ∈ decisions, decision.candidateId ∈ candidates.map (·.candidateId)) ∧
      decisions.length = candidates.length := by
  simp only [validateApprovalSet] at h
  split at h
  · cases h
  · next hmatches =>
      simp only [not_or, not_not] at hmatches
      obtain ⟨hcollected, hnodup, hexpected⟩ :=
        collectDecisions_spec (by simp) (by simp) h
      have hgiven : decisions = approval.decisions := by simpa using hcollected
      exact ⟨hgiven, hnodup, hexpected, hgiven ▸ hmatches.2.2.2⟩

theorem validateCandidates_nodup {runId : String} {seen : List String}
    {candidates : List DurableHandoffCandidate}
    (h : validateCandidates runId seen candidates = .ok ()) :
    (candidates.map (·.candidateId)).Nodup ∧
      ∀ candidate ∈ candidates, candidate.candidateId ∉ seen := by
  induction candidates generalizing seen with
  | nil => simp
  | cons candidate rest ih =>
    simp only [validateCandidates] at h
    split at h
    · cases h
    · split at h
      · cases h
      · next hseen =>
          obtain ⟨hnodup, hfresh⟩ := ih h
          refine ⟨?_, ?_⟩
          · rw [List.map_cons, List.nodup_cons]
            refine ⟨?_, hnodup⟩
            intro hmem
            obtain ⟨other, hother, heq⟩ := List.mem_map.mp hmem
            exact hfresh other hother (by simp [heq])
          · intro other hother
            rcases List.mem_cons.mp hother with rfl | hother
            · exact hseen
            · exact fun hmem => hfresh other hother (List.mem_cons_of_mem _ hmem)

theorem validateInput_spec {input : HandoffInput} (h : validateInput input = .ok identity) :
    identity.tenantId = input.lease.accessGrant.tenantId ∧
      (input.candidates.map (·.candidateId)).Nodup := by
  simp only [validateInput] at h
  split at h
  · cases h
  · split at h
    · cases h
    · split at h
      · cases h
      · cases hvalid : validateCandidates _ [] input.candidates with
        | error message =>
          rw [hvalid] at h
          cases h
        | ok =>
          rw [hvalid] at h
          cases h
          exact ⟨rfl, (validateCandidates_nodup hvalid).1⟩

theorem exists_decision {approval : DurableHandoffApprovalSet}
    (happroval : validateApprovalSet approval identity candidates = .ok decisions)
    {candidate : DurableHandoffCandidate} (hcandidate : candidate ∈ candidates) :
    ∃ decision, decisions.find? (fun decision =>
      decision.candidateId = candidate.candidateId) = some decision := by
  obtain ⟨_, hnodup, hexpected, hlength⟩ := validateApprovalSet_spec happroval
  have hsubset : decisions.map (·.candidateId) ⊆ candidates.map (·.candidateId) := by
    intro id hid
    obtain ⟨decision, hdecision, rfl⟩ := List.mem_map.mp hid
    exact hexpected decision hdecision
  have hperm : (decisions.map (·.candidateId)).Perm (candidates.map (·.candidateId)) :=
    (List.subperm_of_subset hnodup hsubset).perm_of_length_le (by simp [hlength])
  have hid : candidate.candidateId ∈ decisions.map (·.candidateId) :=
    hperm.mem_iff.mpr (List.mem_map_of_mem hcandidate)
  obtain ⟨decision, hdecision, heq⟩ := List.mem_map.mp hid
  rw [← Option.isSome_iff_exists, List.find?_isSome]
  exact ⟨decision, hdecision, by simpa using heq⟩

section Processing

variable {collaborators : Collaborators}
variable {lease : SandboxLease}

structure Prepared
    (digest : List UInt8 → Except Thrown (List UInt8))
    (behaviour : CandidateBehaviour)
    (identity : HandoffIdentity)
    (candidate : DurableHandoffCandidate)
    (bytes : List UInt8)
    (record : DurableHandoffRecord) : Prop where
  read : behaviour.readFile = .returns (.read bytes)
  nonempty : 0 < bytes.length
  bounded : bytes.length ≤ maxBytes candidate.kind
  hashed : sha256 digest bytes = .ok record.contentHashSha256
  scanned : behaviour.scan = .returns (.clean record.scan)
  classified : record.scan.classification = candidate.classification
  tenant : record.tenantId = identity.tenantId
  owner : record.ownerUserId = identity.userId
  run : record.runId = identity.runId

variable {digest : List UInt8 → Except Thrown (List UInt8)}

variable {candidate : DurableHandoffCandidate} {behaviour : CandidateBehaviour} {bytes : List UInt8}

theorem inspectCandidate_clean {contentHash : String} {scan : CleanScan}
    (h : inspectCandidate digest behaviour candidate = .ok (.clean bytes contentHash scan)) :
    behaviour.readFile = .returns (.read bytes) ∧ 0 < bytes.length ∧
      bytes.length ≤ maxBytes candidate.kind ∧ sha256 digest bytes = .ok contentHash ∧
      behaviour.scan = .returns (.clean scan) ∧
      scan.classification = candidate.classification := by
  simp only [inspectCandidate] at h
  split at h
  · cases h
  · cases h
  · cases h
  · next read hread =>
      split at h
      · cases h
      · next hnonempty =>
          split at h
          · cases h
          · next hbounded =>
              split at h
              · cases h
              · next hash hhash =>
                  simp only [inspectScan] at h
                  split at h
                  · cases h
                  · cases h
                  · cases h
                  · cases h
                  · next found hscan =>
                      split at h
                      · cases h
                      · next hmatches =>
                          cases h
                          simp only [not_or, not_not] at hmatches
                          exact ⟨hread, Nat.pos_of_ne_zero hnonempty, Nat.le_of_not_lt hbounded,
                            hhash, hscan, hmatches.1⟩

variable {record : DurableHandoffRecord}

theorem handoffRecord_fields {approval : DurableHandoffApprovalDecision} {contentHash : String}
    {scan : CleanScan}
    (h : handoffRecord digest behaviour lease identity approval candidate bytes contentHash scan =
      .ok record) :
    record.contentHashSha256 = contentHash ∧ record.scan = scan ∧
      record.tenantId = identity.tenantId ∧ record.ownerUserId = identity.userId ∧
      record.runId = identity.runId ∧ record.deletedAt = none ∧
      record.storageKey = storageKey identity contentHash record.id candidate.kind := by
  simp only [handoffRecord, bind, Except.bind] at h
  split at h
  · cases h
  · split at h
    · cases h
    · split at h
      · cases h
      · split at h
        · cases h
        · cases h
          exact ⟨rfl, rfl, rfl, rfl, rfl, rfl, rfl⟩

theorem prepareCandidate_spec {approval : DurableHandoffApprovalDecision}
    (h : prepareCandidate digest behaviour lease identity approval candidate =
      .ok (.inr (bytes, record))) :
    Prepared digest behaviour identity candidate bytes record := by
  simp only [prepareCandidate] at h
  split at h
  · cases h
  · cases h
  · next found contentHash scan hinspected =>
      cases hrecord : handoffRecord digest behaviour lease identity approval candidate found
          contentHash scan with
      | error thrown =>
        rw [hrecord] at h
        cases h
      | ok made =>
        rw [hrecord] at h
        cases h
        obtain ⟨hhash, hscan, htenant, howner, hrun, _, _⟩ := handoffRecord_fields hrecord
        obtain ⟨hread, hnonempty, hbounded, hhashed, hscanned, hclassified⟩ :=
          inspectCandidate_clean hinspected
        exact ⟨hread, hnonempty, hbounded, hhash ▸ hhashed, hscan ▸ hscanned,
          hscan ▸ hclassified, htenant, howner, hrun⟩

/-- The value the processing of a candidate throws, if it does; the stores have no part in it. -/
def candidateThrows (collaborators : Collaborators) (lease : SandboxLease)
    (identity : HandoffIdentity) (decisions : List DurableHandoffApprovalDecision)
    (candidate : DurableHandoffCandidate) : Option Thrown :=
  match decisions.find? fun decision => decision.candidateId = candidate.candidateId with
  | none => none
  | some decision =>
    match decision.status with
    | .rejected _ => none
    | .approved =>
      match prepareCandidate collaborators.digest
          (collaborators.candidate candidate.candidateId) lease identity decision
          candidate with
      | .error thrown => some thrown
      | .ok _ => none

structure PersistedLawfully
    (collaborators : Collaborators)
    (identity : HandoffIdentity)
    (decisions : List DurableHandoffApprovalDecision)
    (candidate : DurableHandoffCandidate)
    (record : DurableHandoffRecord)
    (w : HandoffWorld) : Prop where
  approved :
    ∃ decision ∈ decisions,
      decision.candidateId = candidate.candidateId ∧ decision.status = .approved
  inspected :
    ∃ bytes scan,
      (collaborators.candidate candidate.candidateId).readFile = .returns (.read bytes) ∧
      0 < bytes.length ∧ bytes.length ≤ maxBytes candidate.kind ∧
      sha256 collaborators.digest bytes = .ok record.contentHashSha256 ∧
      (collaborators.candidate candidate.candidateId).scan = .returns (.clean scan) ∧
      scan.classification = candidate.classification
  put : (collaborators.candidate candidate.candidateId).put = .settles
  wasPut : record.storageKey ∈ w.putKeys
  recorded : record ∈ w.records
  tenant : record.tenantId = identity.tenantId
  owner : record.ownerUserId = identity.userId
  run : record.runId = identity.runId

/-- What one candidate does: it throws and leaves the world, or it ends in an item that is kept. -/
inductive CandidateStep
    (collaborators : Collaborators)
    (lease : SandboxLease)
    (identity : HandoffIdentity)
    (decisions : List DurableHandoffApprovalDecision)
    (candidate : DurableHandoffCandidate)
    (w : HandoffWorld) :
    HandoffWorld → Except Thrown DurableHandoffItemResult → Prop
  | undecided
      (h : decisions.find? (fun decision =>
        decision.candidateId = candidate.candidateId) = none)
      (thrown : Thrown) :
      CandidateStep collaborators lease identity decisions candidate w w (.error thrown)
  | threw
      (thrown : Thrown)
      (h : candidateThrows collaborators lease identity decisions candidate = some thrown) :
      CandidateStep collaborators lease identity decisions candidate w w (.error thrown)
  | refused
      (reasonCode : RejectionReason)
      (h : candidateThrows collaborators lease identity decisions candidate = none) :
      CandidateStep collaborators lease identity decisions candidate w w
        (.ok (.rejected candidate.candidateId reasonCode))
  | stored
      (decision : DurableHandoffApprovalDecision)
      (bytes : List UInt8)
      (record : DurableHandoffRecord)
      (hdecision : decision ∈ decisions ∧
        decision.candidateId = candidate.candidateId ∧ decision.status = .approved)
      (h : candidateThrows collaborators lease identity decisions candidate = none)
      (hprepared : Prepared collaborators.digest
        (collaborators.candidate candidate.candidateId) identity candidate bytes record) :
      CandidateStep collaborators lease identity decisions candidate w
        (storeCandidate (collaborators.candidate candidate.candidateId)
          candidate.candidateId bytes record w).1
        (.ok (storeCandidate (collaborators.candidate candidate.candidateId)
          candidate.candidateId bytes record w).2)

theorem candidateStep (collaborators : Collaborators) (lease : SandboxLease)
    (identity : HandoffIdentity) (decisions : List DurableHandoffApprovalDecision)
    (candidate : DurableHandoffCandidate) (w : HandoffWorld) :
    let after := processCandidate collaborators lease identity decisions candidate w
    CandidateStep collaborators lease identity decisions candidate w after.1 after.2 := by
  simp only [processCandidate]
  split
  · next hnone => exact CandidateStep.undecided hnone _
  · next decision hfound =>
      have hmem := List.mem_of_find?_eq_some hfound
      have hid : decision.candidateId = candidate.candidateId := by
        simpa using List.find?_some hfound
      split
      · next reasonCode hstatus =>
          exact CandidateStep.refused _ (by simp [candidateThrows, hfound, hstatus])
      · next hstatus =>
          simp only [processApprovedCandidate]
          split
          · next thrown hprepare =>
              exact CandidateStep.threw _
                (by simp [candidateThrows, hfound, hstatus, hprepare])
          · next reasonCode hprepare =>
              exact CandidateStep.refused _
                (by simp [candidateThrows, hfound, hstatus, hprepare])
          · next bytes record hprepare =>
              exact CandidateStep.stored decision bytes record ⟨hmem, hid, hstatus⟩
                (by simp [candidateThrows, hfound, hstatus, hprepare])
                (prepareCandidate_spec hprepare)

variable {w w' : HandoffWorld}

/-- What is promised of a persisted item stays true while the stores grow. -/
theorem PersistedLawfully.mono
    (h : PersistedLawfully collaborators identity decisions candidate record w)
    (hrecords : w.records ⊆ w'.records) (hputKeys : w.putKeys ⊆ w'.putKeys) :
    PersistedLawfully collaborators identity decisions candidate record w' :=
  { h with
    wasPut := hputKeys h.wasPut
    recorded := hrecords h.recorded }

structure ItemsLawful
    (collaborators : Collaborators)
    (identity : HandoffIdentity)
    (decisions : List DurableHandoffApprovalDecision)
    (candidates : List DurableHandoffCandidate)
    (w : HandoffWorld)
    (items : List DurableHandoffItemResult) : Prop where
  destroyCalls : w.destroyCalls = 0
  orphans :
    ∀ key, w.Orphaned identity.tenantId key →
      ∃ candidateId, .cleanupRequired candidateId key ∈ items
  persisted :
    ∀ candidateId record, .persisted candidateId record ∈ items →
      ∃ candidate ∈ candidates, candidate.candidateId = candidateId ∧
        PersistedLawfully collaborators identity decisions candidate record w

variable {candidate : DurableHandoffCandidate}

theorem itemsLawful_step {items : List DurableHandoffItemResult} {item : DurableHandoffItemResult}
    (hcandidate : candidate ∈ candidates)
    (hlawful : ItemsLawful collaborators identity decisions candidates w items)
    (hstep : CandidateStep collaborators lease identity decisions candidate w w' (.ok item)) :
    ItemsLawful collaborators identity decisions candidates w' (items ++ [item]) := by
  cases hstep with
  | refused reasonCode _ =>
    refine ⟨hlawful.destroyCalls, ?_, ?_⟩
    · intro key hkey
      obtain ⟨candidateId, hmem⟩ := hlawful.orphans key hkey
      exact ⟨candidateId, List.mem_append_left _ hmem⟩
    · intro candidateId record hmem
      exact hlawful.persisted candidateId record (by simpa using hmem)
  | stored decision bytes record hdecision _ hprepared =>
    obtain ⟨htouch, hfits⟩ := storeCandidate_spec
      (collaborators.candidate candidate.candidateId) candidate.candidateId bytes record w
    generalize storeCandidate (collaborators.candidate candidate.candidateId)
      candidate.candidateId bytes record w = after at htouch hfits ⊢
    obtain ⟨w', item⟩ := after
    refine ⟨htouch.destroyCalls.trans hlawful.destroyCalls, ?_, ?_⟩
    · intro key hkey
      rw [← hprepared.tenant] at hkey
      rcases orphaned_store htouch hfits hkey with hbefore | rfl
      · obtain ⟨candidateId, hmem⟩ := hlawful.orphans key (hprepared.tenant ▸ hbefore)
        exact ⟨candidateId, List.mem_append_left _ hmem⟩
      · exact ⟨candidate.candidateId, by simp⟩
    · intro candidateId stored hmem
      rcases List.mem_append.mp hmem with hmem | hmem
      · obtain ⟨other, hother, hid, hpersisted⟩ := hlawful.persisted candidateId stored hmem
        exact ⟨other, hother, hid, hpersisted.mono htouch.records htouch.putKeys⟩
      · obtain rfl := List.mem_singleton.mp hmem
        obtain ⟨rfl, hstored, _, htenant, hsame, hput, hwasPut⟩ := hfits
        simp only [sameHandoff, Bool.and_eq_true, decide_eq_true_eq] at hsame
        obtain ⟨⟨⟨hkey, hhash⟩, howner⟩, hrun⟩ := hsame
        refine ⟨candidate, hcandidate, rfl, ⟨decision, hdecision⟩, ?_, hput, hkey ▸ hwasPut,
          hstored, htenant.trans hprepared.tenant, howner.trans hprepared.owner,
          hrun.trans hprepared.run⟩
        exact ⟨bytes, record.scan, hprepared.read, hprepared.nonempty, hprepared.bounded,
          hhash ▸ hprepared.hashed, hprepared.scanned, hprepared.classified⟩

variable {items items' : List DurableHandoffItemResult}

theorem itemsLawful_processed {candidates rest : List DurableHandoffCandidate}
    {cause : Option Thrown} (hrest : rest ⊆ candidates)
    (hlawful : ItemsLawful collaborators identity decisions candidates w items)
    (h : processCandidates collaborators lease identity decisions rest w items =
      (w', items', cause)) :
    ItemsLawful collaborators identity decisions candidates w' items' := by
  induction rest generalizing w items with
  | nil =>
    cases h
    exact hlawful
  | cons candidate rest ih =>
    have hstep := candidateStep collaborators lease identity decisions candidate w
    simp only [processCandidates] at h
    generalize processCandidate collaborators lease identity decisions candidate w = after
      at h hstep
    obtain ⟨w₁, outcome⟩ := after
    cases outcome with
    | error thrown =>
      cases h
      cases hstep <;> exact hlawful
    | ok item =>
      have hcandidate : candidate ∈ candidates := hrest List.mem_cons_self
      have hlater : rest ⊆ candidates := fun _ hmem => hrest (List.mem_cons_of_mem _ hmem)
      exact ih hlater (itemsLawful_step hcandidate hlawful hstep) h

theorem exists_throwing {thrown : Thrown}
    (hdecided : ∀ candidate ∈ candidates, ∃ decision, decisions.find? (fun decision =>
      decision.candidateId = candidate.candidateId) = some decision)
    (h : processCandidates collaborators lease identity decisions candidates w items =
      (w', items', some thrown)) :
    ∃ before candidate later,
      candidates = before ++ candidate :: later ∧
      processCandidates collaborators lease identity decisions before w items =
        (w', items', none) ∧
      candidateThrows collaborators lease identity decisions candidate = some thrown := by
  induction candidates generalizing w items with
  | nil => cases h
  | cons candidate rest ih =>
    have hstep := candidateStep collaborators lease identity decisions candidate w
    simp only [processCandidates] at h
    cases hafter : processCandidate collaborators lease identity decisions candidate w with
    | mk w₁ outcome =>
      rw [hafter] at h hstep
      cases outcome with
      | error value =>
        cases h
        refine ⟨[], candidate, rest, rfl, ?_, ?_⟩
        · cases hstep <;> rfl
        · cases hstep with
          | undecided hnone =>
            obtain ⟨decision, hfound⟩ := hdecided candidate List.mem_cons_self
            rw [hnone] at hfound
            cases hfound
          | threw _ hthrows => exact hthrows
      | ok item =>
        obtain ⟨before, throwing, later, rfl, hbefore, hthrows⟩ :=
          ih (fun other hother => hdecided other (List.mem_cons_of_mem _ hother)) h
        refine ⟨candidate :: before, throwing, later, rfl, ?_, hthrows⟩
        simp only [processCandidates, hafter]
        exact hbefore

theorem processCandidates_of_throws {before : List DurableHandoffCandidate}
    (later : List DurableHandoffCandidate) {thrown : Thrown}
    (hbefore : processCandidates collaborators lease identity decisions before w items =
      (w', items', none))
    (hthrows : candidateThrows collaborators lease identity decisions candidate = some thrown) :
    processCandidates collaborators lease identity decisions (before ++ candidate :: later)
      w items = (w', items', some thrown) := by
  induction before generalizing w items with
  | nil =>
    cases hbefore
    have hprocess : processCandidate collaborators lease identity decisions candidate w' =
        (w', .error thrown) := by
      simp only [candidateThrows] at hthrows
      split at hthrows
      · cases hthrows
      · next decision hfound =>
          split at hthrows
          · cases hthrows
          · next hstatus =>
              split at hthrows
              · next hprepare =>
                  cases hthrows
                  simp [processCandidate, hfound, hstatus, processApprovedCandidate, hprepare]
              · cases hthrows
    simp [processCandidates, hprocess]
  | cons head before ih =>
    simp only [List.cons_append, processCandidates] at hbefore ⊢
    split at hbefore
    · exact ih hbefore
    · cases hbefore

end Processing

section Law

variable (collaborators : Collaborators)
variable (input : HandoffInput)
variable (objects : String → Option StoredObject)
variable (records : List DurableHandoffRecord)

/-- The hand-off, from stores of any content. -/
def handoff : HandoffWorld × Except DurableHandoffError DurableHandoffResult :=
  handoffAndDestroySandboxOutputs collaborators input (.before objects records)

def PersistedOnlyLawfully : Prop :=
  ∀ result candidateId record,
    (handoff collaborators input objects records).2 = .ok result →
    .persisted candidateId record ∈ result.items →
      ∃ identity approval candidate,
        validateInput input = .ok identity ∧
        collaborators.authorize = .returns approval ∧
        candidate ∈ input.candidates ∧
        candidate.candidateId = candidateId ∧
        (∀ other ∈ input.candidates, other.candidateId = candidateId → other = candidate) ∧
        (∀ decision ∈ approval.decisions,
          decision.candidateId = candidateId → decision.status = .approved) ∧
        PersistedLawfully collaborators identity approval.decisions candidate record
          (handoff collaborators input objects records).1

/-- Every orphan is reported as needing cleanup, and the release as unsafe. -/
def OrphansReported : Prop :=
  ∀ key,
    (handoff collaborators input objects records).1.Orphaned
        input.lease.accessGrant.tenantId key →
      ∃ result candidateId,
        (handoff collaborators input objects records).2 = .ok result ∧
        .cleanupRequired candidateId key ∈ result.items ∧
        result.releaseSafe = false

structure HandoffLaw : Prop where
  destroyedOnce : (handoff collaborators input objects records).1.destroyCalls = 1
  persistedOnlyLawfully : PersistedOnlyLawfully collaborators input objects records
  orphansReported : OrphansReported collaborators input objects records

/--
The processing of a candidate throws a value other than `undefined`, while an
object that was put before is still stored without a record.
-/
def ThrowsOverOrphan : Prop :=
  ∃ identity approval decisions before candidate later w items cause key,
    validateInput input = .ok identity ∧
    collaborators.authorize = .returns approval ∧
    validateApprovalSet approval identity input.candidates = .ok decisions ∧
    input.candidates = before ++ candidate :: later ∧
    processCandidates collaborators input.lease identity decisions before
      (.before objects records) [] = (w, items, none) ∧
    candidateThrows collaborators input.lease identity decisions candidate =
      some (.value cause) ∧
    w.Orphaned identity.tenantId key

/-- How a hand-off ends: early, with an error over processed candidates, or with a result. -/
theorem handoff_cases :
    (∃ error,
      handoff collaborators input objects records =
        ({ HandoffWorld.before objects records with destroyCalls := 1 }, .error error)) ∨
    ∃ identity approval decisions w items cause,
      validateInput input = .ok identity ∧
      collaborators.authorize = .returns approval ∧
      validateApprovalSet approval identity input.candidates = .ok decisions ∧
      processCandidates collaborators input.lease identity decisions input.candidates
        (.before objects records) [] = (w, items, cause) ∧
      ((∃ text error, cause = some (.value text) ∧
          handoff collaborators input objects records =
            ({ w with destroyCalls := w.destroyCalls + 1 }, .error error)) ∨
        ∃ result, (∀ text, cause ≠ some (.value text)) ∧
          handoff collaborators input objects records =
            ({ w with destroyCalls := w.destroyCalls + 1 }, .ok result) ∧
          result.items = items ∧
          (result.releaseSafe = true → ∀ item ∈ items, item.needsCleanup = false)) := by
  simp only [handoff, handoffAndDestroySandboxOutputs]
  split
  · exact Or.inl ⟨_, rfl⟩
  · next identity hinput =>
      split
      · exact Or.inl ⟨_, rfl⟩
      · exact Or.inl ⟨_, rfl⟩
      · next approval hauthorize =>
          split
          · exact Or.inl ⟨_, rfl⟩
          · next decisions happroval =>
              cases hprocessed : processCandidates collaborators input.lease identity decisions
                  input.candidates (.before objects records) [] with
              | mk w rest =>
                obtain ⟨items, cause⟩ := rest
                refine Or.inr ⟨identity, approval, decisions, w, items, cause, hinput,
                  hauthorize, happroval, hprocessed, ?_⟩
                have hsafe : ∀ safe, (safe && items.all fun item => !item.needsCleanup) = true →
                    ∀ item ∈ items, item.needsCleanup = false := by
                  intro safe h item hitem
                  have hall := (Bool.and_eq_true_iff.mp h).2
                  simpa using List.all_eq_true.mp hall item hitem
                cases cause with
                | none => exact Or.inr ⟨_, by simp, rfl, rfl, hsafe _⟩
                | some thrown =>
                  cases thrown with
                  | undefined => exact Or.inr ⟨_, by simp, rfl, rfl, hsafe _⟩
                  | value text => exact Or.inl ⟨text, _, rfl, rfl⟩

theorem itemsLawful_before (identity : HandoffIdentity)
    (decisions : List DurableHandoffApprovalDecision) (candidates : List DurableHandoffCandidate) :
    ItemsLawful collaborators identity decisions candidates (.before objects records) [] := by
  refine ⟨rfl, ?_, by simp⟩
  intro key h
  cases h.wasPut

theorem orphaned_destroyed {w : HandoffWorld} {n : Nat} {tenantId key : String} :
    HandoffWorld.Orphaned { w with destroyCalls := n } tenantId key ↔ w.Orphaned tenantId key :=
  ⟨fun h => ⟨h.wasPut, h.stored, h.unrecorded⟩, fun h => ⟨h.wasPut, h.stored, h.unrecorded⟩⟩

theorem handoff_destroyed_once :
    (handoff collaborators input objects records).1.destroyCalls = 1 := by
  rcases handoff_cases collaborators input objects records with
    ⟨error, h⟩ | ⟨identity, approval, decisions, w, items, cause, hinput, _, happroval,
      hprocessed, hend⟩
  · rw [h]
  · have hlawful := itemsLawful_processed (List.Subset.refl _)
      (itemsLawful_before collaborators objects records identity decisions input.candidates)
      hprocessed
    rcases hend with ⟨text, error, _, h⟩ | ⟨result, _, h, _⟩ <;>
      simp [h, hlawful.destroyCalls]

theorem handoff_persisted_only_lawfully :
    PersistedOnlyLawfully collaborators input objects records := by
  intro result candidateId record hresult hitem
  rcases handoff_cases collaborators input objects records with
    ⟨error, h⟩ | ⟨identity, approval, decisions, w, items, cause, hinput, hauthorize, happroval,
      hprocessed, hend⟩
  · rw [h] at hresult
    cases hresult
  · rcases hend with ⟨text, error, _, h⟩ | ⟨found, _, h, hitems, _⟩
    · rw [h] at hresult
      cases hresult
    · rw [h] at hresult ⊢
      cases hresult
      rw [hitems] at hitem
      have hlawful := itemsLawful_processed (List.Subset.refl _)
        (itemsLawful_before collaborators objects records identity decisions input.candidates)
        hprocessed
      obtain ⟨candidate, hcandidate, hid, hpersisted⟩ :=
        hlawful.persisted candidateId record hitem
      obtain ⟨rfl, hnodup, _, _⟩ := validateApprovalSet_spec happroval
      refine ⟨identity, approval, candidate, hinput, hauthorize, hcandidate, hid, ?_, ?_,
        hpersisted.mono (fun _ hmem => hmem) (fun _ hmem => hmem)⟩
      · intro other hother hsame
        exact List.inj_on_of_nodup_map (validateInput_spec hinput).2 hother hcandidate
          (hsame.trans hid.symm)
      · intro decision hdecision hsame
        obtain ⟨approved, happroved, happrovedId, hstatus⟩ := hpersisted.approved
        have heq : decision = approved :=
          List.inj_on_of_nodup_map hnodup hdecision happroved
            (hsame.trans (hid.symm.trans happrovedId.symm))
        rw [heq]
        exact hstatus

theorem orphansReported_iff :
    OrphansReported collaborators input objects records ↔
      ¬ ThrowsOverOrphan collaborators input objects records := by
  constructor
  · rintro hreported ⟨identity, approval, decisions, before, candidate, later, w, items, cause,
      key, hinput, hauthorize, happroval, hsplit, hbefore, hthrows, horphan⟩
    have hprocessed := processCandidates_of_throws later hbefore hthrows
    rw [← hsplit] at hprocessed
    have hend : handoff collaborators input objects records =
        failHandoff collaborators input.lease .handoffProcessingFailed
          "durable handoff processing failed" (.value cause) w := by
      simp [handoff, handoffAndDestroySandboxOutputs, hinput, hauthorize, happroval, hprocessed]
    have hlost : (handoff collaborators input objects records).1.Orphaned
        input.lease.accessGrant.tenantId key := by
      rw [hend, ← (validateInput_spec hinput).1]
      exact orphaned_destroyed.mpr horphan
    obtain ⟨result, _, hresult, _⟩ := hreported key hlost
    rw [hend] at hresult
    cases hresult
  · intro hno key horphan
    rcases handoff_cases collaborators input objects records with
      ⟨error, h⟩ | ⟨identity, approval, decisions, w, items, cause, hinput, hauthorize,
        happroval, hprocessed, hend⟩
    · rw [h] at horphan
      cases horphan.wasPut
    · have htenant := (validateInput_spec hinput).1
      rw [← htenant] at horphan
      rcases hend with ⟨text, error, rfl, h⟩ | ⟨result, _, h, hitems, hsafe⟩
      · rw [h] at horphan
        obtain ⟨before, candidate, later, hsplit, hbefore, hthrows⟩ :=
          exists_throwing (fun _ hmem => exists_decision happroval hmem) hprocessed
        exact absurd ⟨identity, approval, decisions, before, candidate, later, w, items, text, key,
          hinput, hauthorize, happroval, hsplit, hbefore, hthrows,
          orphaned_destroyed.mp horphan⟩ hno
      · rw [h] at horphan ⊢
        have hlawful := itemsLawful_processed (List.Subset.refl _)
          (itemsLawful_before collaborators objects records identity decisions input.candidates)
          hprocessed
        obtain ⟨candidateId, hmem⟩ := hlawful.orphans key (orphaned_destroyed.mp horphan)
        refine ⟨result, candidateId, rfl, hitems ▸ hmem, ?_⟩
        cases hreleased : result.releaseSafe with
        | false => rfl
        | true =>
          have hclean := hsafe hreleased _ hmem
          cases hclean

/--
The sandbox is destroyed once and persisted items are lawful whatever the
collaborators do.  The whole law holds exactly when no candidate throws a value
other than `undefined` over an orphan of the candidates before it.
-/
theorem handoff_law_iff :
    (handoff collaborators input objects records).1.destroyCalls = 1 ∧
      PersistedOnlyLawfully collaborators input objects records ∧
      (HandoffLaw collaborators input objects records ↔
        ¬ ThrowsOverOrphan collaborators input objects records) := by
  have honce := handoff_destroyed_once collaborators input objects records
  have hpersisted := handoff_persisted_only_lawfully collaborators input objects records
  refine ⟨honce, hpersisted, ?_⟩
  rw [← orphansReported_iff]
  exact ⟨fun h => h.orphansReported, fun h => ⟨honce, hpersisted, h⟩⟩

end Law

def memoryCandidate (candidateId : String) : DurableHandoffCandidate :=
  { candidateId := candidateId
    classification := .userPrivate
    contentType := "text/plain"
    evidenceIds := ["e"]
    kind := .memory
    provenance :=
      { generatedAt := "2026-07-11T06:00:00.000Z"
        runnerId := "fastclaw.personal-v0"
        source := "sandbox"
        sourceRunId := "run"
        toolCallIds := [] }
    retentionPolicy := .userManaged
    workspacePath := "outputs/m" }

def runLease : SandboxLease :=
  { accessGrant :=
      { layer := "research"
        owner := .run "run"
        runMode := "runner_remote"
        runnerFamily := "fastclaw"
        runnerId := "fastclaw.personal-v0"
        runnerSelectionContractVersion := "v0"
        source := "agent_runner_selection"
        tenantId := "tenant"
        userId := "user" }
    backendId := "backend"
    leaseId := "lease" }

/-- An approval of some candidates of that run. -/
def approvalOf (candidateIds : List String) : DurableHandoffApprovalSet :=
  { decisions := candidateIds.map fun candidateId =>
      { approvedAt := "2026-07-11T06:00:00.000Z"
        approver := "policy"
        candidateId := candidateId
        decisionId := "decision"
        status := .approved }
    runId := "run"
    tenantId := "tenant"
    userId := "user" }

def willingBehaviour : CandidateBehaviour :=
  { readFile := .returns (.read [1])
    scan := .returns (.clean
      { classification := .userPrivate
        engine := "scanner"
        scannedAt := "2026-07-11T06:00:00.000Z"
        signatureVersion := "v1" })
    now := .ok (some 1783749600000)
    put := .settles
    insert := .settles
    findActiveById := .returns fun _ => false
    delete := .settles }

/-- The insert of the first candidate and its compensation fail; the scanner throws at the second.
-/
def losingCollaborators : Collaborators :=
  { digest := fun _ => .ok [0]
    authorize := .returns (approvalOf ["c1", "c2"])
    candidate := fun candidateId =>
      if candidateId = "c1" then
        { willingBehaviour with
          insert := .rejects false
          delete := .rejects false }
      else
        { willingBehaviour with scan := .throws (.value "TypeError") }
    destroy := .returns .destroyed }

def twoCandidates : HandoffInput :=
  { candidates := [memoryCandidate "c1", memoryCandidate "c2"]
    lease := runLease }

/-- The object of the first candidate is orphaned, and the error names no item. -/
theorem orphan_lost_by_throw :
    ¬ HandoffLaw losingCollaborators twoCandidates (fun _ => none) [] := by
  intro hlaw
  have hkeys : (handoff losingCollaborators twoCandidates (fun _ => none) []).1.putKeys =
      ["agent-handoff/v0/tenant/user/run/memory/handoff_00-00"] := by
    decide
  have hstored : ((handoff losingCollaborators twoCandidates (fun _ => none) []).1.objects
      "agent-handoff/v0/tenant/user/run/memory/handoff_00-00").isSome = true := by
    decide
  have hrecords :
      (handoff losingCollaborators twoCandidates (fun _ => none) []).1.records = [] := by
    decide
  have hthrown : (handoff losingCollaborators twoCandidates (fun _ => none) []).2.isOk = false := by
    decide
  have horphan : (handoff losingCollaborators twoCandidates (fun _ => none) []).1.Orphaned
      "tenant" "agent-handoff/v0/tenant/user/run/memory/handoff_00-00" := by
    refine ⟨by simp [hkeys], hstored, ?_⟩
    rintro ⟨record, hrecord, _⟩
    rw [hrecords] at hrecord
    cases hrecord
  obtain ⟨result, _, hresult, _⟩ := hlaw.orphansReported _ horphan
  rw [hresult] at hthrown
  cases hthrown

end Aiphabee.DurableHandoff
