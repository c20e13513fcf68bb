import Aiphabee.Sandbox.BackendDestroy
import Aiphabee.Text.JsDate
import Aiphabee.Text.JsString

/-!
# The durable hand-off of sandbox outputs

A run hands candidates of its sandbox over to durable storage and then has the
sandbox destroyed.  An approved candidate is read, bounded, hashed and scanned;
its object is put into the object store and its record is inserted into the
record store.  When the insert is reported as failed the object is deleted
again, unless the record is found.

Every call of a collaborator may return, be rejected or throw at once, and a
write that is reported as failed may have been applied all the same.  The
stores are honest: what is looked up was inserted.
-/

namespace Aiphabee.DurableHandoff

open BackendDestroy (SandboxDestroyResult)
open LeaseRegistry (SandboxLease)

/-- What a candidate is; `other` is a text the validation refuses. -/
inductive DurableHandoffKind
  | artifact
  | memory
  | other (text : String)
deriving DecidableEq

/-- How a candidate is classified; `other` is a text the validation refuses. -/
inductive DurableHandoffClassification
  | publicDerived
  | tenantConfidential
  | userPrivate
  | other (text : String)
deriving DecidableEq

/-- How long a candidate is kept; `other` is a text the validation refuses. -/
inductive DurableHandoffRetentionPolicy
  | temporary30d
  | userManaged
  | other (text : String)
deriving DecidableEq

def DurableHandoffKind.text : DurableHandoffKind → String
  | .artifact => "artifact"
  | .memory => "memory"
  | .other text => text

def DurableHandoffClassification.text : DurableHandoffClassification → String
  | .publicDerived => "public_derived"
  | .tenantConfidential => "tenant_confidential"
  | .userPrivate => "user_private"
  | .other text => text

def DurableHandoffRetentionPolicy.text : DurableHandoffRetentionPolicy → String
  | .temporary30d => "temporary_30d"
  | .userManaged => "user_managed"
  | .other text => text

/-- Where a candidate comes from. -/
structure DurableHandoffProvenance where
  generatedAt : String
  runnerId : String
  source : String
  sourceRunId : String
  toolCallIds : List String
deriving DecidableEq

/-- An output of the sandbox that may be kept. -/
structure DurableHandoffCandidate where
  candidateId : String
  classification : DurableHandoffClassification
  contentType : String
  evidenceIds : List String
  kind : DurableHandoffKind
  provenance : DurableHandoffProvenance
  retentionPolicy : DurableHandoffRetentionPolicy
  workspacePath : String

/-- Whether a candidate may be kept. -/
inductive ApprovalStatus
  | approved
  | rejected (reasonCode : String)

structure DurableHandoffApprovalDecision where
  approvedAt : String
  approver : String
  candidateId : String
  decisionId : String
  status : ApprovalStatus

structure DurableHandoffApprovalSet where
  decisions : List DurableHandoffApprovalDecision
  runId : String
  tenantId : String
  userId : String

/-- Whose hand-off it is. -/
structure HandoffIdentity where
  runId : String
  tenantId : String
  userId : String

structure CleanScan where
  classification : DurableHandoffClassification
  engine : String
  scannedAt : String
  signatureVersion : String
deriving DecidableEq

inductive DurableHandoffScanResult
  | clean (scan : CleanScan)
  | error
  | unsafePayload

inductive SandboxReadFileResult
  | read (bytes : List UInt8)
  | failed

structure RecordApproval where
  approvedAt : String
  approver : String
  decisionId : String
deriving DecidableEq

/-- The metadata of a stored object. -/
structure DurableHandoffRecord where
  approval : RecordApproval
  byteSize : Nat
  classification : DurableHandoffClassification
  contentHashSha256 : String
  contentType : String
  contractVersion : String
  createdAt : String
  deletedAt : Option String
  evidenceIds : List String
  expiresAt : Option String
  id : String
  kind : DurableHandoffKind
  leaseId : String
  ownerUserId : String
  provenance : DurableHandoffProvenance
  workspacePath : String
  retentionPolicy : DurableHandoffRetentionPolicy
  runId : String
  scan : CleanScan
  storageKey : String
  tenantId : String
deriving DecidableEq

/-- Why a candidate was not kept. -/
inductive RejectionReason
  | approvalRejected
  | artifactTooLarge
  | emptyPayload
  | fileReadFailed
  | memoryTooLarge
  | objectWriteFailed
  | recordWriteFailed
  | scanClassificationMismatch
  | scanFailed
  | unsafePayload
deriving DecidableEq

inductive DurableHandoffItemResult
  | persisted (candidateId : String) (record : DurableHandoffRecord)
  | rejected (candidateId : String) (reasonCode : RejectionReason)
  | cleanupRequired (candidateId : String) (storageKey : String)
deriving DecidableEq

def DurableHandoffItemResult.needsCleanup : DurableHandoffItemResult → Bool
  | .cleanupRequired _ _ => true
  | _ => false

/-- How the destroy of the sandbox ended. -/
inductive CleanupStatus
  | alreadyDestroyed
  | destroyFailed
  | destroyed

/-- What is reported of the destroy of the sandbox. -/
structure DurableHandoffCleanupResult where
  leaseId : String
  releaseSafe : Bool
  status : CleanupStatus

/-- What a hand-off returns. -/
structure DurableHandoffResult where
  cleanup : DurableHandoffCleanupResult
  contractVersion : String
  items : List DurableHandoffItemResult
  releaseSafe : Bool
  runId : String
  tenantId : String
  userId : String

inductive DurableHandoffErrorCode
  | approvalAuthorityFailed
  | approvalContractInvalid
  | handoffProcessingFailed
  | invalidInput

/-- A value that is thrown: `undefined`, or another one that is told by a text. -/
inductive Thrown
  | undefined
  | value (text : String)
deriving DecidableEq

structure DurableHandoffError where
  code : DurableHandoffErrorCode
  message : String
  cleanup : DurableHandoffCleanupResult
  cause : Thrown

inductive CallOutcome (α : Type)
  | returns (value : α)
  | rejects (reason : Thrown)
  | throws (thrown : Thrown)

/-- What a write does; one that is reported as failed may have been applied. -/
inductive WriteOutcome
  | settles
  | rejects (applied : Bool)
  | throws (applied : Bool)

def WriteOutcome.succeeds : WriteOutcome → Bool
  | .settles => true
  | .rejects _ => false
  | .throws _ => false

def WriteOutcome.applies : WriteOutcome → Bool
  | .settles => true
  | .rejects applied => applied
  | .throws applied => applied

/-- What the collaborators do for one candidate; a lookup is told which records have expired. -/
structure CandidateBehaviour where
  readFile : CallOutcome SandboxReadFileResult
  scan : CallOutcome DurableHandoffScanResult
  now : Except Thrown JsDate.Date
  put : WriteOutcome
  insert : WriteOutcome
  findActiveById : CallOutcome (DurableHandoffRecord → Bool)
  delete : WriteOutcome

structure Collaborators where
  digest : List UInt8 → Except Thrown (List UInt8)
  authorize : CallOutcome DurableHandoffApprovalSet
  candidate : String → CandidateBehaviour
  destroy : CallOutcome SandboxDestroyResult

structure HandoffInput where
  candidates : List DurableHandoffCandidate
  lease : SandboxLease

structure StoredObject where
  bytes : List UInt8
  contentType : String
deriving DecidableEq

structure HandoffWorld where
  objects : String → Option StoredObject
  records : List DurableHandoffRecord
  putKeys : List String
  destroyCalls : Nat

def HandoffWorld.before (objects : String → Option StoredObject)
    (records : List DurableHandoffRecord) : HandoffWorld :=
  { objects := objects
    records := records
    putKeys := []
    destroyCalls := 0 }

variable (w : HandoffWorld)

def HandoffWorld.put (write : WriteOutcome) (key : String) (object : StoredObject) : HandoffWorld :=
  if write.applies then
    { w with
      objects := Function.update w.objects key (some object)
      putKeys := w.putKeys ++ [key] }
  else
    w

def HandoffWorld.delete (write : WriteOutcome) (key : String) : HandoffWorld :=
  if write.applies then
    { w with objects := Function.update w.objects key none }
  else
    w

def HandoffWorld.insert (write : WriteOutcome) (record : DurableHandoffRecord) : HandoffWorld :=
  if write.applies then
    { w with records := w.records ++ [record] }
  else
    w

def HandoffWorld.findActiveById (expired : DurableHandoffRecord → Bool) (id tenantId : String) :
    Option DurableHandoffRecord :=
  w.records.find? fun record =>
    record.id = id && record.tenantId = tenantId && record.deletedAt.isNone && !expired record

def durableHandoffContractVersion : String :=
  "2026-07-11.durable-memory-artifact-handoff.v0"

/-- The most candidates of a hand-off. -/
def durableHandoffMaxCandidates : Nat := 16

def durableHandoffMemoryMaxBytes : Nat := 64 * 1024

def durableHandoffArtifactMaxBytes : Nat := 10 * 1024 * 1024

variable (value : String)

/-- `SAFE_SEGMENT`, and not a dot segment. -/
def isSafeSegment : Bool :=
  let allowed (c : Char) : Bool := c.isAlphanum || c == '.' || c == '_' || c == '-'
  1 ≤ value.length && value.length ≤ 128 && value.toList.all allowed &&
    value != "." && value != ".."

/-- A text of at most `maxLength` units, trimmed and without control characters. -/
def isOpaqueText (maxLength : Nat := 256) : Bool :=
  0 < JsString.utf16Length value && JsString.utf16Length value ≤ maxLength &&
    JsString.trim value == value && !JsString.hasControlCharacter value

/-- One half of `CONTENT_TYPE`. -/
def isMediaName (name : List Char) : Bool :=
  let first (c : Char) : Bool := c.isLower || c.isDigit
  let later (c : Char) : Bool := first c || "!#$&^_.+-".toList.contains c
  match name with
  | [] => false
  | c :: rest => first c && rest.length ≤ 126 && rest.all later

/-- `CONTENT_TYPE`: two names with a slash between them. -/
def isMediaType : Bool :=
  match value.toList.span fun c => c != '/' with
  | (name, _ :: subtype) => isMediaName name && isMediaName subtype
  | (_, []) => false

def validateCandidate (candidate : DurableHandoffCandidate) (runId : String) : Except String Unit :=
  if ¬ isSafeSegment candidate.candidateId then
    .error "candidate_id must be a safe opaque segment"
  else if ¬ isMediaType candidate.contentType ∨
      255 < JsString.utf16Length candidate.contentType then
    .error "content_type must be an explicit normalized media type"
  else if candidate.kind ≠ .artifact ∧ candidate.kind ≠ .memory then
    .error "kind is not allowed"
  else if candidate.classification ≠ .publicDerived ∧
      candidate.classification ≠ .tenantConfidential ∧
      candidate.classification ≠ .userPrivate then
    .error "classification is not allowed"
  else if candidate.retentionPolicy ≠ .temporary30d ∧
      candidate.retentionPolicy ≠ .userManaged then
    .error "retention policy is not allowed"
  else if candidate.provenance.source ≠ "sandbox" ∨
      candidate.provenance.runnerId ≠ "fastclaw.personal-v0" ∨
      candidate.provenance.sourceRunId ≠ runId ∨
      ¬ JsDate.isIsoDate candidate.provenance.generatedAt then
    .error "provenance must match the run-owned FastClaw sandbox"
  else if candidate.provenance.toolCallIds.any (fun value => !isOpaqueText value) ∨
      candidate.evidenceIds.length = 0 ∨
      candidate.evidenceIds.any (fun value => !isOpaqueText value) then
    .error "evidence and tool references must be explicit opaque identifiers"
  else
    .ok ()

def validateCandidates (runId : String) :
    List String → List DurableHandoffCandidate → Except String Unit
  | _, [] => .ok ()
  | seen, candidate :: rest =>
    match validateCandidate candidate runId with
    | .error message => .error message
    | .ok () =>
      if candidate.candidateId ∈ seen then
        .error "handoff candidate IDs must be unique"
      else
        validateCandidates runId (candidate.candidateId :: seen) rest

/-- Whose hand-off it is, when the input is valid. -/
def validateInput (input : HandoffInput) : Except String HandoffIdentity :=
  let grant := input.lease.accessGrant
  match grant.owner with
  | .session _ => .error "durable handoff requires a run-owned sandbox lease"
  | .run runId =>
    if ¬ isSafeSegment runId ∨ ¬ isSafeSegment grant.tenantId ∨
        ¬ isSafeSegment grant.userId ∨ ¬ isSafeSegment input.lease.leaseId then
      .error "handoff ownership identifiers must be safe opaque segments"
    else if input.candidates.length = 0 ∨
        durableHandoffMaxCandidates < input.candidates.length then
      .error "handoff candidate count is outside the accepted bounds"
    else
      (validateCandidates runId [] input.candidates).map fun _ =>
        { runId := runId
          tenantId := grant.tenantId
          userId := grant.userId }

def decisionMalformed (expected : List String) (decisions : List DurableHandoffApprovalDecision)
    (decision : DurableHandoffApprovalDecision) : Bool :=
  !expected.contains decision.candidateId ||
    (decisions.map (·.candidateId)).contains decision.candidateId ||
    !isOpaqueText decision.approver ||
    !isOpaqueText decision.decisionId ||
    !JsDate.isIsoDate decision.approvedAt ||
    match decision.status with
    | .rejected reasonCode => !isOpaqueText reasonCode
    | .approved => false

def collectDecisions (expected : List String) :
    List DurableHandoffApprovalDecision → List DurableHandoffApprovalDecision →
      Except String (List DurableHandoffApprovalDecision)
  | decisions, [] => .ok decisions
  | decisions, decision :: rest =>
    if decisionMalformed expected decisions decision then
      .error "approval decision set is incomplete, duplicated or malformed"
    else
      collectDecisions expected (decisions ++ [decision]) rest

def validateApprovalSet (approval : DurableHandoffApprovalSet) (identity : HandoffIdentity)
    (candidates : List DurableHandoffCandidate) :
    Except String (List DurableHandoffApprovalDecision) :=
  if approval.runId ≠ identity.runId ∨ approval.tenantId ≠ identity.tenantId ∨
      approval.userId ≠ identity.userId ∨
      approval.decisions.length ≠ candidates.length then
    .error "approval identity or decision count does not match the handoff"
  else
    collectDecisions (candidates.map (·.candidateId)) [] approval.decisions

variable (digest : List UInt8 → Except Thrown (List UInt8))

def sha256 (bytes : List UInt8) : Except Thrown String :=
  (digest bytes).map fun hash => "sha256:" ++ JsString.hex hash

def hashDigits (hash : String) : String :=
  String.ofList (hash.toList.drop "sha256:".length)

def storageKey (identity : HandoffIdentity) (hash id : String) (kind : DurableHandoffKind) :
    String :=
  "agent-handoff/v0/" ++ identity.tenantId ++ "/" ++ identity.userId ++ "/" ++
    identity.runId ++ "/" ++ kind.text ++ "/" ++ id ++ "-" ++ hashDigits hash

/-- The bytes of a text. -/
def encodeUtf8 : List UInt8 :=
  value.toList.flatMap String.utf8EncodeChar

def toISOString (date : JsDate.Date) : Except Thrown String :=
  match JsDate.toISOString date with
  | some text => .ok text
  | none => .error (.value "RangeError: Invalid time value")

def expiresAt (policy : DurableHandoffRetentionPolicy) (createdAt : JsDate.Date) :
    Except Thrown (Option String) :=
  if policy = .temporary30d then
    (toISOString (createdAt.bind fun time =>
      JsDate.ofMilliseconds (time + 30 * 24 * 60 * 60 * 1000))).map some
  else
    .ok none

def maxBytes (kind : DurableHandoffKind) : Nat :=
  if kind = .memory then
    durableHandoffMemoryMaxBytes
  else
    durableHandoffArtifactMaxBytes

/-- What the reading and the scan of a candidate come to. -/
inductive Inspection
  | refused (reasonCode : RejectionReason)
  | clean (bytes : List UInt8) (contentHash : String) (scan : CleanScan)

def inspectScan (candidate : DurableHandoffCandidate) (bytes : List UInt8) (contentHash : String) :
    CallOutcome DurableHandoffScanResult → Except Thrown Inspection
  | .throws thrown => .error thrown
  | .rejects _ => .ok (.refused .scanFailed)
  | .returns .error => .ok (.refused .scanFailed)
  | .returns .unsafePayload => .ok (.refused .unsafePayload)
  | .returns (.clean scan) =>
    if scan.classification ≠ candidate.classification ∨ ¬ isOpaqueText scan.engine ∨
        ¬ isOpaqueText scan.signatureVersion ∨ ¬ JsDate.isIsoDate scan.scannedAt then
      .ok (.refused .scanClassificationMismatch)
    else
      .ok (.clean bytes contentHash scan)

variable (behaviour : CandidateBehaviour)

def inspectCandidate (candidate : DurableHandoffCandidate) : Except Thrown Inspection :=
  match behaviour.readFile with
  | .throws thrown => .error thrown
  | .rejects _ => .ok (.refused .fileReadFailed)
  | .returns .failed => .ok (.refused .fileReadFailed)
  | .returns (.read bytes) =>
    if bytes.length = 0 then
      .ok (.refused .emptyPayload)
    else if maxBytes candidate.kind < bytes.length then
      .ok (.refused (if candidate.kind = .memory then .memoryTooLarge else .artifactTooLarge))
    else
      match sha256 digest bytes with
      | .error thrown => .error thrown
      | .ok contentHash => inspectScan candidate bytes contentHash behaviour.scan

def handoffRecord (lease : SandboxLease) (identity : HandoffIdentity)
    (approval : DurableHandoffApprovalDecision) (candidate : DurableHandoffCandidate)
    (bytes : List UInt8) (contentHash : String) (scan : CleanScan) :
    Except Thrown DurableHandoffRecord := do
  let createdAt ← behaviour.now
  let createdAtText ← toISOString createdAt
  let recordIdentityHash ← sha256 digest (encodeUtf8 (String.intercalate
    (String.singleton (Char.ofNat 0))
    [identity.tenantId, identity.userId, identity.runId, candidate.candidateId,
      candidate.kind.text, candidate.classification.text, candidate.contentType,
      candidate.retentionPolicy.text, approval.decisionId, createdAtText, contentHash]))
  let recordId := "handoff_" ++ hashDigits recordIdentityHash
  let expires ← expiresAt candidate.retentionPolicy createdAt
  .ok
    { approval :=
        { approvedAt := approval.approvedAt
          approver := approval.approver
          decisionId := approval.decisionId }
      byteSize := bytes.length
      classification := candidate.classification
      contentHashSha256 := contentHash
      contentType := candidate.contentType
      contractVersion := durableHandoffContractVersion
      createdAt := createdAtText
      deletedAt := none
      evidenceIds := candidate.evidenceIds
      expiresAt := expires
      id := recordId
      kind := candidate.kind
      leaseId := lease.leaseId
      ownerUserId := identity.userId
      provenance := candidate.provenance
      workspacePath := candidate.workspacePath
      retentionPolicy := candidate.retentionPolicy
      runId := identity.runId
      scan := scan
      storageKey := storageKey identity contentHash recordId candidate.kind
      tenantId := identity.tenantId }

def sameHandoff (existing record : DurableHandoffRecord) : Bool :=
  existing.storageKey = record.storageKey &&
    existing.contentHashSha256 = record.contentHashSha256 &&
    existing.ownerUserId = record.ownerUserId &&
    existing.runId = record.runId

/-- Delete an object again; if that fails, it needs cleanup. -/
def compensate (candidateId : String) (reasonCode : RejectionReason) (key : String)
    (w : HandoffWorld) : HandoffWorld × DurableHandoffItemResult :=
  (w.delete behaviour.delete key,
    if behaviour.delete.succeeds then
      .rejected candidateId reasonCode
    else
      .cleanupRequired candidateId key)

def storeCandidate (candidateId : String) (bytes : List UInt8) (record : DurableHandoffRecord)
    (w : HandoffWorld) : HandoffWorld × DurableHandoffItemResult :=
  let stored := w.put behaviour.put record.storageKey
    { bytes := bytes, contentType := record.contentType }
  if behaviour.put.succeeds then
    let inserted := stored.insert behaviour.insert record
    if behaviour.insert.succeeds then
      (inserted, .persisted candidateId record)
    else
      match behaviour.findActiveById with
      | .rejects _ => (inserted, .cleanupRequired candidateId record.storageKey)
      | .throws _ => (inserted, .cleanupRequired candidateId record.storageKey)
      | .returns expired =>
        match inserted.findActiveById expired record.id record.tenantId with
        | some existing =>
          if sameHandoff existing record then
            (inserted, .persisted candidateId existing)
          else
            (inserted, .cleanupRequired candidateId record.storageKey)
        | none =>
          compensate behaviour candidateId .recordWriteFailed record.storageKey inserted
  else
    compensate behaviour candidateId .objectWriteFailed record.storageKey stored

/-- What is to be stored of an approved candidate: nothing, for a reason, or some bytes and a
record. -/
def prepareCandidate (lease : SandboxLease) (identity : HandoffIdentity)
    (approval : DurableHandoffApprovalDecision) (candidate : DurableHandoffCandidate) :
    Except Thrown (RejectionReason ⊕ List UInt8 × DurableHandoffRecord) :=
  match inspectCandidate digest behaviour candidate with
  | .error thrown => .error thrown
  | .ok (.refused reasonCode) => .ok (.inl reasonCode)
  | .ok (.clean bytes contentHash scan) =>
    (handoffRecord digest behaviour lease identity approval candidate bytes contentHash
      scan).map fun record => .inr (bytes, record)

def processApprovedCandidate (lease : SandboxLease) (identity : HandoffIdentity)
    (approval : DurableHandoffApprovalDecision) (candidate : DurableHandoffCandidate)
    (w : HandoffWorld) : HandoffWorld × Except Thrown DurableHandoffItemResult :=
  match prepareCandidate digest behaviour lease identity approval candidate with
  | .error thrown => (w, .error thrown)
  | .ok (.inl reasonCode) => (w, .ok (.rejected candidate.candidateId reasonCode))
  | .ok (.inr (bytes, record)) =>
    let (w', item) := storeCandidate behaviour candidate.candidateId bytes record w
    (w', .ok item)

def processCandidate (collaborators : Collaborators) (lease : SandboxLease)
    (identity : HandoffIdentity) (decisions : List DurableHandoffApprovalDecision)
    (candidate : DurableHandoffCandidate) (w : HandoffWorld) :
    HandoffWorld × Except Thrown DurableHandoffItemResult :=
  match decisions.find? fun decision => decision.candidateId = candidate.candidateId with
  | none => (w, .error (.value "TypeError: Cannot read properties of undefined"))
  | some decision =>
    match decision.status with
    | .rejected _ => (w, .ok (.rejected candidate.candidateId .approvalRejected))
    | .approved =>
      processApprovedCandidate collaborators.digest
        (collaborators.candidate candidate.candidateId) lease identity decision candidate w

/-- Process the candidates in order, up to the first that throws. -/
def processCandidates (collaborators : Collaborators) (lease : SandboxLease)
    (identity : HandoffIdentity) (decisions : List DurableHandoffApprovalDecision) :
    List DurableHandoffCandidate → HandoffWorld → List DurableHandoffItemResult →
      HandoffWorld × List DurableHandoffItemResult × Option Thrown
  | [], w, items => (w, items, none)
  | candidate :: rest, w, items =>
    match processCandidate collaborators lease identity decisions candidate w with
    | (w', .ok item) =>
      processCandidates collaborators lease identity decisions rest w' (items ++ [item])
    | (w', .error thrown) => (w', items, some thrown)

def cleanupSandbox (collaborators : Collaborators) (lease : SandboxLease) (w : HandoffWorld) :
    HandoffWorld × DurableHandoffCleanupResult :=
  ({ w with destroyCalls := w.destroyCalls + 1 },
    match collaborators.destroy with
    | .returns .destroyed =>
      { leaseId := lease.leaseId, releaseSafe := true, status := .destroyed }
    | .returns .alreadyDestroyed =>
      { leaseId := lease.leaseId, releaseSafe := true, status := .alreadyDestroyed }
    | _ => { leaseId := lease.leaseId, releaseSafe := false, status := .destroyFailed })

def failHandoff (collaborators : Collaborators) (lease : SandboxLease)
    (code : DurableHandoffErrorCode) (message : String) (cause : Thrown) (w : HandoffWorld) :
    HandoffWorld × Except DurableHandoffError DurableHandoffResult :=
  let (w', cleanup) := cleanupSandbox collaborators lease w
  (w', .error { code := code, message := message, cleanup := cleanup, cause := cause })

def handoffAndDestroySandboxOutputs (collaborators : Collaborators) (input : HandoffInput)
    (w : HandoffWorld) : HandoffWorld × Except DurableHandoffError DurableHandoffResult :=
  match validateInput input with
  | .error message =>
    failHandoff collaborators input.lease .invalidInput "durable handoff input is invalid"
      (.value message) w
  | .ok identity =>
    match collaborators.authorize with
    | .rejects cause | .throws cause =>
      failHandoff collaborators input.lease .approvalAuthorityFailed
        "durable handoff approval authority failed" cause w
    | .returns approval =>
      match validateApprovalSet approval identity input.candidates with
      | .error message =>
        failHandoff collaborators input.lease .approvalContractInvalid
          "durable handoff approval contract is invalid" (.value message) w
      | .ok decisions =>
        let (processed, items, processingCause) :=
          processCandidates collaborators input.lease identity decisions
            input.candidates w []
        match processingCause with
        | some (.value cause) =>
          failHandoff collaborators input.lease .handoffProcessingFailed
            "durable handoff processing failed" (.value cause) processed
        -- A thrown `undefined` looks like no cause at all.
        | some .undefined | none =>
          let (w', cleanup) := cleanupSandbox collaborators input.lease processed
          (w', .ok
            { cleanup := cleanup
              contractVersion := durableHandoffContractVersion
              items := items
              releaseSafe := cleanup.releaseSafe &&
                items.all fun item => !item.needsCleanup
              runId := identity.runId
              tenantId := identity.tenantId
              userId := identity.userId })

end Aiphabee.DurableHandoff
