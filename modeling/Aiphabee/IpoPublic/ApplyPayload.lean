import Aiphabee.IpoPublic.SnapshotPlans

/-!
# The payload that applies held IPO observations

The script runs the adapter, the packet, the capture and the storage script one
after the other.  Each of them reads the pages anew.  It joins what they gave
through identifiers to the rows of one payload, checks the payload, fetches every
page of the storage plan once more, puts its text into the object store and
rewrites the envelopes of the rows of that page.
-/

namespace Aiphabee.IpoPublic

open JsText (ofString)
open StableJson

variable (platform : ApplyPlatform)

/-- What a script that ran says about itself. -/
inductive RunStatus
  | ok
  | failed
deriving DecidableEq

/-- What the four scripts saw.  A script that fails gives no rows. -/
structure ApplyInputs where
  adapterStatus : RunStatus
  adapter : LiveRun
  packetStatus : RunStatus
  packet : LiveRun
  packetGeneratedAt : JsText
  captureStatus : RunStatus
  capture : CaptureRun
  storageStatus : RunStatus
  storage : CaptureRun

structure PlanSeed where
  observations : List Observation
  packet : ReconciliationPacket
  rawSnapshotCaptures : List RawSnapshotCapture
  rawSnapshotStorageRefs : List StorageRef
  sourceIds : List JsText
  sourceRecordIds : List JsText

structure RawSnapshotRow where
  dataVersion : JsText
  /-- Nothing stands for the empty envelope of a request that the storage plan lacks. -/
  payload : Option PayloadEnvelope
  payloadHash : Option JsText
  rawSnapshotId : Option JsText
  receivedAt : JsText
  sourceBatchId : JsText
  sourceRecordId : JsText

structure ObservationRow where
  dataVersion : JsText
  fieldName : FieldName
  fieldValue : FieldValue
  fieldValueType : FieldValueType
  locator : JsText
  locatorHash : JsText
  observationId : JsText
  observedAt : JsText
  provider : JsText
  rawSnapshotId : Option JsText
  securityCode : JsText
  sourceId : SourceId
  sourceRecordId : JsText
  sourceRunId : JsText
  sourceUrl : JsText

/-- A row of the packet in the version and the run of the payload. -/
structure HeldReconciliationRow extends ReconciliationRow where
  dataVersion : JsText
  sourceRunId : JsText

structure HeldSupplementRow where
  dataVersion : JsText
  fieldName : FieldName
  fieldValueType : FieldValueType
  reason : String
  securityCode : JsText
  sourceId : SourceId
  sourceObservationId : JsText
  sourceRecordId : JsText
  sourceRunId : JsText
  supplementCandidateId : JsText

structure SourceRunRow where
  observationCount : Nat
  reconciliationRowCount : Nat
  securityCount : Nat
  sourceIds : List JsText
  supplementCandidateCount : Nat

structure ApplyPayload where
  dataVersion : JsText
  sourceBatchId : JsText
  sourceRunId : JsText
  observationRows : List ObservationRow
  reconciliationRows : List HeldReconciliationRow
  sourceRun : SourceRunRow
  supplementRows : List HeldSupplementRow
  rawSnapshotRows : List RawSnapshotRow

/-- The platform: the newest of some times, the hashes of a plan and of an envelope, and the
two patterns that the JSON text of a payload is searched for. -/
structure ApplyPlatform extends SnapshotPlatform where
  latestIso : List JsText → Option JsText
  planHash : PlanSeed → JsText
  envelopeHash : PayloadEnvelope → JsText
  includesRawHtml : ApplyPayload → Bool
  includesSecrets : ApplyPayload → Bool

section Build

variable (inputs : ApplyInputs)

def ApplyInputs.observations : List Observation :=
  inputs.adapter.payload.observations

def packetFrom : ReconciliationPacket :=
  packetOf platform.toPlatform inputs.packet.payload

def captureFrom : List RawSnapshotCapture :=
  buildCapturePlan platform.toPlatform inputs.capture

def storageFrom : StoragePlan :=
  storagePlanOf platform.toSnapshotPlatform inputs.storage

/-- `storageByRequestId.get(requestId)`. -/
def storageRefOf (requestId : JsText) : Option StorageRef :=
  InsertionMap.get
    (InsertionMap.ofEntries ((storageFrom platform inputs).rawSnapshotStorageRefs.map fun row =>
      (row.rawSnapshotRequestId, row)))
    requestId

/-- `captureByRequestId.get(requestId)`. -/
def captureOf (requestId : JsText) : Option RawSnapshotCapture :=
  InsertionMap.get
    (InsertionMap.ofEntries ((captureFrom platform inputs).map fun row =>
      (row.rawSnapshotRequestId, row)))
    requestId

/-- `rawSnapshotIdByObservationId`: one entry for every observation of every request. -/
def rawSnapshotIdByObservationId : List (JsText × Option JsText) :=
  InsertionMap.ofEntries ((packetFrom platform inputs).rawSnapshotRequests.flatMap fun request =>
    request.observationIds.map fun observationId =>
      (observationId, (storageRefOf platform inputs request.requestId).map
        StorageRef.rawSnapshotId))

def planHashOf : JsText :=
  platform.planHash
    { observations := inputs.observations
      packet := packetFrom platform inputs
      rawSnapshotCaptures := captureFrom platform inputs
      rawSnapshotStorageRefs := (storageFrom platform inputs).rawSnapshotStorageRefs
      sourceIds := sorted (unique (inputs.observations.map fun observation =>
        observation.sourceId.text))
      sourceRecordIds := sorted (unique (inputs.observations.map Observation.sourceRecordId)) }

def dataVersionOf : JsText :=
  ofString "dv_hk_ipo_public_" ++ planHashOf platform inputs

def sourceBatchIdOf : JsText :=
  ofString "rsb_hk_ipo_public_" ++ planHashOf platform inputs

def sourceRunIdOf : JsText :=
  ofString "sr_hk_ipo_public_" ++ planHashOf platform inputs

def rawSnapshotRow (request : RawSnapshotRequest) : RawSnapshotRow :=
  let capture := captureOf platform inputs request.requestId
  let ref := storageRefOf platform inputs request.requestId
  { dataVersion := dataVersionOf platform inputs
    payload := ref.map StorageRef.payloadEnvelope
    payloadHash := ref.map fun ref => platform.envelopeHash ref.payloadEnvelope
    rawSnapshotId :=
      (ref.map StorageRef.rawSnapshotId).or (capture.map RawSnapshotCapture.rawSnapshotId)
    receivedAt := (capture.map RawSnapshotCapture.capturedAt).getD
      ((platform.latestIso (inputs.observations.map Observation.observedAt)).getD
        inputs.packetGeneratedAt)
    sourceBatchId := sourceBatchIdOf platform inputs
    sourceRecordId := request.sourceRecordId }

def observationRow (observation : Observation) : ObservationRow where
  dataVersion := dataVersionOf platform inputs
  fieldName := observation.fieldName
  fieldValue := observation.fieldValue
  fieldValueType := observation.fieldValueType
  locator := observation.locator
  locatorHash := platform.stableHash (.string observation.locator)
  observationId := observation.observationId
  observedAt := observation.observedAt
  provider := observation.provider
  rawSnapshotId :=
    (InsertionMap.get (rawSnapshotIdByObservationId platform inputs)
      observation.observationId).join
  securityCode := observation.securityCode
  sourceId := observation.sourceId
  sourceRecordId := observation.sourceRecordId
  sourceRunId := sourceRunIdOf platform inputs
  sourceUrl := observation.sourceUrl

def heldSupplementRow (row : SupplementCandidateRow) : HeldSupplementRow where
  dataVersion := dataVersionOf platform inputs
  fieldName := row.fieldName
  fieldValueType := row.fieldValueType
  reason := row.reason
  securityCode := row.securityCode
  sourceId := row.sourceId
  sourceObservationId := row.sourceObservationId
  sourceRecordId := row.sourceRecordId
  sourceRunId := sourceRunIdOf platform inputs
  supplementCandidateId := row.rowId

def buildApplyPayload : ApplyPayload :=
  let packet := packetFrom platform inputs
  { dataVersion := dataVersionOf platform inputs
    sourceBatchId := sourceBatchIdOf platform inputs
    sourceRunId := sourceRunIdOf platform inputs
    observationRows := inputs.observations.map (observationRow platform inputs)
    reconciliationRows := packet.reconciliationRows.map fun row =>
      { toReconciliationRow := row
        dataVersion := dataVersionOf platform inputs
        sourceRunId := sourceRunIdOf platform inputs }
    sourceRun :=
      { observationCount := inputs.observations.length
        reconciliationRowCount := packet.reconciliationRows.length
        securityCount := (unique (inputs.observations.map Observation.securityCode)).length
        sourceIds := sorted (unique (inputs.observations.map fun observation =>
          observation.sourceId.text))
        supplementCandidateCount := packet.supplementCandidateRows.length }
    supplementRows := packet.supplementCandidateRows.map (heldSupplementRow platform inputs)
    rawSnapshotRows := packet.rawSnapshotRequests.map (rawSnapshotRow platform inputs) }

end Build

/-- `summary.total_row_count`. -/
def ApplyPayload.totalRowCount (payload : ApplyPayload) : Nat :=
  payload.observationRows.length + payload.reconciliationRows.length +
    payload.supplementRows.length + payload.rawSnapshotRows.length + 3

def errorIf (condition : Bool) (message : String) : List String :=
  if condition then [message] else []

def isBlankText (value : JsText) : Bool :=
  JsText.trim value = []

def Confidence.text : Confidence → String
  | .medium => "medium"
  | .low => "low"

def reconciliationRowErrors (row : HeldReconciliationRow) : List String :=
  errorIf (row.confidence.text ∉ ["low", "medium", "high"])
      "reconciliation row confidence must be low, medium, or high" ++
    errorIf (isBlankText (ofString row.reason))
      "reconciliation row reason must be present" ++
    errorIf row.sourceIds.isEmpty "reconciliation row source_ids must be present" ++
    errorIf row.sourceObservationIds.isEmpty
      "reconciliation row source_observation_ids must be present"

def supplementRowErrors (row : HeldSupplementRow) : List String :=
  errorIf (isBlankText (ofString row.reason)) "supplement row reason must be present"

def validateApplyPayload (inputs : ApplyInputs) (payload : ApplyPayload) : List String :=
  errorIf (inputs.adapterStatus ≠ .ok) "adapter payload failed" ++
    errorIf (inputs.packetStatus ≠ .ok) "packet kind mismatch" ++
    errorIf (inputs.captureStatus ≠ .ok) "capture plan failed" ++
    errorIf (inputs.storageStatus ≠ .ok) "storage plan failed" ++
    errorIf (payload.totalRowCount ≤ 0 || 5000 < payload.totalRowCount)
      "unexpected total row count" ++
    errorIf (payload.rawSnapshotRows.length ≠ (storageFrom platform inputs).payloadEnvelopeCount)
      "raw snapshot count must match payload envelopes" ++
    errorIf (payload.observationRows.length ≠ inputs.observations.length)
      "observation row count mismatch" ++
    errorIf (payload.reconciliationRows.length ≠
        (packetFrom platform inputs).reconciliationRows.length)
      "reconciliation row count mismatch" ++
    errorIf (payload.supplementRows.length ≠
        (packetFrom platform inputs).supplementCandidateRows.length)
      "supplement row count mismatch" ++
    payload.reconciliationRows.flatMap reconciliationRowErrors ++
    payload.supplementRows.flatMap supplementRowErrors ++
    errorIf (platform.includesRawHtml payload) "apply payload must not include raw HTML" ++
    errorIf (platform.includesSecrets payload) "apply payload must not include secrets"

section Persist

/-- What happens when the pages are put: what a page gives, the day, and which puts pass. -/
structure PersistWorld where
  fetched : SourceId → JsText → Option JsText
  date : JsText
  putPasses : ObjectWritePlan → JsText → Bool

inductive WriteResult
  | missingPayload (objectKeyHash : JsText)
  | passed (objectKeyHash : JsText) (valueHash : JsText)
  | failed (objectKeyHash : JsText) (valueHash : JsText)

structure StoredObject where
  objectKey : JsText
  text : JsText

structure PersistState where
  rawSnapshotRows : List RawSnapshotRow
  writeResults : List WriteResult
  objects : List StoredObject

variable (world : PersistWorld)

def objectPlanForCurrentPayload (objectPlan : ObjectWritePlan) (payloadText : JsText) :
    ObjectWritePlan :=
  let payloadHash := textHash platform.toPlatform payloadText
  let key := objectKey objectPlan.sourceId world.date payloadHash
  { objectPlan with
    objectKey := key
    objectKeyHash := keyHash platform.toPlatform key
    payloadBytes := byteLength payloadText
    payloadHash := some payloadHash }

/-- The row after the put of a page: its envelope is rewritten when it is of that page. -/
def currentRow (original current : ObjectWritePlan) (row : RawSnapshotRow) : RawSnapshotRow :=
  match row.payload with
  | none => row
  | some payload =>
    if payload.sourceId ≠ original.sourceId ∨ payload.sourceUrl ≠ original.sourceUrl then row
    else
      let envelope :=
        { payload with
          objectKey := current.objectKey
          objectKeyHash := current.objectKeyHash
          payloadBytes := current.payloadBytes
          payloadHash := current.payloadHash }
      { row with
        payload := some envelope
        payloadHash := some (platform.envelopeHash envelope) }

def applyCurrentPayloadEnvelope (rows : List RawSnapshotRow) (original current : ObjectWritePlan) :
    List RawSnapshotRow :=
  rows.map (currentRow platform original current)

def persistStep (state : PersistState) (objectPlan : ObjectWritePlan) : PersistState :=
  match world.fetched objectPlan.sourceId objectPlan.sourceUrl with
  | none =>
    { state with
      writeResults := state.writeResults ++ [.missingPayload objectPlan.objectKeyHash] }
  | some payloadText =>
    let current := objectPlanForCurrentPayload platform world objectPlan payloadText
    let rows := applyCurrentPayloadEnvelope platform state.rawSnapshotRows objectPlan current
    let valueHash := textHash platform.toPlatform payloadText
    if world.putPasses current payloadText then
      { rawSnapshotRows := rows
        writeResults := state.writeResults ++ [.passed current.objectKeyHash valueHash]
        objects := state.objects ++ [⟨current.objectKey, payloadText⟩] }
    else
      { state with
        rawSnapshotRows := rows
        writeResults := state.writeResults ++ [.failed current.objectKeyHash valueHash] }

def persistRawSnapshots (storage : StoragePlan) (payload : ApplyPayload) : PersistState :=
  storage.rawSnapshotObjectWritePlans.foldl (persistStep platform world)
    { rawSnapshotRows := payload.rawSnapshotRows, writeResults := [], objects := [] }

def WriteResult.isPassed : WriteResult → Bool
  | .passed .. => true
  | _ => false

/-- `status: failed.length === 0 ? "ok" : "failed"`. -/
def PersistState.isOk (state : PersistState) : Bool :=
  state.writeResults.all WriteResult.isPassed

end Persist

end Aiphabee.IpoPublic
