import Aiphabee.Sql.Upserts
import Aiphabee.Text.JsonValues

/-!
# The tables that a held apply writes

The seven tables of a held apply with the columns that its statements name,
their keys and the constraints of the schema, and how a statement reads the rows
of a payload (`jsonb_to_recordset`).  A column that no statement names is left
out.
-/

namespace Aiphabee.HeldApply

open SandboxAuth (JsonValue)
open JsonMembers (member)

inductive HeldTable
  | rawSourceBatch
  | dataVersionBatch
  | sourceRun
  | rawSnapshot
  | observation
  | reconciliationRow
  | supplementCandidate
deriving DecidableEq

/-- The tables in the order in which an apply writes them. -/
def HeldTable.all : List HeldTable :=
  [.rawSourceBatch, .dataVersionBatch, .sourceRun, .rawSnapshot, .observation,
    .reconciliationRow, .supplementCandidate]

theorem HeldTable.mem_all (table : HeldTable) : table ∈ HeldTable.all := by
  cases table <;> decide

/-- The name of the group of rows in a payload. -/
def HeldTable.name : HeldTable → String
  | .rawSourceBatch => "raw_source_batch"
  | .dataVersionBatch => "data_version_batch"
  | .sourceRun => "hk_ipo_public_source_run"
  | .rawSnapshot => "raw_snapshot"
  | .observation => "hk_ipo_public_observation"
  | .reconciliationRow => "hk_ipo_public_reconciliation_row"
  | .supplementCandidate => "hk_ipo_public_supplement_candidate"

inductive HeldColumn
  | adapterVersion | canonicalCandidate | checksumSha256 | confidence
  | conflictRequiresManualReview | conflictStatus | dataVersion | factName | fieldName
  | fieldValue | fieldValueType | hkexEvidenceIds | liveNetworkWrites | locator | locatorHash
  | methodologyVersion | observationCount | observationId | observedAt | packetVersion | payload
  | payloadHashSha256 | promotesFact | provider | qualityState | rawSnapshotId
  | rawSnapshotRequestIds | rawSnapshotRequired | reason | receivedAt | reconciledWithHkex
  | reconciliationRowCount | reconciliationRowId | recordKind | releaseState
  | rightsPolicyVersion | rowCount | securityCode | securityCount | sourceBatchId
  | sourceDataset | sourceId | sourceIds | sourceMode | sourceName | sourceObservationId
  | sourceObservationIds | sourceRecordId | sourceRightsStatus | sourceRunId | sourceUrl | status
  | supplementCandidateCount | supplementCandidateId | writesServingTables
deriving DecidableEq

def HeldColumn.name : HeldColumn → String
  | .adapterVersion => "adapter_version"
  | .canonicalCandidate => "canonical_candidate"
  | .checksumSha256 => "checksum_sha256"
  | .confidence => "confidence"
  | .conflictRequiresManualReview => "conflict_requires_manual_review"
  | .conflictStatus => "conflict_status"
  | .dataVersion => "data_version"
  | .factName => "fact_name"
  | .fieldName => "field_name"
  | .fieldValue => "field_value"
  | .fieldValueType => "field_value_type"
  | .hkexEvidenceIds => "hkex_evidence_ids"
  | .liveNetworkWrites => "live_network_writes"
  | .locator => "locator"
  | .locatorHash => "locator_hash"
  | .methodologyVersion => "methodology_version"
  | .observationCount => "observation_count"
  | .observationId => "observation_id"
  | .observedAt => "observed_at"
  | .packetVersion => "packet_version"
  | .payload => "payload"
  | .payloadHashSha256 => "payload_hash_sha256"
  | .promotesFact => "promotes_fact"
  | .provider => "provider"
  | .qualityState => "quality_state"
  | .rawSnapshotId => "raw_snapshot_id"
  | .rawSnapshotRequestIds => "raw_snapshot_request_ids"
  | .rawSnapshotRequired => "raw_snapshot_required"
  | .reason => "reason"
  | .receivedAt => "received_at"
  | .reconciledWithHkex => "reconciled_with_hkex"
  | .reconciliationRowCount => "reconciliation_row_count"
  | .reconciliationRowId => "reconciliation_row_id"
  | .recordKind => "record_kind"
  | .releaseState => "release_state"
  | .rightsPolicyVersion => "rights_policy_version"
  | .rowCount => "row_count"
  | .securityCode => "security_code"
  | .securityCount => "security_count"
  | .sourceBatchId => "source_batch_id"
  | .sourceDataset => "source_dataset"
  | .sourceId => "source_id"
  | .sourceIds => "source_ids"
  | .sourceMode => "source_mode"
  | .sourceName => "source_name"
  | .sourceObservationId => "source_observation_id"
  | .sourceObservationIds => "source_observation_ids"
  | .sourceRecordId => "source_record_id"
  | .sourceRightsStatus => "source_rights_status"
  | .sourceRunId => "source_run_id"
  | .sourceUrl => "source_url"
  | .status => "status"
  | .supplementCandidateCount => "supplement_candidate_count"
  | .supplementCandidateId => "supplement_candidate_id"
  | .writesServingTables => "writes_serving_tables"

inductive ColumnType
  | text
  | integer
  | numeric
  | boolean
  | jsonb
  | timestamptz
deriving DecidableEq

/-- The value of a column that is not null; a time is a number of microseconds. -/
inductive HeldCell
  | text (value : JsText)
  | integer (value : Int)
  | numeric (value : ℚ)
  | boolean (value : Bool)
  | json (value : JsonValue)
  | instant (value : Int)
deriving DecidableEq

abbrev HeldRow := Sql.Row HeldColumn HeldCell

/-- The columns of a table that a statement reads from the rows of a payload. -/
def HeldTable.columns : HeldTable → List (HeldColumn × ColumnType)
  | .rawSourceBatch =>
    [(.sourceBatchId, .text), (.sourceName, .text), (.sourceDataset, .text),
      (.receivedAt, .timestamptz), (.sourceRightsStatus, .text), (.checksumSha256, .text),
      (.rowCount, .integer)]
  | .dataVersionBatch =>
    [(.dataVersion, .text), (.sourceBatchId, .text), (.methodologyVersion, .text),
      (.rightsPolicyVersion, .text), (.releaseState, .text)]
  | .sourceRun =>
    [(.sourceRunId, .text), (.sourceBatchId, .text), (.dataVersion, .text),
      (.adapterVersion, .text), (.packetVersion, .text), (.sourceMode, .text),
      (.status, .text), (.sourceIds, .jsonb), (.securityCount, .integer),
      (.observationCount, .integer), (.reconciliationRowCount, .integer),
      (.supplementCandidateCount, .integer), (.liveNetworkWrites, .boolean),
      (.writesServingTables, .boolean)]
  | .rawSnapshot =>
    [(.rawSnapshotId, .text), (.sourceBatchId, .text), (.sourceRecordId, .text),
      (.recordKind, .text), (.payload, .jsonb), (.payloadHashSha256, .text),
      (.receivedAt, .timestamptz), (.qualityState, .text), (.dataVersion, .text),
      (.methodologyVersion, .text)]
  | .observation =>
    [(.observationId, .text), (.sourceRunId, .text), (.sourceId, .text), (.provider, .text),
      (.sourceUrl, .text), (.observedAt, .timestamptz), (.sourceRecordId, .text),
      (.securityCode, .text), (.fieldName, .text), (.fieldValue, .jsonb),
      (.fieldValueType, .text), (.rawSnapshotId, .text), (.rawSnapshotRequired, .boolean),
      (.reconciledWithHkex, .boolean), (.conflictStatus, .text), (.confidence, .numeric),
      (.locator, .jsonb), (.locatorHash, .text), (.dataVersion, .text),
      (.qualityState, .text)]
  | .reconciliationRow =>
    [(.reconciliationRowId, .text), (.sourceRunId, .text), (.securityCode, .text),
      (.factName, .text), (.status, .text), (.canonicalCandidate, .jsonb),
      (.sourceObservationIds, .jsonb), (.sourceIds, .jsonb), (.rawSnapshotRequestIds, .jsonb),
      (.hkexEvidenceIds, .jsonb), (.confidence, .text), (.reason, .text),
      (.rawSnapshotRequired, .boolean), (.conflictRequiresManualReview, .boolean),
      (.promotesFact, .boolean), (.dataVersion, .text), (.qualityState, .text)]
  | .supplementCandidate =>
    [(.supplementCandidateId, .text), (.sourceRunId, .text), (.sourceObservationId, .text),
      (.securityCode, .text), (.sourceId, .text), (.sourceRecordId, .text),
      (.fieldName, .text), (.fieldValueType, .text), (.status, .text),
      (.rawSnapshotRequired, .boolean), (.promotesFact, .boolean), (.reason, .text),
      (.dataVersion, .text), (.qualityState, .text)]

def HeldTable.keyColumn : HeldTable → HeldColumn
  | .rawSourceBatch => .sourceBatchId
  | .dataVersionBatch => .dataVersion
  | .sourceRun => .sourceRunId
  | .rawSnapshot => .rawSnapshotId
  | .observation => .observationId
  | .reconciliationRow => .reconciliationRowId
  | .supplementCandidate => .supplementCandidateId

def HeldTable.key (table : HeldTable) : Sql.Key HeldColumn :=
  .primary [table.keyColumn]

section Records

/-- How the database reads a value that is not null as one of a type; none where it refuses to. -/
structure HeldPlatform where
  cast : ColumnType → JsonValue → Option HeldCell
  cast_string : ∀ text cell, cast .text (.string text) = some cell → cell = .text text
  cast_flag : ∀ flag cell, cast .boolean (.boolean flag) = some cell → cell = .boolean flag
  cast_json : ∀ value cell, cast .jsonb value = some cell → cell = .json value
  /-- The patterns that the JSON text of a payload is searched for. -/
  includesRawHtml : JsonValue → Bool
  includesSecrets : JsonValue → Bool

variable (platform : HeldPlatform)

def readCell (value : JsonValue) (column : HeldColumn × ColumnType) : Option (Option HeldCell) :=
  match member value column.1.name with
  | none | some .null => some none
  | some value => (platform.cast column.2 value).map some

def rowOf (columns : List (HeldColumn × ColumnType)) (value : JsonValue) : HeldRow :=
  fun column =>
    match columns.find? fun entry => entry.1 = column with
    | none => none
    | some entry => (readCell platform value entry).join

/-- A row of a payload, which must be an object. -/
def readRow (table : HeldTable) (value : JsonValue) : Option HeldRow :=
  if JsonMembers.isPlainRecord (some value) ∧
      ∀ column ∈ table.columns, (readCell platform value column).isSome then
    some (rowOf platform table.columns value)
  else
    none

/-- `jsonb_to_recordset`. -/
def recordset (table : HeldTable) (rows : List JsonValue) : Option (List HeldRow) :=
  rows.mapM (readRow platform table)

def HeldCell.source : HeldCell → Option (ColumnType × JsonValue)
  | .text value => some (.text, .string value)
  | .boolean value => some (.boolean, .boolean value)
  | _ => none

/-- A column that holds a text or a boolean is read as that text or boolean. -/
theorem readRow_cell {platform : HeldPlatform} {table : HeldTable} {value source : JsonValue}
    {row : HeldRow} {column : HeldColumn} {type : ColumnType} {cell : HeldCell}
    (h : readRow platform table value = some row) (hsource : cell.source = some (type, source))
    (hcolumn : table.columns.find? (fun entry => entry.1 = column) = some (column, type))
    (hmember : member value column.name = some source) : row column = some cell := by
  have hcast : source ≠ .null ∧
      ∀ read, platform.cast type source = some read → read = cell := by
    cases cell with
    | text text =>
      obtain ⟨rfl, rfl⟩ := Prod.mk.inj (Option.some.inj hsource)
      exact ⟨nofun, platform.cast_string text⟩
    | boolean flag =>
      obtain ⟨rfl, rfl⟩ := Prod.mk.inj (Option.some.inj hsource)
      exact ⟨nofun, platform.cast_flag flag⟩
    | integer value => cases hsource
    | numeric value => cases hsource
    | json value => cases hsource
    | instant value => cases hsource
  rw [readRow] at h
  split at h
  case isFalse => cases h
  next hcells =>
    obtain rfl := Option.some.inj h
    have hcell := hcells.2 _ (List.mem_of_find?_eq_some hcolumn)
    have hread : readCell platform value (column, type) = (platform.cast type source).map some := by
      rw [readCell, hmember]
      cases source with
      | null => exact absurd rfl hcast.1
      | boolean | number | string | array | object => rfl
    rw [hread, Option.isSome_map] at hcell
    obtain ⟨read, hsome⟩ := Option.isSome_iff_exists.mp hcell
    simp only [rowOf, hcolumn]
    rw [hread, hsome, hcast.2 read hsome]
    rfl

end Records

abbrev HeldDb := HeldTable → Multiset HeldRow

def HeldTable.notNull : HeldTable → List HeldColumn
  | .rawSourceBatch =>
    [.sourceBatchId, .sourceName, .sourceDataset, .receivedAt, .sourceRightsStatus, .rowCount]
  | .dataVersionBatch =>
    [.dataVersion, .sourceBatchId, .methodologyVersion, .rightsPolicyVersion, .releaseState]
  | .sourceRun =>
    [.sourceRunId, .sourceBatchId, .dataVersion, .adapterVersion, .packetVersion, .sourceMode,
      .status, .sourceIds, .securityCount, .observationCount, .reconciliationRowCount,
      .supplementCandidateCount, .liveNetworkWrites, .writesServingTables]
  | .rawSnapshot =>
    [.rawSnapshotId, .sourceBatchId, .sourceRecordId, .recordKind, .payload,
      .payloadHashSha256, .receivedAt, .qualityState, .dataVersion, .methodologyVersion]
  | .observation =>
    [.observationId, .sourceRunId, .sourceId, .provider, .sourceUrl, .observedAt,
      .sourceRecordId, .securityCode, .fieldName, .fieldValue, .fieldValueType,
      .rawSnapshotRequired, .reconciledWithHkex, .conflictStatus, .locator, .locatorHash,
      .dataVersion, .qualityState]
  | .reconciliationRow =>
    [.reconciliationRowId, .sourceRunId, .securityCode, .factName, .status,
      .sourceObservationIds, .sourceIds, .rawSnapshotRequestIds, .hkexEvidenceIds,
      .confidence, .reason, .rawSnapshotRequired, .conflictRequiresManualReview,
      .promotesFact, .dataVersion, .qualityState]
  | .supplementCandidate =>
    [.supplementCandidateId, .sourceRunId, .sourceObservationId, .securityCode, .sourceId,
      .sourceRecordId, .fieldName, .fieldValueType, .status, .rawSnapshotRequired,
      .promotesFact, .reason, .dataVersion, .qualityState]

def HeldTable.enumerated : HeldTable → List (HeldColumn × List String)
  | .rawSourceBatch => [(.sourceRightsStatus, ["default_deny", "approved", "blocked"])]
  | .dataVersionBatch => [(.releaseState, ["held", "released", "withdrawn"])]
  | .sourceRun =>
    [(.sourceMode, ["fixtures", "live", "held"]),
      (.status, ["held", "validated", "failed", "superseded"])]
  | .rawSnapshot =>
    [(.recordKind,
        ["company", "instrument", "listing", "identifier_history", "financial_fact",
          "corporate_action", "vendor_code", "ipo_data_period", "ipo_pipeline",
          "ipo_overview", "ipo_summary", "ipo_timetable", "ipo_offer_statistics",
          "ipo_parties", "ipo_corporate_info", "ipo_cornerstone", "ipo_pool",
          "ipo_clawback", "ipo_allotment", "ipo_application", "ipo_lockup",
          "hkex_news_document", "hkex_news_document_content", "hkex_news_extracted_fact",
          "hkex_news_transform", "hk_ipo_public_source_record", "hk_ipo_public_observation",
          "hk_ipo_public_reconciliation_packet"]),
      (.qualityState, ["PASS", "WARN", "HOLD", "REJECT_RAW"])]
  | .observation =>
    [(.fieldValueType,
        ["text", "number", "boolean", "array", "object", "date", "url", "null"]),
      (.conflictStatus,
        ["unreconciled", "agreement", "single_source", "conflict", "rejected"]),
      (.qualityState, ["PASS", "WARN", "HOLD", "REJECT_RAW"])]
  | .reconciliationRow =>
    [(.status, ["agreement", "conflict", "single_source"]),
      (.confidence, ["low", "medium", "high"]),
      (.qualityState, ["PASS", "WARN", "HOLD", "REJECT_RAW"])]
  | .supplementCandidate =>
    [(.status, ["candidate", "accepted_after_review", "rejected", "superseded"]),
      (.qualityState, ["PASS", "WARN", "HOLD", "REJECT_RAW"])]

def HeldTable.fixed : HeldTable → List (HeldColumn × Bool)
  | .sourceRun => [(.liveNetworkWrites, false), (.writesServingTables, false)]
  | .observation => [(.rawSnapshotRequired, true)]
  | .reconciliationRow | .supplementCandidate =>
    [(.rawSnapshotRequired, true), (.promotesFact, false)]
  | _ => []

/-- The columns that may not be below zero. -/
def HeldTable.nonNegative : HeldTable → List HeldColumn
  | .rawSourceBatch => [.rowCount]
  | .sourceRun =>
    [.securityCount, .observationCount, .reconciliationRowCount, .supplementCandidateCount]
  | _ => []

def HeldTable.uniqueColumns : HeldTable → List (List HeldColumn)
  | .rawSourceBatch | .dataVersionBatch => []
  | .sourceRun => [[.dataVersion, .adapterVersion, .packetVersion, .sourceMode]]
  | .rawSnapshot => [[.sourceBatchId, .sourceRecordId]]
  | .observation => [[.sourceRunId, .sourceId, .sourceRecordId, .fieldName, .locatorHash]]
  | .reconciliationRow => [[.sourceRunId, .securityCode, .factName]]
  | .supplementCandidate => [[.sourceRunId, .sourceObservationId, .fieldName]]

def HeldTable.references : HeldTable → List (HeldColumn × HeldTable)
  | .rawSourceBatch => []
  | .dataVersionBatch => [(.sourceBatchId, .rawSourceBatch)]
  | .sourceRun => [(.sourceBatchId, .rawSourceBatch), (.dataVersion, .dataVersionBatch)]
  | .rawSnapshot => [(.sourceBatchId, .rawSourceBatch)]
  | .observation =>
    [(.sourceRunId, .sourceRun), (.rawSnapshotId, .rawSnapshot),
      (.dataVersion, .dataVersionBatch)]
  | .reconciliationRow => [(.sourceRunId, .sourceRun), (.dataVersion, .dataVersionBatch)]
  | .supplementCandidate =>
    [(.sourceRunId, .sourceRun), (.sourceObservationId, .observation),
      (.dataVersion, .dataVersionBatch)]

/-- The text of `security_code` matches `^[0-9]{5}\.HK$`. -/
def isHkCode (value : JsText) : Bool :=
  (value.take 5).length = 5 &&
  (value.take 5).all (fun unit => 48 ≤ unit.toNat && unit.toNat ≤ 57) &&
    value.drop 5 = JsText.ofString ".HK"

/-- What the schema asks of a row alone; a condition on a null holds. -/
def HeldTable.rowChecks (table : HeldTable) (row : HeldRow) : Bool :=
  table.notNull.all (fun column => (row column).isSome) &&
    table.enumerated.all (fun entry =>
      match row entry.1 with
      | some (.text value) => value ∈ entry.2.map JsText.ofString
      | _ => true) &&
    table.fixed.all (fun entry =>
      match row entry.1 with
      | some (.boolean value) => value = entry.2
      | _ => true) &&
    table.nonNegative.all (fun column =>
      match row column with
      | some (.integer value) => 0 ≤ value
      | _ => true) &&
    (match row .securityCode with
      | some (.text value) => isHkCode value
      | _ => true) &&
    (match row .confidence with
      | some (.numeric value) => 0 ≤ value && value ≤ 1
      | _ => true)

/-- The constraints of the schema besides the primary keys, which hold after every statement. -/
def constraintsHold (db : HeldDb) : Prop :=
  ∀ table ∈ HeldTable.all,
    (∀ row ∈ db table, table.rowChecks row = true) ∧
    (∀ columns ∈ table.uniqueColumns, Sql.Unique columns (db table)) ∧
    ∀ reference ∈ table.references, ∀ row ∈ db table, (row reference.1).isSome →
      row reference.1 ∈ (db reference.2).map fun other => other reference.2.keyColumn

instance (db : HeldDb) : Decidable (constraintsHold db) := by
  unfold constraintsHold
  infer_instance

end Aiphabee.HeldApply
