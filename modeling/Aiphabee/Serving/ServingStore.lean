import Aiphabee.Text.JsNumber
import Aiphabee.Text.JsString

/-!
# The serving store planners

A read of the serving store passes through five planners.  The read plan takes
the decision of the gateway, the quality-release plan that of the quality
checks; from both the query plan is made, and from it the descriptor and the
text of a statement.  An adapter accepts the text and defers its execution.
-/

namespace Aiphabee.ServingStore

inductive ServingQualityState
  | HOLD
  | PASS
  | REJECT_RAW
  | WARN
deriving DecidableEq

def ServingQualityState.text : ServingQualityState → String
  | .HOLD => "HOLD"
  | .PASS => "PASS"
  | .REJECT_RAW => "REJECT_RAW"
  | .WARN => "WARN"

/-- The quality states that keep data from being served. -/
def ServingQualityState.isBlocked (state : ServingQualityState) : Prop :=
  state = .HOLD ∨ state = .REJECT_RAW

instance (state : ServingQualityState) : Decidable state.isBlocked :=
  inferInstanceAs (Decidable (_ ∨ _))

inductive ServingReleaseState
  | held
  | released
  | withdrawn
deriving DecidableEq

inductive ServingReadGatewayStatus
  | allow
  | allow_with_redactions
  | deny
  | quality_hold
deriving DecidableEq

def servingTables : List String :=
  ["aiphabee_core.serving_dataset", "aiphabee_core.serving_field",
    "aiphabee_core.serving_snapshot", "aiphabee_core.serving_record"]

structure TimeRange where
  start : String
  stop : String

/-- Field names that are not empty, each once and in order. -/
def normalizeFields (fields : List String) : List String :=
  JsString.sort (fields.filter fun field => 0 < field.length).eraseDups

inductive ServingReadPlanStatus
  | blocked_by_gateway
  | quality_hold
  | read_planned
deriving DecidableEq

structure ServingReadPlanInput where
  allowedFields : List String
  dataVersion : String
  dataset : String
  errorCode : Option String
  gatewayStatus : ServingReadGatewayStatus
  maxRows : JsNumber
  methodologyVersion : String
  qualityState : ServingQualityState
  requestedFields : List String
  requestedRows : JsNumber
  rightsPolicyVersion : String
  timeRange : Option TimeRange

structure ReadCacheKeyMaterial where
  dataVersion : String
  fieldSet : List String
  methodologyVersion : String
  rightsPolicyVersion : String
  timeRange : Option TimeRange

structure ServingReadPlan where
  allowedFields : List String
  blockedReason : Option String
  cacheKeyMaterial : ReadCacheKeyMaterial
  dataset : String
  liveRead : Bool
  qualityState : ServingQualityState
  releaseState : ServingReleaseState
  requestedFields : List String
  requestedRows : JsNumber
  rowLimit : JsNumber
  servedRows : Nat
  sqlEmitted : Bool
  status : ServingReadPlanStatus
  tables : List String
  version : String

def getServingReadStatus (input : ServingReadPlanInput) (allowedFields : List String) :
    ServingReadPlanStatus :=
  if input.gatewayStatus = .quality_hold ∨ input.qualityState.isBlocked then
    .quality_hold
  else if input.gatewayStatus = .deny ∨ allowedFields = [] then
    .blocked_by_gateway
  else
    .read_planned

def getBlockedReason (input : ServingReadPlanInput) : ServingReadPlanStatus → Option String
  | .read_planned => none
  | .quality_hold => some "DATA_QUALITY_HOLD"
  | .blocked_by_gateway => some (input.errorCode.getD "DATA_NOT_LICENSED")

def createServingReadPlan (input : ServingReadPlanInput) : ServingReadPlan :=
  let allowedFields := normalizeFields input.allowedFields
  let status := getServingReadStatus input allowedFields
  let servedFields := if status = .read_planned then allowedFields else []
  { allowedFields := servedFields
    blockedReason := getBlockedReason input status
    cacheKeyMaterial :=
      { dataVersion := input.dataVersion
        fieldSet := servedFields
        methodologyVersion := input.methodologyVersion
        rightsPolicyVersion := input.rightsPolicyVersion
        timeRange := input.timeRange }
    dataset := input.dataset
    liveRead := false
    qualityState := input.qualityState
    releaseState := .held
    requestedFields := normalizeFields input.requestedFields
    requestedRows := input.requestedRows
    rowLimit := input.maxRows
    servedRows := 0
    sqlEmitted := false
    status := status
    tables := servingTables
    version := "2026-06-20.phase1.serving-read-scaffold.v0" }

inductive ServingQualityScope
  | field
  | record
  | snapshot

structure ServingQualitySubject where
  id : String
  qualityState : ServingQualityState
  scope : ServingQualityScope

structure ServingQualityReleasePlanInput where
  dataVersion : String
  dataset : String
  fieldQualityStates : Option (List ServingQualitySubject)
  methodologyVersion : String
  recordQualityStates : Option (List ServingQualitySubject)
  rightsPolicyVersion : String
  rowCount : JsNumber
  snapshotQualityState : ServingQualityState
  sourceRecordId : String

structure ServingQualityReleasePlan where
  blockedQualityStates : List ServingQualityState
  dataVersion : String
  dataset : String
  fieldQualityStates : List ServingQualitySubject
  gatewayErrorCode : Option String
  isolatedRows : JsNumber
  methodologyVersion : String
  recordQualityStates : List ServingQualitySubject
  releaseState : ServingReleaseState
  releasedRows : JsNumber
  rightsPolicyVersion : String
  rowCount : JsNumber
  servingEligible : Bool
  snapshotQualityState : ServingQualityState
  sourceRecordId : String
  sqlEmitted : Bool
  tables : List String
  version : String
  warnings : List String

def uniqueStates (states : List ServingQualityState) : List ServingQualityState :=
  states.eraseDups.mergeSort fun left right => JsString.sortsBefore left.text right.text

def subjectStates (input : ServingQualityReleasePlanInput) : List ServingQualityState :=
  input.snapshotQualityState ::
    ((input.fieldQualityStates.getD []).map fun subject => subject.qualityState) ++
    ((input.recordQualityStates.getD []).map fun subject => subject.qualityState)

def releaseStateOf (states : List ServingQualityState) : ServingReleaseState :=
  if .REJECT_RAW ∈ states then .withdrawn
  else if .HOLD ∈ states then .held
  else .released

def createServingQualityReleasePlan (input : ServingQualityReleasePlanInput) :
    ServingQualityReleasePlan :=
  let states := subjectStates input
  let releaseState := releaseStateOf states
  let servingEligible := releaseState = .released
  { blockedQualityStates := uniqueStates (states.filter fun state => state.isBlocked)
    dataVersion := input.dataVersion
    dataset := input.dataset
    fieldQualityStates := input.fieldQualityStates.getD []
    gatewayErrorCode := if servingEligible then none else some "DATA_QUALITY_HOLD"
    isolatedRows := if servingEligible then .zero else input.rowCount
    methodologyVersion := input.methodologyVersion
    recordQualityStates := input.recordQualityStates.getD []
    releaseState := releaseState
    releasedRows := if servingEligible then input.rowCount else .zero
    rightsPolicyVersion := input.rightsPolicyVersion
    rowCount := input.rowCount
    servingEligible := servingEligible
    snapshotQualityState := input.snapshotQualityState
    sourceRecordId := input.sourceRecordId
    sqlEmitted := false
    tables := servingTables
    version := "2026-06-20.phase1.quality-release-isolation.v0"
    warnings := if .WARN ∈ states then ["quality_state_warn"] else [] }

inductive ServingQueryPlanStatus
  | query_blocked
  | query_planned
deriving DecidableEq

structure ServingQueryPlanInput where
  readPlan : ServingReadPlan
  releaseState : ServingReleaseState
  rowCount : JsNumber
  servingSnapshotId : String
  snapshotQualityState : ServingQualityState

structure QueryCacheKeyMaterial extends ReadCacheKeyMaterial where
  releaseState : ServingReleaseState
  servingSnapshotId : String

structure SnapshotFilter where
  servingSnapshotId : String
  timeRange : Option TimeRange

structure ServingQueryPlan where
  allowedFields : List String
  blockedReason : Option String
  cacheKeyMaterial : QueryCacheKeyMaterial
  dataset : String
  filters : SnapshotFilter
  liveRead : Bool
  plannedRows : JsNumber
  qualityState : ServingQualityState
  releaseState : ServingReleaseState
  requestedFields : List String
  requestedRows : JsNumber
  rowLimit : JsNumber
  snapshotRowCount : JsNumber
  sqlEmitted : Bool
  status : ServingQueryPlanStatus
  tables : List String
  version : String

def getServingQueryBlockedReason (input : ServingQueryPlanInput) : Option String :=
  if input.readPlan.status ≠ .read_planned then
    some (input.readPlan.blockedReason.getD "DATA_NOT_LICENSED")
  else if input.snapshotQualityState.isBlocked then
    some "DATA_QUALITY_HOLD"
  else if input.releaseState ≠ .released then
    some "SERVING_SNAPSHOT_NOT_RELEASED"
  else
    none

def createServingQueryPlan (input : ServingQueryPlanInput) : ServingQueryPlan :=
  let readPlan := input.readPlan
  let blockedReason := getServingQueryBlockedReason input
  let status : ServingQueryPlanStatus :=
    if blockedReason = none then .query_planned else .query_blocked
  let allowedFields := if status = .query_planned then readPlan.allowedFields else []
  { allowedFields := allowedFields
    blockedReason := blockedReason
    cacheKeyMaterial :=
      { readPlan.cacheKeyMaterial with
        fieldSet := allowedFields
        releaseState := input.releaseState
        servingSnapshotId := input.servingSnapshotId }
    dataset := readPlan.dataset
    filters :=
      { servingSnapshotId := input.servingSnapshotId
        timeRange := readPlan.cacheKeyMaterial.timeRange }
    liveRead := false
    plannedRows :=
      if status = .query_planned then
        ((readPlan.requestedRows.min readPlan.rowLimit).min input.rowCount)
      else
        .zero
    qualityState := input.snapshotQualityState
    releaseState := input.releaseState
    requestedFields := readPlan.requestedFields
    requestedRows := readPlan.requestedRows
    rowLimit := readPlan.rowLimit
    snapshotRowCount := input.rowCount
    sqlEmitted := false
    status := status
    tables := servingTables
    version := "2026-06-20.phase1.live-serving-query-planner-scaffold.v0" }

inductive ServingSqlDescriptorStatus
  | descriptor_blocked
  | descriptor_planned
deriving DecidableEq

inductive ServingSqlTextStatus
  | sql_text_blocked
  | sql_text_planned
deriving DecidableEq

/-- The values that a statement is executed with. -/
structure Bindings where
  fieldSet : List String
  limit : JsNumber
  servingSnapshotId : String
  timeFrom : Option String
  timeTo : Option String

structure OrderBy where
  direction : String
  field : String

structure ServingSqlDescriptor where
  bindings : Bindings
  blockedReason : Option String
  dataset : String
  executionReady : Bool
  source : String
  liveRead : Bool
  orderBy : List OrderBy
  selectedFieldPaths : List String
  sqlEmitted : Bool
  sqlTextEmitted : Bool
  statementId : String
  status : ServingSqlDescriptorStatus
  tables : List String
  filters : SnapshotFilter
  version : String

/-- The descriptor's `from` and `where` are its `source` and its `filters`. -/
def createServingSqlDescriptor (queryPlan : ServingQueryPlan) : ServingSqlDescriptor :=
  let blockedReason :=
    if queryPlan.status = .query_planned then none
    else some (queryPlan.blockedReason.getD "SERVING_QUERY_NOT_PLANNED")
  let status : ServingSqlDescriptorStatus :=
    if blockedReason = none then .descriptor_planned else .descriptor_blocked
  let selectedFieldPaths :=
    if status = .descriptor_planned then queryPlan.allowedFields else []
  let timeRange := queryPlan.cacheKeyMaterial.timeRange
  { bindings :=
      { fieldSet := selectedFieldPaths
        limit := if status = .descriptor_planned then queryPlan.plannedRows else .zero
        servingSnapshotId := queryPlan.cacheKeyMaterial.servingSnapshotId
        timeFrom := timeRange.map fun range => range.start
        timeTo := timeRange.map fun range => range.stop }
    blockedReason := blockedReason
    dataset := queryPlan.dataset
    executionReady := false
    source := "aiphabee_core.serving_record"
    liveRead := false
    orderBy :=
      [{ direction := "asc", field := "aiphabee_core.serving_record.entity_id" }]
    selectedFieldPaths := selectedFieldPaths
    sqlEmitted := false
    sqlTextEmitted := false
    statementId := "serving_record_projection_by_snapshot_v0"
    status := status
    tables := servingTables
    filters :=
      { servingSnapshotId := queryPlan.cacheKeyMaterial.servingSnapshotId
        timeRange := timeRange }
    version := "2026-06-20.phase1.serving-sql-descriptor-scaffold.v0" }

def createServingRecordProjectionSqlText : String :=
  "\n".intercalate
    ["select",
      "  aiphabee_core.serving_record.serving_record_id,",
      "  aiphabee_core.serving_record.entity_type,",
      "  aiphabee_core.serving_record.entity_id,",
      "  aiphabee_core.serving_record.payload,",
      "  aiphabee_core.serving_record.field_set,",
      "  aiphabee_core.serving_record.source_record_id",
      "from aiphabee_core.serving_record",
      "where aiphabee_core.serving_record.serving_snapshot_id = $1",
      "  and aiphabee_core.serving_record.field_set @> $2::text[]",
      "  and ($3::date is null or aiphabee_core.serving_record.effective_to is null or aiphabee_core.serving_record.effective_to >= $3::date)",
      "  and ($4::date is null or aiphabee_core.serving_record.effective_from is null or aiphabee_core.serving_record.effective_from <= $4::date)",
      "order by aiphabee_core.serving_record.entity_id asc",
      "limit $5"]

structure ServingSqlTextPlan where
  blockedReason : Option String
  descriptorStatementId : String
  executionReady : Bool
  liveRead : Bool
  parameterOrder : List String
  parameters : Bindings
  sqlExecuted : Bool
  sqlText : Option String
  sqlTextEmitted : Bool
  status : ServingSqlTextStatus
  version : String

def createServingSqlTextPlan (descriptor : ServingSqlDescriptor) : ServingSqlTextPlan :=
  let blockedReason :=
    if descriptor.status = .descriptor_planned then none
    else some (descriptor.blockedReason.getD "SERVING_SQL_DESCRIPTOR_NOT_PLANNED")
  let status : ServingSqlTextStatus :=
    if blockedReason = none then .sql_text_planned else .sql_text_blocked
  { blockedReason := blockedReason
    descriptorStatementId := descriptor.statementId
    executionReady := false
    liveRead := false
    parameterOrder := ["serving_snapshot_id", "field_set", "time_from", "time_to", "limit"]
    parameters :=
      { fieldSet := if status = .sql_text_planned then descriptor.bindings.fieldSet else []
        limit := if status = .sql_text_planned then descriptor.bindings.limit else .zero
        servingSnapshotId := descriptor.bindings.servingSnapshotId
        timeFrom := descriptor.bindings.timeFrom
        timeTo := descriptor.bindings.timeTo }
    sqlExecuted := false
    sqlText :=
      if status = .sql_text_planned then some createServingRecordProjectionSqlText else none
    sqlTextEmitted := status = .sql_text_planned
    status := status
    version := "2026-06-20.phase1.serving-sql-text-compiler-scaffold.v0" }

inductive ServingExecutionAdapterStatus
  | execution_blocked
  | execution_deferred
deriving DecidableEq

structure ServingExecutionAdapterPlan where
  adapter : String
  blockedReason : Option String
  deferredReason : Option String
  executionReady : Bool
  liveRead : Bool
  parameterOrder : List String
  parameters : Bindings
  servedRows : Nat
  sqlExecuted : Bool
  sqlTextAccepted : Bool
  statementId : String
  status : ServingExecutionAdapterStatus
  version : String

def createServingExecutionAdapterPlan (sqlTextPlan : ServingSqlTextPlan) :
    ServingExecutionAdapterPlan :=
  let blockedReason :=
    if sqlTextPlan.status = .sql_text_planned then none
    else some (sqlTextPlan.blockedReason.getD "SERVING_SQL_TEXT_NOT_PLANNED")
  let status : ServingExecutionAdapterStatus :=
    if blockedReason = none then .execution_deferred else .execution_blocked
  { adapter := "hyperdrive"
    blockedReason := blockedReason
    deferredReason :=
      if status = .execution_deferred then some "LIVE_SERVING_EXECUTION_DISABLED" else none
    executionReady := false
    liveRead := false
    parameterOrder := sqlTextPlan.parameterOrder
    parameters := sqlTextPlan.parameters
    servedRows := 0
    sqlExecuted := false
    sqlTextAccepted := status = .execution_deferred
    statementId := sqlTextPlan.descriptorStatementId
    status := status
    version := "2026-06-20.phase1.serving-execution-adapter-scaffold.v0" }

end Aiphabee.ServingStore
