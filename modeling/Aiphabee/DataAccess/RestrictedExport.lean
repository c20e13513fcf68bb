import Aiphabee.DataAccess.GatewayLimits

/-!
# Restricted exports

A restricted export asks the gateway for fields on the channel of exports, after its
format and the scope of the caller are checked.  The plan keeps the fields that the
gateway allows, whatever else the gateway says of the request.
-/

namespace Aiphabee.DataAccess

open ServingStore (TimeRange)

inductive RestrictedExportFormat
  | csv
  | image
  | pdf
deriving DecidableEq

def RestrictedExportFormat.text : RestrictedExportFormat → String
  | .csv => "csv"
  | .image => "image"
  | .pdf => "pdf"

def restrictedExportFormats : List RestrictedExportFormat :=
  [.csv, .image, .pdf]

def normalizeRestrictedExportFormat (value : String) : Option RestrictedExportFormat :=
  restrictedExportFormats.find? fun format => format.text = value

inductive RestrictedExportStatus
  | blockedGatewayDenied
  | blockedMissingScope
  | blockedUnsupportedFormat
  | plannedNoWrite
deriving DecidableEq

structure RestrictedExportPlanInput where
  accountId : Option String := none
  dataset : String
  fields : List String
  format : Option String := none
  plan : String
  qualityState : Option DataQualityState := none
  requestId : Option String := none
  requestedRows : JsNumber
  runId : Option String := none
  scopes : Option (List String) := none
  timeRange : Option TimeRange := none
  workspaceId : Option String := none

structure ExportGatewayDecision where
  allowedFields : List String
  deniedFields : List DeniedField
  errorCode : Option GatewayErrorCode
  rightsPolicyVersion : String
  status : DataAccessDecisionStatus

/-- The artifacts of a plan; `true` is one that is planned, and `false` one not requested. -/
structure ExportArtifacts where
  csv : Bool
  image : Bool
  pdf : Bool

structure ExportRowPolicy where
  maxRows : JsNumber
  requestedRows : JsNumber
  servedRows : JsNumber

structure RestrictedExportPlan where
  artifact : ExportArtifacts
  dataset : String
  exportFormat : Option RestrictedExportFormat
  gatewayDecision : Option ExportGatewayDecision
  requestId : String
  rowPolicy : ExportRowPolicy
  scopeGranted : Bool
  status : RestrictedExportStatus
  usage : UsageSummary
  watermark : String

structure RestrictedExportPlanResultInput where
  dataset : String
  decision : Option DataAccessDecision := none
  format : Option RestrictedExportFormat
  maxRows : JsNumber
  requestId : String
  requestedRows : JsNumber
  rightsPolicyVersion : String
  scopeGranted : Bool
  servedRows : JsNumber
  status : RestrictedExportStatus
  workspaceId : Option String := none

def createRestrictedExportPlanResult (input : RestrictedExportPlanResultInput) :
    RestrictedExportPlan where
  artifact :=
    { csv := input.format = some .csv
      image := input.format = some .image
      pdf := input.format = some .pdf }
  dataset := input.dataset
  exportFormat := input.format
  gatewayDecision := input.decision.map fun decision =>
    { allowedFields := decision.allowedFields
      deniedFields := decision.deniedFields
      errorCode := decision.error
      rightsPolicyVersion := decision.rightsPolicyVersion
      status := decision.status }
  requestId := input.requestId
  rowPolicy :=
    { maxRows := input.maxRows
      requestedRows := input.requestedRows
      servedRows := if input.status = .plannedNoWrite then input.servedRows else .zero }
  scopeGranted := input.scopeGranted
  status := input.status
  usage :=
    { cached := false
      credits := if input.status = .plannedNoWrite then .ofNat 1 else .zero
      rows := if input.status = .plannedNoWrite then input.servedRows else .zero }
  watermark := "|".intercalate
    [input.requestId, input.workspaceId.getD "workspace_unattributed", input.dataset,
      input.rightsPolicyVersion]

def exportRequestOf (input : RestrictedExportPlanInput) : DataAccessRequest where
  accountId := input.accountId
  channel := .export
  dataset := input.dataset
  exportRequested := true
  occurredAt := some "1970-01-01T00:00:00.000Z"
  plan := input.plan
  qualityState := input.qualityState.getD .PASS
  requestId := some (input.requestId.getD "request_unattributed")
  requestedFields := input.fields
  requestedRows := input.requestedRows
  runId := input.runId
  timeRange := input.timeRange
  workspaceId := input.workspaceId

def exportScopeGranted (scopes : Option (List String)) : Bool :=
  (scopes.getD []).contains "exports.read"

def createRestrictedExportPlan (dateParse : String → Option Int) (input : RestrictedExportPlanInput)
    (policy : DataAccessPolicy) : RestrictedExportPlan :=
  let requestId := input.requestId.getD "request_unattributed"
  let format := normalizeRestrictedExportFormat (input.format.getD "csv")
  let scopeGranted := exportScopeGranted input.scopes
  if format = none then
    createRestrictedExportPlanResult
      { dataset := input.dataset
        format := format
        maxRows := policy.maxRows
        requestId := requestId
        requestedRows := input.requestedRows
        rightsPolicyVersion := policy.rightsPolicyVersion
        scopeGranted := scopeGranted
        servedRows := .zero
        status := .blockedUnsupportedFormat }
  else if !scopeGranted then
    createRestrictedExportPlanResult
      { dataset := input.dataset
        format := format
        maxRows := policy.maxRows
        requestId := requestId
        requestedRows := input.requestedRows
        rightsPolicyVersion := policy.rightsPolicyVersion
        scopeGranted := scopeGranted
        servedRows := .zero
        status := .blockedMissingScope }
  else
    let decision := evaluateDataAccessRequest dateParse (exportRequestOf input) policy
    createRestrictedExportPlanResult
      { dataset := input.dataset
        decision := some decision
        format := format
        maxRows := decision.limits.maxRows
        requestId := requestId
        requestedRows := input.requestedRows
        rightsPolicyVersion := decision.rightsPolicyVersion
        scopeGranted := scopeGranted
        servedRows := decision.limits.servedRows
        status :=
          if decision.error = none ∧ decision.allowedFields ≠ [] then .plannedNoWrite
          else .blockedGatewayDenied
        workspaceId := input.workspaceId }

section Facts

variable {dateParse : String → Option Int}
variable {request : DataAccessRequest}
variable {input : RestrictedExportPlanInput}
variable {policy : DataAccessPolicy}
variable {field : String}

theorem decision_served_iff :
    (evaluateDataAccessRequest dateParse request policy).error = none ∧
        (evaluateDataAccessRequest dateParse request policy).allowedFields ≠ [] ↔
      (evaluateDataAccessRequest dateParse request policy).status.isAllowed := by
  have herror : (evaluateDataAccessRequest dateParse request policy).error =
      ((getQualityError request.qualityState).or
        (limitErrorOf dateParse request policy)).or
          (getRightsError (getDecisionStatus (fieldDecisionOf dateParse request policy))) := rfl
  rw [decision_isAllowed_iff, herror, decision_allowedFields]
  by_cases hquality : request.qualityState.isBlocked
  · simp [hquality]
  rw [← allowedFields_ne_nil, getQualityError, if_neg hquality, if_neg hquality, Option.none_or]
  cases limitErrorOf dateParse request policy with
  | some error => simp
  | none =>
    rw [Option.none_or, getRightsError, getDecisionStatus]
    by_cases hempty : (fieldDecisionOf dateParse request policy).allowedFields = []
    · simp [hempty]
    · by_cases hdenied : (fieldDecisionOf dateParse request policy).deniedFields = [] <;>
        simp [hempty, hdenied, hquality]

def RestrictedExportPlan.allowedFields (plan : RestrictedExportPlan) : List String :=
  (plan.gatewayDecision.map ExportGatewayDecision.allowedFields).getD []

def ExportAsked (input : RestrictedExportPlanInput) : Prop :=
  normalizeRestrictedExportFormat (input.format.getD "csv") ≠ none ∧
    exportScopeGranted input.scopes = true

theorem mem_exportPlan_allowedFields :
    field ∈ (createRestrictedExportPlan dateParse input policy).allowedFields ↔
      ExportAsked input ∧
        field ∈ (evaluateDataAccessRequest dateParse (exportRequestOf input)
          policy).allowedFields := by
  rw [createRestrictedExportPlan, ExportAsked, RestrictedExportPlan.allowedFields]
  dsimp only
  split
  next hformat => simp [hformat, createRestrictedExportPlanResult]
  next hformat =>
    split
    next hscope => simp_all [createRestrictedExportPlanResult]
    next hscope => simp_all [createRestrictedExportPlanResult]

theorem exportPlan_planned_iff :
    (createRestrictedExportPlan dateParse input policy).status = .plannedNoWrite ↔
      ExportAsked input ∧
        (evaluateDataAccessRequest dateParse (exportRequestOf input)
          policy).status.isAllowed := by
  rw [createRestrictedExportPlan, ExportAsked, ← decision_served_iff]
  dsimp only
  split
  next hformat => simp [hformat, createRestrictedExportPlanResult]
  next hformat =>
    split
    next hscope => simp_all [createRestrictedExportPlanResult]
    next hscope => simp_all [createRestrictedExportPlanResult]

end Facts

end Aiphabee.DataAccess
