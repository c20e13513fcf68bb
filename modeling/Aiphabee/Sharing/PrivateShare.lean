import Aiphabee.DataAccess.RestrictedExport
import Aiphabee.Text.JsDate

/-!
# Private share links

A private share puts the fields of a creator to a recipient.  Both parties ask the
gateway for an export of the same fields, each for its own workspace, plan and scopes,
and the share keeps the fields that both are allowed.

How the platform parses dates is a parameter.
-/

namespace Aiphabee.PrivateSharing

open ServingStore (TimeRange)
open DataAccess

section Plans

def privateSharingRequiredScope : String := "exports.read"
def privateShareDefaultExpiryHours : JsNumber := .ofNat 72
def privateShareMaxExpiryHours : JsNumber := .ofNat 168

inductive PrivateShareLinkStatus
  | blockedCreatorGatewayDenied
  | blockedCreatorMissingScope
  | blockedInvalidExpiry
  | blockedMissingContext
  | blockedRecipientGatewayDenied
  | blockedRecipientMissingScope
  | plannedNoWrite
deriving DecidableEq

structure PrivateShareLinkPlanInput where
  asOf : Option String := none
  creatorAccountId : Option String := none
  creatorPlan : Option String := none
  creatorScopes : Option (List String) := none
  creatorWorkspaceId : Option String := none
  dataset : Option String := none
  expiresInHours : Option JsNumber := none
  fields : Option (List String) := none
  qualityState : Option DataQualityState := none
  recipientAccountId : Option String := none
  recipientPlan : Option String := none
  recipientScopes : Option (List String) := none
  recipientWorkspaceId : Option String := none
  requestId : Option String := none
  requestedRows : Option JsNumber := none
  runId : Option String := none
  timeRange : Option TimeRange := none

inductive ShareGatewayStatus
  | notEvaluated
  | evaluated (status : RestrictedExportStatus)

structure PrivateShareGatewaySummary where
  allowedFields : List String
  deniedFields : List DeniedField
  errorCode : Option GatewayErrorCode
  rightsPolicyVersion : String
  scopeGranted : Bool
  servedRows : JsNumber
  status : ShareGatewayStatus

inductive ShareReleaseState
  | blocked
  | plannedPrivateShare

structure ShareAccessPolicy where
  creatorAllowedFields : List String
  effectiveFields : List String
  recipientAllowedFields : List String
  recipientRightsPolicyVersion : String
  redactedFields : List String
  requestedFields : List String
  releaseState : ShareReleaseState

structure PrivateShareLinkPlan where
  accessPolicy : ShareAccessPolicy
  dataset : String
  expiresAt : String
  creatorDecision : PrivateShareGatewaySummary
  recipientDecision : PrivateShareGatewaySummary
  requestId : String
  requestedRows : JsNumber
  creatorScopeGranted : Bool
  recipientScopeGranted : Bool
  status : PrivateShareLinkStatus
  usageRows : Nat
  expiryWithinLimit : Bool
  requiredContextPresent : Bool
  watermark : String

def normalizeText (value : Option String) : Option String :=
  value.bind fun value => if JsString.trim value = "" then none else some (JsString.trim value)

def normalizeFields (fields : Option (List String)) : List String :=
  let normalized := ((fields.getD ["synthetic_profile.company_name"]).map JsString.trim).filter
    fun field => field ≠ ""
  JsString.sort normalized.eraseDups

def normalizePositiveInteger (value : Option JsNumber) : Option JsNumber :=
  value.bind fun number =>
    match number with
    | .finite amount => if amount.den = 1 ∧ 0 ≤ amount then some number else none
    | _ => none

def normalizeAsOf (dateParse : String → Option Int) (value : Option String) : String :=
  (value.bind fun value =>
    JsDate.toISOString ((dateParse value).bind JsDate.ofMilliseconds)).getD
      "1970-01-01T00:00:00.000Z"

/-- The instant some hours after another; the program fails where it is no date. -/
def expiryOf (dateParse : String → Option Int) (asOf : String) : JsNumber → Option String
  | .finite hours =>
    let time := (dateParse asOf).map fun start => (start : ℚ) + hours * 60 * 60 * 1000
    JsDate.toISOString (time.bind fun time =>
      JsDate.ofMilliseconds (Int.tdiv time.num time.den))
  | _ => none

/-- One of the two who share: whose fields, or to whom. -/
structure ShareParty where
  accountId : Option String
  plan : Option String
  scopes : Option (List String)
  workspaceId : Option String

def PrivateShareLinkPlanInput.creator (input : PrivateShareLinkPlanInput) : ShareParty where
  accountId := input.creatorAccountId
  plan := input.creatorPlan
  scopes := input.creatorScopes
  workspaceId := input.creatorWorkspaceId

def PrivateShareLinkPlanInput.recipient (input : PrivateShareLinkPlanInput) : ShareParty where
  accountId := input.recipientAccountId
  plan := input.recipientPlan
  scopes := input.recipientScopes
  workspaceId := input.recipientWorkspaceId

variable (dateParse : String → Option Int)
variable (input : PrivateShareLinkPlanInput)
variable (policy : DataAccessPolicy)

def expiresInHours : JsNumber :=
  input.expiresInHours.getD privateShareDefaultExpiryHours

def expiryWithinLimit : Bool :=
  match expiresInHours input with
  | .finite hours =>
    JsNumber.lt .zero (.finite hours) &&
      JsNumber.le (.finite hours) privateShareMaxExpiryHours
  | _ => false

def requiredContextPresent : Bool :=
  (normalizeText input.creatorAccountId).isSome &&
  (normalizeText input.creatorWorkspaceId).isSome &&
    (normalizeText input.recipientAccountId).isSome &&
      (normalizeText input.recipientWorkspaceId).isSome

def scopeGranted (party : ShareParty) : Bool :=
  (party.scopes.getD []).contains privateSharingRequiredScope

def exportInputOf (party : ShareParty) : RestrictedExportPlanInput where
  accountId := party.accountId
  dataset := (normalizeText input.dataset).getD "synthetic_profile"
  fields := normalizeFields input.fields
  format := some "pdf"
  plan := (normalizeText party.plan).getD "pro"
  qualityState := some (input.qualityState.getD .PASS)
  requestId := some ((normalizeText input.requestId).getD "request_unattributed")
  requestedRows := (normalizePositiveInteger input.requestedRows).getD (.ofNat 1)
  runId := input.runId
  scopes := some (party.scopes.getD [])
  timeRange := input.timeRange
  workspaceId := party.workspaceId

def partyPlan (party : ShareParty) : Option RestrictedExportPlan :=
  if requiredContextPresent input && expiryWithinLimit input then
    some (createRestrictedExportPlan dateParse (exportInputOf input party) policy)
  else
    none

def creatorPlan : Option RestrictedExportPlan :=
  partyPlan dateParse input policy input.creator

def recipientPlan : Option RestrictedExportPlan :=
  partyPlan dateParse input policy input.recipient

def allowedFieldsOf (plan : Option RestrictedExportPlan) : List String :=
  (plan.map RestrictedExportPlan.allowedFields).getD []

def effectiveFields : List String :=
  (allowedFieldsOf (creatorPlan dateParse input policy)).filter fun field =>
    (allowedFieldsOf (recipientPlan dateParse input policy)).contains field

def getPrivateShareStatus : PrivateShareLinkStatus :=
  if !requiredContextPresent input then
    .blockedMissingContext
  else if !expiryWithinLimit input then
    .blockedInvalidExpiry
  else if !scopeGranted input.creator then
    .blockedCreatorMissingScope
  else if !scopeGranted input.recipient then
    .blockedRecipientMissingScope
  else if (creatorPlan dateParse input policy).map RestrictedExportPlan.status ≠
      some .plannedNoWrite then
    .blockedCreatorGatewayDenied
  else if (recipientPlan dateParse input policy).map RestrictedExportPlan.status ≠
      some .plannedNoWrite ∨ effectiveFields dateParse input policy = [] then
    .blockedRecipientGatewayDenied
  else
    .plannedNoWrite

def summarizeGatewayPlan (plan : Option RestrictedExportPlan) (scopeGranted : Bool) :
    PrivateShareGatewaySummary :=
  match plan with
  | none =>
    { allowedFields := []
      deniedFields := []
      errorCode := none
      rightsPolicyVersion := policy.rightsPolicyVersion
      scopeGranted := scopeGranted
      servedRows := .zero
      status := .notEvaluated }
  | some plan =>
    { allowedFields := plan.allowedFields
      deniedFields := (plan.gatewayDecision.map ExportGatewayDecision.deniedFields).getD []
      errorCode := plan.gatewayDecision.bind ExportGatewayDecision.errorCode
      rightsPolicyVersion :=
        (plan.gatewayDecision.map ExportGatewayDecision.rightsPolicyVersion).getD
          policy.rightsPolicyVersion
      scopeGranted := plan.scopeGranted
      servedRows := plan.rowPolicy.servedRows
      status := .evaluated plan.status }

def recipientRightsPolicyVersion : String :=
  (((recipientPlan dateParse input policy).bind RestrictedExportPlan.gatewayDecision).map
    ExportGatewayDecision.rightsPolicyVersion).getD policy.rightsPolicyVersion

/-- When the share expires; without a valid term it is at once. -/
def expiresAt : Option String :=
  let asOf := normalizeAsOf dateParse input.asOf
  if expiryWithinLimit input then expiryOf dateParse asOf (expiresInHours input) else some asOf

/-- The share of an input under a policy; `none` where the date of its end fails. -/
def createPrivateShareLinkPlan : Option PrivateShareLinkPlan :=
  (expiresAt dateParse input).map fun expiresAt =>
    let requestId := (normalizeText input.requestId).getD "request_unattributed"
    let asOf := normalizeAsOf dateParse input.asOf
    let dataset := (normalizeText input.dataset).getD "synthetic_profile"
    let requestedFields := normalizeFields input.fields
    let effective := effectiveFields dateParse input policy
    let status := getPrivateShareStatus dateParse input policy
    let rightsVersion := recipientRightsPolicyVersion dateParse input policy
    { accessPolicy :=
        { creatorAllowedFields := allowedFieldsOf (creatorPlan dateParse input policy)
          effectiveFields := effective
          recipientAllowedFields := allowedFieldsOf (recipientPlan dateParse input policy)
          recipientRightsPolicyVersion := rightsVersion
          redactedFields := requestedFields.filter fun field => !effective.contains field
          requestedFields := requestedFields
          releaseState := if status = .plannedNoWrite then .plannedPrivateShare else .blocked }
      dataset := dataset
      expiresAt := expiresAt
      creatorDecision := summarizeGatewayPlan policy (creatorPlan dateParse input policy)
        (scopeGranted input.creator)
      recipientDecision := summarizeGatewayPlan policy (recipientPlan dateParse input policy)
        (scopeGranted input.recipient)
      requestId := requestId
      requestedRows := (normalizePositiveInteger input.requestedRows).getD (.ofNat 1)
      creatorScopeGranted := scopeGranted input.creator
      recipientScopeGranted := scopeGranted input.recipient
      status := status
      usageRows := if status = .plannedNoWrite then effective.length else 0
      expiryWithinLimit := expiryWithinLimit input
      requiredContextPresent := requiredContextPresent input
      watermark := ";".intercalate
        ["request_id=" ++ requestId, "share_ref=planned_no_write",
          "creator_workspace_id=" ++ input.creatorWorkspaceId.getD "missing",
          "recipient_workspace_id=" ++ input.recipientWorkspaceId.getD "missing",
          "dataset=" ++ dataset, "rights_policy_version=" ++ rightsVersion, "as_of=" ++ asOf] }

def syntheticShareEntitlement (workspaceId : String) : DataAccessEntitlementPolicy where
  channel := .export
  dataset := "synthetic_profile"
  exportAllowed := true
  fieldPattern := "synthetic_profile.company_name"
  maxWindowDays := some (.ofNat 31)
  plan := "pro"
  status := .approved
  workspaceId := workspaceId

def createSyntheticPrivateSharePolicy (creatorWorkspaceId recipientWorkspaceId : String) :
    DataAccessPolicy :=
  { defaultDataAccessPolicy with
    channels := fun channel =>
      if channel = .export then .approved else defaultDataAccessPolicy.channels channel
    entitlementPolicies := [creatorWorkspaceId, recipientWorkspaceId].map syntheticShareEntitlement
    fieldPolicies :=
      [{ channel := .export
         dataset := some "synthetic_profile"
         field := "synthetic_profile.company_name"
         status := .approved },
       { channel := .export
         dataset := some "synthetic_profile"
         field := "synthetic_profile.revenue"
         status := .defaultDeny }]
    maxRows := .ofNat 100
    rightsPolicyVersion := "synthetic-private-share-policy-v0" }

end Plans

end Aiphabee.PrivateSharing
