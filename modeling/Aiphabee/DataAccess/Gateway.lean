import Aiphabee.Serving.ReadPipeline
import Aiphabee.Text.NumberText
import Aiphabee.Usage.UsageLedgerPlans

/-!
# The data access gateway

A request names fields of a dataset.  The gateway decides field by field what the
policy lets through, bounds the rows and the time window, and plans the read of the
serving store and the entry of the usage ledger.

How the platform parses dates is a parameter.
-/

namespace Aiphabee.DataAccess

open ServingStore (TimeRange normalizeFields)

abbrev DataAccessChannel := PartnerReconciliation.UsageLedgerChannel
abbrev DataQualityState := ServingStore.ServingQualityState
abbrev DataAccessDecisionStatus := ServingStore.ServingReadGatewayStatus

inductive DataAccessFieldStatus
  | approved
  | blocked
  | defaultDeny
deriving DecidableEq

/-- An entry without a dataset or a plan applies to all of them. -/
structure DataAccessFieldPolicy where
  channel : DataAccessChannel
  dataset : Option String := none
  field : String
  plan : Option String := none
  status : DataAccessFieldStatus

/-- What a workspace may read, on one plan or on every plan (`*`). -/
structure DataAccessEntitlementPolicy where
  channel : DataAccessChannel
  dataset : String
  exportAllowed : Bool
  fieldPattern : String
  maxWindowDays : Option JsNumber := none
  plan : String
  status : DataAccessFieldStatus
  workspaceId : String
deriving DecidableEq

structure DataAccessPolicy where
  channels : DataAccessChannel → DataAccessFieldStatus
  entitlementPolicies : List DataAccessEntitlementPolicy
  fieldPolicies : List DataAccessFieldPolicy
  maxRows : JsNumber
  maxWindowDays : JsNumber
  methodologyVersion : String
  rightsPolicyVersion : String

/-- A field that no entry names is denied under every policy. -/
def DataAccessPolicy.defaultFieldStatus (_ : DataAccessPolicy) : DataAccessFieldStatus :=
  .defaultDeny

def dataAccessGatewayVersion : String :=
  "2026-06-20.phase1.serving-result-envelope-scaffold.v0"

def defaultDataAccessPolicy : DataAccessPolicy where
  channels _ := .defaultDeny
  entitlementPolicies := []
  fieldPolicies := []
  maxRows := .ofNat 500
  maxWindowDays := .ofNat 366
  methodologyVersion := dataAccessGatewayVersion
  rightsPolicyVersion := "gate0-default-deny-v0"

def createSyntheticApprovedPolicy : DataAccessPolicy :=
  { defaultDataAccessPolicy with
    channels := fun channel =>
      if channel = .web then .approved else defaultDataAccessPolicy.channels channel
    fieldPolicies :=
      [{ channel := .web, field := "synthetic_profile.company_name", status := .approved },
        { channel := .web, field := "synthetic_quote.close", status := .defaultDeny }]
    rightsPolicyVersion := "synthetic-policy-v0" }

structure DataAccessRequest where
  accountId : Option String := none
  channel : DataAccessChannel
  dataset : String
  exportRequested : Bool := false
  membershipId : Option String := none
  occurredAt : Option String := none
  plan : String
  qualityState : DataQualityState
  requestId : Option String := none
  requestedFields : List String
  requestedRows : JsNumber
  runId : Option String := none
  subscriptionId : Option String := none
  timeRange : Option TimeRange := none
  workspaceId : Option String := none

/-- The days from one instant to another, both ends counted. -/
def windowDays (start stop : Int) : JsNumber :=
  (((JsNumber.finite stop).sub (.finite start)).overCount 86400000).floor.add (.ofNat 1)

def calculateWindowDays (dateParse : String → Option Int) (timeRange : Option TimeRange) :
    Option JsNumber :=
  match timeRange with
  | none => none
  | some range =>
    match dateParse (range.start ++ "T00:00:00Z"), dateParse (range.stop ++ "T00:00:00Z") with
    | some start, some stop => some (windowDays start stop)
    | _, _ => none

inductive DataAccessDeniedReason
  | channelBlocked
  | exportBlocked
  | fieldBlocked
  | fieldDefaultDeny
  | timeRangeBlocked
  | workspaceEntitlementBlocked
  | workspaceEntitlementDefaultDeny
deriving DecidableEq

structure DeniedField where
  field : String
  reason : DataAccessDeniedReason

structure FieldDecision where
  allowedFields : List String
  deniedFields : List DeniedField

/-- A pattern is a field, a group of fields that ends in `.*`, or `*`. -/
def matchesFieldPattern (pattern field : String) : Bool :=
  if pattern = "*" then
    true
  else if ['.', '*'].isSuffixOf pattern.toList then
    pattern.toList.dropLast.isPrefixOf field.toList
  else
    pattern = field

def DataAccessFieldPolicy.appliesTo (entry : DataAccessFieldPolicy) (request : DataAccessRequest)
    (field : String) : Bool :=
  entry.channel = request.channel &&
    matchesFieldPattern entry.field field &&
    entry.dataset.all (· = request.dataset) &&
    entry.plan.all (· = request.plan)

variable (request : DataAccessRequest)

/-- A block wins over an approval, whichever comes first. -/
def getFieldPolicy (field : String) (policy : DataAccessPolicy) : Option DataAccessFieldPolicy :=
  let matchingPolicies := policy.fieldPolicies.filter fun entry => entry.appliesTo request field
  ((matchingPolicies.find? fun entry => entry.status = .blocked).or
    (matchingPolicies.find? fun entry => entry.status = .approved)).or matchingPolicies.head?

def DataAccessEntitlementPolicy.appliesTo (entitlement : DataAccessEntitlementPolicy)
    (request : DataAccessRequest) (workspaceId field : String) : Bool :=
  entitlement.workspaceId = workspaceId &&
    (entitlement.plan = "*" || entitlement.plan = request.plan) &&
    entitlement.dataset = request.dataset &&
    entitlement.channel = request.channel &&
    matchesFieldPattern entitlement.fieldPattern field

variable (policy : DataAccessPolicy)

def matchingEntitlements (workspaceId field : String) : List DataAccessEntitlementPolicy :=
  policy.entitlementPolicies.filter fun entitlement =>
    entitlement.appliesTo request workspaceId field

/-- The first approved entitlement decides for all of them. -/
def approvedEntitlement (workspaceId field : String) : Option DataAccessEntitlementPolicy :=
  (matchingEntitlements request policy workspaceId field).find? fun entitlement =>
    entitlement.status = .approved

def exceedsWindow (timeWindowDays maxWindowDays : Option JsNumber) : Bool :=
  match timeWindowDays, maxWindowDays with
  | some days, some limit => JsNumber.lt limit days
  | _, _ => false

/-- A policy without entitlements leaves the decision to its field policies. -/
def evaluateWorkspaceEntitlement (field : String) (policy : DataAccessPolicy)
    (timeWindowDays : Option JsNumber) : Option DataAccessDeniedReason :=
  if policy.entitlementPolicies = [] then
    none
  else
    match request.workspaceId with
    | none => some .workspaceEntitlementDefaultDeny
    | some workspaceId =>
      if workspaceId = "" then
        some .workspaceEntitlementDefaultDeny
      else if (matchingEntitlements request policy workspaceId field).any
          fun entitlement => entitlement.status = .blocked then
        some .workspaceEntitlementBlocked
      else
        match approvedEntitlement request policy workspaceId field with
        | none => some .workspaceEntitlementDefaultDeny
        | some entitlement =>
          if request.exportRequested && !entitlement.exportAllowed then
            some .exportBlocked
          else if exceedsWindow timeWindowDays entitlement.maxWindowDays then
            some .timeRangeBlocked
          else
            none

def deniedReason (field : String) (policy : DataAccessPolicy) (timeWindowDays : Option JsNumber) :
    Option DataAccessDeniedReason :=
  let fieldStatus := ((getFieldPolicy request field policy).map
    DataAccessFieldPolicy.status).getD policy.defaultFieldStatus
  if fieldStatus = .approved then
    evaluateWorkspaceEntitlement request field policy timeWindowDays
  else
    some (if fieldStatus = .blocked then .fieldBlocked else .fieldDefaultDeny)

def FieldDecision.push (decision : FieldDecision) (field : String) :
    Option DataAccessDeniedReason → FieldDecision
  | none => { decision with allowedFields := decision.allowedFields ++ [field] }
  | some reason => { decision with deniedFields := decision.deniedFields ++ [⟨field, reason⟩] }

/-- A channel that is not approved denies every field, for that reason alone. -/
def evaluateFields (requestedFields : List String) (policy : DataAccessPolicy)
    (timeWindowDays : Option JsNumber) : FieldDecision :=
  if policy.channels request.channel = .approved then
    requestedFields.foldl
      (fun decision field =>
        decision.push field (deniedReason request field policy timeWindowDays))
      { allowedFields := [], deniedFields := [] }
  else
    { allowedFields := []
      deniedFields := requestedFields.map fun field => ⟨field, .channelBlocked⟩ }

inductive GatewayErrorCode
  | dataNotLicensed
  | dataQualityHold
  | outOfRange
  | tooManyRows

def GatewayErrorCode.text : GatewayErrorCode → String
  | .dataNotLicensed => "DATA_NOT_LICENSED"
  | .dataQualityHold => "DATA_QUALITY_HOLD"
  | .outOfRange => "OUT_OF_RANGE"
  | .tooManyRows => "TOO_MANY_ROWS"

def GatewayErrorCode.message : GatewayErrorCode → String
  | .dataNotLicensed => "requested fields are not licensed for this channel and policy"
  | .dataQualityHold => "requested data is isolated by quality rules"
  | .outOfRange => "requested time range exceeds gateway limit"
  | .tooManyRows => "requested row count exceeds gateway limit"

def getDecisionStatus (decision : FieldDecision) : DataAccessDecisionStatus :=
  if decision.allowedFields = [] then .deny
  else if decision.deniedFields ≠ [] then .allow_with_redactions
  else .allow

def getRightsError (status : DataAccessDecisionStatus) : Option GatewayErrorCode :=
  if status = .deny then some .dataNotLicensed else none

def getQualityError (qualityState : DataQualityState) : Option GatewayErrorCode :=
  if qualityState.isBlocked then some .dataQualityHold else none

/-- Too many rows are reported before too long a window. -/
def getLimitError (timeWindowDays : Option JsNumber) : Option GatewayErrorCode :=
  if JsNumber.lt policy.maxRows request.requestedRows then
    some .tooManyRows
  else if exceedsWindow timeWindowDays (some policy.maxWindowDays) then
    some .outOfRange
  else
    none

def getWarnings (qualityState : DataQualityState) (deniedFields : List DeniedField) : List String :=
  (if qualityState = .WARN then ["quality_state_warn"] else []) ++
    if deniedFields = [] then [] else ["field_redactions_applied"]

structure UsageSummary where
  cached : Bool
  credits : JsNumber
  rows : JsNumber

structure DecisionLimits where
  maxRows : JsNumber
  maxWindowDays : JsNumber
  requestedRows : JsNumber
  servedRows : JsNumber
  timeWindowDays : Option JsNumber

inductive DataAccessServingResultStatus
  | resultBlocked
  | resultDeferred

structure DataAccessServingResult where
  allowedFields : List String
  blockedReason : Option String
  deferredReason : Option String
  deniedFields : List DeniedField
  requestedFields : List String
  rowCount : Nat := 0
  servedRows : Nat := 0
  sqlExecuted : Bool := false
  sqlTextAccepted : Bool
  statementId : String
  status : DataAccessServingResultStatus
  usage : UsageSummary
  warnings : List String

structure DataAccessDecision where
  allowedFields : List String
  cacheKey : String
  deniedFields : List DeniedField
  error : Option GatewayErrorCode
  limits : DecisionLimits
  methodologyVersion : String
  qualityState : DataQualityState
  rightsPolicyVersion : String
  servingExecution : ServingStore.ServingExecutionAdapterPlan
  servingQuery : ServingStore.ServingQueryPlan
  servingRead : ServingStore.ServingReadPlan
  servingResult : DataAccessServingResult
  servingSqlDescriptor : ServingStore.ServingSqlDescriptor
  servingSqlText : ServingStore.ServingSqlTextPlan
  status : DataAccessDecisionStatus
  usage : UsageSummary
  usageLedger : UsageLedger.UsageLedgerEventPlan
  warnings : List String

/-- The parts of a request and of a policy that the answer is cached by. -/
def createDataAccessCacheKey (allowedFields : List String) : String :=
  let fields := ",".intercalate (JsString.sort allowedFields)
  "|".intercalate
    ["dag", "dataset=" ++ request.dataset, "channel=" ++ request.channel.text,
      "plan=" ++ request.plan, "workspace=" ++ request.workspaceId.getD "none",
      "export=" ++ (if request.exportRequested then "true" else "false"),
      "fields=" ++ (if fields = "" then "none" else fields),
      "data_version=gateway-scaffold-v0", "rights=" ++ policy.rightsPolicyVersion,
      "methodology=" ++ policy.methodologyVersion,
      "from=" ++ (request.timeRange.map TimeRange.start).getD "none",
      "to=" ++ (request.timeRange.map TimeRange.stop).getD "none"]

def createDataAccessServingResult (allowedFields : List String) (deniedFields : List DeniedField)
    (requestedFields : List String) (servingExecution : ServingStore.ServingExecutionAdapterPlan)
    (usage : UsageSummary) (warnings : List String) : DataAccessServingResult where
  allowedFields := allowedFields
  blockedReason := servingExecution.blockedReason
  deferredReason := servingExecution.deferredReason
  deniedFields := deniedFields
  requestedFields := requestedFields
  sqlTextAccepted := servingExecution.sqlTextAccepted
  statementId := servingExecution.statementId
  status :=
    if servingExecution.status = .execution_deferred then .resultDeferred else .resultBlocked
  usage := usage
  warnings := warnings

def ledgerQualityState : DataQualityState → UsageLedger.UsageLedgerQualityState
  | .HOLD => .hold
  | .PASS => .pass
  | .REJECT_RAW => .rejectRaw
  | .WARN => .warn

/-- A request that is held, beyond a limit or without a field is served no row. -/
def servedRowsOf (limitError qualityError : Option GatewayErrorCode) (allowedFields : List String) :
    JsNumber :=
  if limitError.isSome ∨ qualityError.isSome ∨ allowedFields = [] then .zero
  else request.requestedRows.min policy.maxRows

/-- A quality hold is reported before a limit, and a limit before missing rights. -/
def evaluateDataAccessRequest (dateParse : String → Option Int) (request : DataAccessRequest)
    (policy : DataAccessPolicy) : DataAccessDecision :=
  let requestedFields := normalizeFields request.requestedFields
  let timeWindowDays := calculateWindowDays dateParse request.timeRange
  let limitError := getLimitError request policy timeWindowDays
  let qualityError := getQualityError request.qualityState
  let fieldDecision := evaluateFields request requestedFields policy timeWindowDays
  let servedRows :=
    servedRowsOf request policy limitError qualityError fieldDecision.allowedFields
  let status := getDecisionStatus fieldDecision
  let error := (qualityError.or limitError).or (getRightsError status)
  let finalStatus : DataAccessDecisionStatus :=
    if qualityError.isSome then .quality_hold else if error.isSome then .deny else status
  let finalAllowedFields :=
    if finalStatus = .quality_hold then [] else fieldDecision.allowedFields
  let servingRead := ServingStore.createServingReadPlan
    { allowedFields := finalAllowedFields
      dataVersion := "gateway-scaffold-v0"
      dataset := request.dataset
      errorCode := error.map GatewayErrorCode.text
      gatewayStatus := finalStatus
      maxRows := policy.maxRows
      methodologyVersion := policy.methodologyVersion
      qualityState := request.qualityState
      requestedFields := requestedFields
      requestedRows := request.requestedRows
      rightsPolicyVersion := policy.rightsPolicyVersion
      timeRange := request.timeRange }
  let servingQuery := ServingStore.createServingQueryPlan
    { readPlan := servingRead
      releaseState := if finalStatus.isAllowed then .released else .held
      rowCount := servedRows
      servingSnapshotId := "serving-snapshot-scaffold-v0"
      snapshotQualityState := request.qualityState }
  let servingSqlDescriptor := ServingStore.createServingSqlDescriptor servingQuery
  let servingSqlText := ServingStore.createServingSqlTextPlan servingSqlDescriptor
  let servingExecution := ServingStore.createServingExecutionAdapterPlan servingSqlText
  let warnings := getWarnings request.qualityState fieldDecision.deniedFields
  let usage : UsageSummary :=
    { cached := false
      credits := if JsNumber.lt .zero servedRows then .ofNat 1 else .zero
      rows := servedRows }
  { allowedFields := finalAllowedFields
    cacheKey := createDataAccessCacheKey request policy fieldDecision.allowedFields
    deniedFields := fieldDecision.deniedFields
    error := error
    limits :=
      { maxRows := policy.maxRows
        maxWindowDays := policy.maxWindowDays
        requestedRows := request.requestedRows
        servedRows := servedRows
        timeWindowDays := timeWindowDays }
    methodologyVersion := policy.methodologyVersion
    qualityState := request.qualityState
    rightsPolicyVersion := policy.rightsPolicyVersion
    servingExecution := servingExecution
    servingQuery := servingQuery
    servingRead := servingRead
    servingResult := createDataAccessServingResult finalAllowedFields fieldDecision.deniedFields
      requestedFields servingExecution usage warnings
    servingSqlDescriptor := servingSqlDescriptor
    servingSqlText := servingSqlText
    status := finalStatus
    usage := usage
    usageLedger := UsageLedger.createUsageLedgerEventPlan
      { accountId := request.accountId
        cached := usage.cached
        channel := request.channel
        credits := usage.credits
        dataVersion := "gateway-scaffold-v0"
        dataset := request.dataset
        errorCode := error.map GatewayErrorCode.text
        membershipId := request.membershipId
        meteredFields := .ofNat finalAllowedFields.length
        meteredRows := usage.rows
        methodologyVersion := policy.methodologyVersion
        occurredAt := request.occurredAt.getD "1970-01-01T00:00:00.000Z"
        qualityState := ledgerQualityState request.qualityState
        requestId := request.requestId.getD "request_unattributed"
        rightsPolicyVersion := policy.rightsPolicyVersion
        runId := request.runId
        sourceRecordId := "policy-evaluation"
        subscriptionId := request.subscriptionId
        workspaceId := request.workspaceId }
    warnings := warnings }

end Aiphabee.DataAccess
