import Aiphabee.DataAccess.Gateway

/-!
# The policy of entitlement rows

The rows of three tables are compiled to a policy: the data entitlements say what may
be read on a channel, the workspace entitlements who may read it and when, and the
subscriptions on which plan.  A workspace entitlement is joined to its data
entitlement and to its subscription by identifiers.
-/

namespace Aiphabee.DataAccess

variable (dateParse : String → Option Int)

/-- What may be read of a dataset on a channel. -/
structure DataEntitlementRow where
  channel : DataAccessChannel
  dataset : String
  entitlementId : String
  exportAllowed : Bool
  fieldPattern : String
  rightsPolicyVersion : String
  sourceRecordId : String
  status : DataAccessFieldStatus
  timeRangeDays : Option JsNumber := none
deriving DecidableEq

/-- An entitlement given to a workspace, with a subscription or without. -/
structure WorkspaceEntitlementRow where
  entitlementId : String
  sourceRecordId : String
  status : DataAccessFieldStatus
  subscriptionId : Option String := none
  validFrom : String
  validTo : Option String := none
  workspaceEntitlementId : String
  workspaceId : String

inductive BillingState
  | active
  | canceled
  | gracePeriod
  | paused
  | trialing
deriving DecidableEq

structure WorkspaceSubscriptionRow where
  billingState : BillingState
  planCode : String
  subscriptionId : String
  validFrom : String
  validTo : Option String := none
  workspaceId : String
deriving DecidableEq

structure EntitlementPolicySourceInput where
  asOf : String
  dataEntitlements : List DataEntitlementRow
  subscriptionRows : Option (List WorkspaceSubscriptionRow) := none
  workspaceEntitlements : List WorkspaceEntitlementRow

/-- The end is outside; an interval with a date that cannot be read is empty. -/
def isWithinInterval (asOf validFrom : String) (validTo : Option String) : Bool :=
  match dateParse asOf, dateParse validFrom with
  | some asOfTime, some fromTime =>
    fromTime ≤ asOfTime &&
      validTo.all fun text => (dateParse text).any fun toTime => asOfTime < toTime
  | _, _ => false

def isWorkspaceEntitlementActive (entitlement : WorkspaceEntitlementRow) (asOf : String) : Bool :=
  isWithinInterval dateParse asOf entitlement.validFrom entitlement.validTo

def isSubscriptionActive (subscription : WorkspaceSubscriptionRow) (asOf : String) : Bool :=
  subscription.billingState ∈ [BillingState.active, .gracePeriod, .trialing] &&
    isWithinInterval dateParse asOf subscription.validFrom subscription.validTo

section Joins

/-- The entry of a map filled row by row, where a later row replaces an earlier one. -/
def lastWithKey {Row : Type} (key : Row → String) (rows : List Row) (name : String) : Option Row :=
  rows.reverse.find? fun row => key row = name

variable (input : EntitlementPolicySourceInput)

def activeSubscriptions : List WorkspaceSubscriptionRow :=
  (input.subscriptionRows.getD []).filter fun subscription =>
    isSubscriptionActive dateParse subscription input.asOf

def activeWorkspaceEntitlements : List WorkspaceEntitlementRow :=
  input.workspaceEntitlements.filter fun entitlement =>
    isWorkspaceEntitlementActive dateParse entitlement input.asOf

def entitlementById (entitlementId : String) : Option DataEntitlementRow :=
  lastWithKey DataEntitlementRow.entitlementId input.dataEntitlements entitlementId

/-- The lookup is by id alone: it does not compare the workspaces. -/
def subscriptionById (subscriptionId : String) : Option WorkspaceSubscriptionRow :=
  lastWithKey WorkspaceSubscriptionRow.subscriptionId (activeSubscriptions dateParse input)
    subscriptionId

/-- No subscription stands for every plan; one that is not active matches none. -/
def getPlanCode (entitlement : WorkspaceEntitlementRow) : String :=
  match entitlement.subscriptionId with
  | none => "*"
  | some subscriptionId =>
    ((subscriptionById dateParse input subscriptionId).map
      WorkspaceSubscriptionRow.planCode).getD "subscription_unresolved"

/-- Either row can block, and both have to approve. -/
def combineEntitlementStatuses (dataStatus workspaceStatus : DataAccessFieldStatus) :
    DataAccessFieldStatus :=
  if dataStatus = .blocked ∨ workspaceStatus = .blocked then .blocked
  else if dataStatus = .approved ∧ workspaceStatus = .approved then .approved
  else .defaultDeny

def entitlementPolicyOf (workspaceEntitlement : WorkspaceEntitlementRow)
    (dataEntitlement : DataEntitlementRow) : DataAccessEntitlementPolicy where
  channel := dataEntitlement.channel
  dataset := dataEntitlement.dataset
  exportAllowed := dataEntitlement.exportAllowed
  fieldPattern := dataEntitlement.fieldPattern
  maxWindowDays := dataEntitlement.timeRangeDays
  plan := getPlanCode dateParse input workspaceEntitlement
  status := combineEntitlementStatuses dataEntitlement.status workspaceEntitlement.status
  workspaceId := workspaceEntitlement.workspaceId

/-- A workspace entitlement without its data entitlement gives no entry. -/
def entitlementPoliciesOf : List DataAccessEntitlementPolicy :=
  (activeWorkspaceEntitlements dateParse input).filterMap fun workspaceEntitlement =>
    (entitlementById input workspaceEntitlement.entitlementId).map
      (entitlementPolicyOf dateParse input workspaceEntitlement)

def activeDataEntitlements : List DataEntitlementRow :=
  input.dataEntitlements.filter fun entitlement =>
    entitlement.entitlementId ∈
      (activeWorkspaceEntitlements dateParse input).map WorkspaceEntitlementRow.entitlementId

def fieldPolicyOf (entitlement : DataEntitlementRow) : DataAccessFieldPolicy where
  channel := entitlement.channel
  dataset := some entitlement.dataset
  field := entitlement.fieldPattern
  status := entitlement.status

end Joins

structure EntitlementRowCounts where
  dataEntitlements : Nat
  subscriptionRows : Nat
  workspaceEntitlements : Nat

structure EntitlementPolicySourcePlan where
  liveDbReads : Bool := false
  partnerRightsMatrixLoaded : Bool := false
  policy : DataAccessPolicy
  rowCounts : EntitlementRowCounts
  sourceRecords : List String
  sqlEmitted : Bool := false
  tables : List String :=
    ["aiphabee_governance.data_entitlement", "aiphabee_governance.workspace_entitlement",
      "platform.workspace_subscription"]

/-- A channel is approved where an approved entry names it. -/
def createPolicyFromEntitlementRows (dateParse : String → Option Int)
    (input : EntitlementPolicySourceInput) : EntitlementPolicySourcePlan :=
  let activeRows := activeWorkspaceEntitlements dateParse input
  let entitlementPolicies := entitlementPoliciesOf dateParse input
  let dataRows := activeDataEntitlements dateParse input
  let fieldPolicies := dataRows.map fieldPolicyOf
  let approvedChannels :=
    ((fieldPolicies.filter fun entry => entry.status = .approved).map
      DataAccessFieldPolicy.channel) ++
    ((entitlementPolicies.filter fun entry => entry.status = .approved).map
      DataAccessEntitlementPolicy.channel)
  let rightsPolicyVersions :=
    JsString.sort (dataRows.map DataEntitlementRow.rightsPolicyVersion).eraseDups
  { policy :=
      { defaultDataAccessPolicy with
        channels := fun channel =>
          if channel ∈ approvedChannels then .approved else .defaultDeny
        entitlementPolicies := entitlementPolicies
        fieldPolicies := fieldPolicies
        methodologyVersion := dataAccessGatewayVersion
        rightsPolicyVersion :=
          if rightsPolicyVersions = [] then defaultDataAccessPolicy.rightsPolicyVersion
          else "+".intercalate rightsPolicyVersions }
    rowCounts :=
      { dataEntitlements := input.dataEntitlements.length
        subscriptionRows := (input.subscriptionRows.getD []).length
        workspaceEntitlements := input.workspaceEntitlements.length }
    sourceRecords := JsString.sort
      (dataRows.map DataEntitlementRow.sourceRecordId ++
        activeRows.map WorkspaceEntitlementRow.sourceRecordId) }

end Aiphabee.DataAccess
