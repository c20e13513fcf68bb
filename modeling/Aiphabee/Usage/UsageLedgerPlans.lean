import Aiphabee.Usage.PartnerReconciliation

/-!
# The plans of the usage ledger

A usage event is planned with its ledger entry, a high-cost tool call with the
reservation of its credits, their pre-debit and the refund after a failure.  The
planners write nothing: a plan says what would be written, and under which
identifiers.
-/

namespace Aiphabee.UsageLedger

open PartnerReconciliation (UsageLedgerChannel sanitizeId normalizeCreditCount)

inductive UsageLedgerOperation
  | agentRun
  | dataAccess
  | evalRun
  | «export»
  | toolCall
deriving DecidableEq

def UsageLedgerOperation.text : UsageLedgerOperation → String
  | .agentRun => "agent_run"
  | .dataAccess => "data_access"
  | .evalRun => "eval_run"
  | .export => "export"
  | .toolCall => "tool_call"

inductive UsageLedgerCacheState
  | hit
  | miss
  | notApplicable

inductive UsageLedgerBillableState
  | blocked
  | posted
  | preview
  | reversed
  | waived

inductive UsageLedgerQualityState
  | hold
  | pass
  | rejectRaw
  | warn

inductive UsageLedgerWriterStatus
  | writeBlocked
  | writePlanned

structure UsageLedgerEventPlanInput where
  accountId : Option String := none
  cached : Bool
  channel : UsageLedgerChannel
  credits : JsNumber
  dataVersion : String
  dataset : String
  errorCode : Option String := none
  inputUnits : Option JsNumber := none
  membershipId : Option String := none
  meteredFields : JsNumber
  meteredRows : JsNumber
  methodologyVersion : String
  occurredAt : String
  operation : Option UsageLedgerOperation := none
  outputUnits : Option JsNumber := none
  qualityState : UsageLedgerQualityState
  requestId : String
  rightsPolicyVersion : String
  runId : Option String := none
  sourceRecordId : String
  subscriptionId : Option String := none
  toolName : Option String := none
  workspaceId : Option String := none

structure UsageEvent where
  accountId : Option String
  cacheState : UsageLedgerCacheState
  channel : UsageLedgerChannel
  dataVersion : String
  dataset : String
  inputUnits : JsNumber
  membershipId : Option String
  meteredFields : JsNumber
  meteredRows : JsNumber
  methodologyVersion : String
  occurredAt : String
  operation : UsageLedgerOperation
  outputUnits : JsNumber
  qualityState : UsageLedgerQualityState
  requestId : String
  rightsPolicyVersion : String
  runId : Option String
  sourceRecordId : String
  toolName : Option String
  usageEventId : String
  workspaceId : String

structure UsageLedgerEntry where
  accountId : Option String
  billableState : UsageLedgerBillableState
  creditDelta : JsNumber
  ledgerEntryId : String
  meterRuleId : String
  sourceRecordId : String
  subscriptionId : Option String
  usageEventId : String
  workspaceId : String

structure UsageLedgerEventPlan where
  event : UsageEvent
  ledgerEntry : UsageLedgerEntry
  creditsTotal : JsNumber
  schemaReady : Bool
  sqlEmitted : Bool := false
  status : UsageLedgerWriterStatus
  tables : List String :=
    ["aiphabee_core.usage_meter_rule", "aiphabee_core.usage_event",
      "aiphabee_core.usage_reconciliation_batch", "aiphabee_core.usage_ledger_entry"]
  writeReady : Bool := false
  writeReason : String

def createUsageEventId (requestId : String) (operation : UsageLedgerOperation)
    (dataset occurredAt : String) : String :=
  "usage_event_" ++ sanitizeId requestId ++ "_" ++ operation.text ++ "_" ++ sanitizeId dataset ++
    "_" ++ sanitizeId occurredAt

def createMeterRuleId (channel : UsageLedgerChannel) (dataset : String)
    (operation : UsageLedgerOperation) : String :=
  "meter_" ++ channel.text ++ "_" ++ sanitizeId dataset ++ "_" ++ operation.text ++ "_credit"

def isPresent (field : Option String) : Bool :=
  field.any (0 < ·.length)

def UsageLedgerEventPlanInput.plannedOperation (input : UsageLedgerEventPlanInput) :
    UsageLedgerOperation :=
  input.operation.getD .dataAccess

def createUsageLedgerEventPlan (input : UsageLedgerEventPlanInput) : UsageLedgerEventPlan :=
  let operation := input.plannedOperation
  let workspaceId := input.workspaceId.getD "workspace_unresolved"
  let schemaReady := isPresent input.workspaceId
  let usageEventId :=
    createUsageEventId input.requestId operation input.dataset input.occurredAt
  let meterRuleId := createMeterRuleId input.channel input.dataset operation
  { event :=
      { accountId := input.accountId
        cacheState := if input.cached then .hit else .miss
        channel := input.channel
        dataVersion := input.dataVersion
        dataset := input.dataset
        inputUnits := input.inputUnits.getD .zero
        membershipId := input.membershipId
        meteredFields := input.meteredFields
        meteredRows := input.meteredRows
        methodologyVersion := input.methodologyVersion
        occurredAt := input.occurredAt
        operation := operation
        outputUnits := input.outputUnits.getD .zero
        qualityState := input.qualityState
        requestId := input.requestId
        rightsPolicyVersion := input.rightsPolicyVersion
        runId := input.runId
        sourceRecordId := input.sourceRecordId
        toolName := input.toolName
        usageEventId := usageEventId
        workspaceId := workspaceId }
    ledgerEntry :=
      { accountId := input.accountId
        billableState :=
          if schemaReady ∧ input.errorCode = none ∧ JsNumber.lt .zero input.credits then .preview
          else .blocked
        creditDelta := input.credits
        ledgerEntryId := "usage_ledger_entry_" ++ usageEventId ++ "_" ++ meterRuleId
        meterRuleId := meterRuleId
        sourceRecordId := "usage-ledger-entry-plan"
        subscriptionId := input.subscriptionId
        usageEventId := usageEventId
        workspaceId := workspaceId }
    creditsTotal := input.credits
    schemaReady := schemaReady
    status := if schemaReady then .writePlanned else .writeBlocked
    writeReason :=
      if schemaReady then "LIVE_USAGE_WRITES_DISABLED" else "WORKSPACE_CONTEXT_MISSING" }

inductive HighCostUsageExecutionStatus
  | failed
  | planned
  | succeeded
deriving DecidableEq

inductive HighCostUsageReservationStatus
  | blockedMissingContext
  | confirmationRequired
  | plannedNoWrite
deriving DecidableEq

inductive PreDebitStatus
  | awaitingConfirmation
  | blockedMissingContext
  | plannedNoWrite

inductive RefundStatus
  | notTriggered
  | plannedNoWrite

structure HighCostUsageReservationPlanInput where
  estimatedCredits : Option JsNumber := none
  executionStatus : Option HighCostUsageExecutionStatus := none
  requestId : String
  subscriptionId : Option String := none
  taskId : Option String := none
  toolName : Option String := none
  userConfirmed : Option Bool := none
  workspaceId : Option String := none

structure DoubleChargeGuard where
  idempotencyKey : String
  sameRequestReusesReservation : Bool := true

structure FailureRefund where
  ledgerEntryId : String
  reason : String := "system_failure_or_retry"
  refundCredits : Nat
  required : Bool := true
  status : RefundStatus
  table : String := "aiphabee_core.usage_ledger_entry"

structure PreDebit where
  ledgerEntryId : String
  preDebitCredits : Nat
  required : Bool := true
  status : PreDebitStatus
  table : String := "aiphabee_core.usage_ledger_entry"

structure Reservation where
  reservationId : String
  status : PreDebitStatus
  subscriptionId : String
  table : String := "aiphabee_core.usage_credit_reservation"
  taskId : String
  toolName : String
  workspaceId : String

structure HighCostUsageReservationPlan where
  doubleChargeGuard : DoubleChargeGuard
  estimateCredits : Nat
  estimateSource : String := "analytics_high_cost_estimate"
  failureRefund : FailureRefund
  liveLedgerWrites : Bool := false
  persistentWrites : Bool := false
  preDebit : PreDebit
  requestId : String
  requestIdVisible : Bool := true
  reservation : Reservation
  sqlEmitted : Bool := false
  status : HighCostUsageReservationStatus
  tables : List String :=
    ["platform.workspace_subscription", "aiphabee_core.usage_event",
      "aiphabee_core.usage_ledger_entry", "aiphabee_core.usage_reconciliation_batch",
      "aiphabee_core.usage_credit_reservation"]
  usageLedgerLinkRequired : Bool := true
  userConfirmed : Bool

variable (input : HighCostUsageReservationPlanInput)

def HighCostUsageReservationPlanInput.plannedTaskId : String :=
  input.taskId.getD
    ("task_" ++ sanitizeId input.requestId ++ "_" ++
      sanitizeId (input.toolName.getD "tool_unresolved"))

def HighCostUsageReservationPlanInput.confirmed : Bool :=
  input.userConfirmed = some true

/-- The fields that a pre-debit needs are there, and there are credits to debit. -/
def HighCostUsageReservationPlanInput.requiredContextPresent : Bool :=
  isPresent input.workspaceId && isPresent input.subscriptionId && isPresent input.taskId &&
    isPresent input.toolName && 0 < normalizeCreditCount input.estimatedCredits

def HighCostUsageReservationPlanInput.planStatus : HighCostUsageReservationStatus :=
  if input.confirmed then
    if input.requiredContextPresent then .plannedNoWrite else .blockedMissingContext
  else
    .confirmationRequired

def HighCostUsageReservationStatus.preDebitStatus : HighCostUsageReservationStatus → PreDebitStatus
  | .plannedNoWrite => .plannedNoWrite
  | .confirmationRequired => .awaitingConfirmation
  | .blockedMissingContext => .blockedMissingContext

def HighCostUsageReservationPlanInput.refundTriggered : Bool :=
  input.executionStatus = some .failed && input.confirmed

def HighCostUsageReservationPlanInput.idempotencyKey : String :=
  "high_cost_usage_" ++ sanitizeId input.requestId ++ "_" ++ sanitizeId input.plannedTaskId

def HighCostUsageReservationPlanInput.reservationId : String :=
  "usage_reservation_" ++ sanitizeId input.requestId ++ "_" ++ sanitizeId input.plannedTaskId

def createHighCostUsageReservationPlan : HighCostUsageReservationPlan :=
  let estimatedCredits := normalizeCreditCount input.estimatedCredits
  let workspaceId := input.workspaceId.getD "workspace_unresolved"
  { doubleChargeGuard := { idempotencyKey := input.idempotencyKey }
    estimateCredits := estimatedCredits
    failureRefund :=
      { ledgerEntryId := "usage_refund_" ++ input.reservationId
        refundCredits := if input.refundTriggered then estimatedCredits else 0
        status := if input.refundTriggered then .plannedNoWrite else .notTriggered }
    preDebit :=
      { ledgerEntryId := "usage_pre_debit_" ++ input.reservationId
        preDebitCredits := if input.planStatus = .plannedNoWrite then estimatedCredits else 0
        status := input.planStatus.preDebitStatus }
    requestId := input.requestId
    reservation :=
      { reservationId := input.reservationId
        status := input.planStatus.preDebitStatus
        subscriptionId := input.subscriptionId.getD ("subscription_" ++ sanitizeId workspaceId)
        taskId := input.plannedTaskId
        toolName := input.toolName.getD "tool_unresolved"
        workspaceId := workspaceId }
    status := input.planStatus
    userConfirmed := input.confirmed }

section CreditConservation

def ConservesCredits : Prop :=
  let plan := createHighCostUsageReservationPlan input
  plan.failureRefund.refundCredits ≤ plan.preDebit.preDebitCredits ∧
    (plan.failureRefund.status = .plannedNoWrite → plan.preDebit.status = .plannedNoWrite)

variable {input : HighCostUsageReservationPlanInput}

theorem planStatus_eq_planned :
    input.planStatus = .plannedNoWrite ↔
      input.confirmed = true ∧ input.requiredContextPresent = true := by
  rw [HighCostUsageReservationPlanInput.planStatus]
  cases hconfirmed : input.confirmed with
  | false => simp
  | true => cases hcontext : input.requiredContextPresent <;> simp

theorem preDebitStatus_eq_planned {status : HighCostUsageReservationStatus} :
    status.preDebitStatus = .plannedNoWrite ↔ status = .plannedNoWrite := by
  cases status <;> simp [HighCostUsageReservationStatus.preDebitStatus]

theorem conservesCredits_iff_planned :
    ConservesCredits input ↔
      (input.refundTriggered = true → input.planStatus = .plannedNoWrite) := by
  change ((if input.refundTriggered then normalizeCreditCount input.estimatedCredits else 0) ≤
      (if input.planStatus = .plannedNoWrite then normalizeCreditCount input.estimatedCredits
        else 0) ∧
    ((if input.refundTriggered then RefundStatus.plannedNoWrite else .notTriggered) =
      .plannedNoWrite → input.planStatus.preDebitStatus = .plannedNoWrite)) ↔ _
  rw [preDebitStatus_eq_planned]
  cases hrefund : input.refundTriggered with
  | false => simp
  | true =>
    constructor
    · rintro ⟨_, hplanned⟩ _
      exact hplanned rfl
    · intro hplanned
      refine ⟨?_, fun _ => hplanned rfl⟩
      rw [if_pos (hplanned rfl)]
      exact Nat.le_refl _

/--
Credits are conserved exactly when no failed and confirmed call lacks the
context of its pre-debit.
-/
theorem conservesCredits_iff (input : HighCostUsageReservationPlanInput) :
    ConservesCredits input ↔
      (input.executionStatus = some .failed → input.confirmed = true →
        input.requiredContextPresent = true) := by
  rw [conservesCredits_iff_planned, planStatus_eq_planned]
  simp only [HighCostUsageReservationPlanInput.refundTriggered, Bool.and_eq_true,
    decide_eq_true_eq]
  constructor
  · intro h hfailed hconfirmed
    exact (h ⟨hfailed, hconfirmed⟩).2
  · rintro h ⟨hfailed, hconfirmed⟩
    exact ⟨hconfirmed, h hfailed hconfirmed⟩

/-- A confirmed call that failed without its context is refunded without a pre-debit. -/
theorem refund_without_preDebit :
    ¬ConservesCredits
      { estimatedCredits := some (.finite 8)
        executionStatus := some .failed
        requestId := "req_high_cost_missing"
        userConfirmed := some true } := by
  rintro ⟨_, hplanned⟩
  have : PreDebitStatus.blockedMissingContext = .plannedNoWrite := hplanned rfl
  cases this

end CreditConservation

end Aiphabee.UsageLedger
