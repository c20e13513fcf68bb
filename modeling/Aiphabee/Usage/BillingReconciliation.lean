import Mathlib.Algebra.BigOperators.Ring.Finset
import Aiphabee.Usage.UsageLedgerPlans

/-!
# Billing reconciliation

The credits of an invoice are compared with those of the ledger entries of its
period.  An entry counts with the whole part of its credits when they are above
zero, and not at all otherwise: the ledger tables hold no entry below zero, and
refunds are not reconciled.  An invoice without credits is taken at what the
ledger says.
-/

namespace Aiphabee.UsageLedger

open PartnerReconciliation (sanitizeId normalizeCreditCount)

structure UsageBillingLedgerEntryInput where
  creditDelta : JsNumber
  ledgerEntryId : String
  requestId : String
  usageEventId : String

structure UsageBillingReconciliationPlanInput where
  accountId : Option String := none
  billingPeriodEnd : Option String := none
  billingPeriodStart : Option String := none
  currency : Option String := none
  invoiceAmountMinor : Option JsNumber := none
  invoiceCredits : Option JsNumber := none
  invoiceId : Option String := none
  ledgerEntries : Option (List UsageBillingLedgerEntryInput) := none
  requestId : String
  subscriptionId : Option String := none
  workspaceId : Option String := none

inductive ConsistencyStatus
  | matched
  | mismatch

inductive UsageBillingTraceStatus
  | mismatch
  | traceable

inductive UsageBillingReconciliationStatus
  | blockedMissingContext
  | plannedNoWrite

structure Consistency where
  creditDelta : JsNumber
  invoiceCredits : WholeNumber
  ledgerCredits : WholeNumber
  status : ConsistencyStatus

structure Invoice where
  amountMinor : Nat
  invoiceId : String
  source : String := "synthetic_billing_snapshot"
  table : String := "aiphabee_core.subscription_invoice"

structure InvoiceLine where
  creditDelta : Nat
  invoiceLineId : String
  ledgerEntryId : String
  requestId : String
  table : String := "aiphabee_core.subscription_invoice_line"
  traceStatus : UsageBillingTraceStatus
  usageEventId : String

structure Traceability where
  requiredFields : List String :=
    ["request_id", "usage_event_id", "ledger_entry_id", "invoice_line_id"]
  supportInvestigationByRequestId : Bool := true
  traceableCallCount : Nat
  traceableToCall : Bool

structure UsageBillingReconciliationPlan where
  accountId : Option String
  consistency : Consistency
  currency : String
  freshnessTargetMinutes : Nat := 5
  invoice : Invoice
  invoiceLines : List InvoiceLine
  liveLedgerReads : Bool := false
  persistentWrites : Bool := false
  periodEnd : String
  periodStart : String
  requestId : String
  requestIdVisible : Bool := true
  sqlEmitted : Bool := false
  status : UsageBillingReconciliationStatus
  subscriptionId : String
  tables : List String :=
    ["platform.workspace_subscription", "aiphabee_core.usage_event",
      "aiphabee_core.usage_ledger_entry", "aiphabee_core.usage_reconciliation_batch",
      "aiphabee_core.subscription_invoice", "aiphabee_core.subscription_invoice_line"]
  traceability : Traceability
  workspaceId : String

def UsageBillingLedgerEntryInput.credits (entry : UsageBillingLedgerEntryInput) : Nat :=
  normalizeCreditCount (some entry.creditDelta)

def sumCredits (entries : List UsageBillingLedgerEntryInput) : WholeNumber :=
  entries.foldl (fun total entry => total.add (.finite entry.credits)) (.finite 0)

def normalizeInvoiceCredits (value : Option JsNumber) (fallback : WholeNumber) : WholeNumber :=
  match value with
  | some (.finite value) => if 0 ≤ value then .finite ⌊value⌋.toNat else fallback
  | _ => fallback

def normalizeAmountMinor (value : Option JsNumber) : Nat :=
  JsNumber.floorOfPositive value

def isTraceableLedgerEntry (entry : UsageBillingLedgerEntryInput) : Bool :=
  0 < entry.requestId.length && 0 < entry.usageEventId.length && 0 < entry.ledgerEntryId.length

def consistencyOf (invoiceCredits : Option JsNumber)
    (ledgerEntries : List UsageBillingLedgerEntryInput) : Consistency :=
  let ledgerCredits := sumCredits ledgerEntries
  let invoiceCredits := normalizeInvoiceCredits invoiceCredits ledgerCredits
  let creditDelta := invoiceCredits.sub ledgerCredits
  { creditDelta := creditDelta
    invoiceCredits := invoiceCredits
    ledgerCredits := ledgerCredits
    status := if creditDelta = .zero then .matched else .mismatch }

def invoiceLineOf (invoiceId : String) (entry : UsageBillingLedgerEntryInput) (index : Nat) :
    InvoiceLine :=
  { creditDelta := entry.credits
    invoiceLineId :=
      "invoice_line_" ++ sanitizeId invoiceId ++ "_" ++ toString (index + 1) ++ "_" ++
        sanitizeId entry.ledgerEntryId
    ledgerEntryId := entry.ledgerEntryId
    requestId := entry.requestId
    traceStatus := if isTraceableLedgerEntry entry then .traceable else .mismatch
    usageEventId := entry.usageEventId }

def createUsageBillingReconciliationPlan (input : UsageBillingReconciliationPlanInput) :
    UsageBillingReconciliationPlan :=
  let workspaceId := input.workspaceId.getD "workspace_unresolved"
  let invoiceId := input.invoiceId.getD ("invoice_" ++ sanitizeId input.requestId)
  let ledgerEntries := input.ledgerEntries.getD []
  let traceableCallCount := ledgerEntries.countP isTraceableLedgerEntry
  let traceableToCall :=
    0 < ledgerEntries.length && traceableCallCount = ledgerEntries.length
  let requiredContextPresent :=
    isPresent input.workspaceId && isPresent input.subscriptionId && isPresent input.invoiceId &&
      isPresent input.billingPeriodStart && isPresent input.billingPeriodEnd && traceableToCall
  { accountId := input.accountId
    consistency := consistencyOf input.invoiceCredits ledgerEntries
    currency := input.currency.getD "HKD"
    invoice :=
      { amountMinor := normalizeAmountMinor input.invoiceAmountMinor
        invoiceId := invoiceId }
    invoiceLines := ledgerEntries.mapIdx fun index entry => invoiceLineOf invoiceId entry index
    periodEnd := input.billingPeriodEnd.getD "billing_period_end_unresolved"
    periodStart := input.billingPeriodStart.getD "billing_period_start_unresolved"
    requestId := input.requestId
    status := if requiredContextPresent then .plannedNoWrite else .blockedMissingContext
    subscriptionId := input.subscriptionId.getD ("subscription_" ++ sanitizeId workspaceId)
    traceability :=
      { traceableCallCount := traceableCallCount
        traceableToCall := traceableToCall }
    workspaceId := workspaceId }

section Netting

def UsageBillingLedgerEntryInput.signedCredits (entry : UsageBillingLedgerEntryInput) : ℚ :=
  entry.creditDelta.toRat

/--
In every order of the entries, the plan matches exactly an invoice of as many
credits as the entries have in all, and reports by how much it is above them.
-/
def Nets (creditsOf : UsageBillingLedgerEntryInput → ℚ) (invoiced : ℚ)
    (input : UsageBillingReconciliationPlanInput) : Prop :=
  ∀ entries : List UsageBillingLedgerEntryInput,
    entries.Perm (input.ledgerEntries.getD []) →
      let consistency :=
        (createUsageBillingReconciliationPlan
          { input with ledgerEntries := some entries }).consistency
      (consistency.status = .matched ↔ invoiced = (entries.map creditsOf).sum) ∧
        consistency.creditDelta = .finite (invoiced - (entries.map creditsOf).sum)

def totalCredits (entries : List UsageBillingLedgerEntryInput) : Nat :=
  (entries.map UsageBillingLedgerEntryInput.credits).sum

def UsageBillingReconciliationPlanInput.invoicedCredits
    (input : UsageBillingReconciliationPlanInput) : Nat :=
  match input.invoiceCredits with
  | some (.finite value) =>
    if 0 ≤ value then ⌊value⌋.toNat else totalCredits (input.ledgerEntries.getD [])
  | _ => totalCredits (input.ledgerEntries.getD [])

variable {entries : List UsageBillingLedgerEntryInput}

/-- Credits up to `2 ^ 53` are summed exactly. -/
theorem sumCredits_exact (h : totalCredits entries ≤ 2 ^ 53) :
    sumCredits entries = .finite (totalCredits entries) := by
  have hsum := WholeNumber.foldl_add_exact (entries.map UsageBillingLedgerEntryInput.credits) 0
    (by rwa [Nat.zero_add])
  rw [List.foldl_map, Nat.zero_add] at hsum
  exact hsum

theorem totalCredits_perm {left right : List UsageBillingLedgerEntryInput} (h : left.Perm right) :
    totalCredits left = totalCredits right :=
  (h.map _).sum_eq

theorem matched_iff (invoiceCredits : Option JsNumber)
    (entries : List UsageBillingLedgerEntryInput) :
    let consistency := consistencyOf invoiceCredits entries
    consistency.status = .matched ↔
      consistency.invoiceCredits = consistency.ledgerCredits ∧
        consistency.invoiceCredits ≠ .infinity := by
  simp only [consistencyOf]
  rw [← WholeNumber.sub_eq_zero]
  split <;> simp_all

/-- The amounts that a plan compares when they are at most `2 ^ 53`. -/
theorem consistencyOf_exact {input : UsageBillingReconciliationPlanInput}
    (hperm : entries.Perm (input.ledgerEntries.getD []))
    (htotal : totalCredits (input.ledgerEntries.getD []) ≤ 2 ^ 53) :
    (consistencyOf input.invoiceCredits entries).ledgerCredits =
        .finite (totalCredits entries) ∧
      (consistencyOf input.invoiceCredits entries).invoiceCredits =
        .finite input.invoicedCredits := by
  have hsame := totalCredits_perm hperm
  have hsum := sumCredits_exact (hsame ▸ htotal)
  refine ⟨hsum, ?_⟩
  change normalizeInvoiceCredits input.invoiceCredits (sumCredits entries) = _
  rw [hsum, hsame, UsageBillingReconciliationPlanInput.invoicedCredits]
  cases input.invoiceCredits with
  | none => rfl
  | some value =>
    cases value with
    | nan => rfl
    | infinity negative => rfl
    | finite value =>
      simp only [normalizeInvoiceCredits]
      split <;> rfl

/--
As long as no amount passes `2 ^ 53`, a plan nets the whole credits of the
entries that are above zero against the whole credits of the invoice.
-/
theorem reconciliation_nets_wholeCredits (input : UsageBillingReconciliationPlanInput)
    (htotal : totalCredits (input.ledgerEntries.getD []) ≤ 2 ^ 53)
    (hinvoiced : input.invoicedCredits ≤ 2 ^ 53) :
    Nets (fun entry => entry.credits) input.invoicedCredits input := by
  intro entries hperm
  obtain ⟨hledger, hinvoice⟩ := consistencyOf_exact hperm htotal
  have hsame := totalCredits_perm hperm
  have hsum : (entries.map fun entry => (entry.credits : ℚ)).sum = totalCredits entries := by
    rw [totalCredits, Nat.cast_list_sum, List.map_map]
    rfl
  refine ⟨?_, ?_⟩
  · rw [hsum, Nat.cast_inj]
    refine (matched_iff input.invoiceCredits entries).trans ?_
    rw [hledger, hinvoice]
    simp
  · rw [hsum]
    change (consistencyOf input.invoiceCredits entries).invoiceCredits.sub
      (consistencyOf input.invoiceCredits entries).ledgerCredits = _
    rw [hledger, hinvoice]
    exact WholeNumber.sub_exact hinvoiced (hsame ▸ htotal)

def reconciliationOf (invoiceCredits : ℚ) (creditDeltas : List ℚ) :
    UsageBillingReconciliationPlanInput :=
  { billingPeriodEnd := some "2026-07-01T00:00:00.000Z"
    billingPeriodStart := some "2026-06-01T00:00:00.000Z"
    invoiceCredits := some (.finite invoiceCredits)
    invoiceId := some "inv_202606"
    ledgerEntries := some <| creditDeltas.mapIdx fun index delta =>
      { creditDelta := .finite delta
        ledgerEntryId := "usage_ledger_entry_" ++ toString index
        requestId := "req_" ++ toString index
        usageEventId := "usage_event_" ++ toString index }
    requestId := "req_billing"
    subscriptionId := some "sub_1"
    workspaceId := some "ws_1" }

/-- An invoice of ten credits is matched by entries of ten credits and of four below zero. -/
theorem reconciliation_nets_wholeCredits_refund :
    (totalCredits ((reconciliationOf 10 [10, -4]).ledgerEntries.getD []) ≤ 2 ^ 53 ∧
        (reconciliationOf 10 [10, -4]).invoicedCredits ≤ 2 ^ 53) ∧
      Nets (fun entry => entry.credits) ((reconciliationOf 10 [10, -4]).invoicedCredits : ℚ)
        (reconciliationOf 10 [10, -4]) :=
  ⟨by decide +kernel,
    reconciliation_nets_wholeCredits (reconciliationOf 10 [10, -4]) (by decide +kernel)
      (by decide +kernel)⟩

/--
The signed credits are not netted: a refund of four credits is left out, two
halves of a credit are, an invoice below zero is taken at the ledger's amount,
and beyond `2 ^ 53` a credit is lost.
-/
theorem reconciliation_leaves_refunds_out :
    ¬Nets UsageBillingLedgerEntryInput.signedCredits 6 (reconciliationOf 6 [10, -4]) ∧
      ¬Nets UsageBillingLedgerEntryInput.signedCredits 1 (reconciliationOf 1 [1 / 2, 1 / 2]) ∧
      ¬Nets UsageBillingLedgerEntryInput.signedCredits (-4) (reconciliationOf (-4) [10]) ∧
      ¬Nets UsageBillingLedgerEntryInput.signedCredits (2 ^ 53)
        (reconciliationOf (2 ^ 53) [2 ^ 53, 1]) := by
  refine ⟨?_, ?_, ?_, ?_⟩
  · intro h
    have := (h _ (List.Perm.refl _)).2
    revert this
    decide +kernel
  · intro h
    have := (h _ (List.Perm.refl _)).2
    revert this
    decide +kernel
  · intro h
    have := (h _ (List.Perm.refl _)).2
    revert this
    decide +kernel
  · intro h
    have := (h _ (List.Perm.refl _)).2
    revert this
    decide +kernel

end Netting

end Aiphabee.UsageLedger
