import Aiphabee.Usage.PartnerReconciliation

/-!
# The budget verdict of a tool call

A call of a tool is estimated at the rows it may return.  The quota display of the usage
ledger says what remains of the credits of the plan, and never less than nothing; the
limits plan of the call takes its verdict from what remains.

The main result, `createMcpToolLimitsPlan_verdict_iff`, says for which numbers the verdict
is right.
-/

namespace Aiphabee.McpRuntime

open PartnerReconciliation (UsageQuotaPlanCode normalizeCreditCount)

structure UsageQuotaDisplayPlanInput where
  pendingCredits : Option JsNumber := none
  planCode : Option UsageQuotaPlanCode := none
  usedCredits : Option JsNumber := none

structure UsageQuota where
  creditLimit : Nat
  creditsPending : Nat
  creditsRemaining : Int
  creditsUsed : Nat
  overQuota : Bool
  planCode : UsageQuotaPlanCode

def getPlanCreditLimit : UsageQuotaPlanCode → Nat
  | .developer => 10000
  | .enterprise => 100000
  | .free => 100
  | .plus => 1000
  | .pro => 5000
  | .team => 25000

def createUsageQuotaDisplayPlan (input : UsageQuotaDisplayPlanInput) : UsageQuota :=
  let planCode := input.planCode.getD .free
  let creditLimit := getPlanCreditLimit planCode
  let creditsUsed := normalizeCreditCount input.usedCredits
  let creditsPending := normalizeCreditCount input.pendingCredits
  { creditLimit
    creditsPending
    creditsRemaining := max 0 ((creditLimit : Int) - creditsUsed - creditsPending)
    creditsUsed
    overQuota := creditLimit < creditsUsed + creditsPending
    planCode }

def mcpToolLimiterHighCostThreshold : Nat := 8
def mcpToolLimiterStandardMaxParallel : Nat := 8
def mcpToolLimiterHighCostMaxParallel : Nat := 2

/-- What a call says about the account it is charged to. -/
structure CreateMcpProtocolPlanInput where
  pendingCredits : Option JsNumber := none
  usagePlanCode : Option UsageQuotaPlanCode := none
  usedCredits : Option JsNumber := none

structure McpUsageEnvelopePlan where
  creditsRemainingAfterEstimate : Int
  estimatedCredits : Nat
  quotaDisplay : UsageQuota

/-- `normalizeUsageCreditCount`, the same as the one of the ledger. -/
def normalizeUsageCreditCount (value : Option JsNumber) : Nat :=
  JsNumber.floorOfPositive value

/-- The envelope of a call whose retrieval is bounded by a number of rows. -/
def createMcpToolUsageEnvelope (input : CreateMcpProtocolPlanInput) (effectiveLimit : Nat) :
    McpUsageEnvelopePlan :=
  let estimatedCredits := max 1 effectiveLimit
  let quotaDisplay := createUsageQuotaDisplayPlan
    { pendingCredits :=
        some (.finite (normalizeUsageCreditCount input.pendingCredits + estimatedCredits : Nat))
      planCode := input.usagePlanCode
      usedCredits := input.usedCredits }
  { creditsRemainingAfterEstimate := quotaDisplay.creditsRemaining
    estimatedCredits
    quotaDisplay }

inductive McpToolLimiterPool
  | mcpHighCost
  | mcpStandard

structure McpToolBudget where
  allowedAfterEstimate : Bool
  budgetExceeded : Bool
  estimatedCredits : Nat
  remainingCreditsAfterEstimate : Int

structure McpToolLimitsPlan where
  budget : McpToolBudget
  maxParallel : Nat
  pool : McpToolLimiterPool
  queueRequired : Bool
  highCost : Bool
  rowEstimate : Nat

def createMcpToolLimitsPlan (effectiveLimit : Nat) (usageEnvelope : McpUsageEnvelopePlan) :
    McpToolLimitsPlan :=
  let estimatedCredits := usageEnvelope.estimatedCredits
  let highCost := mcpToolLimiterHighCostThreshold ≤ estimatedCredits
  { budget :=
      { allowedAfterEstimate := 0 ≤ usageEnvelope.creditsRemainingAfterEstimate
        budgetExceeded := usageEnvelope.creditsRemainingAfterEstimate < 0
        estimatedCredits
        remainingCreditsAfterEstimate := usageEnvelope.creditsRemainingAfterEstimate }
    maxParallel :=
      if highCost then mcpToolLimiterHighCostMaxParallel
      else mcpToolLimiterStandardMaxParallel
    pool := if highCost then .mcpHighCost else .mcpStandard
    queueRequired := highCost
    highCost
    rowEstimate := effectiveLimit }

section Verdict

def creditsAfter (input : CreateMcpProtocolPlanInput) (effectiveLimit : Nat) : Nat :=
  normalizeCreditCount input.usedCredits + normalizeCreditCount input.pendingCredits +
    max 1 effectiveLimit

def creditLimit (input : CreateMcpProtocolPlanInput) : Nat :=
  getPlanCreditLimit (input.usagePlanCode.getD .free)

/-- The verdict on a call says whether the credits suffice, as the quota display does. -/
structure RightVerdict (input : CreateMcpProtocolPlanInput) (effectiveLimit : Nat) : Prop where
  exceeded :
    (createMcpToolLimitsPlan effectiveLimit
      (createMcpToolUsageEnvelope input effectiveLimit)).budget.budgetExceeded = true ↔
        creditLimit input < creditsAfter input effectiveLimit
  allowed :
    (createMcpToolLimitsPlan effectiveLimit
      (createMcpToolUsageEnvelope input effectiveLimit)).budget.allowedAfterEstimate = true ↔
        ¬creditLimit input < creditsAfter input effectiveLimit
  agrees :
    (createMcpToolLimitsPlan effectiveLimit
      (createMcpToolUsageEnvelope input effectiveLimit)).budget.budgetExceeded =
        (createMcpToolUsageEnvelope input effectiveLimit).quotaDisplay.overQuota

variable {input : CreateMcpProtocolPlanInput}
variable {effectiveLimit : Nat}

theorem normalizeCreditCount_natCast (credits : Nat) :
    normalizeCreditCount (some (.finite (credits : ℚ))) = credits := by
  rw [normalizeCreditCount, JsNumber.floorOfPositive]
  split
  · rw [← Int.cast_natCast, Int.floor_intCast, Int.toNat_natCast]
  · next h =>
      rw [Nat.cast_pos, not_lt, Nat.le_zero] at h
      exact h.symm

/-- What remains is never below nothing, so no call is ever refused. -/
theorem remaining_nonneg (quota : UsageQuotaDisplayPlanInput) :
    0 ≤ (createUsageQuotaDisplayPlan quota).creditsRemaining :=
  le_max_left _ _

theorem overQuota_iff :
    (createMcpToolUsageEnvelope input effectiveLimit).quotaDisplay.overQuota = true ↔
      creditLimit input < creditsAfter input effectiveLimit := by
  rw [createMcpToolUsageEnvelope, createUsageQuotaDisplayPlan]
  dsimp only
  rw [normalizeCreditCount_natCast, decide_eq_true_iff, creditLimit, creditsAfter,
    Nat.add_assoc]
  rfl

theorem not_budgetExceeded :
    (createMcpToolLimitsPlan effectiveLimit
      (createMcpToolUsageEnvelope input effectiveLimit)).budget.budgetExceeded = false :=
  decide_eq_false (remaining_nonneg _).not_gt

theorem allowedAfterEstimate :
    (createMcpToolLimitsPlan effectiveLimit
      (createMcpToolUsageEnvelope input effectiveLimit)).budget.allowedAfterEstimate = true :=
  decide_eq_true (remaining_nonneg _)

/-- The verdict is right exactly where the credits suffice: it never says that they do not. -/
theorem createMcpToolLimitsPlan_verdict_iff (input : CreateMcpProtocolPlanInput)
    (effectiveLimit : Nat) :
    RightVerdict input effectiveLimit ↔
      creditsAfter input effectiveLimit ≤ creditLimit input := by
  constructor
  · intro h
    exact Nat.not_lt.mp (h.allowed.mp allowedAfterEstimate)
  · intro hsuffice
    have hwithin := Nat.not_lt.mpr hsuffice
    refine ⟨?_, iff_of_true allowedAfterEstimate hwithin, ?_⟩
    · rw [not_budgetExceeded]
      exact iff_of_false Bool.false_ne_true hwithin
    · rw [not_budgetExceeded, eq_comm, ← Bool.not_eq_true, overQuota_iff]
      exact hwithin

/-- A call of ten rows on a free plan that is used up. -/
theorem usedUp_not_refused :
    ¬RightVerdict { usedCredits := some (.finite 100) } 10 := by
  intro h
  have hexceeded := h.exceeded.mpr (by decide +kernel)
  rw [not_budgetExceeded] at hexceeded
  cases hexceeded

end Verdict

end Aiphabee.McpRuntime
