import Aiphabee.AgentRuntime.ToolLoopSteps
import Aiphabee.Streams.LongestPrefix

/-!
# The budget of planned steps

Before a run executes anything, the usage of its planned steps is estimated against the
budget.  Where a limit would be exceeded, the plan keeps the steps from the front that
fit together with the response that says so.  A budget that is too small even for this
response keeps no step, and the response is planned all the same.
-/

namespace Aiphabee.AgentPlanner

variable {budget : AgentRunBudget}
variable {steps front : List AgentToolLoopStepPlan}

/-- The expected use: the five dimensions of a budget, and the tool calls. -/
structure AgentBudgetUsageEstimate where
  credits : Nat
  rows : Nat
  steps : Nat
  tokens : Nat
  toolCalls : Nat
  wallClockMs : Nat

structure ToolUsageEstimate where
  credits : Nat
  rows : Nat
  tokens : Nat
  wallClockMs : Nat

/-- The expected use of one call. -/
def toolUsageEstimates : RegisteredToolName → ToolUsageEstimate
  | .getCorporateActions => ⟨3, 60, 500, 900⟩
  | .getDataLineage => ⟨1, 5, 250, 300⟩
  | .getEntitlements => ⟨1, 1, 200, 300⟩
  | .getIpoProfile => ⟨3, 12, 700, 800⟩
  | .searchIpoCalendar => ⟨2, 50, 500, 500⟩
  | .getIpoTimetable => ⟨2, 24, 450, 500⟩
  | .getIpoOffering => ⟨2, 1, 450, 500⟩
  | .getIpoAllotment => ⟨3, 100, 700, 800⟩
  | .screenIpos => ⟨4, 20, 700, 900⟩
  | .compareIpos => ⟨4, 5, 700, 900⟩
  | .analyzePublicTechnicalSignal => ⟨4, 500, 900, 1200⟩
  | .parseChartImage => ⟨1, 1, 300, 500⟩
  | .getEventTimeline => ⟨4, 20, 600, 900⟩
  | .getFinancialFacts => ⟨5, 80, 700, 1000⟩
  | .getFinancialRatios => ⟨4, 8, 600, 900⟩
  | .searchAnnouncements => ⟨3, 5, 500, 700⟩
  | .getAnnouncement => ⟨2, 1, 600, 500⟩
  | .screenSecurities => ⟨8, 20, 900, 1200⟩
  | .compareSecurities => ⟨6, 5, 900, 1200⟩
  | .calculateReturnsRisk => ⟨5, 10, 700, 1000⟩
  | .getMarketCalendar => ⟨1, 20, 250, 300⟩
  | .getPriceHistory => ⟨4, 120, 600, 1000⟩
  | .getQuoteSnapshot => ⟨1, 1, 250, 500⟩
  | .getSecurityProfile => ⟨1, 1, 300, 500⟩
  | .resolveSecurity => ⟨1, 1, 250, 500⟩

def answerContractUsageEstimate : AgentBudgetUsageEstimate where
  credits := 0
  rows := 0
  steps := 1
  tokens := 500
  toolCalls := 0
  wallClockMs := 300

/-- The response that says why a run stops is a step of its own. -/
def stopResponseUsageEstimate : AgentBudgetUsageEstimate where
  credits := 0
  rows := 0
  steps := 1
  tokens := 250
  toolCalls := 0
  wallClockMs := 150

def createZeroBudgetUsage : AgentBudgetUsageEstimate where
  credits := 0
  rows := 0
  steps := 0
  tokens := 0
  toolCalls := 0
  wallClockMs := 0

def addBudgetUsage (left right : AgentBudgetUsageEstimate) : AgentBudgetUsageEstimate where
  credits := left.credits + right.credits
  rows := left.rows + right.rows
  steps := left.steps + right.steps
  tokens := left.tokens + right.tokens
  toolCalls := left.toolCalls + right.toolCalls
  wallClockMs := left.wallClockMs + right.wallClockMs

/-- A step counts once, however many tools it calls. -/
def addToolCall (usage : AgentBudgetUsageEstimate) (toolCall : AgentToolLoopToolCallPlan) :
    AgentBudgetUsageEstimate :=
  let estimate := toolUsageEstimates toolCall.name
  { credits := usage.credits + estimate.credits
    rows := usage.rows + estimate.rows
    steps := 1
    tokens := usage.tokens + estimate.tokens
    toolCalls := usage.toolCalls + 1
    wallClockMs := usage.wallClockMs + estimate.wallClockMs }

def estimateSingleStepUsage (step : AgentToolLoopStepPlan) : AgentBudgetUsageEstimate :=
  if step.kind = .answerContract then
    answerContractUsageEstimate
  else
    step.toolCalls.foldl addToolCall { createZeroBudgetUsage with steps := 1 }

variable (steps : List AgentToolLoopStepPlan)

def estimateStepUsage : AgentBudgetUsageEstimate :=
  steps.foldl (fun usage step => addBudgetUsage usage (estimateSingleStepUsage step))
    createZeroBudgetUsage

inductive AgentBudgetDimension
  | steps
  | credits
  | rows
  | tokens
  | wallClockMs

inductive AgentBudgetLimitStatus
  | wouldExceed
  | withinBudget
deriving DecidableEq

structure AgentBudgetLimit where
  dimension : AgentBudgetDimension
  estimated : Nat
  limit : Nat
  status : AgentBudgetLimitStatus

def createBudgetLimit (dimension : AgentBudgetDimension) (estimated limit : Nat) :
    AgentBudgetLimit where
  dimension := dimension
  estimated := estimated
  limit := limit
  status := if limit < estimated then .wouldExceed else .withinBudget

def createBudgetLimitStatus (budget : AgentRunBudget) (estimatedUsage : AgentBudgetUsageEstimate) :
    List AgentBudgetLimit :=
  [createBudgetLimit .steps estimatedUsage.steps budget.maxSteps,
    createBudgetLimit .credits estimatedUsage.credits budget.maxCredits,
    createBudgetLimit .rows estimatedUsage.rows budget.maxRows,
    createBudgetLimit .tokens estimatedUsage.tokens budget.maxTokens,
    createBudgetLimit .wallClockMs estimatedUsage.wallClockMs budget.maxWallClockMs]

/-- No dimension exceeds its limit. -/
structure WithinBudget
    (usage : AgentBudgetUsageEstimate)
    (budget : AgentRunBudget) : Prop where
  credits : usage.credits ≤ budget.maxCredits
  rows : usage.rows ≤ budget.maxRows
  steps : usage.steps ≤ budget.maxSteps
  tokens : usage.tokens ≤ budget.maxTokens
  wallClockMs : usage.wallClockMs ≤ budget.maxWallClockMs

def isWithinBudget (usage : AgentBudgetUsageEstimate) (budget : AgentRunBudget) : Bool :=
  usage.credits ≤ budget.maxCredits && usage.rows ≤ budget.maxRows &&
    usage.steps ≤ budget.maxSteps && usage.tokens ≤ budget.maxTokens &&
      usage.wallClockMs ≤ budget.maxWallClockMs

theorem isWithinBudget_iff {usage : AgentBudgetUsageEstimate} {budget : AgentRunBudget} :
    isWithinBudget usage budget = true ↔ WithinBudget usage budget := by
  simp only [isWithinBudget, Bool.and_eq_true, decide_eq_true_eq]
  exact ⟨fun ⟨⟨⟨⟨hcredits, hrows⟩, hsteps⟩, htokens⟩, hclock⟩ =>
      ⟨hcredits, hrows, hsteps, htokens, hclock⟩,
    fun h => ⟨⟨⟨⟨h.credits, h.rows⟩, h.steps⟩, h.tokens⟩, h.wallClockMs⟩⟩

instance (usage : AgentBudgetUsageEstimate) (budget : AgentRunBudget) :
    Decidable (WithinBudget usage budget) :=
  decidable_of_iff _ isWithinBudget_iff

inductive AgentBudgetStopDecisionStatus
  | continue
  | stopBeforeExecution
deriving DecidableEq

structure AgentBudgetStopDecision where
  reasons : List AgentBudgetDimension
  status : AgentBudgetStopDecisionStatus
  stopBeforeStep : Option Nat

structure AgentGracefulStop where
  completedStepIds : List String
  nextStep : String
  partialResponseReady : Bool
  unfinishedStepIds : List String

structure AgentBudgetStopPolicy where
  budget : AgentRunBudget
  decision : AgentBudgetStopDecision
  estimatedUsage : AgentBudgetUsageEstimate
  gracefulStop : AgentGracefulStop
  limitStatus : List AgentBudgetLimit
  plannedUsage : AgentBudgetUsageEstimate

/-- Steps are kept from the front while they fit together with the stop response. -/
def selectStepsFrom (budget : AgentRunBudget) (selected : List AgentToolLoopStepPlan)
    (selectedUsage : AgentBudgetUsageEstimate) :
    List AgentToolLoopStepPlan → List AgentToolLoopStepPlan
  | [] => selected
  | step :: rest =>
    if budget.maxSteps - 1 ≤ selected.length then
      selected
    else
      let nextUsage := addBudgetUsage selectedUsage (estimateSingleStepUsage step)
      let usageWithStopResponse := addBudgetUsage nextUsage stopResponseUsageEstimate
      if !isWithinBudget usageWithStopResponse budget then
        selected
      else
        selectStepsFrom budget (selected ++ [step]) nextUsage rest

def selectBudgetPrefixSteps (budget : AgentRunBudget) : List AgentToolLoopStepPlan :=
  selectStepsFrom budget [] createZeroBudgetUsage steps

def createContinueCostMessage (continueCost : AgentBudgetUsageEstimate) : String :=
  "Narrow the request or approve at least " ++ toString continueCost.credits ++ " credits, " ++
    toString continueCost.rows ++ " rows, " ++ toString continueCost.tokens ++ " tokens, " ++
    toString continueCost.wallClockMs ++ " ms, and " ++ toString continueCost.steps ++
    " more planned steps."

/-- Only a plan beyond its budget is cut; any other is kept as it is. -/
def createBudgetStopPolicy (budget : AgentRunBudget) (steps : List AgentToolLoopStepPlan) :
    AgentBudgetStopPolicy :=
  let estimatedUsage := estimateStepUsage steps
  let limitStatus := createBudgetLimitStatus budget estimatedUsage
  let reasons := (limitStatus.filter fun limit => limit.status = .wouldExceed).map
    AgentBudgetLimit.dimension
  let shouldStop := 0 < reasons.length
  let completedSteps := if shouldStop then selectBudgetPrefixSteps steps budget else steps
  let unfinishedSteps := if shouldStop then steps.drop completedSteps.length else []
  let plannedUsage :=
    if shouldStop then
      addBudgetUsage (estimateStepUsage completedSteps) stopResponseUsageEstimate
    else
      estimatedUsage
  let continueCost :=
    if shouldStop then estimateStepUsage unfinishedSteps else createZeroBudgetUsage
  { budget := budget
    decision :=
      if shouldStop then
        { reasons := reasons
          status := .stopBeforeExecution
          stopBeforeStep := some (completedSteps.length + 1) }
      else
        { reasons := []
          status := .continue
          stopBeforeStep := none }
    estimatedUsage := estimatedUsage
    gracefulStop :=
      { completedStepIds := completedSteps.map AgentToolLoopStepPlan.stepId
        nextStep :=
          if shouldStop then
            createContinueCostMessage continueCost
          else
            "Continue with the planned no-model tool loop when live execution is enabled."
        partialResponseReady := shouldStop
        unfinishedStepIds := unfinishedSteps.map AgentToolLoopStepPlan.stepId }
    limitStatus := limitStatus
    plannedUsage := plannedUsage }

/-- The steps kept, and the stop response numbered after them. -/
def createBudgetStoppedSteps (budgetStopPolicy : AgentBudgetStopPolicy)
    (locale : AgentResponseLocale) : List AgentToolLoopStepPlan :=
  let completedSteps := steps.filter fun step =>
    budgetStopPolicy.gracefulStop.completedStepIds.contains step.stepId
  completedSteps ++ [createStep (completedSteps.length + 1) .answerContract .answerContract
    (toolLoopPublicLabel locale .budgetStop) []]

section Usage

variable {usage other more : AgentBudgetUsageEstimate}

theorem WithinBudget.of_add (h : WithinBudget (addBudgetUsage usage more) budget) :
    WithinBudget usage budget :=
  ⟨(Nat.le_add_right _ _).trans h.credits, (Nat.le_add_right _ _).trans h.rows,
    (Nat.le_add_right _ _).trans h.steps, (Nat.le_add_right _ _).trans h.tokens,
    (Nat.le_add_right _ _).trans h.wallClockMs⟩

theorem addBudgetUsage_assoc :
    addBudgetUsage (addBudgetUsage usage other) more =
      addBudgetUsage usage (addBudgetUsage other more) := by
  simp [addBudgetUsage, Nat.add_assoc]

theorem addBudgetUsage_comm :
    addBudgetUsage usage other = addBudgetUsage other usage := by
  simp [addBudgetUsage, Nat.add_comm]

theorem zero_addBudgetUsage :
    addBudgetUsage createZeroBudgetUsage usage = usage := by
  simp [addBudgetUsage, createZeroBudgetUsage]

theorem estimateStepUsage_append (front rest : List AgentToolLoopStepPlan) :
    estimateStepUsage (front ++ rest) =
      addBudgetUsage (estimateStepUsage front) (estimateStepUsage rest) := by
  have hfrom : ∀ start, rest.foldl (fun usage step =>
      addBudgetUsage usage (estimateSingleStepUsage step)) start =
        addBudgetUsage start (estimateStepUsage rest) := by
    induction rest with
    | nil =>
      intro start
      exact (addBudgetUsage_comm.trans zero_addBudgetUsage).symm
    | cons step rest ih =>
      intro start
      rw [estimateStepUsage, List.foldl_cons, List.foldl_cons, ih, ih, zero_addBudgetUsage,
        addBudgetUsage_assoc]
  rw [estimateStepUsage, List.foldl_append, hfrom]
  rfl

theorem estimateStepUsage_singleton (step : AgentToolLoopStepPlan) :
    estimateStepUsage [step] = estimateSingleStepUsage step :=
  zero_addBudgetUsage

theorem steps_estimateSingleStepUsage (step : AgentToolLoopStepPlan) :
    (estimateSingleStepUsage step).steps = 1 := by
  have hcalls : ∀ (calls : List AgentToolLoopToolCallPlan) (usage : AgentBudgetUsageEstimate),
      usage.steps = 1 → (calls.foldl addToolCall usage).steps = 1 := by
    intro calls
    induction calls with
    | nil => exact fun _ h => h
    | cons call rest ih => exact fun usage _ => ih (addToolCall usage call) rfl
  rw [estimateSingleStepUsage]
  split
  · rfl
  · exact hcalls _ _ rfl

theorem steps_estimateStepUsage :
    (estimateStepUsage steps).steps = steps.length := by
  induction steps with
  | nil => rfl
  | cons step rest ih =>
    have hcons := estimateStepUsage_append [step] rest
    rw [List.singleton_append, estimateStepUsage_singleton] at hcons
    have hadd : ∀ left right, (addBudgetUsage left right).steps = left.steps + right.steps :=
      fun _ _ => rfl
    rw [hcons, hadd, steps_estimateSingleStepUsage, ih, List.length_cons, Nat.add_comm]

end Usage

/-- Some steps and the stop response are together within the budget. -/
def FitsWithStop (budget : AgentRunBudget) (steps : List AgentToolLoopStepPlan) : Prop :=
  WithinBudget (addBudgetUsage (estimateStepUsage steps) stopResponseUsageEstimate) budget

instance (budget : AgentRunBudget) (steps : List AgentToolLoopStepPlan) :
    Decidable (FitsWithStop budget steps) :=
  inferInstanceAs (Decidable (WithinBudget _ _))

theorem FitsWithStop.of_front {shorter longer : List AgentToolLoopStepPlan}
    (hfront : shorter <+: longer) (h : FitsWithStop budget longer) :
    FitsWithStop budget shorter := by
  obtain ⟨rest, rfl⟩ := hfront
  have hcomm : addBudgetUsage (estimateStepUsage rest) stopResponseUsageEstimate =
      addBudgetUsage stopResponseUsageEstimate (estimateStepUsage rest) :=
    addBudgetUsage_comm
  rw [FitsWithStop, estimateStepUsage_append, addBudgetUsage_assoc, hcomm,
    ← addBudgetUsage_assoc] at h
  exact h.of_add

theorem fitsWithStop_nil :
    FitsWithStop budget [] ↔ WithinBudget stopResponseUsageEstimate budget := by
  rw [FitsWithStop, estimateStepUsage, List.foldl_nil, zero_addBudgetUsage]

theorem FitsWithStop.length_lt (h : FitsWithStop budget steps) :
    steps.length < budget.maxSteps := by
  have hsteps := h.steps
  have hadd : (addBudgetUsage (estimateStepUsage steps) stopResponseUsageEstimate).steps =
      steps.length + 1 := by
    rw [← steps_estimateStepUsage]
    rfl
  omega

/-- The loop selects steps greedily: its own cap on their number never stops it first. -/
theorem selectStepsFrom_eq (budget : AgentRunBudget) (selected rest : List AgentToolLoopStepPlan) :
    selectStepsFrom budget selected (estimateStepUsage selected) rest =
      GreedyPrefix.extend (fun steps => FitsWithStop budget steps) selected rest := by
  induction rest generalizing selected with
  | nil => rfl
  | cons step rest ih =>
    have husage : addBudgetUsage (estimateStepUsage selected) (estimateSingleStepUsage step) =
        estimateStepUsage (selected ++ [step]) := by
      rw [estimateStepUsage_append, estimateStepUsage_singleton]
    rw [selectStepsFrom, GreedyPrefix.extend]
    dsimp only
    rw [husage]
    by_cases hfits : FitsWithStop budget (selected ++ [step])
    · have hlength := hfits.length_lt
      rw [List.length_append, List.length_singleton] at hlength
      have hwithin := isWithinBudget_iff.mpr hfits
      rw [if_neg (by omega), hwithin, if_neg (by decide), if_pos (decide_eq_true hfits), ih]
    · have hwithin : isWithinBudget (addBudgetUsage (estimateStepUsage (selected ++ [step]))
          stopResponseUsageEstimate) budget = false := by
        rw [← Bool.not_eq_true, isWithinBudget_iff]
        exact hfits
      rw [hwithin, if_pos (by decide : (!false) = true), ite_self,
        if_neg (by simpa using hfits)]

theorem selectBudgetPrefixSteps_eq (budget : AgentRunBudget) :
    selectBudgetPrefixSteps steps budget =
      GreedyPrefix.extend (fun steps => FitsWithStop budget steps) [] steps :=
  selectStepsFrom_eq budget [] steps

/-- The steps kept are the longest front of the plan that fits with the stop response. -/
theorem selectBudgetPrefixSteps_spec :
    selectBudgetPrefixSteps steps budget <+: steps ∧
      (selectBudgetPrefixSteps steps budget = [] ∨
        FitsWithStop budget (selectBudgetPrefixSteps steps budget)) ∧
      ∀ front, front <+: steps → FitsWithStop budget front →
        front <+: selectBudgetPrefixSteps steps budget := by
  rw [selectBudgetPrefixSteps_eq]
  refine ⟨GreedyPrefix.extend_prefix.2, ?_, fun front hfront hfits => ?_⟩
  · exact GreedyPrefix.extend_keeps.imp_right of_decide_eq_true
  · exact GreedyPrefix.prefix_extend
      (fun hfront hlonger => decide_eq_true ((of_decide_eq_true hlonger).of_front hfront))
      List.nil_prefix hfront (decide_eq_true hfits)

section Promise

variable {steps : List AgentToolLoopStepPlan}

/-- What a decision promises of the steps kept and of the others. -/
structure BudgetStopSound
    (budget : AgentRunBudget)
    (steps completed unfinished : List AgentToolLoopStepPlan)
    (policy : AgentBudgetStopPolicy) : Prop where
  split : completed ++ unfinished = steps
  completedIds : policy.gracefulStop.completedStepIds =
    completed.map AgentToolLoopStepPlan.stepId
  unfinishedIds : policy.gracefulStop.unfinishedStepIds =
    unfinished.map AgentToolLoopStepPlan.stepId
  continues : policy.decision.status = .continue →
    unfinished = [] ∧ policy.plannedUsage = estimateStepUsage steps ∧
      WithinBudget policy.plannedUsage budget
  stops : policy.decision.status = .stopBeforeExecution →
    ¬WithinBudget (estimateStepUsage steps) budget ∧
      policy.plannedUsage =
        addBudgetUsage (estimateStepUsage completed) stopResponseUsageEstimate ∧
      policy.decision.stopBeforeStep = some (completed.length + 1)
  longest : policy.decision.status = .stopBeforeExecution →
    ∀ front, front <+: steps → FitsWithStop budget front → front <+: completed
  stopsWithin : policy.decision.status = .stopBeforeExecution →
    WithinBudget stopResponseUsageEstimate budget → WithinBudget policy.plannedUsage budget
  stopsBeyond : policy.decision.status = .stopBeforeExecution →
    ¬WithinBudget stopResponseUsageEstimate budget →
      completed = [] ∧ policy.plannedUsage = stopResponseUsageEstimate

theorem reasons_pos_iff :
    0 < (((createBudgetLimitStatus budget (estimateStepUsage steps)).filter
        fun limit => limit.status = .wouldExceed).map AgentBudgetLimit.dimension).length ↔
      ¬WithinBudget (estimateStepUsage steps) budget := by
  have hlimit : ∀ dimension estimated limit,
      (createBudgetLimit dimension estimated limit).status = .wouldExceed ↔ limit < estimated := by
    intro dimension estimated limit
    rw [createBudgetLimit]
    split
    next h => simp [h]
    next h => simp [h]
  rw [List.length_map, List.length_pos_iff, ne_eq, List.filter_eq_nil_iff, not_iff_not]
  simp only [createBudgetLimitStatus, List.forall_mem_cons, List.not_mem_nil, false_implies,
    implies_true, and_true, decide_eq_true_eq, hlimit, not_lt]
  exact ⟨fun ⟨hsteps, hcredits, hrows, htokens, hclock⟩ =>
      ⟨hcredits, hrows, hsteps, htokens, hclock⟩,
    fun h => ⟨h.steps, h.credits, h.rows, h.tokens, h.wallClockMs⟩⟩

def completedSteps (budget : AgentRunBudget) (steps : List AgentToolLoopStepPlan) :
    List AgentToolLoopStepPlan :=
  if WithinBudget (estimateStepUsage steps) budget then steps
  else selectBudgetPrefixSteps steps budget

theorem createBudgetStopPolicy_sound (budget : AgentRunBudget)
    (steps : List AgentToolLoopStepPlan) :
    BudgetStopSound budget steps (completedSteps budget steps)
      (steps.drop (completedSteps budget steps).length) (createBudgetStopPolicy budget steps) := by
  rw [completedSteps, createBudgetStopPolicy]
  simp only [reasons_pos_iff]
  by_cases hwithin : WithinBudget (estimateStepUsage steps) budget
  · simp only [hwithin, not_true_eq_false, if_true, if_false, List.drop_length]
    exact
      { split := List.append_nil steps
        completedIds := rfl
        unfinishedIds := rfl
        continues := fun _ => ⟨rfl, rfl, hwithin⟩
        stops := nofun
        longest := nofun
        stopsWithin := nofun
        stopsBeyond := nofun }
  · simp only [hwithin, not_false_eq_true, if_true, if_false]
    obtain ⟨hfront, hfits, hlongest⟩ := @selectBudgetPrefixSteps_spec budget steps
    refine
      { split := ?_
        completedIds := rfl
        unfinishedIds := rfl
        continues := nofun
        stops := fun _ => ⟨hwithin, rfl, rfl⟩
        longest := fun _ => hlongest
        stopsWithin := fun _ hstop => ?_
        stopsBeyond := fun _ hstop => ?_ }
    · exact List.prefix_iff_eq_append.mp hfront
    · rcases hfits with hempty | hfits
      · rw [hempty]
        exact fitsWithStop_nil.mpr hstop
      · exact hfits
    · have hempty : selectBudgetPrefixSteps steps budget = [] := by
        refine hfits.resolve_right fun hfits => hstop ?_
        exact fitsWithStop_nil.mp (hfits.of_front List.nil_prefix)
      refine ⟨hempty, ?_⟩
      rw [hempty]
      exact zero_addBudgetUsage

theorem completedSteps_length (hlimit : 1 ≤ budget.maxSteps)
    (hstop : ¬WithinBudget (estimateStepUsage steps) budget) :
    (completedSteps budget steps).length + 1 ≤ budget.maxSteps := by
  rw [completedSteps, if_neg hstop]
  rcases (@selectBudgetPrefixSteps_spec budget steps).2.1 with hempty | hfits
  · rw [hempty]
    exact hlimit
  · exact hfits.length_lt

end Promise

end Aiphabee.AgentPlanner
