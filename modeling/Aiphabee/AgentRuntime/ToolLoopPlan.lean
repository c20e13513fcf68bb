import Aiphabee.AgentRuntime.BudgetStop

/-!
# The plan of a tool loop

A plan is made of the skeleton of the run.  A kill switch or an open question leaves one
step, the answer; otherwise the steps are those of the tools.  The budget then stops the
plan early where the steps do not fit, and the steps that are kept are followed by the
response that says so.

Regular expressions and letter cases of the platform are parameters.
-/

namespace Aiphabee.AgentPlanner

open JsString (trim isWhiteSpace)

structure PlannerPlatform where
  toUpperCase : String → String
  toLowerCase : String → String
  symbolMatches : String → List String
  mentionsTencent : String → Bool
  mentionsAbc : String → Bool

variable (platform : PlannerPlatform)

structure PreToolCallAssumption where
  field : String
  reason : String
  value : String

structure PreToolCallClarification where
  field : String
  question : String
  reason : String

inductive PreToolCallDimensionStatus
  | assumed
  | needsClarification
  | resolved
deriving DecidableEq

structure SecurityCandidate where
  instrumentId : String
  symbol : String

structure SecurityContext where
  ambiguousCandidates : List SecurityCandidate
  query : String
  resolved : List SecurityCandidate
  status : PreToolCallDimensionStatus
  assumptions : List PreToolCallAssumption
  clarifications : List PreToolCallClarification

def normalizeOptionalText (value : Option String) : Option String :=
  value.bind fun text => if trim text = "" then none else some (trim text)

def normalizeSecurityInputs (explicitSecurities : Option (List String)) (query : String) :
    List String :=
  match explicitSecurities with
  | some securities => (securities.map trim).filter fun security => security ≠ ""
  | none =>
    let prompt := trim query
    ((platform.symbolMatches prompt).map platform.toUpperCase ++
      (if platform.mentionsTencent prompt then ["00700.HK"] else []) ++
        if platform.mentionsAbc prompt then ["ABC"] else []).eraseDups

/-- The securities that the planner knows, each traded in Hong Kong dollars. -/
def knownSecurity (normalized : String) : Option SecurityCandidate :=
  if normalized = "00700.HK" ∨ normalized = "TENCENT" ∨ normalized = "腾讯" then
    some ⟨"eq_hk_00700", "00700.HK"⟩
  else if normalized = "00001.HK" then
    some ⟨"eq_hk_00001", "00001.HK"⟩
  else if normalized = "08001.HK" then
    some ⟨"eq_hk_08001", "08001.HK"⟩
  else
    none

def securityClarification (question reason : String) : PreToolCallClarification where
  field := "security"
  question := question
  reason := reason

variable (input : AgentRunSkeletonInput)

def resolveSecurityContext : SecurityContext :=
  let query := (normalizeOptionalText input.securityQuery).getD (trim input.prompt)
  let securities := normalizeSecurityInputs platform input.securities query
  let resolved := securities.filterMap fun security =>
    knownSecurity (platform.toUpperCase security)
  let ambiguousCandidates := securities.flatMap fun security =>
    if knownSecurity (platform.toUpperCase security) = none ∧
        platform.toUpperCase security = "ABC" then
      [⟨"eq_hk_00001", "00001.HK"⟩, ⟨"eq_hk_08001", "08001.HK"⟩]
    else
      []
  let unknown := securities.filter fun security =>
    knownSecurity (platform.toUpperCase security) = none ∧ platform.toUpperCase security ≠ "ABC"
  let clarifications :=
    (unknown.map fun security => securityClarification
      ("Which listed security should be used for \"" ++ security ++ "\"?")
      "security identifier could not be resolved before tool planning") ++
    (if securities = [] then
      [securityClarification
        "Which security should AiphaBee analyze before calling tools?"
        "no security identifier or company name was found in the prompt"]
    else
      []) ++
    (if ambiguousCandidates ≠ [] then
      [securityClarification
        "Which candidate security should be used for ABC?"
        "security identifier is ambiguous and cannot be silently selected"]
    else
      []) ++
    (if resolved = [] ∧ ambiguousCandidates = [] ∧ securities ≠ [] then
      [securityClarification
        "Provide a supported symbol such as 00700.HK before tool calls."
        "no supported security fixture matched the request"]
    else
      [])
  { ambiguousCandidates := ambiguousCandidates
    query := query
    resolved := resolved
    status :=
      if clarifications ≠ [] then .needsClarification
      else if input.securities = none then .assumed
      else .resolved
    assumptions :=
      if resolved ≠ [] ∧ input.securities = none then
        [{ field := "security"
           reason := "security was inferred from the prompt before tool planning"
           value := ",".intercalate (resolved.map SecurityCandidate.symbol) }]
      else
        []
    clarifications := clarifications }

structure TimeContext where
  asOf : String
  status : PreToolCallDimensionStatus
  timeRange : Option (String × String)
  assumptions : List PreToolCallAssumption

def resolveTimeContext : TimeContext :=
  let timeRange :=
    match normalizeOptionalText input.timeRange.end,
      normalizeOptionalText input.timeRange.start with
    | some stop, some start => some (stop, start)
    | _, _ => none
  match normalizeOptionalText input.asOf with
  | some asOf =>
    { asOf := asOf, status := .resolved, timeRange := timeRange, assumptions := [] }
  | none =>
    { asOf := "latest_available"
      status := .assumed
      timeRange := timeRange
      assumptions :=
        [{ field := "time.as_of"
           reason :=
             "no as_of was supplied, so the planner uses the latest available snapshot"
           value := "latest_available" }] }

structure CurrencyContext where
  currency : String
  status : PreToolCallDimensionStatus
  assumptions : List PreToolCallAssumption

def resolveCurrencyContext : CurrencyContext :=
  match (normalizeOptionalText input.currency).map platform.toUpperCase with
  | some currency =>
    { currency := currency
      status :=
        if currency = "HKD" ∨ currency = "USD" ∨ currency = "CNY" then .resolved
        else .needsClarification
      assumptions := [] }
  | none =>
    { currency := "HKD"
      status := .assumed
      assumptions :=
        [{ field := "currency"
           reason :=
             "no currency was supplied, so the planner uses the primary security currency"
           value := "HKD" }] }

structure MethodologyContext where
  financialFactsVersion : String
  priceAdjustment : String
  status : PreToolCallDimensionStatus
  assumptions : List PreToolCallAssumption

def resolveMethodologyContext : MethodologyContext :=
  match normalizeOptionalText input.methodology with
  | some methodology =>
    { financialFactsVersion := methodology
      priceAdjustment := methodology
      status := .resolved
      assumptions := [] }
  | none =>
    { financialFactsVersion := "latest_reported"
      priceAdjustment := "split_adjusted"
      status := .assumed
      assumptions :=
        [{ field := "methodology.price_adjustment"
           reason := "no price methodology was supplied before planning"
           value := "split_adjusted" },
         { field := "methodology.financial_facts_version"
           reason := "no financial-facts methodology was supplied before planning"
           value := "latest_reported" }] }

inductive PreToolCallStatus
  | needsClarification
  | ready
  | readyWithAssumptions

structure PreToolCallResolution where
  assumptions : List PreToolCallAssumption
  clarificationRequired : Bool
  clarifications : List PreToolCallClarification
  currency : CurrencyContext
  methodology : MethodologyContext
  requestId : String
  security : SecurityContext
  status : PreToolCallStatus
  time : TimeContext
  blockedTools : List String

def createPreToolCallResolution : Except AgentRuntimeInputError PreToolCallResolution := do
  let _ ← assertPrompt input.prompt
  let requestedTools := input.requestedTools.getD defaultAgentRunTools
  assertRegisteredTools requestedTools
  let security := resolveSecurityContext platform input
  let time := resolveTimeContext input
  let currency := resolveCurrencyContext platform input
  let methodology := resolveMethodologyContext input
  let assumptions := security.assumptions ++ time.assumptions ++ currency.assumptions ++
    methodology.assumptions
  let clarifications := security.clarifications ++
    if currency.status = .needsClarification then
      [{ field := "currency"
         question := "Which supported reporting currency should be used: HKD, USD, or CNY?"
         reason := "currency must be resolved before tool planning" }]
    else
      []
  let clarificationRequired := 0 < clarifications.length
  return {
    assumptions := assumptions
    clarificationRequired := clarificationRequired
    clarifications := clarifications
    currency := currency
    methodology := methodology
    requestId := input.requestId
    security := security
    status :=
      if clarificationRequired then .needsClarification
      else if 0 < assumptions.length then .readyWithAssumptions
      else .ready
    time := time
    blockedTools :=
      if clarificationRequired then (validateRegisteredTools requestedTools).allowedTools
      else [] }

inductive AgentKillSwitchTarget
  | all
  | model
  | none
  | tool

inductive AgentKillSwitchDegradationMode
  | noModelNoTools
  | normalNoLive
  | toolOnlyNoModel

structure AgentKillSwitchPlan where
  degraded : Bool
  degradationMode : AgentKillSwitchDegradationMode
  modelRequestBlocked : Bool
  toolExecutionBlocked : Bool
  reason : Option String
  requestId : String
  target : AgentKillSwitchTarget

def createAgentKillSwitchPlan : AgentKillSwitchPlan :=
  let modelKillSwitch := input.modelKillSwitch = some true
  let toolKillSwitch := input.toolKillSwitch = some true
  { degraded := modelKillSwitch ∨ toolKillSwitch
    degradationMode :=
      if toolKillSwitch then .noModelNoTools
      else if modelKillSwitch then .toolOnlyNoModel
      else .normalNoLive
    modelRequestBlocked := modelKillSwitch
    toolExecutionBlocked := toolKillSwitch
    reason := normalizeOptionalText input.killSwitchReason
    requestId := input.requestId
    target :=
      if modelKillSwitch ∧ toolKillSwitch then .all
      else if modelKillSwitch then .model
      else if toolKillSwitch then .tool
      else .none }

/-- The text with the first underscore as a hyphen. -/
def hyphenated : List Char → List Char
  | [] => []
  | c :: rest => if c = '_' then '-' :: rest else c :: hyphenated rest

def normalizeAgentResponseLocale (value : Option String) : AgentResponseLocale :=
  let normalized := value.map fun text =>
    String.ofList (hyphenated (platform.toLowerCase (trim text)).toList)
  let simplified := ["zh-hans", "zh-cn", "zh-sg", "simplified", "sc", "简中", "简体", "简体中文"]
  let english := ["en", "en-us", "en-gb", "english"]
  if normalized.any simplified.contains then .zhHans
  else if normalized.any english.contains then .en
  else .zhHant

structure AgentToolEnforcementCheck where
  name : RegisteredToolName
  registered : Bool
  versioned : Bool
  schemaBound : Bool
  permissionAware : Bool

def createToolEnforcementCheck (tool : AgentRunToolContext) : AgentToolEnforcementCheck where
  name := tool.name
  registered := isRegisteredToolName tool.name.text
  versioned := trim tool.version ≠ ""
  schemaBound := trim tool.inputSchemaId ≠ "" ∧ trim tool.outputSchemaId ≠ ""
  permissionAware := trim tool.requiredScope ≠ "" ∧ tool.dataClasses ≠ []

def AgentToolEnforcementCheck.allowed (check : AgentToolEnforcementCheck) : Bool :=
  check.registered && check.versioned && check.schemaBound && check.permissionAware

def createToolEnforcement (requestedTools : List String) (tools : List AgentRunToolContext) :
    Except AgentRuntimeInputError (List AgentToolEnforcementCheck) :=
  let deniedTools := requestedTools.filter fun toolName => !isRegisteredToolName toolName
  let toolChecks := tools.map createToolEnforcementCheck
  if deniedTools = [] ∧ toolChecks.all AgentToolEnforcementCheck.allowed then
    .ok toolChecks
  else
    .error
      { code := .unregisteredTool
        message := "requested tools must be registered, versioned, schema-bound, " ++
          "permission-aware, and no-arbitrary-SQL/URL"
        details :=
          [("deniedTools", .texts deniedTools),
            ("failedTools", .texts ((toolChecks.filter fun check => !check.allowed).map
              fun check => check.name.text))] }

inductive AgentToolLoopPlanStatus
  | degradedKillSwitch
  | plannedNoModel
  | stoppedBudget

structure AgentToolLoopPlan where
  budget : AgentRunBudget
  budgetStopPolicy : AgentBudgetStopPolicy
  killSwitch : AgentKillSwitchPlan
  plannedStepCount : Nat
  requestId : String
  preToolCallResolution : PreToolCallResolution
  runContext : AgentRunContext
  runId : String
  status : AgentToolLoopPlanStatus
  steps : List AgentToolLoopStepPlan
  toolEnforcement : List AgentToolEnforcementCheck

def answerOnly (label : String) : List AgentToolLoopStepPlan :=
  [createStep 1 .answerContract .answerContract label []]

def naturalStepsOf (killSwitch : AgentKillSwitchPlan) (resolution : PreToolCallResolution)
    (tools : List AgentRunToolContext) (locale : AgentResponseLocale) :
    List AgentToolLoopStepPlan :=
  if killSwitch.toolExecutionBlocked then
    answerOnly (toolLoopPublicLabel locale .safeDegraded)
  else if resolution.clarificationRequired then
    answerOnly (toolLoopPublicLabel locale .requestClarification)
  else
    createToolLoopSteps tools locale

def createToolLoopAgentPlan : Except AgentRuntimeInputError AgentToolLoopPlan := do
  let locale := normalizeAgentResponseLocale platform input.locale
  let skeleton ← createAgentRunSkeleton input
  let preToolCallResolution ← createPreToolCallResolution platform input
  let killSwitch := createAgentKillSwitchPlan input
  let naturalSteps :=
    naturalStepsOf killSwitch preToolCallResolution skeleton.runContext.tools locale
  let budgetStopPolicy := createBudgetStopPolicy skeleton.runContext.budget naturalSteps
  let toolEnforcement ← createToolEnforcement skeleton.requestedTools skeleton.runContext.tools
  let stops := budgetStopPolicy.decision.status = .stopBeforeExecution
  let steps :=
    if stops then createBudgetStoppedSteps naturalSteps budgetStopPolicy locale else naturalSteps
  return {
    budget := skeleton.runContext.budget
    budgetStopPolicy := budgetStopPolicy
    killSwitch := killSwitch
    plannedStepCount := steps.length
    requestId := skeleton.requestId
    preToolCallResolution := preToolCallResolution
    runContext := skeleton.runContext
    runId := skeleton.runId
    status :=
      if killSwitch.degraded then .degradedKillSwitch
      else if stops then .stoppedBudget
      else .plannedNoModel
    steps := steps
    toolEnforcement := toolEnforcement }

section Facts

variable {platform}
variable {input : AgentRunSkeletonInput}
variable {skeleton : AgentRunSkeleton}
variable {plan : AgentToolLoopPlan}

theorem trim_ne_empty {text : String} {c : Char} (hmem : c ∈ text.toList)
    (hc : isWhiteSpace c = false) : trim text ≠ "" := by
  have hkept : ∀ {chars : List Char}, c ∈ chars → c ∈ chars.dropWhile isWhiteSpace := by
    intro chars h
    rw [← List.takeWhile_append_dropWhile (p := isWhiteSpace) (l := chars)] at h
    refine (List.mem_append.mp h).resolve_left fun hwhite => ?_
    have hall := List.all_eq_true.mp (List.all_takeWhile (l := chars)) c hwhite
    rw [hall] at hc
    cases hc
  intro hempty
  have hchars := congrArg String.toList hempty
  rw [trim, String.toList_ofList] at hchars
  have hlast := List.mem_reverse.mpr (hkept (List.mem_reverse.mpr (hkept hmem)))
  rw [hchars] at hlast
  cases hlast

theorem registered_allowed {tool : RegisteredToolDefinition} (h : tool ∈ registeredTools) :
    (createToolEnforcementCheck (toolContextOf tool)).allowed = true := by
  have hdefinitions : ∀ tool ∈ registeredTools, tool.version = "0.0.0" ∧
      ':' ∈ tool.requiredScope.toList ∧ tool.dataClasses ≠ [] := by
    decide +kernel
  obtain ⟨hversion, hscope, hclasses⟩ := hdefinitions tool h
  have hregistered : isRegisteredToolName tool.name.text = true :=
    List.contains_iff_mem.mpr (List.mem_map_of_mem h)
  have hschema : ∀ ending, trim ("tool." ++ tool.name.text ++ ending) ≠ "" := by
    intro ending
    have hletter : 't' ∈ ("tool." ++ tool.name.text ++ ending).toList := by simp
    exact trim_ne_empty hletter (by decide)
  have hversioned : trim "0.0.0" ≠ "" := by decide +kernel
  simp [AgentToolEnforcementCheck.allowed, createToolEnforcementCheck, toolContextOf, hregistered,
    hversion, hversioned, hschema, trim_ne_empty hscope (by decide), hclasses]

theorem createToolEnforcement_of_accepted (h : SkeletonAccepted input skeleton) :
    ∃ checks, createToolEnforcement skeleton.requestedTools skeleton.runContext.tools =
      .ok checks := by
  obtain ⟨tools, htools, hcontexts⟩ := h.tools
  have hchecks : (skeleton.runContext.tools.map createToolEnforcementCheck).all
      AgentToolEnforcementCheck.allowed = true := by
    rw [hcontexts, List.all_eq_true]
    intro check hcheck
    obtain ⟨context, hcontext, rfl⟩ := List.mem_map.mp hcheck
    obtain ⟨tool, htool, rfl⟩ := List.mem_map.mp hcontext
    exact registered_allowed ((texts_of_definitions htools).1 tool htool)
  exact ⟨_, if_pos ⟨h.noneDenied, hchecks⟩⟩

theorem plan_of_skeleton (platform : PlannerPlatform)
    (h : createAgentRunSkeleton input = .ok skeleton) :
    ∃ plan, createToolLoopAgentPlan platform input = .ok plan := by
  obtain ⟨checks, hchecks⟩ :=
    createToolEnforcement_of_accepted (createAgentRunSkeleton_spec h)
  have hresolution : ∃ resolution, createPreToolCallResolution platform input =
      .ok resolution := by
    simp only [createAgentRunSkeleton, Checks.bind_eq_ok] at h
    obtain ⟨prompt, hprompt, _, -, _, hregistered, -⟩ := h
    simp only [createPreToolCallResolution, hprompt, hregistered]
    exact ⟨_, rfl⟩
  obtain ⟨resolution, hresolution⟩ := hresolution
  exact ⟨_, Checks.bind_eq_ok.mpr ⟨skeleton, h, Checks.bind_eq_ok.mpr
    ⟨resolution, hresolution, Checks.bind_eq_ok.mpr ⟨checks, hchecks, rfl⟩⟩⟩⟩

theorem numbered_answerOnly (label : String) : Numbered (answerOnly label) :=
  numbered_numbered [⟨.answerContract, .answerContract, label, []⟩]

theorem numbered_naturalSteps (killSwitch : AgentKillSwitchPlan)
    (resolution : PreToolCallResolution) (tools : List AgentRunToolContext)
    (locale : AgentResponseLocale) :
    Numbered (naturalStepsOf killSwitch resolution tools locale) := by
  rw [naturalStepsOf]
  split
  · exact numbered_answerOnly _
  · split
    · exact numbered_answerOnly _
    · rw [createToolLoopSteps_eq]
      exact numbered_numbered _

theorem filter_keys_front {α : Type} (key : α → String) (front rest : List α)
    (hnodup : ((front ++ rest).map key).Nodup) :
    (front ++ rest).filter (fun item => (front.map key).contains (key item)) = front := by
  rw [List.map_append] at hnodup
  have hdisjoint := (List.nodup_append.mp hnodup).2.2
  rw [List.filter_append, List.filter_eq_self.mpr, List.filter_eq_nil_iff.mpr, List.append_nil]
  · intro item hitem hmem
    exact hdisjoint _ (List.contains_iff_mem.mp hmem) _ (List.mem_map_of_mem hitem) rfl
  · intro item hitem
    exact List.contains_iff_mem.mpr (List.mem_map_of_mem hitem)

theorem Numbered.concat {front rest : List AgentToolLoopStepPlan} (h : Numbered (front ++ rest))
    (kind : AgentToolLoopStepKind) (phase : AgentToolLoopPhase) (label : String) :
    Numbered (front ++ [createStep (front.length + 1) kind phase label []]) := by
  constructor
  · have hfront : front.map AgentToolLoopStepPlan.index = List.range' 1 front.length := by
      have hindices := congrArg (List.take front.length) h.indices
      rwa [List.map_append, List.take_left' (by simp), List.length_append,
        List.take_range'_of_length_ge (Nat.le_add_right _ _)] at hindices
    rw [List.map_append, hfront, List.length_append, List.length_singleton, List.range'_concat,
      Nat.one_mul, Nat.add_comm 1]
    rfl
  · intro step hstep
    rcases List.mem_append.mp hstep with hfront | hlast
    · exact h.ids step (List.mem_append_left _ hfront)
    · rw [List.mem_singleton.mp hlast]
      rfl

theorem createBudgetStoppedSteps_eq (budget : AgentRunBudget) {steps : List AgentToolLoopStepPlan}
    (h : Numbered steps) (locale : AgentResponseLocale) :
    createBudgetStoppedSteps steps (createBudgetStopPolicy budget steps) locale =
      completedSteps budget steps ++ [createStep ((completedSteps budget steps).length + 1)
        .answerContract .answerContract (toolLoopPublicLabel locale .budgetStop) []] := by
  have hsound := createBudgetStopPolicy_sound budget steps
  have hkept : (steps.filter fun step =>
      (createBudgetStopPolicy budget steps).gracefulStop.completedStepIds.contains step.stepId) =
        completedSteps budget steps := by
    have hnodup := h.nodup_ids
    rw [← hsound.split] at hnodup
    have hfilter := filter_keys_front AgentToolLoopStepPlan.stepId _ _ hnodup
    rw [hsound.split] at hfilter
    rw [hsound.completedIds]
    exact hfilter
  rw [createBudgetStoppedSteps, hkept]

structure PlanStepsSound (plan : AgentToolLoopPlan) : Prop where
  policy : ∃ naturalSteps,
    plan.budgetStopPolicy = createBudgetStopPolicy plan.budget naturalSteps
  numbered : Numbered plan.steps
  count : plan.plannedStepCount = plan.steps.length
  withinLimit : plan.steps.length ≤ plan.budget.maxSteps

theorem plan_steps_sound (h : createToolLoopAgentPlan platform input = .ok plan) :
    PlanStepsSound plan := by
  simp only [createToolLoopAgentPlan, Checks.bind_eq_ok] at h
  obtain ⟨skeleton, hskeleton, resolution, -, checks, -, h⟩ := h
  obtain rfl := Except.ok.inj h
  have haccepted := createAgentRunSkeleton_spec hskeleton
  have hnumbered := numbered_naturalSteps (createAgentKillSwitchPlan input) resolution
    skeleton.runContext.tools (normalizeAgentResponseLocale platform input.locale)
  generalize naturalStepsOf (createAgentKillSwitchPlan input) resolution
    skeleton.runContext.tools (normalizeAgentResponseLocale platform input.locale) = natural
    at hnumbered ⊢
  have hsound := createBudgetStopPolicy_sound skeleton.runContext.budget natural
  refine ⟨⟨natural, rfl⟩, ?_, rfl, ?_⟩
  · dsimp only
    split
    · rw [createBudgetStoppedSteps_eq _ hnumbered]
      rw [← hsound.split] at hnumbered
      exact hnumbered.concat _ _ _
    · exact hnumbered
  · dsimp only
    split
    next hstop =>
      rw [createBudgetStoppedSteps_eq _ hnumbered, List.length_append, List.length_singleton]
      exact completedSteps_length haccepted.maxSteps (hsound.stops hstop).1
    next hcontinue =>
      have hstatus : (createBudgetStopPolicy skeleton.runContext.budget natural).decision.status =
          .continue := by
        revert hcontinue
        cases (createBudgetStopPolicy skeleton.runContext.budget natural).decision.status <;> simp
      obtain ⟨-, hplanned, hwithin⟩ := hsound.continues hstatus
      rw [hplanned] at hwithin
      exact (steps_estimateStepUsage natural).symm.le.trans hwithin.steps

/-- Every stop policy splits its steps and keeps to the budget as far as the response that
stops the run does, and every accepted run has a plan of numbered steps within its limit. -/
theorem budgetStop_spec (platform : PlannerPlatform) :
    (∀ budget steps, ∃ completed unfinished,
      BudgetStopSound budget steps completed unfinished (createBudgetStopPolicy budget steps)) ∧
    (∀ input skeleton, createAgentRunSkeleton input = .ok skeleton →
      ∃ plan, createToolLoopAgentPlan platform input = .ok plan) ∧
    ∀ input plan, createToolLoopAgentPlan platform input = .ok plan → PlanStepsSound plan :=
  ⟨fun budget steps => ⟨_, _, createBudgetStopPolicy_sound budget steps⟩,
    fun _ _ h => plan_of_skeleton platform h, fun _ _ h => plan_steps_sound h⟩

/-- A budget of a hundred tokens is accepted, and a stopped plan exceeds it. -/
theorem hundredTokens_exceeded :
    ∃ budget,
      createAgentRunBudget { maxSteps := 6, maxTokens := some (.ofNat 100) } = .ok budget ∧
      (createBudgetStopPolicy budget (answerOnly "")).decision.status = .stopBeforeExecution ∧
      ¬WithinBudget (createBudgetStopPolicy budget (answerOnly "")).plannedUsage budget := by
  refine ⟨⟨20, 500, 6, 100, 30000⟩, ?_, ?_, ?_⟩
  all_goals decide +kernel

end Facts

end Aiphabee.AgentPlanner
