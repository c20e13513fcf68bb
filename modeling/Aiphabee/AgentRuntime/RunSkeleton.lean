import Aiphabee.Text.Checks
import Aiphabee.Text.JsString
import Aiphabee.Text.JsNumber

/-!
# Dry runs of the agent

A run names registered tools and a budget.  Before anything is planned, the skeleton of
the run checks the prompt, the step limit, the tools and the budget, in this order, and
puts together the context of the run with the contexts of its tools.
-/

namespace Aiphabee.AgentPlanner

inductive RegisteredToolName
  | resolveSecurity
  | getSecurityProfile
  | getMarketCalendar
  | getQuoteSnapshot
  | getPriceHistory
  | getCorporateActions
  | getFinancialFacts
  | getFinancialRatios
  | searchAnnouncements
  | getAnnouncement
  | screenSecurities
  | compareSecurities
  | calculateReturnsRisk
  | getEventTimeline
  | getDataLineage
  | getEntitlements
  | getIpoProfile
  | searchIpoCalendar
  | getIpoTimetable
  | getIpoOffering
  | getIpoAllotment
  | screenIpos
  | compareIpos
  | analyzePublicTechnicalSignal
  | parseChartImage
deriving DecidableEq

def RegisteredToolName.text : RegisteredToolName → String
  | .resolveSecurity => "resolve_security"
  | .getSecurityProfile => "get_security_profile"
  | .getMarketCalendar => "get_market_calendar"
  | .getQuoteSnapshot => "get_quote_snapshot"
  | .getPriceHistory => "get_price_history"
  | .getCorporateActions => "get_corporate_actions"
  | .getFinancialFacts => "get_financial_facts"
  | .getFinancialRatios => "get_financial_ratios"
  | .searchAnnouncements => "search_announcements"
  | .getAnnouncement => "get_announcement"
  | .screenSecurities => "screen_securities"
  | .compareSecurities => "compare_securities"
  | .calculateReturnsRisk => "calculate_returns_risk"
  | .getEventTimeline => "get_event_timeline"
  | .getDataLineage => "get_data_lineage"
  | .getEntitlements => "get_entitlements"
  | .getIpoProfile => "get_ipo_profile"
  | .searchIpoCalendar => "search_ipo_calendar"
  | .getIpoTimetable => "get_ipo_timetable"
  | .getIpoOffering => "get_ipo_offering"
  | .getIpoAllotment => "get_ipo_allotment"
  | .screenIpos => "screen_ipos"
  | .compareIpos => "compare_ipos"
  | .analyzePublicTechnicalSignal => "analyze_public_technical_signal"
  | .parseChartImage => "parse_chart_image"

structure RegisteredToolDefinition where
  name : RegisteredToolName
  dataClasses : List String
  requiredScope : String
  handlerReady : Bool := true
  version : String := "0.0.0"

/-- The tools of new listings share their scope and their data class. -/
def createIpoToolDefinition (name : RegisteredToolName) : RegisteredToolDefinition where
  name := name
  dataClasses := ["ipo_pipeline"]
  requiredScope := "ipo:read"

def registeredTools : List RegisteredToolDefinition :=
  [{ name := .resolveSecurity, requiredScope := "security:read"
     dataClasses := ["security_master"] },
   { name := .getSecurityProfile, requiredScope := "security:read"
     dataClasses := ["security_master"] },
   { name := .getMarketCalendar, requiredScope := "calendar:read"
     dataClasses := ["market_calendar"] },
   { name := .getQuoteSnapshot, requiredScope := "quotes:read"
     dataClasses := ["quote_snapshot"] },
   { name := .getPriceHistory, requiredScope := "prices:read"
     dataClasses := ["price_history", "corporate_actions"] },
   { name := .getCorporateActions, requiredScope := "corporate_actions:read"
     dataClasses := ["corporate_actions"] },
   { name := .getFinancialFacts, requiredScope := "financials:read"
     dataClasses := ["financial_facts"] },
   { name := .getFinancialRatios, requiredScope := "financials:read"
     dataClasses := ["financial_facts", "financial_ratios", "percentile_benchmarks"] },
   { name := .searchAnnouncements, requiredScope := "announcements:read"
     dataClasses := ["announcements"] },
   { name := .getAnnouncement, requiredScope := "announcements:read"
     dataClasses := ["announcements"] },
   { name := .screenSecurities, requiredScope := "analytics:read"
     dataClasses := ["financial_facts", "quote_snapshot", "screening"] },
   { name := .compareSecurities, requiredScope := "analytics:read"
     dataClasses := ["financial_facts", "quote_snapshot", "security_profile"] },
   { name := .calculateReturnsRisk, requiredScope := "analytics:read"
     dataClasses := ["price_history", "returns_risk"] },
   { name := .getEventTimeline, requiredScope := "events:read"
     dataClasses :=
       ["announcements", "corporate_actions", "financial_facts", "market_calendar"] },
   { name := .getDataLineage, requiredScope := "lineage:read"
     dataClasses := ["lineage"] },
   { name := .getEntitlements, requiredScope := "entitlements:read"
     dataClasses := ["entitlements"] },
   createIpoToolDefinition .getIpoProfile,
   createIpoToolDefinition .searchIpoCalendar,
   createIpoToolDefinition .getIpoTimetable,
   createIpoToolDefinition .getIpoOffering,
   createIpoToolDefinition .getIpoAllotment,
   createIpoToolDefinition .screenIpos,
   createIpoToolDefinition .compareIpos,
   { name := .analyzePublicTechnicalSignal, requiredScope := "technical_analysis:read"
     dataClasses :=
       ["public_observation_signal", "ephemeral_public_ohlcv", "technical_signal"] },
   { name := .parseChartImage, requiredScope := "technical_analysis:read"
     dataClasses := ["chart_image", "chart_parse_result"] }]

def getRegisteredToolNames : List String :=
  registeredTools.map fun tool => tool.name.text

def isRegisteredToolName (toolName : String) : Bool :=
  getRegisteredToolNames.contains toolName

/-- Both lists keep the order of the request and its repetitions. -/
structure ToolRegistryValidationResult where
  allowedTools : List String
  deniedTools : List String

def validateRegisteredTools (requestedTools : List String) : ToolRegistryValidationResult where
  allowedTools := requestedTools.filter isRegisteredToolName
  deniedTools := requestedTools.filter fun tool => !isRegisteredToolName tool

inductive AgentRuntimeInputErrorCode
  | contextRequired
  | invalidChannel
  | invalidModelTier
  | promptRequired
  | stepLimitOutOfRange
  | unregisteredTool
deriving DecidableEq

inductive ErrorDetail
  | text (value : String)
  | texts (values : List String)
  | number (value : JsNumber)
deriving DecidableEq

structure AgentRuntimeInputError where
  code : AgentRuntimeInputErrorCode
  message : String
  details : List (String × ErrorDetail) := []
deriving DecidableEq

def minSteps : Nat := 1
def supportedMaxSteps : Nat := 8
def maxParallelTools : Nat := 3

/-- The positive integers among the numbers, as naturals. -/
def positiveInteger? : JsNumber → Option Nat
  | .finite value => if value.den = 1 ∧ 0 < value.num then some value.num.toNat else none
  | _ => none

def assertStepLimit (maxSteps : JsNumber) : Except AgentRuntimeInputError Nat :=
  match positiveInteger? maxSteps with
  | some steps =>
    if minSteps ≤ steps ∧ steps ≤ supportedMaxSteps then .ok steps
    else .error
      { code := .stepLimitOutOfRange
        message := "maxSteps must be an integer from 1 to 8"
        details := [("maxSteps", .number maxSteps)] }
  | none =>
    .error
      { code := .stepLimitOutOfRange
        message := "maxSteps must be an integer from 1 to 8"
        details := [("maxSteps", .number maxSteps)] }

/-- A limit left out takes its default; one given has to be a positive integer. -/
def normalizePositiveInteger (value : Option JsNumber) (fallback : Nat) (field : String) :
    Except AgentRuntimeInputError Nat :=
  match value with
  | none => .ok fallback
  | some number =>
    match positiveInteger? number with
    | some amount => .ok amount
    | none =>
      .error
        { code := .stepLimitOutOfRange
          message := field ++ " must be a positive integer"
          details := [(field, .number number)] }

/-- A text left out takes its default; one given is trimmed and may not be blank. -/
def normalizeText (value : Option String) (fallback field : String) :
    Except AgentRuntimeInputError String :=
  match value with
  | none => .ok fallback
  | some text =>
    if JsString.trim text = "" then
      .error { code := .contextRequired, message := field ++ " is required" }
    else
      .ok (JsString.trim text)

inductive AgentChannel
  | api
  | mcp
  | web

def normalizeChannel : Option String → Except AgentRuntimeInputError AgentChannel
  | none => .ok .web
  | some value =>
    if value = "api" then .ok .api
    else if value = "mcp" then .ok .mcp
    else if value = "web" then .ok .web
    else .error
      { code := .invalidChannel
        message := "channel must be api, mcp, or web"
        details := [("channel", .text value)] }

def normalizeModelTier : Option String → Except AgentRuntimeInputError String
  | none => .ok "dry_run"
  | some value =>
    if value = "dry_run" then .ok value
    else .error
      { code := .invalidModelTier
        message := "modelTier must be dry_run until model provider is configured"
        details := [("modelTier", .text value)] }

structure AgentRunBudget where
  maxCredits : Nat
  maxRows : Nat
  maxSteps : Nat
  maxTokens : Nat
  maxWallClockMs : Nat
deriving DecidableEq

structure AgentRunBudgetInput where
  maxCredits : Option JsNumber := none
  maxRows : Option JsNumber := none
  maxSteps : Nat
  maxTokens : Option JsNumber := none
  maxWallClockMs : Option JsNumber := none

def createAgentRunBudget (input : AgentRunBudgetInput) :
    Except AgentRuntimeInputError AgentRunBudget := do
  let maxCredits ← normalizePositiveInteger input.maxCredits 20 "maxCredits"
  let maxRows ← normalizePositiveInteger input.maxRows 500 "maxRows"
  let maxTokens ← normalizePositiveInteger input.maxTokens 8000 "maxTokens"
  let maxWallClockMs ← normalizePositiveInteger input.maxWallClockMs 30000 "maxWallClockMs"
  return {
    maxCredits := maxCredits
    maxRows := maxRows
    maxSteps := input.maxSteps
    maxTokens := maxTokens
    maxWallClockMs := maxWallClockMs }

structure AgentRunToolContext where
  dataClasses : List String
  handlerReady : Bool
  inputSchemaId : String
  name : RegisteredToolName
  outputSchemaId : String
  requiredScope : String
  version : String
deriving DecidableEq

def toolContextOf (tool : RegisteredToolDefinition) : AgentRunToolContext where
  dataClasses := tool.dataClasses
  handlerReady := tool.handlerReady
  inputSchemaId := "tool." ++ tool.name.text ++ ".input.v0"
  name := tool.name
  outputSchemaId := "tool." ++ tool.name.text ++ ".output.v0"
  requiredScope := tool.requiredScope
  version := tool.version

def getRegisteredToolDefinition (toolName : String) :
    Except AgentRuntimeInputError RegisteredToolDefinition :=
  match registeredTools.find? fun tool => tool.name.text = toolName with
  | some definition => .ok definition
  | none =>
    .error
      { code := .unregisteredTool
        message := "requested tool is not registered"
        details := [("deniedTools", .texts [toolName])] }

structure AgentRunContextInput where
  budget : AgentRunBudget
  channel : Option String
  entitlementPolicyVersion : Option String
  modelTier : Option String
  plan : Option String
  requestId : String
  requestedTools : List String
  runId : String
  userId : Option String
  workspaceId : Option String

inductive ContextSource
  | request
  | syntheticDefault

structure AgentRunContext where
  budget : AgentRunBudget
  channel : AgentChannel
  allowedTools : List RegisteredToolName
  policyVersion : String
  requiredScopes : List String
  modelTier : String
  requestId : String
  runId : String
  plan : String
  planSource : ContextSource
  tools : List AgentRunToolContext
  userId : String
  userSource : ContextSource
  workspaceId : String
  workspaceSource : ContextSource

def contextSourceOf (value : Option String) : ContextSource :=
  if value = none then .syntheticDefault else .request

/-- What the request leaves out is filled in, and marked as synthetic. -/
def createAgentRunContext (input : AgentRunContextInput) :
    Except AgentRuntimeInputError AgentRunContext := do
  let channel ← normalizeChannel input.channel
  let modelTier ← normalizeModelTier input.modelTier
  let plan ← normalizeText input.plan "free" "plan"
  let userId ← normalizeText input.userId "user_local_dry_run" "userId"
  let workspaceId ← normalizeText input.workspaceId "workspace_local_dry_run" "workspaceId"
  let toolDefinitions ← input.requestedTools.mapM getRegisteredToolDefinition
  let policyVersion ← normalizeText input.entitlementPolicyVersion
    "entitlement-policy-synthetic-default-deny-v0" "entitlementPolicyVersion"
  return {
    budget := input.budget
    channel := channel
    allowedTools := toolDefinitions.map RegisteredToolDefinition.name
    policyVersion := policyVersion
    requiredScopes := (toolDefinitions.map RegisteredToolDefinition.requiredScope).eraseDups
    modelTier := modelTier
    requestId := input.requestId
    runId := input.runId
    plan := plan
    planSource := contextSourceOf input.plan
    tools := toolDefinitions.map toolContextOf
    userId := userId
    userSource := contextSourceOf input.userId
    workspaceId := workspaceId
    workspaceSource := contextSourceOf input.workspaceId }

structure SkeletonTimeRange where
  «end» : Option String := none
  start : Option String := none

structure AgentRunSkeletonInput where
  asOf : Option String := none
  channel : Option String := none
  currency : Option String := none
  entitlementPolicyVersion : Option String := none
  maxCredits : Option JsNumber := none
  maxRows : Option JsNumber := none
  maxSteps : Option JsNumber := none
  maxTokens : Option JsNumber := none
  maxWallClockMs : Option JsNumber := none
  killSwitchReason : Option String := none
  modelKillSwitch : Option Bool := none
  modelTier : Option String := none
  methodology : Option String := none
  locale : Option String := none
  plan : Option String := none
  prompt : String
  requestId : String
  requestedTools : Option (List String) := none
  securities : Option (List String) := none
  securityQuery : Option String := none
  timeRange : SkeletonTimeRange := {}
  toolKillSwitch : Option Bool := none
  userId : Option String := none
  workspaceId : Option String := none

def defaultAgentRunTools : List String :=
  ["resolve_security", "get_security_profile", "get_data_lineage", "get_entitlements"]

structure AgentRunSkeleton where
  promptCharacters : Nat
  requestId : String
  runContext : AgentRunContext
  runId : String
  registeredTools : List String
  requestedTools : List String

def assertRegisteredTools (requestedTools : List String) : Except AgentRuntimeInputError Unit :=
  let deniedTools := (validateRegisteredTools requestedTools).deniedTools
  Checks.ensure (deniedTools = [])
    { code := .unregisteredTool
      message := "requested tools must be registered before use"
      details := [("deniedTools", .texts deniedTools)] }

def assertPrompt (prompt : String) : Except AgentRuntimeInputError String :=
  if JsString.trim prompt = "" then
    .error { code := .promptRequired, message := "prompt is required" }
  else
    .ok (JsString.trim prompt)

/-- The checks run in the order of the text above: the first that fails gives the error. -/
def createAgentRunSkeleton (input : AgentRunSkeletonInput) :
    Except AgentRuntimeInputError AgentRunSkeleton := do
  let prompt ← assertPrompt input.prompt
  let maxSteps ← assertStepLimit (input.maxSteps.getD (.ofNat 6))
  let requestedTools := input.requestedTools.getD defaultAgentRunTools
  assertRegisteredTools requestedTools
  let budget ← createAgentRunBudget
    { maxCredits := input.maxCredits
      maxRows := input.maxRows
      maxSteps := maxSteps
      maxTokens := input.maxTokens
      maxWallClockMs := input.maxWallClockMs }
  let runId := "dry_" ++ input.requestId
  let runContext ← createAgentRunContext
    { budget := budget
      channel := input.channel
      entitlementPolicyVersion := input.entitlementPolicyVersion
      modelTier := input.modelTier
      plan := input.plan
      requestId := input.requestId
      requestedTools := requestedTools
      runId := runId
      userId := input.userId
      workspaceId := input.workspaceId }
  return {
    promptCharacters := JsString.utf16Length prompt
    requestId := input.requestId
    runContext := runContext
    runId := runId
    registeredTools := getRegisteredToolNames
    requestedTools := requestedTools }

section Facts

variable {input : AgentRunSkeletonInput}
variable {skeleton : AgentRunSkeleton}

theorem text_of_definition {toolName : String} {tool : RegisteredToolDefinition}
    (h : getRegisteredToolDefinition toolName = .ok tool) :
    tool ∈ registeredTools ∧ tool.name.text = toolName := by
  rw [getRegisteredToolDefinition] at h
  split at h
  next definition hfound =>
    obtain rfl := Except.ok.inj h
    exact ⟨List.mem_of_find?_eq_some hfound, by simpa using List.find?_some hfound⟩
  next => cases h

/-- The definitions are those of the registry under the names requested, in their order. -/
theorem texts_of_definitions {requestedTools : List String} {tools : List RegisteredToolDefinition}
    (h : requestedTools.mapM getRegisteredToolDefinition = .ok tools) :
    (∀ tool ∈ tools, tool ∈ registeredTools) ∧
      tools.map (fun tool => tool.name.text) = requestedTools := by
  induction requestedTools generalizing tools with
  | nil =>
    obtain rfl : [] = tools := Except.ok.inj h
    exact ⟨nofun, rfl⟩
  | cons toolName rest ih =>
    rw [List.mapM_cons] at h
    obtain ⟨tool, htool, h⟩ := Checks.bind_eq_ok.mp h
    obtain ⟨others, hothers, h⟩ := Checks.bind_eq_ok.mp h
    obtain rfl := Except.ok.inj h
    obtain ⟨hmem, htexts⟩ := ih hothers
    obtain ⟨hregistered, htext⟩ := text_of_definition htool
    exact ⟨List.forall_mem_cons.mpr ⟨hregistered, hmem⟩, by simp [htext, htexts]⟩

theorem createAgentRunContext_spec {input : AgentRunContextInput} {context : AgentRunContext}
    (h : createAgentRunContext input = .ok context) :
    context.budget = input.budget ∧
      ∃ tools, input.requestedTools.mapM getRegisteredToolDefinition = .ok tools ∧
        context.tools = tools.map toolContextOf := by
  simp only [createAgentRunContext, Checks.bind_eq_ok] at h
  obtain ⟨_, -, _, -, _, -, _, -, _, -, tools, htools, _, -, h⟩ := h
  obtain rfl := Except.ok.inj h
  exact ⟨rfl, tools, htools, rfl⟩

theorem assertStepLimit_spec {maxSteps : JsNumber} {steps : Nat}
    (h : assertStepLimit maxSteps = .ok steps) : minSteps ≤ steps ∧ steps ≤ supportedMaxSteps := by
  rw [assertStepLimit] at h
  split at h
  · split at h
    next hrange =>
      obtain rfl := Except.ok.inj h
      exact hrange
    next => cases h
  · cases h

theorem createAgentRunBudget_maxSteps {input : AgentRunBudgetInput} {budget : AgentRunBudget}
    (h : createAgentRunBudget input = .ok budget) : budget.maxSteps = input.maxSteps := by
  simp only [createAgentRunBudget, Checks.bind_eq_ok] at h
  obtain ⟨_, -, _, -, _, -, _, -, h⟩ := h
  obtain rfl := Except.ok.inj h
  rfl

/-- What the planner may rely on in a skeleton. -/
structure SkeletonAccepted
    (input : AgentRunSkeletonInput)
    (skeleton : AgentRunSkeleton) : Prop where
  requestedTools : skeleton.requestedTools = input.requestedTools.getD defaultAgentRunTools
  noneDenied : (validateRegisteredTools skeleton.requestedTools).deniedTools = []
  tools : ∃ tools, skeleton.requestedTools.mapM getRegisteredToolDefinition = .ok tools ∧
    skeleton.runContext.tools = tools.map toolContextOf
  maxSteps : minSteps ≤ skeleton.runContext.budget.maxSteps

theorem createAgentRunSkeleton_spec (h : createAgentRunSkeleton input = .ok skeleton) :
    SkeletonAccepted input skeleton := by
  simp only [createAgentRunSkeleton, Checks.bind_eq_ok] at h
  obtain ⟨prompt, -, maxSteps, hsteps, _, hregistered, budget, hbudget, context, hcontext, h⟩ := h
  obtain rfl := Except.ok.inj h
  obtain ⟨hsame, tools, htools, hcontexts⟩ := createAgentRunContext_spec hcontext
  refine ⟨rfl, Checks.ensure_eq_ok.mp hregistered, ⟨tools, htools, hcontexts⟩, ?_⟩
  rw [hsame, createAgentRunBudget_maxSteps hbudget]
  exact (assertStepLimit_spec hsteps).1

end Facts

end Aiphabee.AgentPlanner
