import Aiphabee.AgentRuntime.RunSkeleton
import Aiphabee.Calendar.DateTexts
import Aiphabee.Text.JsonValues

/-!
# Bounded retrieval

The arguments of a tool call are checked against the input rule of the tool, and the rows
and the dates that they ask for against its retrieval limits.  Of the names that an
argument may have, the first one that is present is looked at.

The main result, `createToolBoundedRetrievalPlan_covers_iff`, says for which arguments
every limit and every range of dates is a valid one.
-/

namespace Aiphabee.McpRuntime

open AgentPlanner (RegisteredToolName)
open SandboxAuth (JsonValue)
open JsonMembers (memberOf)
open JsText (ofString)
open Calendar

structure McpToolInputValidationRule where
  allowed : List String
  anyOf : List (List String) := []
  required : List String := []

/-- `MCP_TOOL_INPUT_VALIDATION_RULES`. -/
def inputValidationRule : RegisteredToolName → Option McpToolInputValidationRule
  | .getCorporateActions => some {
      allowed := ["instrument_id", "instrumentId", "from", "to", "types", "limit", "cursor"]
      anyOf := [["instrument_id"], ["instrumentId"]]
      required := ["from", "to"] }
  | .getDataLineage => some {
      allowed := ["evidence_id", "evidenceId", "record_id", "recordId", "as_of", "asOf",
        "include_upstream", "includeUpstream"]
      anyOf := [["evidence_id"], ["evidenceId"], ["record_id"], ["recordId"]] }
  | .getEntitlements => some {
      allowed := ["workspace_id", "workspaceId", "channel", "tool_name", "toolName", "dataset",
        "fields", "as_of", "asOf", "time_range", "timeRange", "requested_rows", "requestedRows",
        "export_requested", "exportRequested", "plan"] }
  | .getIpoProfile => some {
      allowed := ["ipo_id", "ipoId", "hkex_code", "hkexCode", "listing_date", "listingDate",
        "include_sensitive_fields", "includeSensitiveFields"]
      anyOf := [["ipo_id"], ["ipoId"], ["hkex_code"], ["hkexCode"]] }
  | .searchIpoCalendar => some {
      allowed := ["from", "to", "event_types", "eventTypes", "limit", "cursor"] }
  | .getIpoTimetable => some {
      allowed := ["ipo_id", "ipoId", "hkex_code", "hkexCode", "listing_date", "listingDate"]
      anyOf := [["ipo_id"], ["ipoId"], ["hkex_code"], ["hkexCode"]] }
  | .getIpoOffering => some {
      allowed := ["ipo_id", "ipoId", "hkex_code", "hkexCode", "listing_date", "listingDate"]
      anyOf := [["ipo_id"], ["ipoId"], ["hkex_code"], ["hkexCode"]] }
  | .getIpoAllotment => some {
      allowed := ["ipo_id", "ipoId", "hkex_code", "hkexCode", "listing_date", "listingDate",
        "limit", "cursor"]
      anyOf := [["ipo_id"], ["ipoId"], ["hkex_code"], ["hkexCode"]] }
  | .screenIpos => some {
      allowed := ["status", "board", "sector", "listing_type", "listingType", "listing_date_from",
        "listingDateFrom", "listing_date_to", "listingDateTo", "min_oversubscription",
        "minOversubscription", "has_cornerstone", "hasCornerstone", "limit", "cursor"] }
  | .compareIpos => some {
      allowed := ["ipo_ids", "ipoIds"]
      anyOf := [["ipo_ids"], ["ipoIds"]] }
  | .getFinancialFacts => some {
      allowed := ["instrument_id", "instrumentId", "from", "to", "metrics", "statement_types",
        "statementTypes", "as_of", "asOf", "limit", "cursor"]
      anyOf := [["instrument_id"], ["instrumentId"]]
      required := ["from", "to"] }
  | .getFinancialRatios => some {
      allowed := ["instrument_id", "instrumentId", "security_query", "securityQuery",
        "financial_from", "financialFrom", "financial_to", "financialTo", "as_of", "asOf",
        "metrics"]
      anyOf := [["instrument_id"], ["instrumentId"], ["security_query"], ["securityQuery"]]
      required := ["financial_from", "financial_to"] }
  | .searchAnnouncements => some {
      allowed := ["instrument_id", "instrumentId", "security_query", "securityQuery", "from",
        "to", "published_from", "publishedFrom", "published_to", "publishedTo", "categories",
        "announcement_categories", "keyword", "query", "language", "limit"]
      anyOf := [["instrument_id"], ["instrumentId"], ["security_query"], ["securityQuery"]]
      required := ["from", "to"] }
  | .getAnnouncement => some {
      allowed := ["document_id", "documentId", "sections", "max_excerpt_chars", "maxExcerptChars"]
      anyOf := [["document_id"], ["documentId"]] }
  | .screenSecurities => some {
      allowed := ["universe", "conditions", "natural_language", "naturalLanguage", "query",
        "financial_from", "financialFrom", "financial_to", "financialTo", "as_of", "asOf",
        "classification_as_of", "classificationAsOf", "limit"] }
  | .compareSecurities => some {
      allowed := ["securities", "metrics", "period", "financial_from", "financialFrom",
        "financial_to", "financialTo", "as_of", "asOf", "target_currency", "targetCurrency"]
      required := ["securities"] }
  | .calculateReturnsRisk => some {
      allowed := ["instrument_id", "instrumentId", "security_query", "securityQuery", "from",
        "to", "adjustment", "benchmark_instrument_id", "benchmarkInstrumentId",
        "benchmark_security_query", "benchmarkSecurityQuery", "as_of", "asOf"]
      anyOf := [["instrument_id"], ["instrumentId"], ["security_query"], ["securityQuery"]]
      required := ["from", "to"] }
  | .getEventTimeline => some {
      allowed := ["instrument_id", "instrumentId", "from", "to", "types", "limit", "cursor"]
      anyOf := [["instrument_id"], ["instrumentId"]]
      required := ["from", "to"] }
  | .getMarketCalendar => some {
      allowed := ["market", "from", "to"]
      required := ["market", "from", "to"] }
  | .getPriceHistory => some {
      allowed := ["instrument_id", "instrumentId", "from", "to", "adjustment", "fields", "limit",
        "cursor"]
      anyOf := [["instrument_id"], ["instrumentId"]]
      required := ["from", "to"] }
  | .getQuoteSnapshot => some {
      allowed := ["instrument_id", "instrumentId", "mode", "fields", "as_of"]
      anyOf := [["instrument_id"], ["instrumentId"]] }
  | .getSecurityProfile => some {
      allowed := ["instrument_id", "instrumentId", "as_of"]
      anyOf := [["instrument_id"], ["instrumentId"]] }
  | .resolveSecurity => some {
      allowed := ["query", "market", "as_of"]
      required := ["query"] }
  | .analyzePublicTechnicalSignal | .parseChartImage => none

structure RetrievalLimits where
  cursorParameter : Option String := none
  defaultLimit : Nat
  maxLimit : Nat
  maxWindowDays : Option Nat := none
  requiresTimeRange : Bool := false
  rowLimitParameter : Option String := none
  timeRangeFromParameters : List String := ["from"]
  timeRangeToParameters : List String := ["to"]

variable (rows : Nat)

def pageOf : RetrievalLimits where
  cursorParameter := some "cursor"
  defaultLimit := rows
  maxLimit := rows
  maxWindowDays := some 366
  requiresTimeRange := true
  rowLimitParameter := some "limit"

/-- A tool that reads a fixed number of rows. -/
def rowsOf : RetrievalLimits :=
  { defaultLimit := rows, maxLimit := rows }

/-- A tool that reads a fixed number of rows from a range of dates. -/
def rangeOf : RetrievalLimits :=
  { rowsOf rows with maxWindowDays := some 366, requiresTimeRange := true }

/-- A tool that reads a fixed number of rows from a range of financial dates. -/
def financialRangeOf : RetrievalLimits :=
  { rangeOf rows with
    timeRangeFromParameters := ["financial_from", "financialFrom"]
    timeRangeToParameters := ["financial_to", "financialTo"] }

/-- The `retrieval` of the definitions in the registry. -/
def retrievalLimits : RegisteredToolName → RetrievalLimits
  | .resolveSecurity => rowsOf 10
  | .getSecurityProfile | .getQuoteSnapshot | .getAnnouncement | .getDataLineage
  | .parseChartImage | .getIpoProfile | .getIpoOffering => rowsOf 1
  | .compareIpos => rowsOf 5
  | .getMarketCalendar => rangeOf 366
  | .calculateReturnsRisk => rangeOf 10
  | .analyzePublicTechnicalSignal => rangeOf 1
  | .getPriceHistory | .getCorporateActions => pageOf 3
  | .getFinancialFacts => pageOf 4
  | .getEventTimeline => pageOf 5
  | .searchAnnouncements => { pageOf 5 with cursorParameter := none }
  | .searchIpoCalendar => { pageOf 200 with cursorParameter := none, defaultLimit := 50 }
  | .getFinancialRatios => financialRangeOf 8
  | .screenSecurities => financialRangeOf 20
  | .compareSecurities => financialRangeOf 5
  | .getIpoTimetable => { defaultLimit := 24, maxLimit := 32 }
  | .getIpoAllotment =>
    { defaultLimit := 100, maxLimit := 500, rowLimitParameter := some "limit" }
  | .screenIpos => { defaultLimit := 20, maxLimit := 100, rowLimitParameter := some "limit" }
  | .getEntitlements => {
      defaultLimit := 1
      maxLimit := 500
      maxWindowDays := some 366
      rowLimitParameter := some "requested_rows"
      timeRangeFromParameters := ["time_range.from", "timeRange.from"]
      timeRangeToParameters := ["time_range.to", "timeRange.to"] }

inductive ToolArgumentError
  | objectRequired
  | notRegistered
  | unsupported (names : List JsText)
  | required (missing : List String) (anyOf : List (List String))
  | limitInvalid (parameter : String)
  | limitExceeded (parameter : String)
  | cursorInvalid (parameter : String)
  | timeRangeInvalid
  | timeRangeExceeded

variable (tool : RegisteredToolName)

def createToolInputValidationPlan (rawArguments : Option JsonValue) :
    Except ToolArgumentError Unit := do
  let keys ← match rawArguments with
    | none => .ok []
    | some (.object fields) => .ok (fields.map Prod.fst)
    | some _ => .error .objectRequired
  let rules ← Checks.require (inputValidationRule tool) .notRegistered
  let unsupported := keys.filter fun key => key ∉ rules.allowed.map ofString
  Checks.ensure (unsupported = []) (.unsupported unsupported)
  let missing := rules.required.filter fun key => ofString key ∉ keys
  let anyOfSatisfied :=
    rules.anyOf = [] ∨ ∃ group ∈ rules.anyOf, ∀ key ∈ group, ofString key ∈ keys
  Checks.ensure (missing = [] ∧ anyOfSatisfied) (.required missing rules.anyOf)

/-- `isPlainRecord(rawArguments) ? rawArguments : {}`. -/
def argumentsOf : Option JsonValue → JsonValue
  | some (.object fields) => .object fields
  | _ => .object []

variable (args : JsonValue)

def getArgumentValue (parameter : String) : Option JsonValue :=
  (parameter.toList.splitOn '.').foldl
    (fun current part => memberOf current (String.ofList part)) (some args)

def firstPresent (parameters : List String) : Option String :=
  parameters.find? fun parameter => (getArgumentValue args parameter).isSome

def getFirstArgumentValue (parameters : List String) : Option JsonValue :=
  (firstPresent args parameters).bind (getArgumentValue args)

/-- `value.replace(/_([a-z])/gu, …)`. -/
def camelChars : List Char → List Char
  | '_' :: c :: rest =>
    if c.isLower then c.toUpper :: camelChars rest else '_' :: camelChars (c :: rest)
  | c :: rest => c :: camelChars rest
  | [] => []

def toCamelCase (value : String) : String :=
  String.ofList (camelChars value.toList)

def limitAliases : List String :=
  match (retrievalLimits tool).rowLimitParameter with
  | none => []
  | some parameter => [parameter, toCamelCase parameter]

def getRequestedLimit :
    Except ToolArgumentError Int :=
  let limits := retrievalLimits tool
  let parameter := limits.rowLimitParameter.getD ""
  match getFirstArgumentValue args (limitAliases tool) with
  | none => .ok limits.defaultLimit
  | some (.number (.finite value)) =>
    if value.den = 1 ∧ 1 ≤ value then
      if limits.maxLimit < value then .error (.limitExceeded parameter) else .ok value.num
    else .error (.limitInvalid parameter)
  | some _ => .error (.limitInvalid parameter)

def getRequestedCursor :
    Except ToolArgumentError (Option JsText) :=
  match (retrievalLimits tool).cursorParameter with
  | none => .ok none
  | some parameter =>
    match getArgumentValue args parameter with
    | none => .ok none
    | some (.string cursor) =>
      if JsText.trim cursor = [] then .error (.cursorInvalid parameter) else .ok (some cursor)
    | some _ => .error (.cursorInvalid parameter)

variable (value : JsText)

def dateText : String :=
  String.ofList (value.map fun u => Char.ofNat u.toNat)

/-- `Date.parse` of the midnight of a text that has the form of a date. -/
def parseDate : Option Int :=
  if JsDate.hasForm "0000-00-00".toList (dateText value).toList then midnightOf (dateText value)
  else none

structure RequestedTimeRange where
  dates : Option (JsText × JsText) := none
  windowDays : Option Int := none

variable (tool : RegisteredToolName)

def getRequestedTimeRange (args : JsonValue) :
    Except ToolArgumentError RequestedTimeRange :=
  let limits := retrievalLimits tool
  match getFirstArgumentValue args limits.timeRangeFromParameters,
      getFirstArgumentValue args limits.timeRangeToParameters with
  | none, none => if limits.requiresTimeRange then .error .timeRangeInvalid else .ok {}
  | some (.string first), some (.string last) =>
    match parseDate first, parseDate last with
    | some fromMs, some toMs =>
      if toMs < fromMs then .error .timeRangeInvalid
      else
        let windowDays := (toMs - fromMs) / 86400000 + 1
        if ∃ days ∈ limits.maxWindowDays, (days : Int) < windowDays then .error .timeRangeExceeded
        else .ok { dates := some (first, last), windowDays := some windowDays }
    | _, _ => .error .timeRangeInvalid
  | _, _ => .error .timeRangeInvalid

structure McpToolBoundedRetrievalPlan where
  cursor : Option JsText
  effectiveLimit : Int
  timeRange : RequestedTimeRange

def createToolBoundedRetrievalPlan (rawArguments : Option JsonValue) :
    Except ToolArgumentError McpToolBoundedRetrievalPlan := do
  let args := argumentsOf rawArguments
  let effectiveLimit ← getRequestedLimit tool args
  let cursor ← getRequestedCursor tool args
  let timeRange ← getRequestedTimeRange tool args
  return { cursor, effectiveLimit, timeRange }

/-! What the limits promise. -/

def ValidLimit (most : Nat) (value : JsonValue) : Prop :=
  ∃ rows : Nat, value = .number (.finite rows) ∧ 1 ≤ rows ∧ rows ≤ most

def dayOf : Int :=
  let text := (dateText value).toList
  dayNumber (JsDate.field text 0 4) (JsDate.field text 5 2) (JsDate.field text 8 2)

def IsRealDate : Prop :=
  let text := (dateText value).toList
  JsDate.hasForm "0000-00-00".toList text = true ∧
    IsDate (JsDate.field text 0 4) (JsDate.field text 5 2) (JsDate.field text 8 2)

def ValidRange (most : Option Nat) (first last : JsonValue) : Prop :=
  ∃ firstDate lastDate : JsText, first = .string firstDate ∧ last = .string lastDate ∧
    IsRealDate firstDate ∧ IsRealDate lastDate ∧ dayOf firstDate ≤ dayOf lastDate ∧
    ∀ days ∈ most, dayOf lastDate - dayOf firstDate + 1 ≤ days

def rowLimitNames : List String := ["limit", "requested_rows", "requestedRows"]

def rangeNames : List (List String × List String) := [
  (["from"], ["to"]),
  (["published_from", "publishedFrom"], ["published_to", "publishedTo"]),
  (["financial_from", "financialFrom"], ["financial_to", "financialTo"]),
  (["listing_date_from", "listingDateFrom"], ["listing_date_to", "listingDateTo"]),
  (["time_range.from", "timeRange.from"], ["time_range.to", "timeRange.to"])]

/-- A limit that is looked at, and a range that is. -/
def ReadsLimit (args : JsonValue) (name : String) : Prop :=
  firstPresent args (limitAliases tool) = some name

def ReadsRange (args : JsonValue) (first last : String) : Prop :=
  firstPresent args (retrievalLimits tool).timeRangeFromParameters = some first ∧
    firstPresent args (retrievalLimits tool).timeRangeToParameters = some last

variable (tool : RegisteredToolName) (args : JsonValue)

structure Covers (limits : String → Prop) (ranges : String → String → Prop) : Prop where
  limit : ∀ name ∈ rowLimitNames, limits name → ∀ value ∈ getArgumentValue args name,
    ValidLimit (retrievalLimits tool).maxLimit value
  range : ∀ names ∈ rangeNames, ∀ first ∈ names.1, ∀ last ∈ names.2, ranges first last →
    ∀ firstValue ∈ getArgumentValue args first, ∀ lastValue ∈ getArgumentValue args last,
      ValidRange (retrievalLimits tool).maxWindowDays firstValue lastValue

def Accepts (rawArguments : Option JsonValue) : Prop :=
  createToolInputValidationPlan tool rawArguments = .ok () ∧
    ∃ plan, createToolBoundedRetrievalPlan tool rawArguments = .ok plan

/-- Every row limit and every range of dates of the arguments is valid. -/
def CoversEveryAlias : Prop :=
  Covers tool args (fun _ => True) (fun _ _ => True)

/-- The limits and ranges that nobody looks at are valid by themselves, and the two dates
that are looked at are days of the calendar. -/
structure UnreadIsValid : Prop where
  unread : Covers tool args (fun name => ¬ReadsLimit tool args name)
    (fun first last => ¬ReadsRange tool args first last)
  real : ∀ first last, ReadsRange tool args first last → ∀ date,
    getArgumentValue args first = some (.string date) ∨
      getArgumentValue args last = some (.string date) → IsRealDate date

variable {tool : RegisteredToolName} {args : JsonValue}

theorem firstPresent_mem {names : List String} {name : String}
    (h : firstPresent args names = some name) : name ∈ names :=
  List.mem_of_find?_eq_some h

theorem getFirstArgumentValue_of_present {names : List String} {name : String}
    (h : firstPresent args names = some name) :
    getFirstArgumentValue args names = getArgumentValue args name := by
  rw [getFirstArgumentValue, h, Option.bind_some]

theorem getRequestedLimit_valid {rows : Int} {value : JsonValue}
    (h : getRequestedLimit tool args = .ok rows)
    (hvalue : getFirstArgumentValue args (limitAliases tool) = some value) :
    ValidLimit (retrievalLimits tool).maxLimit value := by
  simp only [getRequestedLimit, hvalue] at h
  split at h
  case h_1 hnone => cases hnone
  case h_3 => cases h
  case h_2 number hnumber =>
    cases hnumber
    split at h
    next hwhole =>
      split at h
      · cases h
      next hmost =>
        obtain ⟨hden, hone⟩ := hwhole
        have hnum : (number.num : Rat) = number := Rat.coe_int_num_of_den_eq_one hden
        have honeInt : 1 ≤ number.num := by
          rw [← hnum] at hone
          exact_mod_cast hone
        have hmostInt : number.num ≤ (retrievalLimits tool).maxLimit := by
          rw [← hnum] at hmost
          exact_mod_cast not_lt.mp hmost
        refine ⟨number.num.toNat, ?_, by omega, by omega⟩
        have hnat : ((number.num.toNat : Int) : Rat) = number := by
          rw [Int.toNat_of_nonneg (by omega), hnum]
        rw [← hnat]
        norm_cast
    next => cases h

theorem parseDate_eq_some {value : JsText} {time : Int} (h : parseDate value = some time) :
    time = dayOf value * 86400000 := by
  unfold parseDate at h
  split at h
  next hform =>
    unfold midnightOf at h
    rw [if_pos hform] at h
    unfold midnight at h
    split at h
    · unfold JsDate.ofMilliseconds at h
      split at h
      · cases h
        rfl
      · cases h
    · cases h
  next => cases h

/-- The texts that are looked at have days, in order and within the window. -/
theorem getRequestedTimeRange_spec {range : RequestedTimeRange} {first last : JsonValue}
    (h : getRequestedTimeRange tool args = .ok range)
    (hfirst :
      getFirstArgumentValue args (retrievalLimits tool).timeRangeFromParameters = some first)
    (hlast :
      getFirstArgumentValue args (retrievalLimits tool).timeRangeToParameters = some last) :
    ∃ firstDate lastDate, first = .string firstDate ∧ last = .string lastDate ∧
      dayOf firstDate ≤ dayOf lastDate ∧
      ∀ days ∈ (retrievalLimits tool).maxWindowDays,
        dayOf lastDate - dayOf firstDate + 1 ≤ days := by
  simp only [getRequestedTimeRange, hfirst, hlast] at h
  split at h
  case h_1 hnone _ => cases hnone
  case h_3 => cases h
  case h_2 firstDate lastDate hfirstDate hlastDate =>
    cases hfirstDate
    cases hlastDate
    split at h
    next fromMs toMs hfrom hto =>
      have hfromDay := parseDate_eq_some hfrom
      have htoDay := parseDate_eq_some hto
      split at h
      · cases h
      next horder =>
        split at h
        · cases h
        next hwindow =>
          refine ⟨firstDate, lastDate, rfl, rfl, by omega, fun days hdays => ?_⟩
          have hdivided : (toMs - fromMs) / 86400000 = dayOf lastDate - dayOf firstDate := by
            omega
          by_contra hlong
          exact hwindow ⟨days, hdays, by omega⟩
    next => cases h

theorem timeRangeParameters_mem (tool : RegisteredToolName) :
    ((retrievalLimits tool).timeRangeFromParameters,
      (retrievalLimits tool).timeRangeToParameters) ∈ rangeNames := by
  cases tool <;> decide

theorem Accepts.steps {rawArguments : Option JsonValue} (h : Accepts tool rawArguments) :
    (∃ rows, getRequestedLimit tool (argumentsOf rawArguments) = .ok rows) ∧
      ∃ range, getRequestedTimeRange tool (argumentsOf rawArguments) = .ok range := by
  obtain ⟨-, plan, hplan⟩ := h
  unfold createToolBoundedRetrievalPlan at hplan
  obtain ⟨rows, hrows, hplan⟩ := Checks.bind_eq_ok.mp hplan
  obtain ⟨cursor, -, hplan⟩ := Checks.bind_eq_ok.mp hplan
  obtain ⟨range, hrange, -⟩ := Checks.bind_eq_ok.mp hplan
  exact ⟨⟨rows, hrows⟩, range, hrange⟩

/-- Accepted arguments have valid limits and ranges under every name, exactly if those
under the names that are not looked at are, and the dates that are looked at are real. -/
theorem createToolBoundedRetrievalPlan_covers_iff (tool : RegisteredToolName)
    (rawArguments : Option JsonValue) :
    (Accepts tool rawArguments → CoversEveryAlias tool (argumentsOf rawArguments)) ↔
      (Accepts tool rawArguments → UnreadIsValid tool (argumentsOf rawArguments)) := by
  refine forall_congr' fun haccepts => ?_
  obtain ⟨⟨rows, hrows⟩, range, hrange⟩ := haccepts.steps
  generalize argumentsOf rawArguments = args at *
  constructor
  · intro hcovers
    refine ⟨⟨fun name hname _ => hcovers.limit name hname trivial,
      fun names hnames first hfirst last hlast _ =>
        hcovers.range names hnames first hfirst last hlast trivial⟩, ?_⟩
    intro first last hreads date hdate
    have hfirstValue := getFirstArgumentValue_of_present hreads.1
    have hlastValue := getFirstArgumentValue_of_present hreads.2
    have hfirstPresent := List.find?_some hreads.1
    have hlastPresent := List.find?_some hreads.2
    obtain ⟨firstValue, hfirst⟩ := Option.isSome_iff_exists.mp hfirstPresent
    obtain ⟨lastValue, hlast⟩ := Option.isSome_iff_exists.mp hlastPresent
    obtain ⟨firstDate, lastDate, hfirstText, hlastText, hfirstReal, hlastReal, -⟩ :=
      hcovers.range _ (timeRangeParameters_mem tool) first (firstPresent_mem hreads.1) last
        (firstPresent_mem hreads.2) trivial firstValue hfirst lastValue hlast
    rcases hdate with hdate | hdate
    · rw [hfirst, hfirstText] at hdate
      cases hdate
      exact hfirstReal
    · rw [hlast, hlastText] at hdate
      cases hdate
      exact hlastReal
  · intro hvalid
    constructor
    · intro name hname _ value hvalue
      by_cases hreads : ReadsLimit tool args name
      · exact getRequestedLimit_valid hrows
          ((getFirstArgumentValue_of_present hreads).trans hvalue)
      · exact hvalid.unread.limit name hname hreads value hvalue
    · intro names hnames first hfirst last hlast _ firstValue hfirstValue lastValue hlastValue
      by_cases hreads : ReadsRange tool args first last
      · obtain ⟨firstDate, lastDate, rfl, rfl, horder, hwindow⟩ :=
          getRequestedTimeRange_spec hrange
            ((getFirstArgumentValue_of_present hreads.1).trans hfirstValue)
            ((getFirstArgumentValue_of_present hreads.2).trans hlastValue)
        exact ⟨firstDate, lastDate, rfl, rfl,
          hvalid.real first last hreads firstDate (.inl hfirstValue),
          hvalid.real first last hreads lastDate (.inr hlastValue), horder, hwindow⟩
      · exact hvalid.unread.range names hnames first hfirst last hlast hreads firstValue
          hfirstValue lastValue hlastValue

/-- A thousand rows are asked for under a name that the tool allows and does not look at. -/
def unreadLimit : Option JsonValue :=
  some (.object [
    (ofString "financial_from", .string (ofString "2026-01-01")),
    (ofString "financial_to", .string (ofString "2026-01-31")),
    (ofString "limit", .number (.finite 1000))])

theorem unreadLimit_accepted :
    ¬∀ tool rawArguments, Accepts tool rawArguments →
      CoversEveryAlias tool (argumentsOf rawArguments) := by
  intro hcovers
  have haccepts : Accepts .screenSecurities unreadLimit :=
    ⟨by rfl, _, by rfl⟩
  obtain ⟨rows, hrows, -, hmost⟩ := (hcovers _ _ haccepts).limit "limit" (by decide) trivial
    (.number (.finite 1000)) (by rfl)
  cases hrows
  exact absurd hmost (by decide)

end Aiphabee.McpRuntime
