import Mathlib.Data.Fintype.Pi
import Aiphabee.ProductControl.AdminAction
import Aiphabee.Text.JsDate
import Aiphabee.Text.NumberText

/-!
# The observed usage of a run

The usage of a run is recorded in three tables in one transaction: an event, a
ledger entry for it, and a row for the run.  The row is read back before the
transaction is committed, and must be the usage that was given.

How the database reads a time, how its driver gives it back, and how the
language reads one, are given from outside.
-/

namespace Aiphabee.ProductControl

open Checks

def fastclawUsageMeterRuleId : String :=
  "meter_api_fastclaw_personal_agent_agent_run_credit"

def fastclawUsageMethodologyVersion : String :=
  "fastclaw-cost-pending-live-row10-v0"

inductive UsageCounter
  | modelInputTokens
  | modelOutputTokens
  | sandboxCpuMs
  | sandboxPeakDiskBytes
  | sandboxPeakMemoryBytes
  | sandboxWallClockMs
  | storageBytesRead
  | storageBytesWritten
  | storageDeleteOps
  | storageReadOps
  | storageWriteOps
  | toolCallsFailed
  | toolCallsSucceeded
deriving DecidableEq

instance : Fintype UsageCounter where
  elems :=
    {.modelInputTokens, .modelOutputTokens, .sandboxCpuMs, .sandboxPeakDiskBytes,
      .sandboxPeakMemoryBytes, .sandboxWallClockMs, .storageBytesRead, .storageBytesWritten,
      .storageDeleteOps, .storageReadOps, .storageWriteOps, .toolCallsFailed,
      .toolCallsSucceeded}
  complete := by
    intro counter
    cases counter <;> decide

structure RunUsage (ν τ : Type) where
  accountId : String
  creditDelta : ν
  measurement : String
  methodologyVersion : String
  occurredAt : τ
  requestId : String
  rightsPolicyVersion : String
  runId : String
  sourceRecordId : String
  terminalState : String
  workspaceId : String
  counters : UsageCounter → ν
deriving DecidableEq

/-- The usage as the service receives and returns it. -/
abbrev ResearchAgentObservedUsage := RunUsage JsNumber String

def translateCounters {ν ν' : Type} (translate : ν → Option ν') (counters : UsageCounter → ν) :
    Option (UsageCounter → ν') :=
  if h : ∀ counter, (translate (counters counter)).isSome then
    some fun counter => (translate (counters counter)).get (h counter)
  else
    none

def RunUsage.translate {ν ν' τ τ' : Type} (credit counter : ν → Option ν') (time : τ → Option τ')
    (usage : RunUsage ν τ) : Option (RunUsage ν' τ') := do
  let creditDelta ← credit usage.creditDelta
  let counters ← translateCounters counter usage.counters
  let occurredAt ← time usage.occurredAt
  pure
    { accountId := usage.accountId
      creditDelta := creditDelta
      measurement := usage.measurement
      methodologyVersion := usage.methodologyVersion
      occurredAt := occurredAt
      requestId := usage.requestId
      rightsPolicyVersion := usage.rightsPolicyVersion
      runId := usage.runId
      sourceRecordId := usage.sourceRecordId
      terminalState := usage.terminalState
      workspaceId := usage.workspaceId
      counters := counters }

/-- What is given from outside. -/
structure UsagePlatform where
  /-- `Date.parse`. -/
  dateParse : String → JsDate.Date
  /-- The instant that the database reads from a text, in microseconds; none where it refuses. -/
  parseTimestamp : String → Option Int
  /-- The date that the driver makes of an instant of the database. -/
  timestampDate : Int → JsDate.Date

/-- `Number.MAX_SAFE_INTEGER`. -/
def maxSafeCount : Int := 2 ^ 53 - 1

def safeCount : JsNumber → Bool
  | .finite value => value.den = 1 && 0 ≤ value.num && value.num ≤ maxSafeCount
  | _ => false

def safeCredits : JsNumber → Bool
  | .finite value => 0 ≤ value
  | _ => false

def sandboxTerminalStates : List String :=
  ["client_cancelled", "completed", "create_failed", "execution_failed", "global_killed",
    "hard_timeout", "kill_switch", "soft_timeout", "stream_interrupted", "tenant_killed"]

variable (platform : UsagePlatform)
variable (input : ResearchAgentObservedUsage)

@[irreducible] def validateUsage : Except ProductControlError Unit := do
  ensure
    (input.measurement = "observed" ∧ validId input.accountId ∧ validId input.workspaceId ∧
      validId input.requestId ∧ validId input.runId ∧
      input.methodologyVersion = fastclawUsageMethodologyVersion ∧
      input.rightsPolicyVersion = "default_deny" ∧
      input.terminalState ∈ sandboxTerminalStates ∧ validId input.sourceRecordId ∧
      (platform.dateParse input.occurredAt).isSome ∧ safeCredits input.creditDelta ∧
      input.creditDelta = .finite 0)
    (.input .USAGE_INPUT_INVALID
      "observed run usage identity, time, policy, source and credit fields are invalid")
  ensure (∀ counter, safeCount (input.counters counter))
    (.input .USAGE_INPUT_INVALID
      "observed run usage counters must be non-negative safe integers")

structure UsageRow where
  usage : RunUsage ℚ Int
  usageEventId : String
  ledgerEntryId : String
deriving DecidableEq

structure UsageEvent where
  usageEventId : String
  requestId : String
  runId : Option String
  workspaceId : String
  accountId : Option String
  channel : String
  dataset : String
  operation : String
  occurredAt : Int
  inputUnits : Int
  outputUnits : Int
  cacheState : String
  qualityState : String
  dataVersion : String
  methodologyVersion : String
  rightsPolicyVersion : String
  sourceRecordId : String
deriving DecidableEq

structure UsageLedgerEntry where
  ledgerEntryId : String
  usageEventId : String
  workspaceId : String
  accountId : Option String
  meterRuleId : String
  creditDelta : ℚ
  billableState : String
  sourceRecordId : String
deriving DecidableEq

def bindInteger (bits : Nat) : JsNumber → Option Int
  | .finite value =>
    if value.den = 1 ∧ -2 ^ (bits - 1) ≤ value.num ∧ value.num < 2 ^ (bits - 1) then
      some value.num
    else
      none
  | _ => none

/-- A whole number as a column of 64 bits takes it. -/
def bindBigint (value : JsNumber) : Option ℚ :=
  (bindInteger 64 value).map (Int.cast : Int → ℚ)

/-- A number as a numeric column takes it; the checks of the schema refuse any but a finite one. -/
def bindNumeric : JsNumber → Option ℚ
  | .finite value => some value
  | _ => none

/-- A number of a row as the language reads it. -/
def number (value : ℚ) : Option JsNumber :=
  match JsNumber.nearest value with
  | .finite parsed => if parsed < 0 then none else some (.finite parsed)
  | _ => none

/-- The text of a time of the database; none where the conversion throws. -/
def iso (time : Int) : Option String :=
  JsDate.toISOString (platform.timestampDate time)

def normalizeUsageRow (row : UsageRow) : Option ResearchAgentObservedUsage :=
  (row.usage.translate number number (iso platform)).map fun usage =>
    { usage with measurement := "observed" }

inductive UsageValue
  | text (value : String)
  | number (value : ℚ)
  | null
deriving DecidableEq

def jsonNumber : JsNumber → UsageValue
  | .finite value => .number value
  | _ => .null

def usageValues (usage : ResearchAgentObservedUsage) : List UsageValue :=
  let counter (name : UsageCounter) := jsonNumber (usage.counters name)
  [.text usage.accountId, jsonNumber usage.creditDelta, .text usage.measurement,
    .text usage.methodologyVersion, counter .modelInputTokens, counter .modelOutputTokens,
    .text usage.occurredAt, .text usage.requestId, .text usage.rightsPolicyVersion,
    .text usage.runId, counter .sandboxCpuMs, counter .sandboxPeakDiskBytes,
    counter .sandboxPeakMemoryBytes, counter .sandboxWallClockMs, .text usage.sourceRecordId,
    counter .storageBytesRead, counter .storageBytesWritten, counter .storageDeleteOps,
    counter .storageReadOps, counter .storageWriteOps, .text usage.terminalState,
    counter .toolCallsFailed, counter .toolCallsSucceeded, .text usage.workspaceId]

def usageMatches (left right : ResearchAgentObservedUsage) : Prop :=
  usageValues left = usageValues right

instance (left right : ResearchAgentObservedUsage) : Decidable (usageMatches left right) :=
  inferInstanceAs (Decidable (_ = _))

/-- The tables of the usage, and the rows of the others that they refer to. -/
structure UsageStore where
  workspaces : List String
  accounts : List String
  meterRules : List String
  events : List UsageEvent
  ledger : List UsageLedgerEntry
  runUsage : List UsageRow
deriving DecidableEq

/-- The unique columns of the usage events besides the key. -/
def UsageEvent.sameRequest (event other : UsageEvent) : Bool :=
  event.requestId = other.requestId && event.operation = other.operation &&
    event.dataset = other.dataset && event.occurredAt = other.occurredAt

variable (s : UsageStore)

/-- `insert … on conflict (usage_event_id) do nothing`; none where a constraint is violated. -/
def UsageStore.insertUsageEvent (event : UsageEvent) : Option UsageStore :=
  if s.events.any (·.usageEventId = event.usageEventId) then
    some s
  else if s.events.any (·.sameRequest event) then
    none
  else if event.workspaceId ∈ s.workspaces ∧ (∀ id ∈ event.accountId, id ∈ s.accounts) then
    some { s with events := s.events ++ [event] }
  else
    none

/-- `insert … on conflict (usage_event_id, meter_rule_id) do nothing`. -/
def UsageStore.insertLedgerEntry (entry : UsageLedgerEntry) :
    Option UsageStore :=
  if entry.creditDelta < 0 then
    none
  else if s.ledger.any fun other =>
      other.usageEventId = entry.usageEventId && other.meterRuleId = entry.meterRuleId then
    some s
  else if s.ledger.any (·.ledgerEntryId = entry.ledgerEntryId) then
    none
  else if s.events.any (·.usageEventId = entry.usageEventId) ∧
      entry.workspaceId ∈ s.workspaces ∧ (∀ id ∈ entry.accountId, id ∈ s.accounts) ∧
      entry.meterRuleId ∈ s.meterRules then
    some { s with ledger := s.ledger ++ [entry] }
  else
    none

variable (row : UsageRow)

def UsageRow.passesChecks : Bool :=
  row.usage.terminalState ∈ sandboxTerminalStates && row.usage.measurement = "observed" &&
    (∀ counter, 0 ≤ row.usage.counters counter) && row.usage.creditDelta = 0 &&
    row.usage.rightsPolicyVersion = "default_deny"

def UsageRow.isOf (workspaceId runId : String) : Bool :=
  row.usage.workspaceId = workspaceId && row.usage.runId = runId

/-- `insert … on conflict (workspace_id, run_id) do nothing`, and whether a row was inserted. -/
def UsageStore.insertRunUsage : Option (Bool × UsageStore) :=
  if !row.passesChecks then
    none
  else if s.runUsage.any (·.isOf row.usage.workspaceId row.usage.runId) then
    some (false, s)
  else if s.runUsage.any fun other =>
      other.usageEventId = row.usageEventId || other.ledgerEntryId = row.ledgerEntryId then
    none
  else if row.usage.workspaceId ∈ s.workspaces ∧ row.usage.accountId ∈ s.accounts ∧
      s.events.any (·.usageEventId = row.usageEventId) ∧
      s.ledger.any (·.ledgerEntryId = row.ledgerEntryId) then
    some (true, { s with runUsage := s.runUsage ++ [row] })
  else
    none

def UsageStore.readUsage (platform : UsagePlatform) (workspaceId runId : String) :
    Except ProductControlError (Option ResearchAgentObservedUsage) :=
  match s.runUsage.find? (·.isOf workspaceId runId) with
  | none => .ok none
  | some row =>
    match normalizeUsageRow platform row with
    | some usage => .ok (some usage)
    | none => .error (.other "invalid product-control numeric row")

def usageEventId : String :=
  "usage_event_fastclaw_" ++ input.runId

def ledgerEntryId : String :=
  "usage_ledger_entry_fastclaw_" ++ input.runId

def usageEventOf : Option UsageEvent := do
  let occurredAt ← platform.parseTimestamp input.occurredAt
  let inputUnits ← bindInteger 32 (input.counters .modelInputTokens)
  let outputUnits ← bindInteger 32 (input.counters .modelOutputTokens)
  pure
    { usageEventId := usageEventId input
      requestId := input.requestId
      runId := some input.runId
      workspaceId := input.workspaceId
      accountId := some input.accountId
      channel := "api"
      dataset := "fastclaw_personal_agent"
      operation := "agent_run"
      occurredAt := occurredAt
      inputUnits := inputUnits
      outputUnits := outputUnits
      cacheState := "not_applicable"
      qualityState := if input.terminalState = "completed" then "PASS" else "HOLD"
      dataVersion := "fastclaw-personal-v0"
      methodologyVersion := input.methodologyVersion
      rightsPolicyVersion := input.rightsPolicyVersion
      sourceRecordId := input.sourceRecordId }

def ledgerEntryOf : Option UsageLedgerEntry := do
  let creditDelta ← bindNumeric input.creditDelta
  pure
    { ledgerEntryId := ledgerEntryId input
      usageEventId := usageEventId input
      workspaceId := input.workspaceId
      accountId := some input.accountId
      meterRuleId := fastclawUsageMeterRuleId
      creditDelta := creditDelta
      billableState := "preview"
      sourceRecordId := input.sourceRecordId }

def usageRowOf : Option UsageRow := do
  let usage ← input.translate bindNumeric bindBigint platform.parseTimestamp
  pure
    { usage := { usage with measurement := "observed" }
      usageEventId := usageEventId input
      ledgerEntryId := ledgerEntryId input }

def storedUsage (inserted : Bool) (after : UsageStore) :
    Except ProductControlError (Option ResearchAgentObservedUsage) :=
  if inserted then
    (require (normalizeUsageRow platform row)
      (.other "invalid product-control numeric row")).map some
  else
    after.readUsage platform row.usage.workspaceId row.usage.runId

/-- The statements of the transaction: whether the run was there already, and the tables. -/
def recordUnseen : Except ProductControlError (Bool × UsageStore) := do
  let event ← require (usageEventOf platform input) .database
  let withEvent ← require (s.insertUsageEvent event) .database
  let entry ← require (ledgerEntryOf input) .database
  let withEntry ← require (withEvent.insertLedgerEntry entry) .database
  let row ← require (usageRowOf platform input) .database
  let (inserted, after) ← require (withEntry.insertRunUsage row) .database
  let stored ← storedUsage platform row inserted after
  ensure (∃ usage ∈ stored, usageMatches input usage)
    (.input .USAGE_REPLAY_MISMATCH
      "concurrent run usage does not match the original observed measurement")
  pure (!inserted, after)

structure UsageRecording where
  result : Except ProductControlError (Bool × ResearchAgentObservedUsage)
  store : UsageStore

/-- A transaction that fails is rolled back. -/
def recordInRepository : UsageRecording :=
  match s.readUsage platform input.workspaceId input.runId with
  | .error error => { result := .error error, store := s }
  | .ok (some existing) =>
    if usageMatches input existing then
      { result := .ok (true, input), store := s }
    else
      { result := .error
          (.input .USAGE_REPLAY_MISMATCH
            "run usage replay does not match the original observed measurement")
        store := s }
  | .ok none =>
    match recordUnseen platform input s with
    | .error error => { result := .error error, store := s }
    | .ok (replayed, after) => { result := .ok (replayed, input), store := after }

def recordObservedUsage : UsageRecording :=
  match validateUsage platform input with
  | .error error => { result := .error error, store := s }
  | .ok () => recordInRepository platform input s

end Aiphabee.ProductControl
