import Aiphabee.ProductControl.UsageReplay
import Aiphabee.Sandbox.TerminalLifecycle

/-!
# The usage of a terminal record

When a run has ended, its terminal record is turned into a usage and recorded.  The
sink stamps the usage with its own clock, so a second call with the same record gives
another usage unless it falls into the same millisecond; `retrySafe_iff` says which
later calls are replays and which are refused.
-/

namespace Aiphabee.ProductControl

open Aiphabee

def terminalStateText : TerminalLifecycle.SandboxTerminalState → String
  | .clientCancelled => "client_cancelled"
  | .completed => "completed"
  | .createFailed => "create_failed"
  | .executionFailed => "execution_failed"
  | .globalKilled => "global_killed"
  | .hardTimeout => "hard_timeout"
  | .killSwitch => "kill_switch"
  | .softTimeout => "soft_timeout"
  | .streamInterrupted => "stream_interrupted"
  | .tenantKilled => "tenant_killed"

/-- The part of a record's usage that is read off a clock, and how it was measured. -/
structure ClockReadings where
  cleanupWallClockMs : JsNumber
  estimated : Bool
  executionWallClockMs : JsNumber
  lifecycleWallClockMs : JsNumber
  measurement : String
deriving DecidableEq

structure ObservedTerminalRecord extends
    TerminalLifecycle.SandboxTerminalLifecycleRecord where
  readings : ClockReadings
deriving DecidableEq

structure FastClawObservedTerminalUsageContext where
  accountId : String
  modelInputTokens : JsNumber
  modelOutputTokens : JsNumber
  requestId : String
  sandboxCpuMs : JsNumber
  sandboxPeakDiskBytes : JsNumber
  sandboxPeakMemoryBytes : JsNumber
  sourceRecordId : String
  storageBytesRead : JsNumber
  storageBytesWritten : JsNumber
  storageDeleteOps : JsNumber
  storageReadOps : JsNumber
  storageWriteOps : JsNumber
  toolCallsFailed : JsNumber
  toolCallsSucceeded : JsNumber
  workspaceId : String

def terminalCounters (context : FastClawObservedTerminalUsageContext)
    (record : ObservedTerminalRecord) : UsageCounter → JsNumber
  | .modelInputTokens => context.modelInputTokens
  | .modelOutputTokens => context.modelOutputTokens
  | .sandboxCpuMs => context.sandboxCpuMs
  | .sandboxPeakDiskBytes => context.sandboxPeakDiskBytes
  | .sandboxPeakMemoryBytes => context.sandboxPeakMemoryBytes
  | .sandboxWallClockMs => record.readings.lifecycleWallClockMs
  | .storageBytesRead => context.storageBytesRead
  | .storageBytesWritten => context.storageBytesWritten
  | .storageDeleteOps => context.storageDeleteOps
  | .storageReadOps => context.storageReadOps
  | .storageWriteOps => context.storageWriteOps
  | .toolCallsFailed => context.toolCallsFailed
  | .toolCallsSucceeded => context.toolCallsSucceeded

def terminalUsage (context : FastClawObservedTerminalUsageContext) (record : ObservedTerminalRecord)
    (occurredAt : String) : ResearchAgentObservedUsage where
  accountId := context.accountId
  creditDelta := .finite 0
  measurement := "observed"
  methodologyVersion := fastclawUsageMethodologyVersion
  occurredAt := occurredAt
  requestId := context.requestId
  rightsPolicyVersion := "default_deny"
  runId := record.runId
  sourceRecordId := context.sourceRecordId
  terminalState := terminalStateText record.terminalState
  workspaceId := context.workspaceId
  counters := terminalCounters context record

def ObservedTerminalRecord.isObserved (record : ObservedTerminalRecord) : Bool :=
  record.readings.measurement = "observed" && !record.readings.estimated

inductive TerminalSinkError
  | notObserved
  | invalidTime
  | repository (error : ProductControlError)
deriving DecidableEq

structure SinkCall where
  record : ObservedTerminalRecord
  now : JsDate.Date

/-- The sink: whether the repository has replayed the usage, and the tables. -/
def recordTerminal (platform : UsagePlatform) (context : FastClawObservedTerminalUsageContext)
    (call : SinkCall) (s : UsageStore) : Except TerminalSinkError Bool × UsageStore :=
  if !call.record.isObserved then
    (.error .notObserved, s)
  else
    match JsDate.toISOString call.now with
    | none => (.error .invalidTime, s)
    | some occurredAt =>
      let recording :=
        recordInRepository platform (terminalUsage context call.record occurredAt) s
      match recording.result with
      | .error error => (.error (.repository error), recording.store)
      | .ok (replayed, _) => (.ok replayed, recording.store)

/-- Calls one after another: their results, and the tables after them. -/
def recordTerminals (platform : UsagePlatform) (context : FastClawObservedTerminalUsageContext)
    (s : UsageStore) :
    List SinkCall → List (Except TerminalSinkError Bool) × UsageStore
  | [] => ([], s)
  | call :: rest =>
    let recording := recordTerminal platform context call s
    let later := recordTerminals platform context recording.2 rest
    (recording.1 :: later.1, later.2)

structure UsageStore.KeysDistinct (s : UsageStore) : Prop where
  events : (s.events.map UsageEvent.usageEventId).Nodup
  ledger : (s.ledger.map UsageLedgerEntry.ledgerEntryId).Nodup

structure UsageStore.HoldsOnce
    (s : UsageStore)
    (workspaceId runId : String) : Prop where
  event : s.events.countP (·.usageEventId = "usage_event_fastclaw_" ++ runId) = 1
  entry : s.ledger.countP (·.ledgerEntryId = "usage_ledger_entry_fastclaw_" ++ runId) = 1
  row : s.runUsage.countP (·.isOf workspaceId runId) = 1

structure RetrySafe
    (platform : UsagePlatform)
    (context : FastClawObservedTerminalUsageContext)
    (record : ObservedTerminalRecord)
    (s : UsageStore)
    (later : List SinkCall) : Prop where
  results : List.Forall₂
    (fun call result =>
      (call.record = record → result = Except.ok true) ∧
        (call.record ≠ record → ∃ error, result = Except.error error))
    later (recordTerminals platform context s later).1
  unchanged : (recordTerminals platform context s later).2 = s
  once : s.HoldsOnce context.workspaceId record.runId

def SameUsage (call first : SinkCall) : Prop :=
  call.record.isObserved = true ∧
    JsDate.toISOString call.now = JsDate.toISOString first.now ∧
    call.record.terminalState = first.record.terminalState ∧
    call.record.readings.lifecycleWallClockMs = first.record.readings.lifecycleWallClockMs

variable {platform : UsagePlatform}
variable {context : FastClawObservedTerminalUsageContext}
variable {s after : UsageStore}

section Storing

variable {input : ResearchAgentObservedUsage}

theorem normalizeUsageRow_finite {row : UsageRow} {usage : ResearchAgentObservedUsage}
    (h : normalizeUsageRow platform row = some usage) :
    (∃ value, usage.creditDelta = .finite value) ∧
      ∀ name, ∃ value, usage.counters name = .finite value := by
  have hnumber : ∀ {value parsed}, number value = some parsed → ∃ n, parsed = .finite n := by
    intro value parsed hparsed
    rw [number] at hparsed
    split at hparsed
    · split at hparsed
      · cases hparsed
      · exact ⟨_, (Option.some.inj hparsed).symm⟩
    · cases hparsed
  obtain ⟨read, hread, rfl⟩ := Option.map_eq_some_iff.mp h
  obtain ⟨_, _, _, hcredit, hcounters, _, rfl⟩ := translate_eq_some_iff.mp hread
  exact ⟨hnumber hcredit, fun name => hnumber (hcounters name)⟩

theorem usageRowOf_ids {row : UsageRow} (h : usageRowOf platform input = some row) :
    row.usage.workspaceId = input.workspaceId ∧ row.usage.runId = input.runId ∧
      row.usageEventId = usageEventId input ∧ row.ledgerEntryId = ledgerEntryId input := by
  obtain ⟨usage, husage, hrow⟩ := Option.bind_eq_some_iff.mp h
  obtain rfl := Option.some.inj hrow
  obtain ⟨_, _, _, _, _, _, rfl⟩ := translate_eq_some_iff.mp husage
  exact ⟨rfl, rfl, rfl, rfl⟩

theorem insertUsageEvent_keys {event : UsageEvent} (hkeys : s.KeysDistinct)
    (h : s.insertUsageEvent event = some after) :
    after.KeysDistinct ∧ after.runUsage = s.runUsage := by
  obtain ⟨-, rfl⟩ | ⟨hfresh, -, -, -, rfl⟩ := insertUsageEvent_eq_some.mp h
  · exact ⟨hkeys, rfl⟩
  · refine ⟨⟨?_, hkeys.ledger⟩, rfl⟩
    rw [List.map_append, List.map_singleton]
    refine hkeys.events.append (List.nodup_singleton _) ?_
    intro id hid hnew
    obtain ⟨other, hother, rfl⟩ := List.mem_map.mp hid
    exact hfresh other hother (List.mem_singleton.mp hnew)

theorem insertLedgerEntry_keys {entry : UsageLedgerEntry} (hkeys : s.KeysDistinct)
    (h : s.insertLedgerEntry entry = some after) :
    after.KeysDistinct ∧ after.runUsage = s.runUsage := by
  obtain ⟨-, ⟨-, rfl⟩ | ⟨-, hfresh, -, -, -, -, rfl⟩⟩ := insertLedgerEntry_eq_some.mp h
  · exact ⟨hkeys, rfl⟩
  · refine ⟨⟨hkeys.events, ?_⟩, rfl⟩
    rw [List.map_append, List.map_singleton]
    refine hkeys.ledger.append (List.nodup_singleton _) ?_
    intro id hid hnew
    obtain ⟨other, hother, rfl⟩ := List.mem_map.mp hid
    exact hfresh other hother (List.mem_singleton.mp hnew)

/-- A key that a table with different keys holds is there once. -/
theorem countP_key {Row : Type} {key : Row → String} {rows : List Row}
    (hnodup : (rows.map key).Nodup) {row : Row} (hrow : row ∈ rows) :
    rows.countP (fun other => key other = key row) = 1 := by
  have hcount := List.count_eq_one_of_mem hnodup (List.mem_map_of_mem (f := key) hrow)
  rw [List.count, List.countP_map] at hcount
  rw [← hcount]
  refine List.countP_congr fun other _ => ?_
  simp

theorem recordUnseen_spec (hkeys : s.KeysDistinct)
    (hunseen : ∀ row ∈ s.runUsage, row.isOf input.workspaceId input.runId = false) {replayed : Bool}
    (h : recordUnseen platform input s = .ok (replayed, after)) :
    after.HoldsOnce input.workspaceId input.runId ∧
      after.readUsage platform input.workspaceId input.runId = .ok (some input) ∧
      (∃ value, input.creditDelta = .finite value) ∧
      ∀ name, ∃ value, input.counters name = .finite value := by
  simp only [recordUnseen, Checks.bind_eq_ok, Checks.require_eq_ok, Checks.ensure_eq_ok] at h
  obtain ⟨event, hevent, withEvent, hwithEvent, entry, hentry, withEntry, hwithEntry, row, hrow,
    ⟨inserted, final⟩, hinsert, stored, hstored, _, ⟨usage, husage, hmatch⟩, hresult⟩ := h
  obtain ⟨-, rfl⟩ := Prod.mk.inj (Except.ok.inj hresult)
  obtain ⟨hworkspace, hrun, heventId, hentryId⟩ := usageRowOf_ids hrow
  obtain ⟨hkeysEvent, hrowsEvent⟩ := insertUsageEvent_keys hkeys hwithEvent
  obtain ⟨hkeysEntry, hrowsEntry⟩ := insertLedgerEntry_keys hkeysEvent hwithEntry
  have hrows : withEntry.runUsage = s.runUsage := hrowsEntry.trans hrowsEvent
  obtain ⟨-, ⟨⟨other, hother, hof⟩, -⟩ | ⟨-, -, -, -, ⟨oldEvent, holdEvent, hsameEvent⟩,
    ⟨oldEntry, holdEntry, hsameEntry⟩, rfl, rfl⟩⟩ := insertRunUsage_eq_some.mp hinsert
  · rw [hrows] at hother
    rw [hworkspace, hrun, hunseen other hother] at hof
    cases hof
  rw [storedUsage, if_pos rfl] at hstored
  obtain ⟨read, hread, rfl⟩ : ∃ read, normalizeUsageRow platform row = some read ∧
      some read = stored := by
    cases hnormalize : normalizeUsageRow platform row with
    | none => rw [hnormalize] at hstored; cases hstored
    | some read => rw [hnormalize] at hstored; exact ⟨read, rfl, Except.ok.inj hstored⟩
  obtain rfl := Option.some.inj husage
  obtain ⟨hcredit, hcounters⟩ := normalizeUsageRow_finite hread
  obtain rfl := (usageMatches_iff hcredit hcounters).mp hmatch
  have hof : row.isOf input.workspaceId input.runId = true := by
    simp [UsageRow.isOf, hworkspace, hrun]
  have hnone : s.runUsage.find? (·.isOf input.workspaceId input.runId) = none := by
    simpa using hunseen
  refine ⟨⟨?_, ?_, ?_⟩, ?_, hcredit, hcounters⟩
  · have hid : "usage_event_fastclaw_" ++ input.runId = oldEvent.usageEventId := by
      rw [hsameEvent, heventId]
      rfl
    rw [hid]
    exact countP_key hkeysEntry.events holdEvent
  · have hid : "usage_ledger_entry_fastclaw_" ++ input.runId = oldEntry.ledgerEntryId := by
      rw [hsameEntry, hentryId]
      rfl
    rw [hid]
    exact countP_key hkeysEntry.ledger holdEntry
  · dsimp only
    rw [hrows, List.countP_append, List.countP_eq_zero.mpr fun other hother => by
      rw [hunseen other hother]; decide]
    simp [hof]
  · rw [UsageStore.readUsage]
    dsimp only
    rw [hrows, List.find?_append, hnone, Option.none_or]
    simp [hof, hread]

end Storing

section Calls

variable {first : SinkCall}

theorem terminalUsage_eq_iff {call : SinkCall} (hrun : call.record.runId = first.record.runId)
    {occurredAt firstAt : String} :
    terminalUsage context call.record occurredAt = terminalUsage context first.record firstAt ↔
      occurredAt = firstAt ∧ call.record.terminalState = first.record.terminalState ∧
        call.record.readings.lifecycleWallClockMs =
          first.record.readings.lifecycleWallClockMs := by
  constructor
  · intro h
    have hstate := congrArg RunUsage.terminalState h
    refine ⟨congrArg RunUsage.occurredAt h, ?_,
      congrFun (congrArg RunUsage.counters h) .sandboxWallClockMs⟩
    revert hstate
    change terminalStateText _ = terminalStateText _ → _
    cases call.record.terminalState <;> cases first.record.terminalState <;> decide
  · rintro ⟨rfl, hstate, hclock⟩
    have hcounters : terminalCounters context call.record =
        terminalCounters context first.record := by
      funext name
      cases name <;> first | rfl | exact hclock
    simp only [terminalUsage, hrun, hstate, hcounters]

/-- The usage of the first call is stored under the instant of that call. -/
structure StoresUsage
    (platform : UsagePlatform)
    (context : FastClawObservedTerminalUsageContext)
    (s : UsageStore)
    (first : SinkCall)
    (firstAt : String) : Prop where
  instant : JsDate.toISOString first.now = some firstAt
  read : s.readUsage platform context.workspaceId first.record.runId =
    .ok (some (terminalUsage context first.record firstAt))
  counters : ∀ name, ∃ value,
    (terminalUsage context first.record firstAt).counters name = .finite value

/-- A run whose usage is stored: a call replays it when it gives the same, and fails else. -/
theorem recordTerminal_of_stored {firstAt : String}
    (hstored : StoresUsage platform context s first firstAt) {call : SinkCall}
    (hrun : call.record.runId = first.record.runId) :
    (recordTerminal platform context call s).2 = s ∧
      (SameUsage call first → (recordTerminal platform context call s).1 = .ok true) ∧
      (¬SameUsage call first →
        ∃ error, (recordTerminal platform context call s).1 = .error error) := by
  rw [recordTerminal, SameUsage]
  by_cases hobserved : call.record.isObserved = true
  · simp only [hobserved, Bool.not_true, Bool.false_eq_true, if_false, true_and]
    cases hnow : JsDate.toISOString call.now with
    | none => simp [hstored.instant]
    | some occurredAt =>
      have hmatches := @usageMatches_iff (terminalUsage context call.record occurredAt)
        (terminalUsage context first.record firstAt) ⟨0, rfl⟩ hstored.counters
      rw [terminalUsage_eq_iff hrun] at hmatches
      have hexisting : s.readUsage platform
          (terminalUsage context call.record occurredAt).workspaceId
          (terminalUsage context call.record occurredAt).runId =
            .ok (some (terminalUsage context first.record firstAt)) := by
        rw [← hstored.read]
        exact congrArg (s.readUsage platform context.workspaceId) hrun
      simp only [recordInRepository, hexisting, hstored.instant, Option.some.injEq]
      by_cases hmatch : usageMatches (terminalUsage context call.record occurredAt)
          (terminalUsage context first.record firstAt)
      · rw [if_pos hmatch]
        exact ⟨rfl, fun _ => rfl, fun hnot => absurd (hmatches.mp hmatch) hnot⟩
      · rw [if_neg hmatch]
        exact ⟨rfl, fun hsame => absurd (hmatches.mpr hsame) hmatch, fun _ => ⟨_, rfl⟩⟩
  · simp [hobserved]

theorem recordTerminals_of_stored {firstAt : String}
    (hstored : StoresUsage platform context s first firstAt) {later : List SinkCall}
    (hruns : ∀ call ∈ later, call.record.runId = first.record.runId) :
    recordTerminals platform context s later =
      (later.map fun call => (recordTerminal platform context call s).1, s) := by
  induction later with
  | nil => rfl
  | cons call rest ih =>
    have hstore := (recordTerminal_of_stored hstored (hruns call List.mem_cons_self)).1
    rw [recordTerminals, hstore, ih fun other hother => hruns other (List.mem_cons_of_mem _ hother)]
    rfl

theorem recordTerminal_of_unseen (hkeys : s.KeysDistinct)
    (hunseen : ∀ row ∈ s.runUsage, row.isOf context.workspaceId first.record.runId = false)
    {replayed : Bool} (h : recordTerminal platform context first s = (.ok replayed, after)) :
    first.record.isObserved = true ∧
      after.HoldsOnce context.workspaceId first.record.runId ∧
        ∃ firstAt, StoresUsage platform context after first firstAt := by
  rw [recordTerminal] at h
  by_cases hobserved : first.record.isObserved = true
  · refine ⟨hobserved, ?_⟩
    simp only [hobserved, Bool.not_true, Bool.false_eq_true, if_false] at h
    cases hnow : JsDate.toISOString first.now with
    | none => rw [hnow] at h; cases h
    | some firstAt =>
      have hread : s.readUsage platform
          (terminalUsage context first.record firstAt).workspaceId
          (terminalUsage context first.record firstAt).runId = .ok none :=
        readUsage_of_unseen hunseen
      rw [hnow] at h
      simp only [recordInRepository, hread] at h
      cases hunseen' : recordUnseen platform (terminalUsage context first.record firstAt) s with
      | error error => rw [hunseen'] at h; cases h
      | ok pair =>
        obtain ⟨flag, final⟩ := pair
        rw [hunseen'] at h
        obtain ⟨-, rfl⟩ := Prod.mk.inj h
        obtain ⟨honce, hback, -, hcounters⟩ := recordUnseen_spec hkeys hunseen hunseen'
        exact ⟨honce, firstAt, hnow, hback, hcounters⟩
  · simp [hobserved] at h

/--
Later calls for a run behave as they should exactly when those with the first
call's record give the same usage, and those with another record give another one.
-/
theorem retrySafe_iff (platform : UsagePlatform) (context : FastClawObservedTerminalUsageContext)
    (first : SinkCall) (s after : UsageStore) (later : List SinkCall) (replayed : Bool)
    (hkeys : s.KeysDistinct)
    (hunseen : ∀ row ∈ s.runUsage, row.isOf context.workspaceId first.record.runId = false)
    (hfirst : recordTerminal platform context first s = (.ok replayed, after))
    (hruns : ∀ call ∈ later, call.record.runId = first.record.runId) :
    RetrySafe platform context first.record after later ↔
      ∀ call ∈ later, (call.record = first.record ↔ SameUsage call first) := by
  obtain ⟨hobserved, honce, firstAt, hstored⟩ := recordTerminal_of_unseen hkeys hunseen hfirst
  have hrun := recordTerminals_of_stored hstored hruns
  have hcall : ∀ call ∈ later,
      (((call.record = first.record →
          (recordTerminal platform context call after).1 = Except.ok true) ∧
        (call.record ≠ first.record →
          ∃ error, (recordTerminal platform context call after).1 = Except.error error)) ↔
      (call.record = first.record ↔ SameUsage call first)) := by
    intro call hmem
    obtain ⟨-, hsame, hother⟩ := recordTerminal_of_stored hstored (hruns call hmem)
    constructor
    · rintro ⟨hreplay, hrefuse⟩
      constructor
      · intro hrecord
        by_contra hnot
        obtain ⟨error, herror⟩ := hother hnot
        rw [hreplay hrecord] at herror
        cases herror
      · intro hsameUsage
        by_contra hne
        obtain ⟨error, herror⟩ := hrefuse hne
        rw [hsame hsameUsage] at herror
        cases herror
    · intro hiff
      exact ⟨fun hrecord => hsame (hiff.mp hrecord), fun hne => hother fun h => hne (hiff.mpr h)⟩
  constructor
  · intro h call hmem
    refine (hcall call hmem).mp ?_
    have hresults := h.results
    rw [hrun] at hresults
    exact (List.forall₂_map_right_iff.mp hresults |> List.forall₂_same.mp) call hmem
  · intro h
    refine { results := ?_, unchanged := by rw [hrun], once := honce }
    rw [hrun]
    exact List.forall₂_map_right_iff.mpr
      (List.forall₂_same.mpr fun call hmem => (hcall call hmem).mpr (h call hmem))

def sampleContext : FastClawObservedTerminalUsageContext where
  accountId := "account"
  modelInputTokens := .zero
  modelOutputTokens := .zero
  requestId := "request"
  sandboxCpuMs := .zero
  sandboxPeakDiskBytes := .zero
  sandboxPeakMemoryBytes := .zero
  sourceRecordId := "source"
  storageBytesRead := .zero
  storageBytesWritten := .zero
  storageDeleteOps := .zero
  storageReadOps := .zero
  storageWriteOps := .zero
  toolCallsFailed := .zero
  toolCallsSucceeded := .zero
  workspaceId := "workspace-a"

def sampleCall (time : Int) : SinkCall where
  record :=
    { cleanup := { executionClosed := true, releaseSafe := true, status := .destroyed }
      executionTerminalSeen := true
      killStatus := .notRequested
      leaseId := some "lease"
      recordKey := "record"
      requestedKillReason := none
      runId := "run"
      terminalState := .completed
      usage := { exitCode := some 0, outputEventCount := 2, stderrBytes := 0, stdoutBytes := 12 }
      readings :=
        { cleanupWallClockMs := .zero
          estimated := false
          executionWallClockMs := .zero
          lifecycleWallClockMs := .zero
          measurement := "observed" } }
  now := JsDate.ofMilliseconds time

def sampleAfter : UsageStore :=
  (recordTerminal samplePlatform sampleContext (sampleCall 1783749600000) emptyUsageStore).2

/-- A second call in the same millisecond is a replay. -/
theorem retrySafe_sameMillisecond :
    RetrySafe samplePlatform sampleContext (sampleCall 1783749600000).record sampleAfter
      [sampleCall 1783749600000] := by
  refine (retrySafe_iff samplePlatform sampleContext (sampleCall 1783749600000) emptyUsageStore
    sampleAfter [sampleCall 1783749600000] false ⟨by decide, by decide⟩ (by decide)
    (by decide +kernel) (by decide)).mpr fun call hcall => ?_
  obtain rfl := List.mem_singleton.mp hcall
  exact ⟨fun _ => ⟨rfl, rfl, rfl, rfl⟩, fun _ => rfl⟩

/-- A second call a second later is refused. -/
theorem laterRetry_refused :
    recordTerminal samplePlatform sampleContext (sampleCall 1783749600000) emptyUsageStore =
        (.ok false, sampleAfter) ∧
      ¬RetrySafe samplePlatform sampleContext (sampleCall 1783749600000).record sampleAfter
        [sampleCall 1783749601000] := by
  refine ⟨by decide +kernel, fun h => ?_⟩
  have hresult : (recordTerminals samplePlatform sampleContext sampleAfter
      [sampleCall 1783749601000]).1 =
      [.error (.repository (.input .USAGE_REPLAY_MISMATCH
        "run usage replay does not match the original observed measurement"))] := by
    decide +kernel
  have hresults := h.results
  rw [hresult] at hresults
  cases (List.forall₂_cons.mp hresults).1.1 rfl

end Calls

end Aiphabee.ProductControl
