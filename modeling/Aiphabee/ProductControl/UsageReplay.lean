import Aiphabee.ProductControl.ObservedUsage

/-!
# When the usage of a run is recorded once, and replayed

A usage that is valid is recorded when the database gives its time back as the
same text, its tokens fit into the columns of the event, and no other event,
entry or row has the identifiers that are made from its run.  From then on every
call with the same usage is a replay, and every other usage of the run is
refused.
-/

namespace Aiphabee.ProductControl

variable {platform : UsagePlatform}
variable {input : ResearchAgentObservedUsage}
variable {s after : UsageStore}

theorem translateCounters_eq_some_iff {ν ν' : Type} {translate : ν → Option ν'}
    {counters : UsageCounter → ν} {counters' : UsageCounter → ν'} :
    translateCounters translate counters = some counters' ↔
      ∀ counter, translate (counters counter) = some (counters' counter) := by
  rw [translateCounters]
  constructor
  · intro h counter
    split at h
    next hsome =>
      obtain rfl := Option.some.inj h
      exact (Option.some_get (hsome counter)).symm
    next => cases h
  · intro h
    have hsome : ∀ counter, (translate (counters counter)).isSome := by
      intro counter
      rw [h counter]
      rfl
    rw [dif_pos hsome]
    refine congrArg some (funext fun counter => ?_)
    exact Option.get_of_eq_some (hsome counter) (h counter)

theorem translate_eq_some_iff {ν ν' τ τ' : Type} {credit counter : ν → Option ν'}
    {time : τ → Option τ'} {usage : RunUsage ν τ} {usage' : RunUsage ν' τ'} :
    usage.translate credit counter time = some usage' ↔
      ∃ creditDelta counters occurredAt,
        credit usage.creditDelta = some creditDelta ∧
        (∀ name, counter (usage.counters name) = some (counters name)) ∧
        time usage.occurredAt = some occurredAt ∧
        usage' =
          { accountId := usage.accountId
            creditDelta := creditDelta
            measurement := usage.measurement
            methodologyVersion := usage.methodologyVersion
            occurredAt := occurredAt
            requestId := usage.requestId
            rightsPolicyVersion := usage.rightsPolicyVersion
            runId := usage.runId
            sourceRecordId := usage.sourceRecordId
            terminalState := usage.terminalState
            workspaceId := usage.workspaceId
            counters := counters } := by
  simp only [RunUsage.translate, Option.bind_eq_bind, Option.bind_eq_some_iff, Option.pure_def,
    Option.some.injEq, translateCounters_eq_some_iff]
  constructor
  · rintro ⟨creditDelta, hcredit, counters, hcounters, occurredAt, htime, rfl⟩
    exact ⟨creditDelta, counters, occurredAt, hcredit, hcounters, htime, rfl⟩
  · rintro ⟨creditDelta, counters, occurredAt, hcredit, hcounters, htime, rfl⟩
    exact ⟨creditDelta, hcredit, counters, hcounters, occurredAt, htime, rfl⟩

theorem jsonNumber_finite {number : JsNumber} {value : ℚ} (h : jsonNumber number = .number value) :
    number = .finite value := by
  cases number with
  | finite other => rw [UsageValue.number.inj h]
  | nan => cases h
  | infinity negative => cases h

theorem usageMatches_iff {left right : ResearchAgentObservedUsage}
    (hcredit : ∃ value, right.creditDelta = .finite value)
    (hcounters : ∀ name, ∃ value, right.counters name = .finite value) :
    usageMatches left right ↔ left = right := by
  constructor
  · intro h
    have hnumber : ∀ {a b : JsNumber}, (∃ value, b = .finite value) →
        jsonNumber a = jsonNumber b → a = b := by
      rintro a _ ⟨value, rfl⟩ heq
      exact jsonNumber_finite heq
    simp only [usageMatches, usageValues, List.cons.injEq, UsageValue.text.injEq, and_true] at h
    obtain ⟨haccount, hcredits, hmeasurement, hmethodology, h1, h2, htime, hrequest, hrights,
      hrun, h3, h4, h5, h6, hsource, h7, h8, h9, h10, h11, hstate, h12, h13, hworkspace⟩ := h
    have hsame : left.counters = right.counters := by
      funext name
      refine hnumber (hcounters name) ?_
      cases name <;> assumption
    have hcreditSame := hnumber hcredit hcredits
    cases left
    cases right
    simp_all
  · rintro rfl
    rfl

structure ValidUsage (input : ResearchAgentObservedUsage) : Prop where
  measurement : input.measurement = "observed"
  rights : input.rightsPolicyVersion = "default_deny"
  state : input.terminalState ∈ sandboxTerminalStates
  credit : input.creditDelta = .finite 0
  counters : ∀ name, ∃ n : Nat, n < 2 ^ 53 ∧ input.counters name = .finite n

/-- A counter that is accepted is a whole number below `2 ^ 53`. -/
theorem safeCount_iff {value : JsNumber} :
    safeCount value = true ↔ ∃ n : Nat, n < 2 ^ 53 ∧ value = .finite n := by
  constructor
  · intro h
    cases value with
    | finite value =>
      simp only [safeCount, Bool.and_eq_true, decide_eq_true_eq] at h
      obtain ⟨⟨hden, hlow⟩, hhigh⟩ := h
      rw [maxSafeCount] at hhigh
      refine ⟨value.num.toNat, by omega, ?_⟩
      have hnum : ((value.num.toNat : Int) : ℚ) = value := by
        rw [Int.toNat_of_nonneg hlow]
        exact (Rat.den_eq_one_iff value).mp hden
      rw [← hnum]
      rfl
    | nan => cases h
    | infinity negative => cases h
  · rintro ⟨n, hn, rfl⟩
    simp only [safeCount, Bool.and_eq_true, decide_eq_true_eq]
    rw [Rat.den_natCast, Rat.num_natCast, maxSafeCount]
    omega

theorem validateUsage_eq_ok (h : validateUsage platform input = .ok ()) : ValidUsage input := by
  simp only [validateUsage, Checks.bind_eq_ok, Checks.ensure_eq_ok] at h
  obtain ⟨_, ⟨hmeasurement, -, -, -, -, -, hrights, hstate, -, -, -, hcredit⟩, hcounters⟩ := h
  exact
    { measurement := hmeasurement
      rights := hrights
      state := hstate
      credit := hcredit
      counters := fun name => safeCount_iff.mp (hcounters name) }

/-- A whole number is read back from a column of 64 bits. -/
theorem bindInteger_natCast {n bits : Nat} (h : n < 2 ^ (bits - 1)) :
    bindInteger bits (.finite n) = some (n : Int) := by
  rw [bindInteger, if_pos]
  · rw [Rat.num_natCast]
  · rw [Rat.num_natCast]
    refine ⟨Rat.den_natCast n, ?_, by exact_mod_cast h⟩
    have hpositive : (0 : Int) < 2 ^ (bits - 1) := by positivity
    omega

theorem number_natCast {n : Nat} (h : n < 2 ^ 53) : number (n : ℚ) = some (.finite n) := by
  rw [number, JsNumber.nearest_natCast h]
  simp

theorem usageRowOf_eq_some (hvalid : ValidUsage input) {row : UsageRow}
    (h : usageRowOf platform input = some row) :
    row.usageEventId = usageEventId input ∧ row.ledgerEntryId = ledgerEntryId input ∧
      row.usage.workspaceId = input.workspaceId ∧ row.usage.runId = input.runId ∧
      row.usage.accountId = input.accountId ∧ row.passesChecks = true ∧
      platform.parseTimestamp input.occurredAt = some row.usage.occurredAt ∧
      normalizeUsageRow platform row =
        (iso platform row.usage.occurredAt).map fun occurredAt =>
          { input with occurredAt := occurredAt } := by
  obtain ⟨usage, husage, hrow⟩ := Option.bind_eq_some_iff.mp h
  obtain rfl := Option.some.inj hrow
  obtain ⟨creditDelta, counters, occurredAt, hcredit, hcounters, htime, rfl⟩ :=
    translate_eq_some_iff.mp husage
  rw [hvalid.credit] at hcredit
  obtain rfl := Option.some.inj hcredit
  have hcounter : ∀ name, ∃ n : Nat, n < 2 ^ 53 ∧ counters name = n ∧
      input.counters name = .finite n := by
    intro name
    obtain ⟨n, hn, hinput⟩ := hvalid.counters name
    have hbind := hcounters name
    rw [hinput, bindBigint, bindInteger_natCast (hn.trans (by norm_num)), Option.map_some]
      at hbind
    exact ⟨n, hn, by exact_mod_cast (Option.some.inj hbind).symm, hinput⟩
  refine ⟨rfl, rfl, rfl, rfl, rfl, ?_, htime, ?_⟩
  · have hpositive : ∀ name, 0 ≤ counters name := by
      intro name
      obtain ⟨n, -, hname, -⟩ := hcounter name
      rw [hname]
      exact Nat.cast_nonneg n
    simp [UsageRow.passesChecks, hvalid.state, hvalid.rights, hpositive]
  · rw [normalizeUsageRow]
    cases hiso : iso platform occurredAt with
    | none =>
      rw [Option.map_none, Option.map_eq_none_iff, Option.eq_none_iff_forall_ne_some]
      intro usage husage
      obtain ⟨_, _, text, -, -, htext, -⟩ := translate_eq_some_iff.mp husage
      rw [hiso] at htext
      cases htext
    | some text =>
      have hnumbers : ∀ name, number (counters name) = some (input.counters name) := by
        intro name
        obtain ⟨n, hn, hname, hinput⟩ := hcounter name
        rw [hname, hinput, number_natCast hn]
      have hzero : number 0 = some (.finite 0) := by
        exact_mod_cast number_natCast (by norm_num : 0 < 2 ^ 53)
      rw [translate_eq_some_iff.mpr ⟨_, _, _, hzero, hnumbers, hiso, rfl⟩, Option.map_some,
        Option.map_some, ← hvalid.credit, ← hvalid.measurement]

theorem insertUsageEvent_eq_some {event : UsageEvent} :
    s.insertUsageEvent event = some after ↔
      ((∃ other ∈ s.events, other.usageEventId = event.usageEventId) ∧ after = s) ∨
      ((∀ other ∈ s.events, other.usageEventId ≠ event.usageEventId) ∧
        (∀ other ∈ s.events, other.sameRequest event = false) ∧
        event.workspaceId ∈ s.workspaces ∧ (∀ id ∈ event.accountId, id ∈ s.accounts) ∧
        after = { s with events := s.events ++ [event] }) := by
  simp only [UsageStore.insertUsageEvent, ite_eq_iff, List.any_eq_true, decide_eq_true_eq,
    not_exists, not_and, Bool.not_eq_true, Option.some.injEq, reduceCtorEq, and_false, or_false,
    false_or, and_assoc, ne_eq, eq_comm (a := after)]

theorem insertLedgerEntry_eq_some {entry : UsageLedgerEntry} :
    s.insertLedgerEntry entry = some after ↔
      0 ≤ entry.creditDelta ∧
      (((∃ other ∈ s.ledger, other.usageEventId = entry.usageEventId ∧
          other.meterRuleId = entry.meterRuleId) ∧ after = s) ∨
        ((∀ other ∈ s.ledger, ¬(other.usageEventId = entry.usageEventId ∧
            other.meterRuleId = entry.meterRuleId)) ∧
          (∀ other ∈ s.ledger, other.ledgerEntryId ≠ entry.ledgerEntryId) ∧
          (∃ event ∈ s.events, event.usageEventId = entry.usageEventId) ∧
          entry.workspaceId ∈ s.workspaces ∧ (∀ id ∈ entry.accountId, id ∈ s.accounts) ∧
          entry.meterRuleId ∈ s.meterRules ∧
          after = { s with ledger := s.ledger ++ [entry] })) := by
  simp only [UsageStore.insertLedgerEntry, ite_eq_iff, List.any_eq_true, decide_eq_true_eq,
    Bool.and_eq_true, not_lt, not_exists, not_and, Option.some.injEq, reduceCtorEq, and_false,
    or_false, false_or, and_assoc, ne_eq, eq_comm (a := after)]

theorem insertRunUsage_eq_some {row : UsageRow} {inserted : Bool} :
    s.insertRunUsage row = some (inserted, after) ↔
      row.passesChecks = true ∧
      (((∃ other ∈ s.runUsage, other.isOf row.usage.workspaceId row.usage.runId = true) ∧
          inserted = false ∧ after = s) ∨
        ((∀ other ∈ s.runUsage, other.isOf row.usage.workspaceId row.usage.runId = false) ∧
          (∀ other ∈ s.runUsage, other.usageEventId ≠ row.usageEventId ∧
            other.ledgerEntryId ≠ row.ledgerEntryId) ∧
          row.usage.workspaceId ∈ s.workspaces ∧ row.usage.accountId ∈ s.accounts ∧
          (∃ event ∈ s.events, event.usageEventId = row.usageEventId) ∧
          (∃ entry ∈ s.ledger, entry.ledgerEntryId = row.ledgerEntryId) ∧
          inserted = true ∧ after = { s with runUsage := s.runUsage ++ [row] })) := by
  simp only [UsageStore.insertRunUsage, ite_eq_iff, List.any_eq_true, decide_eq_true_eq,
    Bool.or_eq_true, Bool.not_eq_true', Bool.not_eq_false, not_exists, not_and, not_or,
    Bool.not_eq_true, Option.some.injEq, Prod.mk.injEq, reduceCtorEq, and_false, or_false,
    false_or, and_assoc, ne_eq, eq_comm (a := after), eq_comm (a := inserted)]

section Recorded

def FitsInteger (value : JsNumber) : Prop :=
  JsNumber.le value (.finite 2147483647) = true

instance (value : JsNumber) : Decidable (FitsInteger value) :=
  inferInstanceAs (Decidable (_ = true))

/-- The event of the time of a usage is another event's, by all but its identifier. -/
def TakenRequest (s : UsageStore) (input : ResearchAgentObservedUsage) (occurredAt : Int) : Prop :=
  ∃ event ∈ s.events, event.requestId = input.requestId ∧ event.operation = "agent_run" ∧
    event.dataset = "fastclaw_personal_agent" ∧ event.occurredAt = occurredAt

/-- What the recording of a valid usage needs. -/
structure Recordable
    (platform : UsagePlatform)
    (input : ResearchAgentObservedUsage)
    (s : UsageStore) : Prop where
  time : ∃ occurredAt, platform.parseTimestamp input.occurredAt = some occurredAt ∧
    iso platform occurredAt = some input.occurredAt ∧ ¬TakenRequest s input occurredAt
  tokens : FitsInteger (input.counters .modelInputTokens) ∧
    FitsInteger (input.counters .modelOutputTokens)
  references : input.workspaceId ∈ s.workspaces ∧ input.accountId ∈ s.accounts ∧
    fastclawUsageMeterRuleId ∈ s.meterRules
  freshEvent : ∀ event ∈ s.events, event.usageEventId ≠ usageEventId input
  freshEntry : ∀ entry ∈ s.ledger, entry.ledgerEntryId ≠ ledgerEntryId input ∧
    (entry.usageEventId = usageEventId input →
      entry.meterRuleId ≠ fastclawUsageMeterRuleId)
  freshRow : ∀ row ∈ s.runUsage, row.usageEventId ≠ usageEventId input ∧
    row.ledgerEntryId ≠ ledgerEntryId input

/-- Calls one after another: their results, and the tables after them. -/
def recordAll (platform : UsagePlatform) (s : UsageStore) :
    List ResearchAgentObservedUsage →
      List (Except ProductControlError (Bool × ResearchAgentObservedUsage)) × UsageStore
  | [] => ([], s)
  | input :: rest =>
    let recording := recordObservedUsage platform input s
    let later := recordAll platform recording.store rest
    (recording.result :: later.1, later.2)

def AddsOnce (input : ResearchAgentObservedUsage) (s after : UsageStore) : Prop :=
  ∃ event entry row,
    after =
      { s with
        events := s.events ++ [event]
        ledger := s.ledger ++ [entry]
        runUsage := s.runUsage ++ [row] } ∧
    row.isOf input.workspaceId input.runId = true ∧ event.runId = some input.runId ∧
    entry.usageEventId = event.usageEventId ∧ row.usageEventId = event.usageEventId ∧
    row.ledgerEntryId = entry.ledgerEntryId

/--
A usage is accepted once: it is recorded, every number of further calls are
replays that write nothing, and every other usage of the run is refused.
-/
structure AcceptedOnce
    (platform : UsagePlatform)
    (input : ResearchAgentObservedUsage)
    (s : UsageStore) : Prop where
  recorded : (recordObservedUsage platform input s).result = .ok (false, input)
  adds : AddsOnce input s (recordObservedUsage platform input s).store
  replays : ∀ n,
    recordAll platform (recordObservedUsage platform input s).store (List.replicate n input) =
      (List.replicate n (.ok (true, input)), (recordObservedUsage platform input s).store)
  refused : ∀ other : ResearchAgentObservedUsage,
    other.workspaceId = input.workspaceId → other.runId = input.runId → other ≠ input →
      (∃ error,
        (recordObservedUsage platform other (recordObservedUsage platform input s).store).result =
          .error error) ∧
      (recordObservedUsage platform other (recordObservedUsage platform input s).store).store =
        (recordObservedUsage platform input s).store

theorem bindInteger_isSome_iff (hvalid : ValidUsage input) (name : UsageCounter) :
    (∃ n, bindInteger 32 (input.counters name) = some n) ↔
      FitsInteger (input.counters name) := by
  obtain ⟨n, -, hn⟩ := hvalid.counters name
  rw [hn, FitsInteger, JsNumber.le, decide_eq_true_eq]
  constructor
  · rintro ⟨bound, hbound⟩
    rw [bindInteger, Option.ite_none_right_eq_some, Rat.num_natCast] at hbound
    have hlt : n ≤ 2147483647 := by
      have := hbound.1.2.2
      omega
    exact_mod_cast hlt
  · intro h
    have hlt : n ≤ 2147483647 := by exact_mod_cast h
    exact ⟨n, bindInteger_natCast (by omega)⟩

theorem usageEventOf_eq_some {event : UsageEvent} (h : usageEventOf platform input = some event) :
    platform.parseTimestamp input.occurredAt = some event.occurredAt ∧
      (∃ n, bindInteger 32 (input.counters .modelInputTokens) = some n) ∧
      (∃ n, bindInteger 32 (input.counters .modelOutputTokens) = some n) ∧
      event.usageEventId = usageEventId input ∧ event.requestId = input.requestId ∧
      event.operation = "agent_run" ∧ event.dataset = "fastclaw_personal_agent" ∧
      event.workspaceId = input.workspaceId ∧ event.accountId = some input.accountId ∧
      event.runId = some input.runId := by
  simp only [usageEventOf, Option.bind_eq_bind, Option.bind_eq_some_iff] at h
  obtain ⟨occurredAt, htime, inputUnits, hinput, outputUnits, houtput, hevent⟩ := h
  obtain rfl := Option.some.inj hevent
  exact ⟨htime, ⟨_, hinput⟩, ⟨_, houtput⟩, rfl, rfl, rfl, rfl, rfl, rfl, rfl⟩

theorem ledgerEntryOf_of_valid (hvalid : ValidUsage input) :
    ∃ entry, ledgerEntryOf input = some entry ∧ entry.ledgerEntryId = ledgerEntryId input ∧
      entry.usageEventId = usageEventId input ∧ entry.workspaceId = input.workspaceId ∧
      entry.accountId = some input.accountId ∧
      entry.meterRuleId = fastclawUsageMeterRuleId ∧ entry.creditDelta = 0 := by
  rw [ledgerEntryOf, hvalid.credit]
  exact ⟨_, rfl, rfl, rfl, rfl, rfl, rfl, rfl⟩

variable {other : ResearchAgentObservedUsage}

theorem usageMatches_valid (hvalid : ValidUsage input) : usageMatches other input ↔ other = input :=
  usageMatches_iff ⟨0, hvalid.credit⟩ fun name => by
    obtain ⟨n, -, hn⟩ := hvalid.counters name
    exact ⟨n, hn⟩

theorem storedUsage_inserted_iff (hvalid : ValidUsage input) {row : UsageRow}
    (hrow : usageRowOf platform input = some row) (after : UsageStore) :
    (∃ stored, storedUsage platform row true after = .ok stored ∧
        ∃ usage ∈ stored, usageMatches input usage) ↔
      iso platform row.usage.occurredAt = some input.occurredAt := by
  obtain ⟨-, -, -, -, -, -, -, hnormalize⟩ := usageRowOf_eq_some hvalid hrow
  rw [storedUsage, if_pos rfl, hnormalize]
  cases hiso : iso platform row.usage.occurredAt with
  | none =>
    constructor
    · rintro ⟨stored, hstored, -⟩
      cases hstored
    · intro h
      cases h
  | some text =>
    have hmatches : usageMatches input { input with occurredAt := text } ↔
        input = { input with occurredAt := text } :=
      usageMatches_iff ⟨0, hvalid.credit⟩ fun name => by
        obtain ⟨n, -, hn⟩ := hvalid.counters name
        exact ⟨n, hn⟩
    constructor
    · rintro ⟨stored, hstored, usage, husage, hmatch⟩
      obtain rfl := Except.ok.inj hstored
      obtain rfl := Option.some.inj husage
      exact congrArg some (congrArg RunUsage.occurredAt (hmatches.mp hmatch)).symm
    · intro h
      obtain rfl := Option.some.inj h
      exact ⟨_, rfl, _, rfl, hmatches.mpr rfl⟩

theorem not_takenRequest_iff {event : UsageEvent}
    (hevent : usageEventOf platform input = some event) :
    ¬TakenRequest s input event.occurredAt ↔
      ∀ other ∈ s.events, other.sameRequest event = false := by
  obtain ⟨-, -, -, -, hrequest, hoperation, hdataset, -⟩ := usageEventOf_eq_some hevent
  simp only [TakenRequest, UsageEvent.sameRequest, hrequest, hoperation, hdataset,
    ← Bool.not_eq_true, Bool.and_eq_true, decide_eq_true_eq, not_exists, not_and, and_imp]

theorem recordable_of_recordUnseen (hvalid : ValidUsage input)
    (h : recordUnseen platform input s = .ok (false, after)) (hadds : AddsOnce input s after) :
    Recordable platform input s := by
  simp only [recordUnseen, Checks.bind_eq_ok, Checks.require_eq_ok, Checks.ensure_eq_ok] at h
  obtain ⟨event, hevent, withEvent, hwithEvent, entry, hentry, withEntry, hwithEntry, row, hrow,
    ⟨inserted, final⟩, hinsert, stored, hstored, _, hmatch, hresult⟩ := h
  obtain ⟨hinserted, rfl⟩ := Prod.mk.inj (Except.ok.inj hresult)
  have htrue : inserted = true := by simpa using hinserted
  subst htrue
  obtain ⟨_, hentry', hentryId, hentryEvent, -, -, hentryRule, -⟩ :=
    ledgerEntryOf_of_valid hvalid
  obtain rfl := Option.some.inj (hentry.symm.trans hentry')
  obtain ⟨htime, hin, hout, heventId, hrequest, hoperation, hdataset, hworkspace, haccount, -⟩ :=
    usageEventOf_eq_some hevent
  obtain ⟨hrowEvent, hrowEntry, -, -, -, -, hrowTime, hnormalize⟩ :=
    usageRowOf_eq_some hvalid hrow
  obtain ⟨-, ⟨-, hfalse, -⟩ | ⟨-, hfreshRow, -, -, -, -, -, hfinal⟩⟩ :=
    insertRunUsage_eq_some.mp hinsert
  · cases hfalse
  obtain ⟨_, _, _, hafter, -⟩ := hadds
  -- Each table has one row more, so that no insert found its row taken.
  have hevents := congrArg (List.length ∘ UsageStore.events) hafter
  have hledger := congrArg (List.length ∘ UsageStore.ledger) hafter
  rw [hfinal] at hevents hledger
  simp only [Function.comp_apply, List.length_append, List.length_singleton] at hevents hledger
  have hkeepsLedger : withEvent.ledger = s.ledger := by
    rcases insertUsageEvent_eq_some.mp hwithEvent with ⟨-, rfl⟩ | ⟨-, -, -, -, rfl⟩ <;> rfl
  obtain ⟨-, ⟨-, rfl⟩ | ⟨hfreshRule, hfreshEntry, -, -, -, hrule, rfl⟩⟩ :=
    insertLedgerEntry_eq_some.mp hwithEntry
  · rw [hkeepsLedger] at hledger
    omega
  obtain ⟨-, rfl⟩ | ⟨hfreshEvent, hsameRequest, hworkspaces, haccounts, rfl⟩ :=
    insertUsageEvent_eq_some.mp hwithEvent
  · dsimp only at hevents
    omega
  have hsameTime : row.usage.occurredAt = event.occurredAt :=
    Option.some.inj (hrowTime.symm.trans htime)
  have hiso := (storedUsage_inserted_iff hvalid hrow _).mp ⟨stored, hstored, hmatch⟩
  rw [hsameTime] at hiso
  exact
    { time := ⟨event.occurredAt, htime, hiso, (not_takenRequest_iff hevent).mpr hsameRequest⟩
      tokens := ⟨(bindInteger_isSome_iff hvalid _).mp hin,
        (bindInteger_isSome_iff hvalid _).mp hout⟩
      references := ⟨hworkspace ▸ hworkspaces, haccounts _ haccount, hentryRule ▸ hrule⟩
      freshEvent := fun other hother => heventId ▸ hfreshEvent other hother
      freshEntry := fun other hother =>
        ⟨hentryId ▸ hfreshEntry other hother, fun hsame hrule =>
          hfreshRule other hother ⟨hsame.trans hentryEvent.symm, hrule.trans hentryRule.symm⟩⟩
      freshRow := fun other hother => by
        rw [← hrowEvent, ← hrowEntry]
        exact hfreshRow other hother }

theorem usageRowOf_of_valid (hvalid : ValidUsage input) {occurredAt : Int}
    (htime : platform.parseTimestamp input.occurredAt = some occurredAt) :
    ∃ row, usageRowOf platform input = some row := by
  have hcounters : ∀ name, ∃ value, bindBigint (input.counters name) = some value := by
    intro name
    obtain ⟨n, hn, hname⟩ := hvalid.counters name
    rw [hname, bindBigint, bindInteger_natCast (hn.trans (by norm_num))]
    exact ⟨_, rfl⟩
  obtain ⟨counters, hcounters⟩ := Classical.skolem.mp hcounters
  have hcredit : bindNumeric input.creditDelta = some 0 := by
    rw [hvalid.credit]
    rfl
  have htranslate := translate_eq_some_iff.mpr ⟨_, counters, _, hcredit, hcounters, htime, rfl⟩
  rw [usageRowOf, htranslate]
  exact ⟨_, rfl⟩

theorem recordUnseen_of_recordable (hvalid : ValidUsage input)
    (hunseen : ∀ row ∈ s.runUsage, row.isOf input.workspaceId input.runId = false)
    (h : Recordable platform input s) :
    ∃ row after, usageRowOf platform input = some row ∧
      iso platform row.usage.occurredAt = some input.occurredAt ∧
      recordUnseen platform input s = .ok (false, after) ∧ AddsOnce input s after ∧
      after.runUsage = s.runUsage ++ [row] := by
  obtain ⟨occurredAt, htime, hiso, htaken⟩ := h.time
  obtain ⟨inputUnits, hin⟩ := (bindInteger_isSome_iff hvalid _).mpr h.tokens.1
  obtain ⟨outputUnits, hout⟩ := (bindInteger_isSome_iff hvalid _).mpr h.tokens.2
  obtain ⟨event, hevent⟩ : ∃ event, usageEventOf platform input = some event := by
    rw [usageEventOf, htime, hin, hout]
    exact ⟨_, rfl⟩
  obtain ⟨hparsed, -, -, heventId, -, -, -, hworkspace, haccount, hrun⟩ :=
    usageEventOf_eq_some hevent
  obtain rfl := Option.some.inj (htime.symm.trans hparsed)
  obtain ⟨row, hrow⟩ := usageRowOf_of_valid hvalid htime
  obtain ⟨hrowEvent, hrowEntry, hrowWorkspace, hrowRun, hrowAccount, hchecks, hrowTime, -⟩ :=
    usageRowOf_eq_some hvalid hrow
  obtain ⟨entry, hentry, hentryId, hentryEvent, hentryWorkspace, hentryAccount, hentryRule,
    hentryCredit⟩ := ledgerEntryOf_of_valid hvalid
  have hinsertEvent : s.insertUsageEvent event =
      some { s with events := s.events ++ [event] } := by
    refine insertUsageEvent_eq_some.mpr (Or.inr ⟨?_, (not_takenRequest_iff hevent).mp htaken,
      hworkspace ▸ h.references.1, ?_, rfl⟩)
    · rw [heventId]
      exact h.freshEvent
    · intro id hid
      rw [haccount] at hid
      obtain rfl := Option.some.inj hid
      exact h.references.2.1
  have hinsertEntry : { s with events := s.events ++ [event] }.insertLedgerEntry entry =
      some { s with events := s.events ++ [event], ledger := s.ledger ++ [entry] } := by
    refine insertLedgerEntry_eq_some.mpr ⟨hentryCredit.ge, Or.inr ⟨?_, ?_, ?_, ?_, ?_, ?_, rfl⟩⟩
    · rintro other hother ⟨hsame, hrule⟩
      exact (h.freshEntry other hother).2 (hsame.trans hentryEvent) (hrule.trans hentryRule)
    · rw [hentryId]
      exact fun other hother => (h.freshEntry other hother).1
    · exact ⟨event, List.mem_append_right _ List.mem_cons_self, heventId.trans hentryEvent.symm⟩
    · exact hentryWorkspace ▸ h.references.1
    · intro id hid
      rw [hentryAccount] at hid
      obtain rfl := Option.some.inj hid
      exact h.references.2.1
    · exact hentryRule ▸ h.references.2.2
  have hinsertRow : { s with
        events := s.events ++ [event]
        ledger := s.ledger ++ [entry] }.insertRunUsage row =
      some (true, { s with
        events := s.events ++ [event]
        ledger := s.ledger ++ [entry]
        runUsage := s.runUsage ++ [row] }) := by
    refine insertRunUsage_eq_some.mpr ⟨hchecks, Or.inr ⟨?_, ?_, ?_, ?_, ?_, ?_, rfl, rfl⟩⟩
    · rw [hrowWorkspace, hrowRun]
      exact hunseen
    · rw [hrowEvent, hrowEntry]
      exact h.freshRow
    · exact hrowWorkspace ▸ h.references.1
    · exact hrowAccount ▸ h.references.2.1
    · exact ⟨event, List.mem_append_right _ List.mem_cons_self, heventId.trans hrowEvent.symm⟩
    · exact ⟨entry, List.mem_append_right _ List.mem_cons_self, hentryId.trans hrowEntry.symm⟩
  have hsameTime : row.usage.occurredAt = event.occurredAt :=
    Option.some.inj (hrowTime.symm.trans htime)
  obtain ⟨stored, hstored, hmatch⟩ :=
    (storedUsage_inserted_iff hvalid hrow { s with
      events := s.events ++ [event]
      ledger := s.ledger ++ [entry]
      runUsage := s.runUsage ++ [row] }).mpr (hsameTime ▸ hiso)
  refine ⟨row, _, hrow, hsameTime ▸ hiso, ?_,
    ⟨event, entry, row, rfl, ?_, hrun, hentryEvent.trans heventId.symm,
    hrowEvent.trans heventId.symm, hrowEntry.trans hentryId.symm⟩, rfl⟩
  · simp only [recordUnseen, hevent, hentry, hrow, Checks.require_some, Checks.ok_bind,
      hinsertEvent, hinsertEntry, hinsertRow, hstored, Checks.ensure_of _ hmatch]
    rfl
  · simp [UsageRow.isOf, hrowWorkspace, hrowRun]

theorem readUsage_of_unseen
    (hunseen : ∀ row ∈ s.runUsage, row.isOf input.workspaceId input.runId = false) :
    s.readUsage platform input.workspaceId input.runId = .ok none := by
  have hfind : s.runUsage.find? (·.isOf input.workspaceId input.runId) = none := by
    simpa using hunseen
  rw [UsageStore.readUsage, hfind]

theorem readUsage_of_recorded (hvalid : ValidUsage input)
    (hunseen : ∀ row ∈ s.runUsage, row.isOf input.workspaceId input.runId = false) {row : UsageRow}
    (hrow : usageRowOf platform input = some row)
    (hiso : iso platform row.usage.occurredAt = some input.occurredAt)
    (hafter : after.runUsage = s.runUsage ++ [row]) :
    after.readUsage platform input.workspaceId input.runId = .ok (some input) := by
  obtain ⟨-, -, hworkspace, hrun, -, -, -, hnormalize⟩ := usageRowOf_eq_some hvalid hrow
  have hnone : s.runUsage.find? (·.isOf input.workspaceId input.runId) = none := by
    simpa using hunseen
  have hfind : after.runUsage.find? (·.isOf input.workspaceId input.runId) = some row := by
    rw [hafter, List.find?_append, hnone, Option.none_or]
    simp [UsageRow.isOf, hworkspace, hrun]
  rw [UsageStore.readUsage, hfind]
  simp only [hnormalize, hiso, Option.map_some]

theorem recordObservedUsage_of_stored (hvalid : ValidUsage input)
    (hread : s.readUsage platform input.workspaceId input.runId = .ok (some input))
    (hworkspace : other.workspaceId = input.workspaceId) (hrun : other.runId = input.runId) :
    (recordObservedUsage platform other s).store = s ∧
      (other ≠ input → ∃ error, (recordObservedUsage platform other s).result = .error error) ∧
      (other = input → validateUsage platform input = .ok () →
        (recordObservedUsage platform other s).result = .ok (true, input)) := by
  rw [recordObservedUsage]
  cases hother : validateUsage platform other with
  | error error =>
    refine ⟨rfl, fun _ => ⟨error, rfl⟩, ?_⟩
    rintro rfl hok
    rw [hok] at hother
    cases hother
  | ok _ =>
    rw [← hworkspace, ← hrun] at hread
    simp only [recordInRepository, hread]
    by_cases hsame : other = input
    · rw [if_pos ((usageMatches_valid hvalid).mpr hsame), hsame]
      exact ⟨rfl, fun hne => absurd rfl hne, fun _ _ => rfl⟩
    · rw [if_neg fun h => hsame ((usageMatches_valid hvalid).mp h)]
      exact ⟨rfl, fun _ => ⟨_, rfl⟩, fun h => absurd h hsame⟩

/-- Any number of calls with a usage that is stored are replays that write nothing. -/
theorem recordAll_of_stored (hok : validateUsage platform input = .ok ())
    (hread : s.readUsage platform input.workspaceId input.runId = .ok (some input)) (n : Nat) :
    recordAll platform s (List.replicate n input) =
      (List.replicate n (.ok (true, input)), s) := by
  obtain ⟨hstore, -, hresult⟩ :=
    recordObservedUsage_of_stored (validateUsage_eq_ok hok) hread rfl rfl
  induction n with
  | zero => rfl
  | succ n ih => rw [List.replicate_succ, recordAll, hstore, ih, hresult rfl hok,
      List.replicate_succ]

theorem recordObservedUsage_of_unseen (hok : validateUsage platform input = .ok ())
    (hunseen : ∀ row ∈ s.runUsage, row.isOf input.workspaceId input.runId = false) :
    recordObservedUsage platform input s =
      match recordUnseen platform input s with
      | .error error => { result := .error error, store := s }
      | .ok (replayed, after) => { result := .ok (replayed, input), store := after } := by
  have hread : s.readUsage platform input.workspaceId input.runId = .ok none :=
    readUsage_of_unseen hunseen
  cases hrecord : recordUnseen platform input s <;>
    simp only [recordObservedUsage, hok, recordInRepository, hread, hrecord]

/--
A usage that is valid, of a run without a row, is accepted once exactly when the
database gives its time back as the same text and it meets the rest of what its
recording needs.
-/
theorem acceptedOnce_iff {platform : UsagePlatform} {input : ResearchAgentObservedUsage}
    {s : UsageStore} (hok : validateUsage platform input = .ok ())
    (hunseen : ∀ row ∈ s.runUsage, row.isOf input.workspaceId input.runId = false) :
    AcceptedOnce platform input s ↔ Recordable platform input s := by
  have hvalid := validateUsage_eq_ok hok
  have hrecording := recordObservedUsage_of_unseen hok hunseen
  constructor
  · intro h
    have hresult := h.recorded
    have hadds := h.adds
    rw [hrecording] at hresult hadds
    cases hunseen' : recordUnseen platform input s with
    | error error =>
      rw [hunseen'] at hresult
      cases hresult
    | ok pair =>
      obtain ⟨replayed, after⟩ := pair
      rw [hunseen'] at hresult hadds
      obtain ⟨rfl, -⟩ := Prod.mk.inj (Except.ok.inj hresult)
      exact recordable_of_recordUnseen hvalid hunseen' hadds
  · intro h
    obtain ⟨row, after, hrow, hiso, hunseen', hadds, hafter⟩ :=
      recordUnseen_of_recordable hvalid hunseen h
    rw [hunseen'] at hrecording
    have hread := readUsage_of_recorded hvalid hunseen hrow hiso hafter
    refine ⟨by rw [hrecording], by rw [hrecording]; exact hadds, ?_, ?_⟩
    · rw [hrecording]
      exact recordAll_of_stored hok hread
    · intro other hworkspace hrun hne
      obtain ⟨hstore, hrefused, -⟩ :=
        recordObservedUsage_of_stored hvalid hread hworkspace hrun
      rw [hrecording]
      exact ⟨hrefused hne, hstore⟩

def sampleTime (text : String) : Option Int :=
  if text = "2026-07-11T06:00:00Z" ∨ text = "2026-07-11T06:00:00.000Z" then
    some 1783749600000
  else
    none

def samplePlatform : UsagePlatform where
  dateParse := sampleTime
  parseTimestamp text := (sampleTime text).map (1000 * ·)
  timestampDate instant := JsDate.ofMilliseconds (instant / 1000)

def sampleUsage (workspaceId occurredAt : String) (inputTokens : ℚ) :
    ResearchAgentObservedUsage where
  accountId := "account"
  creditDelta := .finite 0
  measurement := "observed"
  methodologyVersion := fastclawUsageMethodologyVersion
  occurredAt := occurredAt
  requestId := "request-" ++ workspaceId
  rightsPolicyVersion := "default_deny"
  runId := "run"
  sourceRecordId := "source"
  terminalState := "completed"
  workspaceId := workspaceId
  counters name := .finite (if name = .modelInputTokens then inputTokens else 0)

def emptyUsageStore : UsageStore where
  workspaces := ["workspace-a", "workspace-b"]
  accounts := ["account"]
  meterRules := [fastclawUsageMeterRuleId]
  events := []
  ledger := []
  runUsage := []

/-- A usage with its time in milliseconds is accepted once. -/
theorem acceptedOnce_sample :
    AcceptedOnce samplePlatform (sampleUsage "workspace-a" "2026-07-11T06:00:00.000Z" 10)
      emptyUsageStore := by
  refine (acceptedOnce_iff (by decide +kernel) (by decide +kernel)).mpr
    { time := ⟨1783749600000000, by decide +kernel, by decide +kernel, ?_⟩
      tokens := ⟨by decide +kernel, by decide +kernel⟩
      references := by decide +kernel
      freshEvent := by decide +kernel
      freshEntry := by decide +kernel
      freshRow := by decide +kernel }
  rintro ⟨event, hevent, -⟩
  cases hevent

def otherWorkspaceStore : UsageStore :=
  (recordObservedUsage samplePlatform
    (sampleUsage "workspace-b" "2026-07-11T06:00:00.000Z" 10) emptyUsageStore).store

def ValidUnseen (input : ResearchAgentObservedUsage) (s : UsageStore) : Prop :=
  validateUsage samplePlatform input = .ok () ∧
    ∀ row ∈ s.runUsage, row.isOf input.workspaceId input.runId = false

/--
Valid usages of runs without a row that are refused: one whose time has no
milliseconds, one with more tokens than an integer column takes, and one of a
run that has the identifier of a run of another workspace.
-/
theorem validUsage_not_acceptedOnce :
    (ValidUnseen (sampleUsage "workspace-a" "2026-07-11T06:00:00Z" 10) emptyUsageStore ∧
      ¬AcceptedOnce samplePlatform (sampleUsage "workspace-a" "2026-07-11T06:00:00Z" 10)
        emptyUsageStore) ∧
    (ValidUnseen (sampleUsage "workspace-a" "2026-07-11T06:00:00.000Z" 3000000000)
        emptyUsageStore ∧
      ¬AcceptedOnce samplePlatform
        (sampleUsage "workspace-a" "2026-07-11T06:00:00.000Z" 3000000000) emptyUsageStore) ∧
    (ValidUnseen (sampleUsage "workspace-a" "2026-07-11T06:00:00.000Z" 10)
        otherWorkspaceStore ∧
      ¬AcceptedOnce samplePlatform (sampleUsage "workspace-a" "2026-07-11T06:00:00.000Z" 10)
        otherWorkspaceStore) := by
  have hrefused : ∀ input s error,
      (recordObservedUsage samplePlatform input s).result = .error error →
        ¬AcceptedOnce samplePlatform input s := by
    intro input s error herror h
    rw [h.recorded] at herror
    cases herror
  refine ⟨⟨⟨by decide +kernel, by decide +kernel⟩, ?_⟩,
    ⟨⟨by decide +kernel, by decide +kernel⟩, ?_⟩,
    ⟨⟨by decide +kernel, by decide +kernel⟩, ?_⟩⟩
  · exact hrefused _ _ (.input .USAGE_REPLAY_MISMATCH
      "concurrent run usage does not match the original observed measurement")
      (by decide +kernel)
  · exact hrefused _ _ .database (by decide +kernel)
  · exact hrefused _ _ .database (by decide +kernel)

end Recorded

end Aiphabee.ProductControl
