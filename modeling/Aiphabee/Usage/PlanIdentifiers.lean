import Aiphabee.Usage.IdWords
import Aiphabee.Usage.UsageLedgerPlans

/-!
# Which plans share their identifiers

The identifiers of a plan are sanitised texts, joined with single underscores.
Two reservations share their identifiers exactly when the words of the request
and of the task are the same, in order, and two usage events when those of the
request, the operation, the data set and the time are.
-/

namespace Aiphabee.UsageLedger

open PartnerReconciliation (sanitizeId)

def HighCostUsageReservationPlanInput.identity (input : HighCostUsageReservationPlanInput) :
    String × Option String :=
  (input.requestId, input.taskId)

def HighCostUsageReservationPlanInput.identityWords (input : HighCostUsageReservationPlanInput) :
    List (List Char) :=
  allWords [input.requestId, input.plannedTaskId]

/-- Different reservations have different identifiers and idempotency keys. -/
def ReservationsKeptApart (first second : HighCostUsageReservationPlanInput) : Prop :=
  first.identity ≠ second.identity →
    (createHighCostUsageReservationPlan first).reservation.reservationId ≠
        (createHighCostUsageReservationPlan second).reservation.reservationId ∧
      (createHighCostUsageReservationPlan first).doubleChargeGuard.idempotencyKey ≠
        (createHighCostUsageReservationPlan second).doubleChargeGuard.idempotencyKey

/-- A fixed start of a text does not tell texts apart. -/
theorem append_left_inj {start left right : String} :
    start ++ left = start ++ right ↔ left = right := by
  simp only [← String.toList_inj, String.toList_append, List.append_cancel_left_eq]

/-- Two sanitised texts and an underscore between them. -/
theorem joinIds_pair (first second : String) :
    joinIds [first, second] = sanitizeId first ++ "_" ++ sanitizeId second := by
  simp [joinIds, String.intercalate_cons_cons, String.append_assoc]

theorem reservationIds_eq_joinIds (input : HighCostUsageReservationPlanInput) :
    input.reservationId =
        "usage_reservation_" ++ joinIds [input.requestId, input.plannedTaskId] ∧
      input.idempotencyKey =
        "high_cost_usage_" ++ joinIds [input.requestId, input.plannedTaskId] := by
  rw [joinIds_pair, ← String.append_assoc, ← String.append_assoc, ← String.append_assoc,
    ← String.append_assoc]
  exact ⟨rfl, rfl⟩

theorem reservationIds_eq_iff {first second : HighCostUsageReservationPlanInput} :
    (first.reservationId = second.reservationId ↔
        first.identityWords = second.identityWords) ∧
      (first.idempotencyKey = second.idempotencyKey ↔
        first.identityWords = second.identityWords) := by
  have hwords := joinIds_eq_iff
    (List.cons_ne_nil first.requestId [first.plannedTaskId])
    (List.cons_ne_nil second.requestId [second.plannedTaskId])
  obtain ⟨hfirstId, hfirstKey⟩ := reservationIds_eq_joinIds first
  obtain ⟨hsecondId, hsecondKey⟩ := reservationIds_eq_joinIds second
  rw [hfirstId, hfirstKey, hsecondId, hsecondKey, append_left_inj, append_left_inj]
  exact ⟨hwords, hwords⟩

theorem reservationsKeptApart_iff (first second : HighCostUsageReservationPlanInput) :
    ReservationsKeptApart first second ↔
      first.identity = second.identity ∨ first.identityWords ≠ second.identityWords := by
  obtain ⟨hid, hkey⟩ := @reservationIds_eq_iff first second
  constructor
  · intro h
    by_cases hsame : first.identity = second.identity
    · exact Or.inl hsame
    · exact Or.inr fun hwords => (h hsame).1 (hid.mpr hwords)
  · rintro (hsame | hwords) hne
    · exact absurd hsame hne
    · exact ⟨fun h => hwords (hid.mp h), fun h => hwords (hkey.mp h)⟩

/-- What tells usage events apart: request, operation, data set and time. -/
def UsageLedgerEventPlanInput.identity (input : UsageLedgerEventPlanInput) :
    String × UsageLedgerOperation × String × String :=
  (input.requestId, input.plannedOperation, input.dataset, input.occurredAt)

def UsageLedgerEventPlanInput.identityWords (input : UsageLedgerEventPlanInput) :
    List (List Char) :=
  allWords [input.requestId, input.plannedOperation.text, input.dataset, input.occurredAt]

/-- Different usage events have different identifiers. -/
def EventsKeptApart (first second : UsageLedgerEventPlanInput) : Prop :=
  first.identity ≠ second.identity →
    (createUsageLedgerEventPlan first).event.usageEventId ≠
      (createUsageLedgerEventPlan second).event.usageEventId

theorem sanitizeId_operation (operation : UsageLedgerOperation) :
    sanitizeId operation.text = operation.text := by
  cases operation <;> decide

theorem createUsageEventId_eq_joinIds (requestId : String) (operation : UsageLedgerOperation)
    (dataset occurredAt : String) :
    createUsageEventId requestId operation dataset occurredAt =
      "usage_event_" ++ joinIds [requestId, operation.text, dataset, occurredAt] := by
  have hjoin : ∀ s a b c d : String,
      "_".intercalate [a, b, c, d] = a ++ "_" ++ b ++ "_" ++ c ++ "_" ++ d ∧
        s ++ a ++ "_" ++ b ++ "_" ++ c ++ "_" ++ d =
          s ++ (a ++ "_" ++ b ++ "_" ++ c ++ "_" ++ d) := by
    intro s a b c d
    generalize "_" = separator
    constructor
    · simp only [String.intercalate_cons_cons, String.intercalate_singleton, String.append_assoc]
    · simp only [String.append_assoc]
  obtain ⟨hintercalate, hassoc⟩ := hjoin "usage_event_" (sanitizeId requestId) operation.text
    (sanitizeId dataset) (sanitizeId occurredAt)
  have hparts : [requestId, operation.text, dataset, occurredAt].map sanitizeId =
      [sanitizeId requestId, operation.text, sanitizeId dataset, sanitizeId occurredAt] := by
    simp only [List.map_cons, List.map_nil, sanitizeId_operation]
  rw [joinIds, hparts, hintercalate]
  exact hassoc

theorem eventsKeptApart_iff (first second : UsageLedgerEventPlanInput) :
    EventsKeptApart first second ↔
      first.identity = second.identity ∨ first.identityWords ≠ second.identityWords := by
  have hid : (createUsageLedgerEventPlan first).event.usageEventId =
      (createUsageLedgerEventPlan second).event.usageEventId ↔
        first.identityWords = second.identityWords := by
    change createUsageEventId _ _ _ _ = createUsageEventId _ _ _ _ ↔ _
    rw [createUsageEventId_eq_joinIds, createUsageEventId_eq_joinIds, append_left_inj,
      joinIds_eq_iff (List.cons_ne_nil _ _) (List.cons_ne_nil _ _)]
    rfl
  constructor
  · intro h
    by_cases hsame : first.identity = second.identity
    · exact Or.inl hsame
    · exact Or.inr fun hwords => h hsame (hid.mpr hwords)
  · rintro (hsame | hwords) hne
    · exact absurd hsame hne
    · exact fun h => hwords (hid.mp h)

/--
Which reservations and which usage events the planners keep apart: all those of
which not all words are the same.
-/
theorem planIdentifiers_apart_iff
    (firstReservation secondReservation : HighCostUsageReservationPlanInput)
    (firstEvent secondEvent : UsageLedgerEventPlanInput) :
    (ReservationsKeptApart firstReservation secondReservation ↔
        firstReservation.identity = secondReservation.identity ∨
          firstReservation.identityWords ≠ secondReservation.identityWords) ∧
      (EventsKeptApart firstEvent secondEvent ↔
        firstEvent.identity = secondEvent.identity ∨
          firstEvent.identityWords ≠ secondEvent.identityWords) :=
  ⟨reservationsKeptApart_iff firstReservation secondReservation,
    eventsKeptApart_iff firstEvent secondEvent⟩

def reservationOf (requestId taskId : String) : HighCostUsageReservationPlanInput :=
  { estimatedCredits := some (.finite 8)
    requestId := requestId
    subscriptionId := some "sub_1"
    taskId := some taskId
    toolName := some "screen_securities"
    userConfirmed := some true
    workspaceId := some "ws_1" }

def eventOf (requestId dataset : String) : UsageLedgerEventPlanInput :=
  { cached := false
    channel := .web
    credits := .finite 1
    dataVersion := "v0"
    dataset := dataset
    meteredFields := .finite 1
    meteredRows := .finite 5
    methodologyVersion := "v0"
    occurredAt := "2026-06-20T09:00:00.000Z"
    qualityState := .pass
    requestId := requestId
    rightsPolicyVersion := "v0"
    sourceRecordId := "policy-evaluation"
    workspaceId := some "ws_1" }

/--
The task `2_scan` of the request `req_1` and the task `scan` of `req_1_2` share a
reservation, and so do the usage events of `req-1` and `req_1`.
-/
theorem planIdentifiers_collide :
    ¬ReservationsKeptApart (reservationOf "req_1" "2_scan") (reservationOf "req_1_2" "scan") ∧
      ¬EventsKeptApart (eventOf "req-1" "quotes") (eventOf "req_1" "quotes") := by
  constructor
  · intro h
    refine (h (by decide)).1 (reservationIds_eq_iff.1.mpr ?_)
    decide
  · intro h
    refine h (by decide) ?_
    decide

end Aiphabee.UsageLedger
