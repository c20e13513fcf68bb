import Aiphabee.ResearchRuns.EvidenceTexts

/-!
# The keys of watchlist alerts

A plan of an alert carries a rule id and a key by which notifications are taken
for duplicates.  The key is a hash of the kinds of the alert, its frequency, the
instrument, the metrics and the query.  Whose alert it is and its price condition
are not hashed, and the kinds are hashed in the order in which they were given.
-/

namespace Aiphabee.Watchlist

open JsText (ofString)
open StableJson
open ResearchRuns (LocaleOrder hashStableValue normalizeKnown normalizeText optionalText
  uniqueSorted)

/-- What the runtime gives: `localeCompare` and `toLowerCase`. -/
structure Platform where
  localeOrder : LocaleOrder
  lowerCase : JsText → JsText

def watchlistAlertKinds : List JsText :=
  ["price", "announcement", "metric"].map ofString

def watchlistAlertChannels : List JsText :=
  ["in_app", "email", "webhook"].map ofString

structure WatchlistAlertConditionInput where
  comparator : Option JsText
  metricId : Option JsText
  priceField : Option JsText
  threshold : Option JsNumber

structure CreateWatchlistAlertsPlanInput where
  alertKinds : Option (List JsText)
  channels : Option (List JsText)
  condition : Option WatchlistAlertConditionInput
  explicitConfirmation : Option Bool
  frequency : Option JsText
  idempotencyKey : Option JsText
  instrumentId : Option JsText
  metricIds : Option (List JsText)
  requestId : JsText
  securityQuery : Option JsText
  userId : Option JsText
  watchlistId : Option JsText
  workspaceId : Option JsText

def normalizeAlertKinds (kinds : Option (List JsText)) : List JsText :=
  normalizeKnown watchlistAlertKinds "price" kinds

def normalizeChannels (channels : Option (List JsText)) : List JsText :=
  normalizeKnown watchlistAlertChannels "in_app" channels

def normalizeMetricIds (platform : Platform) (metricIds : Option (List JsText))
    (metricId : Option JsText) : List JsText :=
  uniqueSorted platform.localeOrder
    (((metricIds.getD []).map some ++ [metricId]).filterMap normalizeText)

/-- `[a-z0-9]`. -/
def isIdUnit (unit : UInt16) : Bool :=
  (0x61 ≤ unit && unit ≤ 0x7A) || (0x30 ≤ unit && unit ≤ 0x39)

/-- The runs of other units become one underscore, and none at the ends. -/
def sanitizeForId (platform : Platform) (value : JsText) : JsText :=
  let words := (platform.lowerCase (JsText.trim value)).splitOnP fun unit => !isIdUnit unit
  ([0x5F].intercalate (words.filter fun word => !word.isEmpty)).take 64

structure DedupeFields where
  alertKinds : List JsText
  frequency : JsText
  instrumentId : Option JsText
  metricIds : List JsText
  securityQuery : Option JsText

def DedupeFields.toValue (fields : DedupeFields) : Value :=
  record
    [("alertKinds", .array (fields.alertKinds.map .string)),
      ("frequency", .string fields.frequency),
      ("instrumentId", optionalText fields.instrumentId),
      ("metricIds", .array (fields.metricIds.map .string)),
      ("securityQuery", optionalText fields.securityQuery)]

structure PriceCondition where
  comparator : JsText
  field : JsText
  threshold : Option JsNumber

inductive WatchlistAlertsPlanStatus
  | blockedMissingContext
  | confirmationRequired
  | plannedNoWrite

structure WatchlistAlertsPlan where
  channels : List JsText
  condition : PriceCondition
  dedupeKey : JsText
  fields : DedupeFields
  idempotencyKey : JsText
  itemId : JsText
  requiredContextPresent : Bool
  ruleId : JsText
  status : WatchlistAlertsPlanStatus
  userId : JsText
  watchlistId : JsText
  workspaceId : JsText

def resolveStatus (requiredContextPresent explicitConfirmationProvided : Bool) :
    WatchlistAlertsPlanStatus :=
  if !requiredContextPresent then
    .blockedMissingContext
  else if explicitConfirmationProvided then
    .plannedNoWrite
  else
    .confirmationRequired

section Plans

variable (platform : Platform) (input : CreateWatchlistAlertsPlanInput)

def priceCondition : PriceCondition :=
  { comparator := (input.condition.bind (·.comparator)).getD (ofString "changed_by_percent")
    field := (input.condition.bind (·.priceField)).getD (ofString "close")
    threshold := input.condition.bind (·.threshold) }

def dedupeFields : DedupeFields :=
  { alertKinds := normalizeAlertKinds input.alertKinds
    frequency := input.frequency.getD (ofString "daily")
    instrumentId := normalizeText input.instrumentId
    metricIds := normalizeMetricIds platform input.metricIds (input.condition.bind (·.metricId))
    securityQuery := normalizeText input.securityQuery }

def createWatchlistAlertsPlan : WatchlistAlertsPlan :=
  let fields := dedupeFields platform input
  let alertKinds : Value := .array (fields.alertKinds.map .string)
  let workspaceId :=
    (normalizeText input.workspaceId).getD (ofString "workspace_unresolved")
  let watchlistId := (normalizeText input.watchlistId).getD
    (ofString "watchlist_" ++ sanitizeForId platform workspaceId)
  let idempotencyKey := (normalizeText input.idempotencyKey).getD
    (ofString "alert_idem_" ++ sanitizeForId platform input.requestId ++
      ofString "_" ++ hashStableValue alertKinds)
  let requiredContextPresent :=
    (normalizeText input.workspaceId).isSome && (normalizeText input.userId).isSome &&
      (fields.instrumentId.isSome || fields.securityQuery.isSome) &&
      (normalizeText input.idempotencyKey).isSome
  { channels := normalizeChannels input.channels
    condition := priceCondition input
    dedupeKey := ofString "dedupe_" ++ hashStableValue fields.toValue
    fields := fields
    idempotencyKey := idempotencyKey
    itemId := ofString "watchlist_item_" ++ hashStableValue (record
      [("instrumentId", optionalText fields.instrumentId),
        ("securityQuery", optionalText fields.securityQuery),
        ("watchlistId", .string watchlistId)])
    requiredContextPresent := requiredContextPresent
    ruleId := ofString "alert_rule_" ++ hashStableValue (record
      [("alertKinds", alertKinds),
        ("idempotencyKey", .string idempotencyKey),
        ("instrumentId", optionalText fields.instrumentId),
        ("securityQuery", optionalText fields.securityQuery),
        ("watchlistId", .string watchlistId)])
    status := resolveStatus requiredContextPresent (input.explicitConfirmation = some true)
    userId := (normalizeText input.userId).getD (ofString "user_unresolved")
    watchlistId := watchlistId
    workspaceId := workspaceId }

end Plans

section Identity

variable (platform : Platform) (first second : CreateWatchlistAlertsPlanInput)

structure SameOwner : Prop where
  workspaceId : normalizeText first.workspaceId = normalizeText second.workspaceId
  userId : normalizeText first.userId = normalizeText second.userId
  watchlistId : (createWatchlistAlertsPlan platform first).watchlistId =
    (createWatchlistAlertsPlan platform second).watchlistId
  condition : priceCondition first = priceCondition second

structure SameAlert : Prop extends SameOwner platform first second where
  instrumentId : normalizeText first.instrumentId = normalizeText second.instrumentId
  securityQuery : normalizeText first.securityQuery = normalizeText second.securityQuery
  alertKinds : ∀ kind, kind ∈ (dedupeFields platform first).alertKinds ↔
    kind ∈ (dedupeFields platform second).alertKinds
  metricIds : ∀ id, id ∈ (dedupeFields platform first).metricIds ↔
    id ∈ (dedupeFields platform second).metricIds
  frequency : (dedupeFields platform first).frequency = (dedupeFields platform second).frequency

/-- The lists have the same members, in whatever order and however often. -/
def Rearranged : Option (List JsText) → Option (List JsText) → Prop :=
  Option.Rel fun values others => ∀ value, value ∈ values ↔ value ∈ others

structure SameButForOrder : Prop where
  others : second =
    { first with
      alertKinds := second.alertKinds
      metricIds := second.metricIds
      channels := second.channels }
  alertKinds : Rearranged first.alertKinds second.alertKinds
  metricIds : Rearranged first.metricIds second.metricIds
  channels : Rearranged first.channels second.channels

structure KeysIdentify : Prop where
  apart : ¬SameAlert platform first second →
    (createWatchlistAlertsPlan platform first).dedupeKey ≠
      (createWatchlistAlertsPlan platform second).dedupeKey
  dedupeKey : SameButForOrder first second →
    (createWatchlistAlertsPlan platform first).dedupeKey =
      (createWatchlistAlertsPlan platform second).dedupeKey
  ruleId : SameButForOrder first second →
    (createWatchlistAlertsPlan platform first).idempotencyKey =
        (createWatchlistAlertsPlan platform second).idempotencyKey →
      (createWatchlistAlertsPlan platform first).ruleId =
        (createWatchlistAlertsPlan platform second).ruleId

/-- The hash tells the texts of two keys apart. -/
def HashesApart : Prop :=
  hashStableValue (dedupeFields platform first).toValue =
      hashStableValue (dedupeFields platform second).toValue →
    stableStringify (dedupeFields platform first).toValue =
      stableStringify (dedupeFields platform second).toValue

instance : Decidable (HashesApart platform first second) :=
  inferInstanceAs (Decidable (_ → _))

end Identity

section Keys

theorem DedupeFields.toValue_inj {first second : DedupeFields} :
    first.toValue = second.toValue ↔ first = second := by
  obtain ⟨a, b, c, d, e⟩ := first
  obtain ⟨a', b', c', d', e'⟩ := second
  simp only [toValue, record, Value.object.injEq, List.map_cons, List.map_nil, List.cons.injEq,
    Prod.mk.injEq, true_and, and_true, Value.array.injEq, Value.string.injEq,
    ResearchRuns.sourceRecordIds_inj, ResearchRuns.optionalText_inj, mk.injEq]

theorem regular_optionalText (value : Option JsText) : Regular (optionalText value) := by
  cases value <;> trivial

theorem DedupeFields.regular_toValue (fields : DedupeFields) : Regular fields.toValue := by
  have htexts : ∀ texts : List JsText, Regular (.array (texts.map .string)) :=
    fun texts => IsJson.regular _ (ResearchRuns.isJson_sourceRecordIds texts)
  exact ⟨htexts _, trivial, regular_optionalText _, htexts _, regular_optionalText _, trivial⟩

theorem DedupeFields.ordered_toValue (fields : DedupeFields) : Ordered fields.toValue := by
  have htexts : ∀ texts : List JsText, Ordered (.array (texts.map .string)) := by
    intro texts
    rw [Ordered, orderedElements_iff]
    intro element helement
    obtain ⟨text, -, rfl⟩ := List.mem_map.mp helement
    trivial
  refine ordered_record ?_ ?_
  · show (["alertKinds", "frequency", "instrumentId", "metricIds", "securityQuery"].map
      ofString).Pairwise (· ≤ ·)
    decide +kernel
  · simp only [List.forall_mem_cons, htexts, ResearchRuns.ordered_optionalText, List.not_mem_nil,
      false_implies, implies_true, and_self, and_true, true_and]
    trivial

variable {platform : Platform} {first second : CreateWatchlistAlertsPlanInput}

theorem dedupeKey_eq_iff (hhash : HashesApart platform first second) :
    (createWatchlistAlertsPlan platform first).dedupeKey =
        (createWatchlistAlertsPlan platform second).dedupeKey ↔
      dedupeFields platform first = dedupeFields platform second := by
  have hkey : (createWatchlistAlertsPlan platform first).dedupeKey =
        (createWatchlistAlertsPlan platform second).dedupeKey ↔
      hashStableValue (dedupeFields platform first).toValue =
        hashStableValue (dedupeFields platform second).toValue :=
    List.append_right_inj (ofString "dedupe_")
  rw [hkey]
  constructor
  · intro h
    have htext := (stableStringify_eq_iff (DedupeFields.regular_toValue _)
      (DedupeFields.regular_toValue _)).mp (hhash h)
    rw [canonical_of_ordered _ (DedupeFields.ordered_toValue _),
      canonical_of_ordered _ (DedupeFields.ordered_toValue _)] at htext
    exact DedupeFields.toValue_inj.mp htext
  · intro h
    rw [h]

theorem SameOwner.sameAlert (h : SameOwner platform first second)
    (hfields : dedupeFields platform first = dedupeFields platform second) :
    SameAlert platform first second :=
  ⟨h, congrArg DedupeFields.instrumentId hfields, congrArg DedupeFields.securityQuery hfields,
    fun _ => by rw [hfields], fun _ => by rw [hfields], congrArg DedupeFields.frequency hfields⟩

/-- Inputs that differ in the order of their lists differ in these lists alone. -/
theorem SameButForOrder.fields_eq (h : SameButForOrder first second)
    (hkinds : normalizeAlertKinds first.alertKinds = normalizeAlertKinds second.alertKinds)
    (hmetrics : (dedupeFields platform first).metricIds =
      (dedupeFields platform second).metricIds) :
    dedupeFields platform first = dedupeFields platform second := by
  have hothers := h.others
  rw [hothers] at hkinds hmetrics ⊢
  rw [DedupeFields.mk.injEq]
  exact ⟨hkinds, rfl, rfl, hmetrics, rfl⟩

theorem SameButForOrder.ruleId_eq (h : SameButForOrder first second)
    (hkinds : normalizeAlertKinds first.alertKinds = normalizeAlertKinds second.alertKinds) :
    (createWatchlistAlertsPlan platform first).ruleId =
      (createWatchlistAlertsPlan platform second).ruleId := by
  have hothers := h.others
  rw [hothers] at hkinds ⊢
  simp only [createWatchlistAlertsPlan, dedupeFields, hkinds]

/--
The keys identify the alerts exactly where inputs with the same hashed fields have
one owner, one watchlist and one price condition, and where a rearrangement of
the lists leaves the kinds and the metrics as they are normalized.
-/
theorem keysIdentify_iff (hhash : HashesApart platform first second) :
    KeysIdentify platform first second ↔
      (dedupeFields platform first = dedupeFields platform second →
          SameOwner platform first second) ∧
        (SameButForOrder first second →
          normalizeAlertKinds first.alertKinds = normalizeAlertKinds second.alertKinds ∧
            (dedupeFields platform first).metricIds =
              (dedupeFields platform second).metricIds) := by
  have hkey := dedupeKey_eq_iff hhash
  constructor
  · rintro ⟨hapart, hdedupe, -⟩
    constructor
    · intro hfields
      by_contra howner
      exact hapart (fun hsame => howner hsame.toSameOwner) (hkey.mpr hfields)
    · intro horder
      have hfields := hkey.mp (hdedupe horder)
      exact ⟨congrArg DedupeFields.alertKinds hfields, congrArg DedupeFields.metricIds hfields⟩
  · rintro ⟨howner, horder⟩
    refine ⟨fun hother hequal => ?_, fun hsame => ?_, fun hsame _ => ?_⟩
    · have hfields := hkey.mp hequal
      exact hother ((howner hfields).sameAlert hfields)
    · obtain ⟨hkinds, hmetrics⟩ := horder hsame
      exact hkey.mpr (hsame.fields_eq hkinds hmetrics)
    · exact hsame.ruleId_eq (horder hsame).1

end Keys

def priceAlert (user frequency : String) : CreateWatchlistAlertsPlanInput where
  alertKinds := none
  channels := none
  condition := none
  explicitConfirmation := some true
  frequency := some (ofString frequency)
  idempotencyKey := some (ofString "idem-1")
  instrumentId := some (ofString "eq_hk_00700")
  metricIds := none
  requestId := ofString "req-1"
  securityQuery := none
  userId := some (ofString user)
  watchlistId := none
  workspaceId := some (ofString "ws-1")

def codeUnits : Platform where
  localeOrder := fun left right => decide (left ≤ right)
  lowerCase := id

theorem keysIdentify_frequencies :
    KeysIdentify codeUnits (priceAlert "u1" "daily") (priceAlert "u1" "weekly") := by
  refine (keysIdentify_iff (by decide +kernel)).mpr ⟨fun hfields => ?_, fun horder => ?_⟩
  · exact absurd (congrArg DedupeFields.frequency hfields) (by decide +kernel)
  · exact absurd (congrArg (·.frequency) horder.others) (by decide +kernel)

/-- The alerts of two users have one key. -/
theorem keys_of_two_users :
    ¬∀ (platform : Platform) (first second : CreateWatchlistAlertsPlanInput),
      (createWatchlistAlertsPlan platform first).requiredContextPresent = true →
      (createWatchlistAlertsPlan platform second).requiredContextPresent = true →
      HashesApart platform first second → KeysIdentify platform first second := by
  intro h
  have hkeys := h codeUnits (priceAlert "u1" "daily") (priceAlert "u2" "daily")
    (by decide +kernel) (by decide +kernel) (fun _ => rfl)
  refine hkeys.apart (fun hsame => ?_) rfl
  exact absurd hsame.userId (by decide +kernel)

end Aiphabee.Watchlist
