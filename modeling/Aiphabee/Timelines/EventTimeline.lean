import Aiphabee.Timelines.CorporateActions

/-!
# The timeline of events

`createEventTimeline` answers with a page of the events of an instrument that match a
request, in the way of the corporate actions.

The main result, `timelines_readAll`, is about both timelines: whoever follows their
cursors reads every row once and in order.
-/

namespace Aiphabee.EventTimelines

open Checks FollowedPages Timelines

inductive EventTimelineEventType
  | announcement
  | corporateAction
  | financialDisclosure
  | marketEvent

inductive EventScope
  | company
  | market

inductive QualityState
  | hold
  | pass

inductive EventSource
  | announcement
  | corporateAction
  | financialFact
  | marketCalendar

structure RelatedData where
  dataPoint : String
  sourceRecordId : String
  value : String

structure EventTimelineEvent where
  date : String
  eventId : String
  eventScope : EventScope
  eventType : EventTimelineEventType
  qualityState : QualityState
  relatedData : List RelatedData
  source : EventSource
  sourceRecordId : String
  summary : String
  title : String

structure SyntheticEventTimelineRecord where
  currency : String
  events : List EventTimelineEvent
  exchange : String
  instrumentId : String
  market : String
  qualityState : QualityState
  symbol : String

structure EventTimeline where
  currency : String
  events : List EventTimelineEvent
  exchange : String
  fromDate : String
  instrumentId : String
  market : String
  nextCursor : Option String
  qualityState : QualityState
  rowCount : Nat
  symbol : String
  toDate : String
  totalRows : Nat

inductive EventTimelineInputErrorCode
  | dateRangeRequired
  | instrumentRequired
  | invalidCursor
  | invalidDateRange

structure EventTimelineInputError where
  code : EventTimelineInputErrorCode
  message : String

def parseEventTimelineCursor (cursor : Option String) : Except EventTimelineInputError Nat :=
  parseOffsetCursor
    { code := .invalidCursor, message := "cursor must be an opaque event timeline cursor" } cursor

variable (events : List EventTimelineEvent)
variable (fromDate : String)

def createEventTimeline (limit offset : Nat) (record : SyntheticEventTimelineRecord)
    (toDate : String) : EventTimeline :=
  let pageEvents := slice events offset limit
  let nextOffset := offset + pageEvents.length
  let nextCursor := if nextOffset < events.length then some (offsetCursor nextOffset) else none
  { currency := record.currency
    events := pageEvents
    exchange := record.exchange
    fromDate := fromDate
    instrumentId := record.instrumentId
    market := record.market
    nextCursor := nextCursor
    qualityState := record.qualityState
    rowCount := pageEvents.length
    symbol := record.symbol
    toDate := toDate
    totalRows := events.length }

def eventTimelinePage (limit : Nat) (record : SyntheticEventTimelineRecord) (toDate : String)
    (cursor : Option String) : Except EventTimelineInputError EventTimeline := do
  let offset ← parseEventTimelineCursor cursor
  return createEventTimeline events fromDate limit offset record toDate

theorem createEventTimeline_nextCursor (limit offset : Nat) (record : SyntheticEventTimelineRecord)
    (toDate : String) :
    (createEventTimeline events fromDate limit offset record toDate).nextCursor =
      (nextOffset events offset limit).map offsetCursor := by
  rw [createEventTimeline, nextOffset]
  dsimp only
  split <;> rfl

theorem eventTimelinePage_readsAll (limit : Nat) (record : SyntheticEventTimelineRecord)
    (toDate : String) (hlimit : 1 ≤ limit) :
    ReadsAll (eventTimelinePage events fromDate limit record toDate)
      EventTimeline.nextCursor EventTimeline.events events := by
  have hpage : ∀ cursor offset, parseEventTimelineCursor cursor = .ok offset →
      SlicesFrom (eventTimelinePage events fromDate limit record toDate)
        EventTimeline.nextCursor EventTimeline.events offsetCursor events limit cursor offset := by
    intro cursor offset hcursor
    refine ⟨createEventTimeline events fromDate limit offset record toDate, ?_, rfl,
      createEventTimeline_nextCursor events fromDate limit offset record toDate⟩
    rw [eventTimelinePage, hcursor]
    rfl
  exact readsAll_of_slices hlimit (hpage none 0 (parseOffsetCursor_none _))
    fun offset _ => hpage _ offset (parseOffsetCursor_offsetCursor _ offset)

/--
Whoever starts without a cursor and follows the next cursors of the corporate actions, or
of the events, comes to an end and has read every row once and in order; a page carries a
next cursor exactly when rows are left behind it.
-/
theorem timelines_readAll (actions : List CorporateActions.CorporateActionToolRow)
    (actionRecord : CorporateActions.SyntheticCorporateActionRecord)
    (events : List EventTimelineEvent) (eventRecord : SyntheticEventTimelineRecord)
    (fromDate toDate : String) (limit : Nat) (hlimit : 1 ≤ limit) :
    ReadsAll (CorporateActions.corporateActionsPage actions fromDate limit actionRecord toDate)
        CorporateActions.CorporateActionsTimeline.nextCursor
        CorporateActions.CorporateActionsTimeline.actions actions ∧
      ReadsAll (eventTimelinePage events fromDate limit eventRecord toDate)
        EventTimeline.nextCursor EventTimeline.events events :=
  ⟨CorporateActions.corporateActionsPage_readsAll actions fromDate limit actionRecord toDate hlimit,
    eventTimelinePage_readsAll events fromDate limit eventRecord toDate hlimit⟩

def eventOn (date : String) : EventTimelineEvent :=
  { date := date
    eventId := "evt_" ++ date
    eventScope := .company
    eventType := .announcement
    qualityState := .pass
    relatedData := []
    source := .announcement
    sourceRecordId := "announcement:" ++ date
    summary := ""
    title := "" }

theorem timelines_readAll_threeEvents :
    ReadsAll
        (CorporateActions.corporateActionsPage [] "2026-01-03" 2
          { actions := [], currency := "HKD", exchange := "HKEX", instrumentId := "eq_hk_00700",
            market := "HK", qualityState := .pass, symbol := "00700.HK" } "2026-01-07")
        CorporateActions.CorporateActionsTimeline.nextCursor
        CorporateActions.CorporateActionsTimeline.actions [] ∧
      ReadsAll
        (eventTimelinePage [eventOn "2026-01-03", eventOn "2026-01-05", eventOn "2026-01-07"]
          "2026-01-03" 2
          { events := [], currency := "HKD", exchange := "XHKG", instrumentId := "eq_hk_00700",
            market := "HK", qualityState := .pass, symbol := "00700.HK" } "2026-01-07")
        EventTimeline.nextCursor EventTimeline.events
        [eventOn "2026-01-03", eventOn "2026-01-05", eventOn "2026-01-07"] :=
  timelines_readAll _ _ _ _ _ _ 2 (by decide)

end Aiphabee.EventTimelines
