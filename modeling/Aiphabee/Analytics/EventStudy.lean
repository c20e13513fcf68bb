import Aiphabee.Calendar.DateTexts
import Aiphabee.Text.NumberText

/-!
# Event studies

A study compares the returns of a security with those of a benchmark on the days around
an event.  The days are found by a loop that compares and advances dates as texts.

Within the years from 0 to 9999 the loop stops with the days asked for.  Outside of them
the texts of the days of one month are the same: a window that reaches 9999-12-31, or a
day before 0000-01-01, never ends, and one whose last day is behind 9999-12-31 is empty.
`eventStudy_correct_iff` has this, and when a study has an observation for every day.
-/

namespace Aiphabee.EventStudy

open Calendar

variable {event : RealDate}
variable {preDays postDays : Int}

/-- How far a computation has come: `running` when more steps are needed. -/
inductive Outcome (α : Type)
  | running
  | thrown
  | returned (value : α)
deriving DecidableEq

namespace Outcome

def map {α β : Type} (f : α → β) : Outcome α → Outcome β
  | .running => .running
  | .thrown => .thrown
  | .returned value => .returned (f value)

theorem map_eq_returned {α β : Type} {f : α → β} {outcome : Outcome α} {result : β} :
    outcome.map f = .returned result ↔ ∃ value, outcome = .returned value ∧ f value = result := by
  cases outcome <;> simp [map]

end Outcome

def addIsoDays (date : String) (days : Int) : Option String := do
  let time ← midnightOf date
  let value ← JsDate.ofMilliseconds
    (dayNumber (yearOf time) (monthOf time) (dayOf time + days) * 86400000 + inDayOf time)
  return String.ofList ((isoText value).toList.take 10)

def createIsoDateRange («to» : String) : Nat → String → Outcome (List String)
  | 0, _ => .running
  | rounds + 1, date =>
    if JsString.sortsBefore date «to» then
      match addIsoDays date 1 with
      | none => .thrown
      | some next => (createIsoDateRange «to» rounds next).map (date :: ·)
    else
      .returned []

/-- `Math.round` of the days between two dates; none when it is not a number. -/
def diffIsoDays (date anchor : String) : Option Int := do
  let time ← midnightOf date
  let anchorTime ← midnightOf anchor
  return (2 * (time - anchorTime) + 86400000) / (2 * 86400000)

def normalizeEventStudyDate (value : Option String) (fallback : String) : String :=
  match value with
  | some value => if JsDate.hasForm "0000-00-00".toList value.toList then value else fallback
  | none => fallback

/-- A whole number brought within bounds, and the fallback for any other value. -/
def clampInteger (value : Option JsNumber) (fallback minimum maximum : Int) : Int :=
  match value with
  | some (.finite number) =>
    if number.den = 1 then min maximum (max minimum number.num) else fallback
  | _ => fallback

structure EventStudyWindow where
  «from» : String
  postDays : Int
  preDays : Int
  requestedDates : List String
  «to» : String

def createEventStudyWindow (rounds : Nat) (eventDate : String) (preDays postDays : Int) :
    Outcome EventStudyWindow :=
  match addIsoDays eventDate (-preDays), addIsoDays eventDate postDays with
  | some start, some «to» =>
    (createIsoDateRange «to» rounds start).map fun requestedDates =>
      { «from» := start
        postDays := postDays
        preDays := preDays
        requestedDates := requestedDates
        «to» := «to» }
  | _, _ => .thrown

inductive ObservationStatus
  | computed
  | missingBenchmarkReturn
  | missingSecurityAndBenchmarkReturn
  | missingSecurityReturn
deriving DecidableEq

structure EventStudyObservation where
  abnormalReturn : Option JsNumber
  benchmarkReturn : Option JsNumber
  date : String
  relativeDay : Option Int
  securityReturn : Option JsNumber
  sourceRecordIds : List String
  status : ObservationStatus

structure PriceHistoryRow where
  date : String
  returnField : Option JsNumber

def getFiniteHistoryReturn (row : PriceHistoryRow) : Option JsNumber :=
  row.returnField.filter JsNumber.isFinite

def createReturnMap (rows : List PriceHistoryRow) (date : String) : Option JsNumber :=
  (rows.filterMap fun row =>
    if row.date = date then getFiniteHistoryReturn row else none).getLast?

def getEventStudyObservationStatus (securityReturn benchmarkReturn : Option JsNumber) :
    ObservationStatus :=
  match securityReturn, benchmarkReturn with
  | some _, some _ => .computed
  | none, none => .missingSecurityAndBenchmarkReturn
  | none, some _ => .missingSecurityReturn
  | some _, none => .missingBenchmarkReturn

def roundMetric (value : JsNumber) : JsNumber := value.roundTo 1000000

def createEventStudyObservations (benchmarkRows : List PriceHistoryRow) (eventDate : String)
    (requestedDates : List String) (securityRows : List PriceHistoryRow)
    (sourceRecordIds : List String) : List EventStudyObservation :=
  requestedDates.map fun date =>
    let securityReturn := createReturnMap securityRows date
    let benchmarkReturn := createReturnMap benchmarkRows date
    { abnormalReturn := do
        let security ← securityReturn
        let benchmark ← benchmarkReturn
        return roundMetric (security.sub benchmark)
      benchmarkReturn := benchmarkReturn
      date := date
      relativeDay := diffIsoDays date eventDate
      securityReturn := securityReturn
      sourceRecordIds := sourceRecordIds
      status := getEventStudyObservationStatus securityReturn benchmarkReturn }

def createMissingEventStudyObservations (requestedDates : List String) (eventDate : String)
    (reason : ObservationStatus) (sourceRecordIds : List String) : List EventStudyObservation :=
  requestedDates.map fun date =>
    { abnormalReturn := none
      benchmarkReturn := none
      date := date
      relativeDay := diffIsoDays date eventDate
      securityReturn := none
      sourceRecordIds := sourceRecordIds
      status := reason }

structure Usage where
  credits : Nat
  rows : Nat

structure SecurityResolution where
  selectedInstrumentId : Option String
  usage : Usage

inductive PriceHistoryStatus
  | dataNotLicensed
  | dataQualityHold
  | found
  | notFound
  | outOfRange
  | tooManyRows

structure PriceHistoryRequest where
  adjustment : String
  «from» : String
  instrumentId : String
  limit : Nat
  «to» : String

structure PriceHistory where
  /-- The rows of the history, when there is one. -/
  rows : Option (List PriceHistoryRow)
  sourceRecordIds : List String
  status : PriceHistoryStatus
  usage : Usage

def createPriceHistorySourceRecordIds (history : PriceHistory) : List String :=
  JsString.sort history.sourceRecordIds

/-- The tools that a study calls. -/
structure Tools where
  resolveSecurity : Option String → String → SecurityResolution
  getPriceHistory : PriceHistoryRequest → PriceHistory

structure EventStudyInput where
  adjustment : Option String
  asOf : Option String
  benchmarkInstrumentId : Option String
  benchmarkSecurityQuery : Option String
  eventDate : Option String
  instrumentId : Option String
  securityQuery : Option String
  windowPostDays : Option JsNumber
  windowPreDays : Option JsNumber

inductive StudyStatus
  | blockedHistory
  | blockedResolution
  | computed
  | partially

structure MissingObservation where
  date : String
  reason : ObservationStatus
  relativeDay : Option Int

structure EventStudyResult where
  asOf : String
  benchmarkInstrumentId : Option String
  benchmarkResolution : Option SecurityResolution
  benchmarkStatus : PriceHistoryStatus
  computedObservationCount : Nat
  eventDate : String
  instrumentId : Option String
  missingObservationCount : Nat
  missingObservations : List MissingObservation
  observations : List EventStudyObservation
  priceHistoryStatus : PriceHistoryStatus
  requestedObservationCount : Nat
  resolution : Option SecurityResolution
  sourceRecordIds : List String
  status : StudyStatus
  usage : Usage
  window : EventStudyWindow

def createEventStudyResult (asOf : String) (benchmarkInstrumentId : Option String)
    (benchmarkResolution : Option SecurityResolution) (benchmarkStatus : PriceHistoryStatus)
    (eventDate : String) (instrumentId : Option String) (observations : List EventStudyObservation)
    (priceHistoryStatus : PriceHistoryStatus) (resolution : Option SecurityResolution)
    (sourceRecordIds : List String) (status : StudyStatus) (usage : Usage)
    (window : EventStudyWindow) : EventStudyResult :=
  let missingObservations :=
    (observations.filter fun observation => observation.status ≠ .computed).map fun observation =>
      (⟨observation.date, observation.status, observation.relativeDay⟩ : MissingObservation)
  let computedObservations :=
    observations.filter fun observation => observation.status = .computed
  { asOf := asOf
    benchmarkInstrumentId := benchmarkInstrumentId
    benchmarkResolution := benchmarkResolution
    benchmarkStatus := benchmarkStatus
    computedObservationCount := computedObservations.length
    eventDate := eventDate
    instrumentId := instrumentId
    missingObservationCount := missingObservations.length
    missingObservations := missingObservations
    observations := observations
    priceHistoryStatus := priceHistoryStatus
    requestedObservationCount := window.requestedDates.length
    resolution := resolution
    sourceRecordIds := sourceRecordIds
    status := status
    usage := usage
    window := window }

def maxPreDays : Int := 2

def maxPostDays : Int := 1

/-- The usage of the tools that were called. -/
def usageOf (usages : List Usage) : Usage where
  credits := (usages.map Usage.credits).sum
  rows := (usages.map Usage.rows).sum

def studyWindow (tools : Tools) (input : EventStudyInput) (eventDate : String)
    (window : EventStudyWindow) : EventStudyResult :=
  let asOf := input.asOf.getD "2026-01-07T16:15:00+08:00"
  let adjustment := input.adjustment.getD "total_return_adjusted"
  let resolution :=
    if input.instrumentId.isNone then input.securityQuery.map (tools.resolveSecurity input.asOf)
    else none
  let instrumentId := input.instrumentId <|> resolution.bind (·.selectedInstrumentId)
  let benchmarkResolution :=
    if input.benchmarkInstrumentId.isNone then
      input.benchmarkSecurityQuery.map (tools.resolveSecurity input.asOf)
    else none
  let benchmarkInstrumentId :=
    input.benchmarkInstrumentId <|> benchmarkResolution.bind (·.selectedInstrumentId) <|>
      if input.benchmarkSecurityQuery.isNone then instrumentId else none
  let resolutions := resolution.toList ++ benchmarkResolution.toList
  match instrumentId, benchmarkInstrumentId with
  | some securityId, some benchmarkId =>
    let request := fun id =>
      (⟨adjustment, window.from, id, 3, window.«to»⟩ : PriceHistoryRequest)
    let securityHistory := tools.getPriceHistory (request securityId)
    let benchmarkHistory := tools.getPriceHistory (request benchmarkId)
    let sourceRecordIds := JsString.sort
      (createPriceHistorySourceRecordIds securityHistory ++
        createPriceHistorySourceRecordIds benchmarkHistory).eraseDups
    let usage := usageOf
      ([securityHistory.usage, benchmarkHistory.usage] ++ resolutions.map (·.usage))
    match securityHistory.status, securityHistory.rows with
    | .found, some securityRows =>
      let observations := createEventStudyObservations (benchmarkHistory.rows.getD [])
        eventDate window.requestedDates securityRows sourceRecordIds
      let computedCount :=
        (observations.filter fun observation => observation.status = .computed).length
      createEventStudyResult asOf benchmarkInstrumentId benchmarkResolution
        benchmarkHistory.status eventDate instrumentId observations securityHistory.status
        resolution sourceRecordIds
        (if computedCount = observations.length then .computed else .partially)
        ⟨usage.credits + 20, usage.rows + observations.length⟩ window
    | _, _ =>
      createEventStudyResult asOf benchmarkInstrumentId benchmarkResolution
        benchmarkHistory.status eventDate instrumentId
        (createMissingEventStudyObservations window.requestedDates eventDate
          .missingSecurityReturn sourceRecordIds)
        securityHistory.status resolution sourceRecordIds .blockedHistory usage window
  | _, _ =>
    createEventStudyResult asOf benchmarkInstrumentId benchmarkResolution .notFound eventDate
      instrumentId [] .notFound resolution [] .blockedResolution
      (usageOf (resolutions.map (·.usage))) window

def runEventStudy (rounds : Nat) (tools : Tools) (input : EventStudyInput) :
    Outcome EventStudyResult :=
  let eventDate := normalizeEventStudyDate input.eventDate "2026-01-06"
  let preDays := clampInteger input.windowPreDays 1 0 maxPreDays
  let postDays := clampInteger input.windowPostDays 1 0 maxPostDays
  (createEventStudyWindow rounds eventDate preDays postDays).map
    (studyWindow tools input eventDate)

section Loop

variable {day : Int}

theorem addIsoDays_dayText (h : InShortYears day) {days : Int} (hlow : -1000 ≤ days)
    (hhigh : days ≤ 1000) : addIsoDays (dayText day) days = some (dayText (day + days)) := by
  have hnumber : dayNumber (yearOf (day * 86400000)) (monthOf (day * 86400000))
      (dayOf (day * 86400000) + days) = day + days := by
    have hday := dayNumber_of_instant (day * 86400000)
    rw [Int.mul_ediv_cancel _ (by decide)] at hday
    unfold dayNumber at hday ⊢
    omega
  have hclock : inDayOf (day * 86400000) = 0 := by
    unfold inDayOf
    omega
  have hrange : -8640000000000000 ≤ (day + days) * 86400000 + ((0 : Nat) : Int) ∧
      (day + days) * 86400000 + ((0 : Nat) : Int) ≤ 8640000000000000 := by
    unfold InShortYears firstDay lastDay at h
    omega
  rw [addIsoDays, midnightOf_dayText h]
  simp only [Option.bind_eq_bind, Option.bind_some, hnumber, hclock]
  rw [JsDate.ofMilliseconds, if_pos hrange]
  simp [dayText]

theorem diffIsoDays_dayText {anchor : Int} (h : InShortYears day) (hanchor : InShortYears anchor) :
    diffIsoDays (dayText day) (dayText anchor) = some (day - anchor) := by
  rw [diffIsoDays, midnightOf_dayText h, midnightOf_dayText hanchor]
  refine congrArg some ?_
  omega

def dayTexts : Int → Nat → List String
  | _, 0 => []
  | day, count + 1 => dayText day :: dayTexts (day + 1) count

/-- Before the end of the short years the loop runs through the days. -/
theorem createIsoDateRange_spec {last : Int} (hlast : InShortYears last) (hbefore : last < lastDay)
    (count : Nat) (hday : firstDay ≤ day) (hcount : day + count = last + 1) :
    createIsoDateRange (dayText last) (count + 1) (dayText day) =
      .returned (dayTexts day count) := by
  have hshort : InShortYears day := ⟨hday, by omega⟩
  have hle := dayText_le_iff hshort hlast
  induction count generalizing day with
  | zero =>
    have hafter : ¬day ≤ last := by omega
    rw [createIsoDateRange, if_neg fun h => hafter (hle.mp h)]
    rfl
  | succ count ih =>
    have hnext : InShortYears (day + 1) := ⟨by omega, by omega⟩
    have htail := ih (by omega) (by omega) hnext (dayText_le_iff hnext hlast)
    rw [createIsoDateRange, if_pos (hle.mpr (by omega)),
      addIsoDays_dayText hshort (by decide) (by decide)]
    dsimp only
    rw [htail]
    rfl

/-- From a text that is followed by itself the loop goes on for ever. -/
theorem createIsoDateRange_stalled {date «to» : String}
    (hbefore : JsString.sortsBefore date «to» = true) (hsame : addIsoDays date 1 = some date)
    (rounds : Nat) : createIsoDateRange «to» rounds date = .running := by
  induction rounds with
  | zero => rfl
  | succ rounds ih =>
    rw [createIsoDateRange, if_pos hbefore, hsame]
    dsimp only
    rw [ih]
    rfl

/-- No loop up to the last short day ends: the day behind it has the text of its month. -/
theorem createIsoDateRange_lastDay (h : InShortYears day) (rounds : Nat) :
    createIsoDateRange (dayText lastDay) rounds (dayText day) = .running := by
  have hlast : InShortYears lastDay := ⟨by decide, le_rfl⟩
  induction rounds generalizing day with
  | zero => rfl
  | succ rounds ih =>
    rw [createIsoDateRange, if_pos ((dayText_le_iff h hlast).mpr h.2),
      addIsoDays_dayText h (by decide) (by decide)]
    dsimp only
    have hrest : createIsoDateRange (dayText lastDay) rounds (dayText (day + 1)) = .running := by
      rcases h.2.lt_or_eq with hbefore | rfl
      · exact ih ⟨h.1.trans (by omega), hbefore⟩
      · exact createIsoDateRange_stalled (by decide +kernel) (by decide +kernel) rounds
    rw [hrest]
    rfl

/-- The two days before the short years have the text of one month, and no loop leaves it. -/
theorem createIsoDateRange_beforeFirstDay {last : Int} (hday : firstDay - 2 ≤ day)
    (hbefore : day < firstDay) (hlast : firstDay ≤ last) (hnear : last ≤ firstDay + 2)
    (rounds : Nat) : createIsoDateRange (dayText last) rounds (dayText day) = .running := by
  have htext : dayText day = "-000001-12" := by
    obtain rfl | rfl : day = firstDay - 2 ∨ day = firstDay - 1 := by omega
    · decide +kernel
    · decide +kernel
  have hsorts : JsString.sortsBefore "-000001-12" (dayText last) = true := by
    obtain rfl | rfl | rfl : last = firstDay ∨ last = firstDay + 1 ∨ last = firstDay + 2 := by
      omega
    · decide +kernel
    · decide +kernel
    · decide +kernel
  rw [htext]
  exact createIsoDateRange_stalled hsorts (by decide +kernel) rounds

end Loop

structure RealDate where
  year : Int
  month : Int
  day : Int
  isDate : IsDate year month day
  shortYear : IsShortYear year

namespace RealDate

variable (date : RealDate)

def text : String :=
  String.ofList (dateChars date.year date.month date.day)

def number : Int :=
  dayNumber date.year date.month date.day

theorem inShortYears : InShortYears date.number := by
  rw [← isShortYear_iff, number, civilOfDays_dayNumber date.isDate]
  exact date.shortYear

theorem text_eq : date.text = dayText date.number := by
  refine String.toList_injective ?_
  rw [dayText_toList date.inShortYears, text, String.toList_ofList, number,
    civilOfDays_dayNumber date.isDate]

end RealDate

/-- The window lies in the years from 0 to 9999, and does not end with the last day of them. -/
def InRange (event : RealDate) (preDays postDays : Int) : Prop :=
  firstDay ≤ event.number - preDays ∧ event.number + postDays < lastDay

structure WindowCorrect
    (event : RealDate)
    (preDays postDays : Int)
    (window : EventStudyWindow) : Prop where
  dates : window.requestedDates =
    dayTexts (event.number - preDays) (preDays + postDays + 1).toNat
  relativeDays : window.requestedDates.map (diffIsoDays · event.text) =
    (List.range (preDays + postDays + 1).toNat).map fun i : Nat => some (-preDays + i)

theorem map_diffIsoDays (event : RealDate) {day : Int} (count : Nat) (hday : firstDay ≤ day)
    (hlast : day + count ≤ lastDay + 1) :
    (dayTexts day count).map (diffIsoDays · event.text) =
      (List.range count).map fun i : Nat => some (day - event.number + i) := by
  induction count generalizing day with
  | zero => rfl
  | succ count ih =>
    have hshort : InShortYears day := ⟨hday, by omega⟩
    rw [dayTexts, List.map_cons, ih (by omega) (by omega), event.text_eq,
      diffIsoDays_dayText hshort event.inShortYears, List.range_succ_eq_map, List.map_cons,
      List.map_map]
    refine congrArg₂ List.cons (by simp) (List.map_congr_left fun i _ => ?_)
    rw [Function.comp_apply, Nat.cast_succ]
    exact congrArg some (by omega)

theorem createEventStudyWindow_eq (hpre : 0 ≤ preDays ∧ preDays ≤ maxPreDays)
    (hpost : 0 ≤ postDays ∧ postDays ≤ maxPostDays) (rounds : Nat) :
    createEventStudyWindow rounds event.text preDays postDays =
      (createIsoDateRange (dayText (event.number + postDays)) rounds
        (dayText (event.number - preDays))).map fun requestedDates =>
          { «from» := dayText (event.number - preDays)
            postDays := postDays
            preDays := preDays
            requestedDates := requestedDates
            «to» := dayText (event.number + postDays) } := by
  unfold maxPreDays at hpre
  unfold maxPostDays at hpost
  have hevent := event.inShortYears
  rw [createEventStudyWindow, event.text_eq, addIsoDays_dayText hevent (by omega) (by omega),
    addIsoDays_dayText hevent (by omega) (by omega), ← sub_eq_add_neg]

theorem createEventStudyWindow_spec (hpre : 0 ≤ preDays ∧ preDays ≤ maxPreDays)
    (hpost : 0 ≤ postDays ∧ postDays ≤ maxPostDays) (hrange : InRange event preDays postDays) :
    ∃ rounds window,
      createEventStudyWindow rounds event.text preDays postDays = .returned window ∧
        WindowCorrect event preDays postDays window := by
  obtain ⟨hfirst, hlast⟩ := hrange
  have hevent := event.inShortYears
  have hend : InShortYears (event.number + postDays) :=
    ⟨hevent.1.trans (le_add_of_nonneg_right hpost.1), hlast.le⟩
  have hcount : event.number - preDays + ((preDays + postDays + 1).toNat : Int) =
      event.number + postDays + 1 := by omega
  refine ⟨(preDays + postDays + 1).toNat + 1,
    { «from» := dayText (event.number - preDays)
      postDays := postDays
      preDays := preDays
      requestedDates := dayTexts (event.number - preDays) (preDays + postDays + 1).toNat
      «to» := dayText (event.number + postDays) }, ?_, rfl, ?_⟩
  · rw [createEventStudyWindow_eq hpre hpost, createIsoDateRange_spec hend hlast _ hfirst hcount]
    rfl
  · dsimp only
    rw [map_diffIsoDays event _ hfirst (by omega)]
    refine List.map_congr_left fun i _ => congrArg some ?_
    omega

theorem WindowCorrect.dates_ne_nil {window : EventStudyWindow}
    (h : WindowCorrect event preDays postDays window) (hpre : 0 ≤ preDays) (hpost : 0 ≤ postDays) :
    window.requestedDates ≠ [] := by
  rw [h.dates]
  obtain ⟨count, hcount⟩ : ∃ count, (preDays + postDays + 1).toNat = count + 1 :=
    ⟨(preDays + postDays).toNat, by omega⟩
  rw [hcount, dayTexts]
  exact List.cons_ne_nil _ _

theorem createEventStudyWindow_iff (hpre : 0 ≤ preDays ∧ preDays ≤ maxPreDays)
    (hpost : 0 ≤ postDays ∧ postDays ≤ maxPostDays) :
    (∃ rounds window,
      createEventStudyWindow rounds event.text preDays postDays = .returned window ∧
        WindowCorrect event preDays postDays window) ↔ InRange event preDays postDays := by
  refine ⟨?_, createEventStudyWindow_spec hpre hpost⟩
  rintro ⟨rounds, window, hwindow, hcorrect⟩
  rw [createEventStudyWindow_eq hpre hpost, Outcome.map_eq_returned] at hwindow
  obtain ⟨requestedDates, hdates, rfl⟩ := hwindow
  have hevent := event.inShortYears
  have hsome := hcorrect.dates_ne_nil hpre.1 hpost.1
  unfold maxPreDays at hpre
  unfold maxPostDays at hpost
  unfold InShortYears at hevent
  constructor
  · by_contra hbefore
    rw [createIsoDateRange_beforeFirstDay (by omega) (by omega) (by omega) (by omega)] at hdates
    cases hdates
  · by_contra hafter
    have hstart : InShortYears (event.number - preDays) := by
      refine ⟨?_, by omega⟩
      unfold firstDay
      unfold lastDay at hafter
      omega
    obtain hlast | ⟨hnumber, rfl⟩ : event.number + postDays = lastDay ∨
        event.number = lastDay ∧ postDays = 1 := by omega
    · rw [hlast, createIsoDateRange_lastDay hstart] at hdates
      cases hdates
    · -- The text of the last day begins with a sign, and is before that of the first.
      have hsorts : JsString.sortsBefore (dayText (lastDay - preDays)) (dayText (lastDay + 1)) =
          false := by
        obtain rfl | rfl | rfl : preDays = 0 ∨ preDays = 1 ∨ preDays = 2 := by omega
        · decide +kernel
        · decide +kernel
        · decide +kernel
      rw [hnumber] at hdates
      cases rounds with
      | zero => cases hdates
      | succ rounds =>
        rw [createIsoDateRange, hsorts, if_neg Bool.false_ne_true] at hdates
        exact hsome (Outcome.returned.inj hdates).symm

structure ObservationsCorrect
    (event : RealDate)
    (preDays postDays : Int)
    (result : EventStudyResult) : Prop where
  window : WindowCorrect event preDays postDays result.window
  dates : result.observations.map EventStudyObservation.date = result.window.requestedDates
  relativeDays : result.observations.map EventStudyObservation.relativeDay =
    (List.range (preDays + postDays + 1).toNat).map fun i : Nat => some (-preDays + i)
  counted : result.computedObservationCount + result.missingObservationCount =
    result.observations.length

/-- An instrument that is given, or that the tools find for a query. -/
def Known (tools : Tools) (asOf instrumentId query : Option String) : Prop :=
  instrumentId.isSome = true ∨
    ∃ text, query = some text ∧
      (tools.resolveSecurity asOf text).selectedInstrumentId.isSome = true

/-- The security and the benchmark are known; a benchmark that is not named is the security. -/
structure Resolvable (tools : Tools) (input : EventStudyInput) : Prop where
  security : Known tools input.asOf input.instrumentId input.securityQuery
  benchmark : Known tools input.asOf input.benchmarkInstrumentId input.benchmarkSecurityQuery ∨
    input.benchmarkInstrumentId = none ∧ input.benchmarkSecurityQuery = none

structure OnDates
    (requested : List String)
    (eventDate : String)
    (observations : List EventStudyObservation) : Prop where
  dates : observations.map EventStudyObservation.date = requested
  relativeDays : observations.map EventStudyObservation.relativeDay =
    requested.map (diffIsoDays · eventDate)

theorem createEventStudyObservations_onDates (benchmarkRows : List PriceHistoryRow)
    (eventDate : String) (requestedDates : List String) (securityRows : List PriceHistoryRow)
    (sourceRecordIds : List String) :
    OnDates requestedDates eventDate
      (createEventStudyObservations benchmarkRows eventDate requestedDates securityRows
        sourceRecordIds) := by
  constructor <;> simp [createEventStudyObservations, Function.comp_def]

theorem createMissingEventStudyObservations_onDates (requestedDates : List String)
    (eventDate : String) (reason : ObservationStatus) (sourceRecordIds : List String) :
    OnDates requestedDates eventDate
      (createMissingEventStudyObservations requestedDates eventDate reason sourceRecordIds) := by
  constructor <;> simp [createMissingEventStudyObservations, Function.comp_def]

theorem counted_observations (observations : List EventStudyObservation) :
    (observations.filter fun observation => observation.status = .computed).length +
        (observations.filter fun observation => observation.status ≠ .computed).length =
      observations.length := by
  have hsplit := List.length_eq_countP_add_countP
    (fun observation : EventStudyObservation => decide (observation.status = .computed))
    (l := observations)
  rw [hsplit, List.countP_eq_length_filter, List.countP_eq_length_filter]
  simp

section Study

variable {tools : Tools}
variable {input : EventStudyInput}

theorem known_iff {asOf instrumentId query : Option String} :
    (instrumentId <|> (if instrumentId.isNone then query.map (tools.resolveSecurity asOf)
      else none).bind (·.selectedInstrumentId)).isSome = true ↔
        Known tools asOf instrumentId query := by
  cases instrumentId <;> cases query <;> simp [Known]

theorem benchmark_known_iff {instrumentId : Option String} (h : instrumentId.isSome = true) :
    (input.benchmarkInstrumentId <|> (if input.benchmarkInstrumentId.isNone then
        input.benchmarkSecurityQuery.map (tools.resolveSecurity input.asOf)
      else none).bind (·.selectedInstrumentId) <|>
        if input.benchmarkSecurityQuery.isNone then instrumentId else none).isSome = true ↔
      Known tools input.asOf input.benchmarkInstrumentId input.benchmarkSecurityQuery ∨
        input.benchmarkInstrumentId = none ∧ input.benchmarkSecurityQuery = none := by
  cases input.benchmarkInstrumentId <;> cases input.benchmarkSecurityQuery <;> simp [Known, h]

variable (tools input) in
theorem studyWindow_window (eventDate : String) (window : EventStudyWindow) :
    (studyWindow tools input eventDate window).window = window := by
  unfold studyWindow
  dsimp only
  split
  · split <;> rfl
  · rfl

theorem studyWindow_counted (eventDate : String) (window : EventStudyWindow) :
    (studyWindow tools input eventDate window).computedObservationCount +
        (studyWindow tools input eventDate window).missingObservationCount =
      (studyWindow tools input eventDate window).observations.length := by
  have hcounted : ∀ observations : List EventStudyObservation,
      (observations.filter fun observation => observation.status = .computed).length +
          ((observations.filter fun observation => observation.status ≠ .computed).map
            fun observation => (⟨observation.date, observation.status,
              observation.relativeDay⟩ : MissingObservation)).length =
        observations.length := by
    intro observations
    rw [List.length_map]
    exact counted_observations observations
  unfold studyWindow
  dsimp only
  split
  · split
    · exact hcounted _
    · exact hcounted _
  · rfl

variable (tools input) in
/-- A study of known instruments has its dates observed, and any other has no observation. -/
theorem studyWindow_observations (eventDate : String) (window : EventStudyWindow) :
    Resolvable tools input ∧
        OnDates window.requestedDates eventDate
          (studyWindow tools input eventDate window).observations ∨
      ¬Resolvable tools input ∧
        (studyWindow tools input eventDate window).observations = [] := by
  unfold studyWindow
  dsimp only
  split
  · next security benchmark hsecurity hbenchmark =>
      have hknown := Option.isSome_iff_exists.mpr ⟨security, hsecurity⟩
      have hresolvable : Resolvable tools input :=
        ⟨known_iff.mp hknown,
          (benchmark_known_iff hknown).mp (Option.isSome_iff_exists.mpr ⟨benchmark, hbenchmark⟩)⟩
      refine .inl ⟨hresolvable, ?_⟩
      split
      · exact createEventStudyObservations_onDates ..
      · exact createMissingEventStudyObservations_onDates ..
  · next hblocked =>
      refine .inr ⟨fun hresolvable => ?_, rfl⟩
      have hknown := known_iff.mpr hresolvable.security
      obtain ⟨security, hsecurity⟩ := Option.isSome_iff_exists.mp hknown
      obtain ⟨benchmark, hbenchmark⟩ :=
        Option.isSome_iff_exists.mp ((benchmark_known_iff hknown).mpr hresolvable.benchmark)
      exact hblocked security benchmark hsecurity hbenchmark

theorem studyWindow_correct_iff (hpre : 0 ≤ preDays) (hpost : 0 ≤ postDays)
    {window : EventStudyWindow} (hwindow : WindowCorrect event preDays postDays window) :
    ObservationsCorrect event preDays postDays (studyWindow tools input event.text window) ↔
      Resolvable tools input := by
  have hsame := studyWindow_window tools input event.text window
  rcases studyWindow_observations tools input event.text window with
    ⟨hresolvable, hdates⟩ | ⟨hblocked, hnone⟩
  · refine iff_of_true ⟨by rwa [hsame], ?_, ?_, studyWindow_counted event.text window⟩ hresolvable
    · rw [hdates.dates, hsame]
    · rw [hdates.relativeDays, hwindow.relativeDays]
  · refine iff_of_false (fun hcorrect => ?_) hblocked
    have hempty := hcorrect.dates
    rw [hnone, hsame] at hempty
    exact hwindow.dates_ne_nil hpre hpost hempty.symm

end Study

/--
A window of days ends and has the days asked for exactly if it lies within the years from 0
to 9999 and before the last of their days.  A study has an observation for each of them, with
its day and counted as computed or missing, exactly if besides its instruments are known.
-/
theorem eventStudy_correct_iff {event : RealDate} {preDays postDays : Int}
    (hpre : 0 ≤ preDays ∧ preDays ≤ maxPreDays) (hpost : 0 ≤ postDays ∧ postDays ≤ maxPostDays) :
    ((∃ rounds window,
      createEventStudyWindow rounds event.text preDays postDays = .returned window ∧
        WindowCorrect event preDays postDays window) ↔ InRange event preDays postDays) ∧
      ∀ (tools : Tools) (input : EventStudyInput),
        normalizeEventStudyDate input.eventDate "2026-01-06" = event.text →
        clampInteger input.windowPreDays 1 0 maxPreDays = preDays →
        clampInteger input.windowPostDays 1 0 maxPostDays = postDays →
        ((∃ rounds result,
          runEventStudy rounds tools input = .returned result ∧
            ObservationsCorrect event preDays postDays result) ↔
          InRange event preDays postDays ∧ Resolvable tools input) := by
  refine ⟨createEventStudyWindow_iff hpre hpost, fun tools input hdate hpreDays hpostDays => ?_⟩
  rw [← createEventStudyWindow_iff hpre hpost]
  simp only [runEventStudy, hdate, hpreDays, hpostDays, Outcome.map_eq_returned]
  constructor
  · rintro ⟨rounds, _, ⟨window, hwindow, rfl⟩, hcorrect⟩
    have hkept : WindowCorrect event preDays postDays window := by
      rw [← studyWindow_window tools input event.text window]
      exact hcorrect.window
    exact ⟨⟨rounds, window, hwindow, hkept⟩,
      (studyWindow_correct_iff hpre.1 hpost.1 hkept).mp hcorrect⟩
  · rintro ⟨⟨rounds, window, hwindow, hkept⟩, hresolvable⟩
    exact ⟨rounds, _, ⟨window, hwindow, rfl⟩,
      (studyWindow_correct_iff hpre.1 hpost.1 hkept).mpr hresolvable⟩

/-- The sixth of January 2026. -/
def sampleEvent : RealDate where
  year := 2026
  month := 1
  day := 6
  isDate := ⟨by decide, by decide⟩
  shortYear := ⟨by decide, by decide⟩

/-- Every query is resolved, and every history has a return on the day of the event only. -/
def sampleTools : Tools where
  resolveSecurity _ text := ⟨some text, ⟨1, 1⟩⟩
  getPriceHistory request :=
    ⟨some [⟨"2026-01-05", none⟩, ⟨"2026-01-06", some (.finite (1 / 100))⟩],
      [request.instrumentId], .found, ⟨1, 2⟩⟩

def sampleInput : EventStudyInput where
  adjustment := none
  asOf := none
  benchmarkInstrumentId := none
  benchmarkSecurityQuery := some "HSI"
  eventDate := some "2026-01-06"
  instrumentId := none
  securityQuery := some "ABC"
  windowPostDays := none
  windowPreDays := none

theorem eventStudy_correct_iff_sample :
    (∃ rounds window,
      createEventStudyWindow rounds sampleEvent.text 1 1 = .returned window ∧
        WindowCorrect sampleEvent 1 1 window) ∧
      ∃ rounds result,
        runEventStudy rounds sampleTools sampleInput = .returned result ∧
          ObservationsCorrect sampleEvent 1 1 result := by
  have hrange : InRange sampleEvent 1 1 := ⟨by decide, by decide⟩
  obtain ⟨hwindow, hstudy⟩ :=
    @eventStudy_correct_iff sampleEvent 1 1
      ⟨by decide, by decide⟩ ⟨by decide, by decide⟩
  refine ⟨hwindow.mpr hrange, (hstudy sampleTools sampleInput (by decide +kernel) rfl rfl).mpr ?_⟩
  exact ⟨hrange, .inr ⟨"ABC", rfl, rfl⟩, .inl (.inr ⟨"HSI", rfl, rfl⟩)⟩

example :
    (runEventStudy 4 sampleTools sampleInput).map
        (fun result => (result.observations.map EventStudyObservation.status)) =
      .returned [.missingSecurityAndBenchmarkReturn, .computed,
        .missingSecurityAndBenchmarkReturn] := by
  decide +kernel

/-- The last day of the year 9999. -/
def lastEvent : RealDate where
  year := 9999
  month := 12
  day := 31
  isDate := ⟨by decide, by decide⟩
  shortYear := ⟨by decide, by decide⟩

/-- The loop over the window of this one day never ends. -/
theorem lastEvent_never_ends :
    normalizeEventStudyDate (some "9999-12-31") "2026-01-06" = lastEvent.text ∧
      ∀ rounds, createEventStudyWindow rounds lastEvent.text 0 0 = .running := by
  refine ⟨by decide +kernel, fun rounds => ?_⟩
  have hnumber : lastEvent.number = lastDay := by decide
  rw [createEventStudyWindow_eq ⟨le_rfl, by decide⟩ ⟨le_rfl, by decide⟩, hnumber, add_zero,
    sub_zero, createIsoDateRange_lastDay ⟨by decide, le_rfl⟩]
  rfl

end Aiphabee.EventStudy
