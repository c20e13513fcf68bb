import Aiphabee.Securities.LiveResolution
import Aiphabee.Text.Collation

/-!
# Live financial facts

The released record of an instrument carries a list of facts.  Each fact is checked
field by field, and nothing is said about two facts of one list.
-/

namespace Aiphabee.LiveFacts

open JsText (ofString)
open JsonMembers (member elements?)
open SandboxAuth (JsonValue)
open SecurityTools (stringOf carriesCode securityIdStart)
open Checks

/-- A text of the form `YYYY-MM-DD`. -/
def IsDateText (text : JsText) : Prop :=
  JsDate.hasForm "0000-00-00".toList (text.map fun u => Char.ofNat u.toNat) = true

instance (text : JsText) : Decidable (IsDateText text) :=
  inferInstanceAs (Decidable (_ = true))

/-- Which texts `Date.parse` reads, and how `localeCompare` compares two texts. -/
structure Platform extends Collation JsText where
  isParsed : JsText → Bool
  localeCompare_date : ∀ a b, IsDateText a → IsDateText b → localeCompare a b = 0 → a = b

inductive FinancialFactMetric
  | assets
  | equity
  | freeCashFlow
  | liabilities
  | netIncome
  | operatingCashFlow
  | revenue
deriving DecidableEq

inductive StatementType
  | balanceSheet
  | cashFlow
  | incomeStatement
deriving DecidableEq

inductive PeriodType
  | FY
  | H1

inductive QualityState
  | HOLD
  | PASS
deriving DecidableEq

def FinancialFactMetric.text : FinancialFactMetric → JsText
  | .assets => ofString "assets"
  | .equity => ofString "equity"
  | .freeCashFlow => ofString "free_cash_flow"
  | .liabilities => ofString "liabilities"
  | .netIncome => ofString "net_income"
  | .operatingCashFlow => ofString "operating_cash_flow"
  | .revenue => ofString "revenue"

def StatementType.text : StatementType → JsText
  | .balanceSheet => ofString "balance_sheet"
  | .cashFlow => ofString "cash_flow"
  | .incomeStatement => ofString "income_statement"

def PeriodType.text : PeriodType → JsText
  | .FY => ofString "FY"
  | .H1 => ofString "H1"

def QualityState.text : QualityState → JsText
  | .HOLD => ofString "HOLD"
  | .PASS => ofString "PASS"

/-- `LIVE_METRIC_STATEMENT_TYPE`. -/
def liveMetricStatementType : FinancialFactMetric → StatementType
  | .assets | .equity | .liabilities => .balanceSheet
  | .freeCashFlow | .operatingCashFlow => .cashFlow
  | .netIncome | .revenue => .incomeStatement

def livePromotedMetrics : List FinancialFactMetric :=
  [.revenue, .netIncome, .assets, .liabilities, .equity, .operatingCashFlow]

structure LiveFinancialFactRow where
  currency : JsText
  instrumentId : JsText
  metricId : FinancialFactMetric
  periodEnd : { text : JsText // IsDateText text }
  periodType : PeriodType
  publishedAt : JsText
  qualityState : QualityState
  scale : ℚ
  sourceRecordId : JsText
  statementId : JsText
  statementType : StatementType
  unit : JsText
  value : ℚ

structure LiveFinancialFactsRow where
  dataVersion : JsText
  entityId : JsText
  payload : Option JsonValue
  sourceRecordId : JsText

structure GetLiveFinancialFactsInput where
  asOf : JsText
  dataVersion : JsText
  instrumentId : JsText

inductive FinancialFactsCoverage
  | available
  | unavailable (reason : JsText)

structure GetLiveFinancialFactsResult where
  asOf : JsText
  coverage : Option FinancialFactsCoverage := none
  dataVersion : JsText
  facts : Option (List LiveFinancialFactRow) := none
  instrumentId : JsText
  provenance : List JsText

inductive ReadbackError
  | instrumentIdRequired
  | multipleRowsForInstrument
  | malformedLiveRow (message : String)

def malformedLiveFactsRow (message : String) : ReadbackError :=
  .malformedLiveRow message

def requireNonEmptyLiveFactString (value : Option JsonValue) (field : String) :
    Except ReadbackError JsText :=
  (SecurityTools.requireNonEmptyLiveString value field).mapError malformedLiveFactsRow

def requireLiveFactsPayloadString (payload : JsonValue) (field : String) :
    Except ReadbackError JsText :=
  requireNonEmptyLiveFactString (member payload field) ("payload " ++ field)

def requireLiveFactsObject (value : Option JsonValue) (field : String) :
    Except ReadbackError JsonValue :=
  (SecurityTools.requireLiveObject value field).mapError malformedLiveFactsRow

def numberOf : Option JsonValue → Option ℚ
  | some (.number (.finite value)) => some value
  | _ => none

def dateTextOf (value : Option JsonValue) : Option { text : JsText // IsDateText text } :=
  (stringOf value).bind fun text => if h : IsDateText text then some ⟨text, h⟩ else none

def readText {α : Type} (text : α → JsText) (values : List α) (value : Option JsonValue) :
    Option α :=
  values.find? fun a => stringOf value = some (text a)

variable (platform : Platform)

def mapLiveFinancialFactRow (instrumentId : JsText) (rawFact : JsonValue) :
    Except ReadbackError LiveFinancialFactRow := do
  let fact ← requireLiveFactsObject (some rawFact) "fact"
  let metricId ← require
    (readText FinancialFactMetric.text livePromotedMetrics (member fact "metricId"))
    (malformedLiveFactsRow "fact metricId is malformed or not a promoted live metric")
  let statementType ← require (readText StatementType.text
      [.incomeStatement, .balanceSheet, .cashFlow] (member fact "statementType"))
    (malformedLiveFactsRow "fact statementType is malformed")
  ensure (liveMetricStatementType metricId = statementType)
    (malformedLiveFactsRow "fact statementType does not match metricId")
  let periodEnd ← require (dateTextOf (member fact "periodEnd"))
    (malformedLiveFactsRow "fact periodEnd is malformed")
  let periodType ← require (readText PeriodType.text [.FY, .H1] (member fact "periodType"))
    (malformedLiveFactsRow "fact periodType is malformed")
  let value ← require (numberOf (member fact "value"))
    (malformedLiveFactsRow "fact value is malformed")
  let currency ← requireLiveFactsPayloadString fact "currency"
  let unit ← requireLiveFactsPayloadString fact "unit"
  let scale ← require ((numberOf (member fact "scale")).filter (0 < ·))
    (malformedLiveFactsRow "fact scale is malformed")
  let publishedAt ← require ((stringOf (member fact "publishedAt")).filter platform.isParsed)
    (malformedLiveFactsRow "fact publishedAt is malformed")
  let qualityState ← require
    (readText QualityState.text [.PASS, .HOLD] (member fact "qualityState"))
    (malformedLiveFactsRow "fact qualityState is malformed")
  let statementId ← requireLiveFactsPayloadString fact "statementId"
  let sourceRecordId ← requireLiveFactsPayloadString fact "sourceRecordId"
  ensure (ofString "netquity:finreport." <+: sourceRecordId)
    (malformedLiveFactsRow "fact sourceRecordId is not a Netquity financial-facts field pointer")
  return {
    currency, instrumentId, metricId, periodEnd, periodType, publishedAt, qualityState, scale,
    sourceRecordId, statementId, statementType, unit, value }

def mapLiveFinancialFactsCoverage (value : Option JsonValue) :
    Except ReadbackError FinancialFactsCoverage := do
  let coverage ← requireLiveFactsObject value "coverage"
  let status := stringOf (member coverage "status")
  if status = some (ofString "available") then return .available
  ensure (status = some (ofString "unavailable"))
    (malformedLiveFactsRow "coverage status is malformed")
  let reason ← require ((stringOf (member coverage "reason")).filter (JsText.trim · ≠ []))
    (malformedLiveFactsRow "unavailable coverage requires a reason")
  return .unavailable reason

def mapLiveFinancialFactsRow (expectedDataVersion expectedInstrumentId : JsText)
    (row : LiveFinancialFactsRow) :
    Except ReadbackError (FinancialFactsCoverage × List LiveFinancialFactRow) := do
  let dataVersion ← requireNonEmptyLiveFactString (some (.string row.dataVersion))
    "row data version"
  ensure (dataVersion = expectedDataVersion)
    (malformedLiveFactsRow "row data version does not match the released snapshot")
  let instrumentId ← requireNonEmptyLiveFactString (some (.string row.entityId)) "entity id"
  ensure (carriesCode securityIdStart instrumentId)
    (malformedLiveFactsRow "entity id is not an opaque HKEX security id")
  ensure (instrumentId = expectedInstrumentId)
    (malformedLiveFactsRow "entity id does not match the requested instrument id")
  let code := instrumentId.drop securityIdStart.length
  let sourceRecordId ← requireNonEmptyLiveFactString (some (.string row.sourceRecordId))
    "source record id"
  let available := ofString "netquity:finreport.nb:" ++ code
  let unavailable := ofString "netquity:finreport.bank_insurance_excluded:" ++ code
  ensure (sourceRecordId = available ∨ sourceRecordId = unavailable)
    (malformedLiveFactsRow "source record id is not a matching Netquity financial-facts record")
  let payload ← requireLiveFactsObject row.payload "payload"
  let coverage ← mapLiveFinancialFactsCoverage (member payload "coverage")
  let entries ← require (elements? (member payload "facts"))
    (malformedLiveFactsRow "payload facts is malformed")
  match coverage with
  | .unavailable _ =>
    ensure (entries = [])
      (malformedLiveFactsRow "unavailable coverage must not carry fact rows")
    ensure (sourceRecordId = unavailable) (malformedLiveFactsRow
      "unavailable coverage must use the bank/insurance-excluded source record id")
    return (coverage, [])
  | .available =>
    ensure (sourceRecordId = available)
      (malformedLiveFactsRow "available coverage must use the nb source record id")
    let facts ← entries.mapM (mapLiveFinancialFactRow platform instrumentId)
    return (coverage, facts)

def getLiveFinancialFacts (input : GetLiveFinancialFactsInput) (rows : List LiveFinancialFactsRow) :
    Except ReadbackError GetLiveFinancialFactsResult := do
  let instrumentId := JsText.trim input.instrumentId
  ensure (instrumentId ≠ []) .instrumentIdRequired
  ensure (rows.length ≤ 1) .multipleRowsForInstrument
  let dataVersion ← requireNonEmptyLiveFactString (some (.string input.dataVersion))
    "snapshot data version"
  let asOf ← requireNonEmptyLiveFactString (some (.string input.asOf)) "snapshot as-of"
  match rows.head? with
  | none => return { asOf, dataVersion, instrumentId, provenance := [] }
  | some row =>
    let (coverage, facts) ← mapLiveFinancialFactsRow platform dataVersion instrumentId row
    return {
      asOf, dataVersion, instrumentId
      coverage := some coverage
      facts := some facts
      provenance :=
        if facts = [] then [row.sourceRecordId] else facts.map (·.sourceRecordId) }

end Aiphabee.LiveFacts
