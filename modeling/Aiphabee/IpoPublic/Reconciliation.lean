import Aiphabee.IpoPublic.Observations
import Aiphabee.Text.JsonRoundTrip
import Aiphabee.Store.GroupBy

/-!
# The reconciliation of public IPO observations

The observations of every security are compared fact by fact.  A fact of the one
source is set against the same fact of the other: the size of a lot, the date of
the listing, and the range of the price, which the second source shows as two
fields.  What is not compared becomes a candidate for a supplement.  The packet
asks for a snapshot of every page and points from its rows to the observations.
-/

namespace Aiphabee.IpoPublic

open JsText (ofString)
open StableJson

variable (platform : Platform)

structure Platform where
  toLowerCase : JsText → JsText
  /-- The SHA-256 hash of the JSON text of a value, in hexadecimal digits. -/
  stableHash : Value → JsText
  isOfficialHkexUrl : FieldValue → Bool
  localeOrder : JsText → JsText → Bool

/-- `value.replace(/,/gu, "")`. -/
def withoutCommas (value : JsText) : JsText :=
  value.filter fun unit => unit ≠ 44

/-- `value.replace(/\s+/gu, "")`. -/
def withoutSpaces (value : JsText) : JsText :=
  value.filter fun unit => !JsText.isWhiteSpace unit

def numberText (number : JsNumber) : JsText :=
  ofString (JsNumber.toText number)

/-- `String(value)` of an element of a list. -/
def Scalar.string : Scalar → JsText
  | .boolean value => ofString (if value then "true" else "false")
  | .number value => numberText (.finite value.value)
  | .text value => value

/-- `String(value)`. -/
def FieldValue.string : FieldValue → JsText
  | .null => ofString "null"
  | .boolean value => ofString (if value then "true" else "false")
  | .number value => numberText (.finite value.value)
  | .text value => value
  | .list values => [44].intercalate (values.map Scalar.string)

/-- `JSON.stringify` of an element of a list. -/
def Scalar.json : Scalar → Utf8Text
  | .boolean value => (if value then "true" else "false").toList
  | .number value => value.text
  | .text value => JsText.jsonString value

def normalizeNumber (value : FieldValue) : JsText :=
  match JsNumber.ofText (withoutCommas value.string) with
  | .finite number => numberText (.finite number)
  | _ => []

def normalizeComparable (value : FieldValue) : JsText :=
  match value with
  | .number _ => normalizeNumber value
  | .boolean _ => value.string
  | .list values => JsText.ofChars (JsText.jsonArray (values.map Scalar.json))
  | .null => []
  | .text value =>
    JsText.trim (withoutSpaces (withoutCommas (platform.toLowerCase value)))

def isDecimal (text : JsText) : Bool :=
  match text.span JsText.isDigit with
  | ([], _) => false
  | (_, []) => true
  | (_, 46 :: fraction) => !fraction.isEmpty && fraction.all JsText.isDigit
  | _ => false

/-- Two prices with a hyphen between them. -/
def parsePriceRange (value : FieldValue) : Option (JsNumber × JsNumber) :=
  let text := withoutSpaces (match value with
    | .null => []
    | value => value.string)
  match text.span (· ≠ 45) with
  | (low, 45 :: high) =>
    if isDecimal low && isDecimal high then
      some (JsNumber.ofText low, JsNumber.ofText high)
    else
      none
  | _ => none

inductive FactName
  | lotSize
  | listingDate
  | issuePriceRange
deriving DecidableEq

def FactName.text : FactName → JsText
  | .lotSize => ofString "lot_size"
  | .listingDate => ofString "listing_date"
  | .issuePriceRange => ofString "issue_price_range"

inductive CandidateValue
  | field (value : FieldValue)
  | parsedRange (high low : JsNumber)
  | fieldRange (high low : FieldValue)

structure ComparedValue where
  fieldName : FieldName
  fieldValue : CandidateValue
  normalizedValue : JsText
  observedAt : JsText
  observationId : JsText
  provider : JsText
  sourceId : SourceId
  sourceRecordId : JsText

inductive ComparisonStatus
  | agreement
  | conflict
  | singleSource
deriving DecidableEq

inductive Confidence
  | medium
  | low

structure Comparison where
  canonicalCandidate : Option CandidateValue
  confidence : Confidence
  factName : FactName
  reason : String
  status : ComparisonStatus
  values : List ComparedValue

structure HkexEvidence where
  evidenceId : JsText
  fieldName : FieldName
  observedAt : JsText
  provider : JsText
  sourceId : SourceId
  sourceRecordId : JsText
  url : FieldValue

structure SupplementCandidate where
  fieldName : FieldName
  fieldValueType : FieldValueType
  observationId : JsText
  observedAt : JsText
  provider : JsText
  reason : String
  sourceId : SourceId
  sourceRecordId : JsText

inductive DryRunStatus
  | needsReview
  | readyForRawSnapshotReconciliation

structure Security where
  agreementCount : Nat
  comparisonCount : Nat
  comparisons : List Comparison
  conflictCount : Nat
  dryRunStatus : DryRunStatus
  hkexEvidence : List HkexEvidence
  providers : List JsText
  securityCode : JsText
  sourceIds : List JsText
  supplementCandidates : List SupplementCandidate

structure ReportSummary where
  agreementCount : Nat
  conflictCount : Nat
  comparedFieldCount : Nat
  hkexUrlEvidenceCount : Nat
  securityCount : Nat
  singleSourceCount : Nat
  supplementCandidateCount : Nat

structure ReconciliationReport where
  securities : List Security
  summary : ReportSummary

section Comparisons

/-- `[...new Set(values)]`. -/
def unique (values : List JsText) : List JsText :=
  values.eraseDups

/-- `values.sort()`: by code units. -/
def sorted (values : List JsText) : List JsText :=
  values.insertionSort (· ≤ ·)

def compareValues (factName : FactName) (values : List ComparedValue) : Option Comparison :=
  match values with
  | [] => none
  | first :: _ =>
    let uniqueValues := unique (values.map ComparedValue.normalizedValue)
    some
      { canonicalCandidate := if uniqueValues.length = 1 then some first.fieldValue else none
        confidence := if uniqueValues.length = 1 ∧ 1 < values.length then .medium else .low
        factName := factName
        reason :=
          if values.length = 1 then "only one public source supplied this fact"
          else if uniqueValues.length = 1 then "public sources agree after normalization"
          else "public sources disagree after normalization"
        status :=
          if values.length = 1 then .singleSource
          else if uniqueValues.length = 1 then .agreement
          else .conflict
        values := values }

def toComparableValue (observation : Observation) : ComparedValue where
  fieldName := observation.fieldName
  fieldValue := .field observation.fieldValue
  normalizedValue := normalizeComparable platform observation.fieldValue
  observedAt := observation.observedAt
  observationId := observation.observationId
  provider := observation.provider
  sourceId := observation.sourceId
  sourceRecordId := observation.sourceRecordId

def Observation.isOf (observation : Observation) (fieldName : FieldName) (sourceId : SourceId) :
    Bool :=
  observation.sourceId = sourceId && observation.fieldName = fieldName

variable (observations : List Observation)

def compareFact (factName : FactName) (selectors : List (FieldName × SourceId)) :
    Option Comparison :=
  compareValues factName
    (((selectors.flatMap fun selector =>
        observations.filter fun observation => observation.isOf selector.1 selector.2).map
      (toComparableValue platform)).filter fun value => value.normalizedValue ≠ [])

/-- The range that a cell of the first source shows. -/
def parsedValue (observation : Observation) : Option ComparedValue :=
  (parsePriceRange observation.fieldValue).map fun range =>
    { fieldName := observation.fieldName
      fieldValue := .parsedRange range.2 range.1
      normalizedValue := numberText range.1 ++ 45 :: numberText range.2
      observedAt := observation.observedAt
      observationId := observation.observationId
      provider := observation.provider
      sourceId := observation.sourceId
      sourceRecordId := observation.sourceRecordId }

/-- The range that two cells of the second source make. -/
def pairedValue (low high : Observation) : ComparedValue where
  fieldName := .issuePriceRange
  fieldValue := .fieldRange high.fieldValue low.fieldValue
  normalizedValue := normalizeNumber low.fieldValue ++ 45 :: normalizeNumber high.fieldValue
  observedAt := low.observedAt
  observationId := low.observationId ++ 124 :: high.observationId
  provider := low.provider
  sourceId := low.sourceId
  sourceRecordId := low.sourceRecordId

def aastocksRange : List ComparedValue :=
  (observations.filter fun observation =>
    observation.isOf .offerPriceOrRange .aastocksIpoPlus).filterMap parsedValue

def vbkrRange : List ComparedValue :=
  match observations.find? fun observation => observation.isOf .issueLowPrice .vbkrHkIpo,
      observations.find? fun observation => observation.isOf .issueHighPrice .vbkrHkIpo with
  | some low, some high => [pairedValue low high]
  | _, _ => []

def comparePriceRange : Option Comparison :=
  compareValues .issuePriceRange (aastocksRange observations ++ vbkrRange observations)

end Comparisons

def collectHkexEvidence (observations : List Observation) : List HkexEvidence :=
  ((observations.filter fun observation => observation.fieldName = .prospectusUrl).filter
      fun observation => platform.isOfficialHkexUrl observation.fieldValue).map fun observation =>
    { evidenceId := ofString "hkex_evidence_" ++
        (platform.stableHash (.string observation.observationId)).take 16
      fieldName := observation.fieldName
      observedAt := observation.observedAt
      provider := observation.provider
      sourceId := observation.sourceId
      sourceRecordId := observation.sourceRecordId
      url := observation.fieldValue }

def uniqueBy {ρ κ : Type} [DecidableEq κ] (key : ρ → κ) (rows : List ρ) : List ρ :=
  rows.foldl (fun output row =>
    if output.any fun other => key other = key row then output else output ++ [row]) []

/-- `${source_id}:${source_record_id}:${field_name}`. -/
def SupplementCandidate.key (candidate : SupplementCandidate) : JsText :=
  candidate.sourceId.text ++ 58 :: candidate.sourceRecordId ++ 58 :: candidate.fieldName.text

def comparedFields (comparisons : List Comparison) : List FieldName :=
  comparisons.flatMap fun comparison => comparison.values.map ComparedValue.fieldName

def supplementCandidate (observation : Observation) : SupplementCandidate where
  fieldName := observation.fieldName
  fieldValueType := observation.fieldValueType
  observationId := observation.observationId
  observedAt := observation.observedAt
  provider := observation.provider
  reason := "third-party field not yet available from HKEX document observation dry run"
  sourceId := observation.sourceId
  sourceRecordId := observation.sourceRecordId

def collectSupplementCandidates (observations : List Observation) (comparisons : List Comparison) :
    List SupplementCandidate :=
  uniqueBy SupplementCandidate.key
    ((observations.filter fun observation =>
      observation.fieldName ∉ comparedFields comparisons ∧
        observation.fieldName ≠ .companySummaryUrl).map supplementCandidate)

def securityComparisons (observations : List Observation) : List Comparison :=
  [compareFact platform observations .lotSize
      [(.lotSize, .aastocksIpoPlus), (.lotSize, .vbkrHkIpo)],
    compareFact platform observations .listingDate
      [(.listingDate, .aastocksIpoPlus), (.listedDate, .vbkrHkIpo)],
    comparePriceRange observations].filterMap id

def statusCount (status : ComparisonStatus) (comparisons : List Comparison) : Nat :=
  (comparisons.filter fun comparison => comparison.status = status).length

def buildSecurity (securityCode : JsText) (observations : List Observation) : Security :=
  let comparisons := securityComparisons platform observations
  let conflictCount := statusCount .conflict comparisons
  { agreementCount := statusCount .agreement comparisons
    comparisonCount := comparisons.length
    comparisons := comparisons
    conflictCount := conflictCount
    dryRunStatus := if 0 < conflictCount then .needsReview else .readyForRawSnapshotReconciliation
    hkexEvidence := collectHkexEvidence platform observations
    providers := sorted (unique (observations.map Observation.provider))
    securityCode := securityCode
    sourceIds := sorted (unique (observations.map fun observation => observation.sourceId.text))
    supplementCandidates := collectSupplementCandidates observations comparisons }

/-- `groupBy(values, keyFn)`: the rows under every key, in the order of their first rows. -/
def grouped (key : Observation → JsText) (observations : List Observation) :
    List (JsText × List Observation) :=
  GroupBy.groupBy key (fun observation => [observation])
    (fun group observation => group ++ [observation]) observations

def buildReconciliationReport (payload : AdapterPayload) : ReconciliationReport :=
  let groups := (grouped Observation.securityCode payload.observations).insertionSort
    fun first second => first.1 ≤ second.1
  let securities := groups.map fun group => buildSecurity platform group.1 group.2
  let allComparisons := securities.flatMap Security.comparisons
  { securities := securities
    summary :=
      { agreementCount := statusCount .agreement allComparisons
        conflictCount := statusCount .conflict allComparisons
        comparedFieldCount := allComparisons.length
        hkexUrlEvidenceCount := (securities.flatMap Security.hkexEvidence).length
        securityCount := securities.length
        singleSourceCount := statusCount .singleSource allComparisons
        supplementCandidateCount := (securities.flatMap Security.supplementCandidates).length } }

/-- What is asked of the store of raw pages. -/
structure RawSnapshotRequest where
  observationIds : List JsText
  observedAt : JsText
  provider : JsText
  requestId : JsText
  securityCode : JsText
  sourceId : SourceId
  sourceRecordId : JsText
  sourceUrl : JsText

structure ReconciliationRow where
  canonicalCandidate : Option CandidateValue
  confidence : Confidence
  conflictRequiresManualReview : Bool
  factName : FactName
  hkexEvidenceIds : List JsText
  rawSnapshotRequestIds : List JsText
  reason : String
  rowId : JsText
  securityCode : JsText
  sourceObservationIds : List JsText
  sourceIds : List JsText
  status : ComparisonStatus

structure SupplementCandidateRow where
  fieldName : FieldName
  fieldValueType : FieldValueType
  provider : JsText
  rawSnapshotRequestId : Option JsText
  reason : String
  rowId : JsText
  securityCode : JsText
  sourceId : SourceId
  sourceObservationId : JsText
  sourceRecordId : JsText

structure ReconciliationPacket where
  rawSnapshotRequests : List RawSnapshotRequest
  reconciliationRows : List ReconciliationRow
  supplementCandidateRows : List SupplementCandidateRow
  summary : ReportSummary

def Observation.pageKey (observation : Observation) : JsText :=
  observation.sourceId.text ++ 58 :: observation.sourceRecordId ++ 58 :: observation.sourceUrl

def rawSnapshotRequest (first : Observation) (group : List Observation) : RawSnapshotRequest where
  observationIds := sorted (group.map Observation.observationId)
  observedAt := first.observedAt
  provider := first.provider
  requestId := ofString "raw_snapshot_request_" ++
    (platform.stableHash (record
      [("source_id", .string first.sourceId.text),
        ("source_record_id", .string first.sourceRecordId),
        ("source_url", .string first.sourceUrl)])).take 24
  securityCode := first.securityCode
  sourceId := first.sourceId
  sourceRecordId := first.sourceRecordId
  sourceUrl := first.sourceUrl

def buildRawSnapshotRequests (observations : List Observation) : List RawSnapshotRequest :=
  ((grouped Observation.pageKey observations).filterMap fun group =>
      group.2.head?.map fun first => rawSnapshotRequest platform first group.2).insertionSort
    fun first second => platform.localeOrder first.requestId second.requestId = true

def requestIdOf (requests : List RawSnapshotRequest) (observationId : JsText) : Option JsText :=
  ((requests.filter fun request => observationId ∈ request.observationIds).getLast?).map
    RawSnapshotRequest.requestId

/-- `String(value.observation_id).split("|").filter(Boolean)` of all values, each once. -/
def observationIdsFromValues (values : List ComparedValue) : List JsText :=
  unique (values.flatMap fun value =>
    (value.observationId.splitOn 124).filter fun observationId => observationId ≠ [])

def reconciliationRow (requests : List RawSnapshotRequest) (security : Security)
    (comparison : Comparison) : ReconciliationRow :=
  let sourceObservationIds := observationIdsFromValues comparison.values
  { canonicalCandidate := comparison.canonicalCandidate
    confidence := comparison.confidence
    conflictRequiresManualReview := comparison.status = .conflict
    factName := comparison.factName
    hkexEvidenceIds := security.hkexEvidence.map HkexEvidence.evidenceId
    rawSnapshotRequestIds :=
      unique ((sourceObservationIds.filterMap (requestIdOf requests)).filter
        fun requestId => requestId ≠ [])
    reason := comparison.reason
    rowId := ofString "ipo_public_reconciliation_" ++
      (platform.stableHash (record
        [("fact_name", .string comparison.factName.text),
          ("security_code", .string security.securityCode),
          ("source_observation_ids",
            .array ((sorted sourceObservationIds).map .string))])).take 24
    securityCode := security.securityCode
    sourceObservationIds := sorted sourceObservationIds
    sourceIds := sorted (unique (comparison.values.map fun value => value.sourceId.text))
    status := comparison.status }

def supplementCandidateRow (requests : List RawSnapshotRequest) (security : Security)
    (candidate : SupplementCandidate) :
    SupplementCandidateRow where
  fieldName := candidate.fieldName
  fieldValueType := candidate.fieldValueType
  provider := candidate.provider
  rawSnapshotRequestId := requestIdOf requests candidate.observationId
  reason := candidate.reason
  rowId := ofString "ipo_public_supplement_" ++
    (platform.stableHash (record
      [("field_name", .string candidate.fieldName.text),
        ("observation_id", .string candidate.observationId),
        ("security_code", .string security.securityCode)])).take 24
  securityCode := security.securityCode
  sourceId := candidate.sourceId
  sourceObservationId := candidate.observationId
  sourceRecordId := candidate.sourceRecordId

def buildReconciliationPacket (report : ReconciliationReport) (payload : AdapterPayload) :
    ReconciliationPacket :=
  let requests := buildRawSnapshotRequests platform payload.observations
  { rawSnapshotRequests := requests
    reconciliationRows := report.securities.flatMap fun security =>
      security.comparisons.map (reconciliationRow platform requests security)
    supplementCandidateRows := report.securities.flatMap fun security =>
      security.supplementCandidates.map (supplementCandidateRow platform requests security)
    summary := report.summary }

end Aiphabee.IpoPublic
