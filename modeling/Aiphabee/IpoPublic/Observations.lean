import Aiphabee.Text.StableJson

/-!
# Observations of public IPO pages

An adapter reads two public pages and turns each cell of a row into an
observation: one field of one security, with the page it was seen on.  The
identifier of an observation is a hash of all of it but the time, so that two
observations with one identifier differ at most in the time.
-/

namespace Aiphabee.IpoPublic

open JsText (ofString)
open StableJson

/-- The sources that the adapter reads. -/
inductive SourceId
  | aastocksIpoPlus
  | vbkrHkIpo
deriving DecidableEq

def SourceId.text : SourceId → JsText
  | .aastocksIpoPlus => ofString "aastocks_ipo_plus"
  | .vbkrHkIpo => ofString "vbkr_hk_ipo"

inductive FieldName
  | companyName
  | companySummaryUrl
  | industry
  | offerPriceOrRange
  | listingPrice
  | lotSize
  | entryFeeHkd
  | closingDate
  | listingDate
  | oversubscriptionRate
  | oneLotSuccessRate
  | appliedLotsForOneLot
  | greyMarketDate
  | applyEndTime
  | applyRate
  | applyResultDate
  | applyStartDate
  | issueHighPrice
  | issueLowPrice
  | listedDate
  | lowestFeeHkd
  | prospectusUrl
  | securityName
  | securityNameEn
  | securityNameZhHant
  | sponsors
  | sponsorsZhHant
  | stockStatus
  | issuePriceRange
deriving DecidableEq

def FieldName.text : FieldName → JsText
  | .companyName => ofString "company_name"
  | .companySummaryUrl => ofString "company_summary_url"
  | .industry => ofString "industry"
  | .offerPriceOrRange => ofString "offer_price_or_range"
  | .listingPrice => ofString "listing_price"
  | .lotSize => ofString "lot_size"
  | .entryFeeHkd => ofString "entry_fee_hkd"
  | .closingDate => ofString "closing_date"
  | .listingDate => ofString "listing_date"
  | .oversubscriptionRate => ofString "oversubscription_rate"
  | .oneLotSuccessRate => ofString "one_lot_success_rate"
  | .appliedLotsForOneLot => ofString "applied_lots_for_one_lot"
  | .greyMarketDate => ofString "grey_market_date"
  | .applyEndTime => ofString "apply_end_time"
  | .applyRate => ofString "apply_rate"
  | .applyResultDate => ofString "apply_result_date"
  | .applyStartDate => ofString "apply_start_date"
  | .issueHighPrice => ofString "issue_high_price"
  | .issueLowPrice => ofString "issue_low_price"
  | .listedDate => ofString "listed_date"
  | .lowestFeeHkd => ofString "lowest_fee_hkd"
  | .prospectusUrl => ofString "prospectus_url"
  | .securityName => ofString "security_name"
  | .securityNameEn => ofString "security_name_en"
  | .securityNameZhHant => ofString "security_name_zh_hant"
  | .sponsors => ofString "sponsors"
  | .sponsorsZhHant => ofString "sponsors_zh_hant"
  | .stockStatus => ofString "stock_status"
  | .issuePriceRange => ofString "issue_price_range"

def SourceId.fields : SourceId → List FieldName
  | .aastocksIpoPlus =>
    [.companyName, .companySummaryUrl, .industry, .offerPriceOrRange, .listingPrice, .lotSize,
      .entryFeeHkd, .closingDate, .listingDate, .oversubscriptionRate, .oneLotSuccessRate,
      .appliedLotsForOneLot, .greyMarketDate]
  | .vbkrHkIpo =>
    [.applyEndTime, .applyRate, .applyResultDate, .applyStartDate, .issueHighPrice,
      .issueLowPrice, .listedDate, .lotSize, .lowestFeeHkd, .prospectusUrl, .securityName,
      .securityNameEn, .securityNameZhHant, .sponsors, .sponsorsZhHant, .stockStatus]

/-- An element of a list on a page. -/
inductive Scalar
  | boolean (value : Bool)
  | number (value : FiniteNumber)
  | text (value : JsText)

inductive FieldValue
  | null
  | boolean (value : Bool)
  | number (value : FiniteNumber)
  | text (value : JsText)
  | list (values : List Scalar)

inductive FieldValueType
  | array
  | number
  | boolean
  | date
  | url
  | text

/-- One field of one security, as a page shows it. -/
structure Observation where
  observationId : JsText
  fieldName : FieldName
  fieldValue : FieldValue
  fieldValueType : FieldValueType
  locator : JsText
  observedAt : JsText
  provider : JsText
  securityCode : JsText
  sourceId : SourceId
  sourceRecordId : JsText
  sourceUrl : JsText
  /-- An identifier is `obs_` and hexadecimal digits. -/
  idPlain : observationId ≠ [] ∧ 124 ∉ observationId
  fieldKnown : fieldName ∈ sourceId.fields

/-- The observations differ at most in the time. -/
structure Observation.SameButForTime (first second : Observation) : Prop where
  fieldName : first.fieldName = second.fieldName
  fieldValue : first.fieldValue = second.fieldValue
  fieldValueType : first.fieldValueType = second.fieldValueType
  locator : first.locator = second.locator
  provider : first.provider = second.provider
  securityCode : first.securityCode = second.securityCode
  sourceId : first.sourceId = second.sourceId
  sourceRecordId : first.sourceRecordId = second.sourceRecordId
  sourceUrl : first.sourceUrl = second.sourceUrl

structure AdapterPayload where
  runs : List (List Observation)
  identified : ∀ first ∈ runs.flatten, ∀ second ∈ runs.flatten,
    first.observationId = second.observationId → first.SameButForTime second

/-- `payload.runs.flatMap((run) => run.observations ?? [])`. -/
def AdapterPayload.observations (payload : AdapterPayload) : List Observation :=
  payload.runs.flatten

end Aiphabee.IpoPublic
