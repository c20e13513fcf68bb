import Aiphabee.IpoIngest.SourceRows
import Aiphabee.Sql.OnConflict

/-!
# The tables of the ingest

The tables that an ingest writes, with the keys that their insertions meet rows
on, the columns that a conflict sets, and the other constraints of the schema.
-/

namespace Aiphabee.IpoIngest

open Sql (Row OnConflict)

inductive Column
  | appCode | appliedAmountTextEn | appliedAmountTextZhHans | appliedAmountTextZhHant
  | appliedShares | boardLot | businessOverviewEn | businessOverviewZhHans
  | businessOverviewZhHant | checksumSha256 | clawbackType | code | contact | contentHtml
  | contentText | cornerstoneTotalText | currencyCode | dataVersion | eipoUrl | entryFee
  | eprospectusUrl | eventAt | eventCode | eventDate | eventType | extra | finalOfferPrice
  | finalOfferPriceTextEn | finalOfferPriceTextZhHans | finalOfferPriceTextZhHant
  | finalSubscribedShares | forwardLooking | fundsRaisedTextEn | fundsRaisedTextZhHans
  | fundsRaisedTextZhHant | hasTime | hkexCode | immutable | industryCode
  | internationalOfferShares | investAmount | investCurrencyCode | investorNameEn
  | investorNameZhHans | investorNameZhHant | ipoCornerstoneId | ipoNarrativeId
  | ipoOfferStatisticId | ipoStatus | ipoTimetableEventId | issuedSharePct | lang | listCode
  | listDate | listingBoard | listingDate | listingMethodEn | listingMethodZhHans
  | listingMethodZhHant | listingType | lockupEndDate | lockupPeriodText | market
  | marketCapTextEn | marketCapTextZhHans | marketCapTextZhHant | maxSubscribedShares
  | maximumApplicationText | methodologyVersion | metricKey | nameEn | nameZhHans | nameZhHant
  | netProceedsTextEn | netProceedsTextZhHans | netProceedsTextZhHant | newShares
  | offerPriceMax | offerPriceMin | offerSharePct | offeringId | oneLotGuarantee
  | oneLotSuccessRate | overAllotmentShares | overSubscriptionMultiple | parValue | payload
  | payloadHashSha256 | phipDate | pipelineStatus | placingShares | preferentialOfferShares
  | profileEn | profileZhHans | profileZhHant | publicOfferShares | publishDate | qualityState
  | rawSnapshotId | recordKind | releaseState | releasedAt | reportType | resultUrl
  | rightsPolicyVersion | rowCount | saleShares | sanitizerVersion | sectionKey | sectorCode
  | securityType | sourceAsOf | sourceBatchId | sourceDataset | sourceName | sourceRecordId
  | sourceRightsStatus | sponsorEn | sponsorZhHans | sponsorZhHant | subIndustryCode
  | tableName | titleEn | titleZhHans | titleZhHant | totalOfferShares | validApplicationCount
  | valueEn | valueZhHans | valueZhHant
deriving DecidableEq

inductive Cell
  | text (value : JsText)
  | number (value : JsNumber)
  | flag (value : Bool)
  /-- The row of the bundle that a snapshot is of. -/
  | payload (tableName : String) (row : SourceRow)
  | record (row : SourceRow)
  | fields (entries : List (String × Option JsText))
deriving DecidableEq

abbrev StoredRow := Row Column Cell

inductive TableName
  | rawSourceBatch
  | dataVersionBatch
  | rawSnapshot
  | vendorCode
  | ipoOffering
  | ipoNarrative
  | ipoTimetableEvent
  | ipoOfferStatistic
  | ipoCornerstone
  | ipoAllotmentSummary
  | ipoPipelineApplication
deriving DecidableEq

def columns (entries : List (Column × Option Cell)) : StoredRow :=
  fun column => ((entries.find? fun entry => entry.1 = column).map Prod.snd).join

def textCell (value : Option JsText) : Option Cell :=
  value.map .text

def numberCell (value : Option JsNumber) : Option Cell :=
  value.map .number

/-- What every conflict of a serving table sets. -/
def provenance : List Column :=
  [.sourceRecordId, .rawSnapshotId, .methodologyVersion, .qualityState]

def onConflictSourceBatch : OnConflict Column where
  target := [.sourceBatchId]
  set := [.checksumSha256, .rowCount, .sourceAsOf]
  apart := by decide

def onConflictDataVersion : OnConflict Column where
  target := [.dataVersion]
  set := [.sourceBatchId, .methodologyVersion, .rightsPolicyVersion, .releaseState, .releasedAt]
  apart := by decide

/-- `on conflict (raw_snapshot_id) do nothing`. -/
def onConflictRawSnapshot : OnConflict Column where
  target := [.rawSnapshotId]
  set := []
  apart := by decide

def onConflictVendorCode : OnConflict Column where
  target := [.tableName, .code, .dataVersion]
  set := [.nameEn, .nameZhHant, .nameZhHans, .extra] ++ provenance
  apart := by decide

def onConflictOffering : OnConflict Column where
  target := [.offeringId]
  set := [.hkexCode, .listingDate, .ipoStatus, .listingBoard, .listingType, .listingMethodEn,
    .listingMethodZhHant, .listingMethodZhHans, .nameEn, .nameZhHant, .nameZhHans,
    .currencyCode, .sectorCode, .industryCode, .subIndustryCode, .offerPriceMin,
    .offerPriceMax, .finalOfferPrice, .boardLot, .entryFee, .publicOfferShares,
    .placingShares, .internationalOfferShares, .preferentialOfferShares, .newShares,
    .saleShares, .overAllotmentShares, .totalOfferShares, .marketCapTextEn,
    .marketCapTextZhHant, .marketCapTextZhHans, .fundsRaisedTextEn, .fundsRaisedTextZhHant,
    .fundsRaisedTextZhHans, .netProceedsTextEn, .netProceedsTextZhHant,
    .netProceedsTextZhHans, .oneLotSuccessRate, .overSubscriptionMultiple, .clawbackType,
    .lockupEndDate, .eprospectusUrl, .eipoUrl, .contact, .dataVersion,
    .rightsPolicyVersion] ++ provenance
  apart := by decide

def onConflictNarrative : OnConflict Column where
  target := [.offeringId, .sectionKey, .lang, .dataVersion]
  set := [.contentHtml, .contentText, .sanitizerVersion, .rightsPolicyVersion] ++ provenance
  apart := by decide

def onConflictTimetableEvent : OnConflict Column where
  target := [.ipoTimetableEventId]
  set := [.eventAt, .eventDate, .hasTime, .eventType, .titleEn, .titleZhHant, .titleZhHans,
    .rightsPolicyVersion] ++ provenance
  apart := by decide

def onConflictOfferStatistic : OnConflict Column where
  target := [.offeringId, .reportType, .metricKey, .dataVersion]
  set := [.valueEn, .valueZhHant, .valueZhHans, .forwardLooking, .rightsPolicyVersion] ++
    provenance
  apart := by decide

def onConflictCornerstone : OnConflict Column where
  target := [.ipoCornerstoneId]
  set := [.investorNameEn, .investorNameZhHant, .investorNameZhHans, .investCurrencyCode,
    .investAmount, .maxSubscribedShares, .finalSubscribedShares, .offerSharePct,
    .issuedSharePct, .lockupPeriodText, .profileEn, .profileZhHant, .profileZhHans,
    .rightsPolicyVersion] ++ provenance
  apart := by decide

def onConflictAllotmentSummary : OnConflict Column where
  target := [.offeringId]
  set := [.finalOfferPriceTextEn, .finalOfferPriceTextZhHant, .finalOfferPriceTextZhHans,
    .validApplicationCount, .appliedShares, .appliedAmountTextEn, .appliedAmountTextZhHant,
    .appliedAmountTextZhHans, .overSubscriptionMultiple, .oneLotSuccessRate, .oneLotGuarantee,
    .maximumApplicationText, .cornerstoneTotalText, .resultUrl, .dataVersion,
    .rightsPolicyVersion] ++ provenance
  apart := by decide

def onConflictPipelineApplication : OnConflict Column where
  target := [.appCode]
  set := [.publishDate, .phipDate, .market, .pipelineStatus, .nameEn, .nameZhHant, .nameZhHans,
    .sectorCode, .industryCode, .sponsorEn, .sponsorZhHant, .sponsorZhHans,
    .businessOverviewEn, .businessOverviewZhHant, .businessOverviewZhHans, .listCode,
    .listDate, .dataVersion, .rightsPolicyVersion] ++ provenance
  apart := by decide

def TableName.onConflict : TableName → OnConflict Column
  | .rawSourceBatch => onConflictSourceBatch
  | .dataVersionBatch => onConflictDataVersion
  | .rawSnapshot => onConflictRawSnapshot
  | .vendorCode => onConflictVendorCode
  | .ipoOffering => onConflictOffering
  | .ipoNarrative => onConflictNarrative
  | .ipoTimetableEvent => onConflictTimetableEvent
  | .ipoOfferStatistic => onConflictOfferStatistic
  | .ipoCornerstone => onConflictCornerstone
  | .ipoAllotmentSummary => onConflictAllotmentSummary
  | .ipoPipelineApplication => onConflictPipelineApplication

def TableName.keyOf (table : TableName) (row : StoredRow) : List (Option Cell) :=
  Sql.keyOf table.onConflict.target row

abbrev Database := TableName → List StoredRow

/-- The keys of the schema that no insertion meets rows on. -/
def uniqueKeys : List (TableName × List Column) :=
  [(.rawSnapshot, [.sourceBatchId, .sourceRecordId]),
    (.ipoOffering, [.hkexCode, .listingDate, .dataVersion]),
    (.ipoNarrative, [.ipoNarrativeId]),
    (.ipoTimetableEvent, [.offeringId, .eventCode, .eventDate, .dataVersion]),
    (.ipoOfferStatistic, [.ipoOfferStatisticId])]

structure ForeignKey where
  table : TableName
  column : Column
  referenced : TableName

def servingTables : List TableName :=
  [.vendorCode, .ipoOffering, .ipoNarrative, .ipoTimetableEvent, .ipoOfferStatistic,
    .ipoCornerstone, .ipoAllotmentSummary, .ipoPipelineApplication]

/-- The references of the schema; they all are to the column of the same name. -/
def foreignKeys : List ForeignKey :=
  [⟨.dataVersionBatch, .sourceBatchId, .rawSourceBatch⟩,
    ⟨.rawSnapshot, .sourceBatchId, .rawSourceBatch⟩] ++
  (servingTables.flatMap fun table =>
    [⟨table, .rawSnapshotId, .rawSnapshot⟩, ⟨table, .dataVersion, .dataVersionBatch⟩]) ++
  ([.ipoNarrative, .ipoTimetableEvent, .ipoOfferStatistic, .ipoCornerstone,
      .ipoAllotmentSummary, .ipoPipelineApplication].map fun table =>
    ⟨table, .offeringId, .ipoOffering⟩)

def isAbove (bound : Int) : Option Cell → Bool
  | some (.number (.finite value)) => bound < value
  | some _ => false
  | none => true

/-- The checks of the schema that the values of a bundle can fail. -/
def checks : List (TableName × Column × (Option Cell → Bool)) :=
  [(.ipoOffering, .boardLot, isAbove 0),
    (.ipoAllotmentSummary, .validApplicationCount, isAbove (-1))]

variable (db : Database)

def Database.keepsUnique (key : TableName × List Column) : Bool :=
  ((db key.1).filter fun row => Sql.FullKey key.2 row).map (Sql.keyOf key.2) |>.Nodup

def Database.keepsReference (key : ForeignKey) : Bool :=
  (db key.table).all fun row =>
    row key.column = none ||
      (db key.referenced).any fun other => decide (other key.column = row key.column)

def Database.keepsCheck (check : TableName × Column × (Option Cell → Bool)) : Bool :=
  (db check.1).all fun row => check.2.2 (row check.2.1)

def Database.keepsConstraints : Bool :=
  uniqueKeys.all db.keepsUnique && foreignKeys.all db.keepsReference && checks.all db.keepsCheck

end Aiphabee.IpoIngest
