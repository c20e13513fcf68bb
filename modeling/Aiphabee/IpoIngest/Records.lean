import Aiphabee.IpoIngest.Tables

/-!
# What an ingest stores of a bundle

Every function makes the records of one table.  A record carries the version of
the run and points to the snapshot of the row that it comes from.
-/

namespace Aiphabee.IpoIngest

open JsText (ofString)

variable (platform : Platform)
variable (request : Request)

structure Platform where
  sha256Text : JsText → JsText
  /-- The hash of the JSON text of the payload of a snapshot. -/
  payloadHash : String → SourceRow → JsText
  toUpperCase : JsText → JsText
  sanitizeHtml : JsText → JsText
  htmlToText : JsText → JsText

structure Request where
  bundle : Bundle
  bundleHash : JsText
  dataVersion : JsText
  sourceAsOf : JsText

def asText (value : String) : Option Cell :=
  some (.text (ofString value))

def methodologyVersion : Option Cell :=
  asText "2026-06-24.ipo-mdb-postgres-ingest.v0"

def rightsPolicyVersion : Option Cell :=
  asText "ipo-rights-policy-scaffold-v0"

def sanitizerVersion : Option Cell :=
  asText "ipo-memo-sanitizer@v0"

def Request.sourceBatchId (request : Request) : JsText :=
  ofString "ipo-mdb-batch-" ++ request.bundleHash.take 16

def stableId (start : String) (parts : List JsText) : JsText :=
  ofString start ++ 95 :: (platform.sha256Text (joined parts)).take 32

def rawSnapshotId (tableName : String) (sourceRecordId : JsText) : JsText :=
  stableId platform "ipo_raw" [request.dataVersion, ofString tableName, sourceRecordId]

def tableSpec (name : String) : SourceTable :=
  (expectedNewipoTables.find? fun table => table.name = name).getD ⟨name, .nil, ""⟩

/-- `tableRows.get(name)`, with the index of every row. -/
def Request.rows (name : String) : List (SourceRow × Nat) :=
  (request.bundle.rows name).zipIdx

section Enumerations

def oneOf (values : List String) (other : String) (value : Option JsText) : Option Cell :=
  match value with
  | some value =>
    if value ∈ values.map ofString then some (.text value) else asText other
  | none => asText other

variable (value : Option JsText)

def upper : Option JsText :=
  (text value).map platform.toUpperCase

def ipoStatus : Option Cell :=
  match text value with
  | some [89] => asText "in_process"
  | some [78] => asText "cancelled"
  | some [83] => asText "suspended"
  | some [87] => asText "withdrawn"
  | _ => asText "unknown"

def listingBoard : Option Cell :=
  oneOf ["MAIN", "GEM", "NASQ"] "UNKNOWN" (upper platform value)

def listingType : Option Cell :=
  oneOf ["Normal", "18A", "18C"] "Unknown" (text value)

def clawbackType : Option Cell :=
  oneOf ["A", "B", "NA"] "Unknown" (upper platform value)

def reportType : JsText :=
  match upper platform value with
  | some [70] => [70]
  | some [72] => [72]
  | _ => ofString "Unknown"

def listMarket : Option Cell :=
  let current := text value
  if current = some (ofString "1") ∨ current = some (ofString "MAIN") then
    asText "MAIN"
  else if current = some (ofString "2") ∨ current = some (ofString "GEM") then
    asText "GEM"
  else asText "Unknown"

def pipelineStatus : Option Cell :=
  oneOf ["A", "L", "R", "W", "U"] "Unknown" (upper platform value)

end Enumerations

def upsertSourceBatchRecords (rowCount : Nat) : List StoredRow :=
  [columns
    [(.sourceBatchId, some (.text request.sourceBatchId)),
      (.sourceName, asText "netquity_hk_ipo"),
      (.sourceDataset, asText "ipo_mdb_bundle"),
      (.sourceAsOf, some (.text request.sourceAsOf)),
      (.sourceRightsStatus, asText "default_deny"),
      (.checksumSha256, some (.text request.bundleHash)),
      (.rowCount, some (.number (.ofNat rowCount)))]]

def upsertDataVersionRecords : List StoredRow :=
  [columns
    [(.dataVersion, some (.text request.dataVersion)),
      (.sourceBatchId, some (.text request.sourceBatchId)),
      (.methodologyVersion, methodologyVersion),
      (.rightsPolicyVersion, rightsPolicyVersion),
      (.releaseState, asText "held")]]

def rawSnapshotRow (table : SourceTable) (row : SourceRow) (index : Nat) : StoredRow :=
  let sourceRecordId := sourceRecordIdFor table row index
  columns
    [(.rawSnapshotId, some (.text (rawSnapshotId platform request table.name sourceRecordId))),
      (.sourceBatchId, some (.text request.sourceBatchId)),
      (.sourceRecordId, some (.text sourceRecordId)),
      (.recordKind, asText table.recordKind),
      (.payload, some (.payload table.name row)),
      (.payloadHashSha256, some (.text (platform.payloadHash table.name row))),
      (.immutable, some (.flag true)),
      (.qualityState, asText "HOLD"),
      (.dataVersion, some (.text request.dataVersion)),
      (.methodologyVersion, methodologyVersion)]

def rawRows : List StoredRow :=
  (expectedNewipoTables ++ referencedCodeTables).flatMap fun table =>
    (request.rows table.name).map fun (row, index) =>
    rawSnapshotRow platform request table row index

def versionColumns (tableName : String) (sourceRecordId : JsText) : List (Column × Option Cell) :=
  [(.sourceRecordId, some (.text sourceRecordId)),
    (.rawSnapshotId, some (.text (rawSnapshotId platform request tableName sourceRecordId))),
    (.dataVersion, some (.text request.dataVersion)),
    (.methodologyVersion, methodologyVersion),
    (.rightsPolicyVersion, rightsPolicyVersion),
    (.qualityState, asText "HOLD")]

def vendorCodeRecords : List StoredRow :=
  referencedCodeTables.flatMap fun table =>
    (request.rows table.name).filterMap fun (record, index) =>
      match table.primaryKey with
      | .code codeField =>
        (text (record.field codeField)).map fun code =>
          let sourceRecordId := sourceRecordIdFor table record index
          columns
            [(.tableName, asText table.name),
              (.code, some (.text code)),
              (.nameEn, textCell (text (record.field "EngName"))),
              (.nameZhHant, textCell (text (record.field "ChiName"))),
              (.nameZhHans, textCell (text (record.field "SimName"))),
              (.extra, some (.record record)),
              (.sourceRecordId, some (.text sourceRecordId)),
              (.rawSnapshotId,
                some (.text (rawSnapshotId platform request table.name sourceRecordId))),
              (.dataVersion, some (.text request.dataVersion)),
              (.methodologyVersion, methodologyVersion),
              (.qualityState, asText "HOLD")]
      | _ => none

def byOfferingId (rows : List SourceRow) : List (JsText × SourceRow) :=
  InsertionMap.ofEntries (rows.filterMap fun row =>
    (offeringIdFor row).map fun offeringId => (offeringId, row))

def offeringRecord (row info : SourceRow) (index : Nat) (offeringId code listingDate : JsText) :
    StoredRow :=
  let field (name : String) := row.field name
  let sourceRecordId := sourceRecordIdFor (tableSpec "CompanySummary") row index
  columns
    ([(.offeringId, some (.text offeringId)),
      (.hkexCode, some (.text code)),
      (.listingDate, some (.text listingDate)),
      (.ipoStatus, ipoStatus (field "IPOStatus")),
      (.listingBoard, listingBoard platform (field "ListingBoard")),
      (.listingType, listingType (field "ListingType")),
      (.listingMethodEn, textCell (text (field "EngListMethod"))),
      (.listingMethodZhHant, textCell (text (field "ChiListMethod"))),
      (.listingMethodZhHans, textCell (text (field "SimListMethod"))),
      (.nameEn, textCell (text (info.field "EngName"))),
      (.nameZhHant, textCell (text (info.field "ChiName"))),
      (.nameZhHans, textCell (text (info.field "SimName"))),
      (.securityType, none),
      (.currencyCode,
        textCell ((text (field "OfferPrice_Curr")).or (text (field "Application_Currency")))),
      (.sectorCode, textCell (text (field "SectorCode"))),
      (.industryCode, textCell (text (field "IndustryCode"))),
      (.subIndustryCode, textCell (text (field "SubIndustryCode"))),
      (.offerPriceMin, numberCell (numeric (field "OfferPriceFrom"))),
      (.offerPriceMax, numberCell (numeric (field "OfferPriceTo"))),
      (.finalOfferPrice, numberCell (numeric (field "OfferPrice"))),
      (.boardLot, numberCell (integer (field "BoardLot"))),
      (.entryFee, textCell (text (field "Application_Amt"))),
      (.parValue, textCell (text (field "Par"))),
      (.publicOfferShares, numberCell (numeric (field "PublicOfferedAmt"))),
      (.placingShares, numberCell (numeric (field "PlacingAmt"))),
      (.internationalOfferShares, numberCell (numeric (field "GlobalOfferedAmt"))),
      (.preferentialOfferShares, numberCell (numeric (field "ReservedAmt"))),
      (.newShares, numberCell (numeric (field "NewIssueAmt"))),
      (.saleShares, numberCell (numeric (field "SaleShareAmt"))),
      (.overAllotmentShares, numberCell (numeric (field "OverAllotmentAmt"))),
      (.totalOfferShares, numberCell (numeric (field "TotalShareAmt"))),
      (.marketCapTextEn, textCell (text (field "EngMarketCap"))),
      (.marketCapTextZhHant, textCell (text (field "ChiMarketCap"))),
      (.marketCapTextZhHans, textCell (text (field "SimMarketCap"))),
      (.fundsRaisedTextEn, textCell (text (field "EngFundsRaised"))),
      (.fundsRaisedTextZhHant, textCell (text (field "ChiFundsRaised"))),
      (.fundsRaisedTextZhHans, textCell (text (field "SimFundsRaised"))),
      (.netProceedsTextEn, textCell (text (field "EngNet_Proceed"))),
      (.netProceedsTextZhHant, textCell (text (field "ChiNet_Proceed"))),
      (.netProceedsTextZhHans, textCell (text (field "SimNet_Proceed"))),
      (.oneLotSuccessRate, numberCell (numeric (field "SuccessRate"))),
      (.overSubscriptionMultiple, numberCell (numeric (field "SubscriptionRate"))),
      (.clawbackType, clawbackType platform (field "ClawbackType")),
      (.lockupEndDate, textCell (accessDate (field "LockUpEndDate"))),
      (.eprospectusUrl, textCell (text (field "eProspectus"))),
      (.eipoUrl, textCell (text (field "eIPO_Link"))),
      (.contact, some (.fields
        [("email", text (field "Email")), ("fax", text (field "Fax")),
          ("tel", text (field "Tel")), ("website", text (field "WebSite"))]))] ++
      versionColumns platform request "CompanySummary" sourceRecordId)

def offeringRecords : List StoredRow :=
  let infoByOffering := byOfferingId (request.bundle.rows "NewIPOInfo")
  (request.rows "CompanySummary").filterMap fun (row, index) =>
    match text (row.field "Code"), accessDate (row.field "ListingDate") with
    | some code, some listingDate =>
      let offeringId := joined [code, listingDate]
      some (offeringRecord platform request row
        ((InsertionMap.get infoByOffering offeringId).getD []) index offeringId code listingDate)
    | _, _ => none

section Parts

def narrativeSections : List (String × String × String × String) :=
  [("business_overview", "EngBusinessOverview", "ChiBusinessOverview", "SimBusinessOverview"),
    ("future_plans", "EngFurturePlan", "ChiFurturePlan", "SimFurturePlan"),
    ("use_of_proceeds", "EngUProceed", "ChiUProceed", "SimUProceed"),
    ("risk_factors", "EngRiskFactor", "ChiRiskFactor", "SimRiskFactor"),
    ("competitive_strengths", "EngCompStrength", "ChiCompStrength", "SimCompStrength"),
    ("sponsor_summary", "EngSponsorName", "ChiSponsorName", "SimSponsorName")]

def offeringRows (tableName : String) (records : SourceRow → JsText → JsText → List StoredRow) :
    List StoredRow :=
  (request.rows tableName).flatMap fun (row, index) =>
    match offeringIdFor row with
    | some offeringId =>
      records row offeringId (sourceRecordIdFor (tableSpec tableName) row index)
    | none => []

def narrativeRecord (offeringId sourceRecordId : JsText) (sectionKey lang : String) (raw : JsText) :
    StoredRow :=
  let html := platform.sanitizeHtml raw
  columns
    ([(.ipoNarrativeId, some (.text (stableId platform "ipo_narrative"
        [request.dataVersion, offeringId, ofString sectionKey, ofString lang]))),
      (.offeringId, some (.text offeringId)),
      (.sectionKey, asText sectionKey),
      (.lang, asText lang),
      (.contentHtml, some (.text html)),
      (.contentText, some (.text (platform.htmlToText html))),
      (.sanitizerVersion, sanitizerVersion)] ++
      versionColumns platform request "NewIPOInfo" sourceRecordId)

def narrativeRecords : List StoredRow :=
  offeringRows request "NewIPOInfo" fun row offeringId sourceRecordId =>
    narrativeSections.flatMap fun (sectionKey, enField, zhHantField, zhHansField) =>
      [("en", enField), ("zh_hant", zhHantField), ("zh_hans", zhHansField)].filterMap
        fun (lang, field) =>
          (text (row.field field)).map
            (narrativeRecord platform request offeringId sourceRecordId sectionKey lang)

/-- `String(index).padStart(2, "0")` for the indices below 24. -/
def eventSuffixes : List String :=
  ["00", "01", "02", "03", "04", "05", "06", "07", "08", "09", "10", "11", "12", "13", "14", "15",
    "16", "17", "18", "19", "20", "21", "22", "23"]

def eventCodes : List (String × Option String) :=
  ("GM_TradeDate", none) :: eventSuffixes.map fun suffix => ("ETDate" ++ suffix, some suffix)

def eventType : String → String
  | "ETDate00" => "application_start"
  | "ETDate05" => "application_end"
  | "ETDate06" => "application_end"
  | "ETDate08" => "pricing"
  | "ETDate13" => "listing"
  | "GM_TradeDate" => "grey_market"
  | _ => "market_event"

variable (row : SourceRow)

def eventTitle (eventCode : String) (suffix : Option String) (language greyMarket : String) :
    Option Cell :=
  match suffix with
  | none => asText greyMarket
  | some suffix =>
    some (.text ((text (row.field (language ++ "Title" ++ suffix))).getD
      (ofString eventCode)))

def timetableEventRecord (offeringId sourceRecordId : JsText) (eventCode : String)
    (suffix : Option String) (eventDate : JsText) : StoredRow :=
  columns
    ([(.ipoTimetableEventId, some (.text (stableId platform "ipo_timetable_event"
        [request.dataVersion, offeringId, ofString eventCode]))),
      (.offeringId, some (.text offeringId)),
      (.eventCode, asText eventCode),
      (.eventAt, textCell (accessTimestamp (row.field eventCode))),
      (.eventDate, some (.text eventDate)),
      (.hasTime, some (.flag (hasTime (row.field eventCode)))),
      (.eventType, asText (eventType eventCode)),
      (.titleEn, eventTitle row eventCode suffix "Eng" "Grey market trading"),
      (.titleZhHant, eventTitle row eventCode suffix "Chi" "暗盤交易"),
      (.titleZhHans, eventTitle row eventCode suffix "Sim" "暗盘交易")] ++
      versionColumns platform request "ExpectedTimetable" sourceRecordId)

def timetableEventRecords : List StoredRow :=
  offeringRows request "ExpectedTimetable" fun row offeringId sourceRecordId =>
    eventCodes.filterMap fun (eventCode, suffix) =>
      (accessDate (row.field eventCode)).map
        (timetableEventRecord platform request row offeringId sourceRecordId eventCode suffix)

def offerStatMetrics : List (String × String × String × String) :=
  [("pre_pat", "EngPrePATStr", "ChiPrePATStr", "SimPrePATStr"),
    ("pre_avg_eps", "EngPreAvgEPSStr", "ChiPreAvgEPSStr", "SimPreAvgEPSStr"),
    ("pre_eps", "EngPreEPSStr", "ChiPreEPSStr", "SimPreEPSStr"),
    ("pre_avg_pe", "EngPreAvgPEStr", "ChiPreAvgPEStr", "SimPreAvgPEStr"),
    ("pre_pe", "EngPrePEStr", "ChiPrePEStr", "SimPrePEStr"),
    ("pre_yield", "EngPreYieldStr", "ChiPreYieldStr", "SimPreYieldStr")]

def offerStatisticRecord (offeringId sourceRecordId : JsText)
    (metricKey enField zhHantField zhHansField : String) : StoredRow :=
  let report := reportType platform (row.field "ReportType")
  columns
    ([(.ipoOfferStatisticId, some (.text (stableId platform "ipo_offer_statistic"
        [request.dataVersion, offeringId, report, ofString metricKey]))),
      (.offeringId, some (.text offeringId)),
      (.reportType, some (.text report)),
      (.metricKey, asText metricKey),
      (.valueEn, textCell (text (row.field enField))),
      (.valueZhHant, textCell (text (row.field zhHantField))),
      (.valueZhHans, textCell (text (row.field zhHansField))),
      (.forwardLooking, some (.flag true))] ++
      versionColumns platform request "OfferStatistics" sourceRecordId)

def offerStatisticRecords : List StoredRow :=
  offeringRows request "OfferStatistics" fun row offeringId sourceRecordId =>
    offerStatMetrics.filterMap fun (metricKey, enField, zhHantField, zhHansField) =>
      if (text (row.field enField)).isNone ∧ (text (row.field zhHantField)).isNone ∧
          (text (row.field zhHansField)).isNone then
        none
      else
        some (offerStatisticRecord platform request row offeringId sourceRecordId metricKey
          enField zhHantField zhHansField)

def cornerstoneRecords : List StoredRow :=
  offeringRows request "CSI_Info" fun row offeringId sourceRecordId =>
    [columns
      ([(.ipoCornerstoneId, some (.text (stableId platform "ipo_cornerstone"
          [request.dataVersion, sourceRecordId]))),
        (.offeringId, some (.text offeringId)),
        (.investorNameEn, textCell (text (row.field "CSI_EngName"))),
        (.investorNameZhHant, textCell (text (row.field "CSI_ChiName"))),
        (.investorNameZhHans, textCell (text (row.field "CSI_SimName"))),
        (.investCurrencyCode, textCell (text (row.field "Invest_Currency"))),
        (.investAmount, numberCell (numeric (row.field "Invest_Amt"))),
        (.maxSubscribedShares, numberCell (numeric (row.field "SubShare_High"))),
        (.finalSubscribedShares, numberCell (numeric (row.field "SubShare_Final"))),
        (.offerSharePct, numberCell ((numeric (row.field "SubShare_FinalPer_OS")).or
          (numeric (row.field "SubShare_HighPer_OS")))),
        (.issuedSharePct, numberCell ((numeric (row.field "SubShare_FinalPer_IS")).or
          (numeric (row.field "SubShare_HighPer_IS")))),
        (.lockupPeriodText, textCell (accessDate (row.field "CSI_LockUpExpDate"))),
        (.profileEn, textCell (text (row.field "CSI_EngProfile"))),
        (.profileZhHant, textCell (text (row.field "CSI_ChiProfile"))),
        (.profileZhHans, textCell (text (row.field "CSI_SimProfile")))] ++
        versionColumns platform request "CSI_Info" sourceRecordId)]

def allotmentSummaryRecords : List StoredRow :=
  offeringRows request "AllotmentSummary" fun row offeringId sourceRecordId =>
    [columns
      ([(.offeringId, some (.text offeringId)),
        (.finalOfferPriceTextEn, textCell (text (row.field "EngPreOfferPriceStr"))),
        (.finalOfferPriceTextZhHant, textCell (text (row.field "ChiPreOfferPriceStr"))),
        (.finalOfferPriceTextZhHans, textCell (text (row.field "SimPreOfferPriceStr"))),
        (.validApplicationCount, numberCell (integer (row.field "App_Count"))),
        (.appliedShares, numberCell (numeric (row.field "TotalShare_Applied"))),
        (.appliedAmountTextEn, textCell (text (row.field "TotalAmount_Application"))),
        (.appliedAmountTextZhHant, textCell (text (row.field "TotalAmount_Application"))),
        (.appliedAmountTextZhHans, textCell (text (row.field "TotalAmount_Application"))),
        (.overSubscriptionMultiple, numberCell (numeric (row.field "SubscriptionRate"))),
        (.oneLotSuccessRate, numberCell (numeric (row.field "SuccessRate"))),
        (.oneLotGuarantee, textCell (text (row.field "One_Lot_Guard_Lot"))),
        (.maximumApplicationText, textCell (text (row.field "Max_Share_App_No"))),
        (.cornerstoneTotalText, textCell (text (row.field "Invest_Amt_CSI"))),
        (.resultUrl, textCell (text (row.field "AllotmentResultLink")))] ++
        versionColumns platform request "AllotmentSummary" sourceRecordId)]

def linkedOfferingId : Option JsText :=
  let knownOfferingIds := (request.bundle.rows "CompanySummary").filterMap offeringIdFor
  match text (row.field "ListCode"), accessDate (row.field "ListDate") with
  | some code, some listDate =>
    if joined [code, listDate] ∈ knownOfferingIds then some (joined [code, listDate]) else none
  | _, _ => none

def pipelineApplicationRecords : List StoredRow :=
  (request.rows "Plan_Info").filterMap fun (row, index) =>
    (text (row.field "AppCode")).map fun appCode =>
      columns
        ([(.appCode, some (.text appCode)),
          (.publishDate, textCell (accessDate (row.field "PostDate"))),
          (.phipDate, textCell (accessDate (row.field "PHIPDate"))),
          (.market, listMarket (row.field "ListMarket")),
          (.pipelineStatus, pipelineStatus platform (row.field "Status")),
          (.nameEn, textCell (text (row.field "EngName"))),
          (.nameZhHant, textCell (text (row.field "ChiName"))),
          (.nameZhHans, textCell (text (row.field "SimName"))),
          (.sectorCode, textCell (text (row.field "SectorCode"))),
          (.industryCode, textCell (text (row.field "IndustryCode"))),
          (.sponsorEn, textCell (text (row.field "EngSponsorName"))),
          (.sponsorZhHant, textCell (text (row.field "ChiSponsorName"))),
          (.sponsorZhHans, textCell (text (row.field "SimSponsorName"))),
          (.businessOverviewEn, textCell (text (row.field "AppBOEngText"))),
          (.businessOverviewZhHant, textCell (text (row.field "AppBOChiText"))),
          (.businessOverviewZhHans, textCell (text (row.field "AppBOSimText"))),
          (.listCode, textCell (text (row.field "ListCode"))),
          (.listDate, textCell (accessDate (row.field "ListDate"))),
          (.offeringId, textCell (linkedOfferingId request row))] ++
          versionColumns platform request "Plan_Info"
            (sourceRecordIdFor (tableSpec "Plan_Info") row index))

end Parts

end Aiphabee.IpoIngest
