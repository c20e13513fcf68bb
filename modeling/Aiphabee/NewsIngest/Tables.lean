import Aiphabee.NewsIngest.Documents
import Aiphabee.Store.UniqueTable

/-!
# Tables of the ingest

The tables that the ingest writes and validates, with the keys that its upserts
conflict on and what a conflict keeps of the old row, and the validation state
that is read from them.
-/

namespace Aiphabee.NewsIngest

open UniqueTable (Entry Table Merge)
open SandboxAuth (JsonValue)

inductive ReviewState
  | pending
  | accepted
  | rejected
  | superseded
deriving DecidableEq

inductive QualityState
  | pass
  | warn
  | hold
  | rejectRaw
deriving DecidableEq

inductive ReleaseState
  | held
  | released
  | withdrawn
deriving DecidableEq

inductive RunStatus
  | running
  | completed
  | failed
  | cancelled
deriving DecidableEq

inductive ValueType
  | text
  | numeric
  | date
  | timestamp
  | boolean
  | json
deriving DecidableEq

inductive Lang
  | en
  | zhHant
  | zhHans
  | unknown

structure FactValue where
  valueType : ValueType
  valueText : Option JsText
  valueNumeric : Option ℚ
  valueDate : Option JsText
  valueTimestamptz : Option JsText
  valueBoolean : Option Bool
  valueJson : JsonValue
  unit : Option JsText
  currency : Option JsText

/-- A row of `hkex_news_extracted_fact`. -/
structure ExtractedFact where
  extractionRunId : JsText
  documentId : JsText
  offeringId : Option JsText
  appCode : Option JsText
  factNamespace : JsText
  factKey : JsText
  value : FactValue
  lang : Lang
  locator : JsonValue
  locatorHash : JsText
  confidence : ℚ
  reviewState : ReviewState
  rawSnapshotId : JsText
  dataVersion : JsText
  qualityState : QualityState

structure FactKey where
  documentId : JsText
  factKey : JsText
  locatorHash : JsText
  dataVersion : JsText
deriving DecidableEq

def ExtractedFact.key (fact : ExtractedFact) : FactKey where
  documentId := fact.documentId
  factKey := fact.factKey
  locatorHash := fact.locatorHash
  dataVersion := fact.dataVersion

/-- The fact waits for a review: `review_state = 'pending' and quality_state = 'HOLD'`. -/
def ExtractedFact.isHeld (fact : ExtractedFact) : Bool :=
  fact.reviewState = .pending && fact.qualityState = .hold

def mergeFact : Merge ExtractedFact.key where
  apply old new := { new with factNamespace := old.factNamespace }
  keeps _ _ h := h.symm

/-- A row of `ipo_source_document_link`. -/
structure SourceDocumentLink where
  offeringId : Option JsText
  appCode : Option JsText
  documentId : JsText
  linkType : LinkType
  confidence : Option ℚ
  matchedBy : JsText
  dataVersion : JsText

def SourceDocumentLink.key (link : SourceDocumentLink) : JsText × LinkType × JsText :=
  (link.documentId, link.linkType, link.dataVersion)

/-- `AUTO_IPO_LINK_MATCHED_BY`. -/
def autoIpoLinkMatchedBy : List JsText :=
  ["hkex_code", "hkex_code:application", "hkex_code:offering",
    "hkex_code:offering_application"].map text

def SourceDocumentLink.isAuto (link : SourceDocumentLink) : Bool :=
  autoIpoLinkMatchedBy.contains link.matchedBy

def mergeLink : Merge SourceDocumentLink.key where
  apply _ new := new
  keeps _ _ h := h.symm

/-- A row of `hkex_news_document_observation`. -/
structure DocumentObservation where
  documentId : JsText
  crawlRunId : JsText
  rawSnapshotId : JsText
  dataVersion : JsText
  sourceSurface : JsText
  sourcePageUrl : JsText
  resultRank : JsNumber
  httpStatus : Option JsNumber
  observedContentHash : JsText
  isChanged : Bool

def DocumentObservation.key (observation : DocumentObservation) : JsText × JsText × JsText :=
  (observation.documentId, observation.crawlRunId, observation.sourcePageUrl)

def mergeObservation : Merge DocumentObservation.key where
  apply old new :=
    { new with dataVersion := old.dataVersion, sourceSurface := old.sourceSurface }
  keeps _ _ h := h.symm

def isIntegerIn (low high : Int) : JsNumber → Bool
  | .finite value => value.den = 1 && low ≤ value.num && value.num ≤ high
  | _ => false

def DocumentObservation.passesChecks (observation : DocumentObservation) : Bool :=
  isIntegerIn 0 2147483647 observation.resultRank &&
    observation.httpStatus.all fun status => isIntegerIn 100 599 status

/-- A row of `raw_snapshot`. -/
structure RawSnapshot where
  sourceBatchId : JsText
  sourceRecordId : JsText
  payload : JsonValue
  payloadHash : JsText
  qualityState : QualityState
  dataVersion : JsText

def RawSnapshot.key (snapshot : RawSnapshot) : JsText × JsText :=
  (snapshot.sourceBatchId, snapshot.sourceRecordId)

def mergeRawSnapshot : Merge RawSnapshot.key where
  apply _ new := new
  keeps _ _ h := h.symm

/-- A row of `hkex_news_document`. -/
structure DocumentRow where
  sourceRecordId : JsText
  canonicalUrl : JsText
  latestContentHash : JsText

def mergeDocument : Merge DocumentRow.sourceRecordId where
  apply _ new := new
  keeps _ _ h := h.symm

/-- A row of `hkex_news_extraction_run`. -/
structure ExtractionRun where
  extractionRunId : JsText
  documentId : JsText
  contentId : JsText
  extractorName : JsText
  extractorVersion : JsText
  dataVersion : JsText

def mergeExtractionRun : Merge ExtractionRun.extractionRunId where
  apply old new := { new with documentId := old.documentId, contentId := old.contentId }
  keeps _ _ h := h.symm

/-- A row of `data_version_batch`. -/
structure DataVersionRow where
  dataVersion : JsText
  releaseState : ReleaseState

def mergeDataVersion : Merge DataVersionRow.dataVersion where
  apply old _ := old
  keeps _ _ _ := rfl

/-- A row of `hkex_news_crawl_run`. -/
structure CrawlRun where
  crawlRunId : JsText
  status : RunStatus
  startedAt : Int
  completedAt : Option Int
  discoveredCount : Nat
  fetchedCount : Nat
  changedCount : Nat
  errorCount : Nat
  dataVersion : JsText

def mergeCrawlRun : Merge CrawlRun.crawlRunId where
  apply old new :=
    { new with
      startedAt := if new.status = .running then new.startedAt else old.startedAt
      completedAt :=
        match new.status with
        | .completed => new.completedAt
        | .running => none
        | _ => old.completedAt }
  keeps _ _ h := h.symm

structure Reconciliation where
  currentDocumentCount : Nat
  removedExtractionRuns : Nat
  removedFacts : Nat
  removedLinks : Nat
  removedObservations : Nat

structure ValidationReport where
  candidateFactCount : Option Nat
  currentDocumentCount : Option Nat
  documentCount : Option Nat
  linkedDocumentCount : Option Nat
  reconciliation : Option Reconciliation

/-- A row of `hkex_news_transform_run`. -/
structure TransformRun where
  transformRunId : JsText
  dataVersion : JsText
  completedAt : Option Int
  status : RunStatus
  validationReport : ValidationReport

def mergeTransformRun : Merge TransformRun.transformRunId where
  apply old new := { new with dataVersion := old.dataVersion }
  keeps _ _ h := h.symm

structure Database where
  dataVersions : Table JsText DataVersionRow.dataVersion
  crawlRuns : Table JsText CrawlRun.crawlRunId
  rawSnapshots : Table JsText RawSnapshot.key
  documents : Table JsText DocumentRow.sourceRecordId
  observations : Table JsText DocumentObservation.key
  extractionRuns : Table JsText ExtractionRun.extractionRunId
  links : Table JsText SourceDocumentLink.key
  facts : Table JsText ExtractedFact.key
  transformRuns : Table JsText TransformRun.transformRunId

/-- A row is before another one: the last that completed first, then the greatest id. -/
def isLater (completedAt otherCompletedAt : Option Int) (id otherId : JsText) : Bool :=
  match completedAt, otherCompletedAt with
  | some time, some otherTime => otherTime < time || (time = otherTime && otherId < id)
  | some _, none => true
  | none, some _ => false
  | none, none => otherId < id

/-- `order by completed_at desc nulls last, id desc limit 1`. -/
def latest {α : Type} (completedAt : α → Option Int) (id : α → JsText) : List α → Option α
  | [] => none
  | row :: rest =>
    match latest completedAt id rest with
    | none => some row
    | some other =>
      some (if isLater (completedAt row) (completedAt other) (id row) (id other) then row
        else other)

/-- `count(distinct document_id)` over the observations of a data version. -/
def Database.documentCount (db : Database) (dataVersion : JsText) : Nat :=
  ((db.observations.rows.filter fun row => row.dataVersion = dataVersion).map
    DocumentObservation.documentId).dedup.length

/-- `count(distinct extracted_fact_id)` over the facts of a data version in the namespace. -/
def Database.factCount (db : Database) (dataVersion : JsText) : Nat :=
  (db.facts.rows.filter fun row =>
    row.dataVersion = dataVersion && row.factNamespace = sourceName).length

/-- The state of a data version that a release is decided on. -/
structure ValidationState where
  countsMatchTransform : Bool
  documentCount : Nat
  expectedDocumentCount : Option Nat
  expectedFactCount : Option Nat
  extractedFactCount : Nat
  linkedDocumentCount : Option Nat
  reconciliation : Option Reconciliation
  transformCompleted : Bool
  pass : Bool
  releaseState : ReleaseState

def readValidationState (db : Database) (dataVersion : JsText) : Option ValidationState :=
  (db.dataVersions.find dataVersion).map fun row =>
    let crawl := latest CrawlRun.completedAt CrawlRun.crawlRunId
      (db.crawlRuns.rows.filter fun run => run.dataVersion = dataVersion)
    let transform := latest TransformRun.completedAt TransformRun.transformRunId
      (db.transformRuns.rows.filter fun run => run.dataVersion = dataVersion)
    let documentCount := db.documentCount dataVersion
    let extractedFactCount := db.factCount dataVersion
    let transformCompleted := transform.any fun run => run.status = .completed
    let expectedDocumentCount := transform.bind fun run => run.validationReport.documentCount
    let expectedFactCount := transform.bind fun run => run.validationReport.candidateFactCount
    let countsMatchTransform :=
      (expectedDocumentCount.all fun count => documentCount = count) &&
        expectedFactCount.all fun count => extractedFactCount = count
    { countsMatchTransform
      documentCount
      expectedDocumentCount
      expectedFactCount
      extractedFactCount
      linkedDocumentCount := transform.bind fun run => run.validationReport.linkedDocumentCount
      reconciliation := transform.bind fun run => run.validationReport.reconciliation
      transformCompleted
      pass :=
        row.releaseState = .held &&
          (crawl.any fun run => run.status = .completed && run.errorCount = 0) &&
          (documentCount = 0 || 0 < extractedFactCount) &&
          transformCompleted && countsMatchTransform
      releaseState := row.releaseState }

end Aiphabee.NewsIngest
