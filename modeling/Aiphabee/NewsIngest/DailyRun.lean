import Aiphabee.NewsIngest.Tables

/-!
# Daily and resumed runs

A run takes the lock of its business date, marks its crawl as running, crawls,
and then transforms the report in one transaction: it writes the documents,
removes what the data version holds of other documents, and writes the links and
the held facts.  A statement that the database refuses rolls the transaction
back.  Whether a run gets the lock, and where else it fails, is given, as are
the clock and what the queries for offerings and applications find.
-/

namespace Aiphabee.NewsIngest

open UniqueTable (Entry Table Merge)
open SandboxAuth (JsonValue)

/-- The ids of a business date that the tables hold. -/
structure Ids where
  runId : JsText
  dataVersion : JsText
  sourceBatchId : JsText

def idsForBusinessDate (businessDate : JsText) : Ids :=
  let compactDate := businessDate.filter (· ≠ 45)
  { runId := text "cr_hkex_news_" ++ compactDate
    dataVersion := text "dv_hkex_news_" ++ compactDate
    sourceBatchId := text "rsb_hkex_news_" ++ compactDate }

def extractorName : JsText := text "hkex-news-metadata-extractor"
def extractorVersion : JsText := text "2026-06-27.metadata-facts.v0"
def transformVersion : JsText := text "2026-06-27.pending-fact-transform.v0"

variable (platform : Platform)

def extractionRunIdFor (ids : Ids) (document : Document) : JsText :=
  hashId platform "hker_"
    (colons [ids.dataVersion, document.documentId, document.contentHash, extractorVersion])

def transformRunIdFor (ids : Ids) : JsText :=
  hashId platform "hktr_" (colons [ids.dataVersion, transformVersion])

structure FactField where
  confidence : ℚ
  field : String
  lang : Lang
  value : Option JsText
  valueType : ValueType

def factFields (document : Document) : List FactField :=
  [{ confidence := 90 / 100, field := "source_record_id", lang := .unknown
     value := some document.sourceRecordId, valueType := .text },
    { confidence := 82 / 100, field := "category", lang := .unknown
      value := document.category, valueType := .text },
    { confidence := 86 / 100, field := "title_en", lang := .en
      value := document.titleEn, valueType := .text },
    { confidence := 90 / 100, field := "hkex_code", lang := .unknown
      value := document.hkexCode, valueType := .text },
    { confidence := 88 / 100, field := "published_at", lang := .unknown
      value := document.publishedAt, valueType := .timestamp },
    { confidence := 95 / 100, field := "document_url", lang := .unknown
      value := some document.documentUrl, valueType := .text }]

def locatorOf (document : Document) (field : String) : JsonValue :=
  .object [(text "canonical_url", .string document.canonicalUrl),
    (text "document_id", .string document.documentId),
    (text "field", .string (text field)),
    (text "result_rank", .number document.resultRank),
    (text "source_record_id", .string document.sourceRecordId),
    (text "source_surface", .string document.sourceSurface)]

def factKeyFor (ids : Ids) (document : Document) (field : String) : FactKey where
  documentId := document.documentId
  factKey := text "document." ++ text field
  locatorHash := platform.stableHash (platform.jsonText (locatorOf document field))
  dataVersion := ids.dataVersion

def factOf (ids : Ids) (document : Document) (link : EntityLink) (field : FactField)
    (value : JsText) : Entry JsText ExtractedFact :=
  let key := factKeyFor platform ids document field.field
  { id := hashId platform "hkef_"
      (colons [key.documentId, key.factKey, key.locatorHash, key.dataVersion])
    row := {
      extractionRunId := extractionRunIdFor platform ids document
      documentId := key.documentId
      offeringId := link.offeringId
      appCode := link.appCode
      factNamespace := sourceName
      factKey := key.factKey
      value := {
        valueType := field.valueType
        valueText := if field.valueType = .text then some value else none
        valueNumeric := none
        valueDate := none
        valueTimestamptz := if field.valueType = .timestamp then some value else none
        valueBoolean := none
        valueJson := .object [(text "extraction_source", .string extractorName),
          (text "field", .string (text field.field)), (text "value", .string value)]
        unit := none
        currency := none }
      lang := field.lang
      locator := locatorOf document field.field
      locatorHash := key.locatorHash
      confidence := field.confidence
      reviewState := .pending
      rawSnapshotId := document.rawSnapshotId
      dataVersion := key.dataVersion
      qualityState := .hold } }

def extractedFactsForDocument (ids : Ids) (document : Document) (link : EntityLink) :
    List (Entry JsText ExtractedFact) :=
  (factFields document).filterMap fun field =>
    match field.value with
    | none | some [] => none
    | some value => some (factOf platform ids document link field value)

def linkForDocument (ids : Ids) (document : Document) (link : EntityLink) :
    Option (Entry JsText SourceDocumentLink) :=
  let linkType := classifyDocumentLinkType platform document
  if link.isLinked then
    some {
      id := hashId platform "iposdl_"
        (colons [document.documentId, linkType.text, ids.dataVersion])
      row := {
        offeringId := link.offeringId
        appCode := link.appCode
        documentId := document.documentId
        linkType
        confidence := link.confidence
        matchedBy := link.matchedBy.getD []
        dataVersion := ids.dataVersion } }
  else
    none

def observationOf (ids : Ids) (document : Document) (isChanged : Bool) :
    Entry JsText DocumentObservation where
  id := document.observationId
  row := {
    documentId := document.documentId
    crawlRunId := ids.runId
    rawSnapshotId := document.rawSnapshotId
    dataVersion := ids.dataVersion
    sourceSurface := document.sourceSurface
    sourcePageUrl := document.sourcePageUrl
    resultRank := document.resultRank
    httpStatus := document.httpStatus
    observedContentHash := document.contentHash
    isChanged }

variable (db : Database)

def upsertRawSnapshot (ids : Ids) (document : Document) : Option Database := do
  let rawSnapshots ← db.rawSnapshots.upsert mergeRawSnapshot {
    id := document.rawSnapshotId
    row := {
      sourceBatchId := ids.sourceBatchId
      sourceRecordId := document.sourceRecordId
      payload := document.rawPayload
      payloadHash := document.payloadHash
      qualityState := .hold
      dataVersion := ids.dataVersion } }
  some { db with rawSnapshots }

/-- `upsertDocument`: no other document may have the URL. -/
def upsertDocument (document : Document) : Option Database := do
  let row : DocumentRow := {
    sourceRecordId := document.sourceRecordId
    canonicalUrl := document.canonicalUrl
    latestContentHash := document.contentHash }
  if db.documents.rows.any fun other =>
      other.canonicalUrl = row.canonicalUrl && other.sourceRecordId ≠ row.sourceRecordId then
    none
  else
    let documents ← db.documents.upsert mergeDocument { id := document.documentId, row }
    some { db with documents }

def upsertDocumentObservation (ids : Ids) (document : Document) (isChanged : Bool) :
    Option Database := do
  let observation := observationOf ids document isChanged
  if observation.row.passesChecks then
    let observations ← db.observations.upsert mergeObservation observation
    some { db with observations }
  else
    none

/-- The document differs from what was last seen of it. -/
def contentChanged (document : Document) : Bool :=
  (db.documents.find document.sourceRecordId).map DocumentRow.latestContentHash ≠
    some document.contentHash

def persistScrapyDocuments (ids : Ids) :
    Database → List Document → Option (Database × Nat)
  | db, [] => some (db, 0)
  | db, document :: rest => do
      let isChanged := contentChanged db document
      let kept ← upsertRawSnapshot db ids document
      let seen ← upsertDocument kept document
      let observed ← upsertDocumentObservation seen ids document isChanged
      let (after, changed) ← persistScrapyDocuments ids observed rest
      some (after, changed + if isChanged then 1 else 0)

def keepsFact (ids : Ids) (documentIds : List JsText) (fact : ExtractedFact) : Bool :=
  !(fact.dataVersion = ids.dataVersion && fact.factNamespace = sourceName && fact.isHeld &&
    !documentIds.contains fact.documentId)

def keepsLink (ids : Ids) (documentIds : List JsText) (link : SourceDocumentLink) : Bool :=
  !(link.dataVersion = ids.dataVersion && link.isAuto && !documentIds.contains link.documentId)

def keepsExtractionRun (ids : Ids) (documentIds : List JsText) (facts : List ExtractedFact)
    (run : ExtractionRun) : Bool :=
  !(run.dataVersion = ids.dataVersion && run.extractorName = extractorName &&
    !documentIds.contains run.documentId &&
    !facts.any fun fact => fact.extractionRunId = run.extractionRunId)

def keepsObservation (ids : Ids) (documentIds : List JsText) (observation : DocumentObservation) :
    Bool :=
  !(observation.crawlRunId = ids.runId && observation.dataVersion = ids.dataVersion &&
    !documentIds.contains observation.documentId)

def reconcileCurrentRunScope (ids : Ids) (documents : List Document) : Database × Reconciliation :=
  let documentIds := (documents.map Document.documentId).eraseDups
  let facts := db.facts.keep (keepsFact ids documentIds)
  let links := db.links.keep (keepsLink ids documentIds)
  let extractionRuns := db.extractionRuns.keep (keepsExtractionRun ids documentIds facts.rows)
  let observations := db.observations.keep (keepsObservation ids documentIds)
  ({ db with facts, links, extractionRuns, observations },
    { currentDocumentCount := documentIds.length
      removedExtractionRuns := db.extractionRuns.entries.length - extractionRuns.entries.length
      removedFacts := db.facts.entries.length - facts.entries.length
      removedLinks := db.links.entries.length - links.entries.length
      removedObservations := db.observations.entries.length - observations.entries.length })

def upsertIpoSourceDocumentLink (links : Table JsText SourceDocumentLink.key)
    (link : Entry JsText SourceDocumentLink) : Option (Table JsText SourceDocumentLink.key) :=
  (links.keep fun other =>
    !(other.documentId = link.row.documentId && other.dataVersion = link.row.dataVersion &&
      other.linkType ≠ link.row.linkType && other.isAuto)).upsert mergeLink link

def writeLink (links : Table JsText SourceDocumentLink.key) :
    Option (Entry JsText SourceDocumentLink) → Option (Table JsText SourceDocumentLink.key)
  | some link => upsertIpoSourceDocumentLink links link
  | none => some links

def upsertExtractionRun (platform : Platform) (ids : Ids)
    (runs : Table JsText ExtractionRun.extractionRunId) (document : Document) :
    Option (Table JsText ExtractionRun.extractionRunId) :=
  let extractionRunId := extractionRunIdFor platform ids document
  runs.upsert mergeExtractionRun {
    id := extractionRunId
    row := {
      extractionRunId
      documentId := document.documentId
      contentId := document.contentId
      extractorName
      extractorVersion
      dataVersion := ids.dataVersion } }

/-- What the pipeline counts. -/
structure HeldFacts where
  documentsExtracted : Nat
  factsExtracted : Nat
  linkedDocuments : Nat

def runHeldFactDocument (platform : Platform) (ids : Ids) (answers : EntityAnswers) (db : Database)
    (document : Document) : Option Database := do
  let link := resolveIpoEntityLink answers document
  let links ← writeLink db.links (linkForDocument platform ids document link)
  let extractionRuns ← upsertExtractionRun platform ids db.extractionRuns document
  let facts ← db.facts.upsertAll mergeFact (extractedFactsForDocument platform ids document link)
  some { db with links, extractionRuns, facts }

def runHeldFactDocuments (platform : Platform) (ids : Ids) (answers : EntityAnswers) :
    Database → HeldFacts → List Document → Option (Database × HeldFacts)
  | db, counts, [] => some (db, counts)
  | db, counts, document :: rest => do
      let link := resolveIpoEntityLink answers document
      let next ← runHeldFactDocument platform ids answers db document
      runHeldFactDocuments platform ids answers next
        { documentsExtracted := counts.documentsExtracted + 1
          factsExtracted := counts.factsExtracted +
            (extractedFactsForDocument platform ids document link).length
          linkedDocuments := counts.linkedDocuments + if link.isLinked then 1 else 0 }
        rest

def upsertTransformRun (platform : Platform) (ids : Ids) (now : Int) (db : Database)
    (heldFacts : HeldFacts) (reconciliation : Reconciliation) : Option Database := do
  let transformRunId := transformRunIdFor platform ids
  let transformRuns ← db.transformRuns.upsert mergeTransformRun {
    id := transformRunId
    row := {
      transformRunId
      dataVersion := ids.dataVersion
      completedAt := some now
      status := .completed
      validationReport := {
        candidateFactCount := some heldFacts.factsExtracted
        currentDocumentCount := some reconciliation.currentDocumentCount
        documentCount := some heldFacts.documentsExtracted
        linkedDocumentCount := some heldFacts.linkedDocuments
        reconciliation := some reconciliation } } }
  some { db with transformRuns }

def runHeldFactPipeline (platform : Platform) (ids : Ids) (answers : EntityAnswers) (now : Int)
    (db : Database) (documents : List Document) (reconciliation : Reconciliation) :
    Option Database := do
  let (written, heldFacts) ← runHeldFactDocuments platform ids answers db
    { documentsExtracted := 0, factsExtracted := 0, linkedDocuments := 0 } documents
  upsertTransformRun platform ids now written heldFacts reconciliation

structure CrawlCounts where
  discovered : Nat
  fetched : Nat
  changed : Nat
  errors : Nat

def upsertCrawlRun (ids : Ids) (now : Int) (db : Database) (status : RunStatus)
    (counts : CrawlCounts) : Option Database := do
  let crawlRuns ← db.crawlRuns.upsert mergeCrawlRun {
    id := ids.runId
    row := {
      crawlRunId := ids.runId
      status
      startedAt := now
      completedAt := if status = .completed then some now else none
      discoveredCount := counts.discovered
      fetchedCount := counts.fetched
      changedCount := counts.changed
      errorCount := counts.errors
      dataVersion := ids.dataVersion } }
  some { db with crawlRuns }

def markFailed (runs : Table JsText CrawlRun.crawlRunId) (now : Int) (condition : CrawlRun → Bool) :
    Table JsText CrawlRun.crawlRunId where
  entries := runs.entries.map fun entry =>
    if condition entry.row then
      { entry with row := { entry.row with
          status := .failed, completedAt := some now, errorCount := entry.row.errorCount + 1 } }
    else
      entry
  distinctIds := by
    rw [List.map_map]
    convert runs.distinctIds using 2
    funext entry
    simp only [Function.comp_apply]
    split <;> rfl
  distinctKeys := by
    rw [List.map_map]
    convert runs.distinctKeys using 2
    funext entry
    simp only [Function.comp_apply]
    split <;> rfl

def millisecondsPerMinute : Int := 60000

def staleRunningRunMinutes : Int := 15

def markStaleRunningRunFailed (ids : Ids) (now : Int) : Database :=
  { db with
    crawlRuns := markFailed db.crawlRuns now fun run =>
      run.crawlRunId = ids.runId && run.dataVersion = ids.dataVersion && run.status = .running &&
        run.startedAt < now - staleRunningRunMinutes * millisecondsPerMinute }

def markCrawlFailed (ids : Ids) (now : Int) : Database :=
  { db with crawlRuns := markFailed db.crawlRuns now fun run => run.crawlRunId = ids.runId }

def upsertDataVersion (ids : Ids) : Option Database := do
  let dataVersions ← db.dataVersions.upsert mergeDataVersion {
    id := ids.dataVersion
    row := { dataVersion := ids.dataVersion, releaseState := .held } }
  some { db with dataVersions }

structure DailyRun where
  businessDate : JsText
  /-- Another run holds the lock of the date. -/
  locked : Bool
  /-- The database fails before the crawl. -/
  startFails : Bool
  crawlFails : Bool
  items : List JsonValue
  malformed : Nat
  answers : EntityAnswers
  /-- The database fails in the transaction of the report. -/
  transformFails : Bool
  startedAt : Int
  completedAt : Int

inductive RunOutcome
  | skippedLocked
  | notMutable
  | failed
  | crawlFailed
  | committed
deriving DecidableEq

def DailyRun.ids (run : DailyRun) : Ids :=
  idsForBusinessDate run.businessDate

def DailyRun.documents (platform : Platform) (run : DailyRun) : List Document :=
  documentsOf platform run.items

/-- The transaction in front of the crawl. -/
def startRun (run : DailyRun) : Option Database := do
  let versioned ← upsertDataVersion db run.ids
  upsertCrawlRun run.ids run.startedAt (markStaleRunningRunFailed versioned run.ids run.startedAt)
    .running { discovered := 0, fetched := 0, changed := 0, errors := 0 }

def transformReport (platform : Platform) (db : Database) (run : DailyRun) : Option Database := do
  let documents := run.documents platform
  let (persisted, changed) ← persistScrapyDocuments run.ids db documents
  let (reconciled, reconciliation) := reconcileCurrentRunScope persisted run.ids documents
  let piped ← runHeldFactPipeline platform run.ids run.answers run.completedAt reconciled documents
    reconciliation
  upsertCrawlRun run.ids run.completedAt piped .completed {
    discovered := run.items.length + run.malformed
    fetched := documents.length
    changed
    errors := 0 }

/-- `runHkexDaily`. -/
def runHkexDaily (platform : Platform) (db : Database) (run : DailyRun) : Database × RunOutcome :=
  if run.locked then
    (db, .skippedLocked)
  else if (db.dataVersions.find run.ids.dataVersion).any fun row => row.releaseState ≠ .held then
    (db, .notMutable)
  else if run.startFails then
    (db, .failed)
  else
    match startRun db run with
    | none => (db, .failed)
    | some started =>
      if run.crawlFails then
        (markCrawlFailed started run.ids run.completedAt, .crawlFailed)
      else if run.transformFails then
        (started, .failed)
      else
        match transformReport platform started run with
        | none => (started, .failed)
        | some after => (after, .committed)

/-- A run of a sequence, with the databases before and after it and what came of it. -/
structure RunStep where
  run : DailyRun
  before : Database
  after : Database
  outcome : RunOutcome

def runsFrom (platform : Platform) :
    Database → List DailyRun → List RunStep
  | _, [] => []
  | db, run :: rest =>
    let result := runHkexDaily platform db run
    { run, before := db, after := result.1, outcome := result.2 } ::
      runsFrom platform result.1 rest

end Aiphabee.NewsIngest
