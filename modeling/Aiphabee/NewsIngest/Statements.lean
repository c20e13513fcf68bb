import Aiphabee.NewsIngest.DailyRun
import Aiphabee.Store.Transactions

/-!
# The statements of a run

The transactions of a run and of a release, statement by statement.  Each
computes what the run computes of the database (`run_startScript`,
`run_transformScript`), so that the run may be broken off after any of its
statements.
-/

namespace Aiphabee.NewsIngest

open UniqueTable (Entry Table)
open Transactions (Script)

def startScript (run : DailyRun) : Script Database :=
  .write (fun db => upsertDataVersion db run.ids) <|
  .write (fun db => some (markStaleRunningRunFailed db run.ids run.startedAt)) <|
  .write (fun db => upsertCrawlRun run.ids run.startedAt db .running
    { discovered := 0, fetched := 0, changed := 0, errors := 0 })
  .commit

theorem run_startScript (run : DailyRun) (db : Database) :
    (startScript run).run db = startRun db run := by
  simp [startScript, startRun]

def persistScript (ids : Ids) :
    List Document → (Nat → Script Database) → Script Database
  | [], next => next 0
  | document :: rest, next =>
    .read fun db =>
      let isChanged := contentChanged db document
      .write (fun db => upsertRawSnapshot db ids document) <|
      .write (fun db => upsertDocument db document) <|
      .write (fun db => upsertDocumentObservation db ids document isChanged) <|
      persistScript ids rest fun changed => next (changed + if isChanged then 1 else 0)

theorem run_persistScript (ids : Ids) (documents : List Document) (next : Nat → Script Database)
    (db : Database) :
    (persistScript ids documents next).run db =
      (persistScrapyDocuments ids db documents).bind fun (after, changed) =>
        (next changed).run after := by
  induction documents generalizing next db with
  | nil => rfl
  | cons document rest ih =>
    simp [persistScript, persistScrapyDocuments, ih, Option.bind_assoc]

/-- How many rows a delete removes. -/
def removed {α : Type} {κ : Type} {key : α → κ} (table : Table JsText key) (condition : α → Bool) :
    Nat :=
  table.entries.length - (table.keep condition).entries.length

/-- The statements of the clean-up; what they removed is passed on. -/
def reconcileScript (ids : Ids) (documents : List Document)
    (next : Reconciliation → Script Database) : Script Database :=
  let documentIds := (documents.map Document.documentId).eraseDups
  .statement (fun db => some { db with facts := db.facts.keep (keepsFact ids documentIds) })
    fun factView =>
  .statement (fun db => some { db with links := db.links.keep (keepsLink ids documentIds) })
    fun linkView =>
  .statement (fun db => some { db with
      extractionRuns :=
        db.extractionRuns.keep (keepsExtractionRun ids documentIds db.facts.rows) })
    fun runView =>
  .statement (fun db => some { db with
      observations := db.observations.keep (keepsObservation ids documentIds) })
    fun observationView =>
  next {
    currentDocumentCount := documentIds.length
    removedExtractionRuns := removed runView.extractionRuns
      (keepsExtractionRun ids documentIds runView.facts.rows)
    removedFacts := removed factView.facts (keepsFact ids documentIds)
    removedLinks := removed linkView.links (keepsLink ids documentIds)
    removedObservations := removed observationView.observations (keepsObservation ids documentIds) }

theorem run_reconcileScript (ids : Ids) (documents : List Document)
    (next : Reconciliation → Script Database) (db : Database) :
    (reconcileScript ids documents next).run db =
      (next (reconcileCurrentRunScope db ids documents).2).run
        (reconcileCurrentRunScope db ids documents).1 :=
  rfl

def linkScript (next : Script Database) :
    Option (Entry JsText SourceDocumentLink) → Script Database
  | none => next
  | some link =>
    .write (fun db => some { db with
      links := db.links.keep fun other =>
        !(other.documentId = link.row.documentId && other.dataVersion = link.row.dataVersion &&
          other.linkType ≠ link.row.linkType && other.isAuto) }) <|
    .write (fun db => (db.links.upsert mergeLink link).map fun links => { db with links }) next

theorem run_linkScript (next : Script Database) (link : Option (Entry JsText SourceDocumentLink))
    (db : Database) :
    (linkScript next link).run db =
      (writeLink db.links link).bind fun links => next.run { db with links } := by
  cases link with
  | none => rfl
  | some link => simp [linkScript, writeLink, upsertIpoSourceDocumentLink, Option.bind_map]

def factScript (next : Script Database) :
    List (Entry JsText ExtractedFact) → Script Database
  | [] => next
  | fact :: rest =>
    .write (fun db => (db.facts.upsert mergeFact fact).map fun facts => { db with facts }) <|
    factScript next rest

theorem run_factScript (next : Script Database) (facts : List (Entry JsText ExtractedFact))
    (db : Database) :
    (factScript next facts).run db =
      (db.facts.upsertAll mergeFact facts).bind fun facts => next.run { db with facts } := by
  induction facts generalizing db with
  | nil => rfl
  | cons fact rest ih =>
    simp [factScript, Table.upsertAll, ih, Option.bind_map, Option.bind_assoc]

def heldFactScript (platform : Platform) (ids : Ids) (answers : EntityAnswers)
    (next : HeldFacts → Script Database) :
    HeldFacts → List Document → Script Database
  | counts, [] => next counts
  | counts, document :: rest =>
    let link := resolveIpoEntityLink answers document
    let facts := extractedFactsForDocument platform ids document link
    linkScript
      (.write (fun db => (upsertExtractionRun platform ids db.extractionRuns document).map
          fun extractionRuns => { db with extractionRuns }) <|
        factScript
          (heldFactScript platform ids answers next
            { documentsExtracted := counts.documentsExtracted + 1
              factsExtracted := counts.factsExtracted + facts.length
              linkedDocuments := counts.linkedDocuments + if link.isLinked then 1 else 0 }
            rest)
          facts)
      (linkForDocument platform ids document link)

theorem run_heldFactScript (platform : Platform) (ids : Ids) (answers : EntityAnswers)
    (next : HeldFacts → Script Database) (counts : HeldFacts) (documents : List Document)
    (db : Database) :
    (heldFactScript platform ids answers next counts documents).run db =
      (runHeldFactDocuments platform ids answers db counts documents).bind fun (after, counts) =>
        (next counts).run after := by
  induction documents generalizing counts db with
  | nil => rfl
  | cons document rest ih =>
    simp [heldFactScript, runHeldFactDocuments, runHeldFactDocument, run_linkScript,
      run_factScript, ih, Option.bind_map, Option.bind_assoc]

/-- The transaction of the report. -/
def transformScript (platform : Platform) (run : DailyRun) : Script Database :=
  let documents := run.documents platform
  persistScript run.ids documents fun changed =>
  reconcileScript run.ids documents fun reconciliation =>
  heldFactScript platform run.ids run.answers
    (fun heldFacts =>
      .write (fun db =>
        upsertTransformRun platform run.ids run.completedAt db heldFacts reconciliation) <|
      .write (fun db => upsertCrawlRun run.ids run.completedAt db .completed {
        discovered := run.items.length + run.malformed
        fetched := documents.length
        changed
        errors := 0 })
      .commit)
    { documentsExtracted := 0, factsExtracted := 0, linkedDocuments := 0 } documents

theorem run_transformScript (platform : Platform) (run : DailyRun) (db : Database) :
    (transformScript platform run).run db = transformReport platform db run := by
  simp [transformScript, transformReport, runHeldFactPipeline, run_persistScript,
    run_reconcileScript, run_heldFactScript, Option.bind_assoc]

def isHeldVersion (dataVersion : JsText) (row : DataVersionRow) : Bool :=
  row.dataVersion = dataVersion && row.releaseState = .held

def releaseDataVersion (db : Database) (dataVersion : JsText) : Database :=
  { db with
    dataVersions := db.dataVersions.update (isHeldVersion dataVersion)
      (fun row => { row with releaseState := .released }) fun _ => rfl }

def releaseScript (dataVersion : JsText) : Script Database :=
  .read fun db =>
    match readValidationState db dataVersion with
    | none => .rollback
    | some validation =>
      if validation.releaseState ≠ .held then
        .rollback
      else if !validation.pass then
        .rollback
      else
        .statement (fun db => some (releaseDataVersion db dataVersion)) fun before =>
          if (before.dataVersions.rows.filter (isHeldVersion dataVersion)).length ≠ 1 then
            .rollback
          else
            .commit

theorem run_releaseScript {dataVersion : JsText} {db after : Database}
    (h : (releaseScript dataVersion).run db = some after) :
    (∃ validation, readValidationState db dataVersion = some validation ∧
        validation.pass = true ∧ validation.releaseState = .held) ∧
      after = releaseDataVersion db dataVersion := by
  simp only [releaseScript, Transactions.run_read] at h
  cases hread : readValidationState db dataVersion with
  | none => simp [hread] at h
  | some validation =>
    simp only [hread] at h
    split at h
    · cases h
    next hheld =>
    split at h
    · cases h
    next hpass =>
    simp only [Transactions.run_statement, Option.bind_some] at h
    split at h
    · cases h
    · exact ⟨⟨validation, rfl, by simpa using hpass, by simpa using hheld⟩,
        (Option.some.inj h).symm⟩

end Aiphabee.NewsIngest
