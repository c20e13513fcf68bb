import Aiphabee.NewsIngest.Spider
import Aiphabee.NewsIngest.Convergence

/-!
# Runs and what they crawl

All runs of a business date crawl with one job directory, which keeps the
fingerprints of what they have requested, and the requests that a crawl which was
broken off has left.  A document is in the report of a run when something that
the crawl begins with leads to it, over requests that no earlier crawl of the
date has made.
-/

namespace Aiphabee.NewsIngest

open SandboxAuth (JsonValue)
open Worklist (Pending Progress Leads ComesUp)

variable (platform : Platform)
variable {spider : SpiderPlatform}
variable {businessDate : JsText}

section Runs

abbrev JobDir := Pending ScrapyRequest JsText

/-- What a crawl meets: the site, the order in which answers come, and what is lost of the
requests that wait when the crawl is broken off. -/
structure NewsCrawl (spider : SpiderPlatform) (businessDate : JsText) where
  settings : CrawlSettings
  site : Site spider settings businessDate
  schedule : List Nat
  lost : ScrapyRequest → Bool

variable (crawl : NewsCrawl spider businessDate)
variable (job : JobDir)

def NewsCrawl.begin : JobDir :=
  job.enqueue (crawler platform crawl.site) (startRequest crawl.settings)

def NewsCrawl.progress : Progress ScrapyRequest JsText JsonValue :=
  Progress.handleAll (crawler platform crawl.site) ⟨crawl.begin platform job, []⟩ crawl.schedule

/-- The crawl has gone through; otherwise it was broken off. -/
def NewsCrawl.finished : Bool :=
  (crawl.progress platform job).work.waiting.isEmpty

def NewsCrawl.jobAfter : JobDir :=
  { (crawl.progress platform job).work with
    waiting := (crawl.progress platform job).work.waiting.filter fun request =>
      !crawl.lost request }

def NewsCrawl.report (run : DailyRun) : DailyRun :=
  { run with
    businessDate
    items := (crawl.progress platform job).results
    malformed := 0
    crawlFails := run.crawlFails || !crawl.finished platform job }

def crawls (db : Database) (run : DailyRun) : Bool :=
  !run.locked && !run.startFails &&
    !((db.dataVersions.find run.ids.dataVersion).any fun row => row.releaseState ≠ .held) &&
      (startRun db run).isSome

/-- A run of a sequence, with what it found and what it left. -/
structure CrawlStep (spider : SpiderPlatform) (businessDate : JsText) where
  crawl : NewsCrawl spider businessDate
  job : JobDir
  run : DailyRun
  before : Database
  after : Database
  outcome : RunOutcome

def crawlRunsFrom :
    Database → JobDir → List (DailyRun × NewsCrawl spider businessDate) →
      List (CrawlStep spider businessDate)
  | _, _, [] => []
  | db, job, (run, crawl) :: rest =>
    let reported := crawl.report platform job run
    let result := runHkexDaily platform db reported
    { crawl, job, run := reported, before := db, after := result.1, outcome := result.2 } ::
      crawlRunsFrom result.1
        (if crawls db reported then crawl.jobAfter platform job else job) rest

end Runs

section Promises

def NewsCrawl.documentUrl (crawl : NewsCrawl spider businessDate) (row : SearchRow) : JsText :=
  let link := spider.urljoin baseUrl (row.fileLink.getD [])
  normalizeUrl spider (((crawl.site.fetch link).map Response.url).getD link)

def NewsCrawl.recordId (crawl : NewsCrawl spider businessDate) (row : SearchRow) : JsText :=
  let url := crawl.documentUrl row
  (nonEmptyString (some (.string (sourceRecordIdOf platform row url)))).getD
    (platform.stableHash (JsText.trim url))

def documentIdOf (recordId : JsText) : JsText :=
  hashId platform "hkex_doc_" (colons [sourceName, recordId])

def NewsCrawl.IsPublished (crawl : NewsCrawl spider businessDate) (row : SearchRow) : Prop :=
  ∃ profile ∈ titleSearchQueries crawl.settings.queryScope, row ∈ crawl.site.matching profile

variable {platform}

structure CrawlStep.Complete
    (platform : Platform)
    (step : CrawlStep spider businessDate) : Prop where
  /-- The report has every document that is published. -/
  report : ∀ row, step.crawl.IsPublished row →
    ∃ document ∈ step.run.documents platform,
      document.sourceRecordId = step.crawl.recordId platform row
  /-- The clean-up removes nothing of a document that is published. -/
  facts : ∀ row, step.crawl.IsPublished row → ∀ db : Database, ∀ entry ∈ db.facts.entries,
    entry.row.documentId = documentIdOf platform (step.crawl.recordId platform row) →
      entry ∈ (reconcileCurrentRunScope db step.run.ids
        (step.run.documents platform)).1.facts.entries
  links : ∀ row, step.crawl.IsPublished row → ∀ db : Database, ∀ entry ∈ db.links.entries,
    entry.row.documentId = documentIdOf platform (step.crawl.recordId platform row) →
      entry ∈ (reconcileCurrentRunScope db step.run.ids
        (step.run.documents platform)).1.links.entries
  observations : ∀ row, step.crawl.IsPublished row → ∀ db : Database,
    ∀ entry ∈ db.observations.entries,
      entry.row.documentId = documentIdOf platform (step.crawl.recordId platform row) →
        entry ∈ (reconcileCurrentRunScope db step.run.ids
          (step.run.documents platform)).1.observations.entries

def itemRecordId (platform : Platform) (item : JsonValue) : Option JsText :=
  (normalizeScrapyDocument platform item 0).map Document.sourceRecordId

/-- Something that the crawl begins with leads to every document that is published. -/
def NewsCrawl.LeadsToAll (platform : Platform) (crawl : NewsCrawl spider businessDate)
    (job : JobDir) : Prop :=
  ∀ row, crawl.IsPublished row → ∃ request ∈ (crawl.begin platform job).waiting,
    Leads (crawler platform crawl.site) (crawl.begin platform job)
      (fun item => itemRecordId platform item = some (crawl.recordId platform row)) request

end Promises

section Completeness

variable {platform : Platform}

theorem sourceRecordId_normalize (item : JsonValue) (index : Nat) :
    (normalizeScrapyDocument platform item index).map Document.sourceRecordId =
      itemRecordId platform item := by
  simp only [itemRecordId, normalizeScrapyDocument]
  split
  · rfl
  · split <;> rfl

theorem documentId_normalize {item : JsonValue} {index : Nat} {document : Document}
    (h : normalizeScrapyDocument platform item index = some document) :
    document.documentId = documentIdOf platform document.sourceRecordId := by
  simp only [normalizeScrapyDocument] at h
  split at h
  · cases h
  · split at h
    · cases h
    · obtain rfl := Option.some.inj h
      rfl

theorem exists_document_of_item {items : List JsonValue} {item : JsonValue} {recordId : JsText}
    (hitem : item ∈ items) (hrecord : itemRecordId platform item = some recordId) :
    ∃ document ∈ documentsOf platform items, document.sourceRecordId = recordId ∧
      document.documentId = documentIdOf platform recordId := by
  obtain ⟨index, hindex, hget⟩ := List.getElem_of_mem hitem
  have hplaced : (item, index) ∈ items.zipIdx := by
    rw [List.mem_zipIdx_iff_getElem?, List.getElem?_eq_getElem hindex, hget]
  rw [← sourceRecordId_normalize item index] at hrecord
  obtain ⟨document, hdocument, hsame⟩ := Option.map_eq_some_iff.mp hrecord
  refine ⟨document, List.mem_filterMap.mpr ⟨(item, index), hplaced, hdocument⟩, hsame, ?_⟩
  rw [documentId_normalize hdocument, hsame]

variable {crawl : NewsCrawl spider businessDate}
variable {job : JobDir}

theorem NewsCrawl.exists_item (hall : crawl.LeadsToAll platform job)
    (hfinished : crawl.finished platform job = true) {row : SearchRow}
    (hrow : crawl.IsPublished row) :
    ∃ item ∈ (crawl.progress platform job).results,
      itemRecordId platform item = some (crawl.recordId platform row) := by
  obtain ⟨request, hrequest, hleads⟩ := hall row hrow
  exact Worklist.exists_of_emptied crawl.schedule [] hleads hrequest
    (List.isEmpty_iff.mp hfinished)

theorem finished_of_committed {db : Database} {run : DailyRun}
    (h : (runHkexDaily platform db (crawl.report platform job run)).2 = .committed) :
    crawl.finished platform job = true := by
  by_contra hnot
  have hfails : (crawl.report platform job run).crawlFails = true := by
    rw [Bool.not_eq_true] at hnot
    simp [NewsCrawl.report, hnot]
  unfold runHkexDaily at h
  split at h
  · cases h
  · split at h
    · cases h
    · split at h
      · cases h
      · split at h
        · cases h
        · cases h

theorem complete_of_leadsToAll {db : Database} {run : DailyRun}
    (hall : crawl.LeadsToAll platform job)
    (hcommitted : (runHkexDaily platform db (crawl.report platform job run)).2 = .committed) :
    CrawlStep.Complete platform
      { crawl, job
        run := crawl.report platform job run
        before := db
        after := (runHkexDaily platform db (crawl.report platform job run)).1
        outcome := (runHkexDaily platform db (crawl.report platform job run)).2 } := by
  have hdocument : ∀ row, crawl.IsPublished row →
      ∃ document ∈ (crawl.report platform job run).documents platform,
        document.sourceRecordId = crawl.recordId platform row ∧
          document.documentId = documentIdOf platform (crawl.recordId platform row) := by
    intro row hrow
    obtain ⟨item, hitem, hrecord⟩ := crawl.exists_item hall (finished_of_committed hcommitted) hrow
    exact exists_document_of_item hitem hrecord
  have hkept : ∀ row, crawl.IsPublished row →
      (((crawl.report platform job run).documents platform).map
        Document.documentId).eraseDups.contains
          (documentIdOf platform (crawl.recordId platform row)) = true := by
    intro row hrow
    obtain ⟨document, hmem, -, hid⟩ := hdocument row hrow
    rw [List.contains_iff_mem, List.mem_eraseDups, ← hid]
    exact List.mem_map_of_mem hmem
  refine ⟨?_, ?_, ?_, ?_⟩
  · intro row hrow
    obtain ⟨document, hmem, hrecord, -⟩ := hdocument row hrow
    exact ⟨document, hmem, hrecord⟩
  · intro row hrow db entry hentry hid
    refine List.mem_filter.mpr ⟨hentry, ?_⟩
    rw [keepsFact, hid, hkept row hrow]
    simp
  · intro row hrow db entry hentry hid
    refine List.mem_filter.mpr ⟨hentry, ?_⟩
    rw [keepsLink, hid, hkept row hrow]
    simp
  · intro row hrow db entry hentry hid
    refine List.mem_filter.mpr ⟨hentry, ?_⟩
    rw [keepsObservation, hid, hkept row hrow]
    simp

/--
In a sequence of runs whose crawls are all led to the documents that are then
published, every run that completes has them in its report and removes nothing
of them.
-/
theorem crawlRuns_complete (platform : Platform) (spider : SpiderPlatform) (businessDate : JsText)
    (db : Database) (job : JobDir) (runs : List (DailyRun × NewsCrawl spider businessDate))
    (hall : ∀ step ∈ crawlRunsFrom platform db job runs,
      step.outcome = .committed → step.crawl.LeadsToAll platform step.job) :
    ∀ step ∈ crawlRunsFrom platform db job runs,
      step.outcome = .committed → step.Complete platform := by
  induction runs generalizing db job with
  | nil => exact fun step hstep => absurd hstep List.not_mem_nil
  | cons first rest ih =>
    obtain ⟨run, crawl⟩ := first
    rw [crawlRunsFrom] at hall ⊢
    obtain ⟨hfirst, hrest⟩ := List.forall_mem_cons.mp hall
    refine List.forall_mem_cons.mpr ⟨fun hcommitted => ?_, ih _ _ hrest⟩
    exact complete_of_leadsToAll (hfirst hcommitted) hcommitted

end Completeness

end Aiphabee.NewsIngest
