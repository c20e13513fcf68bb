import Aiphabee.NewsIngest.Convergence

/-!
# The status of a run

The row of a run is committed as running in front of the crawl.  It is settled
exactly where no step behind it throws.
-/

namespace Aiphabee.NewsIngest

open UniqueTable

/-- The steps behind the committed row of a run that throw, the transaction of the report aside. -/
structure RunThrows where
  /-- The directories of the crawl cannot be made. -/
  runScrapy : Bool
  markCrawlFailed : Bool
  readScrapyReport : Bool

/-- What `runHkexDaily` does behind the committed row; its handler only rolls back. -/
def finishRun (platform : Platform) (started : Database) (run : DailyRun) (throws : RunThrows) :
    Database × RunOutcome :=
  if throws.runScrapy then
    (started, .failed)
  else if run.crawlFails then
    if throws.markCrawlFailed then
      (started, .failed)
    else
      (markCrawlFailed started run.ids run.completedAt, .crawlFailed)
  else if throws.readScrapyReport || run.transformFails then
    (started, .failed)
  else
    match transformReport platform started run with
    | none => (started, .failed)
    | some after => (after, .committed)

/-- What `run status` prints of a run. -/
structure RunStatusReport where
  completedAt : Option Int
  dataVersion : JsText
  errorCount : Nat
  retryable : Bool
  runId : JsText
  status : RunStatus

def emitRunStatus (db : Database) (runId : JsText) : Option RunStatusReport :=
  (db.crawlRuns.find runId).map fun row =>
    { completedAt := row.completedAt
      dataVersion := row.dataVersion
      errorCount := row.errorCount
      retryable := row.status = .failed
      runId := row.crawlRunId
      status := row.status }

/-- The row of a run is not running, and is reported as completed, or failed and retryable. -/
def Settled (db : Database) (ids : Ids) : Prop :=
  ∃ row, db.crawlRuns.find ids.runId = some row ∧ row.status ≠ .running ∧
    ∃ report, emitRunStatus db ids.runId = some report ∧
      (report.status = .completed ∨ report.status = .failed ∧ report.retryable = true)

/-- The failure of a crawl can be marked, and what a crawl that goes through reports is taken. -/
structure Recordable (platform : Platform) (started : Database) (run : DailyRun)
    (throws : RunThrows) : Prop where
  crawl : throws.runScrapy = false
  mark : run.crawlFails = true → throws.markCrawlFailed = false
  report : run.crawlFails = false → throws.readScrapyReport = false ∧ run.transformFails = false ∧
    (transformReport platform started run).isSome = true

variable {platform : Platform}
variable {db started after : Database}
variable {run : DailyRun}

theorem settled_iff_status {ids : Ids} {row : CrawlRun}
    (hrow : db.crawlRuns.find ids.runId = some row) :
    Settled db ids ↔ row.status = .completed ∨ row.status = .failed := by
  simp only [Settled, emitRunStatus, hrow, Option.map_some, Option.some.injEq]
  constructor
  · rintro ⟨_, -, -, _, rfl, hstatus | ⟨hstatus, -⟩⟩
    · exact .inl hstatus
    · exact .inr hstatus
  · intro hstatus
    refine ⟨row, rfl, ?_, _, rfl,
      hstatus.imp_right fun hfailed => ⟨hfailed, decide_eq_true hfailed⟩⟩
    rintro hrunning
    rcases hstatus with h | h <;> cases hrunning.symm.trans h

theorem find_upsert_status {table upserted : UniqueTable.Table JsText CrawlRun.crawlRunId}
    {new : Entry JsText CrawlRun} (h : table.upsert mergeCrawlRun new = some upserted) :
    ∃ row, upserted.find new.row.crawlRunId = some row ∧ row.status = new.row.status := by
  refine ⟨_, find_eq_some.mpr ⟨(mem_upsert h).mpr (.inr rfl), key_merged _ _ _⟩, ?_⟩
  unfold Table.merged
  split <;> rfl

theorem startRun_running (h : startRun db run = some started) :
    ∃ row, started.crawlRuns.find run.ids.runId = some row ∧ row.status = .running := by
  simp only [startRun, upsertDataVersion, upsertCrawlRun, Option.bind_eq_bind,
    Option.bind_eq_some_iff, Option.some.injEq] at h
  obtain ⟨_, -, crawlRuns, hcrawls, rfl⟩ := h
  exact find_upsert_status hcrawls

theorem transformReport_completed (h : transformReport platform started run = some after) :
    ∃ row, after.crawlRuns.find run.ids.runId = some row ∧ row.status = .completed := by
  obtain ⟨new, hupsert, hid, hstatus, -⟩ := (transformReport_spec h).crawled
  rw [← hid, ← hstatus]
  exact find_upsert_status hupsert

theorem markCrawlFailed_failed {row : CrawlRun} (now : Int)
    (hrow : started.crawlRuns.find run.ids.runId = some row) :
    ∃ marked, (markCrawlFailed started run.ids now).crawlRuns.find run.ids.runId = some marked ∧
      marked.status = .failed := by
  obtain ⟨hmem, hid⟩ := find_eq_some.mp hrow
  obtain ⟨entry, hentry, rfl⟩ := List.mem_map.mp hmem
  refine ⟨{ entry.row with
    status := .failed, completedAt := some now, errorCount := entry.row.errorCount + 1 },
    find_eq_some.mpr ⟨?_, hid⟩, rfl⟩
  refine List.mem_map.mpr ⟨_, List.mem_map_of_mem hentry, ?_⟩
  rw [if_pos (decide_eq_true hid)]

/--
A run whose row is committed settles that row exactly if no step behind it throws:
where one does, the row stays running.
-/
theorem finishRun_settled_iff (throws : RunThrows) (hstarted : startRun db run = some started) :
    Settled (finishRun platform started run throws).1 run.ids ↔
      Recordable platform started run throws := by
  obtain ⟨row, hrow, hrunning⟩ := startRun_running hstarted
  have hstuck : ¬Settled started run.ids := by
    rw [settled_iff_status hrow, hrunning]
    exact not_or.mpr ⟨nofun, nofun⟩
  unfold finishRun
  split
  next hthrows => exact iff_of_false hstuck fun h => by simp [h.crawl] at hthrows
  next hcrawled =>
  rw [Bool.not_eq_true] at hcrawled
  split
  next hfails =>
    split
    next hthrows => exact iff_of_false hstuck fun h => by simp [h.mark hfails] at hthrows
    next hmarks =>
      obtain ⟨marked, hmarked, hfailed⟩ := markCrawlFailed_failed run.completedAt hrow
      refine iff_of_true ((settled_iff_status hmarked).mpr (.inr hfailed)) ⟨hcrawled, ?_, ?_⟩
      · exact fun _ => Bool.not_eq_true _ ▸ hmarks
      · exact fun h => absurd hfails (by simp [h])
  next hcrawls =>
    rw [Bool.not_eq_true] at hcrawls
    split
    next hthrows =>
      refine iff_of_false hstuck fun h => ?_
      obtain ⟨hread, htransform, -⟩ := h.report hcrawls
      simp [hread, htransform] at hthrows
    next hreads =>
      rw [Bool.not_eq_true, Bool.or_eq_false_iff] at hreads
      cases htransform : transformReport platform started run with
      | none =>
        refine iff_of_false hstuck fun h => ?_
        have hsome := (h.report hcrawls).2.2
        rw [htransform] at hsome
        cases hsome
      | some after =>
        obtain ⟨completed, hcompleted, hstatus⟩ := transformReport_completed htransform
        refine iff_of_true ((settled_iff_status hcompleted).mpr (.inl hstatus)) ⟨hcrawled, ?_, ?_⟩
        · exact fun h => absurd hcrawls (by simp [h])
        · exact fun _ => ⟨hreads.1, hreads.2, by rw [htransform]; rfl⟩

def sampleFailedRun : DailyRun :=
  { sampleRun [] with crawlFails := true }

theorem settled_after_failed_crawl :
    ∃ started, startRun emptyDatabase sampleFailedRun = some started ∧
      Settled (finishRun samplePlatform started sampleFailedRun
        { runScrapy := false, markCrawlFailed := false, readScrapyReport := true }).1
        sampleFailedRun.ids := by
  obtain ⟨started, hstarted⟩ : ∃ started, startRun emptyDatabase sampleFailedRun = some started :=
    ⟨_, rfl⟩
  exact ⟨started, hstarted, (finishRun_settled_iff _ hstarted).mpr ⟨rfl, fun _ => rfl, nofun⟩⟩

/-- A crawl goes through, and its report cannot be read. -/
theorem unreadable_report_stays_running :
    ¬∀ (platform : Platform) (db started : Database) (run : DailyRun) (throws : RunThrows),
      startRun db run = some started →
        Settled (finishRun platform started run throws).1 run.ids := by
  intro h
  obtain ⟨started, hstarted⟩ : ∃ started, startRun emptyDatabase (sampleRun []) = some started :=
    ⟨_, rfl⟩
  obtain ⟨row, hrow, hnot, -⟩ := h samplePlatform emptyDatabase started (sampleRun [])
    { runScrapy := false, markCrawlFailed := false, readScrapyReport := true } hstarted
  obtain ⟨running, hrunning, hstatus⟩ := startRun_running hstarted
  exact hnot (Option.some.inj (hrow.symm.trans hrunning) ▸ hstatus)

end Aiphabee.NewsIngest
