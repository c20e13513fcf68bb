import Aiphabee.NewsIngest.RunSpec
import Aiphabee.NewsIngest.Statements
import Aiphabee.Transition.LabelledRuns

/-!
# Runs and releases of one business date

Any number of daily runs, resumed runs and releases work on one business date.
Each has a session of its own, which holds the lock of the date from before its
first read until the session ends.  A process may fail at every statement, and
its session may end at any time; what its transaction has not committed is then
gone.

The invariant ties the lock to the work (only the holder is at work) and says
of each process at work what it has found out about the database: a run, that
the version of the date is not released; a release, that its transaction is one
that its script comes to.  Nobody but the holder changes the database, so that
what was found out stays true.
-/

namespace Aiphabee.NewsIngest

open UniqueTable
open Transactions (Script Open)
open Transition (Run Fires fire)

/-- `\d{4}-\d{2}-\d{2}`. -/
def isIsoDate : JsText → Bool
  | [y₁, y₂, y₃, y₄, dash₁, m₁, m₂, dash₂, d₁, d₂] =>
    [y₁, y₂, y₃, y₄, m₁, m₂, d₁, d₂].all JsText.isDigit && dash₁ = 45 && dash₂ = 45
  | _ => false

def dateOfDigits : JsText → Option JsText
  | [y₁, y₂, y₃, y₄, m₁, m₂, d₁, d₂] =>
    if [y₁, y₂, y₃, y₄, m₁, m₂, d₁, d₂].all JsText.isDigit then
      some [y₁, y₂, y₃, y₄, 45, m₁, m₂, 45, d₁, d₂]
    else
      none
  | _ => none

def afterPrefix (start value : JsText) : Option JsText :=
  if start.isPrefixOf value then some (value.drop start.length) else none

def localContractSuffix : JsText := text "_local_contract"

def businessDateFromRunId (runId : JsText) : Option JsText :=
  (afterPrefix (text "cr_hkex_news_") runId).bind dateOfDigits

def businessDateFromDataVersion (dataVersion : JsText) : Option JsText :=
  (afterPrefix (text "dv_hkex_news_") dataVersion).bind fun rest =>
    if rest.drop 8 = [] || rest.drop 8 = localContractSuffix then
      dateOfDigits (rest.take 8)
    else
      none

/-- What a process is called for; a resumed run takes its date from the id of the run. -/
inductive Request
  | daily (run : DailyRun)
  | resume (runId : JsText) (run : DailyRun)
  | release (dataVersion : JsText)

/-- What a process does once it has the lock. -/
inductive Task
  | ingest (run : DailyRun)
  | release (dataVersion : JsText)

def Request.task : Request → Option (JsText × Task)
  | .daily run =>
    if isIsoDate run.businessDate then some (run.businessDate, .ingest run) else none
  | .resume runId run =>
    (businessDateFromRunId runId).map fun date =>
      (date, .ingest { run with businessDate := date })
  | .release dataVersion =>
    (businessDateFromDataVersion dataVersion).map fun date => (date, .release dataVersion)

abbrev Pid := Nat

/-- Where a process is. -/
inductive Phase
  /-- It has not begun, or its session has ended. -/
  | away
  | locking (task : Task)
  | checking (run : DailyRun)
  | starting (run : DailyRun) (tx : Open Database)
  | crawling (run : DailyRun)
  /-- The crawl has failed, which is written without a transaction. -/
  | marking (run : DailyRun)
  | transforming (run : DailyRun) (tx : Open Database)
  | releasing (dataVersion : JsText) (tx : Open Database)
  /-- Nothing is left but to end the session. -/
  | closing

/-- What happens to a process. -/
inductive Event
  | began (request : Request)
  | asked
  | checked
  | ran
  | committed
  | crawled (succeeded : Bool)
  | failed
  | ended

/-- The database, the session that holds the lock of the date, and the processes. -/
structure System where
  db : Database
  holder : Option Pid
  sessions : Pid → Phase

/-- Where a process begins once it has the lock. -/
def Task.phase : Task → Phase
  | .ingest run => .checking run
  | .release dataVersion => .releasing dataVersion (.begin (releaseScript dataVersion))

/-- What a step of a process leaves. -/
structure Effect where
  db : Database
  holder : Option Pid
  phase : Phase

/-- A statement of a transaction; where it is refused, the transaction is rolled back. -/
def afterStatement (db : Database) (tx : Open Database) (phase : Open Database → Phase) : Phase :=
  match tx.run db with
  | some next => phase next
  | none => .closing

def stepPhase (platform : Platform) (date : JsText) (p : Pid) (db : Database)
    (holder : Option Pid) : Phase → Event → Option Effect
  | .away, .began request =>
    match request.task with
    | some (requested, task) =>
      if requested = date then some { db, holder, phase := .locking task } else none
    | none => none
  | .away, _ => none
  | _, .failed => some { db, holder, phase := .closing }
  | _, .ended =>
    some { db, holder := if holder = some p then none else holder, phase := .away }
  | .locking task, .asked =>
    match holder with
    | some _ => some { db, holder, phase := .away }
    | none => some { db, holder := some p, phase := task.phase }
  | .checking run, .checked =>
    if (db.dataVersions.find run.ids.dataVersion).any fun row => row.releaseState ≠ .held then
      some { db, holder, phase := .closing }
    else
      some { db, holder, phase := .starting run (.begin (startScript run)) }
  | .starting run tx, .ran => some { db, holder, phase := afterStatement db tx (.starting run) }
  | .starting run tx, .committed =>
    (tx.commit db).map fun after => { db := after, holder, phase := .crawling run }
  | .crawling run, .crawled succeeded =>
    if succeeded then
      some { db, holder, phase := .transforming run (.begin (transformScript platform run)) }
    else
      some { db, holder, phase := .marking run }
  | .marking run, .ran =>
    some { db := markCrawlFailed db run.ids run.completedAt, holder, phase := .closing }
  | .transforming run tx, .ran =>
    some { db, holder, phase := afterStatement db tx (.transforming run) }
  | .transforming _ tx, .committed =>
    (tx.commit db).map fun after => { db := after, holder, phase := .closing }
  | .releasing dataVersion tx, .ran =>
    some { db, holder, phase := afterStatement db tx (.releasing dataVersion) }
  | .releasing _ tx, .committed =>
    (tx.commit db).map fun after => { db := after, holder, phase := .closing }
  | _, _ => none

def step (platform : Platform) (date : JsText) (s : System) (label : Pid × Event) : Option System :=
  (stepPhase platform date label.1 s.db s.holder (s.sessions label.1) label.2).map fun effect =>
    { db := effect.db
      holder := effect.holder
      sessions := Function.update s.sessions label.1 effect.phase }

/-- No process has begun, and the lock is free. -/
structure System.Initial (s : System) : Prop where
  away : ∀ p, s.sessions p = .away
  free : s.holder = none

def Phase.released : Phase → Option JsText
  | .releasing dataVersion _ => some dataVersion
  | _ => none

structure VersionRows where
  dataVersions : List DataVersionRow
  crawlRuns : List CrawlRun
  rawSnapshots : List RawSnapshot
  observations : List DocumentObservation
  extractionRuns : List ExtractionRun
  links : List SourceDocumentLink
  facts : List ExtractedFact
  transformRuns : List TransformRun

def Database.rowsOf (db : Database) (dataVersion : JsText) : VersionRows where
  dataVersions := db.dataVersions.rows.filter fun row => row.dataVersion = dataVersion
  crawlRuns := db.crawlRuns.rows.filter fun row => row.dataVersion = dataVersion
  rawSnapshots := db.rawSnapshots.rows.filter fun row => row.dataVersion = dataVersion
  observations := db.observations.rows.filter fun row => row.dataVersion = dataVersion
  extractionRuns := db.extractionRuns.rows.filter fun row => row.dataVersion = dataVersion
  links := db.links.rows.filter fun row => row.dataVersion = dataVersion
  facts := db.facts.rows.filter fun row => row.dataVersion = dataVersion
  transformRuns := db.transformRuns.rows.filter fun row => row.dataVersion = dataVersion

def Database.releaseState (db : Database) (dataVersion : JsText) : Option ReleaseState :=
  (db.dataVersions.find dataVersion).map DataVersionRow.releaseState

end Aiphabee.NewsIngest
