import Aiphabee.HeldApply.AcceptedPayloads
import Aiphabee.Transition.LabelledRuns

/-!
# Applies and releases, one after the other

The database in the course of applies and of releases from outside.  Beside it
stands what has been committed: the last payload of each run, and whether its
version has been released since.

`Isolated` says what an apply owes to the other runs, and `Keeps` what a payload
must meet so that it does.
-/

namespace Aiphabee.HeldApply

open SandboxAuth (JsonValue)
open JsonMembers (member)

variable (platform : HeldPlatform)

structure CommittedRun where
  payload : JsonValue
  /-- The version of the payload has been released since. -/
  released : Bool

structure HeldState where
  db : HeldDb
  committed : List CommittedRun

inductive HeldEvent
  | apply (payload : JsonValue) (breaks : ApplyStage → Bool)
  | release (version : JsText)

def releasedRow (row : HeldRow) : HeldRow :=
  Function.update row .releaseState (some (textCell "released"))

/-- A release from outside: `update … set release_state = 'released' where data_version = …`. -/
def releaseVersion (version : JsText) (db : HeldDb) : HeldDb :=
  Function.update db .dataVersionBatch ((db .dataVersionBatch).map fun row =>
    if row .dataVersion = some (.text version) then releasedRow row else row)

def CommittedRun.release (version : JsText) (run : CommittedRun) : CommittedRun :=
  if (idsOf run.payload).version = version then { run with released := true } else run

/-- A payload that the check refuses does not reach the database. -/
def next (state : HeldState) : HeldEvent → HeldState
  | .apply payload breaks =>
    if validateApplyPayload platform payload = [] then
      match runHeldDbApply platform breaks payload state.db with
      | .ok db =>
        { db
          committed := { payload, released := false } :: state.committed.filter fun run =>
            (idsOf run.payload).run ≠ (idsOf payload).run }
      | .error _ => state
    else
      state
  | .release version =>
    { db := releaseVersion version state.db
      committed := state.committed.map (CommittedRun.release version) }

/-- `next` as a step relation. -/
def Handles (state : HeldState) (event : HeldEvent) (after : HeldState) : Prop :=
  next platform state event = after

section Properties

variable (reading : ReadbackPlatform)

/-- The rows that the statements read from a payload. -/
def staged (payload : JsonValue) (table : HeldTable) : List HeldRow :=
  (recordset platform table (rowGroup payload table)).getD []

def HeldTable.idColumns : HeldTable → List HeldColumn
  | .rawSourceBatch => [.sourceBatchId]
  | .dataVersionBatch => [.dataVersion, .sourceBatchId]
  | .sourceRun => [.sourceRunId, .sourceBatchId, .dataVersion]
  | .rawSnapshot => [.dataVersion, .sourceBatchId]
  | _ => [.sourceRunId, .dataVersion]

/-- The row is one of the batch, the version and the run. -/
def Belongs (ids : HeldIds) (table : HeldTable) (row : HeldRow) : Prop :=
  ∀ column ∈ table.idColumns, row column = some (.text (ids.get column))

instance (ids : HeldIds) (table : HeldTable) :
    DecidablePred (Belongs ids table) := fun _ =>
  inferInstanceAs (Decidable (∀ _ ∈ _, _))

def expectedRows (run : CommittedRun) (table : HeldTable) : Multiset HeldRow :=
  let rows : Multiset HeldRow := staged platform run.payload table
  if run.released = true ∧ table = .dataVersionBatch then rows.map releasedRow else rows

def IsReleased (version : JsText) (db : HeldDb) : Prop :=
  ∃ row ∈ db .dataVersionBatch, row .dataVersion = some (.text version) ∧
    row .releaseState = some (textCell "released")

structure Isolated
    (state : HeldState)
    (event : HeldEvent)
    (after : HeldState) : Prop where
  /-- An apply that fails leaves every table as it was. -/
  failed : ∀ payload breaks stage, event = .apply payload breaks →
    runHeldDbApply platform breaks payload state.db = .error stage → after.db = state.db
  /-- An apply changes only rows of its own batch, version and run. -/
  frame : ∀ payload breaks, event = .apply payload breaks → ∀ table,
    (after.db table).filter (fun row => ¬Belongs (idsOf payload) table row) =
      (state.db table).filter fun row => ¬Belongs (idsOf payload) table row
  /-- A released version stays released. -/
  released : ∀ version, IsReleased version state.db → IsReleased version after.db
  /-- Every run that committed has the rows of its payload, table by table. -/
  rows : ∀ run ∈ after.committed, ∀ table,
    (after.db table).filter (linked (idsOf run.payload) table) = expectedRows platform run table
  /-- A readback of a run whose version is not released finds its counts right. -/
  readback : ∀ run ∈ after.committed, run.released = false →
    runHeldDbReadback reading (idsOf run.payload) after.db =
      {snapshotFailures reading (staged platform run.payload .rawSnapshot : Multiset HeldRow)}

end Properties

/-- What a payload must meet in front of a database. -/
structure Keeps
    (db : HeldDb)
    (payload : JsonValue) : Prop where
  /-- Its rows are of its own batch, version and run. -/
  own : ∀ table, ∀ row ∈ staged platform payload table, Belongs (idsOf payload) table row
  /-- The row of its run has the numbers of its rows. -/
  counts : ∀ row ∈ staged platform payload .sourceRun, ∀ entry ∈
    [(HeldColumn.observationCount, HeldTable.observation),
      (.reconciliationRowCount, .reconciliationRow),
      (.supplementCandidateCount, .supplementCandidate)],
    row entry.1 = some (.integer (rowGroup payload entry.2).length)
  /-- A stored row with the key of one of its rows is of its batch, version and run already. -/
  apart : ∀ table, ∀ row ∈ staged platform payload table, ∀ stored ∈ db table,
    stored table.keyColumn = row table.keyColumn → Belongs (idsOf payload) table stored
  /-- Its version is not released. -/
  unreleased : ¬IsReleased (idsOf payload).version db
  /-- Where another run has its batch or its version, its rows without a run are stored. -/
  shared : ∀ stored ∈ db .sourceRun, stored .sourceRunId ≠ some (.text (idsOf payload).run) →
    stored .sourceBatchId = some (.text (idsOf payload).batch) ∨
      stored .dataVersion = some (.text (idsOf payload).version) →
    ∀ table ∈ [HeldTable.rawSourceBatch, .dataVersionBatch, .rawSnapshot],
      ∀ row ∈ staged platform payload table, row ∈ db table

/-- The condition on a step: a payload that reaches the database keeps the others apart. -/
def Meets (state : HeldState) : HeldEvent → Prop
  | .apply payload _ => validateApplyPayload platform payload = [] → Keeps platform state.db payload
  | .release _ => True

structure Marked (db : HeldDb) : Prop where
  rows : ∀ table ∈ [HeldTable.observation, .reconciliationRow, .supplementCandidate],
    ∀ row ∈ db table, marked table row
  snapshots : ∀ row ∈ db .rawSnapshot, ∀ version, row .dataVersion = some (.text version) →
    isPrefixedHash "dv_hk_ipo_public_" 24 version = true → marked .rawSnapshot row

/-- A database with its primary keys, in which no run of this log has committed yet. -/
structure Start (state : HeldState) : Prop where
  unique : ∀ table : HeldTable, Sql.Unique table.key.columns (state.db table)
  marked : Marked state.db
  committed : state.committed = []

end Aiphabee.HeldApply
