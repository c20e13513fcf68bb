import Aiphabee.IpoIngest.Records

/-!
# The ingest of an IPO bundle

One transaction writes the batch, the version, the snapshots and the serving
tables, table by table and chunk by chunk.  A statement is refused as a whole where
it meets a row twice or breaks a constraint; the transaction is then rolled back,
as it is where the session breaks off.
-/

namespace Aiphabee.IpoIngest

variable (platform : Platform)
variable (request : Request)

structure Statement where
  table : TableName
  records : List StoredRow

def inserted (db : Database) (table : TableName) (records : List StoredRow) : Database :=
  Function.update db table (Sql.insertAll table.onConflict (db table) records)

def Statement.apply (statement : Statement) (db : Database) : Option Database :=
  if statement.table.onConflict.set = [] ∨
      (statement.records.map statement.table.keyOf).Nodup then
    let after := inserted db statement.table statement.records
    if after.keepsConstraints then some after else none
  else
    none

/-- Chunks of a size, the last one perhaps shorter; a chunk has been begun. -/
def chunksFrom {α : Type} (size : Nat) : List α → List α → List (List α)
  | current, [] => if current.isEmpty then [] else [current]
  | current, row :: rest =>
    if current.length + 1 = size then (current ++ [row]) :: chunksFrom size [] rest
    else chunksFrom size (current ++ [row]) rest

def chunkRows {α : Type} (size : Nat) (rows : List α) : List (List α) :=
  chunksFrom size [] rows

/-- How many rows one statement of a table takes. -/
def TableName.chunkSize : TableName → Nat
  | .rawSnapshot => 500
  | .rawSourceBatch | .dataVersionBatch | .ipoOffering | .ipoAllotmentSummary => 1
  | _ => 250

def TableName.all : List TableName :=
  [.rawSourceBatch, .dataVersionBatch, .rawSnapshot] ++ servingTables

def Request.records : TableName → List StoredRow
  | .rawSourceBatch =>
    upsertSourceBatchRecords request (rawRows platform request).length
  | .dataVersionBatch => upsertDataVersionRecords request
  | .rawSnapshot => rawRows platform request
  | .vendorCode => vendorCodeRecords platform request
  | .ipoOffering => offeringRecords platform request
  | .ipoNarrative => narrativeRecords platform request
  | .ipoTimetableEvent => timetableEventRecords platform request
  | .ipoOfferStatistic => offerStatisticRecords platform request
  | .ipoCornerstone => cornerstoneRecords platform request
  | .ipoAllotmentSummary => allotmentSummaryRecords platform request
  | .ipoPipelineApplication => pipelineApplicationRecords platform request

def Request.statements : List Statement :=
  TableName.all.flatMap fun table =>
    (chunkRows table.chunkSize (request.records platform table)).map (Statement.mk table)

/-- `value like 'ipo-mdb-%'`. -/
def isIpoVersion : Option Cell → Bool
  | some (.text value) => (JsText.ofString "ipo-mdb-").isPrefixOf value
  | _ => false

inductive DatabaseTarget
  | local
  | remote (targetEnv : Option String)

structure Invocation where
  target : DatabaseTarget
  allowRemoteHeldIngest : Bool

def assertDatabaseWriteAllowed (invocation : Invocation) : Bool :=
  match invocation.target with
  | .local => true
  | .remote targetEnv =>
    invocation.allowRemoteHeldIngest &&
      (targetEnv = some "staging" || targetEnv = some "production")

def assertRemoteHeldIngestPreconditions (db : Database) (dataVersion : JsText) : Bool :=
  ((db .dataVersionBatch).all fun row =>
      !(isIpoVersion (row .dataVersion) && row .releaseState = asText "released")) &&
    [TableName.ipoOffering, .ipoAllotmentSummary, .ipoPipelineApplication].all fun table =>
      (db table).all fun row => row .dataVersion = some (.text dataVersion)

/-- The checks that are made before the transaction. -/
def Invocation.allows (invocation : Invocation) (db : Database) (dataVersion : JsText) : Bool :=
  assertDatabaseWriteAllowed invocation &&
    match invocation.target with
    | .local => true
    | .remote _ => assertRemoteHeldIngestPreconditions db dataVersion

/-- What a run that has committed reports. -/
structure IngestResult where
  dataVersion : JsText
  rawSnapshotCount : Nat
  servingCounts : TableName → Nat
  sourceBatchId : JsText

inductive IngestOutcome
  | refused
  | rolledBack
  | committed (result : IngestResult)

def Request.result : IngestResult where
  dataVersion := request.dataVersion
  rawSnapshotCount := (rawRows platform request).length
  servingCounts := fun table => (request.records platform table).length
  sourceBatchId := request.sourceBatchId

/-- The statements of a transaction, which may break off at one of them or at its end. -/
def runStatements (breaksAt : Option Nat) (statements : List Statement) (db : Database) :
    Option Database :=
  match breaksAt with
  | some index =>
    if index ≤ statements.length then none
    else statements.foldlM (fun db statement => statement.apply db) db
  | none => statements.foldlM (fun db statement => statement.apply db) db

def ingestToLocalPostgres (invocation : Invocation) (breaksAt : Option Nat) (db : Database) :
    IngestOutcome × Database :=
  if invocation.allows db request.dataVersion then
    match runStatements breaksAt (request.statements platform) db with
    | some after => (.committed (request.result platform), after)
    | none => (.rolledBack, db)
  else
    (.refused, db)

section Effects

variable {platform : Platform}
variable {request : Request}
variable {db after : Database}

theorem chunksFrom_flatten {α : Type} (size : Nat) (current rows : List α) :
    (chunksFrom size current rows).flatten = current ++ rows := by
  induction rows generalizing current with
  | nil =>
    rw [chunksFrom]
    split
    · next h => simp [List.isEmpty_iff.mp h]
    · simp
  | cons row rest ih =>
    rw [chunksFrom]
    split
    · rw [List.flatten_cons, ih, List.nil_append, List.append_assoc, List.singleton_append]
    · rw [ih, List.append_assoc, List.singleton_append]

theorem chunkRows_flatten {α : Type} (size : Nat) (rows : List α) :
    (chunkRows size rows).flatten = rows :=
  chunksFrom_flatten size [] rows

theorem apply_eq {statement : Statement} (h : statement.apply db = some after) :
    after = inserted db statement.table statement.records := by
  rw [Statement.apply] at h
  split at h
  · dsimp only at h
    split at h
    · exact (Option.some.inj h).symm
    · cases h
  · cases h

theorem foldlM_apply_eq (statements : List Statement)
    (h : statements.foldlM (fun db statement => statement.apply db) db = some after)
    (table : TableName) :
    after table = Sql.insertAll table.onConflict (db table)
      ((statements.filter fun statement => statement.table = table).flatMap
        Statement.records) := by
  induction statements generalizing db with
  | nil =>
    obtain rfl : db = after := by simpa using h
    rfl
  | cons statement rest ih =>
    rw [List.foldlM_cons] at h
    obtain ⟨middle, hfirst, hrest⟩ := Option.bind_eq_some_iff.mp h
    rw [ih hrest, apply_eq hfirst, inserted]
    by_cases htable : statement.table = table
    · subst htable
      rw [Function.update_self, List.filter_cons_of_pos (by simp), List.flatMap_cons]
      exact (List.foldl_append ..).symm
    · rw [Function.update_of_ne (Ne.symm htable), List.filter_cons_of_neg (by simpa using htable)]

theorem statements_of_table (platform : Platform) (request : Request) (table : TableName) :
    ((request.statements platform).filter fun statement => statement.table = table).flatMap
        Statement.records = request.records platform table := by
  have hpart : ∀ other, ((((chunkRows other.chunkSize (request.records platform other)).map
      (Statement.mk other)).filter fun statement => statement.table = table).flatMap
        Statement.records) = if other = table then request.records platform table else [] := by
    intro other
    split
    · next h =>
        subst h
        rw [List.filter_eq_self.mpr, List.flatMap_map]
        · change List.flatMap id _ = _
          rw [List.flatMap_id]
          exact chunkRows_flatten _ _
        · intro statement hstatement
          obtain ⟨chunk, -, rfl⟩ := List.mem_map.mp hstatement
          exact decide_eq_true rfl
    · next h =>
        rw [List.filter_eq_nil_iff.mpr]
        · rfl
        · intro statement hstatement
          obtain ⟨chunk, -, rfl⟩ := List.mem_map.mp hstatement
          simpa using h
  have hall : ∀ tables : List TableName, ((tables.flatMap fun table =>
      (chunkRows table.chunkSize (request.records platform table)).map
        (Statement.mk table)).filter fun statement => statement.table = table).flatMap
          Statement.records =
      tables.flatMap fun other => if other = table then request.records platform table else [] := by
    intro tables
    induction tables with
    | nil => rfl
    | cons first rest ih =>
      rw [List.flatMap_cons, List.filter_append, List.flatMap_append, ih, hpart,
        List.flatMap_cons]
  rw [Request.statements, hall]
  cases table <;> simp [TableName.all, servingTables]

variable {invocation : Invocation}
variable {breaksAt : Option Nat}

theorem table_of_committed {result : IngestResult}
    (h : ingestToLocalPostgres platform request invocation breaksAt db =
      (.committed result, after))
    (table : TableName) :
    after table =
      Sql.insertAll table.onConflict (db table) (request.records platform table) := by
  rw [ingestToLocalPostgres] at h
  split at h
  · split at h
    · next found hrun =>
        obtain ⟨-, rfl⟩ := Prod.mk.inj h
        rw [← statements_of_table platform request table]
        refine foldlM_apply_eq _ ?_ table
        unfold runStatements at hrun
        split at hrun
        · split at hrun
          · cases hrun
          · exact hrun
        · exact hrun
    · cases (Prod.mk.inj h).1
  · cases (Prod.mk.inj h).1

theorem result_of_committed {result : IngestResult}
    (h : ingestToLocalPostgres platform request invocation breaksAt db =
      (.committed result, after)) :
    result = request.result platform := by
  rw [ingestToLocalPostgres] at h
  split at h
  · split at h
    · obtain ⟨hresult, -⟩ := Prod.mk.inj h
      exact (IngestOutcome.committed.inj hresult).symm
    · cases (Prod.mk.inj h).1
  · cases (Prod.mk.inj h).1

/-- A run that does not commit leaves the database as it was. -/
theorem unchanged_of_not_committed {outcome : IngestOutcome}
    (h : ingestToLocalPostgres platform request invocation breaksAt db = (outcome, after))
    (hnot : ∀ result, outcome ≠ .committed result) : after = db := by
  rw [ingestToLocalPostgres] at h
  split at h
  · split at h
    · exact absurd (Prod.mk.inj h).1.symm (hnot _)
    · exact (Prod.mk.inj h).2.symm
  · exact (Prod.mk.inj h).2.symm

end Effects

end Aiphabee.IpoIngest
