import Aiphabee.IpoIngest.ReleasePlan
import Aiphabee.Transition.LabelledRuns

/-!
# Sessions of releases and ingests

Any number of releases and ingests run against one database, each in a
transaction of its own.  They take turns between statements: a statement reads
what has been committed by then, waits for a row that another transaction has
locked, and what a transaction has written is seen when it commits.  A release
locks the row of its own version, and no other.
-/

namespace Aiphabee.IpoIngest

inductive ReleaseStage
  | begun
  | batchLocked
  | releasedChecked
  | counted (counts : TableName → Nat)
  | contractRead (counts : TableName → Nat)
  | planned (counts : TableName → Nat)
  | updated (counts : TableName → Nat)

def ReleaseStage.isBegun : ReleaseStage → Bool
  | .begun => true
  | _ => false

def ReleaseStage.counts : ReleaseStage → Option (TableName → Nat)
  | .begun | .batchLocked | .releasedChecked => none
  | .counted counts | .contractRead counts | .planned counts | .updated counts => some counts

structure ReleaseRun where
  dataVersion : JsText
  manifest : ReleaseManifest
  dryRun : Bool
  startedAt : JsText
  stage : ReleaseStage

def ReleaseRun.nextStage (run : ReleaseRun) (db : Database) (governance : ReleaseGovernance) :
    Option ReleaseStage :=
  match run.stage with
  | .begun =>
    if (batchRefusal db run.dataVersion).isNone then some .batchLocked else none
  | .batchLocked =>
    if (releasedRefusal db run.dataVersion).isNone then some .releasedChecked else none
  | .releasedChecked =>
    if (countRefusal (readReleaseCounts db run.dataVersion) run.manifest).isNone then
      some (.counted (readReleaseCounts db run.dataVersion))
    else none
  | .counted counts =>
    if (contractRefusal governance).isNone then some (.contractRead counts) else none
  | .contractRead counts =>
    if (catalogRefusal governance).isNone then some (.planned counts) else none
  | .planned counts => if run.dryRun then none else some (.updated counts)
  | .updated _ => none

def releasedRow (dataVersion startedAt : JsText) (row : StoredRow) : StoredRow :=
  if row .dataVersion = some (.text dataVersion) ∧ row .releaseState = asText "held" then
    Function.update (Function.update row .releaseState (asText "released"))
      .releasedAt (some (.text startedAt))
  else row

def ReleaseRun.committed (run : ReleaseRun) (db : Database) : Database :=
  Function.update db .dataVersionBatch
    ((db .dataVersionBatch).map (releasedRow run.dataVersion run.startedAt))

abbrev Lock := TableName × List (Option Cell)

structure IngestRun where
  request : Request
  done : List Statement
  rest : List Statement
  locks : List Lock

inductive Session
  | release (run : ReleaseRun)
  | ingest (run : IngestRun)
  | ended

def batchLock (dataVersion : JsText) : Lock :=
  (.dataVersionBatch, [some (.text dataVersion)])

def Session.locks : Session → List Lock
  | .release run => if run.stage.isBegun then [] else [batchLock run.dataVersion]
  | .ingest run => run.locks
  | .ended => []

/-- The rows that a statement writes: a conflict that sets nothing leaves the row unlocked. -/
def Statement.locks (statement : Statement) (db : Database) : List Lock :=
  (statement.records.filter fun record =>
    statement.table.onConflict.set ≠ [] ∨
      statement.table.keyOf record ∉ (db statement.table).map statement.table.keyOf).map
    fun record => (statement.table, statement.table.keyOf record)

/-- What the statements of a transaction make of the committed rows. -/
def replay (statements : List Statement) (db : Database) : Option Database :=
  statements.foldlM (fun db statement => statement.apply db) db

structure World where
  db : Database
  sessions : List Session

def World.waits (world : World) (id : Nat) (locks : List Lock) : Bool :=
  world.sessions.zipIdx.any fun entry => entry.2 ≠ id && locks.any (· ∈ entry.1.locks)

def World.put (world : World) (id : Nat) (session : Session) : World :=
  { world with sessions := world.sessions.set id session }

section Steps

inductive Action
  | beginRelease (dataVersion : JsText) (manifest : ReleaseManifest) (dryRun : Bool)
      (startedAt : JsText)
  | beginIngest (request : Request) (invocation : Invocation)
  /-- The next statement of a release; the governance is what it reads of it. -/
  | releaseStatement (id : Nat) (governance : ReleaseGovernance)
  | ingestStatement (id : Nat)
  /-- The release commits, and prints the status released. -/
  | commitRelease (id : Nat)
  | commitIngest (id : Nat)
  /-- The process of the session breaks off, or its connection does. -/
  | abort (id : Nat)

variable (platform : Platform)

/-- The next statement of a release; a run that goes on no further is rolled back. -/
def World.releaseStatement (world : World) (id : Nat) (run : ReleaseRun)
    (governance : ReleaseGovernance) : Option World :=
  match run.stage with
  | .updated _ => none
  | .begun =>
    if (versionRows world.db run.dataVersion .dataVersionBatch).length ≠ 0 &&
        world.waits id [batchLock run.dataVersion] then
      none
    else
      some <| world.put id <|
        match run.nextStage world.db governance with
        | some stage => .release { run with stage := stage }
        | none => .ended
  | _ =>
    some <| world.put id <|
      match run.nextStage world.db governance with
      | some stage => .release { run with stage := stage }
      | none => .ended

/-- The next statement of an ingest; one that fails rolls the transaction back. -/
def World.ingestStatement (world : World) (id : Nat) (run : IngestRun) : Option World :=
  match run.rest with
  | [] => none
  | statement :: rest =>
    let locks := statement.locks world.db
    if world.waits id locks then none
    else if (replay (run.done ++ [statement]) world.db).isSome then
      some <| world.put id <| .ingest
        { run with done := run.done ++ [statement], rest := rest, locks := run.locks ++ locks }
    else
      some (world.put id .ended)

/-- A step of the system; none where the action is not possible, or has to wait. -/
def step (world : World) : Action → Option World
  | .beginRelease dataVersion manifest dryRun startedAt =>
    some
      { world with
        sessions := world.sessions ++
          [.release ⟨dataVersion, manifest, dryRun, startedAt, .begun⟩] }
  | .beginIngest request invocation =>
    if invocation.allows world.db request.dataVersion then
      some
        { world with
          sessions := world.sessions ++
            [.ingest ⟨request, [], request.statements platform, []⟩] }
    else none
  | .releaseStatement id governance =>
    match world.sessions[id]? with
    | some (.release run) => world.releaseStatement id run governance
    | _ => none
  | .ingestStatement id =>
    match world.sessions[id]? with
    | some (.ingest run) => world.ingestStatement id run
    | _ => none
  | .commitRelease id =>
    match world.sessions[id]? with
    | some (.release run) =>
      match run.stage with
      | .updated _ => some { world.put id .ended with db := run.committed world.db }
      | _ => none
    | _ => none
  | .commitIngest id =>
    match world.sessions[id]? with
    | some (.ingest run) =>
      match run.rest with
      | [] => (replay run.done world.db).map fun db => { world.put id .ended with db := db }
      | _ :: _ => none
    | _ => none
  | .abort id => if id < world.sessions.length then some (world.put id .ended) else none

end Steps

def AtMostOneReleased (db : Database) : Prop :=
  ∀ row ∈ db .dataVersionBatch, ∀ other ∈ db .dataVersionBatch,
    isIpoVersion (row .dataVersion) = true → isIpoVersion (other .dataVersion) = true →
      row .releaseState = asText "released" → other .releaseState = asText "released" →
        row .dataVersion = other .dataVersion

def InState (db : Database) (dataVersion : JsText) (state : String) : Prop :=
  ∃ row, versionRows db dataVersion .dataVersionBatch = [row] ∧ row .releaseState = asText state

/-- What is promised of a step. -/
structure Lawful (world : World) (action : Action) (next : World) : Prop where
  one : AtMostOneReleased next.db
  /-- A release that commits has changed its version from held to released. -/
  changed : ∀ id run, action = .commitRelease id → world.sessions[id]? = some (.release run) →
    InState world.db run.dataVersion "held" ∧ InState next.db run.dataVersion "released"
  /-- The rows of its version are then as many as its manifest says. -/
  counts : ∀ id run, action = .commitRelease id → world.sessions[id]? = some (.release run) →
    ∀ table ∈ gateTables,
      (JsNumber.ofNat (readReleaseCounts next.db run.dataVersion table)).strictEquals
        (run.manifest.expectedCounts table) = true

/-- Since a release has read it, another version was released or its own rows have become more or
fewer. -/
def ReleaseRun.IsOvertaken (run : ReleaseRun) (db : Database) : Prop :=
  (isIpoVersion (some (.text run.dataVersion)) = true ∧
      (releasedRefusal db run.dataVersion).isSome = true) ∨
    ∃ counts, run.stage.counts = some counts ∧
      ∃ table ∈ gateTables, readReleaseCounts db run.dataVersion table ≠ counts table

def NotOvertaken (world : World) : Action → Prop
  | .commitRelease id =>
    ∀ run, world.sessions[id]? = some (.release run) → ¬run.IsOvertaken world.db
  | _ => True

instance (run : ReleaseRun) (db : Database) : Decidable (run.IsOvertaken db) :=
  decidable_of_iff
    ((isIpoVersion (some (.text run.dataVersion)) = true ∧
        (releasedRefusal db run.dataVersion).isSome = true) ∨
      run.stage.counts.any (fun counts => gateTables.any fun table =>
        readReleaseCounts db run.dataVersion table ≠ counts table) = true)
    (by simp [ReleaseRun.IsOvertaken, Option.any_eq_true])

end Aiphabee.IpoIngest
