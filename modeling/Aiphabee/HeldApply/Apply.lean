import Aiphabee.HeldApply.Payload

/-!
# Applying a payload and reading it back

An apply writes the seven groups of a payload in one transaction, counts what is
then stored under its batch, its version and its run, and commits when the sum
of the counts is the number of its rows.  A later readback of a run counts the
same rows once more and compares them with what the row of the run says.
-/

namespace Aiphabee.HeldApply

open Checks
open JsText (ofString)
open SandboxAuth (JsonValue)
open JsonMembers (member stringMember)

structure HeldIds where
  batch : JsText
  version : JsText
  run : JsText

def idsOf (payload : JsonValue) : HeldIds where
  batch := (stringMember payload "source_batch_id").getD []
  version := (stringMember payload "data_version").getD []
  run := (stringMember payload "source_run_id").getD []

variable (ids : HeldIds)

def HeldIds.get : HeldColumn → JsText
  | .sourceBatchId => ids.batch
  | .dataVersion => ids.version
  | _ => ids.run

def HeldTable.countColumn : HeldTable → HeldColumn
  | .rawSourceBatch => .sourceBatchId
  | .dataVersionBatch | .rawSnapshot => .dataVersion
  | _ => .sourceRunId

/-- The condition on the id in a count; a comparison with null is not true. -/
def linked (table : HeldTable) (row : HeldRow) : Prop :=
  row table.countColumn = some (.text (ids.get table.countColumn))

instance (ids : HeldIds) (table : HeldTable) :
    DecidablePred (linked ids table) := fun _ =>
  inferInstanceAs (Decidable (_ = _))

def textCell (value : String) : HeldCell :=
  .text (ofString value)

/-- The other conditions in a count. -/
def marks : HeldTable → List (HeldColumn × HeldCell)
  | .rawSourceBatch => []
  | .dataVersionBatch => [(.releaseState, textCell "held")]
  | .rawSnapshot =>
    [(.recordKind, textCell "hk_ipo_public_source_record"), (.qualityState, textCell "HOLD")]
  | .sourceRun =>
    [(.status, textCell "held"), (.sourceMode, textCell "live"),
      (.writesServingTables, .boolean false)]
  | .observation =>
    [(.rawSnapshotRequired, .boolean true), (.reconciledWithHkex, .boolean false),
      (.qualityState, textCell "HOLD")]
  | .reconciliationRow | .supplementCandidate =>
    [(.rawSnapshotRequired, .boolean true), (.promotesFact, .boolean false),
      (.qualityState, textCell "HOLD")]

def marked (table : HeldTable) (row : HeldRow) : Prop :=
  ∀ mark ∈ marks table, row mark.1 = some mark.2

instance (table : HeldTable) : DecidablePred (marked table) := fun _ =>
  inferInstanceAs (Decidable (∀ _ ∈ _, _))

/-- `select count(*) … where`. -/
def countRows (db : HeldDb) (table : HeldTable) : Nat :=
  ((db table).filter fun row => linked ids table row ∧ marked table row).card

def selectedRows (db : HeldDb) : Nat :=
  (HeldTable.all.map (countRows ids db)).sum

section Apply

inductive ApplyStage
  | connect
  | beginTransaction
  | upsert (table : HeldTable)
  | selectReadback
  | validateReadback
  | commit

variable (platform : HeldPlatform)

/-- One of the seven statements, with the constraints of the schema at its end. -/
def upsertGroup (payload : JsonValue) (db : HeldDb) (table : HeldTable) : Option HeldDb :=
  (recordset platform table (rowGroup payload table)).bind fun staged =>
    (Sql.upsertRows table.key .doUpdate (db table) staged).bind fun rows =>
      let after := Function.update db table rows
      if constraintsHold after then some after else none

/--
`runHkIpoPublicHeldDbApply`: the tables after its commit, or the stage at which
it fails.  Besides what a statement itself refuses, any of them may break from
outside.
-/
def runHeldDbApply (breaks : ApplyStage → Bool) (payload : JsonValue) (db : HeldDb) :
    Except ApplyStage HeldDb := do
  ensure (breaks .connect = false) .connect
  ensure (breaks .beginTransaction = false) .beginTransaction
  let after ← HeldTable.all.foldlM (fun db table => do
    ensure (breaks (.upsert table) = false) (.upsert table)
    require (upsertGroup platform payload db table) (.upsert table)) db
  ensure (breaks .selectReadback = false) .selectReadback
  ensure (selectedRows (idsOf payload) after = totalRows payload) .validateReadback
  ensure (breaks .commit = false) .commit
  pure after

end Apply

section Readback

inductive ReadbackFailure
  | selectedRowCountMismatch
  | observationCountMismatch
  | reconciliationCountMismatch
  | supplementCountMismatch
  | rawSnapshotEnvelopeMismatch
  | rawSnapshotPayloadLeak
  | objectKeyCountMismatch
  | objectStoreMissing

/-- `payload ? key`. -/
def hasKey (payload : JsonValue) (key : String) : Bool :=
  match payload with
  | .array elements => elements.contains (.string (ofString key))
  | .string text => text = ofString key
  | payload => (member payload key).isSome

structure ReadbackPlatform where
  /-- The text of a JSON value that is not null, no string and no boolean. -/
  jsonText : JsonValue → JsText
  /-- The values in the order of `order by object_key`. -/
  orderKeys : Multiset (Option JsText) → List (Option JsText)
  orderKeys_coe : ∀ keys, (orderKeys keys : Multiset (Option JsText)) = keys
  /-- An object of the store is there; none where the store is not to be read. -/
  objectExists : Option (JsText → Bool)

variable (reading : ReadbackPlatform)

/-- `payload->>key`. -/
def memberText (payload : JsonValue) (key : String) : Option JsText :=
  match member payload key with
  | none | some .null => none
  | some (.string text) => some text
  | some (.boolean value) => some (ofString (if value then "true" else "false"))
  | some value => some (reading.jsonText value)

def payloadOf (row : HeldRow) : JsonValue :=
  match row .payload with
  | some (.json payload) => payload
  | _ => .null

def isEnvelope (payload : JsonValue) : Bool :=
  memberText reading payload "storage_target" = some (ofString "external_raw_snapshot_store") &&
    memberText reading payload "payload_body_included" = some (ofString "false") &&
    memberText reading payload "raw_html_included" = some (ofString "false") &&
    hasKey payload "object_key" && hasKey payload "payload_hash_sha256"

def isLeak (payload : JsonValue) : Bool :=
  hasKey payload "payload_body" || hasKey payload "raw_html" ||
    (memberText reading payload "payload_body_included").getD [] ≠ ofString "false" ||
    (memberText reading payload "raw_html_included").getD [] ≠ ofString "false"

variable (ids : HeldIds)
variable (db : HeldDb)

def snapshotsOf : Multiset HeldRow :=
  (db .rawSnapshot).filter fun row => linked ids .rawSnapshot row ∧ marked .rawSnapshot row

def objectKeys (snapshots : Multiset HeldRow) : Multiset (Option JsText) :=
  (((snapshots.map payloadOf).filter fun payload => hasKey payload "object_key").map fun payload =>
    memberText reading payload "object_key").dedup

/-- The keys that are read back: the first hundred, without the missing and the empty ones. -/
def objectKeyValues (snapshots : Multiset HeldRow) : List JsText :=
  ((reading.orderKeys (objectKeys reading snapshots)).take 100).filterMap fun key =>
    key.filter fun text => text ≠ []

def snapshotFailures (snapshots : Multiset HeldRow) : List ReadbackFailure :=
  let payloads := snapshots.map payloadOf
  let keys := objectKeyValues reading snapshots
  errorWhen
    (snapshots.card ≠ (payloads.filter fun payload => isEnvelope reading payload).card)
      .rawSnapshotEnvelopeMismatch ++
    errorWhen ((payloads.filter fun payload => isLeak reading payload).card ≠ 0)
      .rawSnapshotPayloadLeak ++
    errorWhen
      (keys.length ≠ ((objectKeys reading snapshots).filter fun key => key.isSome).card)
      .objectKeyCountMismatch ++
    errorWhen (∃ isThere ∈ reading.objectExists, ∃ key ∈ keys, isThere key = false)
      .objectStoreMissing

/-- `Number(row.column ?? 0)`. -/
def integerOf (row : HeldRow) (column : HeldColumn) : Int :=
  match row column with
  | some (.integer value) => value
  | _ => 0

/-- What a readback finds wrong about the numbers of rows. -/
def countFailures (runRow : HeldRow) : List ReadbackFailure :=
  let count := countRows ids db
  errorWhen
      ((selectedRows ids db : Int) ≠
        3 + count .rawSnapshot + integerOf runRow .observationCount +
          integerOf runRow .reconciliationRowCount + integerOf runRow .supplementCandidateCount)
      .selectedRowCountMismatch ++
    errorWhen ((count .observation : Int) ≠ integerOf runRow .observationCount)
      .observationCountMismatch ++
    errorWhen ((count .reconciliationRow : Int) ≠ integerOf runRow .reconciliationRowCount)
      .reconciliationCountMismatch ++
    errorWhen
      ((count .supplementCandidate : Int) ≠ integerOf runRow .supplementCandidateCount)
      .supplementCountMismatch

def readbackRows : Multiset HeldRow :=
  (db .sourceRun).filter fun row =>
    row .sourceRunId = some (.text ids.run) ∧ row .sourceBatchId = some (.text ids.batch) ∧
      row .dataVersion = some (.text ids.version) ∧ marked .sourceRun row

/--
`runHkIpoPublicHeldDbReadback` in mode specific: the failures that it may find,
for each row of the run that it may take.  Without such a row there is no run to
read back.
-/
def runHeldDbReadback : Multiset (List ReadbackFailure) :=
  (readbackRows ids db).map fun runRow =>
    countFailures ids db runRow ++ snapshotFailures reading (snapshotsOf ids db)

end Readback

end Aiphabee.HeldApply
