import Aiphabee.IpoIngest.Ingest

/-!
# The plan of a release

What the release script reads in its transaction before it changes the state of a
version, one statement after the other, and on what it refuses to go on.
-/

namespace Aiphabee.IpoIngest

/-- The tables whose rows are counted. -/
def gateTables : List TableName :=
  .rawSnapshot :: servingTables

inductive ReleaseRefusal
  | batchRows (count : Nat)
  | notHeld (state : Option Cell)
  | otherReleased
  | countMismatch (table : TableName) (count : Nat) (expected : JsNumber)
  | contract
  | catalog

variable (db : Database)
variable (dataVersion : JsText)

def versionRows (table : TableName) : List StoredRow :=
  (db table).filter fun row => row .dataVersion = some (.text dataVersion)

/-- `select … for update`: the one row of the version, which must be held. -/
def batchRefusal : Option ReleaseRefusal :=
  match versionRows db dataVersion .dataVersionBatch with
  | [row] =>
    if row .releaseState = asText "held" then none else some (.notHeld (row .releaseState))
  | rows => some (.batchRows rows.length)

def isOtherReleased (row : StoredRow) : Bool :=
  isIpoVersion (row .dataVersion) && row .releaseState = asText "released" &&
    row .dataVersion ≠ some (.text dataVersion)

def releasedRefusal : Option ReleaseRefusal :=
  if (db .dataVersionBatch).any (isOtherReleased dataVersion) then some .otherReleased else none

def readReleaseCounts (table : TableName) : Nat :=
  (versionRows db dataVersion table).length

/-- The numbers of the manifest, as `Number` reads them. -/
structure ReleaseManifest where
  expectedCounts : TableName → JsNumber

def expectedReleaseCounts (result : IngestResult) : ReleaseManifest where
  expectedCounts
    | .rawSnapshot => .ofNat result.rawSnapshotCount
    | table => .ofNat (result.servingCounts table)

def countRefusal (counts : TableName → Nat) (manifest : ReleaseManifest) : Option ReleaseRefusal :=
  (gateTables.find? fun table =>
    !(JsNumber.ofNat (counts table)).strictEquals (manifest.expectedCounts table)).map fun table =>
      .countMismatch table (counts table) (manifest.expectedCounts table)

structure ContractRow where
  defaultDataRightsStatus : String
  fieldAuthorizationRequired : Bool
  exportAllowed : Bool
  mcpRedistributionAllowed : Bool

/-- What the database says about the governance of the tables. -/
structure ReleaseGovernance where
  contract : List ContractRow
  defaultDenyDatasets : Nat
  blockedFields : Nat

def contractRefusal (governance : ReleaseGovernance) : Option ReleaseRefusal :=
  match governance.contract with
  | [row] =>
    if row.defaultDataRightsStatus ≠ "default_deny" ∨ row.fieldAuthorizationRequired = false ∨
        row.exportAllowed = true ∨ row.mcpRedistributionAllowed = true then
      some .contract
    else none
  | _ => some .contract

def catalogRefusal (governance : ReleaseGovernance) : Option ReleaseRefusal :=
  if governance.defaultDenyDatasets < 7 ∨ governance.blockedFields < 4 then some .catalog else none

def buildReleasePlan (manifest : ReleaseManifest) (governance : ReleaseGovernance)
    (dataVersion : JsText) : Option ReleaseRefusal :=
  (batchRefusal db dataVersion).or <| (releasedRefusal db dataVersion).or <|
    (countRefusal (readReleaseCounts db dataVersion) manifest).or <|
      (contractRefusal governance).or (catalogRefusal governance)

section Counts

theorem strictEquals_ofNat {count expected : Nat} :
    (JsNumber.ofNat count).strictEquals (.ofNat expected) = true ↔ count = expected := by
  simp [JsNumber.strictEquals, JsNumber.ofNat]

variable {manifest : ReleaseManifest}

theorem countRefusal_eq_none_iff {counts : TableName → Nat} :
    countRefusal counts manifest = none ↔ ∀ table ∈ gateTables,
      (JsNumber.ofNat (counts table)).strictEquals (manifest.expectedCounts table) = true := by
  simp [countRefusal]

theorem countRefusal_of_plan {db : Database} {governance : ReleaseGovernance} {dataVersion : JsText}
    {table : TableName} {count : Nat} {expected : JsNumber}
    (h : buildReleasePlan db manifest governance dataVersion =
      some (.countMismatch table count expected)) :
    countRefusal (readReleaseCounts db dataVersion) manifest ≠ none := by
  intro hnone
  rw [buildReleasePlan, hnone, Option.none_or] at h
  simp only [Option.or_eq_some_iff] at h
  rcases h with hbatch | ⟨-, hreleased | ⟨-, hcontract | ⟨-, hcatalog⟩⟩⟩
  · unfold batchRefusal at hbatch
    split at hbatch
    · split at hbatch <;> cases hbatch
    · cases hbatch
  · unfold releasedRefusal at hreleased
    split at hreleased <;> cases hreleased
  · unfold contractRefusal at hcontract
    split at hcontract
    · split at hcontract <;> cases hcontract
    · cases hcontract
  · unfold catalogRefusal at hcatalog
    split at hcatalog <;> cases hcatalog

theorem expectedCounts_result (platform : Platform) (request : Request) (table : TableName) :
    (expectedReleaseCounts (request.result platform)).expectedCounts table =
      .ofNat (request.records platform table).length := by
  cases table <;> rfl

end Counts

end Aiphabee.IpoIngest
