import Aiphabee.IpoIngest.ReleasePlan
import Aiphabee.IpoIngest.ReleasedRows

/-!
# The counts of an ingest and of its release

An ingest reports how many records it has made, and the gate of the release
counts the rows that are stored.  Records with the same key become one row, so
that the two agree exactly when the records of every table have keys of their
own.
-/

namespace Aiphabee.IpoIngest

section Agreement

variable (platform : Platform)
variable (request : Request)

structure Fresh (db : Database) (dataVersion : JsText) : Prop where
  serving : ∀ table ∈ servingTables, db table = []
  snapshots : versionRows db dataVersion .rawSnapshot = []

def sourcePayloads : List (Option Cell) :=
  (expectedNewipoTables ++ referencedCodeTables).flatMap fun table =>
    (request.bundle.rows table.name).map fun row => some (.payload table.name row)

structure CountsAgree (result : IngestResult) (after : Database) : Prop where
  /-- Every row of the bundle is the payload of one snapshot of the version. -/
  snapshots : ((versionRows after request.dataVersion .rawSnapshot).map fun row =>
    row .payload).Perm (sourcePayloads request)
  counts : ∀ table ∈ gateTables,
    JsNumber.ofNat (readReleaseCounts after request.dataVersion table) =
    (expectedReleaseCounts result).expectedCounts table
  /-- The release is not refused for a count. -/
  gate : ∀ governance table count expected,
    buildReleasePlan after (expectedReleaseCounts result) governance request.dataVersion ≠
      some (.countMismatch table count expected)
  /-- The same bundle once more changes none of the rows and reports the same. -/
  again : ∀ invocation breaksAt repeated second,
    ingestToLocalPostgres platform request invocation breaksAt after =
    (.committed repeated, second) →
      repeated = result ∧ ∀ table ∈ gateTables, second table = after table

/-- The records of every counted table have keys of their own. -/
def Separate (db : Database) : Prop :=
  ∀ table ∈ gateTables, ((request.records platform table).map table.keyOf).Nodup ∧
    ∀ record ∈ request.records platform table, table.keyOf record ∉ (db table).map table.keyOf

instance (db : Database) : Decidable (Separate platform request db) :=
  inferInstanceAs (Decidable (∀ _ ∈ _, _))

end Agreement

section Counting

variable {platform : Platform}
variable {request : Request}
variable {db : Database}

variable {table : TableName}

theorem mem_versionedTables (h : table ∈ gateTables) : table ∈ versionedTables :=
  List.mem_cons_of_mem _ h

/-- Where nothing is of the version yet, an insertion leaves the old rows without it. -/
theorem versionRows_absorb (htable : table ∈ gateTables) (hfresh : Fresh db request.dataVersion) :
    ((db table).map (Sql.absorb table.onConflict (request.records platform table))).filter
      (fun row => row .dataVersion = some (.text request.dataVersion)) = [] := by
  rcases List.mem_cons.mp htable with rfl | hserving
  · have hself : ∀ row, Sql.absorb (TableName.onConflict .rawSnapshot)
        (request.records platform .rawSnapshot) row = row := by
      intro row
      refine absorb_eq_self_iff.mpr fun last _ => ?_
      rfl
    rw [funext hself, List.map_id']
    exact hfresh.snapshots
  · rw [hfresh.serving table hserving]
    rfl

theorem versionRows_inserted (htable : table ∈ gateTables) (hfresh : Fresh db request.dataVersion) :
    (Sql.insertAll table.onConflict (db table) (request.records platform table)).filter
        (fun row => row .dataVersion = some (.text request.dataVersion)) =
      Sql.insertAll table.onConflict [] ((request.records platform table).filter fun record =>
        table.keyOf record ∉ (db table).map table.keyOf) := by
  rw [Sql.insertAll_eq, List.filter_append, versionRows_absorb htable hfresh, List.nil_append]
  have hall : ∀ row ∈ Sql.insertAll table.onConflict []
      ((request.records platform table).filter fun record =>
        table.keyOf record ∉ (db table).map table.keyOf),
      row .dataVersion = some (.text request.dataVersion) := by
    refine Sql.forall_insertAll ?_ (fun _ hrow => absurd hrow List.not_mem_nil) ?_
    · intro old new hold hnew
      rw [Sql.setColumns]
      split
      · exact hnew
      · exact hold
    · intro record hrecord
      exact dataVersion_of_mem_records (mem_versionedTables htable) (List.mem_filter.mp hrecord).1
  exact List.filter_eq_self.mpr fun row hrow => decide_eq_true (hall row hrow)

variable {after : Database}
variable {invocation : Invocation}
variable {breaksAt : Option Nat}
variable {result : IngestResult}

theorem count_eq_iff (hfresh : Fresh db request.dataVersion)
    (hrun : ingestToLocalPostgres platform request invocation breaksAt db =
      (.committed result, after))
    (htable : table ∈ gateTables) :
    readReleaseCounts after request.dataVersion table = (request.records platform table).length ↔
      ((request.records platform table).map table.keyOf).Nodup ∧
        ∀ record ∈ request.records platform table,
          table.keyOf record ∉ (db table).map table.keyOf := by
  rw [readReleaseCounts, versionRows, table_of_committed hrun, versionRows_inserted htable hfresh]
  exact Sql.length_insertAll_filter_iff _ _

theorem counts_iff (hfresh : Fresh db request.dataVersion)
    (hrun : ingestToLocalPostgres platform request invocation breaksAt db =
      (.committed result, after)) :
    (∀ table ∈ gateTables, JsNumber.ofNat (readReleaseCounts after request.dataVersion table) =
      (expectedReleaseCounts result).expectedCounts table) ↔ Separate platform request db := by
  refine forall₂_congr fun table htable => ?_
  rw [← count_eq_iff hfresh hrun htable, result_of_committed hrun, expectedCounts_result]
  simp [JsNumber.ofNat]

theorem payload_rawRows :
    (rawRows platform request).map (fun row => row .payload) = sourcePayloads request := by
  rw [rawRows, sourcePayloads, List.map_flatMap]
  refine List.flatMap_congr fun table _ => ?_
  rw [List.map_map, Request.rows]
  have hrow : ((fun row : StoredRow => row .payload) ∘ fun entry : SourceRow × Nat =>
      rawSnapshotRow platform request table entry.1 entry.2) =
      (fun row => some (.payload table.name row)) ∘ Prod.fst := rfl
  rw [hrow, ← List.map_map, List.zipIdx_map_fst]

theorem snapshots_of_separate (hfresh : Fresh db request.dataVersion)
    (hrun : ingestToLocalPostgres platform request invocation breaksAt db =
      (.committed result, after))
    (hseparate : Separate platform request db) :
    (versionRows after request.dataVersion .rawSnapshot).map (fun row => row .payload) =
      sourcePayloads request := by
  obtain ⟨hnodup, hfree⟩ := hseparate .rawSnapshot (by decide)
  have hall : ((request.records platform .rawSnapshot).filter fun record =>
      TableName.keyOf .rawSnapshot record ∉ (db .rawSnapshot).map (TableName.keyOf .rawSnapshot)) =
      request.records platform .rawSnapshot :=
    List.filter_eq_self.mpr fun record hrecord => decide_eq_true (hfree record hrecord)
  rw [versionRows, table_of_committed hrun, versionRows_inserted (by decide) hfresh, hall,
    Sql.insertAll_of_nodup hnodup (fun _ _ => List.not_mem_nil), List.nil_append]
  exact payload_rawRows

/-- The counts and the snapshots agree exactly when the records have keys of their own. -/
theorem countsAgree_of_committed (hfresh : Fresh db request.dataVersion)
    (hrun : ingestToLocalPostgres platform request invocation breaksAt db =
      (.committed result, after)) :
    CountsAgree platform request result after ↔ Separate platform request db := by
  constructor
  · exact fun hagree => (counts_iff hfresh hrun).mp hagree.counts
  · intro hseparate
    have hcounts := (counts_iff hfresh hrun).mpr hseparate
    refine ⟨?_, hcounts, ?_, ?_⟩
    · rw [snapshots_of_separate hfresh hrun hseparate]
    · intro governance table count expected hplan
      refine countRefusal_of_plan hplan (countRefusal_eq_none_iff.mpr fun table htable => ?_)
      rw [← hcounts table htable]
      exact strictEquals_ofNat.mpr rfl
    · intro second breaks repeated last hagain
      refine ⟨(result_of_committed hagain).trans (result_of_committed hrun).symm, ?_⟩
      intro table _
      rw [table_of_committed hagain, table_of_committed hrun, Sql.insertAll_again]

/--
An ingest into a database without versions agrees with its release exactly when
the records of every counted table have keys of their own; one that does not
commit leaves the database as it was.
-/
theorem ingest_countsAgree_iff (platform : Platform) (request : Request) (invocation : Invocation)
    (breaksAt : Option Nat) (db : Database) (hfresh : Fresh db request.dataVersion) :
    match ingestToLocalPostgres platform request invocation breaksAt db with
    | (.committed result, after) =>
      CountsAgree platform request result after ↔ Separate platform request db
    | (_, after) => after = db := by
  cases hrun : ingestToLocalPostgres platform request invocation breaksAt db with
  | mk outcome after =>
    cases outcome with
    | committed result => exact countsAgree_of_committed hfresh hrun
    | refused | rolledBack => exact unchanged_of_not_committed hrun nofun

end Counting

def emptyDatabase : Database := fun _ => []

theorem fresh_emptyDatabase (dataVersion : JsText) : Fresh emptyDatabase dataVersion where
  serving := fun _ _ => rfl
  snapshots := rfl

/-- A run on the local database. -/
def localInvocation : Invocation where
  target := .local
  allowRemoteHeldIngest := false

/-- The first bundle of one offering is committed, and its counts agree. -/
theorem ingest_countsAgree_oneOffering :
    ∃ result after,
      ingestToLocalPostgres plainPlatform secondRequest localInvocation none emptyDatabase =
          (.committed result, after) ∧
        CountsAgree plainPlatform secondRequest result after := by
  have hiff := ingest_countsAgree_iff plainPlatform secondRequest localInvocation none
    emptyDatabase (fresh_emptyDatabase secondRequest.dataVersion)
  have hcommitted : (ingestToLocalPostgres plainPlatform secondRequest localInvocation none
      emptyDatabase).1.isCommitted = true := by
    decide +kernel
  cases hrun : ingestToLocalPostgres plainPlatform secondRequest localInvocation none
    emptyDatabase with
  | mk outcome after =>
    rw [hrun] at hiff hcommitted
    cases outcome with
    | committed result => exact ⟨result, after, rfl, hiff.mpr (by decide +kernel)⟩
    | refused | rolledBack => cases hcommitted

/-- Two rows of one offering, the codes of which differ in a space. -/
def spacedCodes : Bundle := fun name =>
  if name = "CompanySummary" then
    some
      { headers := ["Code", "ListingDate"]
        records :=
          [[JsText.ofString " 01234", JsText.ofString "2024-01-02"],
            [JsText.ofString "01234", JsText.ofString "2024-01-02"]] }
  else none

def spacedRequest : Request :=
  { secondRequest with bundle := spacedCodes }

theorem spacedRun_committed :
    (ingestToLocalPostgres plainPlatform spacedRequest localInvocation none
      emptyDatabase).1.isCommitted = true := by
  decide +kernel

theorem spacedRequest_not_separate :
    ¬Separate plainPlatform spacedRequest emptyDatabase := by
  decide +kernel

/-- The two rows become one offering and one snapshot, and the manifest counts two of each. -/
theorem ingest_not_countsAgree :
    ¬∀ (platform : Platform) (request : Request) (invocation : Invocation)
      (breaksAt : Option Nat) (db : Database), Fresh db request.dataVersion →
        match ingestToLocalPostgres platform request invocation breaksAt db with
        | (.committed result, after) => CountsAgree platform request result after
        | _ => True := by
  intro h
  have hfresh := fresh_emptyDatabase spacedRequest.dataVersion
  have hagree := h plainPlatform spacedRequest localInvocation none emptyDatabase hfresh
  have hcommitted := spacedRun_committed
  cases hrun : ingestToLocalPostgres plainPlatform spacedRequest localInvocation none
    emptyDatabase with
  | mk outcome after =>
    rw [hrun] at hagree hcommitted
    cases outcome with
    | committed result =>
      exact spacedRequest_not_separate ((countsAgree_of_committed hfresh hrun).mp hagree)
    | refused => cases hcommitted
    | rolledBack => cases hcommitted

end Aiphabee.IpoIngest
