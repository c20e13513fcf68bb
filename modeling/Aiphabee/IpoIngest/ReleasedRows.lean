import Aiphabee.IpoIngest.Ingest

/-!
# What an ingest does to released rows

Some of the tables are met on keys without the version, so that a record of the
run takes a row of another version over.  A run leaves what is released alone
exactly when its version is not a released one and it meets no released row of
those tables.  Before the transaction only a remote database is looked at.
-/

namespace Aiphabee.IpoIngest

section Versions

variable {platform : Platform}
variable {request : Request}

def versionedTables : List TableName :=
  [.dataVersionBatch, .rawSnapshot] ++ servingTables

theorem mem_offeringRows {tableName : String}
    {records : SourceRow → JsText → JsText → List StoredRow} {record : StoredRow}
    (h : record ∈ offeringRows request tableName records) :
    ∃ row offeringId sourceRecordId, record ∈ records row offeringId sourceRecordId := by
  obtain ⟨⟨row, index⟩, -, hrecord⟩ := List.mem_flatMap.mp h
  dsimp only at hrecord
  split at hrecord
  · exact ⟨row, _, _, hrecord⟩
  · cases hrecord

theorem dataVersion_of_mem_records {table : TableName} (htable : table ∈ versionedTables)
    {record : StoredRow} (h : record ∈ request.records platform table) :
    record .dataVersion = some (.text request.dataVersion) := by
  cases table with
  | rawSourceBatch => exact absurd htable (by decide)
  | dataVersionBatch =>
    obtain rfl := List.mem_singleton.mp h
    rfl
  | rawSnapshot =>
    obtain ⟨table, -, hrow⟩ := List.mem_flatMap.mp h
    obtain ⟨⟨row, index⟩, -, rfl⟩ := List.mem_map.mp hrow
    rfl
  | vendorCode =>
    obtain ⟨table, -, hrow⟩ := List.mem_flatMap.mp h
    obtain ⟨⟨row, index⟩, -, hsome⟩ := List.mem_filterMap.mp hrow
    dsimp only at hsome
    split at hsome
    · obtain ⟨code, -, rfl⟩ := Option.map_eq_some_iff.mp hsome
      rfl
    · cases hsome
  | ipoOffering =>
    obtain ⟨⟨row, index⟩, -, hsome⟩ := List.mem_filterMap.mp h
    dsimp only at hsome
    split at hsome
    · rw [← Option.some.inj hsome]
      rfl
    · cases hsome
  | ipoNarrative =>
    rw [Request.records, narrativeRecords] at h
    obtain ⟨row, offeringId, sourceRecordId, hrecord⟩ := mem_offeringRows h
    obtain ⟨⟨sectionKey, fields⟩, -, hsection⟩ := List.mem_flatMap.mp hrecord
    obtain ⟨⟨lang, field⟩, -, hsome⟩ := List.mem_filterMap.mp hsection
    obtain ⟨raw, -, rfl⟩ := Option.map_eq_some_iff.mp hsome
    rfl
  | ipoTimetableEvent =>
    rw [Request.records, timetableEventRecords] at h
    obtain ⟨row, offeringId, sourceRecordId, hrecord⟩ := mem_offeringRows h
    obtain ⟨⟨eventCode, suffix⟩, -, hsome⟩ := List.mem_filterMap.mp hrecord
    obtain ⟨eventDate, -, rfl⟩ := Option.map_eq_some_iff.mp hsome
    rfl
  | ipoOfferStatistic =>
    rw [Request.records, offerStatisticRecords] at h
    obtain ⟨row, offeringId, sourceRecordId, hrecord⟩ := mem_offeringRows h
    obtain ⟨⟨metricKey, fields⟩, -, hsome⟩ := List.mem_filterMap.mp hrecord
    dsimp only at hsome
    split at hsome
    · cases hsome
    · rw [← Option.some.inj hsome]
      rfl
  | ipoCornerstone =>
    rw [Request.records, cornerstoneRecords] at h
    obtain ⟨row, offeringId, sourceRecordId, hrecord⟩ := mem_offeringRows h
    rw [List.mem_singleton.mp hrecord]
    rfl
  | ipoAllotmentSummary =>
    rw [Request.records, allotmentSummaryRecords] at h
    obtain ⟨row, offeringId, sourceRecordId, hrecord⟩ := mem_offeringRows h
    rw [List.mem_singleton.mp hrecord]
    rfl
  | ipoPipelineApplication =>
    obtain ⟨⟨row, index⟩, -, hsome⟩ := List.mem_filterMap.mp h
    obtain ⟨appCode, -, rfl⟩ := Option.map_eq_some_iff.mp hsome
    rfl

end Versions

section Released

variable (platform : Platform)
variable (request : Request)

def IsReleased (db : Database) (version : Cell) : Prop :=
  ∃ row ∈ db .dataVersionBatch, row .dataVersion = some version ∧
    row .releaseState = asText "released"

def IsReleasedRow (db : Database) (row : StoredRow) : Prop :=
  ∃ version, row .dataVersion = some version ∧ IsReleased db version

structure ReleasedKept (db after : Database) : Prop where
  rows : ∀ table ∈ versionedTables, ∀ row ∈ db table, IsReleasedRow db row → row ∈ after table
  versions : ∀ version, IsReleased db version → IsReleased after version

/-- The tables that are met on keys without the version, and take the version of the run. -/
def relabelledTables : List TableName :=
  [.ipoOffering, .ipoAllotmentSummary, .ipoPipelineApplication]

/-- The tables that are met on an identifier alone, and keep the version. -/
def rewrittenTables : List TableName :=
  [.ipoTimetableEvent, .ipoCornerstone]

/-- The run has nothing in common with what is released. -/
structure Spares (db : Database) : Prop where
  version : ¬IsReleased db (.text request.dataVersion)
  relabelled : ∀ table ∈ relabelledTables, ∀ row ∈ db table, IsReleasedRow db row →
    table.keyOf row ∉ (request.records platform table).map table.keyOf
  /-- The last record with the identifier of a released row has the values of the row. -/
  rewritten : ∀ table ∈ rewrittenTables, ∀ row ∈ db table, IsReleasedRow db row → ∀ last,
    ((request.records platform table).filter fun record =>
      table.keyOf record = table.keyOf row).getLast? = some last →
    Sql.setColumns table.onConflict.set row last = row

variable {platform : Platform}
variable {request : Request}
variable {db after : Database}

variable {table : TableName}
variable {row : StoredRow}

theorem not_met_of_version_in_key (htable : table ∈ versionedTables)
    (hkey : Column.dataVersion ∈ table.onConflict.target)
    (hversion : ¬IsReleased db (.text request.dataVersion)) (hrow : IsReleasedRow db row) :
    table.keyOf row ∉ (request.records platform table).map table.keyOf := by
  intro hmem
  obtain ⟨record, hrecord, hsame⟩ := List.mem_map.mp hmem
  obtain ⟨version, hcarries, hreleased⟩ := hrow
  have hequal := List.map_inj_left.mp hsame .dataVersion hkey
  rw [dataVersion_of_mem_records htable hrecord, hcarries] at hequal
  rw [Option.some.inj hequal] at hversion
  exact hversion hreleased

theorem absorb_eq_self_iff :
    Sql.absorb table.onConflict (request.records platform table) row = row ↔
      ∀ last, ((request.records platform table).filter fun record =>
          table.keyOf record = table.keyOf row).getLast? = some last →
        Sql.setColumns table.onConflict.set row last = row := by
  rw [Sql.absorb]
  have hfilter : ((request.records platform table).filter fun record =>
      Sql.keyOf table.onConflict.target record = Sql.keyOf table.onConflict.target row) =
      (request.records platform table).filter fun record =>
        table.keyOf record = table.keyOf row := rfl
  rw [hfilter]
  cases hlast : ((request.records platform table).filter fun record =>
      table.keyOf record = table.keyOf row).getLast? with
  | none => simp
  | some last => simp

theorem not_met_of_absorb (htable : table ∈ versionedTables)
    (hset : Column.dataVersion ∈ table.onConflict.set)
    (hversion : ¬IsReleased db (.text request.dataVersion)) (hrow : IsReleasedRow db row)
    (habsorb : Sql.absorb table.onConflict (request.records platform table) row = row) :
    table.keyOf row ∉ (request.records platform table).map table.keyOf := by
  intro hmem
  obtain ⟨record, hrecord, hsame⟩ := List.mem_map.mp hmem
  have hne : ((request.records platform table).filter fun record =>
      table.keyOf record = table.keyOf row) ≠ [] :=
    List.ne_nil_of_mem (List.mem_filter.mpr ⟨hrecord, decide_eq_true hsame⟩)
  have hlast := List.getLast?_eq_some_getLast hne
  have hin := (List.mem_filter.mp (List.mem_of_getLast? hlast)).1
  have hcolumn := congrFun (absorb_eq_self_iff.mp habsorb _ hlast) .dataVersion
  obtain ⟨version, hcarries, hreleased⟩ := hrow
  rw [Sql.setColumns, if_pos hset, dataVersion_of_mem_records htable hin, hcarries] at hcolumn
  rw [Option.some.inj hcolumn] at hversion
  exact hversion hreleased

theorem version_of_kept
    (hkept : ∀ table ∈ versionedTables, ∀ row ∈ db table, IsReleasedRow db row →
      Sql.absorb table.onConflict (request.records platform table) row = row) :
    ¬IsReleased db (.text request.dataVersion) := by
  rintro ⟨row, hrow, hcarries, hstate⟩
  have habsorb := hkept .dataVersionBatch (by decide) row hrow
    ⟨_, hcarries, row, hrow, hcarries, hstate⟩
  have hkey : TableName.keyOf .dataVersionBatch
      (columns [(.dataVersion, some (.text request.dataVersion)),
        (.sourceBatchId, some (.text request.sourceBatchId)),
        (.methodologyVersion, methodologyVersion),
        (.rightsPolicyVersion, rightsPolicyVersion),
        (.releaseState, asText "held")]) = TableName.keyOf .dataVersionBatch row := by
    change [some (Cell.text request.dataVersion)] = [row .dataVersion]
    rw [hcarries]
  have hcolumn := congrFun (absorb_eq_self_iff.mp habsorb _ (by
    rw [Request.records, upsertDataVersionRecords, List.filter_singleton, decide_eq_true hkey,
      cond_true, List.getLast?_singleton])) .releaseState
  rw [hstate] at hcolumn
  change asText "held" = asText "released" at hcolumn
  exact absurd hcolumn (by decide +kernel)

/-- The released rows are left alone exactly when the run spares them. -/
theorem absorbs_iff_spares :
    (∀ table ∈ versionedTables, ∀ row ∈ db table, IsReleasedRow db row →
      Sql.absorb table.onConflict (request.records platform table) row = row) ↔
      Spares platform request db := by
  constructor
  · intro hkept
    have hversion := version_of_kept hkept
    refine ⟨hversion, ?_, ?_⟩
    · intro table htable row hrow hreleased
      have hin : table ∈ versionedTables ∧ Column.dataVersion ∈ table.onConflict.set := by
        cases table <;> revert htable <;> decide
      exact not_met_of_absorb hin.1 hin.2 hversion hreleased
        (hkept table hin.1 row hrow hreleased)
    · intro table htable row hrow hreleased
      have hin : table ∈ versionedTables := by
        cases table <;> revert htable <;> decide
      exact absorb_eq_self_iff.mp (hkept table hin row hrow hreleased)
  · intro hspares table htable row hrow hreleased
    have hcases : Column.dataVersion ∈ table.onConflict.target ∨ table ∈ relabelledTables ∨
        table ∈ rewrittenTables ∨ table.onConflict.set = [] := by
      cases table <;> revert htable <;> decide
    rcases hcases with hkey | hrelabelled | hrewritten | hset
    · exact Sql.absorb_of_not_mem
        (not_met_of_version_in_key htable hkey hspares.version hreleased)
    · exact Sql.absorb_of_not_mem (hspares.relabelled table hrelabelled row hrow hreleased)
    · exact absorb_eq_self_iff.mpr (hspares.rewritten table hrewritten row hrow hreleased)
    · refine absorb_eq_self_iff.mpr fun last _ => ?_
      rw [hset]
      rfl

/-- A run that commits leaves what is released alone exactly when it spares it. -/
theorem releasedKept_of_committed {invocation : Invocation} {breaksAt : Option Nat}
    {result : IngestResult}
    (h : ingestToLocalPostgres platform request invocation breaksAt db =
      (.committed result, after)) :
    ReleasedKept db after ↔ Spares platform request db := by
  rw [← absorbs_iff_spares]
  constructor
  · intro hkept table htable row hrow hreleased
    have hmem := hkept.rows table htable row hrow hreleased
    rw [table_of_committed h] at hmem
    exact Sql.absorb_insertAll hmem
  · intro habsorbs
    have hrows : ∀ table ∈ versionedTables, ∀ row ∈ db table, IsReleasedRow db row →
        row ∈ after table := by
      intro table htable row hrow hreleased
      rw [table_of_committed h]
      exact (Sql.mem_insertAll_iff hrow).mpr (habsorbs table htable row hrow hreleased)
    refine ⟨hrows, ?_⟩
    rintro version ⟨row, hrow, hcarries, hstate⟩
    exact ⟨row, hrows .dataVersionBatch (by decide) row hrow
      ⟨version, hcarries, row, hrow, hcarries, hstate⟩, hcarries, hstate⟩

/-- A run that commits leaves what is released alone exactly when it spares it; one that does not
leaves the database as it was. -/
theorem ingest_keeps_released_iff (platform : Platform) (request : Request)
    (invocation : Invocation) (breaksAt : Option Nat) (db : Database) :
    match ingestToLocalPostgres platform request invocation breaksAt db with
    | (.committed _, after) => ReleasedKept db after ↔ Spares platform request db
    | (_, after) => after = db := by
  cases hrun : ingestToLocalPostgres platform request invocation breaksAt db with
  | mk outcome after =>
    cases outcome with
    | committed result => exact releasedKept_of_committed hrun
    | refused | rolledBack => exact unchanged_of_not_committed hrun nofun

end Released

def plainPlatform : Platform where
  sha256Text := id
  payloadHash := fun tableName _ => JsText.ofString tableName
  toUpperCase := id
  sanitizeHtml := id
  htmlToText := id

def oneOffering : Bundle := fun name =>
  if name = "CompanySummary" then
    some
      { headers := ["Code", "ListingDate", "OfferPrice"]
        records := [[JsText.ofString "01234", JsText.ofString "2024-01-02", JsText.ofString "2"]] }
  else none

def secondRequest : Request where
  bundle := oneOffering
  bundleHash := JsText.ofString "fedcba9876543210"
  dataVersion := JsText.ofString "ipo-mdb-fedcba9876543210"
  sourceAsOf := JsText.ofString "2026-06-25T00:00:00.000Z"

def firstVersion : Option Cell :=
  asText "ipo-mdb-0123456789abcdef"

def releasedDatabase : Database
  | .rawSourceBatch => [columns [(.sourceBatchId, asText "ipo-mdb-batch-0123456789abcdef")]]
  | .dataVersionBatch =>
    [columns
      [(.dataVersion, firstVersion), (.sourceBatchId, asText "ipo-mdb-batch-0123456789abcdef"),
        (.releaseState, asText "released")]]
  | .ipoOffering =>
    [columns
      [(.offeringId, asText "01234|2024-01-02"), (.hkexCode, asText "01234"),
        (.listingDate, asText "2024-01-02"), (.dataVersion, firstVersion)]]
  | _ => []

def localRun : IngestOutcome × Database :=
  ingestToLocalPostgres plainPlatform secondRequest
    { target := .local, allowRemoteHeldIngest := false } none releasedDatabase

def IngestOutcome.isCommitted : IngestOutcome → Bool
  | .committed _ => true
  | _ => false

/-- A run on a local database takes the row of a released offering over. -/
theorem localRun_not_kept :
    localRun.1.isCommitted = true ∧ ¬ReleasedKept releasedDatabase localRun.2 := by
  constructor
  · decide +kernel
  · intro hkept
    have hall : ((releasedDatabase .ipoOffering).all fun row =>
        row .dataVersion = firstVersion) = true := by
      decide +kernel
    have hnone : ((localRun.2 .ipoOffering).all fun row =>
        row .dataVersion ≠ firstVersion) = true := by
      decide +kernel
    have hrow : ∃ row ∈ releasedDatabase .ipoOffering, True := ⟨_, List.mem_cons_self .., trivial⟩
    obtain ⟨row, hrow, -⟩ := hrow
    have hversion : row .dataVersion = firstVersion :=
      of_decide_eq_true (List.all_eq_true.mp hall row hrow)
    have hmem := hkept.rows .ipoOffering (by decide) row hrow
      ⟨_, hversion, _, List.mem_cons_self .., rfl, rfl⟩
    exact of_decide_eq_true (List.all_eq_true.mp hnone row hmem) hversion

end Aiphabee.IpoIngest
