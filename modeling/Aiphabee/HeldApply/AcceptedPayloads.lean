import Aiphabee.HeldApply.Apply
import Aiphabee.Text.StableJson

/-!
# What an accepted payload supplies

The ids of a payload that passes its check are texts.  Every row that is read
from it for a count has the id of the count and the marks of it; the only rows
that need not are those of the batch itself.
-/

namespace Aiphabee.HeldApply

open JsonMembers
open SandboxAuth (JsonValue)
open Checks (errorWhen_eq_nil)

variable {platform : HeldPlatform}
variable {payload : JsonValue}

theorem underscore_not_mem_toText (number : JsNumber) : '_' ∉ (JsNumber.toText number).toList := by
  cases number with
  | nan => decide
  | infinity negative => cases negative <;> decide
  | finite value =>
    have hpositive : ∀ magnitude : ℚ, '_' ∉ JsNumber.positiveText magnitude := by
      intro magnitude hmem
      exact absurd (StableJson.positiveText_characters magnitude '_' hmem) (by decide)
    simp only [JsNumber.toText]
    split
    · decide
    split
    · rw [String.toList_ofList]
      intro hmem
      exact hpositive _ ((List.mem_cons.mp hmem).resolve_left (by decide))
    · rw [String.toList_ofList]
      exact hpositive _

theorem eq_underscore_of_unit {c : Char} (h : 95 ∈ (JsString.charUnits c).map UInt16.ofNat) :
    c = '_' := by
  obtain ⟨n, hn, hunit⟩ := List.mem_map.mp h
  have hmod : n % 65536 = 95 := by
    simpa using congrArg UInt16.toNat hunit
  have hbound : c.toNat < 0x110000 := by
    rcases c.valid with hlow | ⟨-, hhigh⟩
    · exact lt_trans hlow (by decide)
    · exact hhigh
  simp only [JsString.charUnits] at hn
  split at hn
  · simp only [List.mem_cons, List.not_mem_nil, or_false] at hn
    omega
  · have hc : c.toNat = 95 := by
      have := List.mem_singleton.mp hn
      omega
    exact Char.ext (UInt32.toNat_inj.mp hc)

theorem underscore_not_mem_ofString (number : JsNumber) :
    95 ∉ JsText.ofString (JsNumber.toText number) := by
  intro hmem
  obtain ⟨c, hc, hunit⟩ := List.mem_flatMap.mp hmem
  rw [eq_underscore_of_unit hunit] at hc
  exact underscore_not_mem_toText number hc

theorem underscore_mem_of_id {front : String} {length : Nat} {text : JsText}
    (hfront : 95 ∈ JsText.ofString front) (hid : isPrefixedHash front length text = true) :
    95 ∈ text := by
  simp only [isPrefixedHash, Bool.and_eq_true, decide_eq_true_eq] at hid
  rw [← hid.1.1] at hfront
  exact List.mem_of_mem_take hfront

section Accepted

theorem string_of_id {other : Option JsonValue} {key front : String} {length : Nat}
    (hfront : 95 ∈ JsText.ofString front)
    (hid : isPrefixedHash front length (textMember (some payload) key) = true)
    (hequal : strictEquals other (member payload key) = true) :
    ∃ text, member payload key = some (.string text) ∧ isPrefixedHash front length text = true := by
  have htext : textMember (some payload) key =
      toText (orElse (member payload key) (.string [])) := rfl
  rw [htext] at hid
  have hmem := underscore_mem_of_id hfront hid
  cases hmember : member payload key with
  | none =>
    rw [hmember] at hmem
    cases hmem
  | some value =>
    rw [hmember] at hid hmem hequal
    cases value with
    | string text => exact ⟨text, rfl, hid⟩
    | null => cases hmem
    | number number => exact absurd hmem (underscore_not_mem_ofString number)
    | boolean value =>
      cases value with
      | true => exact absurd hmem (by decide)
      | false => exact absurd hmem (by decide)
    | array elements =>
      rcases other with _ | _ | _ | _ | _ | _ | _ <;> cases hequal
    | object fields =>
      rcases other with _ | _ | _ | _ | _ | _ | _ <;> cases hequal

/-- The columns of a row that the check compares with the ids of the payload. -/
def checkedColumns : HeldTable → List HeldColumn
  | .rawSourceBatch => []
  | .dataVersionBatch => [.dataVersion]
  | .sourceRun => [.sourceRunId]
  | .rawSnapshot => [.dataVersion, .sourceBatchId]
  | _ => [.sourceRunId, .dataVersion]

def checkedCells (ids : HeldIds) (table : HeldTable) : List (HeldColumn × HeldCell) :=
  (checkedColumns table).map (fun column => (column, .text (ids.get column))) ++ marks table

/-- What a payload that passes the check is known to hold. -/
structure Accepted (payload : JsonValue) : Prop where
  id : ∀ column ∈ [HeldColumn.sourceBatchId, .dataVersion, .sourceRunId],
    member payload column.name = some (.string ((idsOf payload).get column))
  version : isPrefixedHash "dv_hk_ipo_public_" 24 (idsOf payload).version = true
  nonempty : ∀ table, rowGroup payload table ≠ []
  single : ∀ table ∈ [HeldTable.rawSourceBatch, .dataVersionBatch, .sourceRun],
    (rowGroup payload table).length = 1
  cells : ∀ table, ∀ row ∈ rowGroup payload table, ∀ entry ∈ checkedCells (idsOf payload) table,
    ∀ type source, entry.2.source = some (type, source) → member row entry.1.name = some source

variable {entry : HeldColumn × HeldCell}

theorem column_of_checkedCells {ids : HeldIds} {table : HeldTable}
    (h : entry ∈ checkedCells ids table) :
    ∃ type source, entry.2.source = some (type, source) ∧
      table.columns.find? (fun column => column.1 = entry.1) = some (entry.1, type) := by
  suffices hall : ∀ entry ∈ checkedCells ids table,
      (entry.2.source.map Prod.fst).bind (fun type =>
        some (table.columns.find? (fun column => column.1 = entry.1) = some (entry.1, type))) =
          some True from by
    have hentry := hall entry h
    cases hsource : entry.2.source with
    | none =>
      rw [hsource] at hentry
      cases hentry
    | some pair =>
      rw [hsource] at hentry
      exact ⟨pair.1, pair.2, rfl, of_eq_true (Option.some.inj hentry)⟩
  cases table <;>
    simp [checkedCells, checkedColumns, marks, textCell, HeldCell.source, HeldTable.columns]

theorem Accepted.staged_cell {table : HeldTable} {staged : List HeldRow} {row : HeldRow}
    (h : Accepted payload)
    (hstaged : recordset platform table (rowGroup payload table) = some staged)
    (hrow : row ∈ staged) (hentry : entry ∈ checkedCells (idsOf payload) table) :
    row entry.1 = some entry.2 := by
  obtain ⟨value, hvalue, hread⟩ := Checks.exists_of_mapM hstaged hrow
  obtain ⟨type, source, hsource, hcolumn⟩ := column_of_checkedCells hentry
  exact readRow_cell hread hsource hcolumn (h.cells table value hvalue entry hentry _ _ hsource)

end Accepted

section Check

/-- The parts of the check that all find nothing. -/
structure Unfaulted (payload : JsonValue) : Prop where
  ids : idErrors payload = []
  groups : groupErrors payload = []
  header : headerErrors payload = []
  rows : validateHkIpoPublicRows payload = []

theorem group_of_errors (h : groupErrors payload = []) (table : HeldTable) :
    groupOf payload table = some (.array (rowGroup payload table)) ∧
      rowGroup payload table ≠ [] := by
  simp only [groupErrors, List.append_eq_nil_iff, List.flatMap_eq_nil_iff,
    errorWhen_eq_nil] at h
  have hrows := h.1.1.1.1 table table.mem_all
  refine ⟨?_, hrows⟩
  rw [rowGroup] at hrows ⊢
  cases helements : elements? (groupOf payload table) with
  | none => exact absurd (by rw [helements]; rfl) hrows
  | some elements => exact elements?_eq_some.mp helements

theorem unfaulted_of_validate (h : validateApplyPayload platform payload = []) :
    Unfaulted payload := by
  unfold validateApplyPayload at h
  split at h
  case isFalse => cases h
  simp only [List.append_eq_nil_iff] at h
  obtain ⟨⟨⟨⟨⟨⟨⟨-, hids⟩, hgroups⟩, hheader⟩, -⟩, -⟩, -⟩, hrows⟩ := h
  have hall : ∀ table ∈ HeldTable.all, (elements? (groupOf payload table)).isSome = true := by
    intro table _
    rw [(group_of_errors hgroups table).1]
    rfl
  rw [if_pos hall] at hrows
  exact ⟨hids, hgroups, hheader, hrows⟩

variable {table : HeldTable}

theorem single_of_errors (h : groupErrors payload = [])
    (htable : table ∈ [HeldTable.rawSourceBatch, .dataVersionBatch, .sourceRun]) :
    (rowGroup payload table).length = 1 := by
  have hgroup := (group_of_errors h table).1
  have hlength : hasLengthOne (groupOf payload table) = true := by
    simp only [groupErrors, List.append_eq_nil_iff, errorWhen_eq_nil, Bool.not_eq_false] at h
    simp only [List.mem_cons, List.not_mem_nil, or_false] at htable
    rcases htable with rfl | rfl | rfl
    · exact h.1.1.2
    · exact h.1.2
    · exact h.2
  rw [hgroup] at hlength
  simpa [hasLengthOne] using hlength

variable {row : JsonValue}

theorem member_of_firstRecord {key : String} {value : JsonValue}
    (hlength : (rowGroup payload table).length = 1) (hrow : row ∈ rowGroup payload table)
    (h : memberOf (firstRecord (groupOf payload table)) key = some value) :
    member row key = some value := by
  obtain ⟨first, hfirst, hmember⟩ := Option.bind_eq_some_iff.mp h
  obtain ⟨hhead, -⟩ := Option.filter_eq_some_iff.mp hfirst
  obtain ⟨elements, helements, helem⟩ := Option.bind_eq_some_iff.mp hhead
  have hgroup : rowGroup payload table = elements := by
    rw [rowGroup, helements]
    rfl
  rw [hgroup] at hlength hrow
  obtain ⟨only, rfl⟩ := List.length_eq_one_iff.mp hlength
  obtain rfl := List.mem_singleton.mp hrow
  obtain rfl := Option.some.inj helem
  exact hmember

variable {expected : List (String × Option JsonValue)}

theorem strictEquals_of_not_differs (h : ¬differs row expected) {entry : String × Option JsonValue}
    (hentry : entry ∈ expected) : strictEquals (member row entry.1) entry.2 = true := by
  rw [← Bool.not_eq_false]
  exact fun hdiffers => h ⟨entry, hentry, hdiffers⟩

/-- A row that the check of its table finds nothing wrong with. -/
theorem row_of_errors (h : validateHkIpoPublicRows payload = []) :
    (∀ row ∈ rowGroup payload .rawSnapshot, rawSnapshotRowErrors payload row = []) ∧
      (∀ row ∈ rowGroup payload .observation, observationRowErrors payload row = []) ∧
      (∀ row ∈ rowGroup payload .reconciliationRow, reconciliationRowErrors payload row = []) ∧
      ∀ row ∈ rowGroup payload .supplementCandidate, supplementRowErrors payload row = [] := by
  simp only [validateHkIpoPublicRows, List.append_eq_nil_iff, List.flatMap_eq_nil_iff] at h
  exact ⟨h.1.1.1, h.1.1.2, h.1.2, h.2⟩

theorem rawSnapshot_of_errors (h : rawSnapshotRowErrors payload row = []) :
    ¬differs row [("data_version", member payload "data_version"),
      ("source_batch_id", member payload "source_batch_id"),
      ("record_kind", stringValue "hk_ipo_public_source_record"),
      ("quality_state", stringValue "HOLD")] := by
  unfold rawSnapshotRowErrors at h
  split at h
  case isFalse => cases h
  simp only [List.append_eq_nil_iff, errorWhen_eq_nil] at h
  rintro ⟨entry, hentry, hdiffers⟩
  have hsplit : entry ∈ [("data_version", member payload "data_version"),
      ("source_batch_id", member payload "source_batch_id")] ++
      [("record_kind", stringValue "hk_ipo_public_source_record"),
        ("quality_state", stringValue "HOLD")] := hentry
  rcases List.mem_append.mp hsplit with hids | hmarks
  · exact h.1.1 ⟨entry, hids, hdiffers⟩
  · exact h.1.2 ⟨entry, hmarks, hdiffers⟩

theorem observation_of_errors (h : observationRowErrors payload row = []) :
    ¬differs row [("source_run_id", member payload "source_run_id"),
      ("data_version", member payload "data_version"),
      ("raw_snapshot_required", booleanValue true), ("reconciled_with_hkex", booleanValue false),
      ("quality_state", stringValue "HOLD")] := by
  unfold observationRowErrors at h
  split at h
  case isFalse => cases h
  simp only [List.append_eq_nil_iff, errorWhen_eq_nil] at h
  exact h.1.1

theorem reconciliationRow_of_errors (h : reconciliationRowErrors payload row = []) :
    ¬differs row [("source_run_id", member payload "source_run_id"),
      ("data_version", member payload "data_version"),
      ("raw_snapshot_required", booleanValue true), ("promotes_fact", booleanValue false),
      ("quality_state", stringValue "HOLD")] := by
  unfold reconciliationRowErrors at h
  split at h
  case isFalse => cases h
  simp only [List.append_eq_nil_iff, errorWhen_eq_nil] at h
  exact h.1.1.1.1.1.1

theorem supplement_of_errors (h : supplementRowErrors payload row = []) :
    ¬differs row [("source_run_id", member payload "source_run_id"),
      ("data_version", member payload "data_version"),
      ("raw_snapshot_required", booleanValue true), ("promotes_fact", booleanValue false),
      ("quality_state", stringValue "HOLD"), ("status", stringValue "candidate")] := by
  unfold supplementRowErrors at h
  split at h
  case isFalse => cases h
  simp only [List.append_eq_nil_iff, errorWhen_eq_nil] at h
  exact h.1

theorem ids_of_unfaulted (h : Unfaulted payload) :
    (∀ column ∈ [HeldColumn.sourceBatchId, .dataVersion, .sourceRunId],
        member payload column.name = some (.string ((idsOf payload).get column))) ∧
      isPrefixedHash "dv_hk_ipo_public_" 24 (idsOf payload).version = true := by
  have hheader := h.header
  simp only [headerErrors, List.append_eq_nil_iff, errorWhen_eq_nil, not_or,
    Bool.not_eq_false] at hheader
  have hids := h.ids
  simp only [idErrors, List.append_eq_nil_iff, errorWhen_eq_nil, Bool.not_eq_false] at hids
  obtain ⟨⟨⟨-, hbatchId⟩, hversionId⟩, hrunId⟩ := hids
  obtain ⟨version, hversion, hform⟩ := string_of_id (by decide) hversionId hheader.1.1.1.2
  obtain ⟨run, hrun, -⟩ := string_of_id (by decide) hrunId hheader.1.1.2
  obtain ⟨row, hrow⟩ := List.exists_mem_of_ne_nil _ (group_of_errors h.groups .rawSnapshot).2
  have hsnapshot := rawSnapshot_of_errors ((row_of_errors h.rows).1 row hrow)
  obtain ⟨batch, hbatch, -⟩ := string_of_id (by decide) hbatchId
    (strictEquals_of_not_differs hsnapshot (List.mem_cons_of_mem _ List.mem_cons_self))
  have hget : idsOf payload = { batch, version, run } := by
    simp only [idsOf, stringMember, hbatch, hversion, hrun, Option.getD_some]
  rw [hget]
  refine ⟨?_, hform⟩
  intro column hcolumn
  simp only [List.mem_cons, List.not_mem_nil, or_false] at hcolumn
  rcases hcolumn with rfl | rfl | rfl
  · exact hbatch
  · exact hversion
  · exact hrun

theorem cells_of_not_differs (h : ¬differs row expected)
    (hcells : (checkedCells (idsOf payload) table).map
      (fun entry => (entry.1.name, entry.2.source.map Prod.snd)) ⊆ expected) :
    ∀ entry ∈ checkedCells (idsOf payload) table, ∀ type source,
      entry.2.source = some (type, source) → member row entry.1.name = some source := by
  intro entry hentry type source hsource
  have hexpected : (entry.1.name, some source) ∈ expected := by
    have hmem := hcells (List.mem_map_of_mem hentry)
    rwa [hsource] at hmem
  have hequal := strictEquals_of_not_differs h hexpected
  cases hcell : entry.2 with
  | text text =>
    rw [hcell] at hsource
    obtain ⟨-, rfl⟩ := Prod.mk.inj (Option.some.inj hsource)
    exact strictEquals_string.mp hequal
  | boolean flag =>
    rw [hcell] at hsource
    obtain ⟨-, rfl⟩ := Prod.mk.inj (Option.some.inj hsource)
    exact strictEquals_boolean.mp hequal
  | integer value => rw [hcell] at hsource; cases hsource
  | numeric value => rw [hcell] at hsource; cases hsource
  | json value => rw [hcell] at hsource; cases hsource
  | instant value => rw [hcell] at hsource; cases hsource

theorem header_of_errors (h : headerErrors payload = []) :
    let versionRow := memberOf (firstRecord (groupOf payload .dataVersionBatch))
    let runRow := memberOf (firstRecord (groupOf payload .sourceRun))
    versionRow "release_state" = stringValue "held" ∧
      strictEquals (versionRow "data_version") (member payload "data_version") = true ∧
      strictEquals (runRow "source_run_id") (member payload "source_run_id") = true ∧
      runRow "source_mode" = stringValue "live" ∧ runRow "status" = stringValue "held" ∧
      runRow "writes_serving_tables" = booleanValue false := by
  simp only [headerErrors, List.append_eq_nil_iff, errorWhen_eq_nil, not_or,
    Bool.not_eq_false] at h
  obtain ⟨⟨⟨⟨hstate, hversion⟩, hrun⟩, hmode, hstatus⟩, -, hserving⟩ := h
  exact ⟨strictEquals_string.mp hstate, hversion, hrun,
    strictEquals_string.mp hmode, strictEquals_string.mp hstatus,
    strictEquals_boolean.mp hserving⟩

theorem accepted_of_validate (h : validateApplyPayload platform payload = []) :
    Accepted payload := by
  have hparts := unfaulted_of_validate h
  obtain ⟨hids, hform⟩ := ids_of_unfaulted hparts
  have hbatch : member payload "source_batch_id" = some (.string (idsOf payload).batch) :=
    hids .sourceBatchId (by decide)
  have hversion : member payload "data_version" = some (.string (idsOf payload).version) :=
    hids .dataVersion (by decide)
  have hrun : member payload "source_run_id" = some (.string (idsOf payload).run) :=
    hids .sourceRunId (by decide)
  obtain ⟨hstate, hversionRow, hrunRow, hmode, hstatus, hserving⟩ := header_of_errors hparts.header
  obtain ⟨hsnapshots, hobservations, hreconciliations, hsupplements⟩ := row_of_errors hparts.rows
  have hsingle : ∀ table ∈ [HeldTable.rawSourceBatch, .dataVersionBatch, .sourceRun],
      (rowGroup payload table).length = 1 := fun _ => single_of_errors hparts.groups
  refine ⟨hids, hform, fun table => (group_of_errors hparts.groups table).2, hsingle, ?_⟩
  intro table row hrow
  cases table with
  | rawSourceBatch =>
    intro entry hentry
    cases hentry
  | dataVersionBatch =>
    have hlength := hsingle .dataVersionBatch (by decide)
    rw [hversion, strictEquals_string] at hversionRow
    have hrowVersion := member_of_firstRecord hlength hrow hversionRow
    have hrowState := member_of_firstRecord hlength hrow hstate
    simp [checkedCells, checkedColumns, marks, textCell, HeldCell.source, HeldColumn.name,
      HeldIds.get,
      hrowVersion, hrowState]
  | sourceRun =>
    have hlength := hsingle .sourceRun (by decide)
    rw [hrun, strictEquals_string] at hrunRow
    have hrowRun := member_of_firstRecord hlength hrow hrunRow
    have hrowMode := member_of_firstRecord hlength hrow hmode
    have hrowStatus := member_of_firstRecord hlength hrow hstatus
    have hrowServing := member_of_firstRecord hlength hrow hserving
    simp [checkedCells, checkedColumns, marks, textCell, HeldCell.source, HeldColumn.name,
      HeldIds.get,
      hrowRun, hrowMode, hrowStatus, hrowServing]
  | rawSnapshot =>
    refine cells_of_not_differs (rawSnapshot_of_errors (hsnapshots row hrow)) ?_
    rw [hbatch, hversion]
    simp [checkedCells, checkedColumns, marks, textCell, HeldCell.source, HeldColumn.name,
      HeldIds.get,
      stringValue]
  | observation =>
    refine cells_of_not_differs (observation_of_errors (hobservations row hrow)) ?_
    rw [hrun, hversion]
    simp [checkedCells, checkedColumns, marks, textCell, HeldCell.source, HeldColumn.name,
      HeldIds.get,
      stringValue, booleanValue]
  | reconciliationRow =>
    refine cells_of_not_differs (reconciliationRow_of_errors (hreconciliations row hrow)) ?_
    rw [hrun, hversion]
    simp [checkedCells, checkedColumns, marks, textCell, HeldCell.source, HeldColumn.name,
      HeldIds.get,
      stringValue, booleanValue]
  | supplementCandidate =>
    refine cells_of_not_differs (supplement_of_errors (hsupplements row hrow)) ?_
    rw [hrun, hversion]
    simp [checkedCells, checkedColumns, marks, textCell, HeldCell.source, HeldColumn.name,
      HeldIds.get,
      stringValue, booleanValue]

end Check

end Aiphabee.HeldApply
