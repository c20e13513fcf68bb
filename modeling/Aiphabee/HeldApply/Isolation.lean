import Mathlib.Algebra.Order.BigOperators.Group.List
import Aiphabee.HeldApply.Runs

/-!
# Applies keep the runs apart

An apply that commits has read every group and has loaded each into its table.
The rows of its own run are then those of its payload: each of the seven counts
is at least the number of rows in the group, and their sum is the number of all.
Under `Keeps` the rows of the other runs stay, so that a run of applies and
releases keeps `Sound` (`sound_of_run`).
-/

namespace Aiphabee.HeldApply

open Checks
open Sql (keyOf FullKey upsertRows)
open JsText (ofString)
open SandboxAuth (JsonValue)
open Transition (Run Guarded)

variable {platform : HeldPlatform}
variable {payload : JsonValue}
variable {db after : HeldDb}
variable {run : CommittedRun}
variable {db : HeldDb}

section Applied

/-- What an apply that commits has done. -/
structure Applied
    (platform : HeldPlatform)
    (payload : JsonValue)
    (db after : HeldDb) : Prop where
  read : ∀ table,
    recordset platform table (rowGroup payload table) = some (staged platform payload table)
  upsert : ∀ table, upsertRows table.key .doUpdate (db table) (staged platform payload table) =
    some (after table)
  selected : selectedRows (idsOf payload) after = totalRows payload

theorem upsertGroup_eq_some {table : HeldTable}
    (h : upsertGroup platform payload db table = some after) :
    recordset platform table (rowGroup payload table) = some (staged platform payload table) ∧
      ∃ rows, upsertRows table.key .doUpdate (db table) (staged platform payload table) =
        some rows ∧ after = Function.update db table rows := by
  obtain ⟨read, hread, hrest⟩ := Option.bind_eq_some_iff.mp h
  obtain ⟨rows, hrows, hafter⟩ := Option.bind_eq_some_iff.mp hrest
  have hstaged : staged platform payload table = read := by
    rw [staged, hread]
    rfl
  rw [hstaged]
  refine ⟨hread, rows, hrows, ?_⟩
  dsimp only at hafter
  split at hafter
  · exact (Option.some.inj hafter).symm
  · cases hafter

variable {breaks : ApplyStage → Bool}

/-- The statements in some tables, none of them twice. -/
theorem upsertGroups_eq_ok {tables : List HeldTable} (hnodup : tables.Nodup)
    (h : tables.foldlM (fun db table => do
      ensure (breaks (.upsert table) = false) (ApplyStage.upsert table)
      require (upsertGroup platform payload db table) (.upsert table)) db = .ok after) :
    (∀ table ∉ tables, after table = db table) ∧ ∀ table ∈ tables,
      recordset platform table (rowGroup payload table) = some (staged platform payload table) ∧
        upsertRows table.key .doUpdate (db table) (staged platform payload table) =
          some (after table) := by
  induction tables generalizing db with
  | nil =>
    cases h
    exact ⟨fun _ _ => rfl, nofun⟩
  | cons table rest ih =>
    obtain ⟨hfresh, hrest⟩ := List.nodup_cons.mp hnodup
    rw [List.foldlM_cons] at h
    obtain ⟨between, hfirst, hothers⟩ := bind_eq_ok.mp h
    obtain ⟨_, -, hgroup⟩ := bind_eq_ok.mp hfirst
    obtain ⟨hread, rows, hrows, rfl⟩ := upsertGroup_eq_some (require_eq_ok.mp hgroup)
    obtain ⟨houtside, hinside⟩ := ih hrest hothers
    refine ⟨fun other hother => ?_, fun other hother => ?_⟩
    · rw [houtside other (fun hmem => hother (List.mem_cons_of_mem _ hmem))]
      exact Function.update_of_ne (fun heq => hother (List.mem_cons.mpr (Or.inl heq))) _ _
    · rcases List.mem_cons.mp hother with rfl | hmem
      · rw [houtside other hfresh, Function.update_self]
        exact ⟨hread, hrows⟩
      · have hne : other ≠ table := fun heq => hfresh (heq ▸ hmem)
        have hother := hinside other hmem
        rwa [Function.update_of_ne hne] at hother

theorem applied_of_ok (h : runHeldDbApply platform breaks payload db = .ok after) :
    Applied platform payload db after := by
  obtain ⟨_, -, h⟩ := bind_eq_ok.mp h
  obtain ⟨_, -, h⟩ := bind_eq_ok.mp h
  obtain ⟨between, hgroups, h⟩ := bind_eq_ok.mp h
  obtain ⟨_, -, h⟩ := bind_eq_ok.mp h
  obtain ⟨_, hselected, h⟩ := bind_eq_ok.mp h
  obtain ⟨_, -, h⟩ := bind_eq_ok.mp h
  cases h
  obtain ⟨-, hall⟩ := upsertGroups_eq_ok (by decide) hgroups
  exact {
    read := fun table => (hall table table.mem_all).1
    upsert := fun table => (hall table table.mem_all).2
    selected := ensure_eq_ok.mp hselected }

theorem Applied.mem (h : Applied platform payload db after)
    (hunique : ∀ table : HeldTable, Sql.Unique table.key.columns (db table)) {table : HeldTable}
    {row : HeldRow} (hrow : row ∈ after table) :
    row ∈ db table ∨ row ∈ staged platform payload table := by
  rw [Sql.upsertRows_doUpdate (hunique table) (h.upsert table), Multiset.mem_add] at hrow
  rcases hrow with hold | hnew
  · exact Or.inl (Multiset.mem_filter.mp hold).1
  · exact Or.inr (Multiset.mem_coe.mp hnew)

theorem Applied.unique (h : Applied platform payload db after)
    (hunique : ∀ table : HeldTable, Sql.Unique table.key.columns (db table)) (table : HeldTable) :
    Sql.Unique table.key.columns (after table) :=
  Sql.upsertRows_unique (hunique table) (h.upsert table)

theorem Applied.staged_le (h : Applied platform payload db after)
    (hunique : ∀ table : HeldTable, Sql.Unique table.key.columns (db table)) (table : HeldTable) :
    (staged platform payload table : Multiset HeldRow) ≤ after table := by
  rw [Sql.upsertRows_doUpdate (hunique table) (h.upsert table)]
  exact Multiset.le_add_left _ _

theorem Applied.length (h : Applied platform payload db after) (table : HeldTable) :
    (staged platform payload table).length = (rowGroup payload table).length :=
  (mapM_eq_some.mp (h.read table)).length_eq.symm

end Applied

section OwnRows

theorem countColumn_mem (table : HeldTable) : table.countColumn ∈ table.idColumns := by
  cases table <;> decide

variable {table : HeldTable}

theorem linked_of_belongs {ids : HeldIds} {row : HeldRow} (h : Belongs ids table row) :
    linked ids table row :=
  h _ (countColumn_mem table)

theorem marked_of_staged (haccepted : Accepted payload) (h : Applied platform payload db after)
    {row : HeldRow} (hrow : row ∈ staged platform payload table) : marked table row :=
  fun _ hmark => haccepted.staged_cell (h.read table) hrow (List.mem_append_right _ hmark)

theorem eq_of_sum_eq {ι : Type} {items : List ι} {f g : ι → Nat}
    (hle : ∀ item ∈ items, f item ≤ g item) (hsum : (items.map g).sum = (items.map f).sum) :
    ∀ item ∈ items, f item = g item := by
  induction items with
  | nil => simp
  | cons item rest ih =>
    rw [List.forall_mem_cons] at hle
    have hrest := List.sum_le_sum hle.2
    simp only [List.map_cons, List.sum_cons] at hsum
    have hfirst : f item = g item := by
      have := hle.1
      omega
    refine List.forall_mem_cons.mpr ⟨hfirst, ih hle.2 ?_⟩
    omega

/-- The counted rows are the staged ones: each count is large enough, and the sum is right. -/
theorem Applied.counted (h : Applied platform payload db after)
    (hunique : ∀ table : HeldTable, Sql.Unique table.key.columns (db table))
    (haccepted : Accepted payload)
    (hown : ∀ table, ∀ row ∈ staged platform payload table, Belongs (idsOf payload) table row)
    (table : HeldTable) :
    ((after table).filter fun row => linked (idsOf payload) table row ∧ marked table row) =
      staged platform payload table := by
  have hle : ∀ table, (staged platform payload table : Multiset HeldRow) ≤
      (after table).filter fun row => linked (idsOf payload) table row ∧ marked table row := by
    intro table
    refine Multiset.le_filter.mpr ⟨h.staged_le hunique table, fun row hrow => ?_⟩
    exact ⟨linked_of_belongs (hown table row hrow), marked_of_staged haccepted h hrow⟩
  have hcounts := eq_of_sum_eq
    (fun table (_ : table ∈ HeldTable.all) => Multiset.card_le_card (hle table))
    (by
      have hselected := h.selected
      simp only [selectedRows, totalRows] at hselected
      calc (HeldTable.all.map fun table => ((after table).filter fun row =>
              linked (idsOf payload) table row ∧ marked table row).card).sum
          = (HeldTable.all.map fun table => (rowGroup payload table).length).sum := hselected
        _ = (HeldTable.all.map fun table =>
              (staged platform payload table : Multiset HeldRow).card).sum := by
          simp only [Multiset.coe_card, h.length])
  exact (Multiset.eq_of_le_of_card_le (hle table) (hcounts table table.mem_all).ge).symm

theorem Applied.keeps_marks (h : Applied platform payload db after)
    (hunique : ∀ table : HeldTable, Sql.Unique table.key.columns (db table))
    (haccepted : Accepted payload) (hmarked : Marked db) :
    Marked after where
  rows := by
    intro table htable row hrow
    rcases h.mem hunique hrow with hold | hnew
    · exact hmarked.rows table htable row hold
    · exact marked_of_staged haccepted h hnew
  snapshots := by
    intro row hrow version hversion hform
    rcases h.mem hunique hrow with hold | hnew
    · exact hmarked.snapshots row hold version hversion hform
    · exact marked_of_staged haccepted h hnew

theorem keyOf_eq_of_linked {ids : HeldIds} {first second : HeldRow}
    (htable : table ∈ [HeldTable.rawSourceBatch, .dataVersionBatch, .sourceRun])
    (hfirst : linked ids table first) (hsecond : linked ids table second) :
    keyOf table.key.columns first = keyOf table.key.columns second ∧
      FullKey table.key.columns first := by
  have hkey : table.key.columns = [table.countColumn] := by
    simp only [List.mem_cons, List.not_mem_nil, or_false] at htable
    rcases htable with rfl | rfl | rfl <;> rfl
  rw [linked] at hfirst hsecond
  simp [hkey, FullKey, keyOf, hfirst, hsecond]

theorem Applied.own_rows (h : Applied platform payload db after)
    (hunique : ∀ table : HeldTable, Sql.Unique table.key.columns (db table))
    (haccepted : Accepted payload)
    (hown : ∀ table, ∀ row ∈ staged platform payload table, Belongs (idsOf payload) table row)
    (hmarked : Marked db) (table : HeldTable) :
    (after table).filter (linked (idsOf payload) table) = staged platform payload table := by
  have hmarks := h.keeps_marks hunique haccepted hmarked
  rw [← h.counted hunique haccepted hown table]
  refine Multiset.filter_congr fun row hrow => ?_
  rw [iff_self_and]
  intro hlinked
  -- A table with one row for the payload has no other row under its key.
  have hsingle : table ∈ [HeldTable.rawSourceBatch, .dataVersionBatch, .sourceRun] →
      marked table row := by
    intro htable
    have hlength : staged platform payload table ≠ [] := by
      intro hnil
      have := h.length table
      rw [hnil] at this
      exact haccepted.nonempty table (List.length_eq_zero_iff.mp this.symm)
    obtain ⟨new, hnew⟩ := List.exists_mem_of_ne_nil _ hlength
    have hstored : new ∈ after table := Multiset.mem_of_le (h.staged_le hunique table) hnew
    obtain ⟨hkey, hfull⟩ :=
      keyOf_eq_of_linked htable (linked_of_belongs (hown table new hnew)) hlinked
    rw [← Sql.eq_of_unique (h.unique hunique table) hstored hrow hfull hkey]
    exact marked_of_staged haccepted h hnew
  cases table with
  | rawSourceBatch => exact hsingle (by decide)
  | dataVersionBatch => exact hsingle (by decide)
  | sourceRun => exact hsingle (by decide)
  | rawSnapshot => exact hmarks.snapshots row hrow _ hlinked haccepted.version
  | observation => exact hmarks.rows _ (by decide) row hrow
  | reconciliationRow => exact hmarks.rows _ (by decide) row hrow
  | supplementCandidate => exact hmarks.rows _ (by decide) row hrow

end OwnRows

theorem Keeps.belongs_of_supplied (h : Keeps platform db payload) {table : HeldTable}
    {row : HeldRow} (hrow : row ∈ db table)
    (hsupplied : Sql.Supplied table.key.columns (staged platform payload table) row) :
    Belongs (idsOf payload) table row := by
  obtain ⟨-, new, hnew, hkey⟩ := hsupplied
  exact h.apart table new hnew row hrow (List.cons.inj hkey).1.symm

/-- An apply leaves the rows alone that are not of its own batch, version and run. -/
theorem Applied.frame (h : Applied platform payload db after)
    (hunique : ∀ table : HeldTable, Sql.Unique table.key.columns (db table))
    (hkeeps : Keeps platform db payload) (table : HeldTable) :
    (after table).filter (fun row => ¬Belongs (idsOf payload) table row) =
      (db table).filter fun row => ¬Belongs (idsOf payload) table row :=
  Sql.filter_upsertRows _ (hunique table) (h.upsert table)
    (fun _ hrow hsupplied => not_not_intro (hkeeps.belongs_of_supplied hrow hsupplied))
    (fun row hrow => not_not_intro (hkeeps.own table row hrow))

theorem Applied.keeps_released (h : Applied platform payload db after)
    (hunique : ∀ table : HeldTable, Sql.Unique table.key.columns (db table))
    (hkeeps : Keeps platform db payload) {version : JsText} (hreleased : IsReleased version db) :
    IsReleased version after := by
  obtain ⟨row, hrow, hversion, hstate⟩ := hreleased
  have hother : ¬Belongs (idsOf payload) .dataVersionBatch row := by
    intro hbelongs
    have hown := hbelongs .dataVersion (by decide)
    exact hkeeps.unreleased ⟨row, hrow, hown, hstate⟩
  have hmem : row ∈ (after .dataVersionBatch).filter
      fun row => ¬Belongs (idsOf payload) .dataVersionBatch row := by
    rw [h.frame hunique hkeeps]
    exact Multiset.mem_filter.mpr ⟨hrow, hother⟩
  exact ⟨row, (Multiset.mem_filter.mp hmem).1, hversion, hstate⟩

theorem Applied.other_id (h : Applied platform payload db after)
    (hunique : ∀ table : HeldTable, Sql.Unique table.key.columns (db table))
    (hkeeps : Keeps platform db payload) {ids : HeldIds} {table : HeldTable}
    (hne : ids.get table.countColumn ≠ (idsOf payload).get table.countColumn) :
    (after table).filter (linked ids table) = (db table).filter (linked ids table) := by
  have hapart : ∀ row, Belongs (idsOf payload) table row → ¬linked ids table row := by
    intro row hbelongs hlinked
    have hown := linked_of_belongs hbelongs
    rw [linked] at hlinked hown
    rw [hlinked] at hown
    exact hne (HeldCell.text.inj (Option.some.inj hown))
  exact Sql.filter_upsertRows _ (hunique table) (h.upsert table)
    (fun row hrow hsupplied => hapart row (hkeeps.belongs_of_supplied hrow hsupplied))
    (fun row hrow => hapart row (hkeeps.own table row hrow))

/-- The rows of another run stay, also where it has the same batch or the same version. -/
theorem Applied.other_run (h : Applied platform payload db after)
    (hunique : ∀ table : HeldTable, Sql.Unique table.key.columns (db table))
    (hkeeps : Keeps platform db payload) {ids : HeldIds} (hne : ids.run ≠ (idsOf payload).run)
    (hrun : ∃ row ∈ db .sourceRun, Belongs ids .sourceRun row) (table : HeldTable) :
    (after table).filter (linked ids table) = (db table).filter (linked ids table) := by
  by_cases hid : ids.get table.countColumn = (idsOf payload).get table.countColumn
  · obtain ⟨row, hrow, hbelongs⟩ := hrun
    have hrowRun : row .sourceRunId = some (.text ids.run) := hbelongs .sourceRunId (by decide)
    have hrowBatch : row .sourceBatchId = some (.text ids.batch) :=
      hbelongs .sourceBatchId (by decide)
    have hrowVersion : row .dataVersion = some (.text ids.version) :=
      hbelongs .dataVersion (by decide)
    have hother : row .sourceRunId ≠ some (.text (idsOf payload).run) := by
      rw [hrowRun]
      exact fun heq => hne (HeldCell.text.inj (Option.some.inj heq))
    have hstored : table ∈ [HeldTable.rawSourceBatch, .dataVersionBatch, .rawSnapshot] →
        row .sourceBatchId = some (.text (idsOf payload).batch) ∨
          row .dataVersion = some (.text (idsOf payload).version) → after table = db table := by
      intro htable hsame
      obtain ⟨hfull, hstaged⟩ := Sql.staged_of_upsertRows (hunique table) (h.upsert table)
      exact Sql.upsertRows_of_stored (hunique table) (h.upsert table)
        (hkeeps.shared row hrow hother hsame table htable) hfull hstaged
    cases table with
    | rawSourceBatch =>
      have hbatch : ids.batch = (idsOf payload).batch := hid
      rw [hstored (by decide) (Or.inl (hbatch ▸ hrowBatch))]
    | dataVersionBatch =>
      have hversion : ids.version = (idsOf payload).version := hid
      rw [hstored (by decide) (Or.inr (hversion ▸ hrowVersion))]
    | rawSnapshot =>
      have hversion : ids.version = (idsOf payload).version := hid
      rw [hstored (by decide) (Or.inr (hversion ▸ hrowVersion))]
    | sourceRun => exact absurd hid hne
    | observation => exact absurd hid hne
    | reconciliationRow => exact absurd hid hne
    | supplementCandidate => exact absurd hid hne
  · exact h.other_id hunique hkeeps hid

structure Held
    (platform : HeldPlatform)
    (db : HeldDb)
    (run : CommittedRun) : Prop where
  accepted : Accepted run.payload
  length : ∀ table, (staged platform run.payload table).length = (rowGroup run.payload table).length
  own : ∀ table, ∀ row ∈ staged platform run.payload table,
    Belongs (idsOf run.payload) table row
  marks : ∀ table, ∀ row ∈ staged platform run.payload table, marked table row
  counts : ∀ row ∈ staged platform run.payload .sourceRun, ∀ entry ∈
    [(HeldColumn.observationCount, HeldTable.observation),
      (.reconciliationRowCount, .reconciliationRow),
      (.supplementCandidateCount, .supplementCandidate)],
    row entry.1 = some (.integer (rowGroup run.payload entry.2).length)
  rows : ∀ table, (db table).filter (linked (idsOf run.payload) table) =
    expectedRows platform run table

structure Sound
    (platform : HeldPlatform)
    (state : HeldState) : Prop where
  unique : ∀ table : HeldTable, Sql.Unique table.key.columns (state.db table)
  marked : Marked state.db
  runs : ∀ run ∈ state.committed, Held platform state.db run

theorem sound_of_start {state : HeldState} (h : Start state) :
    Sound platform state where
  unique := h.unique
  marked := h.marked
  runs := by
    rw [h.committed]
    nofun

theorem expectedRows_of_ne {table : HeldTable} (h : table ≠ .dataVersionBatch) :
    expectedRows platform run table = staged platform run.payload table :=
  if_neg fun hboth => h hboth.2

theorem Held.exists_sourceRun {db : HeldDb} (h : Held platform db run) :
    ∃ row ∈ db .sourceRun, row ∈ staged platform run.payload .sourceRun := by
  have hne : staged platform run.payload .sourceRun ≠ [] := by
    intro hnil
    have hlength := h.length .sourceRun
    rw [hnil] at hlength
    exact h.accepted.nonempty .sourceRun (List.length_eq_zero_iff.mp hlength.symm)
  obtain ⟨row, hrow⟩ := List.exists_mem_of_ne_nil _ hne
  have hmem : row ∈ (db .sourceRun).filter (linked (idsOf run.payload) .sourceRun) := by
    rw [h.rows, expectedRows_of_ne (by decide)]
    exact hrow
  exact ⟨row, (Multiset.mem_filter.mp hmem).1, hrow⟩

theorem Held.of_rows_eq {db after : HeldDb} (h : Held platform db run)
    (hrows : ∀ table, (after table).filter (linked (idsOf run.payload) table) =
      (db table).filter (linked (idsOf run.payload) table)) :
    Held platform after run :=
  { h with rows := fun table => (hrows table).trans (h.rows table) }

theorem Sound.applied {state : HeldState} {payload : JsonValue} {after : HeldDb}
    (h : Sound platform state) (haccepted : Accepted payload)
    (hkeeps : Keeps platform state.db payload)
    (happlied : Applied platform payload state.db after) :
    Sound platform {
      db := after
      committed := { payload, released := false } :: state.committed.filter fun run =>
        (idsOf run.payload).run ≠ (idsOf payload).run } where
  unique := happlied.unique h.unique
  marked := happlied.keeps_marks h.unique haccepted h.marked
  runs := by
    intro run hrun
    rcases List.mem_cons.mp hrun with rfl | hother
    · exact {
        accepted := haccepted
        length := happlied.length
        own := hkeeps.own
        marks := fun _ _ => marked_of_staged haccepted happlied
        counts := hkeeps.counts
        rows := fun table => happlied.own_rows h.unique haccepted hkeeps.own h.marked table }
    · obtain ⟨hmem, hne⟩ := List.mem_filter.mp hother
      have hheld := h.runs run hmem
      obtain ⟨row, hrow, hstaged⟩ := hheld.exists_sourceRun
      exact hheld.of_rows_eq
        (happlied.other_run h.unique hkeeps (of_decide_eq_true hne)
          ⟨row, hrow, hheld.own _ row hstaged⟩)

section Releases

@[simp] theorem releasedRow_dataVersion (row : HeldRow) :
    releasedRow row .dataVersion = row .dataVersion :=
  Function.update_of_ne (by decide) _ _

@[simp] theorem releasedRow_releasedRow (row : HeldRow) :
    releasedRow (releasedRow row) = releasedRow row :=
  Function.update_idem _ _ _

variable (version : JsText)

@[simp] theorem release_payload (run : CommittedRun) :
    (run.release version).payload = run.payload := by
  rw [CommittedRun.release]
  split <;> rfl

def releaseRow (row : HeldRow) : HeldRow :=
  if row .dataVersion = some (.text version) then releasedRow row else row

@[simp] theorem releaseRow_dataVersion (row : HeldRow) :
    releaseRow version row .dataVersion = row .dataVersion := by
  rw [releaseRow]
  split
  · exact releasedRow_dataVersion row
  · rfl

theorem releaseVersion_dataVersionBatch (db : HeldDb) :
    releaseVersion version db .dataVersionBatch =
      (db .dataVersionBatch).map (releaseRow version) :=
  Function.update_self _ _ _

theorem releaseVersion_of_ne {table : HeldTable} (version : JsText) (db : HeldDb)
    (h : table ≠ .dataVersionBatch) : releaseVersion version db table = db table :=
  Function.update_of_ne h _ _

theorem filter_releaseRow (ids : HeldIds) (version : JsText) (rows : Multiset HeldRow) :
    (rows.map (releaseRow version)).filter (linked ids .dataVersionBatch) =
      (rows.filter (linked ids .dataVersionBatch)).map (releaseRow version) := by
  rw [Multiset.filter_map]
  congr 1
  refine Multiset.filter_congr fun row _ => ?_
  simp [linked, HeldTable.countColumn]

theorem unique_release (h : ∀ table : HeldTable, Sql.Unique table.key.columns (db table))
    (version : JsText) (table : HeldTable) :
    Sql.Unique table.key.columns (releaseVersion version db table) := by
  by_cases htable : table = .dataVersionBatch
  · subst htable
    have hkey : keyOf HeldTable.dataVersionBatch.key.columns ∘ releaseRow version =
        keyOf HeldTable.dataVersionBatch.key.columns := by
      funext row
      simp [keyOf, HeldTable.key, Sql.Key.columns, HeldTable.keyColumn]
    have hunique := h .dataVersionBatch
    rw [releaseVersion_dataVersionBatch]
    rw [Sql.Unique] at hunique ⊢
    have hfull : (db .dataVersionBatch).filter
        ((fun row => FullKey HeldTable.dataVersionBatch.key.columns row) ∘
          releaseRow version) =
        (db .dataVersionBatch).filter
          fun row => FullKey HeldTable.dataVersionBatch.key.columns row := by
      refine Multiset.filter_congr fun row _ => ?_
      rw [Function.comp_apply, FullKey, FullKey, ← congrFun hkey row]
      rfl
    rw [Multiset.filter_map, Multiset.map_map, hfull, hkey]
    exact hunique
  · rw [releaseVersion_of_ne _ _ htable]
    exact h table

theorem marked_release (h : Marked db) (version : JsText) :
    Marked (releaseVersion version db) where
  rows := by
    intro table htable
    have hne : table ≠ .dataVersionBatch := by
      rintro rfl
      exact absurd htable (by decide)
    rw [releaseVersion_of_ne _ _ hne]
    exact h.rows table htable
  snapshots := by
    rw [releaseVersion_of_ne _ _ (by decide)]
    exact h.snapshots

theorem Held.release {run : CommittedRun} (h : Held platform db run) (version : JsText) :
    Held platform (releaseVersion version db) (run.release version) where
  accepted := by simpa using h.accepted
  length := by simpa using h.length
  own := by simpa using h.own
  marks := by simpa using h.marks
  counts := by simpa using h.counts
  rows := by
    intro table
    rw [release_payload]
    by_cases htable : table = .dataVersionBatch
    · subst htable
      rw [releaseVersion_dataVersionBatch, filter_releaseRow]
      have hrows := h.rows .dataVersionBatch
      by_cases hversion : (idsOf run.payload).version = version
      · have hrelease : ∀ row ∈ (db .dataVersionBatch).filter
            (linked (idsOf run.payload) .dataVersionBatch),
            releaseRow version row = releasedRow row := by
          intro row hrow
          have hlinked : row .dataVersion = some (.text (idsOf run.payload).version) :=
            (Multiset.mem_filter.mp hrow).2
          exact if_pos (hversion ▸ hlinked)
        rw [Multiset.map_congr rfl hrelease, hrows]
        obtain ⟨payload, released⟩ := run
        cases released <;>
          simp [expectedRows, CommittedRun.release, hversion, Function.comp_def]
      · have hkeep : ∀ row ∈ (db .dataVersionBatch).filter
            (linked (idsOf run.payload) .dataVersionBatch), releaseRow version row = id row := by
          intro row hrow
          have hlinked : row .dataVersion = some (.text (idsOf run.payload).version) :=
            (Multiset.mem_filter.mp hrow).2
          refine if_neg fun heq => hversion ?_
          exact HeldCell.text.inj (Option.some.inj (hlinked.symm.trans heq))
        rw [Multiset.map_congr rfl hkeep, Multiset.map_id, hrows, CommittedRun.release,
          if_neg hversion]
    · rw [releaseVersion_of_ne _ _ htable, h.rows, expectedRows_of_ne htable,
        expectedRows_of_ne htable, release_payload]

theorem Sound.release {state : HeldState} (h : Sound platform state) (version : JsText) :
    Sound platform (next platform state (.release version)) where
  unique := unique_release h.unique version
  marked := marked_release h.marked version
  runs := by
    intro run hrun
    obtain ⟨before, hbefore, rfl⟩ := List.mem_map.mp hrun
    exact (h.runs before hbefore).release version

theorem isReleased_release {version : JsText} (h : IsReleased version db) (other : JsText) :
    IsReleased version (releaseVersion other db) := by
  obtain ⟨row, hrow, hversion, hstate⟩ := h
  refine ⟨releaseRow other row, ?_, by simpa using hversion, ?_⟩
  · rw [releaseVersion_dataVersionBatch]
    exact Multiset.mem_map_of_mem _ hrow
  · rw [releaseRow]
    split
    · exact Function.update_self _ _ _
    · exact hstate

end Releases

theorem Held.countRows_eq (h : Held platform db run) (hreleased : run.released = false)
    (table : HeldTable) :
    ((db table).filter fun row => linked (idsOf run.payload) table row ∧ marked table row) =
      staged platform run.payload table := by
  have hexpected : expectedRows platform run table = staged platform run.payload table := by
    refine if_neg fun hboth => ?_
    rw [hreleased] at hboth
    cases hboth.1
  calc ((db table).filter fun row => linked (idsOf run.payload) table row ∧ marked table row)
      = ((db table).filter (linked (idsOf run.payload) table)).filter (marked table) := by
        rw [Multiset.filter_filter]
        exact Multiset.filter_congr fun row _ => and_comm
    _ = staged platform run.payload table := by
        rw [h.rows, hexpected]
        exact Multiset.filter_eq_self.mpr (h.marks table)

theorem Held.readback (reading : ReadbackPlatform) (h : Held platform db run)
    (hreleased : run.released = false) :
    runHeldDbReadback reading (idsOf run.payload) db =
      {snapshotFailures reading (staged platform run.payload .rawSnapshot : Multiset HeldRow)} := by
  have hcount : ∀ table, countRows (idsOf run.payload) db table =
      (rowGroup run.payload table).length := by
    intro table
    rw [countRows, h.countRows_eq hreleased, Multiset.coe_card, h.length]
  obtain ⟨runRow, hsingle⟩ := List.length_eq_one_iff.mp
    ((h.length .sourceRun).trans (h.accepted.single .sourceRun (by decide)))
  have hmem : runRow ∈ staged platform run.payload .sourceRun := by
    rw [hsingle]
    exact List.mem_singleton_self runRow
  have hown := h.own .sourceRun runRow hmem
  have hrows : readbackRows (idsOf run.payload) db = {runRow} := by
    have hfilter : readbackRows (idsOf run.payload) db =
        ((db .sourceRun).filter fun row => linked (idsOf run.payload) .sourceRun row ∧
          marked .sourceRun row).filter fun row =>
            row .sourceBatchId = some (.text (idsOf run.payload).batch) ∧
              row .dataVersion = some (.text (idsOf run.payload).version) := by
      rw [readbackRows, Multiset.filter_filter]
      refine Multiset.filter_congr fun row _ => ?_
      simp only [linked, HeldTable.countColumn, HeldIds.get]
      tauto
    rw [hfilter, h.countRows_eq hreleased, hsingle]
    exact Multiset.filter_eq_self.mpr fun row hrow => by
      obtain rfl := Multiset.mem_singleton.mp hrow
      exact ⟨hown .sourceBatchId (by decide), hown .dataVersion (by decide)⟩
  have hobservations : integerOf runRow .observationCount =
      (rowGroup run.payload .observation).length := by
    rw [integerOf, h.counts runRow hmem (.observationCount, .observation) (by simp)]
  have hreconciliations : integerOf runRow .reconciliationRowCount =
      (rowGroup run.payload .reconciliationRow).length := by
    rw [integerOf, h.counts runRow hmem (.reconciliationRowCount, .reconciliationRow) (by simp)]
  have hsupplements : integerOf runRow .supplementCandidateCount =
      (rowGroup run.payload .supplementCandidate).length := by
    rw [integerOf, h.counts runRow hmem (.supplementCandidateCount, .supplementCandidate) (by simp)]
  have hselected : (selectedRows (idsOf run.payload) db : Int) =
      3 + (rowGroup run.payload .rawSnapshot).length +
        (rowGroup run.payload .observation).length +
        (rowGroup run.payload .reconciliationRow).length +
        (rowGroup run.payload .supplementCandidate).length := by
    have hone := h.accepted.single
    simp only [selectedRows, HeldTable.all, List.map_cons, List.map_nil, List.sum_cons,
      List.sum_nil, hcount, hone .rawSourceBatch (by decide),
      hone .dataVersionBatch (by decide), hone .sourceRun (by decide)]
    push_cast
    ring
  rw [runHeldDbReadback, hrows, Multiset.map_singleton, snapshotsOf,
    h.countRows_eq hreleased]
  simp [countFailures, hcount, hobservations, hreconciliations, hsupplements, hselected,
    errorWhen]

/-- The links of the three rows in front of a payload that its check does not look at. -/
def uncheckedLinks : List (HeldTable × HeldColumn) :=
  [(.rawSourceBatch, .sourceBatchId), (.dataVersionBatch, .sourceBatchId),
    (.sourceRun, .sourceBatchId), (.sourceRun, .dataVersion)]

theorem checked_or_unchecked (table : HeldTable) :
    ∀ column ∈ table.idColumns, column ∈ checkedColumns table ∨
      (table, column) ∈ uncheckedLinks ∧
        table.columns.find? (fun entry => entry.1 = column) = some (column, .text) := by
  cases table <;> decide

theorem own_of_header {payload : JsonValue} (haccepted : Accepted payload)
    (hlinks : ∀ link ∈ uncheckedLinks, ∀ row ∈ rowGroup payload link.1,
      JsonMembers.member row link.2.name = some (.string ((idsOf payload).get link.2)))
    (table : HeldTable) :
    ∀ row ∈ staged platform payload table, Belongs (idsOf payload) table row := by
  intro row hrow column hcolumn
  have hread : recordset platform table (rowGroup payload table) =
      some (staged platform payload table) := by
    rw [staged] at hrow ⊢
    cases hset : recordset platform table (rowGroup payload table) with
    | none =>
      rw [hset] at hrow
      cases hrow
    | some rows => rfl
  have hchecked : column ∈ checkedColumns table → row column = some
      (.text ((idsOf payload).get column)) := by
    intro hmem
    exact haccepted.staged_cell hread hrow
      (List.mem_append_left _ (List.mem_map_of_mem (f := fun column =>
        (column, HeldCell.text ((idsOf payload).get column))) hmem))
  have hlinked : (table, column) ∈ uncheckedLinks →
      table.columns.find? (fun entry => entry.1 = column) = some (column, .text) →
        row column = some (.text ((idsOf payload).get column)) := by
    intro hmem hfind
    obtain ⟨value, hvalue, hrowRead⟩ := exists_of_mapM hread hrow
    exact readRow_cell hrowRead rfl hfind (hlinks _ hmem value hvalue)
  rcases checked_or_unchecked table column hcolumn with hmem | ⟨hmem, hfind⟩
  · exact hchecked hmem
  · exact hlinked hmem hfind

/-- A step that meets its condition keeps the runs. -/
theorem sound_next {state after : HeldState} {event : HeldEvent} (h : Sound platform state)
    (hmeets : Meets platform state event) (hstep : Handles platform state event after) :
    Sound platform after := by
  subst hstep
  cases event with
  | release version => exact h.release version
  | apply payload breaks =>
    rw [next]
    split
    next hvalid =>
      cases hrun : runHeldDbApply platform breaks payload state.db with
      | error stage => exact h
      | ok db =>
        exact h.applied (accepted_of_validate hvalid) (hmeets hvalid) (applied_of_ok hrun)
    next => exact h

theorem sound_of_run {start state : HeldState} {events : List HeldEvent} (hstart : Start start)
    (hrun : Run (Guarded (Handles platform) (Meets platform)) start events state) :
    Sound platform state :=
  hrun.preserves (I := Sound platform)
    (fun _ _ _ hstep hsound => sound_next hsound hstep.1 hstep.2) (sound_of_start hstart)

/-- A step that meets its condition changes no rows of others. -/
theorem frame_next {state : HeldState} (h : Sound platform state) (payload : JsonValue)
    (breaks : ApplyStage → Bool) (hmeets : Meets platform state (.apply payload breaks))
    (table : HeldTable) :
    ((next platform state (.apply payload breaks)).db table).filter
        (fun row => ¬Belongs (idsOf payload) table row) =
      (state.db table).filter fun row => ¬Belongs (idsOf payload) table row := by
  rw [next]
  split
  next hvalid =>
    cases hrun : runHeldDbApply platform breaks payload state.db with
    | error stage => rfl
    | ok db => exact (applied_of_ok hrun).frame h.unique (hmeets hvalid) table
  next => rfl

theorem released_next {state : HeldState} {event : HeldEvent} (h : Sound platform state)
    (hmeets : Meets platform state event) {version : JsText}
    (hreleased : IsReleased version state.db) :
    IsReleased version (next platform state event).db := by
  cases event with
  | release other => exact isReleased_release hreleased other
  | apply payload breaks =>
    rw [next]
    split
    next hvalid =>
      cases hrun : runHeldDbApply platform breaks payload state.db with
      | error stage => exact hreleased
      | ok db => exact (applied_of_ok hrun).keeps_released h.unique (hmeets hvalid) hreleased
    next => exact hreleased

/-- In a run whose steps all meet the condition, every step leaves the other runs alone. -/
theorem heldApplies_isolated (platform : HeldPlatform) (reading : ReadbackPlatform)
    (start state after : HeldState) (events : List HeldEvent) (event : HeldEvent)
    (hstart : Start start)
    (hrun : Run (Guarded (Handles platform) (Meets platform)) start events state)
    (hstep : Guarded (Handles platform) (Meets platform) state event after) :
    Isolated platform reading state event after := by
  have hsound := sound_of_run hstart hrun
  have hafter := sound_next hsound hstep.1 hstep.2
  obtain ⟨hmeets, rfl⟩ := hstep
  exact {
    failed := by
      rintro payload breaks stage rfl hfailed
      rw [next, hfailed]
      split <;> rfl
    frame := by
      rintro payload breaks rfl table
      exact frame_next hsound payload breaks hmeets table
    released := fun version => released_next hsound hmeets
    rows := fun run hrun => (hafter.runs run hrun).rows
    readback := fun run hrun hreleased => (hafter.runs run hrun).readback reading hreleased }

/-- A database that reads the values of the examples as PostgreSQL does. -/
def exampleCast : ColumnType → JsonValue → Option HeldCell
  | .text, .string value => some (.text value)
  | .boolean, .boolean value => some (.boolean value)
  | .jsonb, value => some (.json value)
  | .integer, .number (.finite value) => some (.integer value.num)
  | .timestamptz, .string _ => some (.instant 0)
  | _, _ => none

def examplePlatform : HeldPlatform where
  cast := exampleCast
  cast_string := by
    intro text cell h
    exact (Option.some.inj h).symm
  cast_flag := by
    intro flag cell h
    exact (Option.some.inj h).symm
  cast_json := by
    intro value cell h
    exact (Option.some.inj h).symm
  includesRawHtml := fun _ => false
  includesSecrets := fun _ => false

def object (fields : List (String × JsonValue)) : JsonValue :=
  .object (fields.map fun field => (ofString field.1, field.2))

def text (value : String) : JsonValue :=
  .string (ofString value)

def number (value : Nat) : JsonValue :=
  .number (.finite value)

def exampleId (front : String) (day : UInt16) : JsonValue :=
  .string (ofString front ++ List.replicate 24 day)

def epoch : JsonValue := text "1970-01-01T00:00:00.000Z"

/-- One page with one field of one company, observed on a day. -/
def examplePayload (day : UInt16) : JsonValue :=
  let batch := ("source_batch_id", exampleId "rsb_hk_ipo_public_" day)
  let version := ("data_version", exampleId "dv_hk_ipo_public_" day)
  let run := ("source_run_id", exampleId "sr_hk_ipo_public_" day)
  let methodology := ("methodology_version", text "m0")
  let required := ("raw_snapshot_required", .boolean true)
  let hold := ("quality_state", text "HOLD")
  let code := ("security_code", text "02611.HK")
  let source := ("source_id", text "vbkr_hk_ipo")
  let record := ("source_record_id", text "vbkr:02611")
  let observation := text "obs_1"
  object [
    ("version", text "2026-06-28.hk-ipo-public-held-db-apply-live.v0"),
    ("packet_kind", text "hk_ipo_public_held_db_apply_packet"),
    ("mode", text "live"),
    ("packet_hash", .string (ofString "packet:" ++ List.replicate 64 day)),
    batch, version, run,
    ("object_store_write_summary", object [("remote_object_store_write_count", number 1)]),
    ("row_groups", object [
      ("raw_source_batch", .array [object [batch, ("source_name", text "hk_ipo_public"),
        ("source_dataset", text "hk_ipo_public"), ("received_at", epoch),
        ("source_rights_status", text "default_deny"), ("row_count", number 1)]]),
      ("data_version_batch", .array [object [version, batch, methodology,
        ("rights_policy_version", text "r0"), ("release_state", text "held")]]),
      ("hk_ipo_public_source_run", .array [object [run, batch, version,
        ("adapter_version", text "a0"), ("packet_version", text "p0"),
        ("source_mode", text "live"), ("status", text "held"),
        ("source_ids", .array [text "vbkr_hk_ipo"]), ("security_count", number 1),
        ("observation_count", number 1), ("reconciliation_row_count", number 1),
        ("supplement_candidate_count", number 1), ("live_network_writes", .boolean false),
        ("writes_serving_tables", .boolean false)]]),
      ("raw_snapshot", .array [object [("raw_snapshot_id", text "snapshot_1"), batch, record,
        ("record_kind", text "hk_ipo_public_source_record"),
        ("payload", object [("payload_body_included", .boolean false),
          ("raw_html_included", .boolean false),
          ("storage_target", text "external_raw_snapshot_store"),
          ("object_key", text "page_1"), ("payload_hash_sha256", text "h1")]),
        ("payload_hash_sha256", text "h1"), ("received_at", epoch), hold, version,
        methodology]]),
      ("hk_ipo_public_observation", .array [object [("observation_id", observation), run,
        source, ("provider", text "vbkr"), ("source_url", text "https://hk-ipo.example/02611"),
        ("observed_at", epoch), record, code, ("field_name", text "offer_price"),
        ("field_value", text "1.20"), ("field_value_type", text "text"),
        ("raw_snapshot_id", text "snapshot_1"), required,
        ("reconciled_with_hkex", .boolean false), ("conflict_status", text "unreconciled"),
        ("locator", text "price"), ("locator_hash", text "l1"), version, hold]]),
      ("hk_ipo_public_reconciliation_row", .array [object [
        ("reconciliation_row_id", text "row_1"), run, code, ("fact_name", text "offer_price"),
        ("status", text "single_source"), ("source_observation_ids", .array [observation]),
        ("source_ids", .array [text "vbkr_hk_ipo"]), ("raw_snapshot_request_ids", .array []),
        ("hkex_evidence_ids", .array []), ("confidence", text "low"),
        ("reason", text "one source"), required,
        ("conflict_requires_manual_review", .boolean false), ("promotes_fact", .boolean false),
        version, hold]]),
      ("hk_ipo_public_supplement_candidate", .array [object [
        ("supplement_candidate_id", text "supplement_1"), run,
        ("source_observation_id", observation), code, source, record,
        ("field_name", text "offer_price"), ("field_value_type", text "text"),
        ("status", text "candidate"), required, ("promotes_fact", .boolean false),
        ("reason", text "no official value"), version, hold]])])]

def emptyState : HeldState where
  db := fun _ => 0
  committed := []

theorem start_emptyState : Start emptyState where
  unique := fun table => by simp [emptyState, Sql.Unique]
  marked := ⟨nofun, nofun⟩
  committed := rfl

noncomputable def exampleReading : ReadbackPlatform where
  jsonText := fun _ => []
  orderKeys := Multiset.toList
  orderKeys_coe := Multiset.coe_toList
  objectExists := none

def twoDays : HeldState :=
  next examplePlatform (next examplePlatform emptyState (.apply (examplePayload 49) fun _ => false))
    (.apply (examplePayload 50) fun _ => false)

theorem twoDays_loses_observation :
    ∃ run ∈ twoDays.committed,
      ((twoDays.db .observation).filter (linked (idsOf run.payload) .observation)).card ≠
        (expectedRows examplePlatform run .observation).card := by
  decide +kernel

/-- Without the condition the second day takes the observations of the first. -/
theorem heldApplies_not_isolated :
    ¬∀ (platform : HeldPlatform) (reading : ReadbackPlatform) (start state after : HeldState)
      (events : List HeldEvent) (event : HeldEvent),
      Start start → Run (Handles platform) start events state →
        Handles platform state event after → Isolated platform reading state event after := by
  intro h
  have hisolated := h examplePlatform exampleReading emptyState _ twoDays
    [.apply (examplePayload 49) fun _ => false] (.apply (examplePayload 50) fun _ => false)
    start_emptyState (Run.single rfl) rfl
  obtain ⟨run, hrun, hcount⟩ := twoDays_loses_observation
  exact hcount (congrArg Multiset.card (hisolated.rows run hrun .observation))

theorem heldApplies_isolated_firstDay :
    Isolated examplePlatform exampleReading emptyState
      (.apply (examplePayload 49) fun _ => false)
      (next examplePlatform emptyState (.apply (examplePayload 49) fun _ => false)) :=
  heldApplies_isolated examplePlatform exampleReading emptyState emptyState _ [] _
    start_emptyState (Run.nil _)
    ⟨fun hvalid => {
      own := own_of_header (accepted_of_validate hvalid) (by decide +kernel)
      counts := by decide +kernel
      apart := fun _ _ _ _ hstored => absurd hstored (Multiset.notMem_zero _)
      unreleased := fun ⟨_, hrow, _⟩ => Multiset.notMem_zero _ hrow
      shared := fun _ hstored => absurd hstored (Multiset.notMem_zero _) }, rfl⟩

end Aiphabee.HeldApply
