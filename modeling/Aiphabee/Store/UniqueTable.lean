import Mathlib.Data.List.Nodup

/-!
# Tables with a primary and a unique key

An entry is a row under an id.  In a table no two entries share an id, and no
two rows share their key, so that an upsert that conflicts on the key changes at
most one row, and one that does not may still be refused for its id.
-/

namespace Aiphabee.UniqueTable

universe u v w

structure Entry (ι : Type u) (α : Type v) where
  id : ι
  row : α

variable {ι : Type u} [DecidableEq ι]
variable {α : Type v}
variable {κ : Type w} [DecidableEq κ]

/-- A table whose primary key is the id, and whose unique key is `key`. -/
structure Table (ι : Type u) {α : Type v} {κ : Type w} (key : α → κ) where
  entries : List (Entry ι α)
  distinctIds : (entries.map Entry.id).Nodup
  distinctKeys : (entries.map fun entry => key entry.row).Nodup

structure Merge {α : Type v} {κ : Type w} (key : α → κ) where
  apply : α → α → α
  keeps : ∀ old new, key old = key new → key (apply old new) = key old

variable {key : α → κ}

section Operations

variable (table : Table ι key)

def Table.rows : List α :=
  table.entries.map Entry.row

def Table.empty : Table ι key where
  entries := []
  distinctIds := List.nodup_nil
  distinctKeys := List.nodup_nil

def Table.keep (condition : α → Bool) : Table ι key where
  entries := table.entries.filter fun entry => condition entry.row
  distinctIds := table.distinctIds.sublist (List.filter_sublist.map _)
  distinctKeys := table.distinctKeys.sublist (List.filter_sublist.map _)

/-- `UPDATE … WHERE condition`: the rows that meet a condition are changed, and keep their keys. -/
def Table.update (condition : α → Bool) (change : α → α)
    (hkeeps : ∀ row, key (change row) = key row) : Table ι key where
  entries := table.entries.map fun entry =>
    { entry with row := if condition entry.row then change entry.row else entry.row }
  distinctIds := by
    rw [List.map_map]
    exact table.distinctIds
  distinctKeys := by
    rw [List.map_map]
    convert table.distinctKeys using 2
    funext entry
    simp only [Function.comp_apply]
    split
    · exact hkeeps entry.row
    · rfl

def Table.find (k : κ) : Option α :=
  table.rows.find? fun row => key row = k

def mergeEntry (merge : Merge key) (new : α) (entry : Entry ι α) : Entry ι α where
  id := entry.id
  row := if key entry.row = key new then merge.apply entry.row new else entry.row

omit [DecidableEq ι] in
theorem key_mergeEntry (merge : Merge key) (new : α) (entry : Entry ι α) :
    key (mergeEntry merge new entry).row = key entry.row := by
  unfold mergeEntry
  split
  · next hkey => exact merge.keeps _ _ hkey
  · rfl

/-- `INSERT … ON CONFLICT (key) DO UPDATE`; none where the id of a new row is taken. -/
def Table.upsert (merge : Merge key) (table : Table ι key) (new : Entry ι α) :
    Option (Table ι key) :=
  if hconflict : ∃ entry ∈ table.entries, key entry.row = key new.row then
    some {
      entries := table.entries.map (mergeEntry merge new.row)
      distinctIds := by
        rw [List.map_map]
        exact table.distinctIds
      distinctKeys := by
        rw [List.map_map]
        simpa only [Function.comp_def, key_mergeEntry] using table.distinctKeys }
  else if htaken : ∃ entry ∈ table.entries, entry.id = new.id then
    none
  else
    some {
      entries := table.entries ++ [new]
      distinctIds := by
        rw [List.map_append, List.nodup_append]
        refine ⟨table.distinctIds, List.nodup_singleton _, ?_⟩
        rintro _ hid _ hnew rfl
        obtain ⟨entry, hentry, rfl⟩ := List.mem_map.mp hid
        exact htaken ⟨entry, hentry, List.mem_singleton.mp hnew⟩
      distinctKeys := by
        rw [List.map_append, List.nodup_append]
        refine ⟨table.distinctKeys, List.nodup_singleton _, ?_⟩
        rintro _ hkey _ hnew rfl
        obtain ⟨entry, hentry, rfl⟩ := List.mem_map.mp hkey
        exact hconflict ⟨entry, hentry, List.mem_singleton.mp hnew⟩ }

def Table.upsertAll (merge : Merge key) :
    Table ι key → List (Entry ι α) → Option (Table ι key)
  | table, [] => some table
  | table, new :: rest => (table.upsert merge new).bind fun next => next.upsertAll merge rest

end Operations

section Rows

variable {table after : Table ι key}
variable {merge : Merge key}

omit [DecidableEq ι] [DecidableEq κ] in
theorem mem_keep {condition : α → Bool} {row : α} :
    row ∈ (table.keep condition).rows ↔ row ∈ table.rows ∧ condition row = true := by
  simp only [Table.rows, Table.keep, List.mem_map, List.mem_filter]
  constructor
  · rintro ⟨entry, ⟨hentry, hcondition⟩, rfl⟩
    exact ⟨⟨entry, hentry, rfl⟩, hcondition⟩
  · rintro ⟨⟨entry, hentry, rfl⟩, hcondition⟩
    exact ⟨entry, ⟨hentry, hcondition⟩, rfl⟩

omit [DecidableEq ι] [DecidableEq κ] in
theorem nodup_keys (table : Table ι key) : (table.rows.map key).Nodup := by
  rw [Table.rows, List.map_map]
  exact table.distinctKeys

omit [DecidableEq ι] [DecidableEq κ] in
theorem eq_of_key_eq {first second : α} (hfirst : first ∈ table.rows)
    (hsecond : second ∈ table.rows) (hkey : key first = key second) : first = second :=
  List.inj_on_of_nodup_map (nodup_keys table) hfirst hsecond hkey

omit [DecidableEq ι] in
theorem find_eq_some {k : κ} {row : α} :
    table.find k = some row ↔ row ∈ table.rows ∧ key row = k := by
  constructor
  · intro h
    exact ⟨List.mem_of_find?_eq_some h, by simpa using List.find?_some h⟩
  · rintro ⟨hrow, hkey⟩
    cases hfind : table.find k with
    | none => simpa [hkey] using List.find?_eq_none.mp hfind row hrow
    | some found =>
      have hfound : key found = k := by simpa using List.find?_some hfind
      rw [eq_of_key_eq (List.mem_of_find?_eq_some hfind) hrow (hfound.trans hkey.symm)]

omit [DecidableEq ι] in
theorem find_eq_none {k : κ} : table.find k = none ↔ ∀ row ∈ table.rows, key row ≠ k := by
  simp [Table.find]

def Table.merged (merge : Merge key) (table : Table ι key) (new : α) : α :=
  match table.find (key new) with
  | some old => merge.apply old new
  | none => new

omit [DecidableEq ι] in
theorem key_merged (merge : Merge key) (table : Table ι key) (new : α) :
    key (table.merged merge new) = key new := by
  unfold Table.merged
  split
  · next old hold =>
      have hkey := (find_eq_some.mp hold).2
      rw [merge.keeps old new hkey, hkey]
  · rfl

omit [DecidableEq ι] [DecidableEq κ] in
theorem rows_update {condition : α → Bool} {change : α → α}
    (hkeeps : ∀ row, key (change row) = key row) :
    (table.update condition change hkeeps).rows =
      table.rows.map fun row => if condition row then change row else row := by
  rw [Table.rows, Table.rows, Table.update, List.map_map, List.map_map]
  rfl

omit [DecidableEq ι] [DecidableEq κ] in
theorem filter_rows_update {condition kept : α → Bool} {change : α → α}
    (hkeeps : ∀ row, key (change row) = key row) (hchange : ∀ row, kept (change row) = kept row)
    (hapart : ∀ row, kept row = true → condition row = false) :
    (table.update condition change hkeeps).rows.filter kept = table.rows.filter kept := by
  rw [rows_update]
  induction table.rows with
  | nil => rfl
  | cons row rest ih =>
    rw [List.map_cons, List.filter_cons, List.filter_cons, ih]
    cases hkept : kept row with
    | true => simp [hapart row hkept, hkept]
    | false => split <;> simp [hchange, hkept]

theorem upsert_entries {new : Entry ι α} (h : table.upsert merge new = some after) :
    (∃ old ∈ table.rows, key old = key new.row) ∧
        after.entries = table.entries.map (mergeEntry merge new.row) ∨
      (∀ old ∈ table.rows, key old ≠ key new.row) ∧ after.entries = table.entries ++ [new] := by
  unfold Table.upsert at h
  split at h
  · next hconflict =>
      obtain ⟨entry, hentry, hkey⟩ := hconflict
      rw [← Option.some.inj h]
      exact .inl ⟨⟨entry.row, List.mem_map_of_mem hentry, hkey⟩, rfl⟩
  · next hfree =>
      split at h
      · cases h
      · rw [← Option.some.inj h]
        refine .inr ⟨fun old hold hkey => ?_, rfl⟩
        obtain ⟨entry, hentry, rfl⟩ := List.mem_map.mp hold
        exact hfree ⟨entry, hentry, hkey⟩

theorem mem_upsert {new : Entry ι α} (h : table.upsert merge new = some after) {row : α} :
    row ∈ after.rows ↔
      (row ∈ table.rows ∧ key row ≠ key new.row) ∨ row = table.merged merge new.row := by
  rcases upsert_entries h with ⟨⟨old, hold, hkey⟩, hafter⟩ | ⟨hfree, hafter⟩
  · have hfind : table.find (key new.row) = some old := find_eq_some.mpr ⟨hold, hkey⟩
    have hmerged : table.merged merge new.row = merge.apply old new.row := by
      rw [Table.merged, hfind]
    have hrows : after.rows = table.rows.map fun other =>
        if key other = key new.row then merge.apply other new.row else other := by
      rw [Table.rows, hafter, List.map_map, Table.rows, List.map_map]
      rfl
    rw [hrows, List.mem_map, hmerged]
    constructor
    · rintro ⟨other, hother, rfl⟩
      by_cases hsame : key other = key new.row
      · rw [if_pos hsame, eq_of_key_eq hother hold (hsame.trans hkey.symm)]
        exact .inr rfl
      · rw [if_neg hsame]
        exact .inl ⟨hother, hsame⟩
    · rintro (⟨hrow, hne⟩ | rfl)
      · exact ⟨row, hrow, if_neg hne⟩
      · exact ⟨old, hold, if_pos hkey⟩
  · have hfind : table.find (key new.row) = none := find_eq_none.mpr hfree
    have hmerged : table.merged merge new.row = new.row := by
      rw [Table.merged, hfind]
    have hrows : after.rows = table.rows ++ [new.row] := by
      rw [Table.rows, hafter, List.map_append]
      rfl
    rw [hrows, List.mem_append, List.mem_singleton, hmerged]
    constructor
    · rintro (hrow | rfl)
      · exact .inl ⟨hrow, hfree row hrow⟩
      · exact .inr rfl
    · rintro (⟨hrow, -⟩ | rfl)
      · exact .inl hrow
      · exact .inr rfl

theorem mem_entries_upsert {new entry : Entry ι α} (h : table.upsert merge new = some after)
    (hentry : entry ∈ table.entries) (hne : key entry.row ≠ key new.row) :
    entry ∈ after.entries := by
  rcases upsert_entries h with ⟨-, hafter⟩ | ⟨-, hafter⟩
  · rw [hafter]
    refine List.mem_map.mpr ⟨entry, hentry, ?_⟩
    rw [mergeEntry, if_neg hne]
  · rw [hafter]
    exact List.mem_append_left _ hentry

theorem entries_upsert {new entry : Entry ι α} {P : α → Prop}
    (h : table.upsert merge new = some after) (hnew : P new.row)
    (hmerged : ∀ old, P (merge.apply old new.row)) (hentry : entry ∈ after.entries) :
    (entry ∈ table.entries ∧ key entry.row ≠ key new.row) ∨ P entry.row := by
  rcases upsert_entries h with ⟨-, hafter⟩ | ⟨hfree, hafter⟩
  · rw [hafter] at hentry
    obtain ⟨old, hold, rfl⟩ := List.mem_map.mp hentry
    unfold mergeEntry
    split
    · exact .inr (hmerged old.row)
    · next hne => exact .inl ⟨hold, hne⟩
  · rw [hafter] at hentry
    rcases List.mem_append.mp hentry with hold | hadded
    · exact .inl ⟨hold, hfree _ (List.mem_map_of_mem hold)⟩
    · rw [List.mem_singleton.mp hadded]
      exact .inr hnew

end Rows

section Sequences

variable {table after : Table ι key}
variable {merge : Merge key}

theorem find_upsert_of_ne {new : Entry ι α} {k : κ} (h : table.upsert merge new = some after)
    (hne : k ≠ key new.row) : after.find k = table.find k := by
  cases hfind : table.find k with
  | none =>
    rw [find_eq_none] at hfind ⊢
    intro row hrow hkey
    rcases (mem_upsert h).mp hrow with ⟨hold, -⟩ | rfl
    · exact hfind row hold hkey
    · rw [key_merged merge table] at hkey
      exact hne hkey.symm
  | some old =>
    obtain ⟨hold, hkey⟩ := find_eq_some.mp hfind
    exact find_eq_some.mpr ⟨(mem_upsert h).mpr (.inl ⟨hold, hkey ▸ hne⟩), hkey⟩

theorem upsertAll_append (merge : Merge key) (table : Table ι key)
    (first second : List (Entry ι α)) :
    table.upsertAll merge (first ++ second) =
      (table.upsertAll merge first).bind fun next => next.upsertAll merge second := by
  induction first generalizing table with
  | nil => rfl
  | cons new rest ih =>
    rw [List.cons_append, Table.upsertAll, Table.upsertAll, Option.bind_assoc]
    exact congrArg (Option.bind _) (funext ih)

variable {news : List (Entry ι α)}

theorem mem_entries_upsertAll {entry : Entry ι α} (h : table.upsertAll merge news = some after)
    (hentry : entry ∈ table.entries) (hne : ∀ new ∈ news, key entry.row ≠ key new.row) :
    entry ∈ after.entries := by
  induction news generalizing table with
  | nil =>
    obtain rfl := Option.some.inj h
    exact hentry
  | cons new rest ih =>
    obtain ⟨next, hnext, hrest⟩ := Option.bind_eq_some_iff.mp h
    exact ih hrest (mem_entries_upsert hnext hentry (hne new List.mem_cons_self))
      fun other hother => hne other (List.mem_cons_of_mem _ hother)

theorem entries_upsertAll {entry : Entry ι α} {P : α → Prop}
    (h : table.upsertAll merge news = some after)
    (hnews : ∀ new ∈ news, P new.row ∧ ∀ old, P (merge.apply old new.row))
    (hentry : entry ∈ after.entries) :
    (entry ∈ table.entries ∧ ∀ new ∈ news, key entry.row ≠ key new.row) ∨ P entry.row := by
  induction news generalizing table with
  | nil =>
    obtain rfl := Option.some.inj h
    exact .inl ⟨hentry, List.forall_mem_nil _⟩
  | cons new rest ih =>
    obtain ⟨next, hnext, hrest⟩ := Option.bind_eq_some_iff.mp h
    obtain ⟨⟨hnew, hmerged⟩, hothers⟩ := List.forall_mem_cons.mp hnews
    rcases ih hrest hothers with ⟨hnextEntry, hne⟩ | hwritten
    · rcases entries_upsert hnext hnew hmerged hnextEntry with ⟨hold, hkey⟩ | hwritten
      · exact .inl ⟨hold, List.forall_mem_cons.mpr ⟨hkey, hne⟩⟩
      · exact .inr hwritten
    · exact .inr hwritten

theorem mem_upsertAll (h : table.upsertAll merge news = some after)
    (hdistinct : (news.map fun new => key new.row).Nodup) {row : α} :
    row ∈ after.rows ↔
      (row ∈ table.rows ∧ ∀ new ∈ news, key row ≠ key new.row) ∨
        ∃ new ∈ news, row = table.merged merge new.row := by
  induction news generalizing table with
  | nil =>
    obtain rfl := Option.some.inj h
    simp
  | cons new rest ih =>
    obtain ⟨next, hnext, hrest⟩ := Option.bind_eq_some_iff.mp h
    rw [List.map_cons, List.nodup_cons] at hdistinct
    obtain ⟨hfresh, hdistinct⟩ := hdistinct
    have hother : ∀ other ∈ rest, key other.row ≠ key new.row := by
      intro other hmem hkey
      exact hfresh (List.mem_map.mpr ⟨other, hmem, hkey⟩)
    have hmerged : ∀ other ∈ rest,
        next.merged merge other.row = table.merged merge other.row := by
      intro other hmem
      rw [Table.merged, Table.merged, find_upsert_of_ne hnext (hother other hmem)]
    have hafter := ih hrest hdistinct
    rw [hafter, mem_upsert hnext]
    constructor
    · rintro (⟨⟨hrow, hne⟩ | rfl, hnone⟩ | ⟨other, hmem, rfl⟩)
      · exact .inl ⟨hrow, List.forall_mem_cons.mpr ⟨hne, hnone⟩⟩
      · exact .inr ⟨new, List.mem_cons_self, rfl⟩
      · exact .inr ⟨other, List.mem_cons_of_mem _ hmem, hmerged other hmem⟩
    · rintro (⟨hrow, hnone⟩ | ⟨other, hmem, rfl⟩)
      · exact .inl ⟨.inl ⟨hrow, hnone new List.mem_cons_self⟩,
          fun other hmem => hnone other (List.mem_cons_of_mem _ hmem)⟩
      · rcases List.mem_cons.mp hmem with rfl | hmem
        · refine .inl ⟨.inr rfl, fun new hnew hkey => ?_⟩
          rw [key_merged merge table] at hkey
          exact hother new hnew hkey.symm
        · exact .inr ⟨other, hmem, (hmerged other hmem).symm⟩

end Sequences

end Aiphabee.UniqueTable
