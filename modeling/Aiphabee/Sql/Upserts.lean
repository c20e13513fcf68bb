import Aiphabee.Sql.Keys

/-!
# What an upsert leaves

An `INSERT … ON CONFLICT` takes away the rows whose key the staged rows supply
and loads the staged rows: all of them under `DO UPDATE`, and under `DO
NOTHING`, where every column is in the key, one of each that has no null.  It
succeeds or fails whatever the table holds.
-/

namespace Aiphabee.Sql

universe u v

variable {κ : Type u} {ν : Type v} [DecidableEq κ] [DecidableEq ν]

section Steps

def Supplied (columns : List κ) (staged : List (Row κ ν)) (row : Row κ ν) : Prop :=
  FullKey columns row ∧ ∃ new ∈ staged, keyOf columns new = keyOf columns row

instance (columns : List κ) (staged : List (Row κ ν)) (row : Row κ ν) :
    Decidable (Supplied columns staged row) :=
  inferInstanceAs (Decidable (_ ∧ _))

omit [DecidableEq κ] [DecidableEq ν] in
theorem fullKey_of_eq {columns : List κ} {first second : Row κ ν}
    (h : keyOf columns first = keyOf columns second) (hfirst : FullKey columns first) :
    FullKey columns second := by
  rw [FullKey, ← h]
  exact hfirst

def Refused (key : Key κ) (row : Row κ ν) : Prop :=
  key.isPrimary ∧ ¬FullKey key.columns row

variable {state after : Upserting κ ν}
variable {row : Row κ ν}
variable {key : Key κ}

theorem upsertRow_cases {action : ConflictAction} (hunique : Unique key.columns state.rows)
    (h : upsertRow key action state row = some after) :
    ¬Refused key row ∧
      ((Conflicts key.columns state.rows row ∧ action = .doNothing ∧ after = state) ∨
        (Conflicts key.columns state.rows row ∧ action = .doUpdate ∧
          keyOf key.columns row ∉ state.written ∧
          after = {
            rows := row ::ₘ state.rows.filter fun old =>
              keyOf key.columns old ≠ keyOf key.columns row
            written := keyOf key.columns row :: state.written }) ∨
        (¬Conflicts key.columns state.rows row ∧
          after = {
            rows := row ::ₘ state.rows
            written := keyOf key.columns row :: state.written })) := by
  unfold upsertRow at h
  split at h
  next => cases h
  next hrefused =>
    refine ⟨hrefused, ?_⟩
    split at h
    next hconflict =>
      cases action with
      | doNothing => exact Or.inl ⟨hconflict, rfl, (Option.some.inj h).symm⟩
      | doUpdate =>
        dsimp only at h
        split at h
        next => cases h
        next hwritten =>
          refine Or.inr (Or.inl ⟨hconflict, rfl, hwritten, ?_⟩)
          rw [← map_overwrite hunique hconflict]
          exact (Option.some.inj h).symm
    next hconflict => exact Or.inr (Or.inr ⟨hconflict, (Option.some.inj h).symm⟩)

theorem upsertRow_unique {action : ConflictAction} (hunique : Unique key.columns state.rows)
    (h : upsertRow key action state row = some after) : Unique key.columns after.rows := by
  obtain ⟨-, ⟨-, -, rfl⟩ | ⟨-, -, -, rfl⟩ | ⟨hnew, rfl⟩⟩ := upsertRow_cases hunique h
  · exact hunique
  · refine unique_cons.mpr ⟨fun _ other hother => (Multiset.mem_filter.mp hother).2, ?_⟩
    exact Multiset.nodup_of_le
      (Multiset.map_le_map (Multiset.filter_le_filter _ (Multiset.filter_le _ _))) hunique
  · refine unique_cons.mpr ⟨fun hfull other hother hkey => hnew ⟨hfull, other, hother, hkey⟩, ?_⟩
    exact hunique

omit [DecidableEq κ] in
theorem count_le_one [DecidableEq (Row κ ν)] {columns : List κ} {rows : Multiset (Row κ ν)}
    (hunique : Unique columns rows) (hfull : FullKey columns row) : rows.count row ≤ 1 := by
  have hnodup : (rows.filter fun row => FullKey columns row).Nodup :=
    Multiset.Nodup.of_map _ hunique
  calc rows.count row
      = (rows.filter fun row => FullKey columns row).count row :=
        (Multiset.count_filter_of_pos hfull).symm
    _ ≤ 1 := Multiset.nodup_iff_count_le_one.mp hnodup row

def Written (columns : List κ) (state : Upserting κ ν) (row : Row κ ν) : Prop :=
  Conflicts columns state.rows row ∧ keyOf columns row ∈ state.written

theorem Written.step {row new : Row κ ν} (hwritten : Written key.columns state row)
    (hunique : Unique key.columns state.rows) (h : upsertRow key .doUpdate state new = some after) :
    keyOf key.columns new ≠ keyOf key.columns row ∧ Written key.columns after row := by
  obtain ⟨⟨hfull, old, hold, hkey⟩, hmem⟩ := hwritten
  obtain ⟨-, ⟨-, haction, -⟩ | ⟨hconflict, -, hnew, rfl⟩ | ⟨hfresh, rfl⟩⟩ :=
    upsertRow_cases hunique h
  · cases haction
  · have hne : keyOf key.columns new ≠ keyOf key.columns row := fun heq => hnew (heq ▸ hmem)
    refine ⟨hne, ⟨hfull, old, ?_, hkey⟩, List.mem_cons_of_mem _ hmem⟩
    refine Multiset.mem_cons_of_mem (Multiset.mem_filter.mpr ⟨hold, ?_⟩)
    rw [hkey]
    exact hne.symm
  · have hne : keyOf key.columns new ≠ keyOf key.columns row := by
      intro heq
      exact hfresh ⟨fullKey_of_eq heq.symm hfull, old, hold, hkey.trans heq.symm⟩
    exact ⟨hne, ⟨hfull, old, Multiset.mem_cons_of_mem hold, hkey⟩,
      List.mem_cons_of_mem _ hmem⟩

end Steps

section Updates

variable {state after : Upserting κ ν}
variable {key : Key κ}
variable {row : Row κ ν}

theorem ne_of_written (staged : List (Row κ ν)) (hunique : Unique key.columns state.rows)
    (hwritten : Written key.columns state row)
    (h : staged.foldlM (upsertRow key .doUpdate) state = some after) :
    ∀ new ∈ staged, keyOf key.columns new ≠ keyOf key.columns row := by
  induction staged generalizing state with
  | nil => simp
  | cons new rest ih =>
    rw [List.foldlM_cons] at h
    obtain ⟨next, hstep, hrest⟩ := Option.bind_eq_some_iff.mp h
    obtain ⟨hne, hnext⟩ := hwritten.step hunique hstep
    exact List.forall_mem_cons.mpr ⟨hne, ih (upsertRow_unique hunique hstep) hnext hrest⟩

theorem written_of_step (hunique : Unique key.columns state.rows) (hfull : FullKey key.columns row)
    (h : upsertRow key .doUpdate state row = some after) : Written key.columns after row := by
  obtain ⟨-, ⟨-, haction, -⟩ | ⟨-, -, -, rfl⟩ | ⟨-, rfl⟩⟩ := upsertRow_cases hunique h
  · cases haction
  · exact ⟨⟨hfull, row, Multiset.mem_cons_self _ _, rfl⟩, List.mem_cons_self⟩
  · exact ⟨⟨hfull, row, Multiset.mem_cons_self _ _, rfl⟩, List.mem_cons_self⟩

theorem upsertRow_succeeds {state : Upserting κ ν} (hrefused : ¬Refused key row)
    (hfresh : ¬Written key.columns state row) :
    ∃ after, upsertRow key .doUpdate state row = some after := by
  unfold upsertRow
  split
  next h => exact absurd h hrefused
  next =>
    split
    next hconflict =>
      dsimp only
      rw [if_neg fun hmem => hfresh ⟨hconflict, hmem⟩]
      exact ⟨_, rfl⟩
    next => exact ⟨_, rfl⟩

theorem Written.back {row new : Row κ ν} (hwritten : Written key.columns after row)
    (hunique : Unique key.columns state.rows) (h : upsertRow key .doUpdate state new = some after)
    (hne : keyOf key.columns row ≠ keyOf key.columns new) : Written key.columns state row := by
  obtain ⟨⟨hfull, old, hold, hkey⟩, hmem⟩ := hwritten
  have hother : old ≠ new := by
    rintro rfl
    exact hne hkey.symm
  obtain ⟨-, ⟨-, haction, -⟩ | ⟨-, -, -, rfl⟩ | ⟨-, rfl⟩⟩ := upsertRow_cases hunique h
  · cases haction
  · have hrow := (Multiset.mem_cons.mp hold).resolve_left hother
    exact ⟨⟨hfull, old, (Multiset.mem_filter.mp hrow).1, hkey⟩,
      (List.mem_cons.mp hmem).resolve_left hne⟩
  · have hrow := (Multiset.mem_cons.mp hold).resolve_left hother
    exact ⟨⟨hfull, old, hrow, hkey⟩, (List.mem_cons.mp hmem).resolve_left hne⟩

/-- `DO UPDATE` takes the rows with a supplied key away and loads all that is staged. -/
theorem rows_doUpdate (staged : List (Row κ ν)) (hunique : Unique key.columns state.rows)
    (h : staged.foldlM (upsertRow key .doUpdate) state = some after) :
    after.rows =
      (state.rows.filter fun row => ¬Supplied key.columns staged row) +
        (staged : Multiset (Row κ ν)) := by
  induction staged generalizing state with
  | nil =>
    obtain rfl : state = after := by simpa using h
    simp [Supplied]
  | cons new rest ih =>
    rw [List.foldlM_cons] at h
    obtain ⟨next, hstep, hrest⟩ := Option.bind_eq_some_iff.mp h
    have hnext := ih (upsertRow_unique hunique hstep) hrest
    -- The row itself is not supplied again by the rest.
    have hkept : ¬Supplied key.columns rest new := by
      rintro ⟨hfull, other, hother, hkey⟩
      exact ne_of_written rest (upsertRow_unique hunique hstep)
        (written_of_step hunique hfull hstep) hrest other hother hkey
    have hfilter := fun rows => Multiset.filter_cons_of_pos
      (p := fun row => ¬Supplied key.columns rest row) rows hkept
    have hsupplied : ∀ row, Supplied key.columns (new :: rest) row ↔
        (FullKey key.columns row ∧ keyOf key.columns new = keyOf key.columns row) ∨
          Supplied key.columns rest row := by
      intro row
      simp only [Supplied, List.mem_cons, exists_eq_or_imp, and_or_left]
    obtain ⟨-, ⟨-, haction, -⟩ | ⟨hconflict, -, -, rfl⟩ | ⟨hfresh, rfl⟩⟩ :=
      upsertRow_cases hunique hstep
    · cases haction
    · rw [hnext, hfilter, Multiset.filter_filter, ← Multiset.cons_coe, Multiset.cons_add,
        Multiset.add_cons]
      congr 2
      refine Multiset.filter_congr fun row _ => ?_
      rw [hsupplied, not_or, and_comm]
      refine and_congr_left fun _ => ?_
      constructor
      · exact fun hne heq => hne heq.2.symm
      · exact fun hne heq => hne ⟨fullKey_of_eq heq.symm hconflict.1, heq.symm⟩
    · rw [hnext, hfilter, ← Multiset.cons_coe, Multiset.cons_add, Multiset.add_cons]
      congr 2
      refine Multiset.filter_congr fun row hrow => ?_
      rw [hsupplied, not_or, iff_and_self]
      rintro - ⟨hfull, hkey⟩
      exact hfresh ⟨fullKey_of_eq hkey.symm hfull, row, hrow, hkey.symm⟩

/-- `DO UPDATE` succeeds when no row is refused and none is written twice. -/
theorem doUpdate_succeeds (staged : List (Row κ ν)) {state : Upserting κ ν}
    (hunique : Unique key.columns state.rows) :
    (∃ after, staged.foldlM (upsertRow key .doUpdate) state = some after) ↔
      (∀ row ∈ staged, ¬Refused key row) ∧ Unique key.columns (staged : Multiset (Row κ ν)) ∧
        ∀ row ∈ staged, ¬Written key.columns state row := by
  induction staged generalizing state with
  | nil => simp [Unique]
  | cons new rest ih =>
    rw [← Multiset.cons_coe, unique_cons, List.forall_mem_cons, List.forall_mem_cons]
    constructor
    · rintro ⟨after, h⟩
      rw [List.foldlM_cons] at h
      obtain ⟨next, hstep, hrest⟩ := Option.bind_eq_some_iff.mp h
      obtain ⟨hrefused, hdistinct, hwritten⟩ :=
        (ih (upsertRow_unique hunique hstep)).mp ⟨after, hrest⟩
      refine ⟨⟨(upsertRow_cases hunique hstep).1, hrefused⟩, ⟨?_, hdistinct⟩, ?_, ?_⟩
      · intro hfull other hother
        exact ne_of_written rest (upsertRow_unique hunique hstep)
          (written_of_step hunique hfull hstep) hrest other hother
      · exact fun h => (h.step hunique hstep).1 rfl
      · exact fun other hother h => hwritten other hother (h.step hunique hstep).2
    · rintro ⟨⟨hnew, hrefused⟩, ⟨hapart, hdistinct⟩, hfresh, hwritten⟩
      obtain ⟨next, hstep⟩ := upsertRow_succeeds hnew hfresh
      have hback : ∀ other ∈ rest, ¬Written key.columns next other := by
        intro other hother h
        exact hwritten other hother
          (h.back hunique hstep fun heq => hapart (fullKey_of_eq heq h.1.1) other hother heq)
      obtain ⟨after, hafter⟩ := (ih (upsertRow_unique hunique hstep)).mpr
        ⟨hrefused, hdistinct, hback⟩
      refine ⟨after, ?_⟩
      rw [List.foldlM_cons]
      exact Option.bind_eq_some_iff.mpr ⟨next, hstep, hafter⟩

end Updates

section Skips

variable [Fintype κ]

omit [DecidableEq κ] [Fintype κ] [DecidableEq ν] in
theorem eq_of_keyOf_eq {columns : List κ} {first second : Row κ ν}
    (hall : ∀ column, column ∈ columns) (h : keyOf columns first = keyOf columns second) :
    first = second :=
  funext fun column => List.map_inj_left.mp h column (hall column)

omit [Fintype κ] [DecidableEq κ] [DecidableEq ν] in
theorem supplied_iff {columns : List κ} (hall : ∀ column, column ∈ columns)
    (staged : List (Row κ ν)) (row : Row κ ν) :
    Supplied columns staged row ↔ FullKey columns row ∧ row ∈ staged := by
  refine and_congr_right fun _ => ⟨?_, fun h => ⟨row, h, rfl⟩⟩
  rintro ⟨new, hnew, hkey⟩
  obtain rfl := eq_of_keyOf_eq hall hkey
  exact hnew

/-- How often `DO NOTHING` leaves a row, where every column is in the key. -/
theorem count_doNothing {key : Key κ} (hall : ∀ column, column ∈ key.columns)
    (staged : List (Row κ ν)) {state after : Upserting κ ν}
    (hunique : Unique key.columns state.rows)
    (h : staged.foldlM (upsertRow key .doNothing) state = some after) (row : Row κ ν) :
    after.rows.count row =
      if FullKey key.columns row ∧ row ∈ staged then 1
      else state.rows.count row + if FullKey key.columns row then 0 else staged.count row := by
  induction staged generalizing state with
  | nil =>
    obtain rfl : state = after := by simpa using h
    simp
  | cons new rest ih =>
    rw [List.foldlM_cons] at h
    obtain ⟨next, hstep, hrest⟩ := Option.bind_eq_some_iff.mp h
    rw [ih (upsertRow_unique hunique hstep) hrest]
    obtain ⟨-, ⟨⟨hfull, old, hold, hkey⟩, -, hnext⟩ | ⟨-, haction, -⟩ | ⟨hfresh, rfl⟩⟩ :=
      upsertRow_cases hunique hstep
    · subst hnext
      obtain rfl := eq_of_keyOf_eq hall hkey
      have honce : next.rows.count old = 1 :=
        le_antisymm (count_le_one hunique hfull) (Multiset.one_le_count_iff_mem.mpr hold)
      by_cases hrow : row = old
      · subst hrow
        simp [hfull, honce]
      · simp [hrow, List.count_cons_of_ne (Ne.symm hrow)]
    · cases haction
    · by_cases hrow : row = new
      · subst hrow
        by_cases hfull : FullKey key.columns row
        · have hnone : row ∉ state.rows := fun hmem => hfresh ⟨hfull, row, hmem, rfl⟩
          simp [hfull, Multiset.count_eq_zero_of_notMem hnone]
        · simp [hfull]
          omega
      · simp [hrow, List.count_cons_of_ne (Ne.symm hrow), Multiset.count_cons_of_ne hrow]

def loaded (columns : List κ) (staged : Multiset (Row κ ν)) : ConflictAction → Multiset (Row κ ν)
  | .doUpdate => staged
  | .doNothing =>
    (staged.filter fun row => ¬FullKey columns row) +
      (staged.filter fun row => FullKey columns row).dedup

theorem upsertRows_eq {key : Key κ} {action : ConflictAction} {rows after : Multiset (Row κ ν)}
    {staged : List (Row κ ν)} (haction : action = .doNothing → ∀ column, column ∈ key.columns)
    (hunique : Unique key.columns rows) (h : upsertRows key action rows staged = some after) :
    after = (rows.filter fun row => ¬Supplied key.columns staged row) +
      loaded key.columns (staged : Multiset (Row κ ν)) action := by
  obtain ⟨state, hstate, rfl⟩ := Option.map_eq_some_iff.mp h
  cases action with
  | doUpdate => exact rows_doUpdate staged hunique hstate
  | doNothing =>
    have hall := haction rfl
    refine Multiset.ext.mpr fun row => ?_
    rw [count_doNothing hall staged hunique hstate row, Multiset.count_add, loaded,
      Multiset.count_add, Multiset.count_filter, Multiset.count_filter, Multiset.count_dedup]
    have hsupplied := supplied_iff hall staged row
    by_cases hfull : FullKey key.columns row
    · by_cases hmem : row ∈ staged <;> simp [hsupplied, hfull, hmem]
    · simp [hsupplied, hfull]

end Skips

section Frames

variable {rows after : Multiset (Row κ ν)}
variable {staged : List (Row κ ν)}
variable {key : Key κ}

theorem upsertRows_unique {action : ConflictAction} (hunique : Unique key.columns rows)
    (h : upsertRows key action rows staged = some after) : Unique key.columns after := by
  obtain ⟨state, hstate, rfl⟩ := Option.map_eq_some_iff.mp h
  clear h
  generalize hstart : ({ rows, written := [] } : Upserting κ ν) = start at hstate
  have hbegin : Unique key.columns start.rows := by
    rw [← hstart]
    exact hunique
  clear hstart
  induction staged generalizing start with
  | nil =>
    obtain rfl : start = state := by simpa using hstate
    exact hbegin
  | cons new rest ih =>
    rw [List.foldlM_cons] at hstate
    obtain ⟨next, hstep, hrest⟩ := Option.bind_eq_some_iff.mp hstate
    exact ih next hrest (upsertRow_unique hbegin hstep)

variable {columns : List κ}

omit [DecidableEq κ] in
theorem eq_of_unique {rows : Multiset (Row κ ν)} {first second : Row κ ν}
    (hunique : Unique columns rows) (hfirst : first ∈ rows) (hsecond : second ∈ rows)
    (hfull : FullKey columns first) (hkey : keyOf columns first = keyOf columns second) :
    first = second := by
  refine Multiset.inj_on_of_nodup_map hunique first ?_ second ?_ hkey
  · exact Multiset.mem_filter.mpr ⟨hfirst, hfull⟩
  · exact Multiset.mem_filter.mpr ⟨hsecond, fullKey_of_eq hkey hfull⟩

/-- `DO UPDATE` takes the rows with a supplied key away and loads all that is staged. -/
theorem upsertRows_doUpdate (hunique : Unique key.columns rows)
    (h : upsertRows key .doUpdate rows staged = some after) :
    after = (rows.filter fun row => ¬Supplied key.columns staged row) +
      (staged : Multiset (Row κ ν)) := by
  obtain ⟨state, hstate, rfl⟩ := Option.map_eq_some_iff.mp h
  exact rows_doUpdate staged hunique hstate

theorem filter_upsertRows (p : Row κ ν → Prop) [DecidablePred p] (hunique : Unique key.columns rows)
    (h : upsertRows key .doUpdate rows staged = some after)
    (hsupplied : ∀ row ∈ rows, Supplied key.columns staged row → ¬p row)
    (hstaged : ∀ row ∈ staged, ¬p row) : after.filter p = rows.filter p := by
  have hnone : (staged : Multiset (Row κ ν)).filter p = 0 :=
    Multiset.filter_eq_nil.mpr fun row hrow => hstaged row hrow
  rw [upsertRows_doUpdate hunique h, Multiset.filter_add, Multiset.filter_filter, hnone, add_zero]
  refine Multiset.filter_congr fun row hrow => ?_
  rw [and_iff_left_iff_imp]
  exact fun hp hsupply => hsupplied row hrow hsupply hp

theorem upsertRows_of_stored (hunique : Unique (Key.primary columns).columns rows)
    (h : upsertRows (.primary columns) .doUpdate rows staged = some after)
    (hstored : ∀ row ∈ staged, row ∈ rows) (hfull : ∀ row ∈ staged, FullKey columns row)
    (hstaged : Unique columns (staged : Multiset (Row κ ν))) : after = rows := by
  have hnodup : (staged : Multiset (Row κ ν)).Nodup := by
    have hall : (staged : Multiset (Row κ ν)).filter (fun row => FullKey columns row) = staged :=
      Multiset.filter_eq_self.mpr hfull
    rw [Unique, hall] at hstaged
    exact Multiset.Nodup.of_map _ hstaged
  have hsupplied : (rows.filter fun row => Supplied columns staged row) = staged := by
    have hle : (rows.filter fun row => Supplied columns staged row) ≤
        rows.filter fun row => FullKey columns row :=
      Multiset.monotone_filter_right rows fun row hrow => hrow.1
    have hrows : (rows.filter fun row => Supplied columns staged row).Nodup :=
      Multiset.nodup_of_le hle (Multiset.Nodup.of_map _ hunique)
    refine (Multiset.Nodup.ext hrows hnodup).mpr fun row => ?_
    rw [Multiset.mem_filter, Multiset.mem_coe]
    constructor
    · rintro ⟨hrow, hkey, new, hnew, heq⟩
      have hsame := eq_of_unique hunique (hstored new hnew) hrow (hfull new hnew) heq
      rwa [← hsame]
    · exact fun hrow => ⟨hstored row hrow, hfull row hrow, row, hrow, rfl⟩
  rw [upsertRows_doUpdate hunique h]
  change (rows.filter fun row => ¬Supplied columns staged row) + _ = rows
  calc (rows.filter fun row => ¬Supplied columns staged row) + (staged : Multiset (Row κ ν))
      = (rows.filter fun row => ¬Supplied columns staged row) +
          rows.filter fun row => Supplied columns staged row := by rw [hsupplied]
    _ = rows := by rw [add_comm, Multiset.filter_add_not]

theorem staged_of_upsertRows (hunique : Unique (Key.primary columns).columns rows)
    (h : upsertRows (.primary columns) .doUpdate rows staged = some after) :
    (∀ row ∈ staged, FullKey columns row) ∧ Unique columns (staged : Multiset (Row κ ν)) := by
  obtain ⟨state, hstate, rfl⟩ := Option.map_eq_some_iff.mp h
  obtain ⟨hrefused, hkeys, -⟩ :=
    (doUpdate_succeeds staged hunique).mp ⟨state, hstate⟩
  refine ⟨fun row hrow => ?_, hkeys⟩
  by_contra hnull
  exact hrefused row hrow ⟨rfl, hnull⟩

end Frames

end Aiphabee.Sql
