import Aiphabee.Sql.Keys

/-!
# Insertions that set some columns on a conflict

`INSERT … ON CONFLICT (target) DO UPDATE SET …` adds a row under a free key, and
otherwise sets the named columns of the row that has the key; with no column to
set it is `DO NOTHING`.  However many rows are inserted, a row that was there
takes the set columns of the last one with its key, and the new rows come behind
it (`insertAll_eq`).
-/

namespace Aiphabee.Sql

universe u v

variable {κ : Type u} {ν : Type v}

structure OnConflict (κ : Type u) where
  target : List κ
  set : List κ
  apart : ∀ column ∈ target, column ∉ set

section Rows

variable [DecidableEq κ]

def setColumns (columns : List κ) (old new : Row κ ν) : Row κ ν :=
  fun column => if column ∈ columns then new column else old column

theorem setColumns_self (columns : List κ) (row : Row κ ν) : setColumns columns row row = row := by
  funext column
  exact ite_self _

theorem setColumns_setColumns (columns : List κ) (old first second : Row κ ν) :
    setColumns columns (setColumns columns old first) second = setColumns columns old second := by
  funext column
  simp only [setColumns]
  split <;> rfl

theorem keyOf_setColumns (clause : OnConflict κ) (old new : Row κ ν) :
    keyOf clause.target (setColumns clause.set old new) = keyOf clause.target old := by
  refine List.map_congr_left fun column hcolumn => ?_
  exact if_neg (clause.apart column hcolumn)

end Rows

section Insertions

variable [DecidableEq κ] [DecidableEq ν]
variable (clause : OnConflict κ)

def insertRow (rows : List (Row κ ν)) (new : Row κ ν) : List (Row κ ν) :=
  if keyOf clause.target new ∈ rows.map (keyOf clause.target) then
    rows.map fun row =>
      if keyOf clause.target row = keyOf clause.target new then
        setColumns clause.set row new
      else row
  else
    rows ++ [new]

def insertAll (rows news : List (Row κ ν)) : List (Row κ ν) :=
  news.foldl (insertRow clause) rows

def absorb (news : List (Row κ ν)) (row : Row κ ν) : Row κ ν :=
  match (news.filter fun new => keyOf clause.target new = keyOf clause.target row).getLast? with
  | none => row
  | some last => setColumns clause.set row last

variable {clause}
variable {rows news : List (Row κ ν)}
variable {row new : Row κ ν}

theorem absorb_of_not_mem (h : keyOf clause.target row ∉ news.map (keyOf clause.target)) :
    absorb clause news row = row := by
  have hnil : (news.filter fun new => keyOf clause.target new = keyOf clause.target row) = [] := by
    refine List.filter_eq_nil_iff.mpr fun new hnew hkey => h ?_
    exact List.mem_map.mpr ⟨new, hnew, of_decide_eq_true hkey⟩
  rw [absorb, hnil]
  rfl

theorem absorb_concat_of_eq (h : keyOf clause.target row = keyOf clause.target new) :
    absorb clause (news ++ [new]) row = setColumns clause.set row new := by
  rw [absorb, List.filter_append, List.filter_singleton, decide_eq_true h.symm, cond_true,
    List.getLast?_concat]

theorem absorb_concat_of_ne (h : keyOf clause.target row ≠ keyOf clause.target new) :
    absorb clause (news ++ [new]) row = absorb clause news row := by
  rw [absorb, absorb, List.filter_append, List.filter_singleton,
    decide_eq_false (Ne.symm h), cond_false, List.append_nil]

theorem keyOf_absorb (news : List (Row κ ν)) (row : Row κ ν) :
    keyOf clause.target (absorb clause news row) = keyOf clause.target row := by
  rw [absorb]
  split
  · rfl
  · exact keyOf_setColumns clause _ _

theorem setColumns_absorb (news : List (Row κ ν)) (row new : Row κ ν) :
    setColumns clause.set (absorb clause news row) new = setColumns clause.set row new := by
  rw [absorb]
  split
  · rfl
  · exact setColumns_setColumns _ _ _ _

theorem insertAll_concat (rows news : List (Row κ ν)) (new : Row κ ν) :
    insertAll clause rows (news ++ [new]) = insertRow clause (insertAll clause rows news) new := by
  rw [insertAll, List.foldl_append]
  rfl

/-- An insertion keeps the keys apart. -/
theorem nodup_insertRow (h : (rows.map (keyOf clause.target)).Nodup) :
    ((insertRow clause rows new).map (keyOf clause.target)).Nodup := by
  rw [insertRow]
  split
  · rw [List.map_map]
    convert h using 2
    funext row
    rw [Function.comp_apply]
    split
    · exact keyOf_setColumns clause _ _
    · rfl
  · next hfree =>
      rw [List.map_append, List.map_singleton]
      exact h.append (List.nodup_singleton _)
        fun key hold hkey => hfree (List.mem_singleton.mp hkey ▸ hold)

theorem nodup_insertAll (h : (rows.map (keyOf clause.target)).Nodup) :
    ((insertAll clause rows news).map (keyOf clause.target)).Nodup := by
  induction news using List.reverseRecOn with
  | nil => exact h
  | append_singleton news new ih =>
    rw [insertAll_concat]
    exact nodup_insertRow ih

theorem mem_keys_insertAll {key : List (Option ν)} :
    key ∈ (insertAll clause rows news).map (keyOf clause.target) ↔
      key ∈ rows.map (keyOf clause.target) ∨ key ∈ news.map (keyOf clause.target) := by
  induction news using List.reverseRecOn with
  | nil => simp [insertAll]
  | append_singleton news new ih =>
    have hstep : key ∈ (insertRow clause (insertAll clause rows news) new).map
        (keyOf clause.target) ↔
        key ∈ (insertAll clause rows news).map (keyOf clause.target) ∨
          key = keyOf clause.target new := by
      rw [insertRow]
      split
      · next hmem =>
          have hkeys : ((insertAll clause rows news).map fun row =>
              if keyOf clause.target row = keyOf clause.target new then
                setColumns clause.set row new
              else row).map (keyOf clause.target) =
              (insertAll clause rows news).map (keyOf clause.target) := by
            rw [List.map_map]
            refine List.map_congr_left fun row _ => ?_
            rw [Function.comp_apply]
            split
            · exact keyOf_setColumns clause _ _
            · rfl
          rw [hkeys, iff_self_or]
          rintro rfl
          exact hmem
      · rw [List.map_append, List.mem_append, List.map_singleton, List.mem_singleton]
    rw [insertAll_concat, hstep, ih, List.map_append, List.mem_append, List.map_singleton,
      List.mem_singleton, or_assoc]

/-- The rows that were there take the set columns of the new ones; the others come behind. -/
theorem insertAll_eq (rows news : List (Row κ ν)) :
    insertAll clause rows news =
      rows.map (absorb clause news) ++
        insertAll clause [] (news.filter fun new =>
          keyOf clause.target new ∉ rows.map (keyOf clause.target)) := by
  induction news using List.reverseRecOn with
  | nil =>
    have hmap : rows.map (absorb clause []) = rows :=
      (List.map_congr_left fun row _ => absorb_of_not_mem (List.not_mem_nil)).trans
        (List.map_id' rows)
    rw [hmap]
    exact (List.append_nil rows).symm
  | append_singleton news new ih =>
    rw [insertAll_concat, ih, List.filter_append, List.filter_singleton]
    have hkeys : (rows.map (absorb clause news)).map (keyOf clause.target) =
        rows.map (keyOf clause.target) := by
      rw [List.map_map]
      exact List.map_congr_left fun row _ => keyOf_absorb news row
    have hfresh : ∀ row ∈ insertAll clause [] (news.filter fun new =>
          keyOf clause.target new ∉ rows.map (keyOf clause.target)),
        keyOf clause.target row ∉ rows.map (keyOf clause.target) := by
      intro row hrow
      have hkey := mem_keys_insertAll.mp (List.mem_map_of_mem (f := keyOf clause.target) hrow)
      rcases hkey with hkey | hkey
      · exact absurd hkey List.not_mem_nil
      · obtain ⟨other, hother, hsame⟩ := List.mem_map.mp hkey
        rw [← hsame]
        exact of_decide_eq_true (List.mem_filter.mp hother).2
    by_cases hmem : keyOf clause.target new ∈ rows.map (keyOf clause.target)
    · -- The new row meets one that was there, and none of the new ones.
      rw [decide_eq_false (by simpa using hmem), cond_false, List.append_nil, insertRow,
        if_pos (by rw [List.map_append, hkeys]; exact List.mem_append_left _ hmem),
        List.map_append, List.map_map]
      congr 1
      · refine List.map_congr_left fun row _ => ?_
        rw [Function.comp_apply, keyOf_absorb]
        split
        · next hkey => rw [absorb_concat_of_eq hkey, setColumns_absorb]
        · next hkey => rw [absorb_concat_of_ne hkey]
      · refine (List.map_congr_left fun row hrow => if_neg ?_).trans (List.map_id' _)
        intro hkey
        exact hfresh row hrow (hkey ▸ hmem)
    · -- The new row meets at most one of the new ones.
      rw [decide_eq_true (by simpa using hmem), cond_true, insertAll_concat]
      have hold : rows.map (absorb clause (news ++ [new])) = rows.map (absorb clause news) := by
        refine List.map_congr_left fun row hrow => absorb_concat_of_ne fun hkey => hmem ?_
        exact List.mem_map.mpr ⟨row, hrow, hkey⟩
      rw [hold]
      generalize insertAll clause [] (news.filter fun new =>
        keyOf clause.target new ∉ rows.map (keyOf clause.target)) = added
      simp only [insertRow, List.map_append, hkeys, List.mem_append, hmem, false_or]
      split
      · congr 1
        refine (List.map_congr_left fun row hrow => if_neg ?_).trans (List.map_id' _)
        obtain ⟨other, hother, rfl⟩ := List.mem_map.mp hrow
        intro hkey
        refine hmem (List.mem_map.mpr ⟨other, hother, ?_⟩)
        rw [← hkey, keyOf_absorb]
      · exact List.append_assoc _ _ _

/-- The same rows once more change nothing. -/
theorem absorb_insertAll (h : row ∈ insertAll clause rows news) : absorb clause news row = row := by
  induction news using List.reverseRecOn generalizing row with
  | nil => exact absorb_of_not_mem (List.not_mem_nil)
  | append_singleton news new ih =>
    rw [insertAll_concat, insertRow] at h
    by_cases hkey : keyOf clause.target row = keyOf clause.target new
    · rw [absorb_concat_of_eq hkey]
      split at h
      · obtain ⟨other, hother, rfl⟩ := List.mem_map.mp h
        split
        · exact setColumns_setColumns _ _ _ _
        · next hne => exact absurd (by rwa [if_neg hne] at hkey) hne
      · next hfree =>
          rcases List.mem_append.mp h with hold | hnew
          · exact absurd (hkey ▸ List.mem_map_of_mem hold) hfree
          · rw [List.mem_singleton.mp hnew]
            exact setColumns_self _ _
    · rw [absorb_concat_of_ne hkey]
      refine ih ?_
      split at h
      · obtain ⟨other, hother, rfl⟩ := List.mem_map.mp h
        split
        · next hsame =>
            rw [if_pos hsame, keyOf_setColumns] at hkey
            exact absurd hsame hkey
        · exact hother
      · rcases List.mem_append.mp h with hold | hnew
        · exact hold
        · exact absurd (congrArg _ (List.mem_singleton.mp hnew)) hkey

theorem insertAll_again (rows news : List (Row κ ν)) :
    insertAll clause (insertAll clause rows news) news = insertAll clause rows news := by
  rw [insertAll_eq (insertAll clause rows news)]
  have hnone : (news.filter fun new => keyOf clause.target new ∉
      (insertAll clause rows news).map (keyOf clause.target)) = [] := by
    refine List.filter_eq_nil_iff.mpr fun new hnew hfree => of_decide_eq_true hfree ?_
    exact mem_keys_insertAll.mpr (Or.inr (List.mem_map_of_mem hnew))
  have hmap : (insertAll clause rows news).map (absorb clause news) =
      insertAll clause rows news :=
    (List.map_congr_left fun row hrow => absorb_insertAll hrow).trans (List.map_id' _)
  rw [hnone, hmap]
  exact List.append_nil _

theorem mem_insertAll_iff (hrow : row ∈ rows) :
    row ∈ insertAll clause rows news ↔ absorb clause news row = row := by
  constructor
  · exact absorb_insertAll
  · intro habsorb
    rw [insertAll_eq, List.mem_append]
    exact Or.inl (List.mem_map.mpr ⟨row, hrow, habsorb⟩)

theorem forall_insertAll {holds : Row κ ν → Prop}
    (hset : ∀ old new, holds old → holds new → holds (setColumns clause.set old new))
    (hrows : ∀ row ∈ rows, holds row) (hnews : ∀ new ∈ news, holds new) :
    ∀ row ∈ insertAll clause rows news, holds row := by
  induction news using List.reverseRecOn with
  | nil => exact hrows
  | append_singleton news new ih =>
    have hold := ih fun other hother => hnews other (List.mem_append_left _ hother)
    have hnew := hnews new (List.mem_append_right _ (List.mem_singleton_self new))
    intro row hrow
    rw [insertAll_concat, insertRow] at hrow
    split at hrow
    · obtain ⟨other, hother, rfl⟩ := List.mem_map.mp hrow
      split
      · exact hset other new (hold other hother) hnew
      · exact hold other hother
    · rcases List.mem_append.mp hrow with hmem | hmem
      · exact hold row hmem
      · rw [List.mem_singleton.mp hmem]
        exact hnew

theorem insertAll_of_nodup (hnodup : (news.map (keyOf clause.target)).Nodup)
    (hfree : ∀ new ∈ news, keyOf clause.target new ∉ rows.map (keyOf clause.target)) :
    insertAll clause rows news = rows ++ news := by
  induction news using List.reverseRecOn with
  | nil => exact (List.append_nil rows).symm
  | append_singleton news new ih =>
    rw [List.map_append, List.map_singleton, List.nodup_append'] at hnodup
    obtain ⟨hnews, -, hdisjoint⟩ := hnodup
    rw [insertAll_concat,
      ih hnews fun other hother => hfree other (List.mem_append_left _ hother), insertRow,
      if_neg, List.append_assoc]
    rw [List.map_append, List.mem_append]
    rintro (hold | hnew)
    · exact hfree new (List.mem_append_right _ (List.mem_singleton_self new)) hold
    · exact hdisjoint hnew (List.mem_singleton_self _)

/-- Only rows whose keys differ are as many as they were. -/
theorem length_insertAll_nil_iff (news : List (Row κ ν)) :
    (insertAll clause [] news).length = news.length ↔ (news.map (keyOf clause.target)).Nodup := by
  constructor
  · intro hlength
    have hnodup : ((insertAll clause [] news).map (keyOf clause.target)).Nodup :=
      nodup_insertAll List.nodup_nil
    have hperm : ((insertAll clause [] news).map (keyOf clause.target)).Perm
        (news.map (keyOf clause.target)) := by
      refine (List.subperm_of_subset hnodup fun key hkey => ?_).perm_of_length_le ?_
      · rcases mem_keys_insertAll.mp hkey with h | h
        · exact absurd h List.not_mem_nil
        · exact h
      · rw [List.length_map, List.length_map, hlength]
    exact hperm.nodup_iff.mp hnodup
  · intro hnodup
    rw [insertAll_of_nodup hnodup fun new _ => List.not_mem_nil]
    exact congrArg List.length (List.nil_append news)

/-- Of some of the rows there are as many as of all only if they are all, with differing keys. -/
theorem length_insertAll_filter_iff (news : List (Row κ ν)) (p : Row κ ν → Prop) [DecidablePred p] :
    (insertAll clause [] (news.filter fun new => p new)).length = news.length ↔
      (news.map (keyOf clause.target)).Nodup ∧ ∀ new ∈ news, p new := by
  have hle : ∀ rows : List (Row κ ν), (insertAll clause [] rows).length ≤ rows.length := by
    intro rows
    have hnodup : ((insertAll clause [] rows).map (keyOf clause.target)).Nodup :=
      nodup_insertAll List.nodup_nil
    have hsub := (List.subperm_of_subset hnodup fun key hkey =>
      (mem_keys_insertAll.mp hkey).resolve_left List.not_mem_nil).length_le
    simpa using hsub
  constructor
  · intro hlength
    have hall : (news.filter fun new => p new) = news := by
      refine List.filter_sublist.eq_of_length_le ?_
      rw [← hlength]
      exact hle _
    rw [hall] at hlength
    exact ⟨(length_insertAll_nil_iff news).mp hlength, fun new hnew =>
      of_decide_eq_true (List.filter_eq_self.mp hall new hnew)⟩
  · rintro ⟨hnodup, hall⟩
    rw [List.filter_eq_self.mpr fun new hnew => decide_eq_true (hall new hnew)]
    exact (length_insertAll_nil_iff news).mpr hnodup

end Insertions

end Aiphabee.Sql
