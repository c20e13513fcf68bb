import Mathlib.Data.List.Nodup

/-!
# Tables with a unique key

A table is a list of rows, and a key of the table is a function on its rows.
`lookup` is the first row with a given key, `insertIfAbsent` adds a row unless
its key is taken, `put` replaces the rows that have the key of a given row, and
`modify` changes the rows that meet a condition.  When all keys are distinct
these are the operations of a table with a unique index.
-/

namespace Aiphabee.KeyedTable

universe u v

variable {ρ : Type u}
variable {κ : Type v} [DecidableEq κ]
variable (key : ρ → κ)
variable (rows : List ρ)

/-- The first row with the key `k`. -/
def lookup (k : κ) : Option ρ :=
  rows.find? fun row => key row = k

/-- Add a row at the end unless its key is taken. -/
def insertIfAbsent (row : ρ) : List ρ :=
  if (lookup key rows (key row)).isSome then rows else rows ++ [row]

/-- Replace the rows that have the key of `row`. -/
def put (row : ρ) : List ρ :=
  rows.map fun other => if key other = key row then row else other

def modify (condition : ρ → Prop) [DecidablePred condition] (change : ρ → ρ) : List ρ :=
  rows.map fun row => if condition row then change row else row

def Distinct : Prop :=
  (rows.map key).Nodup

variable {key : ρ → κ}
variable {rows : List ρ}
variable {row : ρ}
variable {k : κ}

theorem lookup_key (h : lookup key rows k = some row) : key row = k := by
  simpa using List.find?_some h

theorem lookup_mem (h : lookup key rows k = some row) : row ∈ rows :=
  List.mem_of_find?_eq_some h

theorem lookup_eq_none :
    lookup key rows k = none ↔ ∀ row ∈ rows, key row ≠ k := by
  simp [lookup]

theorem lookup_of_mem (hdistinct : Distinct key rows) (hrow : row ∈ rows) :
    lookup key rows (key row) = some row := by
  induction rows with
  | nil => cases hrow
  | cons head rest ih =>
    simp only [Distinct, List.map_cons, List.nodup_cons] at hdistinct
    rcases List.mem_cons.mp hrow with rfl | hrest
    · simp [lookup]
    · have hne : key head ≠ key row := by
        intro heq
        exact hdistinct.1 (heq ▸ List.mem_map_of_mem hrest)
      have := ih hdistinct.2 hrest
      simpa [lookup, hne] using this

theorem lookup_append_self (h : lookup key rows (key row) = none) :
    lookup key (rows ++ [row]) (key row) = some row := by
  have hrows : rows.find? (fun other => key other = key row) = none := h
  simp [lookup, List.find?_append, hrows]

/-- A row added at the end leaves the other keys alone. -/
theorem lookup_append_of_ne (hne : key row ≠ k) :
    lookup key (rows ++ [row]) k = lookup key rows k := by
  simp [lookup, List.find?_append, hne]

theorem lookup_insertIfAbsent_self :
    lookup key (insertIfAbsent key rows row) (key row) =
      some ((lookup key rows (key row)).getD row) := by
  cases h : lookup key rows (key row) with
  | none => simp [insertIfAbsent, h, lookup_append_self h]
  | some found => simp [insertIfAbsent, h]

/-- An insert leaves the other keys alone. -/
theorem lookup_insertIfAbsent_of_ne (hne : key row ≠ k) :
    lookup key (insertIfAbsent key rows row) k = lookup key rows k := by
  simp only [insertIfAbsent]
  split
  · rfl
  · exact lookup_append_of_ne hne

theorem lookup_insertIfAbsent_of_some {found : ρ} (h : lookup key rows k = some found) :
    lookup key (insertIfAbsent key rows row) k = some found := by
  by_cases hk : key row = k
  · subst hk
    rw [lookup_insertIfAbsent_self, h]
    rfl
  · rw [lookup_insertIfAbsent_of_ne hk, h]

theorem Distinct.insertIfAbsent (h : Distinct key rows) :
    Distinct key (insertIfAbsent key rows row) := by
  simp only [KeyedTable.insertIfAbsent]
  split
  · exact h
  · next hsome =>
      have hnone : lookup key rows (key row) = none := by simpa using hsome
      have hfree := lookup_eq_none.mp hnone
      simp only [Distinct, List.map_append, List.map_cons, List.map_nil]
      refine List.nodup_append.mpr ⟨h, by simp, ?_⟩
      intro k hk k' hk' heq
      obtain ⟨other, hother, rfl⟩ := List.mem_map.mp hk
      exact hfree other hother (heq.trans (by simpa using hk'))

theorem lookup_put_self {found : ρ} (h : lookup key rows (key row) = some found) :
    lookup key (put key rows row) (key row) = some row := by
  induction rows with
  | nil => simp [lookup] at h
  | cons head rest ih =>
    by_cases hhead : key head = key row
    · simp [lookup, put, hhead]
    · have hrest : lookup key rest (key row) = some found := by
        simpa [lookup, hhead] using h
      simpa [lookup, put, hhead] using ih hrest

/-- Putting a row leaves the other keys alone. -/
theorem lookup_put_of_ne (hne : key row ≠ k) :
    lookup key (put key rows row) k = lookup key rows k := by
  induction rows with
  | nil => rfl
  | cons head rest ih =>
    by_cases hhead : key head = key row
    · simpa [lookup, put, hhead, hne] using ih
    · by_cases hk : key head = k
      · subst hk
        simp [lookup, put, hhead]
      · simpa [lookup, put, hhead, hk] using ih

theorem mem_put {other : ρ} (h : other ∈ put key rows row) :
    (other ∈ rows ∧ key other ≠ key row) ∨ other = row := by
  obtain ⟨old, hold, rfl⟩ := List.mem_map.mp h
  by_cases hk : key old = key row
  · exact Or.inr (by simp [hk])
  · exact Or.inl (by simp [hk, hold])

theorem map_key_put :
    (put key rows row).map key = rows.map key := by
  simp only [put, List.map_map]
  refine List.map_congr_left ?_
  intro other _
  by_cases hk : key other = key row <;> simp [hk]

theorem Distinct.put (h : Distinct key rows) : Distinct key (put key rows row) := by
  simpa only [Distinct, map_key_put] using h

section Modify

variable {condition : ρ → Prop} [DecidablePred condition]
variable {change : ρ → ρ}

theorem lookup_modify (hkey : ∀ row, key (change row) = key row) :
    lookup key (modify rows condition change) k =
      (lookup key rows k).map fun row => if condition row then change row else row := by
  have hsame : ∀ row, key (if condition row then change row else row) = key row := by
    intro row
    split
    · exact hkey row
    · rfl
  rw [lookup, modify, List.find?_map]
  simp only [lookup, Function.comp_def, hsame]

theorem mem_modify (h : row ∈ modify rows condition change) :
    ∃ old ∈ rows, row = old ∨ row = change old := by
  obtain ⟨old, hold, rfl⟩ := List.mem_map.mp h
  refine ⟨old, hold, ?_⟩
  split
  · exact Or.inr rfl
  · exact Or.inl rfl

end Modify

end Aiphabee.KeyedTable
