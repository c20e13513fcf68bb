import Mathlib.Data.Fintype.Pi
import Aiphabee.Sql.Truth

/-!
# Keys, insertions and conflicts

A key is unique among the rows that have no null in it; a primary key has no
null.  An insertion that a key forbids fails as a whole.  `ON CONFLICT` goes
from row to row: a row that has the key of a row of the table takes its place,
or is left out, and no row may be written twice.
-/

namespace Aiphabee.Sql

universe u v

variable {κ : Type u} {ν : Type v}

/-- A row: the value of each column, or null. -/
abbrev Row (κ : Type u) (ν : Type v) := κ → Option ν

instance lawfulBEqKey [DecidableEq ν] : LawfulBEq (List (Option ν)) := inferInstance

section Keys

inductive Key (κ : Type u)
  | none
  | primary (columns : List κ)
  | unique (columns : List κ)

def Key.columns : Key κ → List κ
  | .none => []
  | .primary columns => columns
  | .unique columns => columns

def Key.isNone : Key κ → Bool
  | .none => true
  | _ => false

def Key.isPrimary : Key κ → Bool
  | .primary _ => true
  | _ => false

def keyOf (columns : List κ) (row : Row κ ν) : List (Option ν) :=
  columns.map row

def FullKey (columns : List κ) (row : Row κ ν) : Prop :=
  Option.none ∉ keyOf columns row

variable [DecidableEq ν]

instance (columns : List κ) (row : Row κ ν) :
    Decidable (FullKey columns row) :=
  inferInstanceAs (Decidable (_ ∉ _))

/-- The rows without a null in the key have different keys. -/
def Unique (columns : List κ) (rows : Multiset (Row κ ν)) : Prop :=
  ((rows.filter fun row => FullKey columns row).map (keyOf columns)).Nodup

instance (columns : List κ) (rows : Multiset (Row κ ν)) :
    Decidable (Unique columns rows) :=
  inferInstanceAs (Decidable (Multiset.Nodup _))

def Key.Holds (rows : Multiset (Row κ ν)) : Key κ → Prop
  | .none => True
  | .primary columns => (∀ row ∈ rows, FullKey columns row) ∧ Unique columns rows
  | .unique columns => Unique columns rows

instance (key : Key κ) (rows : Multiset (Row κ ν)) :
    Decidable (key.Holds rows) :=
  match key with
  | .none => .isTrue trivial
  | .primary _ => inferInstanceAs (Decidable (_ ∧ _))
  | .unique _ => inferInstanceAs (Decidable (Unique _ _))

/-- `INSERT`: all rows, or none where the key forbids it. -/
def insertRows (key : Key κ) (rows staged : Multiset (Row κ ν)) : Option (Multiset (Row κ ν)) :=
  if key.Holds (rows + staged) then some (rows + staged) else Option.none

theorem insertRows_eq_some {key : Key κ} {rows staged after : Multiset (Row κ ν)} :
    insertRows key rows staged = some after ↔
      key.Holds (rows + staged) ∧ after = rows + staged := by
  rw [insertRows]
  split
  next h => simp [h, eq_comm]
  next h => simp [h]

theorem unique_cons {columns : List κ} {row : Row κ ν} {rows : Multiset (Row κ ν)} :
    Unique columns (row ::ₘ rows) ↔
      (FullKey columns row → ∀ other ∈ rows, keyOf columns other ≠ keyOf columns row) ∧
        Unique columns rows := by
  by_cases hfull : FullKey columns row
  · rw [Unique, Multiset.filter_cons_of_pos _ hfull, Multiset.map_cons, Multiset.nodup_cons]
    refine and_congr ?_ Iff.rfl
    rw [Multiset.mem_map]
    constructor
    · intro h _ other hother hkey
      refine h ⟨other, Multiset.mem_filter.mpr ⟨hother, ?_⟩, hkey⟩
      rw [FullKey, hkey]
      exact hfull
    · rintro h ⟨other, hother, hkey⟩
      exact h hfull other (Multiset.mem_filter.mp hother).1 hkey
  · rw [Unique, Multiset.filter_cons_of_neg _ hfull]
    simp [hfull, Unique]

end Keys

section Conflicts

variable [DecidableEq κ]

/-- What `ON CONFLICT` does with a row that has the key of a row of the table. -/
inductive ConflictAction
  | doNothing
  | doUpdate

/-- `DO UPDATE SET` of the columns outside the key. -/
def overwrite (columns : List κ) (old new : Row κ ν) : Row κ ν :=
  fun column => if column ∈ columns then old column else new column

theorem overwrite_eq {columns : List κ} {old new : Row κ ν}
    (h : keyOf columns old = keyOf columns new) : overwrite columns old new = new := by
  funext column
  rw [overwrite]
  split
  next hmem => exact List.map_inj_left.mp h column hmem
  next => rfl

variable [DecidableEq ν]

/-- The table in the course of an `INSERT … ON CONFLICT`, and the keys that it has written. -/
structure Upserting (κ : Type u) (ν : Type v) where
  rows : Multiset (Row κ ν)
  written : List (List (Option ν))

def Conflicts (columns : List κ) (rows : Multiset (Row κ ν)) (row : Row κ ν) : Prop :=
  FullKey columns row ∧ ∃ old ∈ rows, keyOf columns old = keyOf columns row

instance (columns : List κ) (rows : Multiset (Row κ ν)) (row : Row κ ν) :
    Decidable (Conflicts columns rows row) :=
  @instDecidableAnd _ _ inferInstance Multiset.decidableExistsMultiset

/-- One row of an `INSERT … ON CONFLICT`. -/
def upsertRow (key : Key κ) (action : ConflictAction) (state : Upserting κ ν) (row : Row κ ν) :
    Option (Upserting κ ν) :=
  let written := keyOf key.columns row
  if key.isPrimary ∧ ¬FullKey key.columns row then
    Option.none
  else if Conflicts key.columns state.rows row then
    match action with
    | .doNothing => some state
    | .doUpdate =>
      if written ∈ state.written then
        Option.none
      else
        some {
          rows := state.rows.map fun old =>
            if keyOf key.columns old = written then overwrite key.columns old row else old
          written := written :: state.written }
  else
    some { rows := row ::ₘ state.rows, written := written :: state.written }

/-- `INSERT … ON CONFLICT`, in the order in which the rows are read. -/
def upsertRows (key : Key κ) (action : ConflictAction) (rows : Multiset (Row κ ν))
    (staged : List (Row κ ν)) : Option (Multiset (Row κ ν)) :=
  (staged.foldlM (upsertRow key action) { rows, written := [] }).map Upserting.rows

theorem map_overwrite {columns : List κ} {rows : Multiset (Row κ ν)} {row : Row κ ν}
    (hunique : Unique columns rows) (hconflict : Conflicts columns rows row) :
    (rows.map fun old =>
        if keyOf columns old = keyOf columns row then overwrite columns old row else old) =
      row ::ₘ rows.filter fun old => keyOf columns old ≠ keyOf columns row := by
  obtain ⟨hfull, old, hmem, hkey⟩ := hconflict
  obtain ⟨rest, rfl⟩ := Multiset.exists_cons_of_mem hmem
  have hold : FullKey columns old := by
    rw [FullKey, hkey]
    exact hfull
  have hrest : ∀ other ∈ rest, keyOf columns other ≠ keyOf columns row := by
    intro other hother
    rw [← hkey]
    exact (unique_cons.mp hunique).1 hold other hother
  rw [Multiset.map_cons, if_pos hkey, overwrite_eq hkey,
    Multiset.filter_cons_of_neg rest (by simpa using hkey), Multiset.filter_eq_self.mpr hrest]
  congr 1
  exact (Multiset.map_congr rfl fun other hother => if_neg (hrest other hother)).trans
    (Multiset.map_id' rest)

end Conflicts

end Aiphabee.Sql
