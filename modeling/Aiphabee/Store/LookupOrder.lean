import Mathlib.Data.List.Perm.Basic

/-!
# Lookups in rows of no fixed order

What is found first, or last under a key, can depend on the order of the rows.  Over all
orders, the first row that has a property can be any row that has it
(`exists_perm_find?`), and the last rows under the keys can be any choice of one row for
each key (`exists_perm_last`).  Any order of what is made of the rows comes from an order
of the rows (`exists_perm_filterMap`).
-/

namespace Aiphabee.LookupOrder

universe u v

section First

variable {Row : Type u}

theorem exists_perm_find? [DecidableEq Row] {rows : List Row} {row : Row} {p : Row → Bool}
    (hrow : row ∈ rows) (hp : p row = true) :
    ∃ others : List Row, others.Perm rows ∧ others.find? p = some row :=
  ⟨row :: rows.erase row, (List.perm_cons_erase hrow).symm, List.find?_cons_of_pos hp⟩

theorem find?_perm {rows others : List Row} {row : Row} {p : Row → Bool} (hperm : others.Perm rows)
    (hfound : others.find? p = some row) : row ∈ rows ∧ p row = true :=
  ⟨hperm.mem_iff.mp (List.mem_of_find?_eq_some hfound), List.find?_some hfound⟩

end First

section Last

variable {Row : Type u} {Key : Type v} [DecidableEq Key]

def last (key : Row → Key) (rows : List Row) (name : Key) : Option Row :=
  rows.reverse.find? fun row => key row = name

structure Picks (key : Row → Key) (rows : List Row) (pick : Key → Option Row) : Prop where
  isRow : ∀ name row, pick name = some row → row ∈ rows ∧ key row = name
  complete : ∀ row ∈ rows, (pick (key row)).isSome = true

theorem picks_last (key : Row → Key) {rows others : List Row} (hperm : others.Perm rows) :
    Picks key rows (last key others) where
  isRow name row hrow := by
    have hmem := List.mem_of_find?_eq_some hrow
    exact ⟨hperm.mem_iff.mp (List.mem_reverse.mp hmem), by simpa using List.find?_some hrow⟩
  complete row hrow := by
    refine List.find?_isSome.mpr ⟨row, ?_, decide_eq_true rfl⟩
    exact List.mem_reverse.mpr (hperm.mem_iff.mpr hrow)

variable [DecidableEq Row]

theorem exists_perm_last {key : Row → Key} {rows : List Row} {pick : Key → Option Row}
    (h : Picks key rows pick) : ∃ others, others.Perm rows ∧ last key others = pick := by
  let picked : Row → Bool := fun row => pick (key row) = some row
  refine ⟨rows.filter (fun row => !picked row) ++ rows.filter picked, ?_, funext fun name => ?_⟩
  · -- The rows that are picked go to the end.
    exact List.perm_append_comm.trans (List.filter_append_perm picked rows)
  rw [last, List.reverse_append, List.find?_append]
  cases hpick : pick name with
  | none =>
    have hnone : ∀ row ∈ rows, key row ≠ name := by
      rintro row hrow rfl
      have hcomplete := h.complete row hrow
      rw [hpick] at hcomplete
      cases hcomplete
    rw [Option.or_eq_none_iff, List.find?_eq_none, List.find?_eq_none]
    constructor
    · intro row hrow
      simpa using hnone row (List.mem_of_mem_filter (List.mem_reverse.mp hrow))
    · intro row hrow
      simpa using hnone row (List.mem_of_mem_filter (List.mem_reverse.mp hrow))
  | some row =>
    obtain ⟨hrow, rfl⟩ := h.isRow name row hpick
    have hmem : row ∈ (rows.filter picked).reverse :=
      List.mem_reverse.mpr (List.mem_filter.mpr ⟨hrow, decide_eq_true hpick⟩)
    obtain ⟨found, hfound⟩ : ∃ found, (rows.filter picked).reverse.find?
        (fun other => key other = key row) = some found :=
      Option.isSome_iff_exists.mp (List.find?_isSome.mpr ⟨row, hmem, decide_eq_true rfl⟩)
    have hkey : key found = key row := by simpa using List.find?_some hfound
    have hpicked := (List.mem_filter.mp
      (List.mem_reverse.mp (List.mem_of_find?_eq_some hfound))).2
    have hsame : pick (key found) = some found := of_decide_eq_true hpicked
    rw [hkey, hpick] at hsame
    rw [hfound, ← hsame]
    rfl

end Last

section Derived

variable {Row : Type u} {Value : Type v}

theorem exists_perm_filterMap {rows : List Row} {value : Row → Option Value} {values : List Value}
    (h : values.Perm (rows.filterMap value)) :
    ∃ others : List Row, others.Perm rows ∧ others.filterMap value = values := by
  induction values generalizing rows with
  | nil => exact ⟨rows, .rfl, List.nil_perm.mp h⟩
  | cons first values ih =>
    obtain ⟨row, hrow, hvalue⟩ := List.mem_filterMap.mp (h.subset List.mem_cons_self)
    obtain ⟨front, back, rfl⟩ := List.append_of_mem hrow
    have hrest : values.Perm ((front ++ back).filterMap value) := by
      rw [List.filterMap_append, List.filterMap_cons_some hvalue] at h
      rw [List.filterMap_append]
      exact (h.trans List.perm_middle).cons_inv
    obtain ⟨others, hperm, hothers⟩ := ih hrest
    refine ⟨row :: others, (hperm.cons row).trans List.perm_middle.symm, ?_⟩
    rw [List.filterMap_cons_some hvalue, hothers]

theorem exists_perm_filter {rows passed : List Row} {p : Row → Bool}
    (h : passed.Perm (rows.filter p)) :
    ∃ others : List Row, others.Perm rows ∧ others.filter p = passed := by
  rw [← List.filterMap_eq_filter] at h
  obtain ⟨others, hperm, hothers⟩ := exists_perm_filterMap h
  exact ⟨others, hperm, by rw [← List.filterMap_eq_filter, hothers]⟩

end Derived

end Aiphabee.LookupOrder
