import Mathlib.Algebra.Order.Sub.Basic
import Mathlib.Data.Multiset.OrderedMonoid

/-!
# Truth values of SQL, and tables as multisets

A condition is true, false or unknown; an unknown one comes of a null.  A query
keeps the rows of which its condition is true, and a deletion takes the same
rows away, so that neither does anything to a row of which it is unknown.

A row gives each column a value or null.
-/

namespace Aiphabee.Sql

universe u v

section Truth

/-- A truth value; `none` is the unknown one. -/
abbrev Truth := Option Bool

/-- `NOT`. -/
def Truth.not : Truth → Truth :=
  Option.map Bool.not

/-- `AND`: false where one side is. -/
def Truth.and : Truth → Truth → Truth
  | some false, _ => some false
  | _, some false => some false
  | some true, some true => some true
  | _, _ => none

/-- `OR`: true where one side is. -/
def Truth.or : Truth → Truth → Truth
  | some true, _ => some true
  | _, some true => some true
  | some false, some false => some false
  | _, _ => none

@[simp] theorem Truth.not_eq_true (a : Truth) : a.not = some true ↔ a = some false := by
  rcases a with _ | _ | _ <;> decide

@[simp] theorem Truth.and_eq_true (a b : Truth) :
    a.and b = some true ↔ a = some true ∧ b = some true := by
  rcases a with _ | _ | _ <;> rcases b with _ | _ | _ <;> decide

@[simp] theorem Truth.or_eq_true (a b : Truth) :
    a.or b = some true ↔ a = some true ∨ b = some true := by
  rcases a with _ | _ | _ <;> rcases b with _ | _ | _ <;> decide

variable {ν : Type v}

/-- `IS NULL`. -/
def isNull (value : Option ν) : Truth :=
  some value.isNone

/-- `=`. -/
def equals [DecidableEq ν] : Option ν → Option ν → Truth
  | some a, some b => some (a = b)
  | _, _ => none

/-- `IS NOT DISTINCT FROM`. -/
def isNotDistinct [DecidableEq ν] (a b : Option ν) : Truth :=
  some (a = b)

/-- `BETWEEN low AND high`. -/
def between [LE ν] [DecidableLE ν] (low high : ν) (value : Option ν) : Truth :=
  value.map fun v => low ≤ v ∧ v ≤ high

@[simp] theorem isNull_eq_true (value : Option ν) : isNull value = some true ↔ value = none := by
  cases value <;> simp [isNull]

theorem equals_eq_true [DecidableEq ν] (a b : Option ν) :
    equals a b = some true ↔ a = b ∧ a ≠ none := by
  cases a <;> cases b <;> simp [equals]

@[simp] theorem isNotDistinct_eq_true [DecidableEq ν] (a b : Option ν) :
    isNotDistinct a b = some true ↔ a = b := by
  simp [isNotDistinct]

theorem between_eq_true [LE ν] [DecidableLE ν] (low high : ν) (value : Option ν) :
    between low high value = some true ↔ ∃ v, value = some v ∧ low ≤ v ∧ v ≤ high := by
  cases value <;> simp [between]

/-- `IS NULL OR NOT BETWEEN` says of every value that it is not between. -/
theorem outside_eq_true [LE ν] [DecidableLE ν] (low high : ν) (value : Option ν) :
    (isNull value).or (between low high value).not = some true ↔
      between low high value ≠ some true := by
  cases value with
  | none => simp [between]
  | some v =>
    by_cases h : low ≤ v ∧ v ≤ high
    · simp [between, h]
    · simp only [between, Option.map_some, h, decide_false]
      exact iff_of_true rfl (by simp)

/-- The conjunction of the comparisons of two rows, column by column. -/
def rowEquals [DecidableEq ν] : List (Option ν) → List (Option ν) → Truth
  | a :: first, b :: second => (equals a b).and (rowEquals first second)
  | _, _ => some true

theorem rowEquals_eq_true [DecidableEq ν] {first second : List (Option ν)}
    (hlength : first.length = second.length) :
    rowEquals first second = some true ↔ first = second ∧ none ∉ first := by
  induction first generalizing second with
  | nil =>
    cases second with
    | nil => simp [rowEquals]
    | cons b second => simp at hlength
  | cons a first ih =>
    cases second with
    | nil => simp at hlength
    | cons b second =>
      have hrest := @ih second (by simpa using hlength)
      simp only [rowEquals, Truth.and_eq_true, equals_eq_true, hrest, List.cons.injEq,
        List.mem_cons, not_or]
      constructor
      · rintro ⟨⟨hab, ha⟩, heq, hnone⟩
        exact ⟨⟨hab, heq⟩, fun h => ha h.symm, hnone⟩
      · rintro ⟨⟨hab, heq⟩, ha, hnone⟩
        exact ⟨⟨hab, fun h => ha h.symm⟩, heq, hnone⟩

end Truth

section Tables

variable {ρ : Type u}

/-- `SELECT … WHERE`. -/
def select (condition : ρ → Truth) (rows : Multiset ρ) : Multiset ρ :=
  rows.filter fun row => condition row = some true

/-- `DELETE … WHERE`. -/
def delete (condition : ρ → Truth) (rows : Multiset ρ) : Multiset ρ :=
  rows.filter fun row => condition row ≠ some true

/-- `EXISTS (SELECT 1 … WHERE …)`. -/
def existsRow (rows : Multiset ρ) (condition : ρ → Truth) : Truth :=
  some (0 < (select condition rows).card)

/-- `EXCEPT ALL`. -/
def exceptAll [DecidableEq ρ] (first second : Multiset ρ) : Multiset ρ :=
  first - second

theorem existsRow_eq_true (rows : Multiset ρ) (condition : ρ → Truth) :
    existsRow rows condition = some true ↔ ∃ row ∈ rows, condition row = some true := by
  rw [existsRow, Option.some.injEq, decide_eq_true_eq, Multiset.card_pos_iff_exists_mem]
  simp [select]

/-- Nothing is left when the second table has every row as often. -/
theorem card_exceptAll_eq_zero [DecidableEq ρ] (first second : Multiset ρ) :
    (exceptAll first second).card = 0 ↔ first ≤ second := by
  rw [exceptAll, Multiset.card_eq_zero]
  exact tsub_eq_zero_iff_le

/-- Two tables hold the same rows when neither has one more than the other. -/
theorem exceptAll_both [DecidableEq ρ] (first second : Multiset ρ) :
    (exceptAll first second).card = 0 ∧ (exceptAll second first).card = 0 ↔ first = second := by
  rw [card_exceptAll_eq_zero, card_exceptAll_eq_zero]
  exact le_antisymm_iff.symm

variable {ν : Type v} [DecidableEq ν]

/-- `(…) IN (SELECT …)`: unknown where no row is equal and one might be. -/
def inRows (values : List (Option ν)) (rows : Multiset (List (Option ν))) : Truth :=
  if 0 < (rows.filter fun row => rowEquals values row = some true).card then
    some true
  else if 0 < (rows.filter fun row => rowEquals values row = none).card then
    none
  else
    some false

theorem inRows_eq_true (values : List (Option ν)) (rows : Multiset (List (Option ν))) :
    inRows values rows = some true ↔ ∃ row ∈ rows, rowEquals values row = some true := by
  have hsome : 0 < (rows.filter fun row => rowEquals values row = some true).card ↔
      ∃ row ∈ rows, rowEquals values row = some true := by
    rw [Multiset.card_pos_iff_exists_mem]
    simp
  rw [inRows, ← hsome]
  split
  next h => simp [h]
  next h =>
    split <;> simp [h]

end Tables

end Aiphabee.Sql
