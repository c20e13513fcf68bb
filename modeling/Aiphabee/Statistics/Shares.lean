import Mathlib.Data.List.Sort
import Mathlib.Tactic.Positivity

/-!
# Shares of a total

The share of a value is the value over the total of all values.  The shares sum to one,
the largest of them is at most the sum of the first few in descending order, and that is
at most one.  Neither depends on the order in which the values come.
-/

namespace Aiphabee.Shares

universe u

variable {K : Type u}

section Quotients

variable [Semifield K]

theorem sum_map_div (values : List K) (divisor : K) :
    (values.map (· / divisor)).sum = values.sum / divisor := by
  induction values with
  | nil => simp
  | cons value values ih => simp [ih, add_div]

theorem sum_shares {values : List K} (h : values.sum ≠ 0) :
    (values.map (· / values.sum)).sum = 1 := by
  rw [sum_map_div, div_self h]

end Quotients

section Descending

variable [AddCommMonoid K] [LinearOrder K] [IsOrderedAddMonoid K]

def descending (values : List K) : List K :=
  values.insertionSort (· ≥ ·)

omit [IsOrderedAddMonoid K] in
theorem sum_descending (values : List K) : (descending values).sum = values.sum :=
  (List.perm_insertionSort _ values).sum_eq

omit [AddCommMonoid K] [IsOrderedAddMonoid K] in
theorem descending_eq_of_perm {values others : List K} (h : values.Perm others) :
    descending values = descending others := by
  have hperm := (List.perm_insertionSort (· ≥ ·) values).trans
    (h.trans (List.perm_insertionSort (· ≥ ·) others).symm)
  exact hperm.eq_of_pairwise (fun a b _ _ hab hba => le_antisymm hba hab)
    (List.pairwise_insertionSort _ values) (List.pairwise_insertionSort _ others)

theorem sum_take_le {values : List K} (h : ∀ value ∈ values, 0 ≤ value) (count : Nat) :
    (values.take count).sum ≤ values.sum := by
  calc
    (values.take count).sum ≤ (values.take count).sum + (values.drop count).sum :=
      le_add_of_nonneg_right (List.sum_nonneg fun value hvalue =>
      h value (List.mem_of_mem_drop hvalue))
    _ = values.sum := by rw [← List.sum_append, List.take_append_drop]

theorem head_le_sum_take {values : List K} (h : ∀ value ∈ values, 0 ≤ value) (count : Nat) :
    values.head?.getD 0 ≤ (values.take (count + 1)).sum := by
  cases values with
  | nil => simp
  | cons value values =>
    rw [List.head?_cons, Option.getD_some, List.take_succ_cons, List.sum_cons]
    refine le_add_of_nonneg_right (List.sum_nonneg fun other hother => ?_)
    exact h other (List.mem_cons_of_mem _ (List.mem_of_mem_take hother))

end Descending

end Aiphabee.Shares
