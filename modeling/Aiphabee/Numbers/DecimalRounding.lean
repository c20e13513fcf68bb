import Mathlib.Algebra.Order.Floor.Ring

/-!
# Rounding to decimals

A value is rounded to a whole number of parts of one, halves upwards.  Whole numbers
stay, and nothing below zero comes of a value from zero on.  What is below half a part
becomes zero, and nothing else does.
-/

namespace Aiphabee.DecimalRounding

scoped instance atLeastTwo_two : Nat.AtLeastTwo 2 := inferInstance

scoped instance atLeastTwo_hundred : Nat.AtLeastTwo 100 := inferInstance

universe u

variable {K : Type u} [Field K] [LinearOrder K] [IsStrictOrderedRing K] [FloorRing K]

/-- `Math.round(value * scale) / scale`. -/
def roundTo (scale : ℕ) (value : K) : K :=
  (⌊value * (scale : K) + 1 / 2⌋ : K) / (scale : K)

variable {scale : ℕ}

theorem roundTo_intCast (hscale : 0 < scale) (n : ℤ) : roundTo scale (n : K) = n := by
  have hpos : (0 : K) < scale := Nat.cast_pos.mpr hscale
  have hfloor : ⌊(n : K) * scale + 1 / 2⌋ = n * scale := by
    rw [Int.floor_eq_iff]
    push_cast
    constructor <;> linarith
  rw [roundTo, hfloor]
  push_cast
  exact mul_div_cancel_right₀ _ hpos.ne'

@[simp] theorem roundTo_one (hscale : 0 < scale) : roundTo scale (1 : K) = 1 := by
  simpa using roundTo_intCast (K := K) hscale 1

theorem roundTo_nonneg (scale : ℕ) {value : K} (h : 0 ≤ value) : 0 ≤ roundTo scale value := by
  have hscale : (0 : K) ≤ scale := Nat.cast_nonneg scale
  have hfloor : (0 : ℤ) ≤ ⌊value * scale + 1 / 2⌋ :=
    Int.floor_nonneg.mpr (by linarith [mul_nonneg h hscale])
  exact div_nonneg (Int.cast_nonneg hfloor) hscale

/-- What is left above zero is what reaches half a part. -/
theorem roundTo_pos_iff (hscale : 0 < scale) {value : K} :
    0 < roundTo scale value ↔ 1 / (2 * scale) ≤ value := by
  have hpos : (0 : K) < scale := Nat.cast_pos.mpr hscale
  rw [roundTo, div_pos_iff_of_pos_right hpos, Int.cast_pos, ← Int.add_one_le_iff, zero_add,
    Int.le_floor, Int.cast_one, div_le_iff₀ (by linarith : (0 : K) < 2 * scale)]
  constructor <;> intro h <;> linarith

end Aiphabee.DecimalRounding
