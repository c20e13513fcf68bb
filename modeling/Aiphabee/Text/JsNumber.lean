import Mathlib.Data.Rat.Floor

/-!
# Numbers of the source language

A number is a double.  The programs count with whole numbers that are not
negative: these add exactly up to `2 ^ 53`, and beyond it a sum is rounded to
the nearest double, ties to the even one.
-/

namespace Aiphabee

inductive JsNumber
  | nan
  | infinity (negative : Bool)
  | finite (value : ℚ)
deriving DecidableEq

namespace JsNumber

/-- `Math.floor` of a finite number above zero, and zero for any other value. -/
def floorOfPositive : Option JsNumber → Nat
  | some (.finite value) => if 0 < value then ⌊value⌋.toNat else 0
  | _ => 0

/-- The comparison `a <= b`; it is false when either side is not a number. -/
def le : JsNumber → JsNumber → Bool
  | .nan, _ => false
  | _, .nan => false
  | .infinity true, _ => true
  | _, .infinity false => true
  | .infinity false, _ => false
  | _, .infinity true => false
  | .finite a, .finite b => a ≤ b

/-- `Math.min` of two numbers; it is not a number when either of them is not. -/
def min : JsNumber → JsNumber → JsNumber
  | .nan, _ => .nan
  | _, .nan => .nan
  | a, b => if le a b then a else b

def zero : JsNumber := .finite 0

def toRat : JsNumber → ℚ
  | .finite value => value
  | _ => 0

def ofNat (n : Nat) : JsNumber := .finite n

/-- The comparison `a < b`; it is false when either side is not a number. -/
def lt (a b : JsNumber) : Bool :=
  le a b && !le b a

/-- `Number.isSafeInteger`. -/
def isSafeInteger : JsNumber → Bool
  | .finite value =>
    value.den = 1 && -(2 ^ 53 - 1) ≤ value.num && value.num ≤ 2 ^ 53 - 1
  | _ => false

theorem ofNat_le_of_not_lt {bound : JsNumber} {n : Nat} (hsafe : isSafeInteger bound = true)
    (h : lt bound (ofNat n) = false) : le (ofNat n) bound = true := by
  cases bound with
  | nan => cases hsafe
  | infinity negative => cases hsafe
  | finite value =>
    simp only [lt, le, ofNat, Bool.and_eq_false_iff, Bool.not_eq_false', decide_eq_true_eq,
      decide_eq_false_iff_not] at h ⊢
    rcases h with h | h
    · exact (lt_of_not_ge h).le
    · exact h

/-- A smaller count is within a bound that a larger one is within. -/
theorem ofNat_le_mono {bound : JsNumber} {m n : Nat} (h : le (ofNat n) bound = true) (hmn : m ≤ n) :
    le (ofNat m) bound = true := by
  cases bound with
  | nan => cases h
  | infinity negative =>
    cases negative with
    | false => rfl
    | true => cases h
  | finite value =>
    simp only [le, ofNat, decide_eq_true_eq] at h ⊢
    exact le_trans (Nat.cast_le.mpr hmn) h

variable {a b : JsNumber}

/-- Of two numbers, one that is not at most the other is above it. -/
theorem lt_of_not_le (ha : a ≠ .nan) (hb : b ≠ .nan) (h : le a b = false) : lt b a = true := by
  cases a with
  | nan => exact absurd rfl ha
  | infinity negative =>
    cases b with
    | nan => exact absurd rfl hb
    | infinity negative' => cases negative <;> cases negative' <;> first | rfl | cases h
    | finite value => cases negative <;> first | rfl | cases h
  | finite value =>
    cases b with
    | nan => exact absurd rfl hb
    | infinity negative => cases negative <;> first | rfl | cases h
    | finite value' =>
      simp only [le, lt, decide_eq_false_iff_not, not_le, Bool.and_eq_true, decide_eq_true_eq,
        Bool.not_eq_true'] at h ⊢
      exact ⟨h.le, h⟩

theorem le_trans {a b c : JsNumber} (hab : le a b = true) (hbc : le b c = true) :
    le a c = true := by
  cases a <;> cases b <;> cases c <;> simp_all [le]
  all_goals grind

/-- Two numbers are in one order or the other. -/
theorem le_total (ha : a ≠ .nan) (hb : b ≠ .nan) : le a b = true ∨ le b a = true := by
  cases hle : le a b with
  | true => exact Or.inl rfl
  | false => exact Or.inr (Bool.and_eq_true_iff.mp (lt_of_not_le ha hb hle)).1

/-- The smaller of two numbers is one of them, and at most each of them. -/
theorem min_spec (ha : a ≠ .nan) (hb : b ≠ .nan) :
    (min a b = a ∨ min a b = b) ∧ le (min a b) a = true ∧ le (min a b) b = true := by
  have hmin : min a b = if le a b then a else b := by
    cases a <;> cases b <;> first | rfl | contradiction
  have hrefl : ∀ n, n ≠ .nan → le n n = true := fun n hn => or_self_iff.mp (le_total hn hn)
  rw [hmin]
  split
  next h => exact ⟨Or.inl rfl, hrefl a ha, h⟩
  next h => exact ⟨Or.inr rfl, (le_total ha hb).resolve_left h, hrefl b hb⟩

end JsNumber

inductive WholeNumber
  | finite (n : Nat)
  | infinity
deriving DecidableEq

namespace WholeNumber

def round (n : Nat) : WholeNumber :=
  if n < 2 ^ 53 then
    .finite n
  else
    let step := 2 ^ (Nat.log2 n - 52)
    let quotient := n / step
    let remainder := n % step
    let rounded :=
      if step < 2 * remainder ∨ (2 * remainder = step ∧ quotient % 2 = 1) then
        quotient + 1
      else
        quotient
    if Nat.log2 (rounded * step) < 1024 then .finite (rounded * step) else .infinity

def add : WholeNumber → WholeNumber → WholeNumber
  | .finite a, .finite b => round (a + b)
  | _, _ => .infinity

def isPositive : WholeNumber → Bool
  | .finite n => 0 < n
  | .infinity => true

def toNumber (negative : Bool) : WholeNumber → JsNumber
  | .finite n => .finite (if negative then -(n : ℚ) else n)
  | .infinity => .infinity negative

def sub : WholeNumber → WholeNumber → JsNumber
  | .finite a, .finite b =>
    if b ≤ a then (round (a - b)).toNumber false else (round (b - a)).toNumber true
  | .infinity, .finite _ => .infinity false
  | .finite _, .infinity => .infinity true
  | .infinity, .infinity => .nan

example : round (2 ^ 53 + 1) = .finite (2 ^ 53) := by
  decide

/-- Up to `2 ^ 53` a whole number is a double. -/
theorem round_of_le {n : Nat} (h : n ≤ 2 ^ 53) : round n = .finite n := by
  rcases Nat.lt_or_eq_of_le h with hlt | rfl
  · exact if_pos hlt
  · decide

theorem round_eq_zero {n : Nat} : round n = .finite 0 ↔ n = 0 := by
  constructor
  · intro h
    by_contra hn
    rw [round] at h
    split at h
    · cases h
      exact hn rfl
    · -- the quotient by the step is not zero, and rounding does not lower it
      have hstep : 2 ^ (Nat.log2 n - 52) ≤ n :=
        Nat.le_trans (Nat.pow_le_pow_right (by decide) (Nat.sub_le _ _)) (Nat.log2_self_le hn)
      have hpos : 0 < 2 ^ (Nat.log2 n - 52) := Nat.pow_pos (by decide)
      have hquotient : 0 < n / 2 ^ (Nat.log2 n - 52) := Nat.div_pos hstep hpos
      have hrounded : ∀ rounded, n / 2 ^ (Nat.log2 n - 52) ≤ rounded →
          (if Nat.log2 (rounded * 2 ^ (Nat.log2 n - 52)) < 1024 then
            finite (rounded * 2 ^ (Nat.log2 n - 52)) else infinity) ≠ finite 0 := by
        intro rounded hle hfinite
        split at hfinite
        · rcases Nat.mul_eq_zero.mp (WholeNumber.finite.inj hfinite) with hzero | hzero <;> omega
        · cases hfinite
      refine hrounded _ ?_ h
      split <;> omega
  · rintro rfl
    rfl

theorem sub_eq_zero {a b : WholeNumber} : a.sub b = .zero ↔ a = b ∧ a ≠ .infinity := by
  cases a with
  | infinity => cases b <;> simp [sub, JsNumber.zero]
  | finite a =>
    cases b with
    | infinity => simp [sub, JsNumber.zero]
    | finite b =>
      have hzero : ∀ negative n,
          (round n).toNumber negative = .zero ↔ n = 0 := by
        intro negative n
        rw [← round_eq_zero]
        cases round n <;> cases negative <;> simp [toNumber, JsNumber.zero]
      simp only [sub]
      split <;> simp [hzero] <;> omega

/-- The difference of two numbers up to `2 ^ 53` is exact. -/
theorem sub_exact {a b : Nat} (ha : a ≤ 2 ^ 53) (hb : b ≤ 2 ^ 53) :
    (finite a).sub (.finite b) = .finite ((a : ℚ) - b) := by
  simp only [sub]
  split
  · rename_i hle
    rw [round_of_le (by omega)]
    simp [toNumber, Nat.cast_sub hle]
  · rename_i hle
    rw [round_of_le (by omega)]
    simp [toNumber, Nat.cast_sub (show a ≤ b by omega)]

/-- The sum of a first amount and of further ones, in this order. -/
def runningSum : List Nat → WholeNumber
  | [] => .finite 0
  | first :: rest => rest.foldl (fun total n => total.add (.finite n)) (.finite first)

/-- Adding amounts to a total is exact as long as the sum does not pass `2 ^ 53`. -/
theorem foldl_add_exact (amounts : List Nat) :
    ∀ total, total + amounts.sum ≤ 2 ^ 53 →
      amounts.foldl (fun total n => total.add (.finite n)) (WholeNumber.finite total) =
        .finite (total + amounts.sum) := by
  induction amounts with
  | nil =>
    intro total _
    rfl
  | cons first rest ih =>
    intro total h
    rw [List.sum_cons, ← Nat.add_assoc] at h ⊢
    have hfirst : add (.finite total) (.finite first) = .finite (total + first) :=
      round_of_le (by omega)
    rw [List.foldl_cons, hfirst]
    exact ih (total + first) h

end WholeNumber

end Aiphabee
