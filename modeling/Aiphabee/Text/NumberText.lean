import Mathlib.Data.Int.Log
import Aiphabee.Text.JsNumber
import Aiphabee.Text.JsText

/-!
# Numbers and texts

`Number(text)`: a text without the white space at its ends is a whole number in
base two, eight or sixteen, a decimal number or an infinity.  A finite value is
rounded to a double, as the result of every operation is.

`String(number)`: the fewest decimal digits that read back to the number.
-/

namespace Aiphabee.JsNumber

variable (value : ℚ)

/-- The nearest whole number, the even one of two. -/
def roundHalfEven : Int :=
  let low := ⌊value⌋
  if value - low < 1 / 2 ∨ (value - low = 1 / 2 ∧ low % 2 = 0) then low else low + 1

def nearest : JsNumber :=
  if value = 0 then
    .finite 0
  else
    let step : ℚ := 2 ^ (max (Int.log 2 |value|) (-1022) - 52)
    let rounded := roundHalfEven (value / step) * step
    if 2 ^ 1024 ≤ |rounded| then .infinity (value < 0) else .finite rounded

example : nearest (2 ^ 53 + 1) = .finite (2 ^ 53) := by
  decide +kernel

/-- A whole number is its own nearest one. -/
theorem roundHalfEven_intCast (n : Int) : roundHalfEven n = n := by
  simp [roundHalfEven]

/-- A whole number up to `2 ^ 53` is a double. -/
theorem nearest_natCast {n : Nat} (h : n < 2 ^ 53) : nearest (n : ℚ) = .finite n := by
  rw [nearest]
  split
  next hzero => rw [hzero]
  next hzero =>
    have hpositive : 0 < n := Nat.pos_of_ne_zero (by exact_mod_cast hzero)
    have habs : |(n : ℚ)| = n := abs_of_nonneg (Nat.cast_nonneg n)
    -- The step is one over a power of two, so that the quotient is a whole number.
    obtain ⟨k, hk⟩ : ∃ k : Nat, max (Int.log 2 (n : ℚ)) (-1022) - 52 = -(k : Int) := by
      have hlog : Int.log 2 (n : ℚ) = (Nat.log 2 n : Int) := Int.log_natCast 2 n
      have hlt : Nat.log 2 n < 53 := Nat.log_lt_of_lt_pow hpositive.ne' h
      refine ⟨52 - Nat.log 2 n, ?_⟩
      rw [hlog]
      omega
    have hquotient : (n : ℚ) / 2 ^ (-(k : Int)) = ((n * 2 ^ k : Int) : ℚ) := by
      rw [zpow_neg, zpow_natCast, div_inv_eq_mul]
      push_cast
      rfl
    have hback : (((n * 2 ^ k : Int) : ℚ)) * 2 ^ (-(k : Int)) = n := by
      rw [zpow_neg, zpow_natCast]
      push_cast
      rw [mul_inv_cancel_right₀ (by positivity)]
    have hsmall : ¬(2 : ℚ) ^ 1024 ≤ |(n : ℚ)| := by
      rw [habs, not_le]
      have hlt : (n : ℚ) < 2 ^ 53 := by exact_mod_cast h
      exact hlt.trans (pow_lt_pow_right₀ (by norm_num) (by norm_num))
    simp only [habs, hk, hquotient, roundHalfEven_intCast, hback]
    rw [if_neg (by rw [habs] at hsmall; exact hsmall)]

theorem nearest_ne_nan : nearest value ≠ .nan := by
  rw [nearest]
  split
  · simp
  · dsimp only
    split <;> simp

def add : JsNumber → JsNumber → JsNumber
  | .finite a, .finite b => nearest (a + b)
  | .finite _, .infinity negative => .infinity negative
  | .infinity negative, .finite _ => .infinity negative
  | .infinity a, .infinity b => if a = b then .infinity a else .nan
  | _, _ => .nan

def neg : JsNumber → JsNumber
  | .finite a => .finite (-a)
  | .infinity negative => .infinity !negative
  | .nan => .nan

def sub (a b : JsNumber) : JsNumber :=
  add a (neg b)

/-- `Math.abs`. -/
def abs : JsNumber → JsNumber
  | .finite a => .finite |a|
  | .infinity _ => .infinity false
  | .nan => .nan

/-- The quotient by a count above zero. -/
def overCount (a : JsNumber) (count : Nat) : JsNumber :=
  match a with
  | .finite value => nearest (value / count)
  | other => other

/-- The product with a count above zero. -/
def timesCount (a : JsNumber) (count : Nat) : JsNumber :=
  match a with
  | .finite value => nearest (value * count)
  | other => other

/-- `Math.round`. -/
def round : JsNumber → JsNumber
  | .finite value => .finite ⌊value + 1 / 2⌋
  | other => other

/-- `Math.round(a * scale) / scale`. -/
def roundTo (scale : Nat) (a : JsNumber) : JsNumber :=
  (a.timesCount scale).round.overCount scale

/-- `Math.floor`. -/
def floor : JsNumber → JsNumber
  | .finite value => .finite ⌊value⌋
  | other => other

/-- `Number.isFinite`. -/
def isFinite : JsNumber → Bool
  | .finite _ => true
  | _ => false

/-- The comparison `a === b`; nothing equals what is not a number. -/
def strictEquals (a b : JsNumber) : Bool :=
  a ≠ .nan && a = b

def digitValue (u : UInt16) : Option Nat :=
  if 48 ≤ u.toNat ∧ u.toNat ≤ 57 then some (u.toNat - 48)
  else if 65 ≤ u.toNat ∧ u.toNat ≤ 90 then some (u.toNat - 55)
  else if 97 ≤ u.toNat ∧ u.toNat ≤ 122 then some (u.toNat - 87)
  else none

def wholeOfDigits (base : Nat) (digits : JsText) : Option Nat :=
  if digits = [] then
    none
  else
    digits.foldlM
      (fun value u => ((digitValue u).filter (· < base)).map fun digit => value * base + digit) 0

def spanDigits (value : JsText) : JsText × JsText :=
  value.span fun u => 48 ≤ u.toNat && u.toNat ≤ 57

def spanSign : JsText → Int × JsText
  | 43 :: rest => (1, rest)
  | 45 :: rest => (-1, rest)
  | value => (1, value)

/-- The exponent at the end of a decimal number. -/
def exponentOf : JsText → Option Int
  | [] => some 0
  | letter :: rest =>
    if letter.toNat = 69 ∨ letter.toNat = 101 then
      (wholeOfDigits 10 (spanSign rest).2).map fun n => (spanSign rest).1 * n
    else
      none

def decimalOf (value : JsText) : Option ℚ := do
  let (whole, rest) := spanDigits value
  let (fraction, rest) :=
    match rest with
    | 46 :: rest => spanDigits rest
    | _ => ([], rest)
  let digits ← wholeOfDigits 10 (whole ++ fraction)
  let exponent ← exponentOf rest
  pure (digits * 10 ^ (exponent - fraction.length))

/-- `Number(text)`. -/
def ofText (text : JsText) : JsNumber :=
  let value := JsText.trim text
  let inBase (base : Nat) (digits : JsText) : JsNumber :=
    match wholeOfDigits base digits with
    | some n => nearest n
    | none => .nan
  match value with
  | [] => .finite 0
  | 48 :: 98 :: digits | 48 :: 66 :: digits => inBase 2 digits
  | 48 :: 111 :: digits | 48 :: 79 :: digits => inBase 8 digits
  | 48 :: 120 :: digits | 48 :: 88 :: digits => inBase 16 digits
  | value =>
    let (sign, unsigned) := spanSign value
    if unsigned = JsText.ofString "Infinity" then
      .infinity (sign < 0)
    else
      match decimalOf unsigned with
      | some magnitude => nearest (sign * magnitude)
      | none => .nan

example : ofText (JsText.ofString " 65537 ") = .finite 65537 := by
  decide +kernel

/--
The fewest digits of a value above zero that read back to it, as a whole number,
and the power of ten that the value is below.
-/
def shortestDigits : Nat × Int :=
  let exponent := Int.log 10 value + 1
  let candidate (count : Nat) : Nat :=
    (roundHalfEven (value / 10 ^ (exponent - count))).toNat
  let count := ((List.range 17).find? fun count =>
    nearest (candidate (count + 1) * 10 ^ (exponent - (count + 1 : Nat))) = .finite value).getD 16
  let digits := candidate (count + 1)
  if digits = 10 ^ (count + 1) then (10 ^ count, exponent + 1) else (digits, exponent)

def exponentText (digits : List Char) (exponent : Int) : List Char :=
  let fraction := digits.drop 1
  digits.take 1 ++ (if fraction = [] then [] else '.' :: fraction) ++
    ['e', if exponent < 0 then '-' else '+'] ++ Nat.toDigits 10 exponent.natAbs

def positiveText : List Char :=
  let (number, exponent) := shortestDigits value
  let digits := Nat.toDigits 10 number
  if digits.length ≤ exponent ∧ exponent ≤ 21 then
    digits ++ List.replicate (exponent.toNat - digits.length) '0'
  else if 0 < exponent ∧ exponent ≤ 21 then
    digits.take exponent.toNat ++ '.' :: digits.drop exponent.toNat
  else if -6 < exponent ∧ exponent ≤ 0 then
    ['0', '.'] ++ List.replicate exponent.natAbs '0' ++ digits
  else
    exponentText digits (exponent - 1)

/-- `String(number)`. -/
def toText : JsNumber → String
  | .nan => "NaN"
  | .infinity negative => if negative then "-Infinity" else "Infinity"
  | .finite value =>
    if value = 0 then "0"
    else if value < 0 then String.ofList ('-' :: positiveText (-value))
    else String.ofList (positiveText value)

example : (toText (.finite 120), toText (.finite (1 / 8))) = ("120", "0.125") := by
  decide +kernel

end Aiphabee.JsNumber
