import Mathlib.Algebra.Group.Nat.Defs
import Mathlib.Data.List.Forall2
import Mathlib.Order.Basic
import Aiphabee.Text.JsDate

/-!
# The order of texts with digits

Two texts have one shape when they differ in digits only.  Such texts are ordered,
character by character, as the numbers of their digits are (`lt_iff_of_sameShape`).
A number written in a fixed width is read back as itself.
-/

namespace Aiphabee.DigitOrder

abbrev number (digits : List Char) : Nat :=
  Nat.ofDigitChars 10 digits 0

def digitsOf (text : List Char) : List Char :=
  text.filter Char.isDigit

theorem digit_lt_ten {c : Char} (h : c.isDigit = true) : c.toNat - '0'.toNat < 10 := by
  have hbounds := Char.isDigit_iff_toNat.mp h
  have hzero : '0'.toNat = 48 := rfl
  have hnine : '9'.toNat = 57 := rfl
  omega

theorem number_cons (c : Char) (digits : List Char) :
    number (c :: digits) = 10 ^ digits.length * (c.toNat - '0'.toNat) + number digits := by
  rw [number, Nat.ofDigitChars_cons, Nat.ofDigitChars_eq_ofDigitChars_zero, Nat.mul_zero,
    Nat.zero_add]

theorem number_lt {digits : List Char} (h : ∀ c ∈ digits, c.isDigit = true) :
    number digits < 10 ^ digits.length := by
  induction digits with
  | nil => simp [number]
  | cons c digits ih =>
    have htail := ih fun d hd => h d (List.mem_cons_of_mem _ hd)
    have hdigit := digit_lt_ten (h c List.mem_cons_self)
    rw [number_cons, List.length_cons, Nat.pow_succ]
    calc
      10 ^ digits.length * (c.toNat - '0'.toNat) + number digits
          < 10 ^ digits.length * (c.toNat - '0'.toNat) + 10 ^ digits.length :=
        Nat.add_lt_add_left htail _
      _ = 10 ^ digits.length * (c.toNat - '0'.toNat + 1) := (Nat.mul_succ _ _).symm
      _ ≤ 10 ^ digits.length * 10 := Nat.mul_le_mul_left _ hdigit

section Shapes

/-- The texts differ in digits only. -/
def SameShape (left right : List Char) : Prop :=
  List.Forall₂ (fun c d => c = d ∨ (c.isDigit = true ∧ d.isDigit = true)) left right

theorem SameShape.refl (text : List Char) : SameShape text text :=
  List.forall₂_same.mpr fun _ _ => .inl rfl

theorem SameShape.append {left right left' right' : List Char} (h : SameShape left right)
    (h' : SameShape left' right') : SameShape (left ++ left') (right ++ right') :=
  List.rel_append h h'

variable {left right : List Char}

theorem SameShape.cons (c : Char) (h : SameShape left right) : SameShape (c :: left) (c :: right) :=
  List.Forall₂.cons (Or.inl rfl) h

theorem SameShape.of_digits (hlength : left.length = right.length)
    (hleft : ∀ c ∈ left, c.isDigit = true) (hright : ∀ c ∈ right, c.isDigit = true) :
    SameShape left right := by
  induction left generalizing right with
  | nil =>
    rw [List.length_nil, eq_comm, List.length_eq_zero_iff] at hlength
    rw [hlength]
    exact .nil
  | cons c left ih =>
    cases right with
    | nil => cases hlength
    | cons d right =>
      refine List.Forall₂.cons
        (Or.inr ⟨hleft c List.mem_cons_self, hright d List.mem_cons_self⟩) ?_
      exact ih (Nat.succ.inj hlength) (fun e he => hleft e (List.mem_cons_of_mem _ he))
        fun e he => hright e (List.mem_cons_of_mem _ he)

theorem SameShape.digitsOf_length (h : SameShape left right) :
    (digitsOf left).length = (digitsOf right).length := by
  induction h with
  | nil => rfl
  | @cons c d left right hhead _ ih =>
    have hkind : c.isDigit = d.isDigit := by
      rcases hhead with rfl | ⟨hc, hd⟩
      · rfl
      · rw [hc, hd]
    simp only [digitsOf, List.filter_cons, hkind] at ih ⊢
    split <;> simp [ih]

theorem isDigit_of_mem_digitsOf {text : List Char} {c : Char} (h : c ∈ digitsOf text) :
    c.isDigit = true :=
  (List.mem_filter.mp h).2

theorem number_digitsOf_lt (text : List Char) :
    number (digitsOf text) < 10 ^ (digitsOf text).length :=
  number_lt fun _ h => isDigit_of_mem_digitsOf h

theorem lt_iff_of_sameShape (h : SameShape left right) :
    left < right ↔ number (digitsOf left) < number (digitsOf right) := by
  induction h with
  | nil => simp
  | @cons c d left right hhead htail ih =>
    have hlength := SameShape.digitsOf_length htail
    have hleft := number_digitsOf_lt left
    have hright := number_digitsOf_lt right
    rw [List.cons_lt_cons_iff, ih]
    by_cases hc : c.isDigit = true
    · have hd : d.isDigit = true := by
        rcases hhead with rfl | ⟨-, hd⟩
        · exact hc
        · exact hd
      have hcBounds := Char.isDigit_iff_toNat.mp hc
      have hdBounds := Char.isDigit_iff_toNat.mp hd
      have hzero : '0'.toNat = 48 := rfl
      have hlt : c < d ↔ c.toNat < d.toNat := Iff.rfl
      have heq : c = d ↔ c.toNat = d.toNat := Char.toNat_inj.symm
      simp only [digitsOf, List.filter_cons, if_pos hc, if_pos hd] at hlength hleft hright ⊢
      rw [number_cons, number_cons, hlength, hlt, heq]
      rw [hlength] at hleft
      generalize 10 ^ (List.filter Char.isDigit right).length = unit at *
      rcases Nat.lt_trichotomy c.toNat d.toNat with hless | hsame | hmore
      · refine iff_of_true (.inl hless) ?_
        have hunit : unit * (c.toNat - '0'.toNat + 1) ≤ unit * (d.toNat - '0'.toNat) :=
          Nat.mul_le_mul_left _ (by omega)
        rw [Nat.mul_add, Nat.mul_one] at hunit
        omega
      · rw [hsame]
        simp
      · refine iff_of_false (by omega) ?_
        have hunit : unit * (d.toNat - '0'.toNat + 1) ≤ unit * (c.toNat - '0'.toNat) :=
          Nat.mul_le_mul_left _ (by omega)
        rw [Nat.mul_add, Nat.mul_one] at hunit
        omega
    · obtain rfl : c = d := hhead.resolve_right fun hboth => hc hboth.1
      simp [digitsOf, hc]

end Shapes

section Padding

open JsDate (padded)

theorem padded_toList (width n : Nat) :
    (padded width n).toList =
      List.replicate (width - (Nat.toDigits 10 n).length) '0' ++ Nat.toDigits 10 n := by
  simp [padded]

/-- A number below the power of its width takes exactly that width. -/
theorem length_padded {width n : Nat} (hwidth : 0 < width) (h : n < 10 ^ width) :
    (padded width n).toList.length = width := by
  have hlength := (Nat.length_toDigits_le_iff (by decide) hwidth).mpr h
  rw [padded_toList, List.length_append, List.length_replicate]
  omega

theorem isDigit_padded (width n : Nat) :
    ∀ c ∈ (padded width n).toList, c.isDigit = true := by
  intro c hc
  rw [padded_toList, List.mem_append] at hc
  rcases hc with hc | hc
  · rw [(List.mem_replicate.mp hc).2]
    rfl
  · exact Nat.isDigit_of_mem_toDigits (by decide) (by decide) hc

@[simp] theorem digitsOf_padded (width n : Nat) :
    digitsOf (padded width n).toList = (padded width n).toList :=
  List.filter_eq_self.mpr (isDigit_padded width n)

theorem ofDigitChars_padded {width n : Nat} (hwidth : 0 < width) (h : n < 10 ^ width)
    (start : Nat) : Nat.ofDigitChars 10 (padded width n).toList start = 10 ^ width * start + n := by
  rw [Nat.ofDigitChars_eq_ofDigitChars_zero, length_padded hwidth h, padded_toList,
    Nat.ofDigitChars_append, Nat.ofDigitChars_replicate_zero, Nat.mul_zero,
    Nat.ofDigitChars_ten_toDigits]

theorem SameShape.padded {width n m : Nat} (hwidth : 0 < width) (hn : n < 10 ^ width)
    (hm : m < 10 ^ width) :
    SameShape (JsDate.padded width n).toList (JsDate.padded width m).toList :=
  .of_digits ((length_padded hwidth hn).trans (length_padded hwidth hm).symm)
    (isDigit_padded width n) (isDigit_padded width m)

end Padding

end Aiphabee.DigitOrder
