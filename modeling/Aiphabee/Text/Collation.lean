import Mathlib.Order.Lattice

/-!
# Collation

How `localeCompare` compares two texts depends on the locale of a platform.  What a
program can rely on is a total preorder: different texts may compare equal.
-/

namespace Aiphabee

/-- How `localeCompare` compares two texts. -/
structure Collation (τ : Type) where
  localeCompare : τ → τ → Int
  localeCompare_swap : ∀ a b, localeCompare a b < 0 ↔ 0 < localeCompare b a
  localeCompare_trans : ∀ a b c, localeCompare a b ≤ 0 → localeCompare b c ≤ 0 →
    localeCompare a c ≤ 0

namespace Collation

variable {τ : Type} (collation : Collation τ)

/-- The first text does not come after the second. -/
def localeLe (a b : τ) : Bool :=
  collation.localeCompare a b ≤ 0

theorem localeLe_trans (a b c : τ) (hab : collation.localeLe a b = true)
    (hbc : collation.localeLe b c = true) : collation.localeLe a c = true :=
  decide_eq_true (collation.localeCompare_trans a b c (of_decide_eq_true hab)
    (of_decide_eq_true hbc))

theorem localeLe_total (a b : τ) :
    collation.localeLe a b = true ∨ collation.localeLe b a = true := by
  have hswap := collation.localeCompare_swap b a
  simp only [localeLe, decide_eq_true_eq]
  omega

section Keys

variable {κ : Type} [LinearOrder κ] (key : τ → κ) (a b : τ)

def keyCompare : Int :=
  if key a < key b then -1 else if key b < key a then 1 else 0

theorem keyCompare_neg_iff : keyCompare key a b < 0 ↔ key a < key b := by
  unfold keyCompare
  split_ifs with hab hba <;> simp [hab]

theorem keyCompare_pos_iff : 0 < keyCompare key a b ↔ key b < key a := by
  unfold keyCompare
  split_ifs with hab hba
  · exact iff_of_false (by decide) (lt_asymm hab)
  · exact iff_of_true (by decide) hba
  · exact iff_of_false (by decide) hba

theorem keyCompare_nonpos_iff : keyCompare key a b ≤ 0 ↔ key a ≤ key b := by
  rw [← Int.not_lt, keyCompare_pos_iff, not_lt]

/-- Texts are compared as their keys are. -/
def ofKey : Collation τ where
  localeCompare := keyCompare key
  localeCompare_swap a b := by rw [keyCompare_neg_iff, keyCompare_pos_iff]
  localeCompare_trans a b c := by
    simp only [keyCompare_nonpos_iff]
    exact le_trans

theorem localeLe_ofKey : (ofKey key).localeLe a b = true ↔ key a ≤ key b := by
  rw [localeLe, decide_eq_true_eq]
  exact keyCompare_nonpos_iff key a b

end Keys

end Collation

end Aiphabee
