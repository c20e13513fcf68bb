import Mathlib.Data.List.Induction
import Mathlib.Data.List.Nodup
import Mathlib.Data.List.Perm.Basic

/-!
# Matching targets to candidates one after the other

Each target in turn takes the first unused candidate that is close to it.
Whether every target gets one depends on the order of the candidates: a target
may take the only candidate that a later one is close to.

`NeverStuck` says that no choice of close, unused candidates leaves a target
without one.  Then the matching succeeds in every order of the candidates.  When
each target is close to a candidate of its own and these stand in the order of the
targets, it succeeds anyway.
-/

namespace Aiphabee.SequentialMatching

universe u v w

variable {α : Type u} [DecidableEq α]
variable {β : Type v}
variable (close : α → β → Bool)

def takeFirst : List α → List β → Bool
  | _, [] => true
  | candidates, target :: rest =>
    candidates.any (fun candidate => close candidate target) &&
      takeFirst (candidates.eraseP fun candidate => close candidate target) rest

/-- Whichever close candidates the targets take, one after the other, none is left without. -/
def NeverStuck : List α → List β → Prop
  | _, [] => True
  | candidates, target :: rest =>
    (∃ candidate ∈ candidates, close candidate target = true) ∧
      ∀ candidate ∈ candidates, close candidate target = true →
        NeverStuck (candidates.erase candidate) rest

/-- Whether targets can get stuck can be tried out. -/
instance NeverStuck.decidable :
    (candidates : List α) → (targets : List β) → Decidable (NeverStuck close candidates targets)
  | _, [] => inferInstanceAs (Decidable True)
  | candidates, target :: rest =>
    have : ∀ candidate : α, Decidable (NeverStuck close (candidates.erase candidate) rest) :=
      fun candidate => NeverStuck.decidable (candidates.erase candidate) rest
    inferInstanceAs (Decidable ((∃ candidate ∈ candidates, close candidate target = true) ∧
      ∀ candidate ∈ candidates, close candidate target = true →
        NeverStuck close (candidates.erase candidate) rest))

variable {close}

theorem NeverStuck.perm {candidates others : List α} {targets : List β}
    (hperm : candidates.Perm others) (h : NeverStuck close candidates targets) :
    NeverStuck close others targets := by
  induction targets generalizing candidates others with
  | nil => trivial
  | cons target rest ih =>
    obtain ⟨⟨candidate, hmem, hclose⟩, hnext⟩ := h
    refine ⟨⟨candidate, hperm.mem_iff.mp hmem, hclose⟩, fun other hother htaken => ?_⟩
    exact ih (hperm.erase other) (hnext other (hperm.mem_iff.mpr hother) htaken)

theorem eraseP_eq_erase {candidates : List α} {target : β}
    (h : ∃ candidate ∈ candidates, close candidate target = true) :
    ∃ candidate ∈ candidates, close candidate target = true ∧
      (candidates.eraseP fun other => close other target) = candidates.erase candidate := by
  induction candidates with
  | nil =>
    obtain ⟨_, hmem, _⟩ := h
    cases hmem
  | cons first rest ih =>
    cases hfirst : close first target with
    | true => exact ⟨first, List.mem_cons_self, hfirst, by simp [hfirst]⟩
    | false =>
      obtain ⟨candidate, hmem, hclose⟩ := h
      have hrest : candidate ∈ rest := by
        rcases List.mem_cons.mp hmem with rfl | hrest
        · rw [hfirst] at hclose
          cases hclose
        · exact hrest
      obtain ⟨found, hfound, htaken, heq⟩ := ih ⟨candidate, hrest, hclose⟩
      have hne : first ≠ found := by
        rintro rfl
        rw [hfirst] at htaken
        cases htaken
      refine ⟨found, List.mem_cons_of_mem _ hfound, htaken, ?_⟩
      rw [List.eraseP_cons_of_neg (by simp [hfirst]), heq,
        List.erase_cons_tail (by simpa using hne)]

theorem NeverStuck.takeFirst {candidates : List α} {targets : List β}
    (h : NeverStuck close candidates targets) : takeFirst close candidates targets = true := by
  induction targets generalizing candidates with
  | nil => rfl
  | cons target rest ih =>
    obtain ⟨hsome, hnext⟩ := h
    obtain ⟨candidate, hmem, hclose, heq⟩ := eraseP_eq_erase hsome
    rw [SequentialMatching.takeFirst, heq, ih (hnext candidate hmem hclose), Bool.and_true]
    exact List.any_eq_true.mpr hsome

omit [DecidableEq α] in
/-- Targets that come in the order of their own candidates take these. -/
theorem takeFirst_ownCandidates {own : β → α} {targets : List β}
    (h : ∀ target ∈ targets, close (own target) target = true) :
    takeFirst close (targets.map own) targets = true := by
  induction targets with
  | nil => rfl
  | cons target rest ih =>
    obtain ⟨htarget, hrest⟩ := List.forall_mem_cons.mp h
    simp [takeFirst, htarget, ih hrest]

section Positions

variable {γ : Type u}

theorem filter_position {entries : List (γ × Nat)} (hnodup : (entries.map Prod.snd).Nodup)
    {p : γ → Bool} {found : γ × Nat} (h : entries.find? (fun entry => p entry.1) = some found) :
    (entries.filter fun entry => entry.2 ≠ found.2).map Prod.fst =
      (entries.map Prod.fst).eraseP p := by
  induction entries with
  | nil => cases h
  | cons entry rest ih =>
    obtain ⟨hentry, hrest⟩ := List.nodup_cons.mp hnodup
    cases hp : p entry.1 with
    | true =>
      rw [List.find?_cons_of_pos (by exact hp)] at h
      obtain rfl : entry = found := Option.some.inj h
      have hkept : rest.filter (fun other => other.2 ≠ entry.2) = rest := by
        refine List.filter_eq_self.mpr fun other hother => ?_
        have hne : other.2 ≠ entry.2 := by
          intro heq
          exact hentry (heq ▸ List.mem_map_of_mem hother)
        simpa using hne
      rw [List.filter_cons_of_neg (by simp), hkept, List.map_cons,
        List.eraseP_cons_of_pos hp]
    | false =>
      rw [List.find?_cons_of_neg (by simp [hp])] at h
      have hne : entry.2 ≠ found.2 := by
        intro heq
        exact hentry (heq ▸ List.mem_map_of_mem (List.mem_of_find?_eq_some h))
      rw [List.filter_cons_of_pos (by simpa using hne), List.map_cons, List.map_cons,
        List.eraseP_cons_of_neg (by simp [hp]), ih hrest h]

end Positions

end Aiphabee.SequentialMatching
