import Mathlib.Data.Fintype.EquivFin
import Aiphabee.Matching.SequentialMatching

/-!
# What a first-fit matching finds

Each target in turn takes the first unused candidate that is close to it.  When there
are as many candidates as targets, this gives every target a candidate exactly when
there is a *first-fit pairing*: a bijection of the places of the targets with those of
the candidates that pairs close ones, and in which a candidate in front of a target's
own, when it is close to the target, belongs to an earlier target.

A pairing that is no first-fit one may be missed.  It is not when closeness is
*unambiguous*: targets that share a close candidate have the same close candidates.
-/

namespace Aiphabee.SequentialMatching

universe u v w

variable {α : Type u} {β : Type v}

section Pairings

variable (close : α → β → Bool)

structure IsPairing
    (candidates : List α)
    (targets : List β)
    (place : Fin targets.length → Fin candidates.length) : Prop where
  bijective : Function.Bijective place
  fits : ∀ target, close candidates[place target] targets[target] = true

structure IsFirstFit
    (candidates : List α)
    (targets : List β)
    (place : Fin targets.length → Fin candidates.length) : Prop
    extends IsPairing close candidates targets place where
  first : ∀ target candidate, candidate < place target →
    close candidates[candidate] targets[target] = true →
      ∃ earlier < target, place earlier = candidate

def Arranged (candidates : List α) (targets : List β) (arranged : List α) : Prop :=
  candidates.Perm arranged ∧ List.Forall₂ (fun candidate target => close candidate target = true)
    arranged targets

/-- An arrangement in which close candidates in front of a target's own belong to earlier targets.
-/
def FirstArranged (tag : α → Nat) (candidates : List α) (targets : List β) (arranged : List α) :
    Prop :=
  Arranged close candidates targets arranged ∧
    ∀ (place : Nat) (own : α) (target : β) (candidate : α),
      arranged[place]? = some own → targets[place]? = some target → candidate ∈ candidates →
        tag candidate < tag own → close candidate target = true → candidate ∈ arranged.take place

end Pairings

section Greedy

variable {close : α → β → Bool}

theorem takeFirst_map {γ : Type w} (f : γ → α) (candidates : List γ) (targets : List β) :
    takeFirst close (candidates.map f) targets =
      takeFirst (fun candidate target => close (f candidate) target) candidates targets := by
  induction targets generalizing candidates with
  | nil => rfl
  | cons target rest ih =>
    rw [takeFirst, takeFirst, List.any_map, List.eraseP_map, ih]
    rfl

theorem takeFirst_cons_iff {candidates : List α} {target : β} {rest : List β} :
    takeFirst close candidates (target :: rest) = true ↔
      ∃ front found back, candidates = front ++ found :: back ∧
        (∀ other ∈ front, close other target = false) ∧ close found target = true ∧
          takeFirst close (front ++ back) rest = true := by
  rw [takeFirst, Bool.and_eq_true]
  constructor
  · rintro ⟨hany, hrest⟩
    obtain ⟨candidate, hmem, hclose⟩ := List.any_eq_true.mp hany
    obtain ⟨found, front, back, hfront, hfound, rfl, herase⟩ :=
      List.exists_of_eraseP (p := fun candidate => close candidate target) hmem hclose
    rw [herase] at hrest
    exact ⟨front, found, back, rfl, fun other hother => by simpa using hfront other hother,
      hfound, hrest⟩
  · rintro ⟨front, found, back, rfl, hfront, hfound, hrest⟩
    refine ⟨List.any_eq_true.mpr ⟨found, by simp, hfound⟩, ?_⟩
    rw [List.eraseP_append_right _ fun other hother => by simp [hfront other hother],
      List.eraseP_cons_of_pos (p := fun candidate => close candidate target) hfound]
    exact hrest

/-- Taking a candidate for a target leaves as many as before. -/
theorem length_without {front back : List α} {found : α} {target : β} {rest : List β}
    (h : (front ++ found :: back).length = (target :: rest).length) :
    (front ++ back).length = rest.length := by
  simp only [List.length_append, List.length_cons] at h ⊢
  omega

theorem takeFirst_iff_firstArranged {tag : α → Nat} {candidates : List α} {targets : List β}
    (hsorted : candidates.Pairwise fun earlier later => tag earlier < tag later)
    (hlength : candidates.length = targets.length) :
    takeFirst close candidates targets = true ↔
      ∃ arranged, FirstArranged close tag candidates targets arranged := by
  induction targets generalizing candidates with
  | nil =>
    obtain rfl := List.length_eq_zero_iff.mp hlength
    refine iff_of_true rfl ⟨[], ⟨List.Perm.refl _, List.Forall₂.nil⟩, ?_⟩
    intro place own target candidate hown
    cases hown
  | cons target rest ih =>
    rw [takeFirst_cons_iff]
    constructor
    · rintro ⟨front, found, back, rfl, hfront, hfound, hrest⟩
      have hsmaller : (front ++ back).Sublist (front ++ found :: back) :=
        (List.sublist_cons_self found back).append_left front
      obtain ⟨arranged, ⟨hperm, hclose⟩, hfirst⟩ :=
        (ih (hsorted.sublist hsmaller) (length_without hlength)).mp hrest
      refine ⟨found :: arranged,
        ⟨List.perm_middle.trans (hperm.cons found), List.Forall₂.cons hfound hclose⟩, ?_⟩
      intro place own other candidate hown hother hcandidate hbefore hfits
      cases place with
      | zero =>
        -- nothing in front of the first close candidate is close
        cases hown
        cases hother
        have hnot : candidate ∉ front := fun hmem => by
          rw [hfront candidate hmem] at hfits
          cases hfits
        have hlater : tag found ≤ tag candidate := by
          rcases List.mem_cons.mp ((List.mem_append.mp hcandidate).resolve_left hnot) with
            rfl | hback
          · exact le_rfl
          · exact ((List.pairwise_cons.mp (List.pairwise_append.mp hsorted).2.1).1
              candidate hback).le
        exact absurd hbefore (not_lt_of_ge hlater)
      | succ place =>
        rw [List.take_succ_cons, List.mem_cons]
        by_cases heq : candidate = found
        · exact .inl heq
        · refine .inr (hfirst place own other candidate hown hother ?_ hbefore hfits)
          simpa [heq] using hcandidate
    · rintro ⟨arranged, ⟨hperm, hclose⟩, hfirst⟩
      cases hclose with
      | @cons own _ arranged _ hown hclose =>
        have hmem : own ∈ candidates := hperm.mem_iff.mpr List.mem_cons_self
        obtain ⟨found, front, back, hfront, hfound, rfl, -⟩ :=
          List.exists_of_eraseP (p := fun candidate => close candidate target) hmem hown
        have hsame : own = found := by
          -- otherwise the first close candidate is in front of the target's own
          by_contra hne
          have hback : own ∈ back := by
            rcases List.mem_append.mp hmem with hfrontMem | hcons
            · exact absurd hown (hfront own hfrontMem)
            · exact (List.mem_cons.mp hcons).resolve_left hne
          have hlt := (List.pairwise_cons.mp (List.pairwise_append.mp hsorted).2.1).1
            own hback
          exact absurd (hfirst 0 own target found rfl rfl (by simp) hlt hfound) (by simp)
        subst hsame
        have hsmaller : (front ++ back).Sublist (front ++ own :: back) :=
          (List.sublist_cons_self own back).append_left front
        have hrest : (front ++ back).Perm arranged :=
          List.Perm.cons_inv (List.perm_middle.symm.trans hperm)
        refine ⟨front, own, back, rfl, fun other hother => by simpa using hfront other hother,
          hfound, ?_⟩
        refine (ih (hsorted.sublist hsmaller) (length_without hlength)).mpr
          ⟨arranged, ⟨hrest, hclose⟩, ?_⟩
        intro place other later candidate hother hlater hcandidate hbefore hfits
        have htaken := hfirst (place + 1) other later candidate hother hlater
          (hsmaller.subset hcandidate) hbefore hfits
        rw [List.take_succ_cons, List.mem_cons] at htaken
        refine htaken.resolve_left ?_
        rintro rfl
        have hnodup : (front ++ candidate :: back).Nodup :=
          hsorted.imp fun h heq => h.ne (congrArg tag heq)
        rw [List.nodup_middle, List.nodup_cons] at hnodup
        exact hnodup.1 hcandidate

end Greedy

section Places

variable {close : α → β → Bool}
variable {candidates : List α}
variable {targets : List β}

theorem exists_place_of_arranged {arranged : List (α × Nat)}
    (hlength : candidates.length = targets.length)
    (h : Arranged (fun entry target => close entry.1 target) candidates.zipIdx targets arranged) :
    ∃ place : Fin targets.length → Fin candidates.length,
      IsPairing close candidates targets place ∧
        ∀ target, arranged[target.val]? = some (candidates[place target], (place target).val) := by
  obtain ⟨hperm, hclose⟩ := h
  have hmem : ∀ entry ∈ arranged, candidates[entry.2]? = some entry.1 := fun entry hentry =>
    List.mem_zipIdx_iff_getElem?.mp (hperm.mem_iff.mpr hentry)
  have hentry : ∀ target : Fin targets.length, ∃ place : Fin candidates.length,
      arranged[target.val]? = some (candidates[place], place.val) := by
    intro target
    have hlt : target.val < arranged.length := by
      rw [hclose.length_eq]
      exact target.isLt
    have hfound := hmem _ (List.getElem_mem hlt)
    obtain ⟨hplace, heq⟩ := List.getElem?_eq_some_iff.mp hfound
    refine ⟨⟨arranged[target.val].2, hplace⟩, ?_⟩
    rw [List.getElem?_eq_getElem hlt]
    exact congrArg some (Prod.ext heq.symm rfl)
  choose place hplace using hentry
  refine ⟨place, ⟨?_, fun target => ?_⟩, hplace⟩
  · have hnodup : (arranged.map Prod.snd).Nodup := by
      refine (hperm.map Prod.snd).nodup_iff.mp ?_
      rw [List.zipIdx_map_snd]
      exact List.nodup_range'
    have hsnd : ∀ target, (arranged.map Prod.snd)[target.val]? = some (place target).val :=
      fun target => by rw [List.getElem?_map, hplace target]; rfl
    have hinjective : Function.Injective place := by
      intro left right heq
      have hleft := hsnd left
      rw [heq, ← hsnd right] at hleft
      have hlt : left.val < (arranged.map Prod.snd).length := by
        rw [List.length_map, hclose.length_eq]
        exact left.isLt
      exact Fin.ext ((List.getElem?_inj hlt hnodup).mp hleft)
    exact (Fintype.bijective_iff_injective_and_card place).mpr
      ⟨hinjective, by simp [hlength]⟩
  · obtain ⟨hlt, heq⟩ := List.getElem?_eq_some_iff.mp (hplace target)
    have hfits := hclose.get hlt target.isLt
    simpa [heq] using hfits

/-- The tagged candidates in the order in which a pairing gives them to the targets. -/
def arrangedOf (place : Fin targets.length → Fin candidates.length) : List (α × Nat) :=
  List.ofFn fun target => (candidates[place target], (place target).val)

theorem arranged_arrangedOf {place : Fin targets.length → Fin candidates.length}
    (h : IsPairing close candidates targets place) :
    Arranged (fun entry target => close entry.1 target) candidates.zipIdx targets
      (arrangedOf place) := by
  constructor
  · have hnodup : (arrangedOf place).Nodup := by
      refine List.nodup_ofFn.mpr fun left right heq => h.bijective.1 (Fin.ext ?_)
      exact congrArg Prod.snd heq
    have hzip : candidates.zipIdx.Nodup := by
      refine List.Nodup.of_map Prod.snd ?_
      rw [List.zipIdx_map_snd]
      exact List.nodup_range'
    refine (List.perm_ext_iff_of_nodup hzip hnodup).mpr fun entry => ?_
    rw [List.mem_zipIdx_iff_getElem?, arrangedOf, List.mem_ofFn]
    constructor
    · intro hentry
      obtain ⟨hlt, heq⟩ := List.getElem?_eq_some_iff.mp hentry
      obtain ⟨target, htarget⟩ := h.bijective.2 ⟨entry.2, hlt⟩
      have hentry := congrArg
        (fun place : Fin candidates.length => (candidates[place], place.val)) htarget
      exact ⟨target, hentry.trans (Prod.ext heq rfl)⟩
    · rintro ⟨target, rfl⟩
      exact List.getElem?_eq_getElem (place target).isLt
  · refine List.forall₂_iff_get.mpr ⟨by simp [arrangedOf], fun place hplace htarget => ?_⟩
    simpa [arrangedOf] using h.fits ⟨place, htarget⟩

theorem exists_isPairing_iff :
    (∃ place, IsPairing close candidates targets place) ↔
      ∃ arranged, Arranged close candidates targets arranged := by
  constructor
  · rintro ⟨place, h⟩
    obtain ⟨hperm, hclose⟩ := arranged_arrangedOf h
    refine ⟨(arrangedOf place).map Prod.fst, ?_, List.forall₂_map_left_iff.mpr hclose⟩
    have hfst := hperm.map Prod.fst
    rwa [List.zipIdx_map_fst] at hfst
  · rintro ⟨arranged, hperm, hclose⟩
    have hlength : candidates.length = targets.length :=
      hperm.length_eq.trans hclose.length_eq
    obtain ⟨tagged, htagged, hfst⟩ : ∃ tagged : List (α × Nat),
        candidates.zipIdx.Perm tagged ∧ tagged.map Prod.fst = arranged := by
      have htags : List.Forall₂ (fun candidate entry => Prod.fst entry = candidate) candidates
          candidates.zipIdx := by
        refine List.forall₂_iff_get.mpr ⟨by simp, fun place hplace hentry => ?_⟩
        simp
      obtain ⟨tagged, hfst, htagged⟩ := List.perm_comp_forall₂ hperm.symm htags
      refine ⟨tagged, htagged.symm, ?_⟩
      have hequal : List.Forall₂ Eq (tagged.map Prod.fst) arranged :=
        List.forall₂_map_left_iff.mpr hfst.flip
      exact List.forall₂_eq_eq_eq ▸ hequal
    obtain ⟨place, hpairing, -⟩ := exists_place_of_arranged hlength
      ⟨htagged, List.forall₂_map_left_iff.mp (hfst ▸ hclose)⟩
    exact ⟨place, hpairing⟩

theorem takeFirst_iff_isFirstFit (hlength : candidates.length = targets.length) :
    takeFirst close candidates targets = true ↔
      ∃ place, IsFirstFit close candidates targets place := by
  have hsorted : candidates.zipIdx.Pairwise fun earlier later => earlier.2 < later.2 := by
    have hrange : (candidates.zipIdx.map Prod.snd).Pairwise (· < ·) := by
      rw [List.zipIdx_map_snd]
      exact List.pairwise_lt_range'
    exact List.pairwise_map.mp hrange
  have hmap : takeFirst close (candidates.zipIdx.map Prod.fst) targets =
      takeFirst (fun candidate target => close candidate.1 target) candidates.zipIdx targets :=
    takeFirst_map Prod.fst candidates.zipIdx targets
  rw [List.zipIdx_map_fst] at hmap
  rw [hmap, takeFirst_iff_firstArranged hsorted (by simpa using hlength)]
  constructor
  · rintro ⟨arranged, harranged, hfirst⟩
    obtain ⟨place, hpairing, hplace⟩ := exists_place_of_arranged hlength harranged
    refine ⟨place, { hpairing with first := fun target candidate hbefore hfits => ?_ }⟩
    have hmem : (candidates[candidate], candidate.val) ∈ candidates.zipIdx :=
      List.mem_zipIdx_iff_getElem?.mpr (List.getElem?_eq_getElem candidate.isLt)
    have htaken := hfirst target.val _ targets[target] _ (hplace target)
      (List.getElem?_eq_getElem target.isLt) hmem hbefore hfits
    obtain ⟨earlier, hlt, heq⟩ := List.mem_take_iff_getElem.mp htaken
    have hbounds := Nat.lt_min.mp hlt
    refine ⟨⟨earlier, hbounds.1.trans target.isLt⟩, Fin.lt_def.mpr hbounds.1, Fin.ext ?_⟩
    have hown := hplace ⟨earlier, hbounds.1.trans target.isLt⟩
    rw [List.getElem?_eq_getElem hbounds.2, heq, Option.some.injEq] at hown
    exact (congrArg Prod.snd hown).symm
  · rintro ⟨place, h⟩
    refine ⟨arrangedOf place, arranged_arrangedOf h.toIsPairing, ?_⟩
    intro target own value candidate hown hvalue hcandidate hbefore hfits
    obtain ⟨hlt, rfl⟩ := List.getElem?_eq_some_iff.mp hvalue
    have hplace : own = (candidates[place ⟨target, hlt⟩], (place ⟨target, hlt⟩).val) := by
      simpa [arrangedOf, hlt] using hown.symm
    obtain ⟨hcandidateLt, heq⟩ :=
      List.getElem?_eq_some_iff.mp (List.mem_zipIdx_iff_getElem?.mp hcandidate)
    rw [hplace] at hbefore
    obtain ⟨earlier, hearlier, hsame⟩ := h.first ⟨target, hlt⟩ ⟨candidate.2, hcandidateLt⟩ hbefore
      (by simpa [heq] using hfits)
    refine List.mem_take_iff_getElem.mpr ⟨earlier.val, by simp [arrangedOf]; omega, ?_⟩
    simp only [arrangedOf, List.getElem_ofFn, hsame]
    exact Prod.ext heq rfl

end Places

section Unambiguous

variable {close : α → β → Bool}
variable {candidates : List α}
variable {targets : List β}

theorem exists_isPairing_perm {others : List α} {further : List β}
    (hcandidates : candidates.Perm others) (htargets : targets.Perm further) :
    (∃ place, IsPairing close candidates targets place) ↔
      ∃ place, IsPairing close others further place := by
  have hperm : ∀ {candidates others : List α} {targets further : List β},
      candidates.Perm others → targets.Perm further →
      (∃ arranged, Arranged close candidates targets arranged) →
        ∃ arranged, Arranged close others further arranged := by
    rintro candidates others targets further hcandidates htargets ⟨arranged, hperm, hclose⟩
    obtain ⟨rearranged, hfits, harranged⟩ := List.perm_comp_forall₂ htargets.symm hclose.flip
    exact ⟨rearranged, hcandidates.symm.trans (hperm.trans harranged.symm), hfits.flip⟩
  rw [exists_isPairing_iff, exists_isPairing_iff]
  exact ⟨hperm hcandidates htargets, hperm hcandidates.symm htargets.symm⟩

def Unambiguous (close : α → β → Bool) (candidates : List α) (targets : List β) : Prop :=
  ∀ candidate ∈ candidates, ∀ other ∈ candidates, ∀ target ∈ targets, ∀ further ∈ targets,
    close candidate target = true → close candidate further = true →
      close other target = true → close other further = true

theorem Unambiguous.perm {others : List α} {further : List β} (hcandidates : candidates.Perm others)
    (htargets : targets.Perm further) (h : Unambiguous close candidates targets) :
    Unambiguous close others further :=
  fun candidate hcandidate other hother target htarget later hlater =>
    h candidate (hcandidates.mem_iff.mpr hcandidate) other (hcandidates.mem_iff.mpr hother)
      target (htargets.mem_iff.mpr htarget) later (htargets.mem_iff.mpr hlater)

/-- The target of a candidate in an arrangement, with the ones in front of it and behind it. -/
theorem exists_target {R : α → β → Prop} {before after : List α} {own : α}
    (h : List.Forall₂ R (before ++ own :: after) targets) :
    ∃ earlier target further, targets = earlier ++ target :: further ∧
      List.Forall₂ R before earlier ∧ R own target ∧ List.Forall₂ R after further := by
  induction before generalizing targets with
  | nil =>
    cases h with
    | @cons _ target _ further hown hafter =>
      exact ⟨[], target, further, rfl, List.Forall₂.nil, hown, hafter⟩
  | cons first before ih =>
    cases h with
    | @cons _ target _ rest hfirst hrest =>
      obtain ⟨earlier, later, further, rfl, hbefore, hown, hafter⟩ := ih hrest
      exact ⟨target :: earlier, later, further, rfl, List.Forall₂.cons hfirst hbefore, hown,
        hafter⟩

/-- An unambiguous matching finds an arrangement as soon as there is one. -/
theorem takeFirst_of_arranged {arranged : List α}
    (hunambiguous : Unambiguous close candidates targets)
    (h : Arranged close candidates targets arranged) :
    takeFirst close candidates targets = true := by
  induction targets generalizing candidates arranged with
  | nil => rfl
  | cons target rest ih =>
    obtain ⟨hperm, hclose⟩ := h
    cases hclose with
    | @cons own _ arranged _ hown hclose =>
      have hmem : own ∈ candidates := hperm.mem_iff.mpr List.mem_cons_self
      obtain ⟨found, front, back, hfront, hfound, rfl, -⟩ :=
        List.exists_of_eraseP (p := fun candidate => close candidate target) hmem hown
      have hsmaller : (front ++ back).Sublist (front ++ found :: back) :=
        (List.sublist_cons_self found back).append_left front
      have hleft : Unambiguous close (front ++ back) rest :=
        fun candidate hcandidate other hother later hlater further hfurther =>
          hunambiguous candidate (hsmaller.subset hcandidate) other (hsmaller.subset hother)
            later (List.mem_cons_of_mem _ hlater) further (List.mem_cons_of_mem _ hfurther)
      refine takeFirst_cons_iff.mpr ⟨front, found, back, rfl,
        fun other hother => by simpa using hfront other hother, hfound, ?_⟩
      have hrest : (found :: (front ++ back)).Perm (own :: arranged) :=
        List.perm_middle.symm.trans hperm
      by_cases hsame : found = own
      · subst hsame
        exact ih hleft ⟨hrest.cons_inv, hclose⟩
      · -- the found candidate was meant for a later target, which takes the own one instead
        have hlater : found ∈ arranged :=
          (List.mem_cons.mp (hrest.mem_iff.mp List.mem_cons_self)).resolve_left hsame
        obtain ⟨before, after, rfl⟩ := List.append_of_mem hlater
        obtain ⟨earlier, later, further, rfl, hbefore, hfits, hafter⟩ := exists_target hclose
        have hown' : close own later = true :=
          hunambiguous found (by simp) own hmem target List.mem_cons_self later (by simp)
            hfound hfits hown
        have hexchanged : (front ++ back).Perm (before ++ own :: after) := by
          have hmoved : (own :: (before ++ found :: after)).Perm
              (found :: (before ++ own :: after)) :=
            (List.perm_middle.cons own).trans ((List.Perm.swap found own _).trans
              (List.perm_middle.symm.cons found))
          exact (hrest.trans hmoved).cons_inv
        exact ih hleft
          ⟨hexchanged, List.rel_append hbefore (List.Forall₂.cons hown' hafter)⟩

theorem takeFirst_iff_isPairing (hlength : candidates.length = targets.length)
    (hunambiguous : Unambiguous close candidates targets) :
    takeFirst close candidates targets = true ↔
      ∃ place, IsPairing close candidates targets place := by
  constructor
  · intro h
    obtain ⟨place, hplace⟩ := (takeFirst_iff_isFirstFit hlength).mp h
    exact ⟨place, hplace.toIsPairing⟩
  · intro h
    obtain ⟨arranged, harranged⟩ := exists_isPairing_iff.mp h
    exact takeFirst_of_arranged hunambiguous harranged

end Unambiguous

end Aiphabee.SequentialMatching
