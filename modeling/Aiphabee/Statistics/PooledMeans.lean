import Mathlib.Algebra.Order.BigOperators.Group.List
import Mathlib.Algebra.Order.Field.Basic
import Mathlib.Data.List.Chain
import Mathlib.Data.List.Flatten

/-!
# Pooling adjacent violators

Cells with a weight above zero and a total are read one after the other.  Each
opens a pool of its own; while the pool before the last one has the larger mean,
the two are pooled.  What remains is a cut of the cells into pools whose means
do not decrease.

The main result, `total_of_find`, is about the first cell whose pool has a mean
that reaches a target.  It is the first one of its pool, so that the cells from
there on are whole pools, and their mean reaches the target, too.
-/

namespace Aiphabee.PooledMeans

universe u v

variable {γ : Type u}
variable {K : Type v} [Field K] [LinearOrder K]

structure Measure (γ : Type u) (K : Type v) [Field K] [LinearOrder K] where
  weight : γ → K
  total : γ → K
  weight_pos : ∀ cell, 0 < weight cell

namespace Measure

variable (measure : Measure γ K)

def weightOf (cells : List γ) : K :=
  (cells.map measure.weight).sum

def totalOf (cells : List γ) : K :=
  (cells.map measure.total).sum

def mean (cells : List γ) : K :=
  measure.totalOf cells / measure.weightOf cells

@[simp] theorem weightOf_append (left right : List γ) :
    measure.weightOf (left ++ right) = measure.weightOf left + measure.weightOf right := by
  simp [weightOf]

@[simp] theorem totalOf_append (left right : List γ) :
    measure.totalOf (left ++ right) = measure.totalOf left + measure.totalOf right := by
  simp [totalOf]

end Measure

section Pooling

variable (measure : Measure γ K)

def poolInto (last : List γ) : List (List γ) → List (List γ)
  | [] => [last]
  | previous :: rest =>
    if measure.mean previous ≤ measure.mean last then
      last :: previous :: rest
    else
      poolInto (previous ++ last) rest

def poolStack (cells : List γ) : List (List γ) :=
  cells.foldl (fun stack cell => poolInto measure [cell] stack) []

def pools (cells : List γ) : List (List γ) :=
  (poolStack measure cells).reverse

variable {measure}

theorem poolInto_flatten {last : List γ} {stack : List (List γ)} :
    (poolInto measure last stack).reverse.flatten = stack.reverse.flatten ++ last := by
  induction stack generalizing last with
  | nil => simp [poolInto]
  | cons previous rest ih =>
    rw [poolInto]
    split
    · simp
    · rw [ih]
      simp

structure Pooled
    (measure : Measure γ K)
    (stack : List (List γ)) : Prop where
  nonempty : ∀ pool ∈ stack, pool ≠ []
  sorted : stack.IsChain fun later earlier => measure.mean earlier ≤ measure.mean later

theorem Pooled.poolInto {last : List γ} {stack : List (List γ)} (h : Pooled measure stack)
    (hlast : last ≠ []) : Pooled measure (poolInto measure last stack) := by
  induction stack generalizing last with
  | nil =>
    exact
      { nonempty := by simpa [PooledMeans.poolInto] using hlast
        sorted := List.IsChain.singleton _ }
  | cons previous rest ih =>
    rw [PooledMeans.poolInto]
    split
    · next hle =>
        exact
          { nonempty := List.forall_mem_cons.mpr ⟨hlast, h.nonempty⟩
            sorted := List.isChain_cons_cons.mpr ⟨hle, h.sorted⟩ }
    · refine ih ⟨fun pool hpool => h.nonempty pool (List.mem_cons_of_mem _ hpool), ?_⟩ ?_
      · exact h.sorted.tail
      · simp [hlast]

theorem pools_flatten (measure : Measure γ K) (cells : List γ) :
    (pools measure cells).flatten = cells := by
  induction cells using List.reverseRecOn with
  | nil => rfl
  | append_singleton cells cell ih =>
    rw [pools, poolStack, List.foldl_append]
    exact (poolInto_flatten).trans (congrArg (· ++ [cell]) ih)

theorem pooled_poolStack (measure : Measure γ K) (cells : List γ) :
    Pooled measure (poolStack measure cells) := by
  induction cells using List.reverseRecOn with
  | nil => exact { nonempty := by simp [poolStack], sorted := List.isChain_nil }
  | append_singleton cells cell ih =>
    rw [poolStack, List.foldl_append]
    exact ih.poolInto (List.cons_ne_nil _ _)

theorem pools_sorted (measure : Measure γ K) (cells : List γ) :
    (∀ pool ∈ pools measure cells, pool ≠ []) ∧
      (pools measure cells).Pairwise fun earlier later =>
        measure.mean earlier ≤ measure.mean later := by
  have h := pooled_poolStack measure cells
  refine ⟨fun pool hpool => h.nonempty pool (List.mem_reverse.mp hpool), ?_⟩
  rw [pools, List.pairwise_reverse]
  have : IsTrans (List γ) fun later earlier => measure.mean earlier ≤ measure.mean later :=
    ⟨fun _ _ _ hba hcb => hcb.trans hba⟩
  exact h.sorted.pairwise

end Pooling

section Fit

variable (measure : Measure γ K)

def fitOf (groups : List (List γ)) : List (γ × K) :=
  groups.flatMap fun group => group.map fun cell => (cell, measure.mean group)

def fit (cells : List γ) : List (γ × K) :=
  fitOf measure (pools measure cells)

variable {measure}

theorem map_fst_fit (measure : Measure γ K) (cells : List γ) :
    (fit measure cells).map Prod.fst = cells := by
  have hfst : ∀ groups : List (List γ), (fitOf measure groups).map Prod.fst = groups.flatten := by
    intro groups
    induction groups with
    | nil => rfl
    | cons group rest ih =>
      rw [fitOf, List.flatMap_cons, List.map_append, List.map_map, List.flatten_cons]
      refine congr (congrArg _ ?_) ih
      exact List.map_id _
  rw [fit, hfst, pools_flatten]

theorem fit_sorted (cells : List γ) :
    (fit measure cells).Pairwise fun earlier later => earlier.2 ≤ later.2 := by
  obtain ⟨_, hsorted⟩ := pools_sorted measure cells
  rw [fit, fitOf]
  generalize pools measure cells = groups at hsorted
  induction groups with
  | nil => exact List.Pairwise.nil
  | cons group rest ih =>
    obtain ⟨hgroup, hrest⟩ := List.pairwise_cons.mp hsorted
    rw [List.flatMap_cons, List.pairwise_append]
    refine ⟨?_, ih hrest, ?_⟩
    · rw [List.pairwise_map]
      exact List.pairwise_of_forall fun _ _ => le_rfl
    · intro earlier hearlier later hlater
      obtain ⟨_, _, rfl⟩ := List.mem_map.mp hearlier
      obtain ⟨other, hother, hmem⟩ := List.mem_flatMap.mp hlater
      obtain ⟨_, _, rfl⟩ := List.mem_map.mp hmem
      exact hgroup other hother

variable [IsStrictOrderedRing K]

theorem weightOf_pos (measure : Measure γ K) {cells : List γ} (h : cells ≠ []) :
    0 < measure.weightOf cells := by
  induction cells with
  | nil => exact absurd rfl h
  | cons cell rest ih =>
    rw [Measure.weightOf, List.map_cons, List.sum_cons]
    cases rest with
    | nil => simpa using measure.weight_pos cell
    | cons next rest => exact add_pos (measure.weight_pos cell) (ih (List.cons_ne_nil _ _))

/-- Pools whose means reach a target reach it together. -/
theorem target_le_totalOf {target : K} {groups : List (List γ)} (hne : ∀ group ∈ groups, group ≠ [])
    (h : ∀ group ∈ groups, target ≤ measure.mean group) :
    target * measure.weightOf groups.flatten ≤ measure.totalOf groups.flatten := by
  induction groups with
  | nil => simp [Measure.weightOf, Measure.totalOf]
  | cons group rest ih =>
    have hpos := weightOf_pos measure (hne group List.mem_cons_self)
    have hgroup := (le_div_iff₀ hpos).mp (h group List.mem_cons_self)
    have hrest := ih (fun other hother => hne other (List.mem_cons_of_mem _ hother))
      (fun other hother => h other (List.mem_cons_of_mem _ hother))
    rw [List.flatten_cons, Measure.weightOf_append, Measure.totalOf_append, mul_add]
    exact add_le_add hgroup hrest

/--
From the first cell on whose pool reaches a target, the cells have a mean that
reaches it.  The position of the cells is any key that increases along them.
-/
theorem total_of_find {κ : Type*} [LinearOrder κ] {position : γ → κ} {cells : List γ}
    (hposition : cells.Pairwise fun earlier later => position earlier < position later) {target : K}
    {found : γ × K} (h : (fit measure cells).find? (fun step => target ≤ step.2) = some found) :
    target * measure.weightOf (cells.filter fun cell => position found.1 ≤ position cell) ≤
      measure.totalOf (cells.filter fun cell => position found.1 ≤ position cell) := by
  obtain ⟨hne, hsorted⟩ := pools_sorted measure cells
  rw [← pools_flatten measure cells] at hposition ⊢
  rw [fit] at h
  generalize pools measure cells = groups at hne hsorted hposition h
  induction groups with
  | nil => cases h
  | cons group rest ih =>
    obtain ⟨hfirst, hrest⟩ := List.pairwise_cons.mp hsorted
    obtain ⟨cell, tail, rfl⟩ := List.exists_cons_of_ne_nil (hne group List.mem_cons_self)
    by_cases htarget : target ≤ measure.mean (cell :: tail)
    · -- the found cell is the first of all
      have hfound : found = (cell, measure.mean (cell :: tail)) := by
        simpa [fitOf, htarget] using h.symm
      have hall : ((cell :: tail) :: rest).flatten.filter
          (fun other => position found.1 ≤ position other) = ((cell :: tail) :: rest).flatten := by
        refine List.filter_eq_self.mpr fun other hother => ?_
        rw [hfound, decide_eq_true_eq]
        rcases List.mem_cons.mp hother with rfl | hlater
        · exact le_rfl
        · exact ((List.pairwise_cons.mp hposition).1 other hlater).le
      rw [hall]
      refine target_le_totalOf hne fun other hother => ?_
      rcases List.mem_cons.mp hother with rfl | hlater
      · exact htarget
      · exact htarget.trans (hfirst other hlater)
    · -- the found cell is one of a later pool
      have hskip : (fitOf measure rest).find? (fun step => target ≤ step.2) = some found := by
        rw [fitOf, List.flatMap_cons, List.find?_append] at h
        have hnone : ((cell :: tail).map fun other => (other, measure.mean (cell :: tail))).find?
            (fun step => target ≤ step.2) = none := by
          simp [htarget]
        rw [hnone] at h
        exact h
      rw [List.flatten_cons, List.pairwise_append] at hposition
      obtain ⟨_, hlater, hcross⟩ := hposition
      have hmem : found.1 ∈ rest.flatten := by
        obtain ⟨other, hother, hstep⟩ := List.mem_flatMap.mp (List.mem_of_find?_eq_some hskip)
        obtain ⟨_, hcell, rfl⟩ := List.mem_map.mp hstep
        exact List.mem_flatten.mpr ⟨other, hother, hcell⟩
      have hbefore : (cell :: tail).filter (fun other => position found.1 ≤ position other) =
          [] := by
        refine List.filter_eq_nil_iff.mpr fun other hother => ?_
        simpa using hcross other hother found.1 hmem
      rw [List.flatten_cons, List.filter_append, hbefore, List.nil_append]
      exact ih (fun other hother => hne other (List.mem_cons_of_mem _ hother)) hrest hlater hskip

end Fit

end Aiphabee.PooledMeans
