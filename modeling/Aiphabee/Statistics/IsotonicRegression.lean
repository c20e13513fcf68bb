import Mathlib.Algebra.BigOperators.Ring.List
import Mathlib.Tactic.Linarith
import Mathlib.Tactic.Ring
import Aiphabee.Statistics.PooledMeans

/-!
# Pooled means are the isotonic regression

The residual of a cell is its total less what the mean of its pool gives its weight.
Pooling keeps every pool *balanced*: the residuals of the first cells of a pool never
add up to less than zero, and those of the whole pool add up to zero.  Summation by
parts then turns this into the inequality of a projection, `fit_projection`: against
every non-decreasing competitor, the residuals point away from it.  A squared error
is least at the fit for that reason, and nowhere else.
-/

namespace Aiphabee.PooledMeans

open PooledMeans.Measure

universe u v w

variable {γ : Type u}
variable {K : Type v} [Field K] [LinearOrder K] [IsStrictOrderedRing K]
variable {L : Type w} [Field L] [LinearOrder L] [IsStrictOrderedRing L]

/--
Summation by parts: when the first residuals never add up to less than zero, residuals
times values that do not decrease are at most the sum of the residuals times a bound.
-/
theorem sum_mul_le {residual value : γ → L} {cells : List γ}
    (hfirst : ∀ front back, cells = front ++ back → 0 ≤ (front.map residual).sum)
    (hsorted : cells.Pairwise fun earlier later => value earlier ≤ value later) {bound : L}
    (hbound : ∀ cell ∈ cells, value cell ≤ bound) :
    (cells.map fun cell => residual cell * value cell).sum ≤
      bound * (cells.map residual).sum := by
  induction cells using List.reverseRecOn generalizing bound with
  | nil => simp
  | append_singleton cells last ih =>
    have hlast : value last ≤ bound := hbound last (by simp)
    have hall : 0 ≤ ((cells ++ [last]).map residual).sum :=
      hfirst (cells ++ [last]) [] (List.append_nil _).symm
    obtain ⟨hbefore, -, hcross⟩ := List.pairwise_append.mp hsorted
    have hcells : (cells.map fun cell => residual cell * value cell).sum ≤
        value last * (cells.map residual).sum := by
      refine ih (fun front back heq => ?_) hbefore fun cell hcell => ?_
      · exact hfirst front (back ++ [last]) (by rw [heq, List.append_assoc])
      · exact hcross cell hcell last (List.mem_singleton_self last)
    calc ((cells ++ [last]).map fun cell => residual cell * value cell).sum
        = (cells.map fun cell => residual cell * value cell).sum +
            residual last * value last := by simp
      _ ≤ value last * (cells.map residual).sum + residual last * value last :=
          add_le_add_left hcells _
      _ = value last * ((cells ++ [last]).map residual).sum := by
          simp only [List.map_append, List.map_singleton, List.sum_append, List.sum_singleton]
          ring
      _ ≤ bound * ((cells ++ [last]).map residual).sum :=
          mul_le_mul_of_nonneg_right hlast hall

section Balance

variable {measure : Measure γ K}

/-- The first cells of a pool have at least the share of the total that its mean gives them. -/
def Balanced (measure : Measure γ K) (pool : List γ) : Prop :=
  ∀ front back, pool = front ++ back →
    measure.mean pool * measure.weightOf front ≤ measure.totalOf front

theorem mean_mul_weightOf (measure : Measure γ K) {cells : List γ} (h : cells ≠ []) :
    measure.mean cells * measure.weightOf cells = measure.totalOf cells :=
  div_mul_cancel₀ _ (weightOf_pos measure h).ne'

theorem balanced_singleton (measure : Measure γ K) (cell : γ) : Balanced measure [cell] := by
  intro front back heq
  cases front with
  | nil => simp [weightOf, totalOf]
  | cons first rest =>
    obtain ⟨rfl, hnil⟩ := List.cons.inj heq
    obtain ⟨rfl, -⟩ := List.append_eq_nil_iff.mp hnil.symm
    exact (mean_mul_weightOf measure (List.cons_ne_nil _ _)).le

/-- Two pools in the wrong order have a common mean between theirs. -/
theorem mean_append_between {previous last : List γ} (hprevious : previous ≠ []) (hlast : last ≠ [])
    (hviolates : measure.mean last < measure.mean previous) :
    measure.mean last ≤ measure.mean (previous ++ last) ∧
      measure.mean (previous ++ last) ≤ measure.mean previous := by
  have hpos := weightOf_pos measure hprevious
  have hlastPos := weightOf_pos measure hlast
  have happend : 0 < measure.weightOf (previous ++ last) :=
    weightOf_pos measure (List.append_ne_nil_of_left_ne_nil hprevious last)
  have hmean := mean_mul_weightOf measure hprevious
  have hlastMean := mean_mul_weightOf measure hlast
  constructor
  · rw [mean.eq_def measure (previous ++ last), le_div_iff₀ happend,
      weightOf_append, totalOf_append, ← hmean, ← hlastMean, mul_add]
    exact add_le_add_left (mul_le_mul_of_nonneg_right hviolates.le hpos.le) _
  · rw [mean.eq_def measure (previous ++ last), div_le_iff₀ happend,
      weightOf_append, totalOf_append, ← hmean, ← hlastMean, mul_add]
    exact add_le_add_right (mul_le_mul_of_nonneg_right hviolates.le hlastPos.le) _

/-- Pooling two balanced pools in the wrong order gives a balanced one. -/
theorem Balanced.append {previous last : List γ} (hprevious : previous ≠ []) (hlast : last ≠ [])
    (hviolates : measure.mean last < measure.mean previous) (h : Balanced measure previous)
    (h' : Balanced measure last) : Balanced measure (previous ++ last) := by
  obtain ⟨hlow, hhigh⟩ := mean_append_between hprevious hlast hviolates
  have hnonneg : ∀ cells : List γ, 0 ≤ measure.weightOf cells := fun cells =>
    List.sum_nonneg fun value hvalue => by
      obtain ⟨cell, -, rfl⟩ := List.mem_map.mp hvalue
      exact (measure.weight_pos cell).le
  intro front back heq
  rcases List.append_eq_append_iff.mp heq with ⟨middle, rfl, rfl⟩ | ⟨middle, rfl, rfl⟩
  · -- the first cells reach into the last pool: what is behind them has too little
    have hshare := h' middle back rfl
    have hne : previous ++ (middle ++ back) ≠ [] := List.append_ne_nil_of_left_ne_nil hprevious _
    have hwhole := mean_mul_weightOf measure hne
    have hlastWhole := mean_mul_weightOf measure hlast
    have hback := mul_le_mul_of_nonneg_right hlow (hnonneg back)
    simp only [weightOf_append, totalOf_append] at hwhole hlastWhole ⊢
    linarith
  · -- the first cells are cells of the previous pool
    have hshare := h front middle rfl
    have hmean := mul_le_mul_of_nonneg_right hhigh (hnonneg front)
    exact hmean.trans hshare

theorem balanced_poolInto {last : List γ} {stack : List (List γ)} (hne : ∀ pool ∈ stack, pool ≠ [])
    (hlast : last ≠ []) (h : ∀ pool ∈ stack, Balanced measure pool)
    (hbalanced : Balanced measure last) :
    ∀ pool ∈ poolInto measure last stack, Balanced measure pool := by
  induction stack generalizing last with
  | nil => simpa [poolInto] using hbalanced
  | cons previous rest ih =>
    rw [poolInto]
    split
    · exact List.forall_mem_cons.mpr ⟨hbalanced, h⟩
    · next hviolates =>
        have hprevious := hne previous List.mem_cons_self
        refine ih (fun pool hpool => hne pool (List.mem_cons_of_mem _ hpool))
          (List.append_ne_nil_of_left_ne_nil hprevious last)
          (fun pool hpool => h pool (List.mem_cons_of_mem _ hpool)) ?_
        exact Balanced.append hprevious hlast (lt_of_not_ge hviolates)
          (h previous List.mem_cons_self) hbalanced

theorem balanced_pools (measure : Measure γ K) (cells : List γ) :
    ∀ pool ∈ pools measure cells, Balanced measure pool := by
  have hstack : ∀ pool ∈ poolStack measure cells, Balanced measure pool := by
    induction cells using List.reverseRecOn with
    | nil => simp [poolStack]
    | append_singleton cells cell ih =>
      rw [poolStack, List.foldl_append]
      exact balanced_poolInto (pooled_poolStack measure cells).nonempty (List.cons_ne_nil _ _) ih
        (balanced_singleton measure cell)
  exact fun pool hpool => hstack pool (List.mem_reverse.mp hpool)

end Balance

section Projection

variable {measure : Measure γ K}

/-- What a fitted cell has above its share. -/
def residual (measure : Measure γ K) (value : K) (cell : γ) : K :=
  measure.total cell - value * measure.weight cell

omit [IsStrictOrderedRing K] in
theorem sum_residual (measure : Measure γ K) (value : K) (cells : List γ) :
    (cells.map (residual measure value)).sum =
      measure.totalOf cells - value * measure.weightOf cells := by
  induction cells with
  | nil => simp [totalOf, weightOf]
  | cons cell rest ih =>
    rw [List.map_cons, List.sum_cons, ih, residual, totalOf, weightOf,
      totalOf, weightOf, List.map_cons, List.sum_cons, List.map_cons,
      List.sum_cons]
    ring

theorem Balanced.sum_residual_mul_le {cast : K →+* L} (hcast : Monotone cast) {pool : List γ}
    (hne : pool ≠ []) (h : Balanced measure pool) {value : γ → L}
    (hsorted : pool.Pairwise fun earlier later => value earlier ≤ value later) :
    (pool.map fun cell => cast (residual measure (measure.mean pool) cell) * value cell).sum ≤
      0 := by
  have hsum : ∀ cells : List γ,
      (cells.map fun cell => cast (residual measure (measure.mean pool) cell)).sum =
        cast (measure.totalOf cells - measure.mean pool * measure.weightOf cells) := by
    intro cells
    rw [← sum_residual, map_list_sum, List.map_map]
    rfl
  have hfirst : ∀ front back, pool = front ++ back →
      0 ≤ (front.map fun cell => cast (residual measure (measure.mean pool) cell)).sum := by
    intro front back heq
    rw [hsum, ← map_zero cast]
    exact hcast (sub_nonneg.mpr (h front back heq))
  have hzero : (pool.map fun cell => cast (residual measure (measure.mean pool) cell)).sum = 0 := by
    rw [hsum, mean_mul_weightOf measure hne, sub_self, map_zero]
  have hbound : ∀ cell ∈ pool, value cell ≤ value (pool.getLast hne) := by
    intro cell hcell
    rw [← List.dropLast_append_getLast hne] at hcell hsorted
    rcases List.mem_append.mp hcell with hbefore | hlast
    · exact (List.pairwise_append.mp hsorted).2.2 cell hbefore _ (List.mem_singleton_self _)
    · rw [List.mem_singleton.mp hlast]
  calc (pool.map fun cell => cast (residual measure (measure.mean pool) cell) * value cell).sum
      ≤ value (pool.getLast hne) *
          (pool.map fun cell => cast (residual measure (measure.mean pool) cell)).sum :=
        sum_mul_le hfirst hsorted hbound
    _ = 0 := by rw [hzero, mul_zero]

theorem fit_projection {cast : K →+* L} (hcast : Monotone cast) (measure : Measure γ K)
    (cells : List γ) {competitor : γ → L}
    (hsorted : cells.Pairwise fun earlier later => competitor earlier ≤ competitor later) :
    ((fit measure cells).map fun fitted =>
        cast (residual measure fitted.2 fitted.1) *
          (competitor fitted.1 - cast fitted.2)).sum ≤ 0 := by
  have hne := (pools_sorted measure cells).1
  have hbalanced := balanced_pools measure cells
  rw [← pools_flatten measure cells] at hsorted
  rw [fit]
  generalize pools measure cells = groups at hne hbalanced hsorted
  induction groups with
  | nil => simp [fitOf]
  | cons group rest ih =>
    rw [List.flatten_cons, List.pairwise_append] at hsorted
    have hgroup : (group.map fun cell =>
        cast (residual measure (measure.mean group) cell) *
          (competitor cell - cast (measure.mean group))).sum ≤ 0 := by
      refine (hbalanced group List.mem_cons_self).sum_residual_mul_le hcast
        (hne group List.mem_cons_self) ?_
      exact hsorted.1.imp fun h => sub_le_sub_right h _
    have hrest := ih (fun pool hpool => hne pool (List.mem_cons_of_mem _ hpool))
      (fun pool hpool => hbalanced pool (List.mem_cons_of_mem _ hpool)) hsorted.2.1
    rw [fitOf, List.flatMap_cons, List.map_append, List.sum_append, List.map_map]
    exact add_nonpos hgroup hrest

end Projection

end Aiphabee.PooledMeans
