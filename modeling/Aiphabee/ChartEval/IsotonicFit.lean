import Mathlib.Algebra.Order.Ring.Archimedean
import Mathlib.Data.Real.Basic
import Mathlib.Tactic.LinearCombination
import Aiphabee.ChartEval.CalibrationGuarantee
import Aiphabee.Statistics.IsotonicRegression

/-!
# The fitted curve is the isotonic regression

The steps of `isotonicFit` are read as a function of the confidence.  Among all
functions that do not decrease on the observed confidences, with any real values, this
one has the least squared error, and no other one has as little.  The error does not
depend on the order of the points, and so the steps do not, either.
-/

namespace Aiphabee.ChartEval

def calibratedAt (steps : List IsotonicStep) (confidence : ℚ) : ℚ :=
  ((steps.find? fun step => step.confidence = confidence).map IsotonicStep.calibrated).getD 0

noncomputable def squaredError (points : List IsotonicPoint) (curve : ℚ → ℝ) : ℝ :=
  (points.map fun point => (curve point.confidence - point.score) ^ 2).sum

noncomputable def weightedSquaredError (buckets : List (ℚ × Bucket)) (curve : ℚ → ℝ) : ℝ :=
  (buckets.map fun entry =>
    (entry.2.weight : ℝ) * (curve entry.1 - (entry.2.sum : ℝ) / entry.2.weight) ^ 2).sum

def observed (points : List IsotonicPoint) : Set ℚ :=
  {confidence | ∃ point ∈ points, point.confidence = confidence}

noncomputable def errorWithin (buckets : List (ℚ × Bucket)) : ℝ :=
  (buckets.map fun entry =>
    (entry.2.sum : ℝ) - (entry.2.sum : ℝ) ^ 2 / entry.2.weight).sum

theorem score_sq (point : IsotonicPoint) : ((point.score : ℝ)) ^ 2 = point.score := by
  rw [IsotonicPoint.score]
  split <;> simp

theorem sum_bucketsOf_real (value : ℚ → Bucket → ℝ) (amount : IsotonicPoint → ℝ)
    (hstart : ∀ point, value point.confidence (Bucket.start point) = amount point)
    (hcount : ∀ bucket point,
      value point.confidence (bucket.count point) = value point.confidence bucket + amount point)
    (points : List IsotonicPoint) :
    ((bucketsOf points).map fun entry => value entry.1 entry.2).sum =
      (points.map amount).sum := by
  rw [← GroupBy.sum_groupBy value amount hstart hcount points]
  exact ((List.mergeSort_perm _ _).map _).sum_eq

theorem squaredError_eq (points : List IsotonicPoint) (curve : ℚ → ℝ) :
    squaredError points curve =
      weightedSquaredError (bucketsOf points) curve + errorWithin (bucketsOf points) := by
  have hsum := sum_bucketsOf_real
    (fun confidence bucket => curve confidence ^ 2 * bucket.weight -
      2 * curve confidence * bucket.sum + bucket.sum)
    (fun point => (curve point.confidence - point.score) ^ 2) ?_ ?_ points
  · rw [squaredError, ← hsum, weightedSquaredError, errorWithin, ← List.sum_map_add]
    refine congrArg List.sum (List.map_congr_left fun entry _ => ?_)
    have hweight : (entry.2.weight : ℝ) ≠ 0 := by
      exact_mod_cast entry.2.weight_pos.ne'
    field_simp
    ring
  · intro point
    have hsquare := score_sq point
    simp only [Bucket.start]
    push_cast
    linear_combination -hsquare
  · intro bucket point
    have hsquare := score_sq point
    simp only [Bucket.count]
    push_cast
    linear_combination -hsquare

section Optimality

variable {points : List IsotonicPoint}

theorem calibratedAt_of_mem {step : IsotonicStep} (h : step ∈ isotonicFit points) :
    calibratedAt (isotonicFit points) step.confidence = step.calibrated := by
  have hnodup : ((isotonicFit points).map IsotonicStep.confidence).Nodup :=
    List.pairwise_map.mpr ((isotonicFit_sorted points).imp fun h => h.1.ne)
  obtain ⟨found, hfound⟩ : ∃ found,
      (isotonicFit points).find? (fun other => other.confidence = step.confidence) =
        some found := by
    refine Option.isSome_iff_exists.mp (List.find?_isSome.mpr ⟨step, h, ?_⟩)
    exact decide_eq_true rfl
  have hconfidence : found.confidence = step.confidence := by
    simpa using List.find?_some hfound
  have hsame : found = step :=
    List.inj_on_of_nodup_map hnodup (List.mem_of_find?_eq_some hfound) h hconfidence
  rw [calibratedAt, hfound, hsame]
  rfl

theorem isotonicFit_confidences (points : List IsotonicPoint) :
    (isotonicFit points).map IsotonicStep.confidence = (bucketsOf points).map Prod.fst := by
  rw [isotonicFit_eq, List.map_map]
  conv_rhs => rw [← PooledMeans.map_fst_fit bucketMeasure (bucketsOf points), List.map_map]
  rfl

theorem mem_isotonicFit_confidences {confidence : ℚ} :
    confidence ∈ (isotonicFit points).map IsotonicStep.confidence ↔
      confidence ∈ observed points := by
  have hkeys : (GroupBy.groupBy IsotonicPoint.confidence Bucket.start Bucket.count points).map
      Prod.fst = (points.map IsotonicPoint.confidence).eraseDups := GroupBy.keys_groupBy points
  rw [isotonicFit_confidences, bucketsOf, ((List.mergeSort_perm _ _).map Prod.fst).mem_iff, hkeys,
    List.mem_eraseDups, List.mem_map]
  rfl

variable {curve : ℚ → ℝ}

theorem sum_residuals_nonneg (hcurve : MonotoneOn curve (observed points)) :
    0 ≤ (points.map fun point =>
      (curve point.confidence - calibratedAt (isotonicFit points) point.confidence) *
        (calibratedAt (isotonicFit points) point.confidence - point.score)).sum := by
  have hbuckets := sum_bucketsOf_real
    (fun confidence bucket =>
      (curve confidence - calibratedAt (isotonicFit points) confidence) *
        (calibratedAt (isotonicFit points) confidence * bucket.weight - bucket.sum))
    (fun point =>
      (curve point.confidence - calibratedAt (isotonicFit points) point.confidence) *
        (calibratedAt (isotonicFit points) point.confidence - point.score)) ?_ ?_ points
  · have hcast : Monotone (Rat.castHom ℝ) := fun _ _ h => Rat.cast_le.mpr h
    have hsorted : (bucketsOf points).Pairwise fun earlier later =>
        curve earlier.1 ≤ curve later.1 := by
      refine (bucketsOf_sorted points).imp_of_mem fun hearlier hlater hlt => ?_
      have hmem : ∀ entry ∈ bucketsOf points, entry.1 ∈ observed points := fun entry hentry => by
        rw [← mem_isotonicFit_confidences, isotonicFit_confidences]
        exact List.mem_map_of_mem hentry
      exact hcurve (hmem _ hearlier) (hmem _ hlater) hlt.le
    have hproject := PooledMeans.fit_projection hcast bucketMeasure (bucketsOf points) hsorted
    rw [← hbuckets]
    conv_rhs => rw [← PooledMeans.map_fst_fit bucketMeasure (bucketsOf points), List.map_map]
    rw [← neg_nonpos, ← neg_one_mul, ← List.sum_map_mul_left]
    refine le_of_eq_of_le ?_ hproject
    refine congrArg List.sum (List.map_congr_left fun fitted hfitted => ?_)
    have hstep : calibratedAt (isotonicFit points) fitted.1.1 = fitted.2 := by
      have hmem : stepOf fitted ∈ isotonicFit points := by
        rw [isotonicFit_eq]
        exact List.mem_map_of_mem hfitted
      exact calibratedAt_of_mem hmem
    simp only [Function.comp_apply, hstep, PooledMeans.residual, bucketMeasure, Rat.coe_castHom]
    push_cast
    ring
  · intro point
    simp [Bucket.start]
  · intro bucket point
    simp only [Bucket.count]
    push_cast
    ring

/-- The fitted curve beats a competitor by the squared differences between the two at least. -/
theorem squaredError_fit_add_le (hcurve : MonotoneOn curve (observed points)) :
    squaredError points (fun confidence => calibratedAt (isotonicFit points) confidence) +
        (points.map fun point =>
          (curve point.confidence -
            calibratedAt (isotonicFit points) point.confidence) ^ 2).sum ≤
      squaredError points curve := by
  have hsplit : squaredError points curve =
      squaredError points (fun confidence => calibratedAt (isotonicFit points) confidence) +
        (points.map fun point =>
          (curve point.confidence -
            calibratedAt (isotonicFit points) point.confidence) ^ 2).sum +
        2 * (points.map fun point =>
          (curve point.confidence - calibratedAt (isotonicFit points) point.confidence) *
            (calibratedAt (isotonicFit points) point.confidence - point.score)).sum := by
    rw [squaredError, squaredError, ← List.sum_map_add, ← List.sum_map_mul_left,
      ← List.sum_map_add]
    refine congrArg List.sum (List.map_congr_left fun point _ => ?_)
    ring
  have hresiduals := sum_residuals_nonneg hcurve
  linarith

theorem squaredError_fit_le (hcurve : MonotoneOn curve (observed points)) :
    squaredError points (fun confidence => calibratedAt (isotonicFit points) confidence) ≤
        squaredError points curve ∧
      (squaredError points curve ≤
          squaredError points (fun confidence => calibratedAt (isotonicFit points) confidence) →
        ∀ confidence ∈ observed points,
          curve confidence = calibratedAt (isotonicFit points) confidence) := by
  have hbeats := squaredError_fit_add_le hcurve
  have hterms : ∀ term ∈ points.map fun point =>
      (curve point.confidence - calibratedAt (isotonicFit points) point.confidence) ^ 2,
      0 ≤ term := by
    intro term hterm
    obtain ⟨point, -, rfl⟩ := List.mem_map.mp hterm
    exact sq_nonneg _
  refine ⟨?_, fun hless confidence hconfidence => ?_⟩
  · linarith [List.sum_nonneg hterms]
  · obtain ⟨point, hpoint, rfl⟩ := hconfidence
    have hsmall := List.single_le_sum hterms _ (List.mem_map_of_mem hpoint)
    have hzero : (curve point.confidence -
        calibratedAt (isotonicFit points) point.confidence) ^ 2 = 0 :=
      le_antisymm (by linarith) (sq_nonneg _)
    exact sub_eq_zero.mp (pow_eq_zero_iff two_ne_zero |>.mp hzero)

theorem monotoneOn_calibratedAt (points : List IsotonicPoint) :
    MonotoneOn (fun confidence => (calibratedAt (isotonicFit points) confidence : ℝ))
      (observed points) := by
  intro lower hlower upper hupper hle
  obtain ⟨step, hstep, rfl⟩ := List.mem_map.mp (mem_isotonicFit_confidences.mpr hlower)
  obtain ⟨other, hother, rfl⟩ := List.mem_map.mp (mem_isotonicFit_confidences.mpr hupper)
  dsimp only
  rw [calibratedAt_of_mem hstep, calibratedAt_of_mem hother]
  obtain ⟨i, hi, rfl⟩ := List.mem_iff_getElem.mp hstep
  obtain ⟨j, hj, rfl⟩ := List.mem_iff_getElem.mp hother
  have hsorted := List.pairwise_iff_getElem.mp (isotonicFit_sorted points)
  rcases Nat.lt_trichotomy i j with hij | rfl | hji
  · exact_mod_cast (hsorted i j hi hj hij).2
  · exact le_rfl
  · exact absurd (hsorted j i hj hi hji).1 (not_lt_of_ge hle)

end Optimality

section Orders

variable {points others : List IsotonicPoint}

theorem squaredError_perm (h : points.Perm others) (curve : ℚ → ℝ) :
    squaredError points curve = squaredError others curve :=
  (h.map _).sum_eq

theorem observed_perm (h : points.Perm others) : observed points = observed others := by
  ext confidence
  simp [observed, h.mem_iff]

theorem mem_isotonicFit_iff {points : List IsotonicPoint} {step : IsotonicStep} :
    step ∈ isotonicFit points ↔
      step.confidence ∈ observed points ∧
        step.calibrated = calibratedAt (isotonicFit points) step.confidence := by
  constructor
  · intro h
    exact ⟨mem_isotonicFit_confidences.mp (List.mem_map_of_mem h), (calibratedAt_of_mem h).symm⟩
  · rintro ⟨hobserved, hcalibrated⟩
    obtain ⟨other, hother, heq⟩ := List.mem_map.mp (mem_isotonicFit_confidences.mpr hobserved)
    have hsame : step = other := by
      rw [← heq, calibratedAt_of_mem hother] at hcalibrated
      cases step
      cases other
      simp_all
    rwa [hsame]

/-- The steps do not depend on the order of the points, since no other curve fits as well. -/
theorem isotonicFit_perm (h : points.Perm others) : isotonicFit others = isotonicFit points := by
  have hcurve : ∀ confidence ∈ observed points,
      calibratedAt (isotonicFit others) confidence =
        calibratedAt (isotonicFit points) confidence := by
    have hmonotone := monotoneOn_calibratedAt others
    rw [← observed_perm h] at hmonotone
    have hpoints := monotoneOn_calibratedAt points
    rw [observed_perm h] at hpoints
    have hother := (squaredError_fit_le hpoints).1
    rw [← squaredError_perm h, ← squaredError_perm h] at hother
    intro confidence hconfidence
    exact_mod_cast (squaredError_fit_le hmonotone).2 hother confidence hconfidence
  have hmem : ∀ step, step ∈ isotonicFit others ↔ step ∈ isotonicFit points := by
    intro step
    rw [mem_isotonicFit_iff, mem_isotonicFit_iff, ← observed_perm h]
    refine and_congr_right fun hobserved => ?_
    rw [hcurve _ hobserved]
  have hsorted : ∀ some : List IsotonicPoint, (isotonicFit some).Pairwise
      fun earlier later => earlier.confidence < later.confidence := fun some =>
    (isotonicFit_sorted some).imp And.left
  have hnodup : ∀ some : List IsotonicPoint, (isotonicFit some).Nodup := fun some =>
    (hsorted some).imp fun hlt heq => hlt.ne (congrArg IsotonicStep.confidence heq)
  refine List.Perm.eq_of_pairwise (fun left right _ _ hlt hgt => ?_) (hsorted others)
    (hsorted points) ((List.perm_ext_iff_of_nodup (hnodup others) (hnodup points)).mpr hmem)
  exact absurd hlt (not_lt_of_gt hgt)

end Orders

theorem sum_blockStack_weight (points : List IsotonicPoint) :
    ((blockStack (bucketsOf points)).map Block.weight).sum = points.length := by
  have hblocks : ∀ stack : List (List (ℚ × Bucket)),
      ((stack.map Block.ofPool).map Block.weight).sum =
        (stack.reverse.flatten.map fun entry => entry.2.weight).sum := by
    intro stack
    induction stack with
    | nil => rfl
    | cons pool rest ih =>
      rw [List.map_cons, List.map_cons, List.sum_cons, ih, List.reverse_cons,
        List.flatten_append, List.map_append, List.sum_append, List.flatten_singleton,
        Nat.add_comm]
      rfl
  have hall := sum_bucketsOf Bucket.weight (fun _ => 1) (fun _ => rfl) (fun _ _ => rfl)
    (fun _ => true) points
  rw [List.filter_eq_self.mpr fun _ _ => rfl, List.filter_eq_self.mpr fun _ _ => rfl] at hall
  have hflatten := PooledMeans.pools_flatten bucketMeasure (bucketsOf points)
  rw [PooledMeans.pools] at hflatten
  rw [blockStack_eq, hblocks, hflatten, hall]
  simp

/--
`isotonicFit` is the isotonic regression of its points: the confidences of its steps are
the observed ones and increase, its values do not decrease, its blocks weigh as much as
there are points, and on the observed confidences it is the one curve among those that do
not decrease that has the least squared error, by point as well as by confidence and
weight.  The order of the points does not matter.
-/
theorem isotonicFit_isRegression (points : List IsotonicPoint) :
    (isotonicFit points).Pairwise (fun earlier later =>
        earlier.confidence < later.confidence ∧ earlier.calibrated ≤ later.calibrated) ∧
      (∀ confidence, confidence ∈ (isotonicFit points).map IsotonicStep.confidence ↔
        ∃ point ∈ points, point.confidence = confidence) ∧
      ((blockStack (bucketsOf points)).map Block.weight).sum = points.length ∧
      (∀ curve : ℚ → ℝ, MonotoneOn curve (observed points) →
        squaredError points (fun confidence => calibratedAt (isotonicFit points) confidence) ≤
            squaredError points curve ∧
          weightedSquaredError (bucketsOf points)
              (fun confidence => calibratedAt (isotonicFit points) confidence) ≤
            weightedSquaredError (bucketsOf points) curve ∧
          (squaredError points curve ≤
              squaredError points
                (fun confidence => calibratedAt (isotonicFit points) confidence) →
            ∀ confidence ∈ observed points,
              curve confidence = calibratedAt (isotonicFit points) confidence)) ∧
      ∀ others, points.Perm others → isotonicFit others = isotonicFit points := by
  refine ⟨isotonicFit_sorted points, fun _ => mem_isotonicFit_confidences,
    sum_blockStack_weight points, fun curve hcurve => ?_, fun others h => isotonicFit_perm h⟩
  obtain ⟨hleast, hunique⟩ := squaredError_fit_le hcurve
  refine ⟨hleast, ?_, hunique⟩
  rw [squaredError_eq, squaredError_eq] at hleast
  exact le_of_add_le_add_right hleast

end Aiphabee.ChartEval
