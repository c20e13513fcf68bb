import Mathlib.Algebra.BigOperators.Ring.Finset
import Aiphabee.ChartEval.Calibrate

/-!
# What a calibrated threshold promises

The blocks of the fit are the pools of `PooledMeans`, read over the buckets of a
tier.  The buckets from a confidence on hold the points from that confidence on,
so what pooling says about the mean of the cells is said about the accuracy of
the observations: from a threshold on, it reaches the target.
-/

namespace Aiphabee.ChartEval

open PooledMeans

def bucketMeasure : Measure (ℚ × Bucket) ℚ where
  weight entry := entry.2.weight
  total entry := entry.2.sum
  weight_pos entry := by exact_mod_cast entry.2.weight_pos

variable (points : List IsotonicPoint)

theorem bucketsOf_sorted :
    (bucketsOf points).Pairwise fun earlier later => earlier.1 < later.1 := by
  have hle : (bucketsOf points).Pairwise fun earlier later => earlier.1 ≤ later.1 := by
    refine List.Pairwise.imp (fun h => of_decide_eq_true h) (List.pairwise_mergeSort ?_ ?_ _)
    · intro first second third hfirst hsecond
      exact decide_eq_true
        ((of_decide_eq_true hfirst).trans (of_decide_eq_true hsecond))
    · intro first second
      rcases le_total first.1 second.1 with h | h
      · simp [h]
      · simp [h]
  have hnodup : ((bucketsOf points).map Prod.fst).Nodup := by
    refine ((List.mergeSort_perm _ _).map Prod.fst).nodup_iff.mpr ?_
    rw [GroupBy.keys_groupBy]
    exact GroupBy.nodup_eraseDups _
  refine (hle.and (List.pairwise_map.mp hnodup)).imp ?_
  rintro earlier later ⟨h, hne⟩
  exact lt_of_le_of_ne h hne

theorem sum_bucketsOf (value : Bucket → Nat) (amount : IsotonicPoint → Nat)
    (hstart : ∀ point, value (Bucket.start point) = amount point)
    (hcount : ∀ bucket point, value (bucket.count point) = value bucket + amount point)
    (counts : ℚ → Bool) (points : List IsotonicPoint) :
    (((bucketsOf points).filter fun entry => counts entry.1).map fun entry =>
        value entry.2).sum =
      ((points.filter fun point => counts point.confidence).map amount).sum := by
  rw [← GroupBy.sum_groupBy_filter value amount counts hstart hcount points]
  exact (((List.mergeSort_perm _ _).filter _).map _).sum_eq

theorem sum_score :
    (points.map IsotonicPoint.score).sum = points.countP IsotonicPoint.correct := by
  induction points with
  | nil => rfl
  | cons point rest ih =>
    cases h : point.correct with
    | false => simp [IsotonicPoint.score, h, ih]
    | true => simp [IsotonicPoint.score, h, ih, Nat.add_comm]

variable (pool : List (ℚ × Bucket))

def Block.ofPool : Block :=
  { weight := (pool.map fun entry => entry.2.weight).sum
    sum := (pool.map fun entry => entry.2.sum).sum
    memberCount := pool.length }

theorem Block.ofPool_append (left right : List (ℚ × Bucket)) :
    Block.ofPool (left ++ right) =
      { weight := (Block.ofPool left).weight + (Block.ofPool right).weight
        sum := (Block.ofPool left).sum + (Block.ofPool right).sum
        memberCount := (Block.ofPool left).memberCount + (Block.ofPool right).memberCount } := by
  simp [Block.ofPool]

theorem weightOf_bucketMeasure :
    bucketMeasure.weightOf pool = ((pool.map fun entry => entry.2.weight).sum : Nat) := by
  rw [Nat.cast_list_sum, List.map_map]
  rfl

theorem totalOf_bucketMeasure :
    bucketMeasure.totalOf pool = ((pool.map fun entry => entry.2.sum).sum : Nat) := by
  rw [Nat.cast_list_sum, List.map_map]
  rfl

theorem Block.ofPool_calibrated :
    (Block.ofPool pool).calibrated = bucketMeasure.mean pool := by
  rw [Measure.mean, weightOf_bucketMeasure, totalOf_bucketMeasure]
  rfl

theorem poolBlock_ofPool (last : List (ℚ × Bucket)) (stack : List (List (ℚ × Bucket))) :
    poolBlock (.ofPool last) (stack.map .ofPool) =
      (poolInto bucketMeasure last stack).map .ofPool := by
  induction stack generalizing last with
  | nil => rfl
  | cons previous rest ih =>
    rw [List.map_cons, poolBlock, poolInto, Block.ofPool_calibrated,
      Block.ofPool_calibrated]
    by_cases h : bucketMeasure.mean previous ≤ bucketMeasure.mean last
    · rw [if_pos h, if_pos h]
      rfl
    · rw [if_neg h, if_neg h, ← ih, Block.ofPool_append]

theorem blockStack_eq (buckets : List (ℚ × Bucket)) :
    blockStack buckets = (poolStack bucketMeasure buckets).map .ofPool := by
  induction buckets using List.reverseRecOn with
  | nil => rfl
  | append_singleton buckets entry ih =>
    have hentry : Block.ofPool [entry] =
        { weight := entry.2.weight, sum := entry.2.sum, memberCount := 1 } := by
      simp [Block.ofPool]
    rw [poolStack, List.foldl_append, blockStack, List.foldl_append]
    change poolBlock _ (blockStack buckets) =
      (poolInto bucketMeasure [entry]
        (poolStack bucketMeasure buckets)).map .ofPool
    rw [ih, ← hentry, poolBlock_ofPool]

def stepOf (fitted : (ℚ × Bucket) × ℚ) : IsotonicStep :=
  { confidence := fitted.1.1, calibrated := fitted.2 }

theorem stepsOf_ofPool (groups : List (List (ℚ × Bucket))) :
    stepsOf (groups.map .ofPool) (groups.flatten.map Prod.fst) =
      (fitOf bucketMeasure groups).map stepOf := by
  induction groups with
  | nil => rfl
  | cons group rest ih =>
    have hlength : (Block.ofPool group).memberCount = (group.map Prod.fst).length := by
      simp [Block.ofPool]
    have hfit : fitOf bucketMeasure (group :: rest) =
        (group.map fun cell => (cell, bucketMeasure.mean group)) ++
          fitOf bucketMeasure rest := rfl
    rw [List.map_cons, stepsOf, List.flatten_cons, List.map_append, hlength,
      List.take_left, List.drop_left, ih, hfit, List.map_append, List.map_map,
      List.map_map, Block.ofPool_calibrated]
    rfl

theorem isotonicFit_eq :
    isotonicFit points = (fit bucketMeasure (bucketsOf points)).map stepOf := by
  have hflatten := pools_flatten bucketMeasure (bucketsOf points)
  rw [isotonicFit, blockStack_eq, ← List.map_reverse, fit, ← stepsOf_ofPool,
    hflatten]
  rfl

/-- The confidences of a fitted curve increase, and its accuracies do not decrease. -/
theorem isotonicFit_sorted :
    (isotonicFit points).Pairwise fun earlier later =>
      earlier.confidence < later.confidence ∧ earlier.calibrated ≤ later.calibrated := by
  have hconfidence : (fit bucketMeasure (bucketsOf points)).Pairwise
      fun earlier later => earlier.1.1 < later.1.1 := by
    have hbuckets := bucketsOf_sorted points
    rw [← map_fst_fit bucketMeasure (bucketsOf points)] at hbuckets
    rwa [List.pairwise_map] at hbuckets
  rw [isotonicFit_eq, List.pairwise_map]
  exact hconfidence.and (fit_sorted _)

section Cutoffs

variable {points : List IsotonicPoint}

theorem exists_point_of_mem {step : IsotonicStep} (h : step ∈ isotonicFit points) :
    ∃ point ∈ points, point.confidence = step.confidence := by
  rw [isotonicFit_eq] at h
  obtain ⟨fitted, hfitted, rfl⟩ := List.mem_map.mp h
  have hbucket : fitted.1 ∈ bucketsOf points := by
    rw [← map_fst_fit bucketMeasure (bucketsOf points)]
    exact List.mem_map_of_mem hfitted
  have hkeys : (GroupBy.groupBy IsotonicPoint.confidence Bucket.start Bucket.count points).map
      Prod.fst = (points.map IsotonicPoint.confidence).eraseDups := GroupBy.keys_groupBy points
  have hkey : fitted.1.1 ∈ points.map IsotonicPoint.confidence := by
    refine List.mem_eraseDups.mp ?_
    rw [← hkeys]
    exact List.mem_map_of_mem (List.mem_mergeSort.mp hbucket)
  exact List.mem_map.mp hkey

theorem target_le_of_cutoff {target threshold : ℚ}
    (h : cutoff (isotonicFit points) target = some threshold) :
    target * (points.countP fun point => threshold ≤ point.confidence) ≤
      (points.filter fun point => threshold ≤ point.confidence).countP
        IsotonicPoint.correct := by
  rw [isotonicFit_eq, cutoff, List.find?_map, Option.map_map] at h
  obtain ⟨found, hfound, rfl⟩ := Option.map_eq_some_iff.mp h
  have hsuffix := total_of_find (bucketsOf_sorted points) hfound
  rw [weightOf_bucketMeasure, totalOf_bucketMeasure] at hsuffix
  rw [sum_bucketsOf Bucket.weight (fun _ => 1) (fun _ => rfl) (fun _ _ => rfl)
      (fun confidence => found.1.1 ≤ confidence) points,
    sum_bucketsOf Bucket.sum IsotonicPoint.score (fun _ => rfl) (fun _ _ => rfl)
      (fun confidence => found.1.1 ≤ confidence) points,
    sum_score] at hsuffix
  have hones : ((points.filter fun point => found.1.1 ≤ point.confidence).map fun _ => 1).sum =
      points.countP fun point => found.1.1 ≤ point.confidence := by
    rw [List.countP_eq_length_filter]
    simp
  rw [hones] at hsuffix
  exact hsuffix

theorem cutoff_isLeast {target threshold : ℚ}
    (h : cutoff (isotonicFit points) target = some threshold) :
    IsLeast
      {confidence | ∃ step ∈ isotonicFit points,
        step.confidence = confidence ∧ target ≤ step.calibrated}
      threshold := by
  have hsorted := isotonicFit_sorted points
  obtain ⟨step, hstep, rfl⟩ := Option.map_eq_some_iff.mp h
  obtain ⟨htarget, before, after, heq, hbefore⟩ := List.find?_eq_some_iff_append.mp hstep
  rw [heq] at hsorted ⊢
  refine ⟨⟨step, by simp, rfl, of_decide_eq_true htarget⟩, ?_⟩
  rintro confidence ⟨other, hother, rfl, hreaches⟩
  rcases List.mem_append.mp hother with hearlier | hrest
  · have hfails := hbefore other hearlier
    simp [hreaches] at hfails
  · rcases List.mem_cons.mp hrest with rfl | hlater
    · exact le_rfl
    · exact ((List.pairwise_cons.mp (List.pairwise_append.mp hsorted).2.1).1 other hlater).1.le

theorem cutoff_eq_none_iff {curve : List IsotonicStep} {target : ℚ} :
    cutoff curve target = none ↔ ∀ step ∈ curve, step.calibrated < target := by
  simp [cutoff]

theorem cutoff_mono {low high threshold : ℚ} (hle : low ≤ high)
    (h : cutoff (isotonicFit points) high = some threshold) :
    ∃ lower, cutoff (isotonicFit points) low = some lower ∧ lower ≤ threshold := by
  obtain ⟨step, hstep, heq, hreaches⟩ := (cutoff_isLeast h).1
  cases hlow : cutoff (isotonicFit points) low with
  | none =>
    have hfails := cutoff_eq_none_iff.mp hlow step hstep
    exact absurd (hle.trans hreaches) (not_le.mpr hfails)
  | some lower =>
    exact ⟨lower, rfl, (cutoff_isLeast hlow).2 ⟨step, hstep, heq, hle.trans hreaches⟩⟩

end Cutoffs

def CalibrateInput.atOrAbove (input : CalibrateInput) (tier : Tier) (threshold : ℚ) :
    List ConfidenceObservation :=
  input.observations.filter fun observation =>
    observation.tier = tier ∧ threshold ≤ observation.confidence

def empiricalAccuracy (observations : List ConfidenceObservation) : ℚ :=
  observations.countP ConfidenceObservation.correct / observations.length

structure CutoffHolds
    (input : CalibrateInput)
    (tier : Tier)
    (curve : List IsotonicStep)
    (target : ℚ)
    (threshold : Option ℚ) : Prop where
  observed : ∀ confidence, threshold = some confidence →
    input.atOrAbove tier confidence ≠ []
  accurate : ∀ confidence, threshold = some confidence →
    target ≤ empiricalAccuracy (input.atOrAbove tier confidence)
  least : ∀ confidence, threshold = some confidence →
    IsLeast {value | ∃ step ∈ curve, step.confidence = value ∧ target ≤ step.calibrated}
      confidence
  missing : threshold = none ↔ ∀ step ∈ curve, step.calibrated < target

theorem pointsOf_atOrAbove (input : CalibrateInput) (tier : Tier) (threshold : ℚ) :
    (input.pointsOf tier).filter (fun point => threshold ≤ point.confidence) =
      (input.atOrAbove tier threshold).map fun observation =>
        { confidence := observation.confidence, correct := observation.correct } := by
  rw [CalibrateInput.pointsOf, CalibrateInput.atOrAbove, List.filter_map, List.filter_filter]
  congr 1
  refine List.filter_congr fun observation _ => ?_
  simp only [Function.comp_apply, Bool.decide_and]
  exact Bool.and_comm _ _

theorem cutoff_holds (input : CalibrateInput) (tier : Tier) (target : ℚ) :
    CutoffHolds input tier (input.curveOf tier) target
      (cutoff (input.curveOf tier) target) := by
  have hobserved : ∀ confidence, cutoff (input.curveOf tier) target = some confidence →
      input.atOrAbove tier confidence ≠ [] := by
    intro confidence h hempty
    obtain ⟨step, hstep, rfl, -⟩ := (cutoff_isLeast h).1
    obtain ⟨point, hpoint, heq⟩ := exists_point_of_mem hstep
    have hmem : point ∈ (input.pointsOf tier).filter fun other =>
        step.confidence ≤ other.confidence :=
      List.mem_filter.mpr ⟨hpoint, decide_eq_true heq.ge⟩
    rw [pointsOf_atOrAbove, hempty] at hmem
    cases hmem
  refine
    { observed := hobserved
      accurate := ?_
      least := fun confidence h => cutoff_isLeast h
      missing := cutoff_eq_none_iff }
  intro confidence h
  have hreach := target_le_of_cutoff h
  rw [List.countP_eq_length_filter, pointsOf_atOrAbove, List.length_map, List.countP_map] at hreach
  have hpos : (0 : ℚ) < (input.atOrAbove tier confidence).length := by
    exact_mod_cast List.length_pos_iff.mpr (hobserved confidence h)
  exact (le_div_iff₀ hpos).mpr hreach

/--
A calibrated run: each threshold of a tier is the least fitted confidence that
reaches its target, the observations from there on reach the target, too, and
the run is ready, with its thresholds, exactly when no tier misses one.
-/
theorem calibrate_keeps_its_targets (runDigest : CalibrateInput → String) (input : CalibrateInput)
    (run : CalibrationRunRecord) (h : calibrate runDigest input = .calibrated run) :
    (∀ tier,
      CutoffHolds input tier (run.reliability tier).isotonic (input.targets.auto tier)
        (input.thresholdsOf tier).autoMatchMinConfidence ∧
      CutoffHolds input tier (run.reliability tier).isotonic (input.targets.confirm tier)
        (input.thresholdsOf tier).confirmMinConfidence ∧
      (input.targets.confirm tier ≤ input.targets.auto tier →
        ∀ auto, (input.thresholdsOf tier).autoMatchMinConfidence = some auto →
          ∃ confirm, (input.thresholdsOf tier).confirmMinConfidence = some confirm ∧
            confirm ≤ auto)) ∧
      (run.status = .ready ↔
        ∀ tier, (input.thresholdsOf tier).autoMatchMinConfidence ≠ none ∧
          (input.thresholdsOf tier).confirmMinConfidence ≠ none) ∧
      run.thresholds =
        if run.status = .ready then
          some
            { targets := input.targets
              tiers := input.thresholdsOf
              fieldTier := fieldTier }
        else
          none := by
  rw [calibrate] at h
  split at h
  · cases h
  · cases h
    refine ⟨fun tier => ⟨cutoff_holds input tier _, cutoff_holds input tier _, ?_⟩, ?_, ?_⟩
    · intro hle auto hauto
      exact cutoff_mono hle hauto
    · have hall : (tiers.all fun tier => !(input.thresholdsOf tier).isMissing) = true ↔
          ∀ tier, (input.thresholdsOf tier).autoMatchMinConfidence ≠ none ∧
            (input.thresholdsOf tier).confirmMinConfidence ≠ none := by
        simp [TierThreshold.isMissing, mem_tiers, Option.isSome_iff_ne_none]
      rw [← hall]
      split <;> simp_all
    · dsimp only
      split <;> simp

/-- Three observations a tier; the last two violate the order and are pooled. -/
def threeEach : CalibrateInput :=
  { run :=
      { id := "run"
        goldenSetVersion := "g1"
        schemaVersion := "s1"
        promptVersion := "p1"
        modelVersion := "m1" }
    observations :=
      tiers.flatMap fun tier =>
        [{ sampleId := "a", field := .symbol, tier := tier, confidence := 1 / 2, correct := false },
          { sampleId := "b", field := .symbol, tier := tier, confidence := 3 / 5, correct := true },
          { sampleId := "c", field := .symbol, tier := tier, confidence := 4 / 5,
            correct := false }]
    minSamples := 2
    minTierObservations := 3
    targets := { auto := fun _ => 1 / 2, confirm := fun _ => 1 / 3 } }

theorem threeEach_curveOf (tier : Tier) :
    threeEach.curveOf tier =
      [{ confidence := 1 / 2, calibrated := 0 },
        { confidence := 3 / 5, calibrated := 1 / 2 },
        { confidence := 4 / 5, calibrated := 1 / 2 }] := by
  have hsorted : bucketsOf (threeEach.pointsOf tier) =
      GroupBy.groupBy IsotonicPoint.confidence Bucket.start Bucket.count
        (threeEach.pointsOf tier) := by
    refine List.mergeSort_of_pairwise ?_
    cases tier <;> decide +kernel
  rw [CalibrateInput.curveOf, isotonicFit, hsorted]
  cases tier <;> decide +kernel

/-- The pooled confidences start where both targets are reached. -/
theorem threeEach_thresholdsOf (tier : Tier) :
    threeEach.thresholdsOf tier =
      { autoMatchMinConfidence := some (3 / 5), confirmMinConfidence := some (3 / 5) } := by
  rw [CalibrateInput.thresholdsOf, threeEach_curveOf]
  cases tier <;> decide +kernel

/-- The three observations are calibrated, and what is promised of the run holds of it. -/
theorem calibrate_keeps_its_targets_threeEach :
    ∃ run, calibrate (fun _ => "0") threeEach = .calibrated run ∧
      run.status = .ready ∧
      (threeEach.thresholdsOf .p0).autoMatchMinConfidence = some (3 / 5) ∧
      ∀ tier,
        CutoffHolds threeEach tier (run.reliability tier).isotonic (1 / 2)
          (threeEach.thresholdsOf tier).autoMatchMinConfidence := by
  have hreasons : ¬threeEach.reasons ≠ [] := by decide +kernel
  refine ⟨_, if_neg hreasons, ?_, ?_, fun tier => ?_⟩
  · simp [threeEach_thresholdsOf, TierThreshold.isMissing]
  · rw [threeEach_thresholdsOf]
  · exact ((calibrate_keeps_its_targets (fun _ => "0") threeEach _ (if_neg hreasons)).1 tier).1

end Aiphabee.ChartEval
