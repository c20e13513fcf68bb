import Mathlib.Tactic.Positivity
import Aiphabee.MarketData.TechnicalIndicators
import Aiphabee.Text.Checks

/-!
# The indicators of rendered charts

The indicators that a chart draws are computed by loops over the places of a
series: a window sum that adds one value and drops one, averages that are seeded
by the mean of their first values, and a signal line that is computed apart and
put back behind the places where the line has no value.

Each loop is shown to give a row that is defined place by place, with no value
exactly before its first place.
-/

namespace Aiphabee.ChartGoldenSet

open MarketData (valueAt windowAt)
open scoped DecimalRounding

/-- `sma period must be >= 1, got ...`, and so for the other indicators. -/
structure PeriodBelowOne where
  indicator : String
  period : Nat

def checkPeriod (indicator : String) (period : Nat) : Except PeriodBelowOne Unit :=
  Checks.ensure (1 ≤ period) ⟨indicator, period⟩

section Loops

variable {K : Type} [Field K]

structure SmaState (K : Type) where
  windowSum : K
  result : List (Option K)

variable (values : List K)
variable (period : Nat)

def smaStep (state : SmaState K) (i : Nat) : SmaState K :=
  let added := state.windowSum + valueAt values i
  let windowSum := if period ≤ i then added - valueAt values (i - period) else added
  { windowSum := windowSum
    result := state.result ++ [if period - 1 ≤ i then some (windowSum / period) else none] }

def sma : Except PeriodBelowOne (List (Option K)) := do
  checkPeriod "sma" period
  pure ((List.range values.length).foldl (smaStep values period) ⟨0, []⟩).result

structure EmaState (K : Type) where
  previous : Option K
  result : List (Option K)

def emaStep (state : EmaState K) (i : Nat) : EmaState K :=
  let smoothing : K := 2 / (period + 1)
  match state.previous with
  | none =>
    if i = period - 1 then
      let seed : K := (values.take period).foldl (fun sum v => sum + v) 0 / period
      { previous := some seed, result := state.result ++ [some seed] }
    else
      { previous := none, result := state.result ++ [none] }
  | some previous =>
    let next := valueAt values i * smoothing + previous * (1 - smoothing)
    { previous := some next, result := state.result ++ [some next] }

def ema : Except PeriodBelowOne (List (Option K)) := do
  checkPeriod "ema" period
  pure ((List.range values.length).foldl (emaStep values period) ⟨none, []⟩).result

section Strength

variable [LinearOrder K]

def toRsiValue (gainAvg lossAvg : K) : K :=
  if lossAvg = 0 then
    if gainAvg = 0 then 50 else 100
  else
    100 - 100 / (1 + gainAvg / lossAvg)

variable (closes : List K)

/-- `Math.max(0, change)` at a place, and `Math.max(0, -change)`. -/
def gainAt (i : Nat) : K :=
  max 0 (valueAt closes i - valueAt closes (i - 1))

def lossAt (i : Nat) : K :=
  max 0 (-(valueAt closes i - valueAt closes (i - 1)))

structure RsiState (K : Type) where
  gainAvg : K
  lossAvg : K
  result : List (Option K)

def rsiSums (period : Nat) : K × K :=
  (List.range' 1 period).foldl
    (fun sums i => (sums.1 + gainAt closes i, sums.2 + lossAt closes i)) (0, 0)

def rsiStep (period : Nat) (state : RsiState K) (i : Nat) : RsiState K :=
  let gainAvg := (state.gainAvg * (period - 1) + gainAt closes i) / period
  let lossAvg := (state.lossAvg * (period - 1) + lossAt closes i) / period
  { gainAvg := gainAvg
    lossAvg := lossAvg
    result := state.result.set i (some (toRsiValue gainAvg lossAvg)) }

def rsi (period : Nat) : Except PeriodBelowOne (List (Option K)) := do
  checkPeriod "rsi" period
  let result := List.replicate closes.length none
  if closes.length ≤ period then
    pure result
  else
    let gainAvg := (rsiSums closes period).1 / period
    let lossAvg := (rsiSums closes period).2 / period
    let state : RsiState K :=
      { gainAvg := gainAvg
        lossAvg := lossAvg
        result := result.set period (some (toRsiValue gainAvg lossAvg)) }
    pure ((List.range' (period + 1) (closes.length - (period + 1))).foldl
      (rsiStep closes period) state).result

end Strength

structure MacdSeries (K : Type) where
  macd : List (Option K)
  signal : List (Option K)
  histogram : List (Option K)

def differenceAt (first second : List (Option K)) (i : Nat) : Option K :=
  match first[i]?, second[i]? with
  | some (some f), some (some s) => some (f - s)
  | _, _ => none

/-- `signalLine[firstIndex + i] = compactSignal[i] ?? null` for each place of the signal. -/
def placeSignal (firstIndex : Nat) (compactSignal signalLine : List (Option K)) :
    List (Option K) :=
  (List.range compactSignal.length).foldl
    (fun line i => line.set (firstIndex + i) (compactSignal[i]?.getD none)) signalLine

def macd (closes : List K) (fastPeriod slowPeriod signalPeriod : Nat) :
    Except PeriodBelowOne (MacdSeries K) := do
  let fast ← ema closes fastPeriod
  let slow ← ema closes slowPeriod
  let macdLine := closes.mapIdx fun i _ => differenceAt fast slow i
  let emptyLine := List.replicate closes.length none
  let signalLine ←
    match macdLine.findIdx? Option.isSome with
    | none => pure emptyLine
    | some firstIndex => do
        -- a `null` behind the first value would count as zero
        let compact := (macdLine.drop firstIndex).map (·.getD 0)
        let compactSignal ← ema compact signalPeriod
        pure (placeSignal firstIndex compactSignal emptyLine)
  let histogram := macdLine.mapIdx fun i _ => differenceAt macdLine signalLine i
  pure { macd := macdLine, signal := signalLine, histogram := histogram }

end Loops

section Definitions

def rowFrom {α : Type} (first length : Nat) (value : Nat → α) : List (Option α) :=
  (List.range length).map fun i => if i < first then none else some (value i)

theorem rowFrom_succ {α : Type} (first length : Nat) (value : Nat → α) :
    rowFrom first (length + 1) value =
      rowFrom first length value ++ [if length < first then none else some (value length)] := by
  rw [rowFrom, List.range_succ, List.map_append]
  rfl

variable {K : Type} [Field K]

def movingMean (values : List K) (period i : Nat) : K :=
  (windowAt values i period).sum / period

/-- The exponential average that starts with the mean of the first values. -/
def seededAverage (values : List K) (period : Nat) : Nat → K
  | 0 => (values.take period).sum / period
  | count + 1 =>
    valueAt values (period + count) * (2 / (period + 1)) +
      seededAverage values period count * (1 - 2 / (period + 1))

/-- Wilder's average of the moves: the mean of the first ones, and one part of each later one. -/
def wilderAverage (moves : Nat → K) (period : Nat) : Nat → K
  | 0 => ((List.range' 1 period).map moves).sum / period
  | count + 1 =>
    (wilderAverage moves period count * (period - 1) + moves (period + 1 + count)) / period

def lineStart (fastPeriod slowPeriod : Nat) : Nat :=
  max fastPeriod slowPeriod - 1

def lineValue (closes : List K) (fastPeriod slowPeriod i : Nat) : K :=
  seededAverage closes fastPeriod (i - (fastPeriod - 1)) -
    seededAverage closes slowPeriod (i - (slowPeriod - 1))

def lineValues (closes : List K) (fastPeriod slowPeriod : Nat) : List K :=
  (List.range (closes.length - lineStart fastPeriod slowPeriod)).map fun i =>
    lineValue closes fastPeriod slowPeriod (lineStart fastPeriod slowPeriod + i)

def signalStart (fastPeriod slowPeriod signalPeriod : Nat) : Nat :=
  max fastPeriod slowPeriod + signalPeriod - 2

def signalValue (closes : List K) (fastPeriod slowPeriod signalPeriod i : Nat) : K :=
  seededAverage (lineValues closes fastPeriod slowPeriod) signalPeriod
    (i - signalStart fastPeriod slowPeriod signalPeriod)

def macdRows (closes : List K) (fastPeriod slowPeriod signalPeriod : Nat) : MacdSeries K :=
  let first := signalStart fastPeriod slowPeriod signalPeriod
  let line := lineValue closes fastPeriod slowPeriod
  let signal := signalValue closes fastPeriod slowPeriod signalPeriod
  { macd := rowFrom (lineStart fastPeriod slowPeriod) closes.length line
    signal := rowFrom first closes.length signal
    histogram := rowFrom first closes.length fun i => line i - signal i }

variable [LinearOrder K]

/-- The share of the gains in all moves, of 100; the middle where nothing moved. -/
def relativeStrength (gains losses : K) : K :=
  if gains + losses = 0 then 50 else 100 * gains / (gains + losses)

def wilderStrength (closes : List K) (period i : Nat) : K :=
  relativeStrength (wilderAverage (gainAt closes) period (i - period))
    (wilderAverage (lossAt closes) period (i - period))

end Definitions

section Sums

variable {K : Type} [Field K] (values : List K) (period : Nat)

theorem take_succ_eq {count : Nat} (h : count < values.length) :
    values.take (count + 1) = values.take count ++ [valueAt values count] := by
  rw [List.take_succ_eq_append_getElem h, valueAt, List.getElem?_eq_getElem h, Option.getD_some]

/-- One value more: the window takes it in and leaves its first one, once it is full. -/
theorem windowSum_succ (hperiod : 1 ≤ period) {count : Nat} (h : count < values.length) :
    ((values.take (count + 1)).drop (count + 1 - period)).sum =
      if period ≤ count then
        ((values.take count).drop (count - period)).sum + valueAt values count -
          valueAt values (count - period)
      else
        ((values.take count).drop (count - period)).sum + valueAt values count := by
  have htake := take_succ_eq values h
  by_cases hfull : period ≤ count
  · have hplace : count - period < values.length := by omega
    have hlength : count - period < (values.take count).length := by
      rw [List.length_take]
      omega
    have hwindow : (values.take count).drop (count - period) =
        valueAt values (count - period) :: (values.take count).drop (count + 1 - period) := by
      rw [List.drop_eq_getElem_cons hlength, List.getElem_take, valueAt,
        List.getElem?_eq_getElem hplace, Option.getD_some,
        show count + 1 - period = count - period + 1 by omega]
    rw [if_pos hfull, hwindow, htake,
      List.drop_append_of_le_length (by rw [List.length_take]; omega),
      List.sum_append, List.sum_cons, List.sum_cons, List.sum_nil]
    ring
  · rw [if_neg hfull, show count + 1 - period = 0 by omega, show count - period = 0 by omega, htake,
      List.drop_zero, List.drop_zero, List.sum_append, List.sum_cons, List.sum_nil, add_zero]

/-- The state of the loop after some places. -/
theorem foldl_smaStep (hperiod : 1 ≤ period) {count : Nat} (h : count ≤ values.length) :
    (List.range count).foldl (smaStep values period) ⟨0, []⟩ =
      ⟨((values.take count).drop (count - period)).sum,
        rowFrom (period - 1) count (movingMean values period)⟩ := by
  induction count with
  | zero => simp [rowFrom]
  | succ count ih =>
    have hsum := windowSum_succ values period hperiod h
    rw [List.range_succ, List.foldl_append, ih (Nat.le_of_succ_le h), List.foldl_cons,
      List.foldl_nil, smaStep, rowFrom_succ]
    simp only [← hsum, movingMean, windowAt]
    by_cases hwarm : period - 1 ≤ count
    · rw [if_pos hwarm, if_neg (Nat.not_lt.mpr hwarm)]
    · rw [if_neg hwarm, if_pos (Nat.lt_of_not_le hwarm)]

theorem sma_eq (hperiod : 1 ≤ period) :
    sma values period = .ok (rowFrom (period - 1) values.length (movingMean values period)) := by
  rw [sma, checkPeriod, Checks.ensure_of _ hperiod, foldl_smaStep values period hperiod le_rfl]
  rfl

theorem foldl_emaStep (hperiod : 1 ≤ period) (count : Nat) :
    (List.range count).foldl (emaStep values period) ⟨none, []⟩ =
      ⟨if count < period then none else some (seededAverage values period (count - period)),
        rowFrom (period - 1) count fun i => seededAverage values period (i - (period - 1))⟩ := by
  induction count with
  | zero => simp [rowFrom, Nat.pos_of_ne_zero (Nat.one_le_iff_ne_zero.mp hperiod)]
  | succ count ih =>
    rw [List.range_succ, List.foldl_append, ih, List.foldl_cons, List.foldl_nil, rowFrom_succ]
    rcases Nat.lt_trichotomy (count + 1) period with hbefore | hseed | hbehind
    · rw [if_pos (Nat.lt_of_succ_lt hbefore), if_pos hbefore, if_pos (by omega)]
      simp only [emaStep]
      rw [if_neg (by omega)]
    · subst hseed
      rw [if_pos (Nat.lt_succ_self count), if_neg (Nat.lt_irrefl _), if_neg (by omega)]
      simp [emaStep, seededAverage, List.sum_eq_foldl]
    · obtain ⟨more, rfl⟩ : ∃ more, count = period + more := ⟨count - period, by omega⟩
      rw [if_neg (by omega), if_neg (by omega), if_neg (by omega),
        show period + more - period = more by omega,
        show period + more + 1 - period = more + 1 by omega,
        show period + more - (period - 1) = more + 1 by omega]
      rfl

theorem ema_eq (hperiod : 1 ≤ period) :
    ema values period = .ok (rowFrom (period - 1) values.length fun i =>
      seededAverage values period (i - (period - 1))) := by
  rw [ema, checkPeriod, Checks.ensure_of _ hperiod, foldl_emaStep values period hperiod]
  rfl

end Sums

section Rows

variable {α : Type}

theorem rowFrom_getElem? (first length i : Nat) (value : Nat → α) :
    (rowFrom first length value)[i]? =
      if i < length then some (if i < first then none else some (value i)) else none := by
  by_cases hi : i < length
  · simp [rowFrom, hi]
  · simp [rowFrom, hi]

theorem length_rowFrom (first length : Nat) (value : Nat → α) :
    (rowFrom first length value).length = length := by
  simp [rowFrom]

variable {first length : Nat}

theorem rowFrom_of_le (h : length ≤ first) (value : Nat → α) :
    rowFrom first length value = List.replicate length none := by
  refine List.eq_replicate_iff.mpr ⟨length_rowFrom first length value, fun entry hentry => ?_⟩
  obtain ⟨i, hi, rfl⟩ := List.mem_map.mp hentry
  exact if_pos (Nat.lt_of_lt_of_le (List.mem_range.mp hi) h)

theorem rowFrom_add (shift first length : Nat) (value : Nat → α) :
    rowFrom (shift + first) (shift + length) value =
      List.replicate shift none ++ rowFrom first length fun i => value (shift + i) := by
  have hbefore := rowFrom_of_le (Nat.le_add_right shift first) value
  rw [rowFrom, List.range_add, List.map_append, List.map_map]
  refine congrArg₂ (· ++ ·) hbefore (List.map_congr_left fun i _ => ?_)
  simp

theorem mapIdx_eq_map_range {β : Type} (entries : List β) (value : Nat → α) :
    (entries.mapIdx fun i _ => value i) = (List.range entries.length).map value := by
  refine List.ext_getElem? fun i => ?_
  by_cases hi : i < entries.length
  · simp [hi]
  · simp [hi]

theorem set_replicate (entries : List (Option α)) (rest : Nat) (entry : Option α) :
    (entries ++ List.replicate (rest + 1) none).set entries.length entry =
      entries ++ [entry] ++ List.replicate rest none := by
  rw [List.set_append_right _ _ le_rfl, Nat.sub_self, List.replicate_succ, List.set_cons_zero,
    List.append_assoc, List.singleton_append]

/-- A row is filled up to a place by the entry of the place. -/
theorem set_rowFrom {first i length : Nat} (hfirst : first ≤ i) (hlength : i < length)
    (value : Nat → α) :
    (rowFrom first i value ++ List.replicate (length - i) none).set i (some (value i)) =
      rowFrom first (i + 1) value ++ List.replicate (length - (i + 1)) none := by
  have hset := set_replicate (rowFrom first i value) (length - (i + 1)) (some (value i))
  rw [length_rowFrom, show length - (i + 1) + 1 = length - i by omega] at hset
  rw [hset, rowFrom_succ, if_neg (Nat.not_lt.mpr hfirst)]

theorem findIdx?_rowFrom (h : first < length) (value : Nat → α) :
    (rowFrom first length value).findIdx? Option.isSome = some first := by
  rw [List.findIdx?_eq_some_iff_getElem]
  refine ⟨by rwa [length_rowFrom], ?_, fun i hi => ?_⟩
  · simp [rowFrom]
  · simp [rowFrom, hi]

theorem findIdx?_rowFrom_of_le (h : length ≤ first) (value : Nat → α) :
    (rowFrom first length value).findIdx? Option.isSome = none := by
  rw [rowFrom_of_le h, List.findIdx?_eq_none_iff]
  intro entry hentry
  rw [List.eq_of_mem_replicate hentry]
  rfl

/-- The loop puts a signal behind the places that are left out. -/
theorem foldl_placeSignal (firstIndex : Nat) (compactSignal : List (Option α)) (count : Nat)
    (h : count ≤ compactSignal.length) :
    (List.range count).foldl
        (fun line i => line.set (firstIndex + i) (compactSignal[i]?.getD none))
        (List.replicate (firstIndex + compactSignal.length) none) =
      List.replicate firstIndex none ++ compactSignal.take count ++
        List.replicate (compactSignal.length - count) none := by
  induction count with
  | zero => simp [List.replicate_append_replicate]
  | succ count ih =>
    have hset := set_replicate (List.replicate firstIndex none ++ compactSignal.take count)
      (compactSignal.length - (count + 1)) (compactSignal[count]?.getD none)
    rw [List.length_append, List.length_replicate, List.length_take_of_le (Nat.le_of_succ_le h),
      show compactSignal.length - (count + 1) + 1 = compactSignal.length - count by omega] at hset
    rw [List.range_succ, List.foldl_append, ih (Nat.le_of_succ_le h), List.foldl_cons,
      List.foldl_nil, hset, List.take_succ_eq_append_getElem h, List.getElem?_eq_getElem h,
      Option.getD_some, List.append_assoc (List.replicate firstIndex none)]

theorem placeSignal_eq (firstIndex : Nat) (compactSignal : List (Option α)) :
    placeSignal firstIndex compactSignal
        (List.replicate (firstIndex + compactSignal.length) none) =
      List.replicate firstIndex none ++ compactSignal := by
  rw [placeSignal, foldl_placeSignal firstIndex compactSignal _ le_rfl]
  simp

end Rows

section Wilder

variable {K : Type} [Field K] [LinearOrder K]

theorem gainAt_nonneg (closes : List K) (i : Nat) : 0 ≤ gainAt closes i :=
  le_max_left _ _

theorem lossAt_nonneg (closes : List K) (i : Nat) : 0 ≤ lossAt closes i :=
  le_max_left _ _

theorem rsiSums_eq (closes : List K) (period : Nat) :
    rsiSums closes period =
      (((List.range' 1 period).map (gainAt closes)).sum,
        ((List.range' 1 period).map (lossAt closes)).sum) := by
  have hfold : ∀ (places : List Nat) (sums : K × K),
      places.foldl (fun sums i => (sums.1 + gainAt closes i, sums.2 + lossAt closes i)) sums =
        (sums.1 + (places.map (gainAt closes)).sum, sums.2 + (places.map (lossAt closes)).sum) := by
    intro places
    induction places with
    | nil => simp
    | cons i rest ih =>
      intro sums
      simp [ih, add_assoc]
  rw [rsiSums, hfold]
  simp

variable [IsStrictOrderedRing K]

variable {period : Nat}

theorem wilderAverage_nonneg {moves : Nat → K} (hmoves : ∀ i, 0 ≤ moves i) (hperiod : 1 ≤ period)
    (count : Nat) : 0 ≤ wilderAverage moves period count := by
  have hone : (0 : K) ≤ period - 1 := sub_nonneg.mpr (by exact_mod_cast hperiod)
  induction count with
  | zero =>
    refine div_nonneg (List.sum_nonneg fun move hmove => ?_) (Nat.cast_nonneg period)
    obtain ⟨i, -, rfl⟩ := List.mem_map.mp hmove
    exact hmoves i
  | succ count ih =>
    exact div_nonneg (add_nonneg (mul_nonneg ih hone) (hmoves _)) (Nat.cast_nonneg period)

theorem toRsiValue_eq {gains losses : K} (hgains : 0 ≤ gains) (hlosses : 0 ≤ losses) :
    toRsiValue gains losses = relativeStrength gains losses := by
  rw [toRsiValue, relativeStrength]
  rcases hlosses.eq_or_lt with rfl | hlosses
  · rw [if_pos rfl, add_zero]
    by_cases hzero : gains = 0
    · rw [if_pos hzero, if_pos hzero]
    · rw [if_neg hzero, if_neg hzero, mul_div_cancel_right₀ _ hzero]
  · have hsum : 0 < gains + losses := add_pos_of_nonneg_of_pos hgains hlosses
    rw [if_neg hlosses.ne', if_neg hsum.ne']
    have hratio : 1 + gains / losses = (gains + losses) / losses := by
      field_simp
      ring
    rw [hratio]
    field_simp
    ring

theorem relativeStrength_bounds {gains losses : K} (hgains : 0 ≤ gains) (hlosses : 0 ≤ losses) :
    0 ≤ relativeStrength gains losses ∧ relativeStrength gains losses ≤ 100 := by
  rw [relativeStrength]
  by_cases hzero : gains + losses = 0
  · rw [if_pos hzero]
    constructor <;> norm_num
  · have hsum : 0 < gains + losses := (add_nonneg hgains hlosses).lt_of_ne (Ne.symm hzero)
    rw [if_neg hzero]
    refine ⟨by positivity, ?_⟩
    rw [div_le_iff₀ hsum]
    linarith

theorem wilderStrength_bounds (closes : List K) (hperiod : 1 ≤ period) (i : Nat) :
    0 ≤ wilderStrength closes period i ∧ wilderStrength closes period i ≤ 100 :=
  relativeStrength_bounds (wilderAverage_nonneg (gainAt_nonneg closes) hperiod _)
    (wilderAverage_nonneg (lossAt_nonneg closes) hperiod _)

/-- The state of the second loop after some places. -/
theorem foldl_rsiStep (closes : List K) (hperiod : 1 ≤ period) (count : Nat)
    (h : period + 1 + count ≤ closes.length) :
    (List.range' (period + 1) count).foldl (rsiStep closes period)
        { gainAvg := (rsiSums closes period).1 / period
          lossAvg := (rsiSums closes period).2 / period
          result := (List.replicate closes.length none).set period
            (some (toRsiValue ((rsiSums closes period).1 / (period : K))
              ((rsiSums closes period).2 / period))) } =
      { gainAvg := wilderAverage (gainAt closes) period count
        lossAvg := wilderAverage (lossAt closes) period count
        result := rowFrom period (period + 1 + count) (wilderStrength closes period) ++
          List.replicate (closes.length - (period + 1 + count)) none } := by
  have hgains := wilderAverage_nonneg (gainAt_nonneg closes) hperiod
  have hlosses := wilderAverage_nonneg (lossAt_nonneg closes) hperiod
  induction count with
  | zero =>
    have hstart := set_rowFrom (le_refl period) (show period < closes.length by omega)
      (wilderStrength closes period)
    have hvalue : wilderStrength closes period period =
        toRsiValue (wilderAverage (gainAt closes) period 0)
          (wilderAverage (lossAt closes) period 0) := by
      rw [toRsiValue_eq (hgains 0) (hlosses 0), wilderStrength, Nat.sub_self]
    rw [rowFrom_of_le le_rfl, List.replicate_append_replicate,
      show period + (closes.length - period) = closes.length by omega, hvalue] at hstart
    rw [rsiSums_eq, List.range'_zero, List.foldl_nil, add_zero, ← hstart]
    rfl
  | succ count ih =>
    have hset := set_rowFrom (show period ≤ period + 1 + count by omega)
      (show period + 1 + count < closes.length by omega) (wilderStrength closes period)
    have hvalue : wilderStrength closes period (period + 1 + count) =
        toRsiValue (wilderAverage (gainAt closes) period (count + 1))
          (wilderAverage (lossAt closes) period (count + 1)) := by
      rw [toRsiValue_eq (hgains _) (hlosses _), wilderStrength,
        show period + 1 + count - period = count + 1 by omega]
    rw [hvalue] at hset
    rw [List.range'_concat, List.foldl_append, ih (by omega), List.foldl_cons, List.foldl_nil,
      one_mul, show period + 1 + (count + 1) = period + 1 + count + 1 by omega, ← hset]
    rfl

theorem rsi_eq (closes : List K) (hperiod : 1 ≤ period) :
    rsi closes period =
      .ok (rowFrom period closes.length (wilderStrength closes period)) := by
  rw [rsi, checkPeriod, Checks.ensure_of _ hperiod]
  by_cases hshort : closes.length ≤ period
  · rw [rowFrom_of_le hshort]
    simp only [hshort, if_true]
    rfl
  · have hrun := foldl_rsiStep closes hperiod (closes.length - (period + 1)) (by omega)
    rw [show period + 1 + (closes.length - (period + 1)) = closes.length by omega, Nat.sub_self,
      List.replicate_zero, List.append_nil] at hrun
    simp only [hshort, if_false]
    change Except.ok (RsiState.result _) = _
    rw [hrun]

end Wilder

section Macd

variable {K : Type} [Field K]

theorem differenceAt_rowFrom (first second length i : Nat) (fast slow : Nat → K) (hi : i < length) :
    differenceAt (rowFrom first length fast) (rowFrom second length slow) i =
      if i < max first second then none else some (fast i - slow i) := by
  rw [differenceAt, rowFrom_getElem?, rowFrom_getElem?, if_pos hi, if_pos hi]
  by_cases hfirst : i < first
  · rw [if_pos hfirst, if_pos (lt_max_of_lt_left hfirst)]
  · by_cases hsecond : i < second
    · rw [if_neg hfirst, if_pos hsecond, if_pos (lt_max_of_lt_right hsecond)]
    · rw [if_neg hfirst, if_neg hsecond,
        if_neg (not_lt.mpr (max_le (not_lt.mp hfirst) (not_lt.mp hsecond)))]

/-- The difference of two rows has its values where both have theirs. -/
theorem mapIdx_differenceAt {α : Type} (entries : List α) (first second : Nat)
    (fast slow : Nat → K) :
    (entries.mapIdx fun i _ => differenceAt (rowFrom first entries.length fast)
        (rowFrom second entries.length slow) i) =
      rowFrom (max first second) entries.length fun i => fast i - slow i := by
  rw [mapIdx_eq_map_range]
  exact List.map_congr_left fun i hi =>
    differenceAt_rowFrom first second entries.length i fast slow (List.mem_range.mp hi)

theorem drop_rowFrom {first length : Nat} (h : first ≤ length) (value : Nat → K) :
    ((rowFrom first length value).drop first).map (·.getD 0) =
      (List.range (length - first)).map fun i => value (first + i) := by
  obtain ⟨rest, rfl⟩ := Nat.exists_eq_add_of_le h
  have hshift := rowFrom_add first 0 rest value
  rw [Nat.add_zero] at hshift
  rw [hshift, List.drop_left' (List.length_replicate ..), Nat.add_sub_cancel_left, rowFrom,
    List.map_map]
  exact List.map_congr_left fun i _ => rfl

theorem macdLine_eq (closes : List K) (fastPeriod slowPeriod : Nat) :
    (closes.mapIdx fun i _ => differenceAt
        (rowFrom (fastPeriod - 1) closes.length fun i =>
          seededAverage closes fastPeriod (i - (fastPeriod - 1)))
        (rowFrom (slowPeriod - 1) closes.length fun i =>
          seededAverage closes slowPeriod (i - (slowPeriod - 1))) i) =
      rowFrom (lineStart fastPeriod slowPeriod) closes.length
        (lineValue closes fastPeriod slowPeriod) := by
  rw [mapIdx_differenceAt, lineStart, Nat.sub_max_sub_right]
  rfl

/-- The signal line: the average of the line's values, put back behind the places without one. -/
theorem signalLine_eq (closes : List K) {fastPeriod slowPeriod signalPeriod : Nat}
    (hfast : 1 ≤ fastPeriod) (hsignal : 1 ≤ signalPeriod)
    (h : lineStart fastPeriod slowPeriod < closes.length) :
    placeSignal (lineStart fastPeriod slowPeriod)
        (rowFrom (signalPeriod - 1) (lineValues closes fastPeriod slowPeriod).length fun i =>
          seededAverage (lineValues closes fastPeriod slowPeriod) signalPeriod
            (i - (signalPeriod - 1)))
        (List.replicate closes.length none) =
      rowFrom (signalStart fastPeriod slowPeriod signalPeriod) closes.length
        (signalValue closes fastPeriod slowPeriod signalPeriod) := by
  have hstart : signalStart fastPeriod slowPeriod signalPeriod =
      lineStart fastPeriod slowPeriod + (signalPeriod - 1) := by
    have hmax := le_max_left fastPeriod slowPeriod
    rw [signalStart, lineStart]
    omega
  have hlength : closes.length = lineStart fastPeriod slowPeriod +
      (lineValues closes fastPeriod slowPeriod).length := by
    rw [lineValues, List.length_map, List.length_range]
    omega
  have hplace := placeSignal_eq (lineStart fastPeriod slowPeriod)
    (rowFrom (signalPeriod - 1) (lineValues closes fastPeriod slowPeriod).length fun i =>
      seededAverage (lineValues closes fastPeriod slowPeriod) signalPeriod
        (i - (signalPeriod - 1)))
  rw [length_rowFrom, ← hlength] at hplace
  rw [hplace, hlength, hstart, rowFrom_add]
  refine congrArg (_ ++ rowFrom _ _ ·) (funext fun i => ?_)
  rw [signalValue, hstart, Nat.add_sub_add_left]

theorem macd_eq (closes : List K) {fastPeriod slowPeriod signalPeriod : Nat}
    (hfast : 1 ≤ fastPeriod) (hslow : 1 ≤ slowPeriod) (hsignal : 1 ≤ signalPeriod) :
    macd closes fastPeriod slowPeriod signalPeriod =
      .ok (macdRows closes fastPeriod slowPeriod signalPeriod) := by
  have hlater : lineStart fastPeriod slowPeriod ≤
      signalStart fastPeriod slowPeriod signalPeriod := by
    have hmax := le_max_left fastPeriod slowPeriod
    rw [signalStart, lineStart]
    omega
  have hhistogram := mapIdx_differenceAt
    (rowFrom (lineStart fastPeriod slowPeriod) closes.length
      (lineValue closes fastPeriod slowPeriod))
    (lineStart fastPeriod slowPeriod) (signalStart fastPeriod slowPeriod signalPeriod)
    (lineValue closes fastPeriod slowPeriod)
    (signalValue closes fastPeriod slowPeriod signalPeriod)
  rw [length_rowFrom, max_eq_right hlater] at hhistogram
  rw [macd, ema_eq closes fastPeriod hfast, ema_eq closes slowPeriod hslow, macdRows]
  simp only [bind, Except.bind, pure, Except.pure]
  rw [macdLine_eq]
  by_cases hline : lineStart fastPeriod slowPeriod < closes.length
  · have hvalues : ((rowFrom (lineStart fastPeriod slowPeriod) closes.length
          (lineValue closes fastPeriod slowPeriod)).drop
            (lineStart fastPeriod slowPeriod)).map (·.getD 0) =
        lineValues closes fastPeriod slowPeriod :=
      drop_rowFrom (Nat.le_of_lt hline) _
    rw [findIdx?_rowFrom hline]
    dsimp only
    rw [hvalues, ema_eq _ signalPeriod hsignal]
    dsimp only
    rw [signalLine_eq closes hfast hsignal hline, hhistogram]
  · have hshort := Nat.le_of_not_lt hline
    rw [findIdx?_rowFrom_of_le hshort]
    dsimp only
    rw [← rowFrom_of_le (hshort.trans hlater)
      (signalValue closes fastPeriod slowPeriod signalPeriod), hhistogram]

end Macd

/--
The rendered indicators are what they stand for, place by place: the moving mean
of the last values, Wilder's relative strength between 0 and 100, and the line of
two averages with its signal and their difference; each has no value exactly
before its first place.
-/
theorem renderedIndicators_eq {K : Type} [Field K] [LinearOrder K] [IsStrictOrderedRing K]
    (values : List K) {period fastPeriod slowPeriod signalPeriod : Nat} (hperiod : 1 ≤ period)
    (hfast : 1 ≤ fastPeriod) (hslow : 1 ≤ slowPeriod) (hsignal : 1 ≤ signalPeriod) :
    sma values period = .ok (rowFrom (period - 1) values.length (movingMean values period)) ∧
      rsi values period = .ok (rowFrom period values.length (wilderStrength values period)) ∧
      (∀ i, 0 ≤ wilderStrength values period i ∧ wilderStrength values period i ≤ 100) ∧
      macd values fastPeriod slowPeriod signalPeriod =
        .ok (macdRows values fastPeriod slowPeriod signalPeriod) :=
  ⟨sma_eq values period hperiod, rsi_eq values hperiod, wilderStrength_bounds values hperiod,
    macd_eq values hfast hslow hsignal⟩

theorem renderedIndicators_short :
    sma ([3, 5, 4] : List ℚ) 2 = .ok (rowFrom 1 3 (movingMean [3, 5, 4] 2)) ∧
      rsi ([3, 5, 4] : List ℚ) 2 = .ok (rowFrom 2 3 (wilderStrength [3, 5, 4] 2)) ∧
      macd ([3, 5, 4] : List ℚ) 1 2 1 = .ok (macdRows [3, 5, 4] 1 2 1) := by
  obtain ⟨hsma, hrsi, -, hmacd⟩ := renderedIndicators_eq ([3, 5, 4] : List ℚ)
    (show 1 ≤ 2 by decide) (show 1 ≤ 1 by decide) (show 1 ≤ 2 by decide) (show 1 ≤ 1 by decide)
  exact ⟨hsma, hrsi, hmacd⟩

end Aiphabee.ChartGoldenSet
