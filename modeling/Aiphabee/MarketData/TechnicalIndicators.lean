import Mathlib.Data.Rat.Floor
import Aiphabee.Numbers.DecimalRounding
import Aiphabee.Streams.CausalRows

/-!
# Technical indicators

From the bars of an instrument, oldest first, one row of indicators is computed for
each bar: moving averages, exponential averages and their difference, Bollinger
bands, the relative strength, the average true range and the on-balance volume.

Numbers are those of any ordered field here, so that sums and quotients are exact;
the square root is a parameter.  The main result, `computeTechnicalIndicators_take`,
is that no row depends on the bars behind it.
-/

namespace Aiphabee.MarketData

open CausalRows
open scoped DecimalRounding

universe u

structure NormalizedEphemeralBar (K : Type u) where
  close : K
  high : K
  low : K
  timestamp : String
  volume : Option K

structure BollingerBand (K : Type u) where
  lower : K
  middle : K
  upper : K

structure Macd (K : Type u) where
  histogram : K
  line : K
  signal : K

structure EphemeralTechnicalIndicatorPoint (K : Type u) where
  atr14 : Option K
  boll20 : Option (BollingerBand K)
  close : K
  ema12 : K
  ema26 : K
  ma5 : Option K
  ma20 : Option K
  ma60 : Option K
  macd : Macd K
  obv : K
  rsi14 : Option K
  timestamp : String
  volumeMa20 : Option K

section Indicators

variable {K : Type u} [Field K] [LinearOrder K] [FloorRing K] (values : List K)

def valueAt (index : Nat) : K :=
  values[index]?.getD 0

/-- `values.slice(index + 1 - period, index + 1)`. -/
def windowAt (index period : Nat) : List K :=
  (values.take (index + 1)).drop (index + 1 - period)

def average : K :=
  values.foldl (fun sum value => sum + value) 0 / (values.length : K)

/-- Six decimals, halves upwards. -/
def round (value : K) : K :=
  (⌊value * 1000000 + 1 / 2⌋ : K) / 1000000

variable (period : Nat)

def computeEma : List K :=
  let alpha : K := 2 / ((period : K) + 1)
  pushEach
    (fun ema value =>
      match ema.getLast? with
      | none => value
      | some previous => value * alpha + previous * (1 - alpha))
    values

def computeWindowAverage (index period : Nat) : Option K :=
  if index + 1 < period then
    none
  else
    some (round (average (windowAt values index period)))

def computeBollinger (sqrt : K → K) (closes : List K) (index period : Nat) (deviations : K) :
    Option (BollingerBand K) :=
  if index + 1 < period then
    none
  else
    let window := windowAt closes index period
    let middle := average window
    let variance := average (window.map fun value => (value - middle) ^ 2)
    let spread := sqrt variance * deviations
    some
      { lower := round (middle - spread)
        middle := round middle
        upper := round (middle + spread) }

variable (closes : List K)

def changesAt (index period : Nat) : List K :=
  let window := windowAt closes index period
  window.mapIdx fun offset value =>
    let previous :=
      if offset = 0 then valueAt closes (index - period) else valueAt window (offset - 1)
    value - previous

def computeRsi (index period : Nat) : Option K :=
  if index < period then
    none
  else
    let changes := changesAt closes index period
    let gains := changes.map fun change => max change 0
    let losses := changes.map fun change => max (-change) 0
    let averageGain := average gains
    let averageLoss := average losses
    if averageLoss = 0 then
      some 100
    else
      some (round (100 - 100 / (1 + averageGain / averageLoss)))

def previousCloseAt : Nat → Option K
  | 0 => none
  | index + 1 => closes[index]?

def computeTrueRanges (highs lows closes : List K) : List K :=
  highs.mapIdx fun index high =>
    let low := valueAt lows index
    match previousCloseAt closes index with
    | none => high - low
    | some previousClose =>
      max (max (high - low) |high - previousClose|) |low - previousClose|

def obvAt (closes volumes values : List K) : Nat → K
  | 0 => 0
  | index + 1 =>
    let previous := valueAt values index
    let close := valueAt closes (index + 1)
    let previousClose := valueAt closes index
    let volume := valueAt volumes (index + 1)
    if previousClose < close then
      previous + volume
    else if close < previousClose then
      previous - volume
    else
      previous

def computeObv (closes volumes : List K) : List K :=
  pushBelow (obvAt closes volumes) closes.length

/-- The difference of the two exponential averages. -/
def macdLineOf : List K :=
  let ema12 := computeEma closes 12
  let ema26 := computeEma closes 26
  closes.mapIdx fun index _ => valueAt ema12 index - valueAt ema26 index

def computeTechnicalIndicators (sqrt : K → K) (bars : List (NormalizedEphemeralBar K)) :
    List (EphemeralTechnicalIndicatorPoint K) :=
  let closes := bars.map fun bar => bar.close
  let highs := bars.map fun bar => bar.high
  let lows := bars.map fun bar => bar.low
  let volumes := bars.map fun bar => bar.volume.getD 0
  let ema12 := computeEma closes 12
  let ema26 := computeEma closes 26
  let macdLine := macdLineOf closes
  let macdSignal := computeEma macdLine 9
  let obv := computeObv closes volumes
  let trueRanges := computeTrueRanges highs lows closes
  bars.mapIdx fun index bar =>
    { atr14 := computeWindowAverage trueRanges index 14
      boll20 := computeBollinger sqrt closes index 20 2
      close := bar.close
      ema12 := round (valueAt ema12 index)
      ema26 := round (valueAt ema26 index)
      ma5 := computeWindowAverage closes index 5
      ma20 := computeWindowAverage closes index 20
      ma60 := computeWindowAverage closes index 60
      macd :=
        { histogram := round (valueAt macdLine index - valueAt macdSignal index)
          line := round (valueAt macdLine index)
          signal := round (valueAt macdSignal index) }
      obv := valueAt obv index
      rsi14 := computeRsi closes index 14
      timestamp := bar.timestamp
      volumeMa20 := computeWindowAverage volumes index 20 }

end Indicators

section Rows

variable {K : Type u} (period : Nat)

/-- The window that ends with the place looks back. -/
theorem lookback_windowAt :
    Lookback fun (values : List K) index => windowAt values index period :=
  Lookback.window fun index => index + 1 - period

theorem lookback_previousCloseAt :
    Lookback fun (closes : List K) index => previousCloseAt closes index := by
  intro closes count index hcount hindex
  cases index with
  | zero => rfl
  | succ index =>
    exact Lookback.entry closes count index (Nat.lt_of_succ_lt hcount) (Nat.lt_of_succ_lt hindex)

variable [Field K]

theorem lookback_valueAt : Lookback fun (values : List K) index => valueAt values index :=
  Lookback.entry.map fun _ value => value.getD 0

theorem causal_computeEma : Causal fun values : List K => computeEma values period :=
  Causal.pushEach _

theorem causal_macdLineOf : Causal fun closes : List K => macdLineOf closes := by
  refine Causal.id.mapIdx fun _ => ?_
  exact (lookback_valueAt.comp (causal_computeEma 12)).map₂
    (lookback_valueAt.comp (causal_computeEma 26)) fun fast slow => fast - slow

variable [LinearOrder K]

theorem causal_computeTrueRanges {α : Type*} {highs lows closes : List α → List K}
    (hhighs : Causal highs) (hlows : Causal lows) (hcloses : Causal closes) :
    Causal fun entries => computeTrueRanges (highs entries) (lows entries) (closes entries) := by
  refine hhighs.mapIdx fun high => ?_
  refine (lookback_valueAt.comp hlows).map₂ (lookback_previousCloseAt.comp hcloses)
    fun low previousClose =>
      match previousClose with
      | none => high - low
      | some previousClose => max (max (high - low) |high - previousClose|) |low - previousClose|

theorem causal_computeObv {α : Type*} {closes volumes : List α → List K} (hcloses : Causal closes)
    (hvolumes : Causal volumes) :
    Causal fun entries => computeObv (closes entries) (volumes entries) := by
  have hlength : ∀ entries : List α, (closes entries).length = entries.length := hcloses.length_eq
  simp only [computeObv, hlength]
  refine Causal.pushBelow fun values entries count index hcount hindex => ?_
  cases index with
  | zero => rfl
  | succ index =>
    have hbefore := Nat.lt_of_succ_lt hcount
    have hindexBefore := Nat.lt_of_succ_lt hindex
    have hclose := lookback_valueAt.comp hcloses entries count (index + 1) hcount hindex
    have hprevious := lookback_valueAt.comp hcloses entries count index hbefore hindexBefore
    have hvolume := lookback_valueAt.comp hvolumes entries count (index + 1) hcount hindex
    dsimp only at hclose hprevious hvolume
    simp only [obvAt, hclose, hprevious, hvolume]

example : computeObv ([1, 2, 2, 1] : List ℚ) [5, 6, 7, 8] = [0, 6, 6, -2] := by
  decide +kernel

variable [FloorRing K]

theorem lookback_computeWindowAverage :
    Lookback fun (values : List K) index => computeWindowAverage values index period :=
  (lookback_windowAt period).map fun index window =>
    if index + 1 < period then none else some (round (average window))

theorem lookback_computeBollinger (sqrt : K → K) (period : Nat) (deviations : K) :
    Lookback fun (closes : List K) index =>
      computeBollinger sqrt closes index period deviations := by
  intro closes count index hcount hindex
  simp only [computeBollinger, lookback_windowAt period closes count index hcount hindex]

/-- The changes read one close before the window, which is still behind the place. -/
theorem lookback_computeRsi :
    Lookback fun (closes : List K) index => computeRsi closes index period := by
  intro closes count index hcount hindex
  have hwindow := lookback_windowAt period closes count index hcount hindex
  have hbefore : valueAt (closes.take count) (index - period) = valueAt closes (index - period) :=
    lookback_valueAt closes count (index - period) (lt_of_le_of_lt (Nat.sub_le index period) hcount)
      (lt_of_le_of_lt (Nat.sub_le index period) hindex)
  have hchanges : changesAt (closes.take count) index period = changesAt closes index period := by
    dsimp only at hwindow
    rw [changesAt, changesAt, hwindow, hbefore]
  dsimp only
  rw [computeRsi, computeRsi, hchanges]

theorem causal_computeTechnicalIndicators (sqrt : K → K) :
    Causal (computeTechnicalIndicators sqrt) := by
  have hcloses : Causal fun bars : List (NormalizedEphemeralBar K) => bars.map (·.close) :=
    Causal.map _
  have hvolumes : Causal fun bars : List (NormalizedEphemeralBar K) =>
      bars.map (·.volume.getD 0) := Causal.map _
  have htrueRanges := causal_computeTrueRanges
    (Causal.map fun bar : NormalizedEphemeralBar K => bar.high) (Causal.map (·.low)) hcloses
  have hline := causal_macdLineOf.comp hcloses
  refine Causal.id.mapIdx fun bar bars count index hcount hindex => ?_
  have hatr := (lookback_computeWindowAverage 14).comp htrueRanges bars count index hcount hindex
  have hboll := (lookback_computeBollinger sqrt 20 2).comp hcloses bars count index hcount hindex
  have hema := fun period =>
    lookback_valueAt.comp ((causal_computeEma period).comp hcloses) bars count index hcount hindex
  have hma := fun period =>
    (lookback_computeWindowAverage period).comp hcloses bars count index hcount hindex
  have hmacd := lookback_valueAt.comp hline bars count index hcount hindex
  have hsignal :=
    lookback_valueAt.comp ((causal_computeEma 9).comp hline) bars count index hcount hindex
  have hobv :=
    lookback_valueAt.comp (causal_computeObv hcloses hvolumes) bars count index hcount hindex
  have hrsi := (lookback_computeRsi 14).comp hcloses bars count index hcount hindex
  have hvolume :=
    (lookback_computeWindowAverage 20).comp hvolumes bars count index hcount hindex
  dsimp only at hatr hboll hema hma hmacd hsignal hobv hrsi hvolume ⊢
  rw [hatr, hboll, hema, hema, hma, hma, hma, hmacd, hsignal, hobv, hrsi, hvolume]

/--
No indicator looks ahead: the rows of the first bars are the first rows of all bars,
one for each bar.
-/
theorem computeTechnicalIndicators_take (sqrt : K → K) (bars : List (NormalizedEphemeralBar K))
    (count : Nat) :
    computeTechnicalIndicators sqrt (bars.take count) =
        (computeTechnicalIndicators sqrt bars).take count ∧
      (computeTechnicalIndicators sqrt bars).length = bars.length :=
  ⟨(causal_computeTechnicalIndicators sqrt).take_eq bars count,
    (causal_computeTechnicalIndicators sqrt).length_eq bars⟩

end Rows

end Aiphabee.MarketData
