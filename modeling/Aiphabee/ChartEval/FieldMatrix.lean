import Mathlib.Data.Rat.Defs

/-!
# The field matrix of the chart evaluation

The fields that a parse of a chart is scored on, and the tier of each.
-/

namespace Aiphabee.ChartEval

inductive MatrixField
  | symbol
  | exchange
  | timeframe
  | endTime
  | indicatorNames
  | indicatorParams
  | drawnLineAnchors

inductive Tier
  | p0
  | p1
  | p2
deriving DecidableEq

def Tier.text : Tier → String
  | .p0 => "p0"
  | .p1 => "p1"
  | .p2 => "p2"

def tiers : List Tier :=
  [.p0, .p1, .p2]

def fieldTier : MatrixField → Tier
  | .symbol => .p0
  | .exchange => .p0
  | .timeframe => .p0
  | .endTime => .p1
  | .indicatorNames => .p1
  | .indicatorParams => .p2
  | .drawnLineAnchors => .p2

theorem mem_tiers (tier : Tier) : tier ∈ tiers := by
  cases tier <;> decide

end Aiphabee.ChartEval
