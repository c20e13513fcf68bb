import Aiphabee.FinancialFacts.RestatementTimeline
import Aiphabee.Numbers.DecimalRounding
import Aiphabee.Text.Checks

/-!
# Adjusting a price series

The closes of an instrument are adjusted backwards: a bar is multiplied by the factors of
the actions that become effective strictly after it.  Splits and consolidations give a
split factor, dividends a total-return factor.  A factor is rounded to nine decimals when
it is made and once more, as a product, when it is reported; a price is rounded to six.

Numbers are exact apart from this rounding.  How the platform compares and parses texts is
a parameter.
-/

namespace Aiphabee.CorporateActions

open Checks DecimalRounding
open FinancialFacts (Platform)

inductive CorporateActionType
  | consolidation
  | dividend
  | split
deriving DecidableEq

structure CorporateActionEvent where
  actionId : String
  actionType : CorporateActionType
  cashAmount : Option JsNumber
  effectiveDate : String
  ratio : Option JsNumber
  reinvestmentPrice : Option JsNumber
  sourceRecordId : String

structure PriceObservation where
  close : JsNumber
  date : String
  sourceRecordId : String

structure AdjustPriceSeriesInput where
  actions : List CorporateActionEvent
  bars : List PriceObservation
  instrumentId : String
  methodologyVersion : Option String

inductive AdjustmentType
  | splitAdjusted
  | totalReturnAdjusted
deriving DecidableEq

structure AdjustmentFactor where
  actionId : String
  adjustmentType : AdjustmentType
  effectiveDate : String
  factor : ℚ
  sourceRecordId : String
deriving DecidableEq

structure AdjustedPriceObservation where
  appliedActionIds : List String
  date : String
  rawClose : ℚ
  sourceRecordId : String
  splitAdjustedClose : ℚ
  splitFactor : ℚ
  totalReturnAdjustedClose : ℚ
  totalReturnFactor : ℚ
deriving DecidableEq

structure AdjustmentSummary where
  actionCount : Nat
  adjustedObservationCount : Nat
  observationCount : Nat
deriving DecidableEq

structure CorporateActionAdjustmentResult where
  factors : List AdjustmentFactor
  instrumentId : String
  methodologyVersion : String
  observations : List AdjustedPriceObservation
  summary : AdjustmentSummary
deriving DecidableEq

inductive CorporateActionAdjustmentErrorCode
  | actionDateInvalid
  | actionFactorInvalid
  | priceBarInvalid
deriving DecidableEq

inductive ErrorDetail
  | text (value : String)
  | number (value : Option JsNumber)
deriving DecidableEq

structure CorporateActionAdjustmentError where
  code : CorporateActionAdjustmentErrorCode
  message : String
  details : List (String × ErrorDetail)
deriving DecidableEq

def roundFactor (value : ℚ) : ℚ :=
  roundTo 1000000000 value

def roundPrice (value : ℚ) : ℚ :=
  roundTo 1000000 value

def finiteValue : JsNumber → Option ℚ
  | .finite value => some value
  | _ => none

variable (platform : Platform)

def startOfDate (date : String) : Option Int :=
  platform.dateParse (date ++ "T00:00:00Z")

def appliesBeforeEffectiveDate (barDate effectiveDate : String) : Bool :=
  match startOfDate platform barDate, startOfDate platform effectiveDate with
  | some bar, some effective => bar < effective
  | _, _ => false

def multiplyFactors (factors : List AdjustmentFactor) : ℚ :=
  factors.foldl (fun product factor => product * factor.factor) 1

variable (action : CorporateActionEvent)

def assertActionDate : Except CorporateActionAdjustmentError Unit :=
  ensure ((startOfDate platform action.effectiveDate).isSome)
    { code := .actionDateInvalid
      message := "corporate action effectiveDate must be an ISO date"
      details := [("actionId", .text action.actionId),
        ("effectiveDate", .text action.effectiveDate)] }

/-- The ratio of a split or consolidation, when it is finite and above zero. -/
def CorporateActionEvent.positiveRatio : Option ℚ :=
  (action.ratio.bind finiteValue).filter fun ratio => 0 < ratio

def CorporateActionEvent.dividendTerms : Option (ℚ × ℚ) :=
  match action.cashAmount.bind finiteValue, action.reinvestmentPrice.bind finiteValue with
  | some cash, some price => if cash < 0 ∨ price ≤ cash then none else some (cash, price)
  | _, _ => none

def createAdjustmentFactors :
    Except CorporateActionAdjustmentError (List AdjustmentFactor) := do
  assertActionDate platform action
  if action.actionType = .split ∨ action.actionType = .consolidation then
    let ratio ← require action.positiveRatio
      { code := .actionFactorInvalid
        message := "split and consolidation actions require a positive ratio"
        details := [("actionId", .text action.actionId), ("ratio", .number action.ratio)] }
    return [
      { actionId := action.actionId
        adjustmentType := .splitAdjusted
        effectiveDate := action.effectiveDate
        factor := roundFactor (1 / ratio)
        sourceRecordId := action.sourceRecordId }]
  else
    let terms ← require action.dividendTerms
      { code := .actionFactorInvalid
        message :=
          "dividend actions require non-negative cash and a reinvestment price above cash"
        details := [("actionId", .text action.actionId),
          ("cashAmount", .number action.cashAmount),
          ("reinvestmentPrice", .number action.reinvestmentPrice)] }
    return [
      { actionId := action.actionId
        adjustmentType := .totalReturnAdjusted
        effectiveDate := action.effectiveDate
        factor := roundFactor ((terms.2 - terms.1) / terms.2)
        sourceRecordId := action.sourceRecordId }]

def assertPriceBar (bar : PriceObservation) : Except CorporateActionAdjustmentError ℚ :=
  require
    (if (startOfDate platform bar.date).isNone then
      none
    else
      (finiteValue bar.close).filter fun close => 0 ≤ close)
    { code := .priceBarInvalid
      message := "price observations require an ISO date and non-negative close"
      details := [("close", .number (some bar.close)), ("date", .text bar.date),
        ("sourceRecordId", .text bar.sourceRecordId)] }

def adjustObservation (factors : List AdjustmentFactor) (bar : PriceObservation) :
    Except CorporateActionAdjustmentError AdjustedPriceObservation := do
  let close ← assertPriceBar platform bar
  let appliedFactors := factors.filter fun factor =>
    appliesBeforeEffectiveDate platform bar.date factor.effectiveDate
  let splitFactor := multiplyFactors
    (appliedFactors.filter fun factor => factor.adjustmentType = .splitAdjusted)
  let totalReturnFactor := multiplyFactors appliedFactors
  return {
    appliedActionIds := (appliedFactors.map AdjustmentFactor.actionId).eraseDups
    date := bar.date
    rawClose := roundPrice close
    sourceRecordId := bar.sourceRecordId
    splitAdjustedClose := roundPrice (close * splitFactor)
    splitFactor := roundFactor splitFactor
    totalReturnAdjustedClose := roundPrice (close * totalReturnFactor)
    totalReturnFactor := roundFactor totalReturnFactor }

/-- The comparator of the bars. -/
def barLe (left right : PriceObservation) : Prop :=
  platform.localeLe left.date right.date = true

def actionLe (left right : CorporateActionEvent) : Prop :=
  platform.localeLe left.effectiveDate right.effectiveDate = true

instance (platform : Platform) : DecidableRel (barLe platform) :=
  fun left right => inferInstanceAs (Decidable (platform.localeLe left.date right.date = true))

instance (platform : Platform) : DecidableRel (actionLe platform) :=
  fun left right =>
    inferInstanceAs (Decidable (platform.localeLe left.effectiveDate right.effectiveDate = true))

def corporateActionAdjustmentMethodologyVersion : String :=
  "corporate-action-adjustment@synthetic-v0"

def adjustPriceSeries (input : AdjustPriceSeriesInput) :
    Except CorporateActionAdjustmentError CorporateActionAdjustmentResult := do
  let methodologyVersion :=
    input.methodologyVersion.getD corporateActionAdjustmentMethodologyVersion
  let sortedBars := input.bars.insertionSort (barLe platform)
  let sortedActions := input.actions.insertionSort (actionLe platform)
  let factorLists ← sortedActions.mapM (createAdjustmentFactors platform)
  let factors := factorLists.flatten
  let observations ← sortedBars.mapM (adjustObservation platform factors)
  return {
    factors := factors
    instrumentId := input.instrumentId
    methodologyVersion := methodologyVersion
    observations := observations
    summary :=
      { actionCount := sortedActions.length
        adjustedObservationCount := observations.countP fun observation =>
          observation.splitFactor ≠ 1 || observation.totalReturnFactor ≠ 1
        observationCount := observations.length } }

end Aiphabee.CorporateActions
