import Aiphabee.Pagination.FollowedPages
import Aiphabee.Text.Checks
import Aiphabee.Text.JsNumber

/-!
# The timeline of corporate actions

`createCorporateActionsTimeline` answers with a page of the actions of an instrument that
match a request, and with the cursor of the next page, which `getCorporateActions` reads
back before it makes that page.  A cursor names the offset of the next page, `offset:12`;
a missing or empty one is the offset zero.
-/

namespace Aiphabee.Timelines

def offsetCursor (offset : Nat) : String :=
  "offset:" ++ toString offset

/-- The pattern `^offset:(\d+)$`, with the digits as a number. -/
def matchOffset (cursor : String) : Option Nat :=
  let digits := cursor.toList.drop 7
  if cursor.toList.take 7 = "offset:".toList ∧ digits ≠ [] ∧ digits.all Char.isDigit then
    some (Nat.ofDigitChars 10 digits 0)
  else
    none

def parseOffsetCursor {ε : Type} (error : ε) (cursor : Option String) : Except ε Nat :=
  match cursor with
  | none => .ok 0
  | some cursor => if cursor.length = 0 then .ok 0 else Checks.require (matchOffset cursor) error

theorem toList_offsetCursor (offset : Nat) :
    (offsetCursor offset).toList = "offset:".toList ++ Nat.toDigits 10 offset := by
  rw [offsetCursor, String.toList_append]
  exact congrArg ("offset:".toList ++ ·) Nat.toList_repr

theorem matchOffset_offsetCursor (offset : Nat) :
    matchOffset (offsetCursor offset) = some offset := by
  have hdigits : ((offsetCursor offset).toList).drop 7 = Nat.toDigits 10 offset := by
    rw [toList_offsetCursor]
    rfl
  have hprefix : ((offsetCursor offset).toList).take 7 = "offset:".toList := by
    rw [toList_offsetCursor]
    rfl
  have hall : (Nat.toDigits 10 offset).all Char.isDigit = true :=
    List.all_eq_true.mpr fun _ hc => Nat.isDigit_of_mem_toDigits (by decide) (by decide) hc
  rw [matchOffset, hdigits, hprefix, if_pos ⟨rfl, Nat.toDigits_ne_nil, hall⟩,
    Nat.ofDigitChars_toDigits (by decide) (by decide)]

@[simp] theorem parseOffsetCursor_none {ε : Type} (error : ε) :
    parseOffsetCursor error none = .ok 0 :=
  rfl

@[simp] theorem parseOffsetCursor_offsetCursor {ε : Type} (error : ε) (offset : Nat) :
    parseOffsetCursor error (some (offsetCursor offset)) = .ok offset := by
  have hlength : (offsetCursor offset).length ≠ 0 := by
    rw [← String.length_toList, toList_offsetCursor, List.length_append]
    simp
  rw [parseOffsetCursor, if_neg hlength, matchOffset_offsetCursor, Checks.require_some]

end Aiphabee.Timelines

namespace Aiphabee.CorporateActions

open Checks FollowedPages Timelines

inductive CorporateActionToolType
  | dividend
  | split
  | consolidation
  | rights
  | placement
  | buyback

inductive QualityState
  | hold
  | pass

inductive CorporateActionToolStatus
  | announced
  | confirmed

structure AdjustmentImpact where
  affectsSplitAdjusted : Bool
  affectsTotalReturnAdjusted : Bool
  methodologyVersion : String
  priceAdjustmentFactor : Option JsNumber

structure CorporateActionTerms where
  buybackValue : Option JsNumber
  cashAmount : Option JsNumber
  currency : Option String
  offerPrice : Option JsNumber
  ratio : Option JsNumber
  shares : Option JsNumber

structure CorporateActionToolRow where
  actionId : String
  actionType : CorporateActionToolType
  adjustmentImpact : AdjustmentImpact
  announcementDate : String
  effectiveDate : String
  exDate : Option String
  instrumentId : String
  paymentDate : Option String
  qualityState : QualityState
  sourceRecordId : String
  status : CorporateActionToolStatus
  summary : String
  terms : CorporateActionTerms

structure SyntheticCorporateActionRecord where
  actions : List CorporateActionToolRow
  currency : String
  exchange : String
  instrumentId : String
  market : String
  qualityState : QualityState
  symbol : String

structure CorporateActionsTimeline where
  actions : List CorporateActionToolRow
  currency : String
  exchange : String
  fromDate : String
  instrumentId : String
  market : String
  nextCursor : Option String
  qualityState : QualityState
  rowCount : Nat
  symbol : String
  toDate : String
  totalRows : Nat

inductive CorporateActionsInputErrorCode
  | instrumentIdRequired
  | invalidCursor
  | invalidLimit
  | invalidRange

structure CorporateActionsInputError where
  code : CorporateActionsInputErrorCode
  message : String

def parseCorporateActionCursor (cursor : Option String) : Except CorporateActionsInputError Nat :=
  parseOffsetCursor
    { code := .invalidCursor, message := "cursor must be empty or match offset:<number>" } cursor

variable (actions : List CorporateActionToolRow)
variable (fromDate : String)

def createCorporateActionsTimeline (limit offset : Nat) (record : SyntheticCorporateActionRecord)
    (toDate : String) : CorporateActionsTimeline :=
  let pageActions := slice actions offset limit
  let nextOffset := offset + pageActions.length
  let nextCursor := if nextOffset < actions.length then some (offsetCursor nextOffset) else none
  { actions := pageActions
    currency := record.currency
    exchange := record.exchange
    fromDate := fromDate
    instrumentId := record.instrumentId
    market := record.market
    nextCursor := nextCursor
    qualityState := record.qualityState
    rowCount := pageActions.length
    symbol := record.symbol
    toDate := toDate
    totalRows := actions.length }

def corporateActionsPage (limit : Nat) (record : SyntheticCorporateActionRecord) (toDate : String)
    (cursor : Option String) : Except CorporateActionsInputError CorporateActionsTimeline := do
  let offset ← parseCorporateActionCursor cursor
  return createCorporateActionsTimeline actions fromDate limit offset record toDate

theorem createCorporateActionsTimeline_nextCursor (limit offset : Nat)
    (record : SyntheticCorporateActionRecord) (toDate : String) :
    (createCorporateActionsTimeline actions fromDate limit offset record toDate).nextCursor =
      (nextOffset actions offset limit).map offsetCursor := by
  rw [createCorporateActionsTimeline, nextOffset]
  dsimp only
  split <;> rfl

theorem corporateActionsPage_readsAll (limit : Nat) (record : SyntheticCorporateActionRecord)
    (toDate : String) (hlimit : 1 ≤ limit) :
    ReadsAll (corporateActionsPage actions fromDate limit record toDate)
      CorporateActionsTimeline.nextCursor CorporateActionsTimeline.actions actions := by
  have hpage : ∀ cursor offset, parseCorporateActionCursor cursor = .ok offset →
      SlicesFrom (corporateActionsPage actions fromDate limit record toDate)
        CorporateActionsTimeline.nextCursor CorporateActionsTimeline.actions offsetCursor
        actions limit cursor offset := by
    intro cursor offset hcursor
    refine ⟨createCorporateActionsTimeline actions fromDate limit offset record toDate, ?_, rfl,
      createCorporateActionsTimeline_nextCursor actions fromDate limit offset record toDate⟩
    rw [corporateActionsPage, hcursor]
    rfl
  exact readsAll_of_slices hlimit (hpage none 0 (parseOffsetCursor_none _))
    fun offset _ => hpage _ offset (parseOffsetCursor_offsetCursor _ offset)

end Aiphabee.CorporateActions
