import Aiphabee.Store.StableSort
import Aiphabee.Text.Collation
import Aiphabee.Text.NumberText

/-!
# Restatement timelines of financial statements

The versions of a statement are put in the order of their publication.  The order
is that of the texts of the timestamps, while the checks and the selection as of a
point in time compare the instants the texts denote.

How the platform compares and parses texts is a parameter.
-/

namespace Aiphabee.FinancialFacts

/-- How texts are compared by `localeCompare` and parsed by `Date.parse`. -/
structure Platform extends Collation String where
  /-- The instant that a text denotes, in milliseconds, if it denotes one. -/
  dateParse : String → Option Int

/-- The facts of a statement by metric, kept in the order of the metrics. -/
structure Facts where
  entries : List (String × JsNumber)
  sorted : (entries.map Prod.fst).Pairwise (· < ·)
deriving DecidableEq

def Facts.get? (facts : Facts) (metricId : String) : Option JsNumber :=
  (facts.entries.find? fun entry => entry.1 = metricId).map Prod.snd

def Facts.valueOf (facts : Facts) (metricId : String) : JsNumber :=
  (facts.get? metricId).getD .zero

structure FinancialStatementVersionInput where
  accountingStandard : String
  companyId : String
  currency : String
  facts : Facts
  isRestatement : Bool
  periodEnd : String
  priorVersionId : Option String
  publishedAt : String
  restatementReason : Option String
  scale : JsNumber
  sourceRecordId : String
  statementId : String
  unit : String
deriving DecidableEq

structure FinancialStatementVersion extends FinancialStatementVersionInput where
  isLatest : Bool
  restatementVersion : Nat
deriving DecidableEq

/-- A data version is written `financial-restatement-v` and its number. -/
structure DataVersion where
  number : Nat
deriving DecidableEq

def DataVersion.text (version : DataVersion) : String :=
  "financial-restatement-v" ++ toString version.number

structure FinancialRestatementDelta where
  metricId : String
  originalValue : JsNumber
  restatedValue : JsNumber
  unit : String
  valueDelta : JsNumber
deriving DecidableEq

structure FinancialRestatementEvent where
  companyId : String
  dataVersionAfter : DataVersion
  dataVersionBefore : DataVersion
  deltas : List FinancialRestatementDelta
  originalStatementId : String
  reason : String
  restatedAt : String
  restatedStatementId : String
deriving DecidableEq

structure FinancialRestatementTimeline where
  events : List FinancialRestatementEvent
  methodologyVersion : String
  versions : List FinancialStatementVersion
deriving DecidableEq

inductive FinancialRestatementErrorCode
  | accountingIdentityInvalid
  | publishedAtInvalid
  | restatementChainInvalid
  | statementDimensionMismatch

inductive FinancialRestatementError
  | asOf (asOf : String)
  | publishedAt (publishedAt statementId : String)
  | identity (facts : Facts) (statementId : String)
  | dimensions (statementId : String)
  | priorMissing (statementId : String)
  | priorUnknown (priorVersionId statementId : String)
  | priorNotEarlier (priorPublishedAt restatedPublishedAt statementId : String)
deriving DecidableEq

def FinancialRestatementError.code :
    FinancialRestatementError → FinancialRestatementErrorCode
  | .asOf _ => .publishedAtInvalid
  | .publishedAt _ _ => .publishedAtInvalid
  | .identity _ _ => .accountingIdentityInvalid
  | .dimensions _ => .statementDimensionMismatch
  | .priorMissing _ => .restatementChainInvalid
  | .priorUnknown _ _ => .restatementChainInvalid
  | .priorNotEarlier _ _ _ => .restatementChainInvalid

def FinancialRestatementError.message : FinancialRestatementError → String
  | .asOf _ => "asOf must be an ISO timestamp"
  | .publishedAt _ _ => "publishedAt must be an ISO timestamp"
  | .identity _ _ => "balance sheet identity requires assets = liabilities + equity"
  | .dimensions _ =>
    "restatement timelines require stable company, period, currency, unit, scale, and " ++
      "accounting standard"
  | .priorMissing _ => "restatement statements require priorVersionId"
  | .priorUnknown _ _ => "restatement priorVersionId must reference an earlier statement"
  | .priorNotEarlier _ _ _ => "restatement must be published after the prior statement"

def withinTolerance (actual expected tolerance : JsNumber) : Bool :=
  (actual.sub expected).abs.le tolerance

/-- The balance sheet identity holds up to a thousandth. -/
def identityBalances (facts : Facts) : Bool :=
  match facts.get? "assets", facts.get? "liabilities", facts.get? "equity" with
  | some assets, some liabilities, some equity =>
    assets.isFinite && liabilities.isFinite && equity.isFinite &&
      withinTolerance assets (liabilities.add equity) (.nearest (1 / 1000))
  | _, _, _ => false

def validateStatement (platform : Platform) (statement : FinancialStatementVersionInput) :
    Option FinancialRestatementError :=
  if (platform.dateParse statement.publishedAt).isNone then
    some (.publishedAt statement.publishedAt statement.statementId)
  else if !identityBalances statement.facts then
    some (.identity statement.facts statement.statementId)
  else
    none

def differsFrom (first statement : FinancialStatementVersionInput) : Bool :=
  statement.companyId ≠ first.companyId ||
    statement.periodEnd ≠ first.periodEnd ||
    statement.currency ≠ first.currency ||
    statement.unit ≠ first.unit ||
    !statement.scale.strictEquals first.scale ||
    statement.accountingStandard ≠ first.accountingStandard

variable (statements : List FinancialStatementVersionInput)

def validateDimensions : Option FinancialRestatementError :=
  match statements.head? with
  | none => none
  | some first =>
    (statements.find? (differsFrom first)).map fun mismatched =>
      .dimensions mismatched.statementId

def publishedLe (platform : Platform) (left right : FinancialStatementVersionInput) : Prop :=
  platform.localeLe left.publishedAt right.publishedAt = true

instance (platform : Platform) : DecidableRel (publishedLe platform) := fun _ _ =>
  inferInstanceAs (Decidable (_ = true))

instance (platform : Platform) : Std.Total (publishedLe platform) :=
  ⟨fun _ _ => platform.localeLe_total _ _⟩

instance (platform : Platform) : IsTrans FinancialStatementVersionInput (publishedLe platform) :=
  ⟨fun _ _ _ => platform.localeLe_trans _ _ _⟩

/-- The map from identifiers to places, filled in the order of the statements. -/
def restatementVersionById (statementId : String) : Option Nat :=
  StableSort.lastIndex (fun statement => statement.statementId = statementId) statements

/-- The map from identifiers to statements, filled in the order of the statements. -/
def statementById (statementId : String) : Option FinancialStatementVersionInput :=
  (restatementVersionById statements statementId).bind fun index => statements[index]?

def roundValue (value : JsNumber) : JsNumber := value.roundTo 1000000

def createFactDeltas (original restated : FinancialStatementVersionInput) :
    List FinancialRestatementDelta :=
  let metricIds := JsString.sort
    (original.facts.entries.map Prod.fst ++ restated.facts.entries.map Prod.fst).eraseDups
  (metricIds.map fun metricId =>
      let originalValue := original.facts.valueOf metricId
      let restatedValue := restated.facts.valueOf metricId
      { metricId := metricId
        originalValue := originalValue
        restatedValue := restatedValue
        unit := restated.unit
        valueDelta := roundValue (restatedValue.sub originalValue) }).filter fun delta =>
    !delta.valueDelta.strictEquals .zero

def notPublishedBefore (platform : Platform) (original statement : FinancialStatementVersionInput) :
    Bool :=
  match platform.dateParse original.publishedAt, platform.dateParse statement.publishedAt with
  | some prior, some restated => restated ≤ prior
  | _, _ => false

def createRestatementEvent (platform : Platform) (statements : List FinancialStatementVersionInput)
    (statement : FinancialStatementVersionInput) :
    Except FinancialRestatementError FinancialRestatementEvent :=
  match statement.priorVersionId with
  | none => .error (.priorMissing statement.statementId)
  | some priorVersionId =>
    match statementById statements priorVersionId with
    | none => .error (.priorUnknown priorVersionId statement.statementId)
    | some original =>
      if original.statementId = statement.statementId then
        .error (.priorUnknown priorVersionId statement.statementId)
      else if notPublishedBefore platform original statement then
        .error (.priorNotEarlier original.publishedAt statement.publishedAt
          statement.statementId)
      else
        .ok
          { companyId := statement.companyId
            dataVersionAfter :=
              ⟨(restatementVersionById statements statement.statementId).getD 0⟩
            dataVersionBefore :=
              ⟨(restatementVersionById statements original.statementId).getD 0⟩
            deltas := createFactDeltas original statement
            originalStatementId := original.statementId
            reason := statement.restatementReason.getD "unknown"
            restatedAt := statement.publishedAt
            restatedStatementId := statement.statementId }

def restatementEvents (platform : Platform) (statements : List FinancialStatementVersionInput) :
    List FinancialStatementVersionInput →
      Except FinancialRestatementError (List FinancialRestatementEvent)
  | [] => .ok []
  | restatement :: rest =>
    match createRestatementEvent platform statements restatement with
    | .error error => .error error
    | .ok event =>
      match restatementEvents platform statements rest with
      | .error error => .error error
      | .ok events => .ok (event :: events)

def versionOf (statement : FinancialStatementVersionInput) : FinancialStatementVersion :=
  { statement with
    isLatest := (statements.getLast?).any fun latest => statement.statementId = latest.statementId
    restatementVersion := (restatementVersionById statements statement.statementId).getD 0 }

def timelineOf (platform : Platform) (methodologyVersion : String)
    (sortedStatements : List FinancialStatementVersionInput) :
    Except FinancialRestatementError FinancialRestatementTimeline :=
  match sortedStatements.findSome? (validateStatement platform) with
  | some error => .error error
  | none =>
    match validateDimensions sortedStatements with
    | some error => .error error
    | none =>
      match restatementEvents platform sortedStatements
          (sortedStatements.filter FinancialStatementVersionInput.isRestatement) with
      | .error error => .error error
      | .ok events =>
        .ok
          { events := events
            methodologyVersion := methodologyVersion
            versions := sortedStatements.map (versionOf sortedStatements) }

def buildFinancialRestatementTimeline (platform : Platform)
    (statements : List FinancialStatementVersionInput) (methodologyVersion : String) :
    Except FinancialRestatementError FinancialRestatementTimeline :=
  timelineOf platform methodologyVersion (statements.insertionSort (publishedLe platform))

def publishedBy (platform : Platform) (asOfTime : Int) (version : FinancialStatementVersion) :
    Bool :=
  (platform.dateParse version.publishedAt).any fun time => time ≤ asOfTime

/-- The comparator of the selection, which puts the last version first. -/
def publishedGe (platform : Platform) (left right : FinancialStatementVersion) : Prop :=
  publishedLe platform right.toFinancialStatementVersionInput left.toFinancialStatementVersionInput

instance (platform : Platform) : DecidableRel (publishedGe platform) := fun _ _ =>
  inferInstanceAs (Decidable (publishedLe platform _ _))

instance (platform : Platform) : Std.Total (publishedGe platform) :=
  ⟨fun _ _ => platform.localeLe_total _ _⟩

instance (platform : Platform) : IsTrans FinancialStatementVersion (publishedGe platform) :=
  ⟨fun _ _ _ hab hbc => platform.localeLe_trans _ _ _ hbc hab⟩

def selectFinancialStatementAsOf (platform : Platform) (timeline : FinancialRestatementTimeline)
    (asOf : String) : Except FinancialRestatementError (Option FinancialStatementVersion) :=
  match platform.dateParse asOf with
  | none => .error (.asOf asOf)
  | some asOfTime =>
    .ok ((timeline.versions.filter (publishedBy platform asOfTime)).insertionSort
      (publishedGe platform)).head?

end Aiphabee.FinancialFacts
