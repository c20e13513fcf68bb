import Mathlib.Data.List.Sort
import Aiphabee.Store.GroupBy
import Aiphabee.Text.JsNumber
import Aiphabee.Text.JsString

/-!
# Partner reconciliation reports

The usage rows of a partner are grouped by data set, channel, package and user;
a report line holds the totals of a group, the ids of its calls and whether the
service level was met.  The groups are kept under a key that joins the four
sanitised fields.

How two texts compare in the collation order of the runtime is a parameter of
the report.
-/

namespace Aiphabee.PartnerReconciliation

open JsString (toLowerCase)

/-- The characters that the pattern `[^a-z0-9]` leaves. -/
def isIdCharacter (c : Char) : Bool :=
  c.isLower || c.isDigit

/-- One underscore for every run of other characters; the flag tells that a run is being read. -/
def replaceRuns : Bool → List Char → List Char
  | _, [] => []
  | inRun, c :: rest =>
    if isIdCharacter c then c :: replaceRuns false rest
    else if inRun then replaceRuns true rest
    else '_' :: replaceRuns true rest

/-- The characters without the underscores at either end. -/
def stripUnderscores (chars : List Char) : List Char :=
  ((chars.dropWhile (· = '_')).reverse.dropWhile (· = '_')).reverse

/-- `sanitizeId` of `packages/usage-ledger/src/index.ts`, on lists of characters. -/
def sanitizeChars (value : List Char) : List Char :=
  let sanitized := stripUnderscores (replaceRuns false (value.flatMap toLowerCase))
  if sanitized = [] then "unset".toList else sanitized

/-- `sanitizeId` of `packages/usage-ledger/src/index.ts`. -/
def sanitizeId (value : String) : String :=
  String.ofList (sanitizeChars value.toList)

example : sanitizeId "User--1 " = "user_1" := by
  decide

/-- The texts that are present and not empty, each once. -/
def uniqueStrings (values : List (Option String)) : List String :=
  (values.reduceOption.filter fun value => value ≠ "").eraseDups

inductive UsageLedgerChannel
  | api
  | «export»
  | mcp
  | web
deriving DecidableEq

def UsageLedgerChannel.text : UsageLedgerChannel → String
  | .api => "api"
  | .export => "export"
  | .mcp => "mcp"
  | .web => "web"

inductive UsageQuotaPlanCode
  | developer
  | enterprise
  | free
  | plus
  | pro
  | team
deriving DecidableEq

def UsageQuotaPlanCode.text : UsageQuotaPlanCode → String
  | .developer => "developer"
  | .enterprise => "enterprise"
  | .free => "free"
  | .plus => "plus"
  | .pro => "pro"
  | .team => "team"

structure PartnerReconciliationUsageRowInput where
  backfillCount : Option JsNumber := none
  channel : Option UsageLedgerChannel := none
  credits : Option JsNumber := none
  dataDelayMinutes : Option JsNumber := none
  dataset : Option String := none
  errorCount : Option JsNumber := none
  meteredRows : Option JsNumber := none
  missingRows : Option JsNumber := none
  packageCode : Option UsageQuotaPlanCode := none
  requestId : Option String := none
  usageCount : Option JsNumber := none
  usageEventId : Option String := none
  userId : Option String := none

structure GroupFields where
  dataset : String
  channel : UsageLedgerChannel
  packageCode : UsageQuotaPlanCode
  userId : String
deriving DecidableEq

def PartnerReconciliationUsageRowInput.groupFields (row : PartnerReconciliationUsageRowInput) :
    GroupFields :=
  { dataset := row.dataset.getD "dataset_unresolved"
    channel := row.channel.getD .web
    packageCode := row.packageCode.getD .free
    userId := row.userId.getD "user_unresolved" }

def GroupFields.groupKey (fields : GroupFields) : String :=
  "__".intercalate
    ([fields.dataset, fields.channel.text, fields.packageCode.text, fields.userId].map
      sanitizeId)

def normalizeNonNegativeCount (value : Option JsNumber) : Nat :=
  JsNumber.floorOfPositive value

def normalizeCreditCount (value : Option JsNumber) : Nat :=
  JsNumber.floorOfPositive value

def PartnerReconciliationUsageRowInput.calls (row : PartnerReconciliationUsageRowInput) : Nat :=
  let usageCount := normalizeNonNegativeCount row.usageCount
  if usageCount = 0 then 1 else usageCount

inductive SlaStatus
  | exception
  | ok

/-- A report line without its id. -/
structure Group where
  backfillCount : WholeNumber
  channel : UsageLedgerChannel
  credits : WholeNumber
  dataDelayMinutesMax : Nat
  dataset : String
  errorCount : WholeNumber
  meteredRows : WholeNumber
  missingRows : WholeNumber
  packageCode : UsageQuotaPlanCode
  requestIds : List String
  slaStatus : SlaStatus
  table : String
  usageCount : WholeNumber
  usageEventIds : List String
  userId : String

def Group.groupFields (group : Group) : GroupFields :=
  { dataset := group.dataset
    channel := group.channel
    packageCode := group.packageCode
    userId := group.userId }

/-- A line is an exception when data were late or missing, or calls failed. -/
def slaStatusOf (dataDelayMinutesMax : Nat) (missingRows errorCount : WholeNumber) : SlaStatus :=
  if 0 < dataDelayMinutesMax ∨ missingRows.isPositive ∨ errorCount.isPositive then
    .exception
  else
    .ok

def startGroup (row : PartnerReconciliationUsageRowInput) : Group :=
  let fields := row.groupFields
  let dataDelayMinutes := normalizeNonNegativeCount row.dataDelayMinutes
  let missingRows := normalizeNonNegativeCount row.missingRows
  let errorCount := normalizeNonNegativeCount row.errorCount
  { backfillCount := .finite (normalizeNonNegativeCount row.backfillCount)
    channel := fields.channel
    credits := .finite (normalizeCreditCount row.credits)
    dataDelayMinutesMax := dataDelayMinutes
    dataset := fields.dataset
    errorCount := .finite errorCount
    meteredRows := .finite (normalizeNonNegativeCount row.meteredRows)
    missingRows := .finite missingRows
    packageCode := fields.packageCode
    requestIds := uniqueStrings [row.requestId]
    slaStatus := slaStatusOf dataDelayMinutes (.finite missingRows) (.finite errorCount)
    table := "aiphabee_core.partner_reconciliation_report_line"
    usageCount := .finite row.calls
    usageEventIds := uniqueStrings [row.usageEventId]
    userId := fields.userId }

def mergeRow (existing : Group) (row : PartnerReconciliationUsageRowInput) : Group :=
  let dataDelayMinutesMax :=
    max existing.dataDelayMinutesMax (normalizeNonNegativeCount row.dataDelayMinutes)
  let errorCount :=
    existing.errorCount.add (.finite (normalizeNonNegativeCount row.errorCount))
  let missingRows :=
    existing.missingRows.add (.finite (normalizeNonNegativeCount row.missingRows))
  { existing with
    backfillCount :=
      existing.backfillCount.add (.finite (normalizeNonNegativeCount row.backfillCount))
    credits := existing.credits.add (.finite (normalizeCreditCount row.credits))
    dataDelayMinutesMax := dataDelayMinutesMax
    errorCount := errorCount
    meteredRows :=
      existing.meteredRows.add (.finite (normalizeNonNegativeCount row.meteredRows))
    missingRows := missingRows
    requestIds := uniqueStrings (existing.requestIds.map some ++ [row.requestId])
    slaStatus := slaStatusOf dataDelayMinutesMax missingRows errorCount
    usageCount := existing.usageCount.add (.finite row.calls)
    usageEventIds := uniqueStrings (existing.usageEventIds.map some ++ [row.usageEventId]) }

structure ReportLine extends Group where
  lineId : String

def GroupFields.sortText (fields : GroupFields) : String :=
  "\u0000".intercalate
    [fields.dataset, fields.channel.text, fields.packageCode.text, fields.userId]

/-- The order of lines; `localeCompare` is the collation order of the runtime. -/
def sortsBefore (localeCompare : String → String → Int) (left right : GroupFields) : Bool :=
  localeCompare left.sortText right.sortText ≤ 0

def sortedGroups (localeCompare : String → String → Int)
    (rows : List PartnerReconciliationUsageRowInput) : List Group :=
  let groups := GroupBy.groupBy (fun row => row.groupFields.groupKey) startGroup mergeRow rows
  (groups.map Prod.snd).mergeSort fun left right =>
    sortsBefore localeCompare left.groupFields right.groupFields

def aggregatePartnerReconciliationRows (localeCompare : String → String → Int) (reportId : String)
    (rows : List PartnerReconciliationUsageRowInput) : List ReportLine :=
  (sortedGroups localeCompare rows).mapIdx fun index group =>
    { group with
      lineId :=
        "partner_reconciliation_line_" ++ sanitizeId reportId ++ "_" ++ toString (index + 1) }

@[ext]
structure Summary where
  backfillCount : WholeNumber
  creditTotal : WholeNumber
  datasetCount : Nat
  delayedLineCount : Nat
  errorCount : WholeNumber
  lineCount : Nat
  meteredRowTotal : WholeNumber
  missingRows : WholeNumber
  usageCountTotal : WholeNumber
  userCount : Nat

def sumOfLines (field : ReportLine → WholeNumber) (lines : List ReportLine) : WholeNumber :=
  lines.foldl (fun total line => total.add (field line)) (.finite 0)

def summarizePartnerReconciliationRows (lines : List ReportLine) : Summary :=
  { backfillCount := sumOfLines (fun line => line.backfillCount) lines
    creditTotal := sumOfLines (fun line => line.credits) lines
    datasetCount := (lines.map fun line => line.dataset).eraseDups.length
    delayedLineCount := (lines.filter fun line => 0 < line.dataDelayMinutesMax).length
    errorCount := sumOfLines (fun line => line.errorCount) lines
    lineCount := lines.length
    meteredRowTotal := sumOfLines (fun line => line.meteredRows) lines
    missingRows := sumOfLines (fun line => line.missingRows) lines
    usageCountTotal := sumOfLines (fun line => line.usageCount) lines
    userCount := (lines.map fun line => line.userId).eraseDups.length }

end Aiphabee.PartnerReconciliation
