import Aiphabee.Text.NumberText
import Aiphabee.Store.InsertionMap

/-!
# The rows of an IPO bundle

A bundle is two databases, exported table by table.  A row of a table is an object
with one text for every header.  Its fields are read as texts, numbers and dates;
what identifies the row in its table is made of the fields of its primary key.
-/

namespace Aiphabee.IpoIngest

open JsText (ofString)

abbrev SourceRow := List (String × JsText)

structure ParsedTable where
  headers : List String
  records : List (List JsText)

/-- `record.some((value) => value !== "")`. -/
def isNonEmpty (record : List JsText) : Bool :=
  record.any fun value => value ≠ []

/-- `Object.fromEntries(headers.map((header, index) => [header, record[index] ?? ""]))`. -/
def rowOf (headers : List String) (record : List JsText) : SourceRow :=
  InsertionMap.ofEntries (headers.zipIdx.map fun (header, index) =>
    (header, (record[index]?).getD []))

def exportMdbTable (parsed : Option ParsedTable) : List SourceRow :=
  match parsed with
  | none => []
  | some table => (table.records.filter isNonEmpty).map (rowOf table.headers)

/-- `row[name]`. -/
def SourceRow.field (row : SourceRow) (name : String) : Option JsText :=
  InsertionMap.get row name

variable (value : Option JsText)

def text : Option JsText :=
  (value.map JsText.trim).filter fun trimmed => trimmed ≠ []

/-- `/^-?\d+(?:\.\d+)?$/u`. -/
def isNumeral (value : JsText) : Bool :=
  let unsigned := match value with
    | 45 :: rest => rest
    | value => value
  match JsNumber.spanDigits unsigned with
  | ([], _) => false
  | (_, []) => true
  | (_, 46 :: fraction) =>
    !fraction.isEmpty && fraction.all fun u => 48 ≤ u.toNat && u.toNat ≤ 57
  | _ => false

def numeric : Option JsNumber :=
  (text value).bind fun raw =>
    let normalized := raw.filter fun unit => unit ≠ 44
    if isNumeral normalized then some (JsNumber.ofText normalized) else none

/-- `Math.trunc(number)`. -/
def truncated : JsNumber → JsNumber
  | .finite value => .finite (if 0 ≤ value then ⌊value⌋ else ⌈value⌉)
  | number => number

def integer : Option JsNumber :=
  (numeric value).map truncated

def isDateSeparator (unit : UInt16) : Bool :=
  unit = 47 || unit = 45

/-- `\s+\d{1,2}:\d{2}:\d{2}$`: the three texts of digits. -/
def timeOf (rest : JsText) : Option (JsText × JsText × JsText) :=
  match rest.span JsText.isWhiteSpace with
  | ([], _) => none
  | (_, clock) =>
    match JsNumber.spanDigits clock with
    | (hour, 58 :: rest) =>
      match JsNumber.spanDigits rest with
      | (minute, 58 :: rest) =>
        match JsNumber.spanDigits rest with
        | (second, []) =>
          if (hour.length = 1 ∨ hour.length = 2) ∧ minute.length = 2 ∧
              second.length = 2 then
            some (hour, minute, second)
          else none
        | _ => none
      | _ => none
    | _ => none

def numberOf (digits : JsText) : Nat :=
  (JsNumber.wholeOfDigits 10 digits).getD 0

def dateMatch (raw : JsText) : Option (JsText × JsText × JsText × JsText) :=
  match JsNumber.spanDigits raw with
  | (first, separator :: rest) =>
    match JsNumber.spanDigits rest with
    | (second, otherSeparator :: rest) =>
      let (third, rest) := JsNumber.spanDigits rest
      if isDateSeparator separator ∧ isDateSeparator otherSeparator ∧
          (1 ≤ first.length ∧ first.length ≤ 4) ∧
          (1 ≤ second.length ∧ second.length ≤ 2) ∧
          (1 ≤ third.length ∧ third.length ≤ 4) ∧
          (rest = [] ∨ (timeOf rest).isSome) then
        some (first, second, third, rest)
      else none
    | _ => none
  | _ => none

def isLeapYear (year : Nat) : Bool :=
  year % 4 = 0 && (year % 100 ≠ 0 || year % 400 = 0)

def daysInMonth (year month : Nat) : Nat :=
  if month = 2 then if isLeapYear year then 29 else 28
  else if month = 4 ∨ month = 6 ∨ month = 9 ∨ month = 11 then 30
  else 31

/-- The day is one of the calendar.  `Date.UTC` takes a year below 100 for one of the last
century, which then differs. -/
def validDateParts (year month day : Nat) : Bool :=
  100 ≤ year && 1 ≤ month && month ≤ 12 && 1 ≤ day && day ≤ daysInMonth year month

def padded (width number : Nat) : JsText :=
  let digits := ofString (toString number)
  List.replicate (width - digits.length) 48 ++ digits

/-- The year that stands last; one of two digits is between 1970 and 2069. -/
def fullYear (year : Nat) : Nat :=
  if year < 100 then year + if 70 ≤ year then 1900 else 2000 else year

def accessDate : Option JsText :=
  (text value).bind fun raw => (dateMatch raw).bind fun (first, second, third, _) =>
    let (year, month, day) :=
      if first.length = 4 then (numberOf first, numberOf second, numberOf third)
      else (fullYear (numberOf third), numberOf first, numberOf second)
    if validDateParts year month day then
      some (padded 4 year ++ 45 :: padded 2 month ++ 45 :: padded 2 day)
    else none

def endTime : Option (JsText × JsText × JsText) :=
  (text value).bind fun raw => (dateMatch raw).bind fun (_, _, _, rest) => timeOf rest

def accessTimestamp : Option JsText :=
  (accessDate value).map fun date =>
    let time := match endTime value with
      | some (hour, minute, second) =>
        padded 2 (numberOf hour) ++ 58 :: minute ++ 58 :: second
      | none => ofString "00:00:00"
    date ++ 32 :: time ++ ofString "+08"

/-- The field ends in a time, for a field that is a date, and it is not midnight. -/
def hasTime : Bool :=
  match endTime value with
  | some (hour, minute, second) =>
    (hour, minute, second) ≠
      (ofString "00", ofString "00", ofString "00")
  | none => false

example :
    accessDate (some (ofString " 02/29/24 09:30:00 ")) =
      some (ofString "2024-02-29") := by
  decide +kernel

inductive PrimaryKey
  | nil
  | parts (fields : List String)
  | code (field : String)

structure SourceTable where
  name : String
  primaryKey : PrimaryKey
  recordKind : String

def offeringKey : List String :=
  ["Code", "ListingDate"]

def expectedNewipoTables : List SourceTable :=
  [⟨"DataPeriod", .nil, "ipo_data_period"⟩,
    ⟨"DataPeriod_LockUpPeriod", .nil, "ipo_data_period"⟩,
    ⟨"DataPeriod_Plan", .nil, "ipo_data_period"⟩,
    ⟨"NewIPOInfo", .parts offeringKey, "ipo_overview"⟩,
    ⟨"ExpectedTimetable", .parts offeringKey, "ipo_timetable"⟩,
    ⟨"CompanySummary", .parts offeringKey, "ipo_summary"⟩,
    ⟨"OfferStatistics", .parts offeringKey, "ipo_offer_statistics"⟩,
    ⟨"PartiesInvolved", .parts offeringKey, "ipo_parties"⟩,
    ⟨"CompInfo", .parts offeringKey, "ipo_corporate_info"⟩,
    ⟨"CSI_Info", .parts (offeringKey ++ ["CSI_EngName"]), "ipo_cornerstone"⟩,
    ⟨"Pool", .parts offeringKey, "ipo_pool"⟩,
    ⟨"ClawBack", .parts offeringKey, "ipo_clawback"⟩,
    ⟨"AllotmentResult", .parts (offeringKey ++ ["Pool", "Share_App"]), "ipo_allotment"⟩,
    ⟨"AllotmentSummary", .parts offeringKey, "ipo_allotment"⟩,
    ⟨"Plan_Info", .parts ["AppCode"], "ipo_pipeline"⟩,
    ⟨"App_Detail", .parts offeringKey, "ipo_application"⟩,
    ⟨"App_Share", .parts (offeringKey ++ ["Pool", "Share_App"]), "ipo_application"⟩,
    ⟨"LockUpPeriod", .parts (offeringKey ++ ["LockUpShareType", "LockUpEndDate1"]),
      "ipo_lockup"⟩]

def referencedCodeTables : List SourceTable :=
  [⟨"CurrencyCode", .code "CurrCode", "vendor_code"⟩,
    ⟨"SectorCode", .code "SectorCode", "vendor_code"⟩,
    ⟨"IndustryCode", .code "IndustryCode", "vendor_code"⟩,
    ⟨"SubIndustryCode", .code "SubIndustryCode", "vendor_code"⟩,
    ⟨"RegistrarCode", .code "RegistrarCode", "vendor_code"⟩,
    ⟨"LockUpShareType", .code "LockUpShareType", "vendor_code"⟩]

def joined (values : List JsText) : JsText :=
  [124].intercalate values

def normalizedKeyPart : JsText :=
  ((accessDate value).or (text value)).getD []

/-- `index + 1` as a text. -/
def ordinal (index : Nat) : JsText :=
  ofString (toString (index + 1))

def sourceRecordIdFor (table : SourceTable) (row : SourceRow) (index : Nat) : JsText :=
  let name := ofString table.name
  match table.primaryKey with
  | .nil => joined [name, ordinal index]
  | .code field => joined [name, (text (row.field field)).getD (ordinal index)]
  | .parts fields =>
    joined [name, joined (fields.map fun field => normalizedKeyPart (row.field field))]

def offeringIdFor (row : SourceRow) : Option JsText :=
  match text (row.field "Code"), accessDate (row.field "ListingDate") with
  | some code, some listingDate => some (joined [code, listingDate])
  | _, _ => none

abbrev Bundle := String → Option ParsedTable

/-- `tableRows.get(name)`. -/
def Bundle.rows (bundle : Bundle) (name : String) : List SourceRow :=
  exportMdbTable (bundle name)

end Aiphabee.IpoIngest
