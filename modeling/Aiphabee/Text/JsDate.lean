import Mathlib.Data.List.Basic
import Mathlib.Data.Int.Init

/-!
# Dates of the source language

A date is a number of milliseconds since the epoch, or invalid.  Its ISO text
is defined for valid dates only.  The parser of the language accepts an ISO
text whose fields are in range, whatever the length of the month.
-/

namespace Aiphabee.JsDate

/-- A date; `none` is an invalid one. -/
abbrev Date := Option Int

/-- The date of a number of milliseconds; beyond a hundred million days there is none. -/
def ofMilliseconds (time : Int) : Date :=
  if -8640000000000000 ≤ time ∧ time ≤ 8640000000000000 then some time else none

def civilOfDays (days : Int) : Int × Int × Int :=
  -- Eras of 400 years begin in March, so that the leap day is the last of its year.
  let shifted := days + 719468
  let era := shifted / 146097
  let dayOfEra := shifted % 146097
  let yearOfEra :=
    (dayOfEra - dayOfEra / 1460 + dayOfEra / 36524 - dayOfEra / 146096) / 365
  let dayOfYear := dayOfEra - (365 * yearOfEra + yearOfEra / 4 - yearOfEra / 100)
  let shiftedMonth := (5 * dayOfYear + 2) / 153
  let day := dayOfYear - (153 * shiftedMonth + 2) / 5 + 1
  let month := if shiftedMonth < 10 then shiftedMonth + 3 else shiftedMonth - 9
  let year := yearOfEra + era * 400 + if month ≤ 2 then 1 else 0
  (year, month, day)

def padded (width number : Nat) : String :=
  let digits := Nat.toDigits 10 number
  String.ofList (List.replicate (width - digits.length) '0' ++ digits)

/-- Four digits of a year, or a sign and six. -/
def yearText (year : Int) : String :=
  if 0 ≤ year ∧ year ≤ 9999 then
    padded 4 year.toNat
  else
    (if year < 0 then "-" else "+") ++ padded 6 year.natAbs

def toISOString (date : Date) : Option String :=
  date.map fun time =>
    let (year, month, day) := civilOfDays (time / 86400000)
    let inDay := (time % 86400000).toNat
    yearText year ++ "-" ++ padded 2 month.toNat ++ "-" ++ padded 2 day.toNat ++ "T" ++
      padded 2 (inDay / 3600000) ++ ":" ++ padded 2 (inDay / 60000 % 60) ++ ":" ++
      padded 2 (inDay / 1000 % 60) ++ "." ++ padded 3 (inDay % 1000) ++ "Z"

example : toISOString (some 1783749600000) = some "2026-07-11T06:00:00.000Z" := by
  decide

/-- A text has the form of a pattern, in which `0` stands for any digit. -/
def hasForm : List Char → List Char → Bool
  | [], [] => true
  | p :: pattern, c :: text =>
    (if p = '0' then c.isDigit else p = c) && hasForm pattern text
  | _, _ => false

/-- The number that some digits of a text stand for. -/
def field (text : List Char) (start width : Nat) : Nat :=
  ((text.drop start).take width).foldl (fun n c => 10 * n + (c.toNat - '0'.toNat)) 0

def fieldsInRange (text : List Char) : Bool :=
  let month := field text 5 2
  let day := field text 8 2
  let hour := field text 11 2
  let minute := field text 14 2
  let second := field text 17 2
  1 ≤ month && month ≤ 12 && 1 ≤ day && day ≤ 31 &&
    ((hour ≤ 23 && minute ≤ 59 && second ≤ 59) ||
      (hour = 24 && minute = 0 && second = 0 && field text 20 3 = 0))

/-- An ISO text of an instant, with or without milliseconds, that parses to a valid date. -/
def isIsoDate (value : String) : Bool :=
  let text := value.toList
  (hasForm "0000-00-00T00:00:00Z".toList text ||
      hasForm "0000-00-00T00:00:00.000Z".toList text) &&
    fieldsInRange text

end Aiphabee.JsDate
