import Aiphabee.NetquityMirror.RowTokenizer
import Aiphabee.Sql.Upserts
import Aiphabee.Text.Checks
import Aiphabee.Text.JsDate

/-!
# The mirror updater

A delivered table is staged and written to the mirror in one transaction, in
one of three ways: the file replaces the table, or is merged by key, or
replaces a window of dates and what it supplies again.  A gate that fails rolls
the transaction back.

The database is a multiset of rows; how it reads the text of a date is given.
-/

namespace Aiphabee.NetquityMirror

open MdbExport (RowField isNullField)
open Sql (Row Key)

structure Period (α : Type) where
  start : α
  stop : α

/-- The pattern `^\d{4}-\d{2}-\d{2}(?: \d{2}:\d{2}:\d{2})?$`. -/
def isTimestampLiteral (value : JsText) : Bool :=
  let chars := value.map fun u => Char.ofNat u.toNat
  JsDate.hasForm "0000-00-00".toList chars || JsDate.hasForm "0000-00-00 00:00:00".toList chars

/-- The literals of the one row of the control table, in their order. -/
def resolveDataPeriodWindow : List (List RowField) → Option (Period JsText)
  | [startField :: endField :: _] =>
    if isNullField startField || isNullField endField then none
    else if isTimestampLiteral endField.value && isTimestampLiteral startField.value then
      some { start := startField.value, stop := endField.value }
    else none
  | _ => none

inductive Mode (κ : Type)
  | replaceAll
  | upsertOnly
  | windowReplace (windowColumn : κ) (dataPeriod : List (List RowField))

/-- Why a table was not written. -/
inductive UpdateError
  | planInvalid
  | periodInvalid
  | exportFailed
  | copyFailed
  | rowCountGate (expected found : Nat)
  | keylessRefused (unsafeCount : Nat)
  | keyViolation
  | postInsertGate (targetInWindow stagedInWindow : Nat)

/--
A delivered file: the number of its rows as it is counted beforehand, whether
its export succeeds, and the rows that are staged, where all of them are rows
of the table.
-/
structure Delivery (κ ν : Type) where
  sourceRows : Nat
  exportOk : Bool
  rows : Option (List (Row κ ν))

structure Outcome (κ ν : Type) where
  table : Multiset (Row κ ν)
  error : Option UpdateError

section Scripts

variable {κ ν : Type}

/-- A transaction: its table is kept when the script ends, and else is as it was. -/
def runMdbCopyPipeline
    (script : List (Row κ ν) → Multiset (Row κ ν) → Except UpdateError (Multiset (Row κ ν)))
    (delivery : Delivery κ ν) (table : Multiset (Row κ ν)) : Outcome κ ν :=
  let committed := do
    let staged ← Checks.require delivery.rows UpdateError.copyFailed
    Checks.ensure delivery.exportOk UpdateError.exportFailed
    script staged table
  match committed with
  | .ok after => { table := after, error := none }
  | .error error => { table, error := some error }

def rowCountGate (rows : Multiset (Row κ ν)) (expected : Nat) : Except UpdateError Unit :=
  Checks.ensure (rows.card = expected) (.rowCountGate expected rows.card)

variable [DecidableEq ν]

def replaceAllScript (key : Key κ) (sourceRows : Nat) (staged : List (Row κ ν))
    (_table : Multiset (Row κ ν)) : Except UpdateError (Multiset (Row κ ν)) := do
  let target ← Checks.require (Sql.insertRows key 0 staged) .keyViolation
  rowCountGate target sourceRows
  pure target

variable [Fintype κ] [DecidableEq κ]

def hasNonKeyColumn (key : Key κ) : Bool :=
  ∃ column, column ∉ key.columns

def onConflictAction (key : Key κ) : Sql.ConflictAction :=
  if hasNonKeyColumn key then .doUpdate else .doNothing

def upsertOnlyScript (key : Key κ) (sourceRows : Nat) (staged : List (Row κ ν))
    (table : Multiset (Row κ ν)) : Except UpdateError (Multiset (Row κ ν)) := do
  rowCountGate (staged : Multiset (Row κ ν)) sourceRows
  Checks.require (Sql.upsertRows key (onConflictAction key) table staged) .keyViolation

variable [LE ν] [DecidableLE ν]

def inWindow (windowColumn : κ) (period : Period ν) (row : Row κ ν) : Sql.Truth :=
  Sql.between period.start period.stop (row windowColumn)

def outOfWindow (windowColumn : κ) (period : Period ν) (row : Row κ ν) : Sql.Truth :=
  (Sql.isNull (row windowColumn)).or (inWindow windowColumn period row).not

/-- The columns that a staged row must share with one that it replaces: the key, or all. -/
def matchColumns : Key κ → Finset κ
  | .none => Finset.univ
  | .primary columns => columns.toFinset
  | .unique columns => columns.toFinset

def matchPredicate (key : Key κ) (row staged : Row κ ν) : Sql.Truth :=
  some (∀ column ∈ matchColumns key,
    Sql.isNotDistinct (staged column) (row column) = some true)

/-- The rows that are deleted: in the window, or about to be supplied again. -/
def deleteCondition (key : Key κ) (windowColumn : κ) (period : Period ν)
    (staged : Multiset (Row κ ν)) (row : Row κ ν) : Sql.Truth :=
  (inWindow windowColumn period row).or (Sql.existsRow staged (matchPredicate key row))

def keylessOutOfWindowGuard (key : Key κ) (windowColumn : κ) (period : Period ν)
    (staged : Multiset (Row κ ν)) : Except UpdateError Unit :=
  match key with
  | .none =>
    let unsafeCount := (Sql.select (outOfWindow windowColumn period) staged).card
    Checks.ensure (unsafeCount = 0) (.keylessRefused unsafeCount)
  | _ => .ok ()

def postInsertGate (windowColumn : κ) (period : Period ν) (staged target : Multiset (Row κ ν)) :
    Except UpdateError Unit :=
  let targetInWindow := (Sql.select (inWindow windowColumn period) target).card
  let stagedInWindow := (Sql.select (inWindow windowColumn period) staged).card
  Checks.ensure (targetInWindow = stagedInWindow)
    (.postInsertGate targetInWindow stagedInWindow)

def windowReplaceScript (key : Key κ) (windowColumn : κ) (period : Period ν) (sourceRows : Nat)
    (staged : List (Row κ ν)) (table : Multiset (Row κ ν)) :
    Except UpdateError (Multiset (Row κ ν)) := do
  rowCountGate (staged : Multiset (Row κ ν)) sourceRows
  keylessOutOfWindowGuard key windowColumn period staged
  let remaining := Sql.delete (deleteCondition key windowColumn period staged) table
  let target ← Checks.require (Sql.insertRows key remaining staged) .keyViolation
  postInsertGate windowColumn period staged target
  pure target

def periodOf (castLiteral : JsText → Option ν) (dataPeriod : List (List RowField)) :
    Option (Period ν) := do
  let literals ← resolveDataPeriodWindow dataPeriod
  let start ← castLiteral literals.start
  let stop ← castLiteral literals.stop
  pure { start, stop }

def processPlanItem (castLiteral : JsText → Option ν) (key : Key κ) (mode : Mode κ)
    (delivery : Delivery κ ν) (table : Multiset (Row κ ν)) : Outcome κ ν :=
  match mode with
  | .replaceAll =>
    runMdbCopyPipeline (replaceAllScript key delivery.sourceRows) delivery table
  | .upsertOnly =>
    if key.columns = [] then
      { table, error := some .planInvalid }
    else
      runMdbCopyPipeline (upsertOnlyScript key delivery.sourceRows) delivery table
  | .windowReplace windowColumn dataPeriod =>
    match periodOf castLiteral dataPeriod with
    | none => { table, error := some .periodInvalid }
    | some period =>
      runMdbCopyPipeline (windowReplaceScript key windowColumn period delivery.sourceRows)
        delivery table

end Scripts

end Aiphabee.NetquityMirror
