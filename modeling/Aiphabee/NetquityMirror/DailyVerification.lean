import Aiphabee.NetquityMirror.WindowReplace

/-!
# The daily verification of the mirror

The verifier stages the delivered file once more and compares it with the
table, row by row: as a whole, among the rows with the file's keys, or in the
window, with the staged rows outside it anywhere in the table.

Updater and verifier agree, and a second run changes nothing, except for a
merge by key: there a null in a key, or a row that is delivered twice to a
table of key columns alone, is loaded and never found again.
-/

namespace Aiphabee.NetquityMirror

open Sql
open MdbExport (RowField)

variable {κ ν : Type} [Fintype κ] [DecidableEq κ] [DecidableEq ν]
variable (columns : List κ)
variable {key : Key κ}

section Verifiers

structure RowLevel where
  extraInFile : Nat
  extraInDb : Nat

def RowLevel.ok (counts : RowLevel) : Bool :=
  counts.extraInFile = 0 && counts.extraInDb = 0

/-- The counts of the two sides of `EXCEPT ALL`. -/
def compareRows (file table : Multiset (Row κ ν)) : RowLevel where
  extraInFile := (exceptAll file table).card
  extraInDb := (exceptAll table file).card

def verifyReplaceAllRowLevel (file table : Multiset (Row κ ν)) : Bool :=
  (compareRows file table).ok

def scopedTarget (file table : Multiset (Row κ ν)) : Multiset (Row κ ν) :=
  select (fun row => inRows (keyOf columns row) (file.map (keyOf columns))) table

def verifyUpsertRowLevel (key : Key κ) (file table : Multiset (Row κ ν)) : Bool :=
  if key.columns = [] then
    false
  else
    (compareRows file (scopedTarget key.columns file table)).ok

variable [LE ν] [DecidableLE ν]

def verifyWindowRowLevel (key : Key κ) (windowColumn : κ) (period : Period ν)
    (file table : Multiset (Row κ ν)) : Bool :=
  let outOfWindowFile := select (outOfWindow windowColumn period) file
  let counts := compareRows (select (inWindow windowColumn period) file)
    (select (inWindow windowColumn period) table)
  let outOfWindowUncovered := (exceptAll outOfWindowFile table).card
  let unsafeKeylessOutOfWindow := key.isNone && 0 < outOfWindowFile.card
  counts.ok && outOfWindowUncovered = 0 && !unsafeKeylessOutOfWindow

def verifyDaily (castLiteral : JsText → Option ν) (key : Key κ) (mode : Mode κ)
    (file table : Multiset (Row κ ν)) : Bool :=
  match mode with
  | .replaceAll => verifyReplaceAllRowLevel file table
  | .upsertOnly => verifyUpsertRowLevel key file table
  | .windowReplace windowColumn dataPeriod =>
    (periodOf castLiteral dataPeriod).any fun period =>
      verifyWindowRowLevel key windowColumn period file table

end Verifiers

section Comparison

omit [DecidableEq κ] in
theorem compareRows_ok (file table : Multiset (Row κ ν)) :
    (compareRows file table).ok = true ↔ file = table := by
  rw [RowLevel.ok, Bool.and_eq_true, decide_eq_true_eq, decide_eq_true_eq]
  exact exceptAll_both file table

omit [Fintype κ] [DecidableEq κ] in
theorem inRows_keyOf (file : List (Row κ ν)) (row : Row κ ν) :
    inRows (keyOf columns row) ((file : Multiset (Row κ ν)).map (keyOf columns)) =
        some true ↔
      Supplied columns file row := by
  rw [inRows_eq_true]
  constructor
  · rintro ⟨key, hkey, hequal⟩
    obtain ⟨new, hnew, rfl⟩ := Multiset.mem_map.mp hkey
    obtain ⟨heq, hfull⟩ := (rowEquals_eq_true (by simp [keyOf])).mp hequal
    exact ⟨hfull, new, Multiset.mem_coe.mp hnew, heq.symm⟩
  · rintro ⟨hfull, new, hnew, heq⟩
    refine ⟨keyOf columns new, Multiset.mem_map.mpr ⟨new, Multiset.mem_coe.mpr hnew, rfl⟩, ?_⟩
    exact (rowEquals_eq_true (by simp [keyOf])).mpr ⟨heq.symm, hfull⟩

omit [DecidableEq κ] in
theorem mem_of_mem_loaded {columns : List κ} {staged : Multiset (Row κ ν)}
    {action : ConflictAction} {row : Row κ ν} (h : row ∈ loaded columns staged action) :
    row ∈ staged := by
  cases action with
  | doUpdate => exact h
  | doNothing =>
    rcases Multiset.mem_add.mp h with h | h
    · exact (Multiset.mem_filter.mp h).1
    · exact (Multiset.mem_filter.mp (Multiset.mem_dedup.mp h)).1

omit [DecidableEq κ] in
theorem filter_loaded_null (staged : Multiset (Row κ ν)) (action : ConflictAction) :
    (loaded columns staged action).filter (fun row => ¬FullKey columns row) =
      staged.filter fun row => ¬FullKey columns row := by
  cases action with
  | doUpdate => rfl
  | doNothing =>
    have hnone : ((staged.filter fun row => FullKey columns row).dedup.filter
        fun row => ¬FullKey columns row) = 0 := by
      refine Multiset.filter_eq_nil.mpr fun row hrow => not_not.mpr ?_
      exact (Multiset.mem_filter.mp (Multiset.mem_dedup.mp hrow)).2
    rw [loaded, Multiset.filter_add, hnone, add_zero, Multiset.filter_filter]
    exact Multiset.filter_congr fun row _ => and_self_iff

omit [DecidableEq κ] in
theorem filter_loaded_full (staged : Multiset (Row κ ν)) (action : ConflictAction) :
    (loaded columns staged action).filter (fun row => FullKey columns row) = staged ↔
      (∀ row ∈ staged, FullKey columns row) ∧ (action = .doNothing → staged.Nodup) := by
  cases action with
  | doUpdate => simp [loaded, Multiset.filter_eq_self]
  | doNothing =>
    have hnull : (((staged.filter fun row => ¬FullKey columns row)).filter
        fun row => FullKey columns row) = 0 :=
      Multiset.filter_eq_nil.mpr fun row hrow => (Multiset.mem_filter.mp hrow).2
    have hfull : (((staged.filter fun row => FullKey columns row)).dedup.filter
        fun row => FullKey columns row) =
        (staged.filter fun row => FullKey columns row).dedup :=
      Multiset.filter_eq_self.mpr fun row hrow =>
        (Multiset.mem_filter.mp (Multiset.mem_dedup.mp hrow)).2
    rw [loaded, Multiset.filter_add, hnull, zero_add, hfull]
    constructor
    · intro h
      refine ⟨fun row hrow => ?_, fun _ => ?_⟩
      · rw [← h] at hrow
        exact (Multiset.mem_filter.mp (Multiset.mem_dedup.mp hrow)).2
      · rw [← h]
        exact Multiset.nodup_dedup _
    · rintro ⟨hall, hnodup⟩
      rw [Multiset.filter_eq_self.mpr hall]
      exact Multiset.dedup_eq_self.mpr (hnodup rfl)

end Comparison

omit [Fintype κ] [DecidableEq κ] in
theorem unique_of_holds {rows : Multiset (Row κ ν)} (hkey : key.columns ≠ []) (h : key.Holds rows) :
    Unique key.columns rows := by
  cases key with
  | none => exact absurd rfl hkey
  | primary columns => exact h.2
  | unique columns => exact h

theorem columns_of_doNothing (h : onConflictAction key = .doNothing) :
    ∀ column, column ∈ key.columns := by
  intro column
  by_contra hnot
  rw [onConflictAction, if_pos (by simpa [hasNonKeyColumn] using ⟨column, hnot⟩)] at h
  cases h

theorem verifyUpsert_iff {table after : Multiset (Row κ ν)} {staged : List (Row κ ν)}
    (hkey : key.columns ≠ []) (hunique : Unique key.columns table)
    (h : upsertRows key (onConflictAction key) table staged = some after) :
    verifyUpsertRowLevel key (staged : Multiset (Row κ ν)) after = true ↔
      (∀ row ∈ staged, FullKey key.columns row) ∧
        (onConflictAction key = .doNothing → staged.Nodup) := by
  have hafter := upsertRows_eq columns_of_doNothing hunique h
  have hscoped : scopedTarget key.columns (staged : Multiset (Row κ ν)) after =
      (loaded key.columns (staged : Multiset (Row κ ν)) (onConflictAction key)).filter
        fun row => FullKey key.columns row := by
    have hnone : ((table.filter fun row => ¬Supplied key.columns staged row).filter
        fun row => Supplied key.columns staged row) = 0 :=
      Multiset.filter_eq_nil.mpr fun row hrow => (Multiset.mem_filter.mp hrow).2
    rw [scopedTarget, select]
    simp only [inRows_keyOf]
    rw [hafter, Multiset.filter_add, hnone, zero_add]
    refine Multiset.filter_congr fun row hrow => ?_
    exact ⟨fun h => h.1, fun hfull =>
      ⟨hfull, row, Multiset.mem_coe.mp (mem_of_mem_loaded hrow), rfl⟩⟩
  rw [verifyUpsertRowLevel, if_neg hkey, compareRows_ok, hscoped, eq_comm, filter_loaded_full]
  rfl

theorem upsertRows_again {table after again : Multiset (Row κ ν)} {staged other : List (Row κ ν)}
    (hunique : Unique key.columns table)
    (h : upsertRows key (onConflictAction key) table staged = some after)
    (hsame : (other : Multiset (Row κ ν)) = (staged : Multiset (Row κ ν)))
    (hagain : upsertRows key (onConflictAction key) after other = some again) :
    again = after +
      ((staged : Multiset (Row κ ν)).filter fun row => ¬FullKey key.columns row) := by
  have hafter := upsertRows_eq columns_of_doNothing hunique h
  have hsupplied : ∀ row, Supplied key.columns other row ↔
      Supplied key.columns staged row := by
    intro row
    simp only [Supplied, ← Multiset.mem_coe, hsame]
  rw [upsertRows_eq columns_of_doNothing (upsertRows_unique hunique h) hagain, hsame]
  simp only [hsupplied]
  have hkept : (after.filter fun row => ¬Supplied key.columns staged row) =
      (table.filter fun row => ¬Supplied key.columns staged row) +
        ((staged : Multiset (Row κ ν)).filter fun row => ¬FullKey key.columns row) := by
    rw [hafter, Multiset.filter_add, Multiset.filter_filter, ← filter_loaded_null]
    refine congrArg₂ (· + ·) (Multiset.filter_congr fun row _ => and_self_iff) ?_
    refine Multiset.filter_congr fun row hrow => not_congr ?_
    exact ⟨fun h => h.1, fun hfull =>
      ⟨hfull, row, Multiset.mem_coe.mp (mem_of_mem_loaded hrow), rfl⟩⟩
  rw [hkept, add_right_comm, ← hafter]

section Agreement

variable [LE ν] [DecidableLE ν]

def Delivery.file (delivery : Delivery κ ν) : Option (Multiset (Row κ ν)) :=
  delivery.rows.map Multiset.ofList

variable {castLiteral : JsText → Option ν}
variable {delivery : Delivery κ ν}

variable {table : Multiset (Row κ ν)}

theorem replaceAll_committed
    (h : (processPlanItem castLiteral key .replaceAll delivery table).error = none) :
    delivery.file = some (processPlanItem castLiteral key .replaceAll delivery table).table := by
  obtain ⟨staged, hrows, -, hscript⟩ := runMdbCopyPipeline_committed h
  simp only [replaceAllScript, rowCountGate, Checks.bind_eq_ok, Checks.require_eq_ok,
    Checks.ensure_eq_ok, insertRows_eq_some, zero_add] at hscript
  obtain ⟨target, ⟨-, htarget⟩, -, -, hafter⟩ := hscript
  rw [Delivery.file, hrows, Option.map_some, ← htarget]
  exact congrArg some (Except.ok.inj hafter)

theorem upsertOnly_committed
    (h : (processPlanItem castLiteral key .upsertOnly delivery table).error = none) :
    key.columns ≠ [] ∧ ∃ staged, delivery.rows = some staged ∧ delivery.exportOk = true ∧
      staged.length = delivery.sourceRows ∧
      upsertRows key (onConflictAction key) table staged =
        some (processPlanItem castLiteral key .upsertOnly delivery table).table := by
  rw [processPlanItem] at h ⊢
  split at h
  next => cases h
  next hkey =>
    rw [if_neg hkey]
    obtain ⟨staged, hrows, hexport, hscript⟩ := runMdbCopyPipeline_committed h
    simp only [upsertOnlyScript, rowCountGate, Checks.bind_eq_ok, Checks.require_eq_ok,
      Checks.ensure_eq_ok] at hscript
    obtain ⟨-, hcount, hupsert⟩ := hscript
    exact ⟨hkey, staged, hrows, hexport, hcount, hupsert⟩

theorem processPlanItem_failed {mode : Mode κ}
    (h : (processPlanItem castLiteral key mode delivery table).error ≠ none) :
    (processPlanItem castLiteral key mode delivery table).table = table := by
  cases mode with
  | replaceAll => exact runMdbCopyPipeline_failed h
  | upsertOnly =>
    rw [processPlanItem] at h ⊢
    split at h
    next hkey => rw [if_pos hkey]
    next hkey =>
      rw [if_neg hkey]
      exact runMdbCopyPipeline_failed h
  | windowReplace windowColumn dataPeriod => exact updateWindow_failed h

omit [Fintype κ] [DecidableEq κ] [DecidableEq ν] [LE ν] [DecidableLE ν] in
theorem Delivery.file_eq_some {file : Multiset (Row κ ν)} :
    delivery.file = some file ↔
      ∃ rows, delivery.rows = some rows ∧ (rows : Multiset (Row κ ν)) = file :=
  Option.map_eq_some_iff

/--
When updater and verifier agree: a file that is merged by key has no null in a
key, and, where every column is in the key, no row twice.
-/
def AgreesWhen (key : Key κ) (file : Multiset (Row κ ν)) : Mode κ → Prop
  | .upsertOnly =>
    (∀ row ∈ file, FullKey key.columns row) ∧
      (hasNonKeyColumn key = false → file.Nodup)
  | _ => True

/-- What is expected of a table after a run that commits. -/
structure Agrees
    (castLiteral : JsText → Option ν)
    (key : Key κ)
    (mode : Mode κ)
    (file old after : Multiset (Row κ ν)) : Prop where
  verified : verifyDaily castLiteral key mode file after = true
  again_same : ∀ again : Delivery κ ν, again.file = some file →
    (processPlanItem castLiteral key mode again after).table = after
  others_kept : mode = .upsertOnly → ∀ row,
    keyOf key.columns row ∉ file.map (keyOf key.columns) →
    old.count row ≤ after.count row

variable {table file : Multiset (Row κ ν)}

theorem agrees_replaceAll
    (hcommit : (processPlanItem castLiteral key .replaceAll delivery table).error = none)
    (hfile : delivery.file = some file) :
    Agrees castLiteral key .replaceAll file table
      (processPlanItem castLiteral key .replaceAll delivery table).table where
  verified := by
    have hafter := replaceAll_committed hcommit
    rw [hfile] at hafter
    exact (compareRows_ok _ _).mpr (Option.some.inj hafter)
  again_same := by
    intro again hagain
    have hafter := replaceAll_committed hcommit
    rw [hfile] at hafter
    by_cases hsecond : (processPlanItem castLiteral key .replaceAll again
        (processPlanItem castLiteral key .replaceAll delivery table).table).error = none
    · have htable := replaceAll_committed hsecond
      rw [hagain] at htable
      exact Option.some.inj (htable.symm.trans hafter)
    · exact processPlanItem_failed hsecond
  others_kept := by
    intro h
    cases h

/-- The table of which a window was replaced is verified, and a second run leaves it. -/
theorem agrees_windowReplace {windowColumn : κ} {dataPeriod : List (List RowField)}
    (hcommit : (updateWindow castLiteral key windowColumn dataPeriod delivery table).error = none)
    (hfile : delivery.file = some file) :
    Agrees castLiteral key (.windowReplace windowColumn dataPeriod) file table
      (updateWindow castLiteral key windowColumn dataPeriod delivery table).table := by
  obtain ⟨period, staged, hperiod, hrows, -, hguard, -, hafter⟩ := updateWindow_committed hcommit
  obtain ⟨rows, hrows', rfl⟩ := Delivery.file_eq_some.mp hfile
  obtain rfl := Option.some.inj (hrows.symm.trans hrows')
  refine ⟨?_, ?_, fun h => nomatch h⟩
  · have hcounts := (compareRows_ok (select (inWindow windowColumn period)
      (staged : Multiset (Row κ ν))) _).mpr rfl
    have hcovered : (exceptAll (select (outOfWindow windowColumn period)
        (staged : Multiset (Row κ ν))) (replaced key windowColumn period
          (staged : Multiset (Row κ ν)) table)).card = 0 := by
      rw [card_exceptAll_eq_zero]
      exact (Multiset.filter_le _ _).trans (Multiset.le_add_left _ _)
    rw [verifyDaily, hperiod, Option.any_some, verifyWindowRowLevel, hafter, select_replaced]
    cases key with
    | none =>
      have hnone : select (outOfWindow windowColumn period)
          (staged : Multiset (Row κ ν)) = 0 := by
        refine Multiset.filter_eq_nil.mpr fun row hrow => ?_
        rw [outOfWindow_eq_true, not_not]
        exact hguard rfl row hrow
      simp [hcounts, hnone, exceptAll]
    | primary columns => simp [hcounts, hcovered, Key.isNone]
    | unique columns => simp [hcounts, hcovered, Key.isNone]
  · intro again hagain
    obtain ⟨other, hother, hsame⟩ := Delivery.file_eq_some.mp hagain
    by_cases hsecond : (updateWindow castLiteral key windowColumn dataPeriod again
        (updateWindow castLiteral key windowColumn dataPeriod delivery table).table).error = none
    · obtain ⟨period', staged', hperiod', hstaged', -, -, -, htable⟩ :=
        updateWindow_committed hsecond
      obtain rfl := Option.some.inj (hperiod.symm.trans hperiod')
      obtain rfl := Option.some.inj (hother.symm.trans hstaged')
      refine htable.trans ?_
      rw [hsame, hafter]
      exact replaced_replaced key windowColumn period _ table
    · exact updateWindow_failed hsecond

/-- A merge by key agrees when nothing that it loads has a null in the key or comes twice. -/
theorem agrees_upsertOnly_iff (hholds : key.Holds table)
    (hcommit : (processPlanItem castLiteral key .upsertOnly delivery table).error = none)
    (hfile : delivery.file = some file) :
    Agrees castLiteral key .upsertOnly file table
        (processPlanItem castLiteral key .upsertOnly delivery table).table ↔
      AgreesWhen key file .upsertOnly := by
  obtain ⟨hkey, staged, hrows, hexport, hcount, hupsert⟩ := upsertOnly_committed hcommit
  obtain ⟨rows, hrows', rfl⟩ := Delivery.file_eq_some.mp hfile
  obtain rfl := Option.some.inj (hrows.symm.trans hrows')
  have hunique := unique_of_holds hkey hholds
  have haction : onConflictAction key = .doNothing ↔ hasNonKeyColumn key = false := by
    rw [onConflictAction]
    cases hasNonKeyColumn key <;> simp
  have hverified := verifyUpsert_iff hkey hunique hupsert
  rw [haction] at hverified
  constructor
  · intro h
    exact hverified.mp h.verified
  · intro h
    refine ⟨hverified.mpr h, ?_, ?_⟩
    · intro again hagain
      obtain ⟨other, hother, hsame⟩ := Delivery.file_eq_some.mp hagain
      by_cases hsecond : (processPlanItem castLiteral key .upsertOnly again
          (processPlanItem castLiteral key .upsertOnly delivery table).table).error = none
      · obtain ⟨-, other', hother', -, -, hupsert'⟩ := upsertOnly_committed hsecond
        obtain rfl := Option.some.inj (hother.symm.trans hother')
        have hnone : ((staged : Multiset (Row κ ν)).filter
            fun row => ¬FullKey key.columns row) = 0 :=
          Multiset.filter_eq_nil.mpr fun row hrow => not_not.mpr (h.1 row hrow)
        rw [upsertRows_again hunique hupsert hsame hupsert', hnone, add_zero]
      · exact processPlanItem_failed hsecond
    · intro _ row hrow
      rw [upsertRows_eq columns_of_doNothing hunique hupsert, Multiset.count_add]
      refine le_trans (le_of_eq ?_) (Nat.le_add_right _ _)
      refine (Multiset.count_filter_of_pos (p := fun row => ¬Supplied key.columns staged row)
        ?_).symm
      rintro ⟨-, new, hnew, heq⟩
      exact hrow (Multiset.mem_map.mpr ⟨new, Multiset.mem_coe.mpr hnew, heq⟩)

/-- Updater and verifier agree on a run that commits exactly under that condition. -/
theorem agrees_iff (castLiteral : JsText → Option ν) (key : Key κ) (mode : Mode κ)
    (delivery : Delivery κ ν) (table file : Multiset (Row κ ν)) (hholds : key.Holds table)
    (hcommit : (processPlanItem castLiteral key mode delivery table).error = none)
    (hfile : delivery.file = some file) :
    Agrees castLiteral key mode file table
        (processPlanItem castLiteral key mode delivery table).table ↔
      AgreesWhen key file mode := by
  cases mode with
  | replaceAll => exact iff_of_true (agrees_replaceAll hcommit hfile) trivial
  | upsertOnly => exact agrees_upsertOnly_iff hholds hcommit hfile
  | windowReplace windowColumn dataPeriod =>
    exact iff_of_true (agrees_windowReplace hcommit hfile) trivial

end Agreement

def twoColumns (first second : Option Nat) : Row (Fin 2) Nat :=
  fun column => if column = 0 then first else second

def oneRow (row : Row (Fin 2) Nat) : Delivery (Fin 2) Nat where
  sourceRows := 1
  exportOk := true
  rows := some [row]

/-- A merge of one row by the first column, which may be null. -/
def mergeOne (row : Row (Fin 2) Nat) (table : Multiset (Row (Fin 2) Nat)) : Outcome (Fin 2) Nat :=
  processPlanItem (fun _ => none) (.unique [0]) .upsertOnly (oneRow row) table

/-- The agreement at a row with a key that the table has. -/
theorem agrees_iff_fullKey :
    Agrees (fun _ => none) (.unique [0]) .upsertOnly {twoColumns (some 1) (some 2)}
        {twoColumns (some 1) none}
        (mergeOne (twoColumns (some 1) (some 2)) {twoColumns (some 1) none}).table ↔
      AgreesWhen (.unique [0]) {twoColumns (some 1) (some 2)} .upsertOnly :=
  agrees_iff (fun _ => none) (.unique [0]) .upsertOnly (oneRow (twoColumns (some 1) (some 2)))
    {twoColumns (some 1) none} _ (by decide) (by rfl) rfl

/-- A row with a null in its key is merged, not verified, and merged again by a second run. -/
theorem nullKey_disagrees :
    (Key.unique [(0 : Fin 2)]).Holds (0 : Multiset (Row (Fin 2) Nat)) ∧
      (mergeOne (twoColumns none (some 2)) 0).error.isNone = true ∧
      verifyDaily (fun _ => none) (.unique [0]) .upsertOnly {twoColumns none (some 2)}
        (mergeOne (twoColumns none (some 2)) 0).table = false ∧
      (mergeOne (twoColumns none (some 2))
        (mergeOne (twoColumns none (some 2)) 0).table).table ≠
          (mergeOne (twoColumns none (some 2)) 0).table := by
  decide +kernel

end Aiphabee.NetquityMirror
