import Aiphabee.NetquityMirror.UpdateScripts

/-!
# The law of window replacement

What a window replacement leaves: the old rows that are neither in the window
nor supplied again, and all that is staged.  The gates never stop a run that
would leave this, and a second run leaves it again.
-/

namespace Aiphabee.NetquityMirror

open Checks
open MdbExport (RowField)
open Sql (Row Key)

section Pipelines

variable {κ ν : Type}

variable {script : List (Row κ ν) → Multiset (Row κ ν) → Except UpdateError (Multiset (Row κ ν))}
variable {table : Multiset (Row κ ν)}

theorem runMdbCopyPipeline_failed {delivery : Delivery κ ν}
    (h : (runMdbCopyPipeline script delivery table).error ≠ none) :
    (runMdbCopyPipeline script delivery table).table = table := by
  rw [runMdbCopyPipeline] at h ⊢
  split
  next hok =>
    simp only [hok] at h
    exact absurd rfl h
  next => rfl

theorem runMdbCopyPipeline_committed {delivery : Delivery κ ν}
    (h : (runMdbCopyPipeline script delivery table).error = none) :
    ∃ staged, delivery.rows = some staged ∧ delivery.exportOk = true ∧
      script staged table = .ok (runMdbCopyPipeline script delivery table).table := by
  rw [runMdbCopyPipeline] at h ⊢
  split
  next after hok =>
    simp only [bind_eq_ok, require_eq_ok, ensure_eq_ok] at hok
    obtain ⟨staged, hrows, -, hexport, hscript⟩ := hok
    exact ⟨staged, hrows, hexport, hscript⟩
  next error herror => simp [herror] at h

theorem runMdbCopyPipeline_commits {delivery : Delivery κ ν} {staged : List (Row κ ν)}
    {after : Multiset (Row κ ν)} (hrows : delivery.rows = some staged)
    (hexport : delivery.exportOk = true) (hscript : script staged table = .ok after) :
    (runMdbCopyPipeline script delivery table).error = none := by
  rw [runMdbCopyPipeline, hrows, require_some, ok_bind,
    ensure_of _ hexport, ok_bind, hscript]

end Pipelines

section Law

variable {κ ν : Type} [Fintype κ] [DecidableEq κ] [DecidableEq ν] [LE ν] [DecidableLE ν]

def Inside (windowColumn : κ) (period : Period ν) (row : Row κ ν) : Prop :=
  ∃ value, row windowColumn = some value ∧ period.start ≤ value ∧ value ≤ period.stop

variable (key : Key κ)

def SharesKey (staged : Multiset (Row κ ν)) (row : Row κ ν) : Prop :=
  ∃ new ∈ staged, ∀ column ∈ matchColumns key, new column = row column

open Classical in
/-- What a window replacement should leave. -/
noncomputable def replaced (windowColumn : κ) (period : Period ν)
    (staged old : Multiset (Row κ ν)) : Multiset (Row κ ν) :=
  (old.filter fun row => ¬Inside windowColumn period row ∧ ¬SharesKey key staged row) + staged

omit [Fintype κ] [DecidableEq κ] [DecidableEq ν] in
theorem inWindow_eq_true (windowColumn : κ) (period : Period ν) (row : Row κ ν) :
    inWindow windowColumn period row = some true ↔ Inside windowColumn period row :=
  Sql.between_eq_true _ _ _

omit [Fintype κ] [DecidableEq κ] [DecidableEq ν] in
theorem outOfWindow_eq_true (windowColumn : κ) (period : Period ν) (row : Row κ ν) :
    outOfWindow windowColumn period row = some true ↔ ¬Inside windowColumn period row := by
  rw [outOfWindow, inWindow, Sql.outside_eq_true, ← inWindow_eq_true]
  rfl

omit [LE ν] [DecidableLE ν] in
theorem existsMatch_eq_true (staged : Multiset (Row κ ν)) (row : Row κ ν) :
    Sql.existsRow staged (matchPredicate key row) = some true ↔ SharesKey key staged row := by
  simp [Sql.existsRow_eq_true, matchPredicate, SharesKey]

theorem delete_add_staged (windowColumn : κ) (period : Period ν) (staged old : Multiset (Row κ ν)) :
    Sql.delete (deleteCondition key windowColumn period staged) old + staged =
      replaced key windowColumn period staged old := by
  classical
  rw [replaced, Sql.delete]
  refine congrArg (· + staged) (Multiset.filter_congr fun row _ => ?_)
  rw [deleteCondition, Ne, Sql.Truth.or_eq_true, not_or, inWindow_eq_true, existsMatch_eq_true]

omit [DecidableEq ν] in
theorem select_replaced (windowColumn : κ) (period : Period ν) (staged old : Multiset (Row κ ν)) :
    Sql.select (inWindow windowColumn period) (replaced key windowColumn period staged old) =
      Sql.select (inWindow windowColumn period) staged := by
  classical
  rw [replaced, Sql.select, Multiset.filter_add]
  refine (congrArg (· + _) (Multiset.filter_eq_nil.mpr ?_)).trans (zero_add _)
  intro row hrow hin
  exact (Multiset.mem_filter.mp hrow).2.1 ((inWindow_eq_true _ _ _).mp hin)

omit [DecidableEq ν] in
theorem postInsertGate_of_replaced (windowColumn : κ) (period : Period ν)
    (staged old : Multiset (Row κ ν)) :
    postInsertGate windowColumn period staged (replaced key windowColumn period staged old) =
      .ok () := by
  rw [postInsertGate, select_replaced]
  exact ensure_of _ rfl

omit [DecidableEq ν] [DecidableLE ν] in
theorem replaced_replaced (windowColumn : κ) (period : Period ν) (staged old : Multiset (Row κ ν)) :
    replaced key windowColumn period staged (replaced key windowColumn period staged old) =
      replaced key windowColumn period staged old := by
  classical
  simp only [replaced]
  rw [Multiset.filter_add, Multiset.filter_filter]
  have hnone : (staged.filter fun row =>
      ¬Inside windowColumn period row ∧ ¬SharesKey key staged row) = 0 := by
    refine Multiset.filter_eq_nil.mpr ?_
    rintro row hrow ⟨-, hother⟩
    exact hother ⟨row, hrow, fun _ _ => rfl⟩
  rw [hnone, add_zero]
  exact congrArg (· + staged) (Multiset.filter_congr fun row _ => and_self_iff)

omit [Fintype κ] [DecidableEq κ] [DecidableEq ν] in
theorem keylessOutOfWindowGuard_eq_ok (windowColumn : κ) (period : Period ν)
    (staged : Multiset (Row κ ν)) :
    keylessOutOfWindowGuard key windowColumn period staged = .ok () ↔
      (key = .none → ∀ row ∈ staged, Inside windowColumn period row) := by
  cases key with
  | none =>
    rw [keylessOutOfWindowGuard, ensure_eq_ok, Multiset.card_eq_zero, Sql.select,
      Multiset.filter_eq_nil]
    simp only [outOfWindow_eq_true, not_not, true_imp_iff]
  | primary columns => simp [keylessOutOfWindowGuard]
  | unique columns => simp [keylessOutOfWindowGuard]

variable {windowColumn : κ}
variable {key : Key κ}

theorem windowReplaceScript_eq_ok {period : Period ν} {sourceRows : Nat} {staged : List (Row κ ν)}
    {table after : Multiset (Row κ ν)} :
    windowReplaceScript key windowColumn period sourceRows staged table = .ok after ↔
      staged.length = sourceRows ∧
        (key = .none → ∀ row ∈ staged, Inside windowColumn period row) ∧
        key.Holds (replaced key windowColumn period (staged : Multiset (Row κ ν)) table) ∧
        after = replaced key windowColumn period (staged : Multiset (Row κ ν)) table := by
  simp only [windowReplaceScript, rowCountGate, bind_eq_ok, ensure_eq_ok,
    require_eq_ok, Sql.insertRows_eq_some, delete_add_staged]
  constructor
  · rintro ⟨-, hcount, _, hguard, target, ⟨hholds, rfl⟩, -, -, hafter⟩
    exact ⟨hcount, (keylessOutOfWindowGuard_eq_ok _ _ _ _).mp hguard, hholds,
      (Except.ok.inj hafter).symm⟩
  · rintro ⟨hcount, hguard, hholds, rfl⟩
    exact ⟨(), hcount, (), (keylessOutOfWindowGuard_eq_ok _ _ _ _).mpr hguard, _,
      ⟨hholds, rfl⟩, (), postInsertGate_of_replaced _ _ _ _ _, rfl⟩

def updateWindow (castLiteral : JsText → Option ν) (key : Key κ) (windowColumn : κ)
    (dataPeriod : List (List RowField)) (delivery : Delivery κ ν) (table : Multiset (Row κ ν)) :
    Outcome κ ν :=
  processPlanItem castLiteral key (.windowReplace windowColumn dataPeriod) delivery table

variable {castLiteral : JsText → Option ν}
variable {dataPeriod : List (List RowField)}
variable {table : Multiset (Row κ ν)}
variable {delivery : Delivery κ ν}

theorem updateWindow_committed
    (h : (updateWindow castLiteral key windowColumn dataPeriod delivery table).error = none) :
    ∃ period staged, periodOf castLiteral dataPeriod = some period ∧
      delivery.rows = some staged ∧ staged.length = delivery.sourceRows ∧
      (key = .none → ∀ row ∈ staged, Inside windowColumn period row) ∧
      key.Holds (replaced key windowColumn period (staged : Multiset (Row κ ν)) table) ∧
      (updateWindow castLiteral key windowColumn dataPeriod delivery table).table =
        replaced key windowColumn period (staged : Multiset (Row κ ν)) table := by
  rw [updateWindow, processPlanItem] at h ⊢
  cases hperiod : periodOf castLiteral dataPeriod with
  | none => simp [hperiod] at h
  | some period =>
    simp only [hperiod] at h ⊢
    obtain ⟨staged, hrows, -, hscript⟩ := runMdbCopyPipeline_committed h
    obtain ⟨hcount, hguard, hholds, hafter⟩ := windowReplaceScript_eq_ok.mp hscript
    exact ⟨period, staged, rfl, hrows, hcount, hguard, hholds, hafter⟩

theorem updateWindow_commits {period : Period ν} {staged : List (Row κ ν)}
    (hperiod : periodOf castLiteral dataPeriod = some period) (hrows : delivery.rows = some staged)
    (hexport : delivery.exportOk = true) (hcount : staged.length = delivery.sourceRows)
    (hguard : key = .none → ∀ row ∈ staged, Inside windowColumn period row)
    (hholds : key.Holds (replaced key windowColumn period (staged : Multiset (Row κ ν)) table)) :
    (updateWindow castLiteral key windowColumn dataPeriod delivery table).error = none := by
  have hscript := windowReplaceScript_eq_ok.mpr ⟨hcount, hguard, hholds, rfl⟩
  simp only [updateWindow, processPlanItem, hperiod]
  exact runMdbCopyPipeline_commits hrows hexport hscript

theorem updateWindow_failed
    (h : (updateWindow castLiteral key windowColumn dataPeriod delivery table).error ≠ none) :
    (updateWindow castLiteral key windowColumn dataPeriod delivery table).table = table := by
  rw [updateWindow, processPlanItem] at h ⊢
  cases hperiod : periodOf castLiteral dataPeriod with
  | none => rfl
  | some period =>
    simp only [hperiod] at h ⊢
    exact runMdbCopyPipeline_failed h

/--
A run that commits leaves the old rows that are neither in the window nor
share a key with a staged row, and all staged rows.  The count gates stop no
other run: the gate behind the insertion refuses no table that is so, the one
of the staged rows only what is not the whole file, and a run commits whose key
allows what it leaves.  A table without a key is never written from rows
outside the window, a run that fails changes nothing, and neither does a second
run of the file.
-/
theorem updateWindow_law (castLiteral : JsText → Option ν) (key : Key κ) (windowColumn : κ)
    (dataPeriod : List (List RowField)) (delivery : Delivery κ ν) (table : Multiset (Row κ ν)) :
    let outcome := updateWindow castLiteral key windowColumn dataPeriod delivery table
    (outcome.error = none → ∃ period staged, periodOf castLiteral dataPeriod = some period ∧
      delivery.rows = some staged ∧
      outcome.table = replaced key windowColumn period (staged : Multiset (Row κ ν)) table) ∧
    (∀ (period : Period ν) (staged after : Multiset (Row κ ν)),
      postInsertGate windowColumn period staged after ≠ .ok () →
        after ≠ replaced key windowColumn period staged table) ∧
    (∀ staged file : Multiset (Row κ ν), rowCountGate staged file.card ≠ .ok () →
      staged ≠ file) ∧
    (∀ period staged, periodOf castLiteral dataPeriod = some period →
      delivery.rows = some staged → delivery.exportOk = true →
        staged.length = delivery.sourceRows →
          (key = .none → ∀ row ∈ staged, Inside windowColumn period row) →
            key.Holds (replaced key windowColumn period (staged : Multiset (Row κ ν)) table) →
              outcome.error = none) ∧
    (∀ period staged, periodOf castLiteral dataPeriod = some period →
      delivery.rows = some staged → key = .none →
        (∃ row ∈ staged, ¬Inside windowColumn period row) → outcome.error ≠ none) ∧
    (outcome.error ≠ none → outcome.table = table) ∧
    (∀ again : Delivery κ ν, outcome.error = none → again.rows = delivery.rows →
      (updateWindow castLiteral key windowColumn dataPeriod again outcome.table).table =
        outcome.table) := by
  intro outcome
  refine ⟨?_, ?_, ?_, fun period staged => updateWindow_commits, ?_, updateWindow_failed, ?_⟩
  · intro h
    obtain ⟨period, staged, hperiod, hrows, -, -, -, hafter⟩ := updateWindow_committed h
    exact ⟨period, staged, hperiod, hrows, hafter⟩
  · rintro period staged after hgate rfl
    exact hgate (postInsertGate_of_replaced key windowColumn period staged table)
  · rintro staged file hgate rfl
    exact hgate (ensure_of _ rfl)
  · rintro period staged hperiod hrows hkey ⟨row, hrow, houtside⟩ h
    obtain ⟨other, rows, hother, hsame, -, hguard, -, -⟩ := updateWindow_committed h
    obtain rfl := Option.some.inj (hperiod.symm.trans hother)
    obtain rfl := Option.some.inj (hrows.symm.trans hsame)
    exact houtside (hguard hkey row hrow)
  · intro again h hsame
    obtain ⟨period, staged, hperiod, hrows, -, -, -, hafter⟩ := updateWindow_committed h
    by_cases hagain : (updateWindow castLiteral key windowColumn dataPeriod again
        outcome.table).error = none
    · obtain ⟨other, rows, hother, hrows', -, -, -, htable⟩ := updateWindow_committed hagain
      obtain rfl := Option.some.inj (hperiod.symm.trans hother)
      obtain rfl := Option.some.inj (hrows.symm.trans (hsame.symm.trans hrows'))
      rw [htable, hafter]
      exact replaced_replaced key windowColumn period _ table
    · exact updateWindow_failed hagain

end Law

end Aiphabee.NetquityMirror
