import Mathlib.Data.Option.Basic

/-!
# Transactions as scripts of statements

A script is what a transaction does: one statement after the other, each chosen
by what the ones in front of it read, up to a commit or a rollback.  A statement
may be refused.  An open transaction keeps the statements that it has run and
the script that is left; what it sees is the database with its own statements
applied, so that nothing of it is in the database before it commits.

As long as nobody else changes the database, an open transaction that commits
leaves what the whole script computes (`Open.commit_eq_run`).
-/

namespace Aiphabee.Transactions

universe u

variable {σ : Type u}

/-- The statements of a transaction; the next one may look at what the last one ran on. -/
inductive Script (σ : Type u)
  | commit
  | rollback
  | statement (apply : σ → Option σ) (next : σ → Script σ)

def Script.run : Script σ → σ → Option σ
  | commit, db => some db
  | rollback, _ => none
  | statement apply next, db => (apply db).bind (next db).run

@[simp] theorem run_commit (db : σ) : Script.commit.run db = some db := rfl

@[simp] theorem run_rollback (db : σ) : Script.rollback.run db = none := rfl

@[simp] theorem run_statement (apply : σ → Option σ) (next : σ → Script σ) (db : σ) :
    (Script.statement apply next).run db = (apply db).bind fun view => (next db).run view := rfl

def Script.read (next : σ → Script σ) : Script σ :=
  .statement some next

/-- A statement whose result nobody looks at. -/
def Script.write (apply : σ → Option σ) (next : Script σ) : Script σ :=
  .statement apply fun _ => next

@[simp] theorem run_read (next : σ → Script σ) (db : σ) :
    (Script.read next).run db = (next db).run db := rfl

@[simp] theorem run_write (apply : σ → Option σ) (next : Script σ) (db : σ) :
    (Script.write apply next).run db = (apply db).bind fun view => next.run view := rfl

/-- A transaction that has begun: the statements it has run and what is left. -/
structure Open (σ : Type u) where
  done : List (σ → Option σ)
  rest : Script σ

/-- A transaction that has run nothing yet. -/
def Open.begin (script : Script σ) : Open σ where
  done := []
  rest := script

variable (tx : Open σ)

/-- What the transaction sees: the database with its own statements applied. -/
def Open.view (db : σ) : Option σ :=
  tx.done.foldlM (fun view apply => apply view) db

def Open.run (db : σ) : Option (Open σ) :=
  match tx.rest with
  | .statement apply next =>
    (tx.view db).bind fun view =>
      (apply view).map fun _ => { done := tx.done ++ [apply], rest := next view }
  | _ => none

def Open.commit (db : σ) : Option σ :=
  match tx.rest with
  | .commit => tx.view db
  | _ => none

/-- The transaction is one that a script comes to on a database that stays as it is. -/
def Open.ReachedBy (script : Script σ) (db : σ) : Prop :=
  script.run db = (tx.view db).bind tx.rest.run

theorem Open.begin_reachedBy (script : Script σ) (db : σ) :
    (Open.begin script).ReachedBy script db :=
  rfl

theorem Open.ReachedBy.next {tx next : Open σ} {script : Script σ} {db : σ}
    (h : tx.ReachedBy script db) (hnext : tx.run db = some next) : next.ReachedBy script db := by
  obtain ⟨done, rest⟩ := tx
  cases rest with
  | commit => cases hnext
  | rollback => cases hnext
  | statement apply rest =>
    obtain ⟨view, hview, hmap⟩ := Option.bind_eq_some_iff.mp hnext
    obtain ⟨after, happly, rfl⟩ := Option.map_eq_some_iff.mp hmap
    have hseen : Open.view { done := done ++ [apply], rest := rest view } db = some after := by
      simp only [Open.view] at hview ⊢
      rw [List.foldlM_append, hview]
      simp [happly]
    rw [Open.ReachedBy] at h ⊢
    rw [h, hview, hseen]
    simp [happly]

theorem Open.commit_eq_run {tx : Open σ} {script : Script σ} {db after : σ}
    (h : tx.ReachedBy script db) (hcommit : tx.commit db = some after) :
    script.run db = some after := by
  obtain ⟨done, rest⟩ := tx
  cases rest with
  | commit =>
    change Open.view _ db = some after at hcommit
    rw [Open.ReachedBy] at h
    rw [h, hcommit]
    rfl
  | rollback => cases hcommit
  | statement apply next => cases hcommit

end Aiphabee.Transactions
