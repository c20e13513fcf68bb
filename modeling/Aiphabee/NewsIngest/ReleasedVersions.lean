import Aiphabee.NewsIngest.ReleaseLock
import Aiphabee.NewsIngest.ReviewedFacts

/-!
# Released versions stay as they are

A change of the database is either one of an ingest, which found the version of
the date not released and still holds the lock, or the update of a release,
whose validation passed.  So a released version of the date is never written
again.
-/

namespace Aiphabee.NewsIngest

open UniqueTable
open Transactions (Script Open)
open Transition (Run Fires fire)

variable {date : JsText}
variable {platform : Platform}
variable {db : Database}

def Mutable (date : JsText) (db : Database) : Prop :=
  ∀ row, db.dataVersions.find (idsForBusinessDate date).dataVersion = some row →
    row.releaseState = .held

structure IngestChange
    (date : JsText)
    (db after : Database) : Prop where
  mutable_before : Mutable date db
  mutable_after : Mutable date after
  others : ∀ dataVersion ≠ (idsForBusinessDate date).dataVersion,
    after.dataVersions.find dataVersion = db.dataVersions.find dataVersion

inductive Change
    (date : JsText)
    (db after : Database) : Prop
  | ingest (h : IngestChange date db after)
  | release
      (dataVersion : JsText)
      (hdate : businessDateFromDataVersion dataVersion = some date)
      (hrun : (releaseScript dataVersion).run db = some after)

theorem ingestChange_of_eq {date : JsText} {db after : Database} (hmutable : Mutable date db)
    (h : after.dataVersions = db.dataVersions) :
    IngestChange date db after where
  mutable_before := hmutable
  mutable_after := by
    unfold Mutable
    rw [h]
    exact hmutable
  others := by
    intro dataVersion _
    rw [h]

theorem startRun_change {date : JsText} {db started : Database} {run : DailyRun}
    (hdate : run.businessDate = date) (hmutable : Mutable date db)
    (h : startRun db run = some started) : IngestChange date db started := by
  have hids : run.ids = idsForBusinessDate date := congrArg idsForBusinessDate hdate
  simp only [startRun, upsertDataVersion, upsertCrawlRun, Option.bind_eq_bind,
    Option.bind_eq_some_iff, Option.some.injEq] at h
  obtain ⟨_, ⟨dataVersions, hupsert, rfl⟩, _, -, rfl⟩ := h
  rw [hids] at hupsert
  refine { mutable_before := hmutable, mutable_after := ?_, others := ?_ }
  · intro row hrow
    obtain ⟨hmem, hkey⟩ := find_eq_some.mp hrow
    rcases (mem_upsert hupsert).mp hmem with ⟨-, hne⟩ | rfl
    · exact absurd hkey hne
    · unfold Table.merged
      split
      · next old hold => exact hmutable old hold
      · rfl
  · intro dataVersion hne
    exact find_upsert_of_ne hupsert hne

theorem find_releaseDataVersion (db : Database) (dataVersion other : JsText) :
    (releaseDataVersion db dataVersion).dataVersions.find other =
      (db.dataVersions.find other).map fun row =>
        if isHeldVersion dataVersion row then { row with releaseState := .released } else row := by
  simp only [releaseDataVersion, Table.find, rows_update]
  induction db.dataVersions.rows with
  | nil => rfl
  | cons row rest ih =>
    have hkey : (if isHeldVersion dataVersion row then
        { row with releaseState := .released } else row : DataVersionRow).dataVersion =
        row.dataVersion := by
      split <;> rfl
    rw [List.map_cons, List.find?_cons, List.find?_cons, hkey, ih]
    split <;> rfl

theorem rowsOf_releaseDataVersion {db : Database} {dataVersion other : JsText}
    (hne : other ≠ dataVersion) :
    (releaseDataVersion db other).rowsOf dataVersion = db.rowsOf dataVersion := by
  have hrows : (releaseDataVersion db other).dataVersions.rows.filter
      (fun row => row.dataVersion = dataVersion) =
        db.dataVersions.rows.filter fun row => row.dataVersion = dataVersion := by
    refine filter_rows_update _ (fun row => rfl) ?_
    intro row hrow
    rw [isHeldVersion, of_decide_eq_true hrow]
    simp [hne.symm]
  simp only [Database.rowsOf, hrows]
  rfl

theorem releaseState_of_rowsOf {db after : Database} {dataVersion : JsText}
    (h : after.rowsOf dataVersion = db.rowsOf dataVersion) :
    after.releaseState dataVersion = db.releaseState dataVersion := by
  have hrows : ∀ other : Database, other.releaseState dataVersion =
      ((other.rowsOf dataVersion).dataVersions.head?).map DataVersionRow.releaseState := by
    intro other
    rw [Database.releaseState, Database.rowsOf, Table.find, List.head?_filter]
  rw [hrows after, hrows db, h]

section Invariant

def Phase.works : Phase → Bool
  | .checking _ | .starting _ _ | .crawling _ | .marking _ | .transforming _ _
  | .releasing _ _ => true
  | .away | .locking _ | .closing => false

def Task.OfDate (date : JsText) : Task → Prop
  | .ingest run => run.businessDate = date
  | .release dataVersion => businessDateFromDataVersion dataVersion = some date

/-- What a process has found out of the database still holds of it. -/
def Phase.Sound (platform : Platform) (date : JsText) (db : Database) : Phase → Prop
  | .away | .closing => True
  | .locking task => task.OfDate date
  | .checking run => run.businessDate = date
  | .starting run tx =>
    run.businessDate = date ∧ Mutable date db ∧ tx.ReachedBy (startScript run) db
  | .crawling run | .marking run => run.businessDate = date ∧ Mutable date db
  | .transforming run tx =>
    run.businessDate = date ∧ Mutable date db ∧
      tx.ReachedBy (transformScript platform run) db
  | .releasing dataVersion tx =>
    businessDateFromDataVersion dataVersion = some date ∧
      tx.ReachedBy (releaseScript dataVersion) db

structure System.Sound
    (platform : Platform)
    (date : JsText)
    (s : System) : Prop where
  locked : ∀ p, (s.sessions p).works = true → s.holder = some p
  phases : ∀ p, (s.sessions p).Sound platform date s.db

/-- What a step of a process leaves, where the process is at work only with the lock. -/
structure Effect.Sound
    (platform : Platform)
    (date : JsText)
    (p : Pid)
    (db : Database)
    (holder : Option Pid)
    (phase : Phase)
    (effect : Effect) : Prop where
  sound : effect.phase.Sound platform date effect.db
  locked : effect.phase.works = true → effect.holder = some p
  others : ∀ q, q ≠ p → holder = some q → effect.holder = some q
  changed : effect.db = db ∨ phase.works = true ∧ Change date db effect.db

theorem task_ofDate {request : Request} {task : Task} (h : request.task = some (date, task)) :
    task.OfDate date := by
  cases request with
  | daily run =>
    simp only [Request.task] at h
    split at h
    · obtain ⟨rfl, rfl⟩ := Prod.mk.inj (Option.some.inj h)
      rfl
    · cases h
  | resume runId run =>
    obtain ⟨requested, -, hpair⟩ := Option.map_eq_some_iff.mp h
    obtain ⟨rfl, rfl⟩ := Prod.mk.inj hpair
    rfl
  | release dataVersion =>
    obtain ⟨requested, hrequested, hpair⟩ := Option.map_eq_some_iff.mp h
    obtain ⟨rfl, rfl⟩ := Prod.mk.inj hpair
    exact hrequested

theorem afterStatement_sound {tx : Open Database} {script : Script Database}
    {phase : Open Database → Phase} (htx : tx.ReachedBy script db)
    (hphase : ∀ next : Open Database, next.ReachedBy script db →
      (phase next).Sound platform date db) :
    (afterStatement db tx phase).Sound platform date db := by
  unfold afterStatement
  split
  · next next hnext => exact hphase next (htx.next hnext)
  · trivial

variable {holder : Option Pid}
variable {p : Pid}

/-- A step that leaves the database and the lock alone. -/
theorem effect_sound_of_eq {phase next : Phase} (hlocked : phase.works = true → holder = some p)
    (hworks : next.works = true → phase.works = true) (hsound : next.Sound platform date db) :
    Effect.Sound platform date p db holder phase { db, holder, phase := next } where
  sound := hsound
  locked := fun h => hlocked (hworks h)
  others := fun _ _ h => h
  changed := .inl rfl

theorem effect_sound_of_change {db after : Database} {phase next : Phase}
    (hlocked : phase.works = true → holder = some p) (hworks : phase.works = true)
    (hchange : Change date db after) (hsound : next.Sound platform date after) :
    Effect.Sound platform date p db holder phase { db := after, holder, phase := next } where
  sound := hsound
  locked := fun _ => hlocked hworks
  others := fun _ _ h => h
  changed := .inr ⟨hworks, hchange⟩

variable {phase : Phase}

/-- A session that ends gives the lock back where it has it, and leaves the rest alone. -/
theorem effect_sound_ended :
    Effect.Sound platform date p db holder phase
      { db, holder := if holder = some p then none else holder, phase := .away } where
  sound := trivial
  locked := nofun
  others := by
    intro q hne hholder
    rw [if_neg]
    · exact hholder
    · rw [hholder]
      exact fun h => hne (Option.some.inj h)
  changed := .inl rfl

section Events

variable {effect : Effect}
variable (hlocked : phase.works = true → holder = some p) (hsound : phase.Sound platform date db)

include hlocked

theorem began_sound {request : Request}
    (h : stepPhase platform date p db holder phase (.began request) = some effect) :
    effect.Sound platform date p db holder phase := by
  cases phase with
  | away =>
    simp only [stepPhase] at h
    split at h
    · next requested task htask =>
        split at h
        · next hdate =>
            obtain rfl := Option.some.inj h
            exact effect_sound_of_eq hlocked (by rintro ⟨⟩) (task_ofDate (hdate ▸ htask))
        · cases h
    · cases h
  | _ => cases h

include hsound

theorem asked_sound (h : stepPhase platform date p db holder phase .asked = some effect) :
    effect.Sound platform date p db holder phase := by
  cases phase with
  | locking task =>
    cases holder with
    | some q =>
      obtain rfl := Option.some.inj h
      exact effect_sound_of_eq hlocked (by rintro ⟨⟩) trivial
    | none =>
      obtain rfl := Option.some.inj h
      refine { sound := ?_, locked := fun _ => rfl, others := nofun, changed := .inl rfl }
      cases task with
      | ingest run => exact hsound
      | release dataVersion => exact ⟨hsound, Open.begin_reachedBy _ _⟩
  | _ => cases h

theorem checked_sound (h : stepPhase platform date p db holder phase .checked = some effect) :
    effect.Sound platform date p db holder phase := by
  cases phase with
  | checking run =>
    simp only [stepPhase] at h
    split at h
    · obtain rfl := Option.some.inj h
      exact effect_sound_of_eq hlocked (by rintro ⟨⟩) trivial
    · next hheld =>
        obtain rfl := Option.some.inj h
        refine effect_sound_of_eq hlocked (fun _ => rfl) ⟨hsound, ?_, Open.begin_reachedBy _ _⟩
        intro row hrow
        have hids : run.ids = idsForBusinessDate date := congrArg idsForBusinessDate hsound
        rw [hids, hrow] at hheld
        simpa using hheld
  | _ => cases h

theorem ran_sound (h : stepPhase platform date p db holder phase .ran = some effect) :
    effect.Sound platform date p db holder phase := by
  cases phase with
  | starting run tx =>
    obtain rfl := Option.some.inj h
    obtain ⟨hdate, hmutable, htx⟩ := hsound
    exact effect_sound_of_eq hlocked (fun _ => rfl)
      (afterStatement_sound htx fun next hnext => ⟨hdate, hmutable, hnext⟩)
  | marking run =>
    obtain rfl := Option.some.inj h
    exact effect_sound_of_change hlocked rfl (.ingest (ingestChange_of_eq hsound.2 rfl)) trivial
  | transforming run tx =>
    obtain rfl := Option.some.inj h
    obtain ⟨hdate, hmutable, htx⟩ := hsound
    exact effect_sound_of_eq hlocked (fun _ => rfl)
      (afterStatement_sound htx fun next hnext => ⟨hdate, hmutable, hnext⟩)
  | releasing dataVersion tx =>
    obtain rfl := Option.some.inj h
    obtain ⟨hdate, htx⟩ := hsound
    exact effect_sound_of_eq hlocked (fun _ => rfl)
      (afterStatement_sound htx fun next hnext => ⟨hdate, hnext⟩)
  | _ => cases h

/-- What is committed is what the script of the transaction makes of the database. -/
theorem committed_sound (h : stepPhase platform date p db holder phase .committed = some effect) :
    effect.Sound platform date p db holder phase := by
  cases phase with
  | starting run tx =>
    obtain ⟨after, hcommit, rfl⟩ := Option.map_eq_some_iff.mp h
    obtain ⟨hdate, hmutable, htx⟩ := hsound
    have hrun := Open.commit_eq_run htx hcommit
    rw [run_startScript] at hrun
    have hchange := startRun_change hdate hmutable hrun
    exact effect_sound_of_change hlocked rfl (.ingest hchange) ⟨hdate, hchange.mutable_after⟩
  | transforming run tx =>
    obtain ⟨after, hcommit, rfl⟩ := Option.map_eq_some_iff.mp h
    obtain ⟨hdate, hmutable, htx⟩ := hsound
    have hrun := Open.commit_eq_run htx hcommit
    rw [run_transformScript] at hrun
    exact effect_sound_of_change hlocked rfl
      (.ingest (ingestChange_of_eq hmutable (transformReport_spec hrun).dataVersions_eq)) trivial
  | releasing dataVersion tx =>
    obtain ⟨after, hcommit, rfl⟩ := Option.map_eq_some_iff.mp h
    obtain ⟨hdate, htx⟩ := hsound
    exact effect_sound_of_change hlocked rfl
      (.release dataVersion hdate (Open.commit_eq_run htx hcommit)) trivial
  | _ => cases h

theorem crawled_sound {succeeded : Bool}
    (h : stepPhase platform date p db holder phase (.crawled succeeded) = some effect) :
    effect.Sound platform date p db holder phase := by
  cases phase with
  | crawling run =>
    obtain ⟨hdate, hmutable⟩ := hsound
    cases succeeded with
    | true =>
      obtain rfl := Option.some.inj h
      exact effect_sound_of_eq hlocked (fun _ => rfl) ⟨hdate, hmutable, Open.begin_reachedBy _ _⟩
    | false =>
      obtain rfl := Option.some.inj h
      exact effect_sound_of_eq hlocked (fun _ => rfl) ⟨hdate, hmutable⟩
  | _ => cases h

theorem stepPhase_sound {event : Event}
    (h : stepPhase platform date p db holder phase event = some effect) :
    effect.Sound platform date p db holder phase := by
  cases event with
  | began request => exact began_sound hlocked h
  | asked => exact asked_sound hlocked hsound h
  | checked => exact checked_sound hlocked hsound h
  | ran => exact ran_sound hlocked hsound h
  | committed => exact committed_sound hlocked hsound h
  | crawled succeeded => exact crawled_sound hlocked hsound h
  | failed =>
    cases phase with
    | away => cases h
    | _ =>
      obtain rfl := Option.some.inj h
      exact effect_sound_of_eq hlocked (by rintro ⟨⟩) trivial
  | ended =>
    cases phase with
    | away => cases h
    | _ =>
      obtain rfl := Option.some.inj h
      exact effect_sound_ended

end Events

theorem sound_of_not_works {db after : Database} (hworks : phase.works ≠ true)
    (h : phase.Sound platform date db) : phase.Sound platform date after := by
  cases phase with
  | away => trivial
  | closing => trivial
  | locking task => exact h
  | _ => exact absurd rfl hworks

/-- A step keeps the invariant, and changes the database only as an ingest or a release does. -/
theorem step_sound {s t : System} {label : Pid × Event} (hs : s.Sound platform date)
    (h : Fires (step platform date) s label t) :
    t.Sound platform date ∧ (t.db = s.db ∨ Change date s.db t.db) := by
  obtain ⟨effect, heffect, rfl⟩ := Option.map_eq_some_iff.mp h
  obtain ⟨p, event⟩ := label
  have hstep := stepPhase_sound (hs.locked p) (hs.phases p) heffect
  refine ⟨{ locked := ?_, phases := ?_ }, hstep.changed.imp_right And.right⟩
  · intro q hworks
    by_cases hq : q = p
    · subst hq
      exact hstep.locked (by simpa using hworks)
    · exact hstep.others q hq (hs.locked q (by simpa [hq] using hworks))
  · intro q
    by_cases hq : q = p
    · subst hq
      simpa using hstep.sound
    · suffices hother : (s.sessions q).Sound platform date effect.db by simpa [hq] using hother
      rcases hstep.changed with hsame | ⟨hworks, -⟩
      · rw [hsame]
        exact hs.phases q
      · -- The process that changes the database holds the lock, so that no other one is at work.
        refine sound_of_not_works (fun hother => hq ?_) (hs.phases q)
        exact Option.some.inj ((hs.locked q hother).symm.trans (hs.locked p hworks))

theorem initial_sound {s : System} (hs : s.Initial) :
    s.Sound platform date where
  locked := by
    intro p hworks
    rw [hs.away p] at hworks
    cases hworks
  phases := by
    intro p
    rw [hs.away p]
    trivial

theorem run_sound {s t : System} {labels : List (Pid × Event)}
    (hrun : Run (Fires (step platform date)) s labels t) (hs : s.Sound platform date) :
    t.Sound platform date :=
  hrun.preserves (I := fun u => u.Sound platform date)
    (fun _ _ _ hstep hsound => (step_sound hsound hstep).1) hs

end Invariant

section Released

variable {dataVersion : JsText}
variable {s t : System}

theorem release_commits {p : Pid} (hs : s.Sound platform date)
    (hphase : (s.sessions p).released = some dataVersion)
    (hcommit : Fires (step platform date) s (p, .committed) t) :
    businessDateFromDataVersion dataVersion = some date ∧
      (releaseScript dataVersion).run s.db = some t.db := by
  obtain ⟨effect, heffect, rfl⟩ := Option.map_eq_some_iff.mp hcommit
  have hsound := hs.phases p
  cases hp : s.sessions p with
  | releasing version tx =>
    rw [hp] at hphase hsound heffect
    obtain rfl := Option.some.inj hphase
    obtain ⟨after, hafter, rfl⟩ := Option.map_eq_some_iff.mp heffect
    exact ⟨hsound.1, Open.commit_eq_run hsound.2 hafter⟩
  | _ =>
    rw [hp] at hphase
    cases hphase

theorem not_mutable_of_released
    (h : db.releaseState (idsForBusinessDate date).dataVersion = some .released) :
    ¬ Mutable date db := by
  intro hmutable
  obtain ⟨row, hrow, hstate⟩ := Option.map_eq_some_iff.mp h
  rw [hmutable row hrow] at hstate
  cases hstate

theorem releaseState_of_validation {validation : ValidationState}
    (h : readValidationState db dataVersion = some validation) :
    db.releaseState dataVersion = some validation.releaseState := by
  obtain ⟨row, hrow, rfl⟩ := Option.map_eq_some_iff.mp h
  rw [Database.releaseState, hrow]
  rfl

theorem releaseState_releaseDataVersion (h : db.releaseState dataVersion = some .held) :
    (releaseDataVersion db dataVersion).releaseState dataVersion = some .released := by
  obtain ⟨row, hrow, hstate⟩ := Option.map_eq_some_iff.mp h
  have hkey := (find_eq_some.mp hrow).2
  rw [Database.releaseState, find_releaseDataVersion, hrow]
  simp [isHeldVersion, hkey, hstate]

theorem change_released {db after : Database}
    (hreleased : db.releaseState (idsForBusinessDate date).dataVersion = some .released)
    (h : Change date db after) :
    after.rowsOf (idsForBusinessDate date).dataVersion =
      db.rowsOf (idsForBusinessDate date).dataVersion := by
  cases h with
  | ingest hingest => exact absurd hingest.mutable_before (not_mutable_of_released hreleased)
  | release other hdate hrun =>
    obtain ⟨⟨validation, hread, -, hheld⟩, rfl⟩ := run_releaseScript hrun
    have hother := releaseState_of_validation hread
    rw [hheld] at hother
    refine rowsOf_releaseDataVersion fun hsame => ?_
    rw [hsame, hreleased] at hother
    cases hother

theorem change_absent {date dataVersion : JsText} {db after : Database}
    (hne : dataVersion ≠ (idsForBusinessDate date).dataVersion)
    (habsent : db.dataVersions.find dataVersion = none) (h : Change date db after) :
    after.dataVersions.find dataVersion = none := by
  cases h with
  | ingest hingest => rw [hingest.others dataVersion hne, habsent]
  | release other hdate hrun =>
    obtain ⟨-, rfl⟩ := run_releaseScript hrun
    rw [find_releaseDataVersion, habsent]
    rfl

variable {labels : List (Pid × Event)}

theorem run_absent {date dataVersion : JsText}
    (hne : dataVersion ≠ (idsForBusinessDate date).dataVersion)
    (hrun : Run (Fires (step platform date)) s labels t) (hs : s.Sound platform date)
    (habsent : s.db.dataVersions.find dataVersion = none) :
    t.db.dataVersions.find dataVersion = none := by
  refine (hrun.preserves (I := fun u =>
    u.Sound platform date ∧ u.db.dataVersions.find dataVersion = none) ?_ ⟨hs, habsent⟩).2
  rintro u label v hstep ⟨hsound, hfind⟩
  obtain ⟨hafter, hsame | hchange⟩ := step_sound hsound hstep
  · exact ⟨hafter, by rw [hsame, hfind]⟩
  · exact ⟨hafter, change_absent hne hfind hchange⟩

theorem run_released (hrun : Run (Fires (step platform date)) s labels t)
    (hs : s.Sound platform date)
    (hreleased : s.db.releaseState (idsForBusinessDate date).dataVersion = some .released) :
    t.db.rowsOf (idsForBusinessDate date).dataVersion =
      s.db.rowsOf (idsForBusinessDate date).dataVersion := by
  refine (hrun.preserves (I := fun u =>
    u.Sound platform date ∧
      u.db.rowsOf (idsForBusinessDate date).dataVersion =
        s.db.rowsOf (idsForBusinessDate date).dataVersion) ?_ ⟨hs, rfl⟩).2
  rintro u label v hstep ⟨hsound, hrows⟩
  obtain ⟨hafter, hsame | hchange⟩ := step_sound hsound hstep
  · exact ⟨hafter, by rw [hsame, hrows]⟩
  · have hstill := (releaseState_of_rowsOf hrows).trans hreleased
    exact ⟨hafter, (change_released hstill hchange).trans hrows⟩

/--
A release commits only where its validation passes.  After it the rows of its
version stay as they are, and it stays released, whatever runs and releases of
the date do, begun before or after it.  The version is that of the date, or one
that was not in the database before the processes began; a version of the local
contract, which none of them writes, is released only where somebody else put
it there.
-/
theorem released_immutable (platform : Platform) (date : JsText) {start s t : System}
    {labels : List (Pid × Event)} {p : Pid} {dataVersion : JsText} (hstart : start.Initial)
    (hrun : Run (Fires (step platform date)) start labels s)
    (hphase : (s.sessions p).released = some dataVersion)
    (hcommit : Fires (step platform date) s (p, .committed) t) :
    (∃ validation, readValidationState s.db dataVersion = some validation ∧
        validation.pass = true) ∧
      (dataVersion = (idsForBusinessDate date).dataVersion ∨
          start.db.dataVersions.find dataVersion = none →
        ∀ later labels', Run (Fires (step platform date)) t labels' later →
          later.db.rowsOf dataVersion = t.db.rowsOf dataVersion ∧
            later.db.releaseState dataVersion = some .released) := by
  have hstartSound : start.Sound platform date := initial_sound hstart
  have hs := run_sound hrun hstartSound
  obtain ⟨hdate, hscript⟩ := release_commits hs hphase hcommit
  obtain ⟨⟨validation, hread, hpass, hheld⟩, hafter⟩ := run_releaseScript hscript
  refine ⟨⟨validation, hread, hpass⟩, ?_⟩
  intro hversion later labels' hlater
  have hstate := releaseState_of_validation hread
  rw [hheld] at hstate
  have hreleased : t.db.releaseState dataVersion = some .released := by
    rw [hafter]
    exact releaseState_releaseDataVersion hstate
  have hown : dataVersion = (idsForBusinessDate date).dataVersion := by
    by_contra hne
    have habsent := run_absent hne hrun hstartSound (hversion.resolve_left hne)
    rw [Database.releaseState, habsent] at hstate
    cases hstate
  subst hown
  have hrows := run_released hlater (step_sound hs hcommit).1 hreleased
  exact ⟨hrows, (releaseState_of_rowsOf hrows).trans hreleased⟩

def ingestedDay : System where
  db := {
    dataVersions := {
      entries := [{
        id := text "dv_hkex_news_20260627"
        row := { dataVersion := text "dv_hkex_news_20260627", releaseState := .held } }]
      distinctIds := List.nodup_singleton _
      distinctKeys := List.nodup_singleton _ }
    crawlRuns := {
      entries := [{
        id := text "cr_hkex_news_20260627"
        row := {
          crawlRunId := text "cr_hkex_news_20260627"
          status := .completed
          startedAt := 0
          completedAt := some 1
          discoveredCount := 0
          fetchedCount := 0
          changedCount := 0
          errorCount := 0
          dataVersion := text "dv_hkex_news_20260627" } }]
      distinctIds := List.nodup_singleton _
      distinctKeys := List.nodup_singleton _ }
    rawSnapshots := Table.empty
    documents := Table.empty
    observations := Table.empty
    extractionRuns := Table.empty
    links := Table.empty
    facts := Table.empty
    transformRuns := {
      entries := [{
        id := text "hktr_1"
        row := {
          transformRunId := text "hktr_1"
          dataVersion := text "dv_hkex_news_20260627"
          completedAt := some 1
          status := .completed
          validationReport := {
            candidateFactCount := some 0
            currentDocumentCount := some 0
            documentCount := some 0
            linkedDocumentCount := some 0
            reconciliation := none } } }]
      distinctIds := List.nodup_singleton _
      distinctKeys := List.nodup_singleton _ } }
  holder := none
  sessions := fun _ => .away

def releaseLabels : List (Pid × Event) :=
  [(0, .began (.release (text "dv_hkex_news_20260627"))), (0, .asked), (0, .ran), (0, .ran)]

/-- The day is released, and stays as it is. -/
theorem released_immutable_day :
    ∃ s t : System,
      Run (Fires (step samplePlatform (text "2026-06-27"))) ingestedDay releaseLabels s ∧
        Fires (step samplePlatform (text "2026-06-27")) s (0, .committed) t ∧
        ∀ later labels', Run (Fires (step samplePlatform (text "2026-06-27"))) t labels' later →
          later.db.rowsOf (text "dv_hkex_news_20260627") =
              t.db.rowsOf (text "dv_hkex_news_20260627") ∧
            later.db.releaseState (text "dv_hkex_news_20260627") = some .released := by
  have hreleases :
      ((fire (step samplePlatform (text "2026-06-27")) ingestedDay releaseLabels).bind fun s =>
        (step samplePlatform (text "2026-06-27") s (0, .committed)).map fun _ =>
          (s.sessions 0).released) = some (some (text "dv_hkex_news_20260627")) := by
    decide +kernel
  have hversion : text "dv_hkex_news_20260627" =
      (idsForBusinessDate (text "2026-06-27")).dataVersion := by
    decide +kernel
  obtain ⟨s, hs, hstep⟩ := Option.bind_eq_some_iff.mp hreleases
  obtain ⟨t, ht, hphase⟩ := Option.map_eq_some_iff.mp hstep
  have hrun := Transition.run_fires_iff.mpr hs
  exact ⟨s, t, hrun, ht,
    (released_immutable samplePlatform (text "2026-06-27")
      { away := fun _ => rfl, free := rfl } hrun hphase ht).2 (.inl hversion)⟩

end Released

end Aiphabee.NewsIngest
