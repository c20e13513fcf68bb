import Aiphabee.IpoIngest.ReleaseSessions
import Aiphabee.IpoIngest.ReleasedRows

/-!
# What a release and an ingest commit

A release changes the row of its own version, an ingest sets that of its own
back to held.  A session that has locked a row keeps the others from committing a
change of it, so that a release finds its version as it was when it locked it
(`World.Sound.step`).
-/

namespace Aiphabee.IpoIngest

variable {platform : Platform}
variable {run : ReleaseRun}
variable {db after : Database}
variable {world next : World}
variable {id : Nat}

section Commits

variable {request : Request}
variable {dataVersion : JsText}

theorem releasedRow_dataVersion (dataVersion startedAt : JsText) (row : StoredRow) :
    releasedRow dataVersion startedAt row .dataVersion = row .dataVersion := by
  rw [releasedRow]
  split
  · rw [Function.update_of_ne (by decide), Function.update_of_ne (by decide)]
  · rfl

variable {row : StoredRow}
variable {startedAt : JsText}

theorem releasedRow_of_other (h : row .dataVersion ≠ some (.text dataVersion)) :
    releasedRow dataVersion startedAt row = row :=
  if_neg fun both => h both.1

theorem releasedRow_releaseState (hversion : row .dataVersion = some (.text dataVersion))
    (hheld : row .releaseState = asText "held") :
    releasedRow dataVersion startedAt row .releaseState = asText "released" := by
  rw [releasedRow, if_pos ⟨hversion, hheld⟩, Function.update_of_ne (by decide),
    Function.update_self]

theorem released_before
    (h : releasedRow dataVersion startedAt row .releaseState = asText "released") :
    row .releaseState = asText "released" ∨ row .dataVersion = some (.text dataVersion) := by
  rw [releasedRow] at h
  split at h
  · next both => exact Or.inr both.1
  · exact Or.inl h

/-- A release changes no counted row and no row of another version. -/
theorem versionRows_committed (run : ReleaseRun) (db : Database) {table : TableName}
    (h : table ∈ gateTables) :
    versionRows (run.committed db) dataVersion table = versionRows db dataVersion table := by
  have hne : table ≠ .dataVersionBatch := by
    rintro rfl
    exact absurd h (by decide)
  rw [versionRows, ReleaseRun.committed, Function.update_of_ne hne, versionRows]

theorem batchRows_committed (run : ReleaseRun) (db : Database) (dataVersion : JsText) :
    versionRows (run.committed db) dataVersion .dataVersionBatch =
      (versionRows db dataVersion .dataVersionBatch).map
        (releasedRow run.dataVersion run.startedAt) := by
  rw [versionRows, ReleaseRun.committed, Function.update_self, List.filter_map, versionRows]
  congr 1
  refine List.filter_congr fun row _ => ?_
  rw [Function.comp_apply, releasedRow_dataVersion]

theorem batchRows_committed_of_other (db : Database) (h : dataVersion ≠ run.dataVersion) :
    versionRows (run.committed db) dataVersion .dataVersionBatch =
      versionRows db dataVersion .dataVersionBatch := by
  rw [batchRows_committed]
  refine (List.map_congr_left fun row hrow => ?_).trans (List.map_id' _)
  refine releasedRow_of_other fun hsame => h ?_
  have hversion := of_decide_eq_true (List.mem_filter.mp hrow).2
  rw [hversion] at hsame
  exact Cell.text.inj (Option.some.inj hsame)

theorem batchRefusal_congr
    (h : versionRows after dataVersion .dataVersionBatch =
      versionRows db dataVersion .dataVersionBatch) :
    batchRefusal after dataVersion = batchRefusal db dataVersion := by
  rw [batchRefusal, h, batchRefusal]

theorem inState_of_batchRefusal (h : batchRefusal db dataVersion = none) :
    InState db dataVersion "held" := by
  unfold batchRefusal at h
  split at h
  · next row hrows =>
      split at h
      · next hheld => exact ⟨row, hrows, hheld⟩
      · cases h
  · cases h

theorem inState_committed (h : InState db run.dataVersion "held") :
    InState (run.committed db) run.dataVersion "released" := by
  obtain ⟨row, hrows, hheld⟩ := h
  refine ⟨releasedRow run.dataVersion run.startedAt row, ?_, ?_⟩
  · rw [batchRows_committed, hrows, List.map_singleton]
  · have hmem : row ∈ versionRows db run.dataVersion .dataVersionBatch :=
      hrows ▸ List.mem_singleton_self row
    exact releasedRow_releaseState (of_decide_eq_true (List.mem_filter.mp hmem).2) hheld

theorem batch_ingested (h : replay (request.statements platform) db = some after) :
    after .dataVersionBatch = Sql.insertAll onConflictDataVersion (db .dataVersionBatch)
      (upsertDataVersionRecords request) := by
  rw [foldlM_apply_eq _ h .dataVersionBatch, statements_of_table]
  rfl

theorem upsertDataVersionRecords_eq (request : Request) :
    ∃ record, upsertDataVersionRecords request = [record] ∧
      record .dataVersion = some (.text request.dataVersion) ∧
        record .releaseState = asText "held" :=
  ⟨_, rfl, rfl, rfl⟩

theorem held_ne_released : asText "held" ≠ asText "released" := by
  decide +kernel

theorem mem_of_ingested (h : replay (request.statements platform) db = some after)
    (hrow : row ∈ after .dataVersionBatch) (hreleased : row .releaseState = asText "released") :
    row ∈ db .dataVersionBatch := by
  obtain ⟨record, hrecords, -, hheld⟩ := upsertDataVersionRecords_eq request
  rw [batch_ingested h, hrecords] at hrow
  have hset : ∀ old : StoredRow,
      Sql.setColumns onConflictDataVersion.set old record .releaseState = asText "held" := by
    intro old
    rw [Sql.setColumns, if_pos (by decide), hheld]
  change row ∈ Sql.insertRow onConflictDataVersion (db .dataVersionBatch) record at hrow
  rw [Sql.insertRow] at hrow
  split at hrow
  · obtain ⟨old, hold, rfl⟩ := List.mem_map.mp hrow
    split
    · next hkey =>
        rw [if_pos hkey, hset] at hreleased
        exact absurd hreleased held_ne_released
    · exact hold
  · rcases List.mem_append.mp hrow with hold | hnew
    · exact hold
    · rw [List.mem_singleton.mp hnew, hheld] at hreleased
      exact absurd hreleased held_ne_released

theorem batchRows_ingested_of_other (h : replay (request.statements platform) db = some after)
    (hother : dataVersion ≠ request.dataVersion) :
    versionRows after dataVersion .dataVersionBatch =
      versionRows db dataVersion .dataVersionBatch := by
  obtain ⟨record, hrecords, hversion, -⟩ := upsertDataVersionRecords_eq request
  have hne : (some (.text dataVersion) : Option Cell) ≠ some (.text request.dataVersion) :=
    fun hsame => hother (Cell.text.inj (Option.some.inj hsame))
  rw [versionRows, batch_ingested h, hrecords, versionRows]
  change (Sql.insertRow onConflictDataVersion (db .dataVersionBatch) record).filter _ = _
  rw [Sql.insertRow]
  split
  · rw [List.filter_map]
    have hkeep : ∀ row : StoredRow,
        ((fun row : StoredRow => decide (row .dataVersion = some (.text dataVersion))) ∘ fun row =>
          if Sql.keyOf onConflictDataVersion.target row =
              Sql.keyOf onConflictDataVersion.target record then
            Sql.setColumns onConflictDataVersion.set row record
          else row) row = decide (row .dataVersion = some (.text dataVersion)) := by
      intro row
      rw [Function.comp_apply]
      split
      · rw [Sql.setColumns, if_neg (by decide)]
      · rfl
    rw [List.filter_congr fun row _ => hkeep row]
    refine (List.map_congr_left fun row hrow => if_neg fun hkey => ?_).trans (List.map_id' _)
    have hrow := of_decide_eq_true (List.mem_filter.mp hrow).2
    have hkey : row .dataVersion = record .dataVersion := (List.cons.inj hkey).1
    rw [hrow, hversion] at hkey
    exact hne hkey
  · rw [List.filter_append, List.filter_singleton, hversion, decide_eq_false (Ne.symm hne),
      cond_false, List.append_nil]

end Commits

section Soundness

structure ReleaseRun.Sound (run : ReleaseRun) (db : Database) : Prop where
  held : run.stage.isBegun = false → batchRefusal db run.dataVersion = none
  counted : ∀ counts, run.stage.counts = some counts → countRefusal counts run.manifest = none

structure IngestRun.Sound (platform : Platform) (run : IngestRun) : Prop where
  statements : run.done ++ run.rest = run.request.statements platform
  locked : ∀ statement ∈ run.done, statement.table = .dataVersionBatch →
    ∀ record ∈ statement.records,
      (TableName.dataVersionBatch, TableName.keyOf .dataVersionBatch record) ∈ run.locks

def Session.Sound (platform : Platform) (db : Database) : Session → Prop
  | .release run => run.Sound db
  | .ingest run => run.Sound platform
  | .ended => True

structure World.Sound (platform : Platform) (world : World) : Prop where
  sessions : ∀ (id : Nat) (session : Session), world.sessions[id]? = some session →
    session.Sound platform world.db
  apart : ∀ (id other : Nat) (session second : Session), id ≠ other →
    world.sessions[id]? = some session → world.sessions[other]? = some second →
      ∀ lock ∈ session.locks, lock ∉ second.locks

def World.start (db : Database) : World where
  db := db
  sessions := []

theorem World.start_sound (platform : Platform) (db : Database) :
    (World.start db).Sound platform where
  sessions := fun _ _ h => by simp [World.start] at h
  apart := fun _ _ _ _ _ h => by simp [World.start] at h

theorem World.Sound.begin (h : world.Sound platform) (session : Session)
    (hsession : session.Sound platform world.db) (hlocks : session.locks = []) :
    { world with sessions := world.sessions ++ [session] }.Sound platform := by
  have hget : ∀ (id : Nat) (found : Session), (world.sessions ++ [session])[id]? = some found →
      world.sessions[id]? = some found ∨ found = session := by
    intro id found hfound
    rw [List.getElem?_append] at hfound
    split at hfound
    · exact Or.inl hfound
    · rw [List.getElem?_singleton] at hfound
      split at hfound
      · exact Or.inr (Option.some.inj hfound).symm
      · cases hfound
  constructor
  · intro id found hfound
    rcases hget id found hfound with hold | rfl
    · exact h.sessions id found hold
    · exact hsession
  · intro id other first second hne hfirst hsecond lock hlock
    rcases hget id first hfirst with hold | rfl
    · rcases hget other second hsecond with hother | rfl
      · exact h.apart id other first second hne hold hother lock hlock
      · rw [hlocks]
        exact List.not_mem_nil
    · rw [hlocks] at hlock
      cases hlock

theorem World.Sound.move (h : world.Sound platform) (session : Session)
    (hsession : session.Sound platform after)
    (hothers : ∀ (other : Nat) (found : Session), other ≠ id → world.sessions[other]? = some found →
      found.Sound platform world.db → found.Sound platform after)
    (hlocks : ∀ (other : Nat) (found : Session), other ≠ id → world.sessions[other]? = some found →
      ∀ lock ∈ session.locks, lock ∉ found.locks) :
    { world.put id session with db := after }.Sound platform := by
  have hget : ∀ (other : Nat) (found : Session),
      (world.sessions.set id session)[other]? = some found →
      (other = id ∧ found = session) ∨ (other ≠ id ∧ world.sessions[other]? = some found) := by
    intro other found hfound
    by_cases hsame : id = other
    · subst hsame
      rw [List.getElem?_set_self'] at hfound
      obtain ⟨old, -, hold⟩ := Option.map_eq_some_iff.mp hfound
      exact Or.inl ⟨rfl, hold.symm⟩
    · rw [List.getElem?_set_ne hsame] at hfound
      exact Or.inr ⟨Ne.symm hsame, hfound⟩
  constructor
  · intro other found hfound
    rcases hget other found hfound with ⟨-, rfl⟩ | ⟨hne, hold⟩
    · exact hsession
    · exact hothers other found hne hold (h.sessions other found hold)
  · intro first other found second hne hfirst hsecond lock hlock
    rcases hget first found hfirst with ⟨rfl, rfl⟩ | ⟨hfirstNe, hfirstOld⟩
    · rcases hget other second hsecond with ⟨hsame, -⟩ | ⟨hotherNe, hotherOld⟩
      · exact absurd hsame.symm hne
      · exact hlocks other second hotherNe hotherOld lock hlock
    · rcases hget other second hsecond with ⟨rfl, rfl⟩ | ⟨hotherNe, hotherOld⟩
      · exact fun hmem => hlocks first found hfirstNe hfirstOld lock hmem hlock
      · exact h.apart first other found second hne hfirstOld hotherOld lock hlock

theorem World.Sound.commit (h : world.Sound platform)
    (hothers : ∀ (other : Nat) (found : Session), other ≠ id →
      world.sessions[other]? = some found →
        found.Sound platform world.db → found.Sound platform after) :
    { world.put id .ended with db := after }.Sound platform :=
  h.move .ended trivial hothers fun _ _ _ _ _ hlock => absurd hlock List.not_mem_nil

/-- The session ends, and nothing is committed. -/
theorem World.Sound.finish (h : world.Sound platform) (id : Nat) :
    (world.put id .ended).Sound platform :=
  h.commit fun _ _ _ _ hfound => hfound

theorem not_mem_locks_of_not_waits {locks : List Lock} (h : world.waits id locks = false)
    {other : Nat} {found : Session} (hne : other ≠ id)
    (hfound : world.sessions[other]? = some found) : ∀ lock ∈ locks, lock ∉ found.locks := by
  intro lock hlock hmem
  have hentry : (found, other) ∈ world.sessions.zipIdx := by
    rw [List.mem_zipIdx_iff_getElem?]
    exact hfound
  have hnone := List.any_eq_false.mp h _ hentry
  refine hnone ?_
  rw [Bool.and_eq_true]
  exact ⟨decide_eq_true hne, List.any_eq_true.mpr ⟨lock, hlock, decide_eq_true hmem⟩⟩

variable {governance : ReleaseGovernance}

/-- A release that has got past a statement knows what the statement has checked. -/
theorem ReleaseRun.Sound.advance (h : run.Sound db) {stage : ReleaseStage}
    (hstage : run.nextStage db governance = some stage) :
    ReleaseRun.Sound { run with stage := stage } db := by
  have hheld : run.stage.isBegun = false → batchRefusal db run.dataVersion = none := h.held
  unfold ReleaseRun.nextStage at hstage
  split at hstage
  · split at hstage
    · next hnone =>
        obtain rfl := Option.some.inj hstage
        exact ⟨fun _ => Option.isNone_iff_eq_none.mp hnone, nofun⟩
    · cases hstage
  · next hnow =>
      split at hstage
      · obtain rfl := Option.some.inj hstage
        exact ⟨fun _ => hheld (by rw [hnow]; rfl), nofun⟩
      · cases hstage
  · next hnow =>
      split at hstage
      · next hnone =>
          obtain rfl := Option.some.inj hstage
          refine ⟨fun _ => hheld (by rw [hnow]; rfl), fun counts hcounts => ?_⟩
          obtain rfl := Option.some.inj hcounts
          exact Option.isNone_iff_eq_none.mp hnone
      · cases hstage
  · next counts hnow =>
      split at hstage
      · obtain rfl := Option.some.inj hstage
        exact ⟨fun _ => hheld (by rw [hnow]; rfl),
          fun found hfound => h.counted found (by rw [hnow]; exact hfound)⟩
      · cases hstage
  · next counts hnow =>
      split at hstage
      · obtain rfl := Option.some.inj hstage
        exact ⟨fun _ => hheld (by rw [hnow]; rfl),
          fun found hfound => h.counted found (by rw [hnow]; exact hfound)⟩
      · cases hstage
  · next counts hnow =>
      split at hstage
      · cases hstage
      · obtain rfl := Option.some.inj hstage
        exact ⟨fun _ => hheld (by rw [hnow]; rfl),
          fun found hfound => h.counted found (by rw [hnow]; exact hfound)⟩
  · cases hstage

theorem ReleaseRun.locks_subset (run : ReleaseRun) (stage : ReleaseStage) :
    ∀ lock ∈ (Session.release { run with stage := stage }).locks,
      lock = batchLock run.dataVersion := by
  intro lock hlock
  rw [Session.locks] at hlock
  split at hlock
  · cases hlock
  · exact List.mem_singleton.mp hlock

theorem World.Sound.releaseStatement (h : world.Sound platform)
    (hrun : world.sessions[id]? = some (.release run))
    (hstep : world.releaseStatement id run governance = some next) : next.Sound platform := by
  have hsound : run.Sound world.db := h.sessions id _ hrun
  -- The lock is free, or it is one that the release has had before.
  have hlocks : ∀ stage, run.nextStage world.db governance = some stage →
      (run.stage.isBegun = true → world.waits id [batchLock run.dataVersion] = false) →
        ({ world.put id (.release { run with stage := stage }) with db := world.db }).Sound
          platform := by
    intro stage hstage hfree
    refine h.move _ (hsound.advance hstage) (fun _ _ _ _ hfound => hfound) ?_
    intro other found hne hfound lock hlock
    rw [run.locks_subset stage lock hlock]
    by_cases hbegun : run.stage.isBegun = true
    · exact not_mem_locks_of_not_waits (hfree hbegun) hne hfound _ (List.mem_singleton_self _)
    · refine h.apart id other _ found (Ne.symm hne) hrun hfound _ ?_
      rw [Session.locks, if_neg hbegun]
      exact List.mem_singleton_self _
  unfold World.releaseStatement at hstep
  split at hstep
  · cases hstep
  · next hbegun =>
      split at hstep
      · cases hstep
      · next hgo =>
          obtain rfl := Option.some.inj hstep
          split
          · next stage hstage =>
              -- A release whose version has no row goes on no further.
              have hrows : (versionRows world.db run.dataVersion .dataVersionBatch).length ≠ 0 := by
                intro hnone
                rw [List.length_eq_zero_iff] at hnone
                simp [ReleaseRun.nextStage, hbegun, batchRefusal, hnone] at hstage
              refine hlocks stage hstage fun _ => ?_
              simpa [hrows] using hgo
          · exact h.finish id
  · next hnot hne =>
      obtain rfl := Option.some.inj hstep
      split
      · next stage hstage =>
          refine hlocks stage hstage fun hbegun => ?_
          cases hnow : run.stage <;> simp_all [ReleaseStage.isBegun]
      · exact h.finish id

theorem World.Sound.ingestStatement (h : world.Sound platform) {run : IngestRun}
    (hrun : world.sessions[id]? = some (.ingest run))
    (hstep : world.ingestStatement id run = some next) : next.Sound platform := by
  have hsound : run.Sound platform := h.sessions id _ hrun
  unfold World.ingestStatement at hstep
  split at hstep
  · cases hstep
  · next statement rest hrest =>
      dsimp only at hstep
      split at hstep
      · cases hstep
      · next hfree =>
          split at hstep
          · obtain rfl := Option.some.inj hstep
            refine h.move _ ⟨?_, ?_⟩ (fun _ _ _ _ hfound => hfound) ?_
            · rw [List.append_assoc, List.singleton_append, ← hrest]
              exact hsound.statements
            · intro made hmade htable record hrecord
              rcases List.mem_append.mp hmade with hold | hnew
              · exact List.mem_append_left _ (hsound.locked made hold htable record hrecord)
              · obtain rfl := List.mem_singleton.mp hnew
                refine List.mem_append_right _ (List.mem_map.mpr ⟨record, ?_, ?_⟩)
                · rw [List.mem_filter, htable]
                  exact ⟨hrecord, decide_eq_true (Or.inl (by decide))⟩
                · rw [htable]
            · intro other found hne hfound lock hlock
              rcases List.mem_append.mp hlock with hold | hnew
              · exact h.apart id other _ found (Ne.symm hne) hrun hfound lock hold
              · refine not_mem_locks_of_not_waits ?_ hne hfound lock hnew
                simpa using hfree
          · obtain rfl := Option.some.inj hstep
            exact h.finish id

/-- What a release knows stays so while another session commits that leaves its row alone. -/
theorem Session.Sound.of_batchRows {session : Session} (h : session.Sound platform db)
    (hrows : ∀ run, session = .release run → run.stage.isBegun = false →
      versionRows after run.dataVersion .dataVersionBatch =
        versionRows db run.dataVersion .dataVersionBatch) :
    session.Sound platform after := by
  cases session with
  | release run =>
    have hsound : run.Sound db := h
    exact ⟨fun hbegun =>
      (batchRefusal_congr (hrows run rfl hbegun)).trans (hsound.held hbegun), hsound.counted⟩
  | ingest run => exact h
  | ended => trivial

theorem World.Sound.ne_of_locks (h : world.Sound platform) {id other : Nat} {session : Session}
    {dataVersion : JsText} (hne : other ≠ id) (hsession : world.sessions[id]? = some session)
    (hlock : batchLock dataVersion ∈ session.locks)
    (hrun : world.sessions[other]? = some (.release run)) (hbegun : run.stage.isBegun = false) :
    run.dataVersion ≠ dataVersion := by
  rintro rfl
  refine h.apart id other session _ (Ne.symm hne) hsession hrun _ hlock ?_
  rw [Session.locks, hbegun]
  exact List.mem_singleton_self _

end Soundness

section Commitments

variable {db : Database}

theorem commitRelease_iff :
    step platform world (.commitRelease id) = some next ↔
      ∃ run counts, world.sessions[id]? = some (.release run) ∧ run.stage = .updated counts ∧
        next = { world.put id .ended with db := run.committed world.db } := by
  constructor
  · intro h
    rw [step] at h
    split at h
    · next run hrun =>
        split at h
        · next counts hstage => exact ⟨run, counts, hrun, hstage, (Option.some.inj h).symm⟩
        · cases h
    · cases h
  · rintro ⟨run, counts, hrun, hstage, rfl⟩
    simp only [step, hrun, hstage]

theorem commitIngest_iff :
    step platform world (.commitIngest id) = some next ↔
      ∃ run after, world.sessions[id]? = some (.ingest run) ∧ run.rest = [] ∧
        replay run.done world.db = some after ∧
          next = { world.put id .ended with db := after } := by
  constructor
  · intro h
    rw [step] at h
    split at h
    · next run hrun =>
        split at h
        · next hrest =>
            obtain ⟨after, hafter, rfl⟩ := Option.map_eq_some_iff.mp h
            exact ⟨run, after, hrun, hrest, hafter, rfl⟩
        · cases h
    · cases h
  · rintro ⟨run, after, hrun, hrest, hafter, rfl⟩
    simp only [step, hrun, hrest, hafter, Option.map_some]

theorem db_eq_of_step {action : Action} (h : step platform world action = some next)
    (hrelease : ∀ id, action ≠ .commitRelease id) (hingest : ∀ id, action ≠ .commitIngest id) :
    next.db = world.db := by
  cases action with
  | beginRelease dataVersion manifest dryRun startedAt =>
    obtain rfl := Option.some.inj h
    rfl
  | beginIngest request invocation =>
    rw [step] at h
    split at h
    · obtain rfl := Option.some.inj h
      rfl
    · cases h
  | releaseStatement id governance =>
    rw [step] at h
    split at h
    · unfold World.releaseStatement at h
      split at h
      · cases h
      · split at h
        · cases h
        · obtain rfl := Option.some.inj h
          rfl
      · obtain rfl := Option.some.inj h
        rfl
    · cases h
  | ingestStatement id =>
    rw [step] at h
    split at h
    · unfold World.ingestStatement at h
      split at h
      · cases h
      · dsimp only at h
        split at h
        · cases h
        · split at h <;> (obtain rfl := Option.some.inj h; rfl)
    · cases h
  | commitRelease id => exact absurd rfl (hrelease id)
  | commitIngest id => exact absurd rfl (hingest id)
  | abort id =>
    rw [step] at h
    split at h
    · obtain rfl := Option.some.inj h
      rfl
    · cases h

theorem IngestRun.Sound.replay_eq {run : IngestRun} (h : run.Sound platform)
    (hrest : run.rest = []) : run.done = run.request.statements platform := by
  rw [← h.statements, hrest, List.append_nil]

theorem IngestRun.Sound.mem_locks {run : IngestRun} (h : run.Sound platform)
    (hrest : run.rest = []) : batchLock run.request.dataVersion ∈ run.locks := by
  have hdone := h.replay_eq hrest
  obtain ⟨record, hrecords, hversion, -⟩ := upsertDataVersionRecords_eq run.request
  have hmem : record ∈ ((run.request.statements platform).filter fun statement =>
      statement.table = .dataVersionBatch).flatMap Statement.records := by
    rw [statements_of_table, Request.records, hrecords]
    exact List.mem_singleton_self _
  obtain ⟨statement, hstatement, hrecord⟩ := List.mem_flatMap.mp hmem
  obtain ⟨hmade, htable⟩ := List.mem_filter.mp hstatement
  have hlock := h.locked statement (hdone ▸ hmade) (of_decide_eq_true htable) record hrecord
  have hkey : TableName.keyOf .dataVersionBatch record =
      [some (.text run.request.dataVersion)] := by
    rw [← hversion]
    rfl
  rwa [hkey] at hlock

theorem World.Sound.step (h : world.Sound platform) {action : Action}
    (hstep : IpoIngest.step platform world action = some next) : next.Sound platform := by
  cases action with
  | beginRelease dataVersion manifest dryRun startedAt =>
    obtain rfl := Option.some.inj hstep
    exact h.begin (.release ⟨dataVersion, manifest, dryRun, startedAt, .begun⟩)
      ⟨nofun, nofun⟩ rfl
  | beginIngest request invocation =>
    rw [IpoIngest.step] at hstep
    split at hstep
    · obtain rfl := Option.some.inj hstep
      exact h.begin (.ingest ⟨request, [], request.statements platform, []⟩)
        ⟨rfl, fun _ hmade => absurd hmade List.not_mem_nil⟩ rfl
    · cases hstep
  | releaseStatement id governance =>
    rw [IpoIngest.step] at hstep
    split at hstep
    · next run hrun => exact h.releaseStatement hrun hstep
    · cases hstep
  | ingestStatement id =>
    rw [IpoIngest.step] at hstep
    split at hstep
    · next run hrun => exact h.ingestStatement hrun hstep
    · cases hstep
  | commitRelease id =>
    obtain ⟨run, counts, hrun, hstage, rfl⟩ := commitRelease_iff.mp hstep
    have hlock : batchLock run.dataVersion ∈ (Session.release run).locks := by
      rw [Session.locks, hstage]
      exact List.mem_singleton_self _
    refine h.commit ?_
    intro other found hne hfound hsound
    refine hsound.of_batchRows fun second hsecond hbegun => batchRows_committed_of_other _ ?_
    subst hsecond
    exact h.ne_of_locks hne hrun hlock hfound hbegun
  | commitIngest id =>
    obtain ⟨run, after, hrun, hrest, hafter, rfl⟩ := commitIngest_iff.mp hstep
    have hingest : run.Sound platform := h.sessions id _ hrun
    rw [hingest.replay_eq hrest] at hafter
    refine h.commit ?_
    intro other found hne hfound hsound
    refine hsound.of_batchRows fun second hsecond hbegun => batchRows_ingested_of_other hafter ?_
    subst hsecond
    exact h.ne_of_locks hne hrun (hingest.mem_locks hrest) hfound hbegun
  | abort id =>
    rw [IpoIngest.step] at hstep
    split at hstep
    · obtain rfl := Option.some.inj hstep
      exact h.finish id
    · cases hstep

end Commitments

end Aiphabee.IpoIngest
