import Aiphabee.IpoIngest.LockedVersions

/-!
# One released version

The lock on the row of a version keeps that row as the release has found it, so
that a release which commits has changed it from held to released.  The rows of
the other versions and the rows that are counted are not locked: the promises
hold of a run exactly when no release commits after it has been overtaken.
-/

namespace Aiphabee.IpoIngest

open Transition

section Laws

variable {platform : Platform}
variable {db : Database}
variable {world next : World}
variable {run : ReleaseRun}

theorem releasedRefusal_isSome_iff {dataVersion : JsText} :
    (releasedRefusal db dataVersion).isSome = true ↔ ∃ row ∈ db .dataVersionBatch,
      isIpoVersion (row .dataVersion) = true ∧ row .releaseState = asText "released" ∧
        row .dataVersion ≠ some (.text dataVersion) := by
  rw [releasedRefusal]
  split
  · next hany =>
      obtain ⟨row, hrow, hother⟩ := List.any_eq_true.mp hany
      simp only [isOtherReleased, Bool.and_eq_true, decide_eq_true_eq] at hother
      exact iff_of_true rfl ⟨row, hrow, hother.1.1, hother.1.2, hother.2⟩
  · next hnone =>
      refine iff_of_false Bool.false_ne_true fun ⟨row, hrow, hipo, hstate, hversion⟩ => hnone ?_
      refine List.any_eq_true.mpr ⟨row, hrow, ?_⟩
      simp only [isOtherReleased, Bool.and_eq_true, decide_eq_true_eq]
      exact ⟨⟨hipo, hstate⟩, hversion⟩

theorem atMostOne_committed_iff (hone : AtMostOneReleased db)
    (hheld : InState db run.dataVersion "held") :
    AtMostOneReleased (run.committed db) ↔
      ¬(isIpoVersion (some (.text run.dataVersion)) = true ∧
        (releasedRefusal db run.dataVersion).isSome = true) := by
  have hrows : (run.committed db) .dataVersionBatch =
      (db .dataVersionBatch).map (releasedRow run.dataVersion run.startedAt) :=
    Function.update_self ..
  constructor
  · rintro hafter ⟨hipo, hsome⟩
    obtain ⟨other, hother, hotherIpo, hotherState, hne⟩ := releasedRefusal_isSome_iff.mp hsome
    obtain ⟨row, hbatch, hstate⟩ := hheld
    have hmem : row ∈ versionRows db run.dataVersion .dataVersionBatch :=
      hbatch ▸ List.mem_singleton_self row
    obtain ⟨hrow, hversion⟩ := List.mem_filter.mp hmem
    have hversion := of_decide_eq_true hversion
    have hsame := hafter
      (releasedRow run.dataVersion run.startedAt row) (hrows ▸ List.mem_map_of_mem hrow)
      (releasedRow run.dataVersion run.startedAt other) (hrows ▸ List.mem_map_of_mem hother)
      (by rw [releasedRow_dataVersion, hversion]; exact hipo)
      (by rw [releasedRow_dataVersion]; exact hotherIpo)
      (releasedRow_releaseState hversion hstate)
      (by rw [releasedRow_of_other hne]; exact hotherState)
    rw [releasedRow_dataVersion, releasedRow_dataVersion, hversion] at hsame
    exact hne hsame.symm
  · intro hnone row hrow other hother hipo hotherIpo hstate hotherState
    rw [hrows] at hrow hother
    obtain ⟨old, hold, rfl⟩ := List.mem_map.mp hrow
    obtain ⟨second, hsecond, rfl⟩ := List.mem_map.mp hother
    rw [releasedRow_dataVersion] at hipo hotherIpo ⊢
    rw [releasedRow_dataVersion]
    -- A row that is released and of another version would have been found.
    have hfound : ∀ found ∈ db .dataVersionBatch, isIpoVersion (found .dataVersion) = true →
        found .releaseState = asText "released" →
          isIpoVersion (some (.text run.dataVersion)) = true →
            found .dataVersion = some (.text run.dataVersion) := by
      intro found hmem hfoundIpo hfoundState hown
      by_contra hne
      exact hnone ⟨hown, releasedRefusal_isSome_iff.mpr
        ⟨found, hmem, hfoundIpo, hfoundState, hne⟩⟩
    rcases released_before hstate with hbefore | hversion
    · rcases released_before hotherState with hotherBefore | hotherVersion
      · exact hone old hold second hsecond hipo hotherIpo hbefore hotherBefore
      · rw [hotherVersion] at hotherIpo ⊢
        exact hfound old hold hipo hbefore hotherIpo
    · rcases released_before hotherState with hotherBefore | hotherVersion
      · rw [hversion] at hipo ⊢
        exact (hfound second hsecond hotherIpo hotherBefore hipo).symm
      · rw [hversion, hotherVersion]

theorem counts_committed_iff {counts : TableName → Nat}
    (hcounts : countRefusal counts run.manifest = none) :
    (∀ table ∈ gateTables,
      (JsNumber.ofNat (readReleaseCounts (run.committed db) run.dataVersion table)).strictEquals
        (run.manifest.expectedCounts table) = true) ↔
      ∀ table ∈ gateTables, readReleaseCounts db run.dataVersion table = counts table := by
  refine forall₂_congr fun table htable => ?_
  have hread := countRefusal_eq_none_iff.mp hcounts table htable
  rw [readReleaseCounts, versionRows_committed run db htable, readReleaseCounts]
  generalize run.manifest.expectedCounts table = expected at hread ⊢
  cases expected with
  | finite value =>
    have hvalue : (counts table : ℚ) = value := by
      simpa [JsNumber.strictEquals, JsNumber.ofNat] using hread
    simp [JsNumber.strictEquals, JsNumber.ofNat, ← hvalue]
  | _ => simp [JsNumber.strictEquals, JsNumber.ofNat] at hread

theorem lawful_iff (hsound : world.Sound platform) (hone : AtMostOneReleased world.db)
    {action : Action} (hstep : step platform world action = some next) :
    Lawful world action next ↔ NotOvertaken world action := by
  by_cases hrelease : ∃ id, action = .commitRelease id
  · obtain ⟨id, rfl⟩ := hrelease
    obtain ⟨run, counts, hrun, hstage, rfl⟩ := commitRelease_iff.mp hstep
    have hknown : run.Sound world.db := hsound.sessions id _ hrun
    have hcounts : run.stage.counts = some counts := by
      rw [hstage]
      rfl
    have hheld : InState world.db run.dataVersion "held" :=
      inState_of_batchRefusal (hknown.held (by rw [hstage]; rfl))
    have hagree : (∀ table ∈ gateTables, (JsNumber.ofNat (readReleaseCounts
          (run.committed world.db) run.dataVersion table)).strictEquals
            (run.manifest.expectedCounts table) = true) ↔
        ∀ table ∈ gateTables, readReleaseCounts world.db run.dataVersion table = counts table :=
      counts_committed_iff (hknown.counted counts hcounts)
    constructor
    · intro hlawful found hfound hovertaken
      obtain rfl : run = found := by
        rw [hrun] at hfound
        exact Session.release.inj (Option.some.inj hfound)
      rcases hovertaken with hother | ⟨read, hread, table, htable, hne⟩
      · exact (atMostOne_committed_iff hone hheld).mp hlawful.one hother
      · obtain rfl := Option.some.inj (hcounts.symm.trans hread)
        exact hne (hagree.mp (hlawful.counts id run rfl hrun) table htable)
    · intro hnot
      have hfresh := hnot run hrun
      refine ⟨?_, ?_, ?_⟩
      · exact (atMostOne_committed_iff hone hheld).mpr fun hother => hfresh (Or.inl hother)
      · intro other found hsame hfound
        obtain rfl := Action.commitRelease.inj hsame
        obtain rfl : run = found := by
          rw [hrun] at hfound
          exact Session.release.inj (Option.some.inj hfound)
        exact ⟨hheld, inState_committed hheld⟩
      · intro other found hsame hfound
        obtain rfl := Action.commitRelease.inj hsame
        obtain rfl : run = found := by
          rw [hrun] at hfound
          exact Session.release.inj (Option.some.inj hfound)
        refine hagree.mpr fun table htable => ?_
        by_contra hne
        exact hfresh (Or.inr ⟨counts, hcounts, table, htable, hne⟩)
  · have hno : ∀ id, action ≠ .commitRelease id := fun id hsame => hrelease ⟨id, hsame⟩
    have hnext : AtMostOneReleased next.db := by
      by_cases hingest : ∃ id, action = .commitIngest id
      · obtain ⟨id, rfl⟩ := hingest
        obtain ⟨run, after, hrun, hrest, hafter, rfl⟩ := commitIngest_iff.mp hstep
        have hknown : run.Sound platform := hsound.sessions id _ hrun
        rw [hknown.replay_eq hrest] at hafter
        intro row hrow other hother hipo hotherIpo hstate hotherState
        exact hone row (mem_of_ingested hafter hrow hstate) other
          (mem_of_ingested hafter hother hotherState) hipo hotherIpo hstate hotherState
      · rw [db_eq_of_step hstep hno fun id hsame => hingest ⟨id, hsame⟩]
        exact hone
    refine iff_of_true ⟨hnext, fun id _ hsame => absurd hsame (hno id),
      fun id _ hsame => absurd hsame (hno id)⟩ ?_
    cases action with
    | commitRelease id => exact absurd rfl (hno id)
    | _ => trivial

/-- A step that is possible and keeps the promises. -/
def LawfulStep (platform : Platform) (world : World) (action : Action) (next : World) : Prop :=
  Fires (step platform) world action next ∧ Lawful world action next

/--
From any database with at most one version released, the steps of a run keep the
promises exactly when no release commits in it after it has been overtaken.
-/
theorem releases_lawful_iff (platform : Platform) (db : Database) (actions : List Action)
    (world : World) (hone : AtMostOneReleased db) :
    Run (Guarded (Fires (step platform)) NotOvertaken)
        (World.start db) actions world ↔
      Run (LawfulStep platform) (World.start db) actions world := by
  have hstart : (World.start db).Sound platform ∧ AtMostOneReleased (World.start db).db :=
    ⟨World.start_sound platform db, hone⟩
  constructor
  · intro hrun
    refine hrun.into (I := fun world => world.Sound platform ∧ AtMostOneReleased world.db) ?_
      hstart
    rintro before action after ⟨hnot, hstep⟩ ⟨hsound, hbefore⟩
    have hlawful := (lawful_iff hsound hbefore hstep).mpr hnot
    exact ⟨⟨hsound.step hstep, hlawful.one⟩, hstep, hlawful⟩
  · intro hrun
    refine hrun.into (I := fun world => world.Sound platform ∧ AtMostOneReleased world.db) ?_
      hstart
    rintro before action after ⟨hstep, hlawful⟩ ⟨hsound, hbefore⟩
    exact ⟨⟨hsound.step hstep, hlawful.one⟩, (lawful_iff hsound hbefore hstep).mp hlawful, hstep⟩

end Laws

def heldVersion (value : String) : StoredRow :=
  columns [(.dataVersion, asText value), (.releaseState, asText "held")]

def snapshotOf (value : String) : StoredRow :=
  columns [(.rawSnapshotId, asText value), (.dataVersion, asText value)]

def twoHeld : Database
  | .dataVersionBatch => [heldVersion "ipo-mdb-a", heldVersion "ipo-mdb-b"]
  | .rawSnapshot => [snapshotOf "ipo-mdb-a", snapshotOf "ipo-mdb-b"]
  | _ => []

theorem atMostOneReleased_twoHeld :
    AtMostOneReleased twoHeld := by
  intro row hrow other hother hipo hotherIpo hstate hotherState
  have hnone : ((twoHeld .dataVersionBatch).all fun row =>
      row .releaseState ≠ asText "released") = true := by
    decide +kernel
  exact absurd hstate (of_decide_eq_true (List.all_eq_true.mp hnone row hrow))

def oneSnapshot : ReleaseManifest where
  expectedCounts
    | .rawSnapshot => .ofNat 1
    | _ => .ofNat 0

def defaultDeny : ReleaseGovernance where
  contract := [⟨"default_deny", true, false, false⟩]
  defaultDenyDatasets := 7
  blockedFields := 4

def beginRelease (dataVersion : String) : Action :=
  .beginRelease (JsText.ofString dataVersion) oneSnapshot false (JsText.ofString "2026-07-01")

def releaseStatements (id : Nat) : List Action :=
  List.replicate 6 (.releaseStatement id defaultDeny)

def aloneActions : List Action :=
  beginRelease "ipo-mdb-a" :: releaseStatements 0

def worldAfter (actions : List Action) : World :=
  (fire (step plainPlatform) (World.start twoHeld) actions).getD (World.start twoHeld)

theorem run_worldAfter {actions : List Action}
    (h : (fire (step plainPlatform) (World.start twoHeld) actions).isSome = true) :
    Run (Fires (step plainPlatform)) (World.start twoHeld) actions
      (worldAfter actions) := by
  obtain ⟨world, hworld⟩ := Option.isSome_iff_exists.mp h
  rw [run_fires_iff, worldAfter, hworld, Option.getD_some]

def notOvertakenAt (world : World) (id : Nat) : Bool :=
  match world.sessions[id]? with
  | some (.release run) => !run.IsOvertaken world.db
  | _ => true

theorem notOvertaken_of_notOvertakenAt {world : World} {id : Nat}
    (h : notOvertakenAt world id = true) : NotOvertaken world (.commitRelease id) := by
  intro run hrun
  rw [notOvertakenAt, hrun] at h
  simpa using h

theorem guarded_aloneActions :
    Run (Guarded (Fires (step plainPlatform)) NotOvertaken)
      (World.start twoHeld) (aloneActions ++ [.commitRelease 0])
      (worldAfter (aloneActions ++ [.commitRelease 0])) := by
  have hchecks : Run (Fires (step plainPlatform)) (World.start twoHeld)
      aloneActions (worldAfter aloneActions) :=
    run_worldAfter (by decide +kernel)
  have hall : Run (Fires (step plainPlatform)) (World.start twoHeld)
      (aloneActions ++ [.commitRelease 0]) (worldAfter (aloneActions ++ [.commitRelease 0])) :=
    run_worldAfter (by decide +kernel)
  obtain ⟨middle, hmiddle, hcommit⟩ := Run.append_iff.mp hall
  obtain rfl : middle = worldAfter aloneActions :=
    Option.some.inj ((run_fires_iff.mp hmiddle).symm.trans
      (run_fires_iff.mp hchecks))
  obtain ⟨last, hstep, hend⟩ := Run.cons_iff.mp hcommit
  obtain rfl := Run.nil_iff.mp hend
  have hok : NotOvertaken (worldAfter aloneActions) (.commitRelease 0) :=
    notOvertaken_of_notOvertakenAt (by decide +kernel)
  refine (hchecks.guarded fun action haction world => ?_).append
    (Run.single ⟨hok, hstep⟩)
  have hplain : ∀ action ∈ aloneActions, ∀ id, action ≠ .commitRelease id := by
    intro action haction id
    rcases List.mem_cons.mp haction with rfl | hstatement
    · exact nofun
    · rw [List.eq_of_mem_replicate hstatement]
      exact nofun
  cases action with
  | commitRelease id => exact absurd rfl (hplain _ haction id)
  | _ => trivial

/-- A release that runs alone keeps the promises. -/
theorem releases_lawful_alone :
    Run (LawfulStep plainPlatform) (World.start twoHeld)
      (aloneActions ++ [.commitRelease 0]) (worldAfter (aloneActions ++ [.commitRelease 0])) :=
  (releases_lawful_iff plainPlatform twoHeld (aloneActions ++ [.commitRelease 0])
    (worldAfter (aloneActions ++ [.commitRelease 0])) atMostOneReleased_twoHeld).mp
      guarded_aloneActions

/-- Both releases make all their checks before one of them commits. -/
def skewedActions : List Action :=
  [beginRelease "ipo-mdb-a", beginRelease "ipo-mdb-b"] ++ releaseStatements 0 ++
    releaseStatements 1 ++ [.commitRelease 0, .commitRelease 1]

/-- Two releases that both find no other version released are both released. -/
theorem releases_not_lawful :
    ¬∀ (platform : Platform) (db : Database) (actions : List Action) (world : World),
      AtMostOneReleased db →
        Run (Fires (step platform)) (World.start db) actions world →
          Run (LawfulStep platform) (World.start db) actions world := by
  intro h
  have hlawful := h plainPlatform twoHeld skewedActions (worldAfter skewedActions)
    atMostOneReleased_twoHeld (run_worldAfter (by decide +kernel))
  have hone : AtMostOneReleased (worldAfter skewedActions).db :=
    hlawful.preserves (I := fun world => AtMostOneReleased world.db)
      (fun _ _ _ hstep _ => hstep.2.one) atMostOneReleased_twoHeld
  have hversions : (((worldAfter skewedActions).db .dataVersionBatch).map fun row =>
      (row .dataVersion, row .releaseState)) =
      [(asText "ipo-mdb-a", asText "released"), (asText "ipo-mdb-b", asText "released")] := by
    decide +kernel
  have hmem : ∀ version state, (version, state) ∈
      [(asText "ipo-mdb-a", asText "released"), (asText "ipo-mdb-b", asText "released")] →
        ∃ row ∈ (worldAfter skewedActions).db .dataVersionBatch,
          row .dataVersion = version ∧ row .releaseState = state := by
    intro version state hpair
    rw [← hversions] at hpair
    obtain ⟨row, hrow, hsame⟩ := List.mem_map.mp hpair
    obtain ⟨hversion, hstate⟩ := Prod.mk.inj hsame
    exact ⟨row, hrow, hversion, hstate⟩
  obtain ⟨row, hrow, hrowVersion, hrowState⟩ := hmem _ _ List.mem_cons_self
  obtain ⟨other, hother, hotherVersion, hotherState⟩ :=
    hmem _ _ (List.mem_cons_of_mem _ List.mem_cons_self)
  have hipo : isIpoVersion (asText "ipo-mdb-a") = true ∧
      isIpoVersion (asText "ipo-mdb-b") = true ∧ asText "ipo-mdb-a" ≠ asText "ipo-mdb-b" := by
    decide +kernel
  have hsame := hone row hrow other hother (hrowVersion ▸ hipo.1) (hotherVersion ▸ hipo.2.1)
    hrowState hotherState
  rw [hrowVersion, hotherVersion] at hsame
  exact hipo.2.2 hsame

end Aiphabee.IpoIngest
