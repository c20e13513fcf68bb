import Aiphabee.IpoPublic.ApplyLinks

/-!
# The links of the apply payload, exactly

The loop over the plans rewrites the envelope of a row once for its page and puts
that page; the storage plan has a plan for the page of every ref.  With it the
links of the payload are closed exactly when the views agree.  A page that changes
between the adapter run and the packet run changes no number of rows, so that the
check passes it.
-/

namespace Aiphabee.IpoPublic

open JsText (ofString)
open StableJson

variable {platform : ApplyPlatform}
variable {world : PersistWorld}
variable {inputs : ApplyInputs}

section Loop

variable {state : PersistState}

/-- What one round of the loop makes of a row. -/
def rewritten (platform : ApplyPlatform) (world : PersistWorld) (row : RawSnapshotRow)
    (objectPlan : ObjectWritePlan) : RawSnapshotRow :=
  match world.fetched objectPlan.sourceId objectPlan.sourceUrl with
  | none => row
  | some text =>
    currentRow platform objectPlan
      (objectPlanForCurrentPayload platform world objectPlan text) row

def objectOf (platform : ApplyPlatform) (world : PersistWorld)
    (sourceId : SourceId) (text : JsText) : StoredObject :=
  ⟨objectKey sourceId world.date (textHash platform.toPlatform text), text⟩

theorem persistStep_of_put {objectPlan : ObjectWritePlan} {text : JsText}
    (hfetched : world.fetched objectPlan.sourceId objectPlan.sourceUrl = some text)
    (hpasses : world.putPasses (objectPlanForCurrentPayload platform world objectPlan text) text =
      true) :
    (persistStep platform world state objectPlan).objects =
        state.objects ++ [objectOf platform world objectPlan.sourceId text] ∧
      (persistStep platform world state objectPlan).isOk = state.isOk := by
  rw [persistStep, hfetched]
  simp only [hpasses, if_true]
  refine ⟨rfl, ?_⟩
  rw [PersistState.isOk, List.all_append]
  exact Bool.and_true _

/-- A round succeeds exactly when the page is put. -/
theorem persistStep_isOk (objectPlan : ObjectWritePlan) :
    (persistStep platform world state objectPlan).isOk = true ↔
      state.isOk = true ∧ IsPut platform world objectPlan := by
  by_cases hput : IsPut platform world objectPlan
  · obtain ⟨text, hfetched, hpasses⟩ := hput
    rw [(persistStep_of_put hfetched hpasses).2]
    exact ⟨fun h => ⟨h, text, hfetched, hpasses⟩, fun h => h.1⟩
  · refine iff_of_false ?_ fun h => hput h.2
    rw [Bool.not_eq_true, persistStep]
    cases hfetched : world.fetched objectPlan.sourceId objectPlan.sourceUrl with
    | none =>
      rw [PersistState.isOk, List.all_append]
      exact Bool.and_false _
    | some text =>
      have hpasses : ¬world.putPasses
          (objectPlanForCurrentPayload platform world objectPlan text) text = true :=
        fun hpasses => hput ⟨text, hfetched, hpasses⟩
      simp only [hpasses, Bool.false_eq_true, if_false]
      rw [PersistState.isOk, List.all_append]
      exact Bool.and_false _

theorem persistStep_rows (objectPlan : ObjectWritePlan) :
    (persistStep platform world state objectPlan).rawSnapshotRows =
      state.rawSnapshotRows.map fun row => rewritten platform world row objectPlan := by
  simp only [persistStep, rewritten]
  cases world.fetched objectPlan.sourceId objectPlan.sourceUrl with
  | none => exact (List.map_id' _).symm
  | some text =>
    simp only [applyCurrentPayloadEnvelope]
    split <;> rfl

/-- The loop succeeds exactly when every page is put. -/
theorem foldl_isOk (objectPlans : List ObjectWritePlan) (state : PersistState) :
    (objectPlans.foldl (persistStep platform world) state).isOk = true ↔
      state.isOk = true ∧ ∀ objectPlan ∈ objectPlans, IsPut platform world objectPlan := by
  induction objectPlans generalizing state with
  | nil => simp
  | cons objectPlan rest ih =>
    rw [List.foldl_cons, ih, persistStep_isOk, List.forall_mem_cons, and_assoc]

theorem foldl_rows (objectPlans : List ObjectWritePlan) (state : PersistState) :
    (objectPlans.foldl (persistStep platform world) state).rawSnapshotRows =
      state.rawSnapshotRows.map fun row => objectPlans.foldl (rewritten platform world) row := by
  induction objectPlans generalizing state with
  | nil => exact (List.map_id' _).symm
  | cons objectPlan rest ih =>
    rw [List.foldl_cons, ih, persistStep_rows, List.map_map]
    rfl

/-- A loop that succeeds puts the page of every plan and nothing else. -/
theorem mem_objects_foldl (objectPlans : List ObjectWritePlan) (state : PersistState)
    (hput : ∀ objectPlan ∈ objectPlans, IsPut platform world objectPlan) (object : StoredObject) :
    object ∈ (objectPlans.foldl (persistStep platform world) state).objects ↔
      object ∈ state.objects ∨ ∃ objectPlan ∈ objectPlans, ∃ text,
        world.fetched objectPlan.sourceId objectPlan.sourceUrl = some text ∧
        object = objectOf platform world objectPlan.sourceId text := by
  induction objectPlans generalizing state with
  | nil => simp
  | cons objectPlan rest ih =>
    obtain ⟨text, hfetched, hpasses⟩ := hput objectPlan (List.mem_cons_self ..)
    rw [List.foldl_cons, ih _ fun other hother => hput other (List.mem_cons_of_mem _ hother),
      (persistStep_of_put hfetched hpasses).1, List.mem_append, List.mem_singleton, or_assoc]
    refine or_congr_right ?_
    constructor
    · rintro (rfl | ⟨other, hother, h⟩)
      · exact ⟨objectPlan, List.mem_cons_self .., text, hfetched, rfl⟩
      · exact ⟨other, List.mem_cons_of_mem _ hother, h⟩
    · rintro ⟨other, hother, found, hfound, rfl⟩
      rcases List.mem_cons.mp hother with rfl | hrest
      · obtain rfl : text = found := Option.some.inj (hfetched.symm.trans hfound)
        exact Or.inl rfl
      · exact Or.inr ⟨other, hrest, found, hfound, rfl⟩

end Loop

section Envelopes

variable {row : RawSnapshotRow}

theorem rewritten_rawSnapshotId (row : RawSnapshotRow) (objectPlan : ObjectWritePlan) :
    (rewritten platform world row objectPlan).rawSnapshotId = row.rawSnapshotId := by
  rw [rewritten]
  split
  · rfl
  · rw [currentRow]
    split
    · rfl
    · split <;> rfl

theorem foldl_rewritten_rawSnapshotId (objectPlans : List ObjectWritePlan) (row : RawSnapshotRow) :
    (objectPlans.foldl (rewritten platform world) row).rawSnapshotId = row.rawSnapshotId := by
  induction objectPlans generalizing row with
  | nil => rfl
  | cons objectPlan rest ih => rw [List.foldl_cons, ih, rewritten_rawSnapshotId]

theorem foldl_rewritten_none (objectPlans : List ObjectWritePlan) (h : row.payload = none) :
    (objectPlans.foldl (rewritten platform world) row).payload = none := by
  induction objectPlans generalizing row with
  | nil => exact h
  | cons objectPlan rest ih =>
    refine ih ?_
    rw [rewritten]
    split
    · exact h
    · rw [currentRow, h]
      exact h

/-- The envelope is of the page of another one and, when the page was put, of its object. -/
structure PayloadEnvelope.Follows (platform : ApplyPlatform) (world : PersistWorld)
    (objectPlans : List ObjectWritePlan) (original envelope : PayloadEnvelope) : Prop where
  sourceId : envelope.sourceId = original.sourceId
  sourceUrl : envelope.sourceUrl = original.sourceUrl
  current : ∀ text, world.fetched original.sourceId original.sourceUrl = some text →
    (∃ objectPlan ∈ objectPlans, objectPlan.sourceId = original.sourceId ∧
      objectPlan.sourceUrl = original.sourceUrl) →
    envelope.IsOf platform (objectOf platform world original.sourceId text)

theorem foldl_rewritten_some (platform : ApplyPlatform) (world : PersistWorld)
    (objectPlans : List ObjectWritePlan) {original : PayloadEnvelope}
    (h : row.payload = some original) :
    ∃ envelope, (objectPlans.foldl (rewritten platform world) row).payload = some envelope ∧
      original.Follows platform world objectPlans envelope := by
  induction objectPlans using List.reverseRecOn with
  | nil => exact ⟨original, h, rfl, rfl, fun text _ hplan => by simp at hplan⟩
  | append_singleton objectPlans objectPlan ih =>
    obtain ⟨envelope, hpayload, hfollows⟩ := ih
    rw [List.foldl_append, List.foldl_cons, List.foldl_nil, rewritten]
    generalize objectPlans.foldl (rewritten platform world) row = current at hpayload ⊢
    -- The round leaves the row alone: the page is missing, or it is of another source.
    have hunchanged : (∀ text, world.fetched original.sourceId original.sourceUrl = some text →
        ¬(objectPlan.sourceId = original.sourceId ∧
          objectPlan.sourceUrl = original.sourceUrl)) →
        original.Follows platform world (objectPlans ++ [objectPlan]) envelope := by
      intro hother
      refine ⟨hfollows.sourceId, hfollows.sourceUrl, fun text htext hplan => ?_⟩
      obtain ⟨plan, hplan, hpage⟩ := hplan
      rcases List.mem_append.mp hplan with hold | hnew
      · exact hfollows.current text htext ⟨plan, hold, hpage⟩
      · rw [List.mem_singleton.mp hnew] at hpage
        exact absurd hpage (hother text htext)
    cases hfetched : world.fetched objectPlan.sourceId objectPlan.sourceUrl with
    | none =>
      refine ⟨envelope, hpayload, hunchanged fun text htext hpage => ?_⟩
      rw [hpage.1, hpage.2, htext] at hfetched
      cases hfetched
    | some text =>
      simp only [currentRow, hpayload]
      split
      · next hpage =>
          refine ⟨envelope, hpayload, hunchanged fun _ _ hsame => ?_⟩
          rw [hfollows.sourceId, hfollows.sourceUrl, hsame.1, hsame.2] at hpage
          exact hpage.elim (fun h => h rfl) fun h => h rfl
      · next hpage =>
          push Not at hpage
          refine ⟨_, rfl, hfollows.sourceId, hfollows.sourceUrl, fun found hfound _ => ?_⟩
          rw [← hfollows.sourceId, ← hfollows.sourceUrl, hpage.1, hpage.2, hfetched] at hfound
          obtain rfl := Option.some.inj hfound
          rw [← hfollows.sourceId, hpage.1]
          exact ⟨rfl, rfl, rfl⟩

end Envelopes

section Plans

variable {objectPlan : ObjectWritePlan}

theorem mem_objectWritePlans_iff :
    objectPlan ∈ (storageFrom platform inputs).rawSnapshotObjectWritePlans ↔
      ∃ key, InsertionMap.lastValue
        ((buildCapturePlan platform.toPlatform inputs.storage).map fun capture =>
          (objectKeyFor platform.toSnapshotPlatform capture,
            objectWritePlan platform.toSnapshotPlatform capture)) key = some objectPlan := by
  rw [storageFrom, storagePlanOf, buildStoragePlan, List.mem_insertionSort, List.mem_map]
  constructor
  · rintro ⟨⟨key, plan⟩, hentry, rfl⟩
    exact ⟨key, InsertionMap.mem_ofEntries_iff.mp hentry⟩
  · rintro ⟨key, hlast⟩
    exact ⟨(key, objectPlan), InsertionMap.mem_ofEntries_iff.mpr hlast, rfl⟩

theorem sourceUrl_of_capture {capture : RawSnapshotCapture}
    (h : capture ∈ buildCapturePlan platform.toPlatform inputs.storage) :
    capture.sourceUrl = capture.sourceId.entryUrl := by
  obtain ⟨request, hrequest, rfl⟩ := List.mem_map.mp h
  exact sourceUrl_of_request hrequest

theorem sourceUrl_of_objectPlan
    (h : objectPlan ∈ (storageFrom platform inputs).rawSnapshotObjectWritePlans) :
    objectPlan.sourceUrl = objectPlan.sourceId.entryUrl := by
  obtain ⟨key, hlast⟩ := mem_objectWritePlans_iff.mp h
  obtain ⟨capture, hcapture, hentry⟩ := List.mem_map.mp (InsertionMap.mem_of_lastValue hlast)
  obtain ⟨-, rfl⟩ := Prod.mk.inj hentry
  exact sourceUrl_of_capture hcapture

theorem exists_objectPlan {ref : StorageRef}
    (h : ref ∈ (storageFrom platform inputs).rawSnapshotStorageRefs) :
    ∃ objectPlan ∈ (storageFrom platform inputs).rawSnapshotObjectWritePlans,
      objectPlan.sourceId = ref.sourceId ∧ objectPlan.sourceUrl = ref.sourceUrl := by
  obtain ⟨capture, hcapture, rfl⟩ := List.mem_map.mp h
  have hkeys : objectKeyFor platform.toSnapshotPlatform capture ∈
      ((buildCapturePlan platform.toPlatform inputs.storage).map fun capture =>
        (objectKeyFor platform.toSnapshotPlatform capture,
          objectWritePlan platform.toSnapshotPlatform capture)).map Prod.fst :=
    List.mem_map_of_mem (List.mem_map_of_mem hcapture)
  obtain ⟨objectPlan, hlast⟩ := Option.ne_none_iff_exists'.mp
    fun hnone => InsertionMap.lastValue_eq_none_iff.mp hnone hkeys
  obtain ⟨other, hother, hentry⟩ := List.mem_map.mp (InsertionMap.mem_of_lastValue hlast)
  obtain ⟨hkey, rfl⟩ := Prod.mk.inj hentry
  have hsource : other.sourceId = capture.sourceId := sourceId_of_objectKey hkey
  refine ⟨_, mem_objectWritePlans_iff.mpr ⟨_, hlast⟩, hsource, ?_⟩
  change other.sourceUrl = capture.sourceUrl
  rw [sourceUrl_of_capture hother, sourceUrl_of_capture hcapture, hsource]

end Plans

section Main

theorem persisted_isOk :
    (persisted platform inputs world).isOk = true ↔ PagesPut platform inputs world := by
  rw [persisted, persistRawSnapshots, foldl_isOk]
  exact and_iff_right rfl

theorem mem_persisted_objects (hput : PagesPut platform inputs world) {object : StoredObject} :
    object ∈ (persisted platform inputs world).objects ↔
      ∃ objectPlan ∈ (storageFrom platform inputs).rawSnapshotObjectWritePlans, ∃ text,
        world.fetched objectPlan.sourceId objectPlan.sourceUrl = some text ∧
        object = objectOf platform world objectPlan.sourceId text := by
  rw [persisted, persistRawSnapshots, mem_objects_foldl _ _ hput]
  simp

def persistedRow (platform : ApplyPlatform) (inputs : ApplyInputs) (world : PersistWorld)
    (request : RawSnapshotRequest) : RawSnapshotRow :=
  (storageFrom platform inputs).rawSnapshotObjectWritePlans.foldl (rewritten platform world)
    (rawSnapshotRow platform inputs request)

theorem persisted_rows :
    (persisted platform inputs world).rawSnapshotRows =
      (requestsFrom platform inputs).map (persistedRow platform inputs world) := by
  rw [persisted, persistRawSnapshots, foldl_rows, buildApplyPayload, List.map_map]
  rfl

variable {request : RawSnapshotRequest}

theorem persistedRow_rawSnapshotId (h : inputs.storage.live.AsksFor platform request.requestId) :
    (persistedRow platform inputs world request).rawSnapshotId =
      some (rawSnapshotIdOf platform.toPlatform request.requestId) := by
  rw [persistedRow, foldl_rewritten_rawSnapshotId, rawSnapshotRow_rawSnapshotId,
    if_pos (Or.inl h)]

theorem persistedRow_payload (hput : PagesPut platform inputs world) {ref : StorageRef}
    (href : storageRefOf platform inputs request.requestId = some ref) :
    ∃ envelope text, (persistedRow platform inputs world request).payload = some envelope ∧
      world.fetched ref.sourceId ref.sourceUrl = some text ∧
      envelope.IsOf platform (objectOf platform world ref.sourceId text) ∧
      objectOf platform world ref.sourceId text ∈ (persisted platform inputs world).objects := by
  have hrefOf := refOf_storageRefOf href
  have hpayload : (rawSnapshotRow platform inputs request).payload =
      some ref.payloadEnvelope := by
    rw [rawSnapshotRow, href]
    rfl
  obtain ⟨envelope, hfinal, hfollows⟩ := foldl_rewritten_some platform world
    (storageFrom platform inputs).rawSnapshotObjectWritePlans hpayload
  obtain ⟨objectPlan, hplan, hsource, hurl⟩ := exists_objectPlan hrefOf.mem
  obtain ⟨text, hfetched, -⟩ := hput objectPlan hplan
  have hobject := (mem_persisted_objects hput).mpr ⟨objectPlan, hplan, text, hfetched, rfl⟩
  rw [hsource] at hobject
  rw [hsource, hurl] at hfetched
  have hcurrent := hfollows.current text
  rw [hrefOf.envelopeUrl, hrefOf.envelopeSource] at hcurrent
  exact ⟨envelope, text, hfinal, hfetched,
    hcurrent hfetched ⟨objectPlan, hplan, hsource, hurl⟩, hobject⟩

theorem text_of_objectKey (hput : PagesPut platform inputs world) {ref : StorageRef}
    {requestId text : JsText} (href : storageRefOf platform inputs requestId = some ref)
    (hfetched : world.fetched ref.sourceId ref.sourceUrl = some text) {object : StoredObject}
    (hobject : object ∈ (persisted platform inputs world).objects)
    (hkey : (objectOf platform world ref.sourceId text).objectKey = object.objectKey) :
    object.text = text := by
  obtain ⟨objectPlan, hplan, found, hfound, rfl⟩ := (mem_persisted_objects hput).mp hobject
  have hsource : ref.sourceId = objectPlan.sourceId := sourceId_of_objectKey hkey
  rw [sourceUrl_of_objectPlan hplan, ← hsource, ← (refOf_storageRefOf href).sourceUrl,
    hfetched] at hfound
  exact (Option.some.inj hfound).symm

theorem exists_request_of_requestIdOf {requests : List RawSnapshotRequest}
    {observationId requestId : JsText} (h : requestIdOf requests observationId = some requestId) :
    ∃ request ∈ requests, request.requestId = requestId := by
  obtain ⟨request, hlast, hid⟩ := Option.map_eq_some_iff.mp h
  exact ⟨request, (List.mem_filter.mp (List.mem_of_getLast? hlast)).1, hid⟩

theorem observationRow_linked {observation : Observation} {requestId : JsText}
    (hfound : requestIdOf (requestsFrom platform inputs) observation.observationId =
      some requestId)
    (hasks : inputs.storage.live.AsksFor platform requestId) :
    (observationRow platform inputs observation).rawSnapshotId =
      some (rawSnapshotIdOf platform.toPlatform requestId) := by
  rw [observationRow_rawSnapshotId, hfound, Option.bind_some, if_pos hasks]

theorem pages_of_closed (hclosed : LinksClosed platform inputs world)
    (hput : PagesPut platform inputs world) :
    (∀ request ∈ requestsFrom platform inputs,
      inputs.storage.live.AsksFor platform request.requestId) ∧
    ∀ observation ∈ inputs.observations, ∀ requestId ref,
      requestIdOf (requestsFrom platform inputs) observation.observationId = some requestId →
      storageRefOf platform inputs requestId = some ref →
      world.fetched ref.sourceId ref.sourceUrl =
        some (inputs.adapter.page observation.sourceId) := by
  have hstored := hclosed.stored (persisted_isOk.mpr hput)
  rw [persisted_rows] at hstored
  constructor
  · intro request hrequest
    obtain ⟨envelope, hpayload, -⟩ := hstored _ (List.mem_map_of_mem hrequest)
    rw [← storageRefOf_isSome_iff, ← Option.ne_none_iff_isSome]
    intro hnone
    have hrow : (rawSnapshotRow platform inputs request).payload = none := by
      rw [rawSnapshotRow, hnone]
      rfl
    rw [persistedRow, foldl_rewritten_none _ hrow] at hpayload
    cases hpayload
  · intro observation hobservation requestId ref hfound href
    obtain ⟨request, hrequest, rfl⟩ := exists_request_of_requestIdOf hfound
    have hasks : inputs.storage.live.AsksFor platform request.requestId :=
      storageRefOf_isSome_iff.mp (by rw [href]; rfl)
    obtain ⟨envelope, hpayload, object, hobject, hisOf, htext⟩ :=
      hstored _ (List.mem_map_of_mem hrequest)
    obtain ⟨current, text, hcurrent, hfetched, hcurrentOf, -⟩ := persistedRow_payload hput href
    obtain rfl : envelope = current := Option.some.inj (hpayload.symm.trans hcurrent)
    have hsame : object.text = text := text_of_objectKey hput href hfetched hobject
      (hcurrentOf.objectKey.symm.trans hisOf.objectKey)
    rw [hfetched, ← hsame]
    exact congrArg some (htext (observationRow platform inputs observation)
      (List.mem_map_of_mem hobservation) _ (observationRow_linked hfound hasks)
      (persistedRow_rawSnapshotId hasks))

theorem stored_of_sameViews (hviews : SameViews platform inputs world)
    (hput : PagesPut platform inputs world) :
    ∀ raw ∈ (persisted platform inputs world).rawSnapshotRows,
      ∃ envelope, raw.payload = some envelope ∧
        ∃ object ∈ (persisted platform inputs world).objects, envelope.IsOf platform object ∧
          ∀ observation ∈ (buildApplyPayload platform inputs).observationRows,
            ∀ rawSnapshotId, observation.rawSnapshotId = some rawSnapshotId →
              raw.rawSnapshotId = some rawSnapshotId →
              object.text = inputs.adapter.page observation.sourceId := by
  obtain ⟨hasksAll, hpages⟩ := hviews.pages hput
  intro raw hraw
  rw [persisted_rows] at hraw
  obtain ⟨request, hrequest, rfl⟩ := List.mem_map.mp hraw
  have hasks := hasksAll request hrequest
  obtain ⟨ref, href⟩ := Option.isSome_iff_exists.mp (storageRefOf_isSome_iff.mpr hasks)
  obtain ⟨envelope, text, hpayload, hfetched, hisOf, hobject⟩ := persistedRow_payload hput href
  refine ⟨envelope, hpayload, _, hobject, hisOf, fun row hrow rawSnapshotId hlink hid => ?_⟩
  obtain ⟨observation, hobservation, rfl⟩ := List.mem_map.mp hrow
  obtain ⟨requestId, hfound⟩ := requestIdOf_isSome_iff.mpr (hviews.seen observation hobservation)
  have hrequestAsked := hviews.asked observation hobservation requestId hfound
  have hone := hviews.alone observation hobservation requestId hfound
  obtain ⟨owner, howner, rfl⟩ := exists_request_of_requestIdOf hfound
  rw [observationRow_linked hfound hrequestAsked] at hlink
  rw [persistedRow_rawSnapshotId hasks, ← hlink] at hid
  -- The request of the row and that of the observation have one snapshot, so they are one.
  obtain ⟨only, honly⟩ := List.length_eq_one_iff.mp hone
  have hsame : ∀ candidate ∈ requestsFrom platform inputs,
      inputs.storage.live.AsksFor platform candidate.requestId →
      rawSnapshotIdOf platform.toPlatform candidate.requestId =
        rawSnapshotIdOf platform.toPlatform owner.requestId → candidate = only := by
    intro candidate hcandidate hcandidateAsked hcandidateId
    refine List.mem_singleton.mp (honly ▸ List.mem_filter.mpr ⟨hcandidate, ?_⟩)
    exact decide_eq_true ⟨Or.inl hcandidateAsked, hcandidateId⟩
  have howns : owner = request := (hsame owner howner hrequestAsked rfl).trans
    (hsame request hrequest hasks (Option.some.inj hid)).symm
  rw [howns] at hfound
  have hpage := hpages observation hobservation request.requestId ref hfound href
  rw [hfetched] at hpage
  exact Option.some.inj hpage

/-- The payload is closed under its links exactly when the runs saw the same. -/
theorem linksClosed_iff (platform : ApplyPlatform) (inputs : ApplyInputs) (world : PersistWorld) :
    LinksClosed platform inputs world ↔ SameViews platform inputs world := by
  constructor
  · intro hclosed
    have hsnapshots : ∀ observation ∈ inputs.observations, _ := fun observation hobservation =>
      (snapshot_iff observation).mp
        (hclosed.snapshots (observationRow platform inputs observation)
          (List.mem_map_of_mem hobservation))
    exact
      { seen := fun observation hobservation => (hsnapshots observation hobservation).1
        asked := fun observation hobservation requestId h =>
          ((hsnapshots observation hobservation).2 requestId h).1
        alone := fun observation hobservation requestId h =>
          ((hsnapshots observation hobservation).2 requestId h).2
        used := named_iff.mp ⟨hclosed.reconciled, hclosed.supplemented⟩
        pages := pages_of_closed hclosed }
  · intro hviews
    refine
      { snapshots := ?_
        reconciled := (named_iff.mpr hviews.used).1
        supplemented := (named_iff.mpr hviews.used).2
        stored := fun hok => stored_of_sameViews hviews (persisted_isOk.mp hok) }
    intro row hrow
    obtain ⟨observation, hobservation, rfl⟩ := List.mem_map.mp hrow
    exact (snapshot_iff observation).mpr ⟨hviews.seen observation hobservation,
      fun requestId h => ⟨hviews.asked observation hobservation requestId h,
        hviews.alone observation hobservation requestId h⟩⟩

end Main

def plainApplyPlatform : ApplyPlatform where
  toPlatform := plainPlatform
  isoDate := fun _ => some (ofString "2026-06-28")
  latestIso := List.head?
  planHash := fun _ => ofString "0123456789abcdef01234567"
  envelopeHash := PayloadEnvelope.objectKey
  includesRawHtml := fun _ => false
  includesSecrets := fun _ => false

def shownLotSize (observationId : String) (lotSize : FiniteNumber)
    (hid : ofString observationId ≠ [] ∧ 124 ∉ ofString observationId) :
    Observation where
  observationId := ofString observationId
  fieldName := .lotSize
  fieldValue := .number lotSize
  fieldValueType := .number
  locator := ofString "Current IPOs;row=02649.HK;column=Lot Size"
  observedAt := ofString "2026-06-28T00:00:00.000Z"
  provider := ofString "AASTOCKS"
  securityCode := ofString "02649.HK"
  sourceId := .aastocksIpoPlus
  sourceRecordId := ofString "aastocks_ipo_plus:current_ipos:02649.HK"
  sourceUrl := SourceId.entryUrl .aastocksIpoPlus
  idPlain := hid
  fieldKnown := aastocks_lotSize

def runOf (observation : Observation) (hurl : observation.sourceUrl = observation.sourceId.entryUrl)
    (page : String) : LiveRun where
  payload :=
    { runs := [[observation]]
      identified := by
        intro first hfirst second hsecond _
        obtain rfl := List.mem_singleton.mp hfirst
        obtain rfl := List.mem_singleton.mp hsecond
        constructor <;> rfl }
  page := fun _ => ofString page
  located := by
    intro other hother
    obtain rfl := List.mem_singleton.mp hother
    exact hurl

def captureRunOf (live : LiveRun) : CaptureRun where
  live := live
  fetchText := fun sourceId _ =>
    { contentType := ofString "text/html"
      fetchedAt := ofString "2026-06-28T00:00:05.000Z"
      statusCode := 200
      text := live.page sourceId }

def runBefore : LiveRun :=
  runOf (shownLotSize "obs_1" ⟨500, text_500⟩ plainId_one) rfl "lots of 500"

def runAfter : LiveRun :=
  runOf (shownLotSize "obs_2" ⟨1000, by decide +kernel⟩ plainId_two) rfl "lots of 1000"

def changedPage : ApplyInputs where
  adapterStatus := .ok
  adapter := runBefore
  packetStatus := .ok
  packet := runAfter
  packetGeneratedAt := ofString "2026-06-28T00:00:02.000Z"
  captureStatus := .ok
  capture := captureRunOf runAfter
  storageStatus := .ok
  storage := captureRunOf runAfter

def quietWorld : PersistWorld where
  fetched := fun sourceId _ => some (runAfter.page sourceId)
  date := ofString "2026-06-28"
  putPasses := fun _ _ => true

/-- The check passes the payload, whose observation has no snapshot. -/
theorem changedPage_not_closed :
    validateApplyPayload plainApplyPlatform changedPage
        (buildApplyPayload plainApplyPlatform changedPage) = [] ∧
      ¬LinksClosed plainApplyPlatform changedPage quietWorld := by
  constructor
  · decide +kernel
  · intro hclosed
    have hany : ((buildApplyPayload plainApplyPlatform changedPage).observationRows.any
        fun row => row.rawSnapshotId.isNone) = true := by
      decide +kernel
    obtain ⟨row, hrow, hnone⟩ := List.any_eq_true.mp hany
    obtain ⟨rawSnapshotId, hsome, -⟩ := hclosed.snapshots row hrow
    rw [hsome] at hnone
    cases hnone

end Aiphabee.IpoPublic
