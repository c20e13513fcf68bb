import Aiphabee.IpoPublic.ApplyPayload

/-!
# When the apply payload is closed under its links

The links of the payload hold exactly when the four runs and the fetches after
them saw the same pages: the packet run saw what the adapter run saw and named
nothing else, the storage run asked for the same snapshots, and the store gets
the pages that the adapter read.  The check of the payload compares numbers of
rows only.
-/

namespace Aiphabee.IpoPublic

open StableJson

variable {platform : ApplyPlatform}
variable {inputs : ApplyInputs}

section Statement

variable (platform : ApplyPlatform)
variable (inputs : ApplyInputs)
variable (world : PersistWorld)

/-- The payload after the pages were put. -/
def persisted : PersistState :=
  persistRawSnapshots platform world (storageFrom platform inputs)
    (buildApplyPayload platform inputs)

structure PayloadEnvelope.IsOf (envelope : PayloadEnvelope) (object : StoredObject) : Prop where
  objectKey : envelope.objectKey = object.objectKey
  payloadBytes : envelope.payloadBytes = byteLength object.text
  payloadHash : envelope.payloadHash = some (textHash platform.toPlatform object.text)

/-- The rows of the payload name each other, and the stored pages are those they come from. -/
structure LinksClosed : Prop where
  snapshots : ∀ row ∈ (buildApplyPayload platform inputs).observationRows,
    ∃ rawSnapshotId, row.rawSnapshotId = some rawSnapshotId ∧
      ((buildApplyPayload platform inputs).rawSnapshotRows.filter fun raw =>
        raw.rawSnapshotId = some rawSnapshotId).length = 1
  reconciled : ∀ row ∈ (buildApplyPayload platform inputs).reconciliationRows,
    ∀ observationId ∈ row.sourceObservationIds,
      ∃ observation ∈ (buildApplyPayload platform inputs).observationRows,
        observation.observationId = observationId
  supplemented : ∀ row ∈ (buildApplyPayload platform inputs).supplementRows,
    ∃ observation ∈ (buildApplyPayload platform inputs).observationRows,
      observation.observationId = row.sourceObservationId
  stored : (persisted platform inputs world).isOk = true →
    ∀ raw ∈ (persisted platform inputs world).rawSnapshotRows,
      ∃ envelope, raw.payload = some envelope ∧
        ∃ object ∈ (persisted platform inputs world).objects, envelope.IsOf platform object ∧
          ∀ observation ∈ (buildApplyPayload platform inputs).observationRows,
            ∀ rawSnapshotId, observation.rawSnapshotId = some rawSnapshotId →
              raw.rawSnapshotId = some rawSnapshotId →
              object.text = inputs.adapter.page observation.sourceId

def requestsFrom : List RawSnapshotRequest :=
  buildRawSnapshotRequests platform.toPlatform inputs.packet.payload.observations

def LiveRun.AsksFor (live : LiveRun) (requestId : JsText) : Prop :=
  requestId ∈ (packetOf platform.toPlatform live.payload).rawSnapshotRequests.map
    RawSnapshotRequest.requestId

instance (live : LiveRun) (requestId : JsText) : Decidable (live.AsksFor platform requestId) :=
  inferInstanceAs (Decidable (requestId ∈ List.map _ _))

def IsPut (objectPlan : ObjectWritePlan) : Prop :=
  ∃ text, world.fetched objectPlan.sourceId objectPlan.sourceUrl = some text ∧
    world.putPasses (objectPlanForCurrentPayload platform world objectPlan text) text = true

def PagesPut : Prop :=
  ∀ objectPlan ∈ (storageFrom platform inputs).rawSnapshotObjectWritePlans,
    IsPut platform world objectPlan

structure SameViews : Prop where
  /-- The packet run saw what the adapter run saw. -/
  seen : ∀ observation ∈ inputs.observations,
    ∃ other ∈ inputs.packet.payload.observations,
      other.observationId = observation.observationId
  /-- The storage run asked for the snapshots of it, -/
  asked : ∀ observation ∈ inputs.observations, ∀ requestId,
    requestIdOf (requestsFrom platform inputs) observation.observationId = some requestId →
      inputs.storage.live.AsksFor platform requestId
  /-- which no other request of the packet has. -/
  alone : ∀ observation ∈ inputs.observations, ∀ requestId,
    requestIdOf (requestsFrom platform inputs) observation.observationId = some requestId →
      ((requestsFrom platform inputs).filter fun request =>
        (inputs.storage.live.AsksFor platform request.requestId ∨
          inputs.capture.live.AsksFor platform request.requestId) ∧
        rawSnapshotIdOf platform.toPlatform request.requestId =
          rawSnapshotIdOf platform.toPlatform requestId).length = 1
  /-- What the packet run compared or took as a candidate, the adapter run saw. -/
  used : ∀ code, ∀ other ∈ inputs.packet.payload.observationsOf code,
    InComparison platform.toPlatform (inputs.packet.payload.observationsOf code) other ∨
      IsCandidate platform.toPlatform (inputs.packet.payload.observationsOf code) other →
    ∃ observation ∈ inputs.observations, observation.observationId = other.observationId
  /-- The pages that are put are those the adapter run read, and all of the packet's. -/
  pages : PagesPut platform inputs world →
    (∀ request ∈ requestsFrom platform inputs,
      inputs.storage.live.AsksFor platform request.requestId) ∧
    ∀ observation ∈ inputs.observations, ∀ requestId ref,
      requestIdOf (requestsFrom platform inputs) observation.observationId = some requestId →
      storageRefOf platform inputs requestId = some ref →
      world.fetched ref.sourceId ref.sourceUrl = some (inputs.adapter.page observation.sourceId)

end Statement

section Maps

variable {requestId observationId : JsText}

theorem storageRefOf_eq (platform : ApplyPlatform) (inputs : ApplyInputs) (requestId : JsText) :
    storageRefOf platform inputs requestId =
      ((storageFrom platform inputs).rawSnapshotStorageRefs.filter fun row =>
        row.rawSnapshotRequestId = requestId).getLast? := by
  rw [storageRefOf, InsertionMap.get_ofEntries, InsertionMap.lastValue_map, Option.map_id']

theorem captureOf_eq (platform : ApplyPlatform) (inputs : ApplyInputs) (requestId : JsText) :
    captureOf platform inputs requestId =
      ((captureFrom platform inputs).filter fun row =>
        row.rawSnapshotRequestId = requestId).getLast? := by
  rw [captureOf, InsertionMap.get_ofEntries, InsertionMap.lastValue_map, Option.map_id']

/-- A storage ref comes from a request of the storage run. -/
theorem mem_storageRefs_iff {ref : StorageRef} :
    ref ∈ (storageFrom platform inputs).rawSnapshotStorageRefs ↔
      ∃ request ∈ (packetOf platform.toPlatform inputs.storage.live.payload).rawSnapshotRequests,
        ref = storageRef platform.toSnapshotPlatform
          (rawSnapshotCapture platform.toPlatform
            (inputs.storage.fetchText request.sourceId request.sourceUrl) request) := by
  rw [storageFrom, storagePlanOf, buildStoragePlan, buildCapturePlan]
  constructor
  · intro h
    obtain ⟨capture, hcapture, rfl⟩ := List.mem_map.mp h
    obtain ⟨request, hrequest, rfl⟩ := List.mem_map.mp hcapture
    exact ⟨request, hrequest, rfl⟩
  · rintro ⟨request, hrequest, rfl⟩
    exact List.mem_map_of_mem (List.mem_map_of_mem hrequest)

structure RefOf (platform : ApplyPlatform) (inputs : ApplyInputs) (requestId : JsText)
    (ref : StorageRef) : Prop where
  mem : ref ∈ (storageFrom platform inputs).rawSnapshotStorageRefs
  rawSnapshotId : ref.rawSnapshotId = rawSnapshotIdOf platform.toPlatform requestId
  sourceUrl : ref.sourceUrl = ref.sourceId.entryUrl
  envelopeSource : ref.payloadEnvelope.sourceId = ref.sourceId
  envelopeUrl : ref.payloadEnvelope.sourceUrl = ref.sourceUrl

theorem refOf_storageRefOf {ref : StorageRef}
    (h : storageRefOf platform inputs requestId = some ref) :
    RefOf platform inputs requestId ref := by
  rw [storageRefOf_eq] at h
  obtain ⟨hmem, hid⟩ := List.mem_filter.mp (List.mem_of_getLast? h)
  obtain ⟨request, hrequest, rfl⟩ := mem_storageRefs_iff.mp hmem
  have hrequestId : request.requestId = requestId := of_decide_eq_true hid
  refine ⟨hmem, ?_, sourceUrl_of_request hrequest, rfl, rfl⟩
  rw [← hrequestId]
  rfl

theorem storageRefOf_isSome_iff :
    (storageRefOf platform inputs requestId).isSome = true ↔
      inputs.storage.live.AsksFor platform requestId := by
  rw [storageRefOf_eq, List.getLast?_isSome]
  constructor
  · intro hne
    obtain ⟨ref, href⟩ := List.exists_mem_of_ne_nil _ hne
    obtain ⟨hmem, hid⟩ := List.mem_filter.mp href
    obtain ⟨request, hrequest, rfl⟩ := mem_storageRefs_iff.mp hmem
    exact List.mem_map.mpr ⟨request, hrequest, of_decide_eq_true hid⟩
  · intro hasks
    obtain ⟨request, hrequest, hid⟩ := List.mem_map.mp hasks
    refine List.ne_nil_of_mem
      (List.mem_filter.mpr ⟨mem_storageRefs_iff.mpr ⟨request, hrequest, rfl⟩, ?_⟩)
    exact decide_eq_true hid

theorem storageRefOf_rawSnapshotId :
    (storageRefOf platform inputs requestId).map StorageRef.rawSnapshotId =
      if inputs.storage.live.AsksFor platform requestId then
        some (rawSnapshotIdOf platform.toPlatform requestId)
      else none := by
  cases hlookup : storageRefOf platform inputs requestId with
  | none =>
    rw [if_neg]
    · rfl
    · rw [← storageRefOf_isSome_iff, hlookup]
      exact Bool.false_ne_true
  | some ref =>
    rw [if_pos (storageRefOf_isSome_iff.mp (by rw [hlookup]; rfl)), Option.map_some,
      (refOf_storageRefOf hlookup).rawSnapshotId]

theorem captureOf_rawSnapshotId :
    (captureOf platform inputs requestId).map RawSnapshotCapture.rawSnapshotId =
      if inputs.capture.live.AsksFor platform requestId then
        some (rawSnapshotIdOf platform.toPlatform requestId)
      else none := by
  have hmem : ∀ capture, capture ∈ (captureFrom platform inputs).filter
        (fun row => row.rawSnapshotRequestId = requestId) →
      inputs.capture.live.AsksFor platform requestId ∧
        capture.rawSnapshotId = rawSnapshotIdOf platform.toPlatform requestId := by
    intro capture hcapture
    obtain ⟨hin, hid⟩ := List.mem_filter.mp hcapture
    obtain ⟨request, hrequest, rfl⟩ := List.mem_map.mp hin
    have hrequestId : request.requestId = requestId := of_decide_eq_true hid
    refine ⟨List.mem_map.mpr ⟨request, hrequest, hrequestId⟩, ?_⟩
    rw [← hrequestId]
    rfl
  rw [captureOf_eq]
  by_cases hasks : inputs.capture.live.AsksFor platform requestId
  · obtain ⟨request, hrequest, hid⟩ := List.mem_map.mp hasks
    have hne : (captureFrom platform inputs).filter
        (fun row => row.rawSnapshotRequestId = requestId) ≠ [] := by
      refine List.ne_nil_of_mem (List.mem_filter.mpr ⟨List.mem_map_of_mem hrequest, ?_⟩)
      exact decide_eq_true hid
    rw [if_pos hasks, List.getLast?_eq_some_getLast hne, Option.map_some,
      (hmem _ (List.getLast_mem hne)).2]
  · have hnil : (captureFrom platform inputs).filter
        (fun row => row.rawSnapshotRequestId = requestId) = [] := by
      refine List.eq_nil_iff_forall_not_mem.mpr fun capture hcapture => ?_
      exact hasks (hmem capture hcapture).1
    rw [if_neg hasks, hnil]
    rfl

end Maps

theorem get_rawSnapshotIdByObservationId (observationId : JsText) :
    InsertionMap.get (rawSnapshotIdByObservationId platform inputs) observationId =
      (requestIdOf (requestsFrom platform inputs) observationId).map fun requestId =>
        (storageRefOf platform inputs requestId).map StorageRef.rawSnapshotId := by
  rw [rawSnapshotIdByObservationId, InsertionMap.get_ofEntries,
    InsertionMap.lastValue_flatMap, requestIdOf, Option.map_map]
  refine congrArg (Option.map _) (congrArg List.getLast? ?_)
  exact List.filter_congr fun request _ => decide_eq_decide.mpr Iff.rfl

theorem observationRow_rawSnapshotId (observation : Observation) :
    (observationRow platform inputs observation).rawSnapshotId =
      (requestIdOf (requestsFrom platform inputs) observation.observationId).bind fun requestId =>
        if inputs.storage.live.AsksFor platform requestId then
          some (rawSnapshotIdOf platform.toPlatform requestId)
        else none := by
  simp only [← storageRefOf_rawSnapshotId]
  rw [observationRow, get_rawSnapshotIdByObservationId]
  cases requestIdOf (requestsFrom platform inputs) observation.observationId <;> rfl

theorem rawSnapshotRow_rawSnapshotId (request : RawSnapshotRequest) :
    (rawSnapshotRow platform inputs request).rawSnapshotId =
      if inputs.storage.live.AsksFor platform request.requestId ∨
          inputs.capture.live.AsksFor platform request.requestId then
        some (rawSnapshotIdOf platform.toPlatform request.requestId)
      else none := by
  rw [rawSnapshotRow, storageRefOf_rawSnapshotId, captureOf_rawSnapshotId]
  split_ifs with hstorage hcapture <;> simp_all

theorem filter_rawSnapshotRows (rawSnapshotId : JsText) :
    ((buildApplyPayload platform inputs).rawSnapshotRows.filter fun raw =>
        raw.rawSnapshotId = some rawSnapshotId).length =
      ((requestsFrom platform inputs).filter fun request =>
        (inputs.storage.live.AsksFor platform request.requestId ∨
          inputs.capture.live.AsksFor platform request.requestId) ∧
        rawSnapshotIdOf platform.toPlatform request.requestId = rawSnapshotId).length := by
  rw [buildApplyPayload, List.filter_map, List.length_map]
  refine congrArg List.length (List.filter_congr fun request _ => ?_)
  rw [Function.comp_apply, rawSnapshotRow_rawSnapshotId, decide_eq_decide]
  split_ifs with hasked
  · simp [hasked]
  · simp [hasked]

theorem mem_observationIds {request : RawSnapshotRequest}
    (hrequest : request ∈ requestsFrom platform inputs) {observationId : JsText}
    (h : observationId ∈ request.observationIds) :
    ∃ observation ∈ inputs.packet.payload.observations,
      observation.observationId = observationId := by
  rw [requestsFrom, buildRawSnapshotRequests, List.mem_insertionSort] at hrequest
  obtain ⟨group, hgroup, hsome⟩ := List.mem_filterMap.mp hrequest
  obtain ⟨first, -, rfl⟩ := Option.map_eq_some_iff.mp hsome
  rw [rawSnapshotRequest, sorted, List.mem_insertionSort] at h
  obtain ⟨observation, hobservation, hid⟩ := List.mem_map.mp h
  rw [(mem_grouped_iff.mp hgroup).2] at hobservation
  exact ⟨observation, (List.mem_filter.mp hobservation).1, hid⟩

/-- A request is found for an identifier exactly when the packet run saw it. -/
theorem requestIdOf_isSome_iff {observationId : JsText} :
    (∃ requestId, requestIdOf (requestsFrom platform inputs) observationId = some requestId) ↔
      ∃ observation ∈ inputs.packet.payload.observations,
        observation.observationId = observationId := by
  constructor
  · rintro ⟨requestId, h⟩
    obtain ⟨request, hlast, -⟩ := Option.map_eq_some_iff.mp h
    obtain ⟨hrequest, hlists⟩ := List.mem_filter.mp (List.mem_of_getLast? hlast)
    exact mem_observationIds hrequest (of_decide_eq_true hlists)
  · rintro ⟨observation, hobservation, rfl⟩
    obtain ⟨request, hrequest, hlists⟩ := exists_request platform.toPlatform hobservation
    obtain ⟨last, -, hfound, -⟩ := requestIdOf_isSome hrequest hlists
    exact ⟨last.requestId, hfound⟩

theorem snapshot_iff (observation : Observation) :
    (∃ rawSnapshotId,
      (observationRow platform inputs observation).rawSnapshotId = some rawSnapshotId ∧
      ((buildApplyPayload platform inputs).rawSnapshotRows.filter fun raw =>
        raw.rawSnapshotId = some rawSnapshotId).length = 1) ↔
      (∃ other ∈ inputs.packet.payload.observations,
        other.observationId = observation.observationId) ∧
      ∀ requestId,
        requestIdOf (requestsFrom platform inputs) observation.observationId = some requestId →
        inputs.storage.live.AsksFor platform requestId ∧
        ((requestsFrom platform inputs).filter fun request =>
          (inputs.storage.live.AsksFor platform request.requestId ∨
            inputs.capture.live.AsksFor platform request.requestId) ∧
          rawSnapshotIdOf platform.toPlatform request.requestId =
            rawSnapshotIdOf platform.toPlatform requestId).length = 1 := by
  rw [← requestIdOf_isSome_iff]
  simp only [observationRow_rawSnapshotId, filter_rawSnapshotRows, Option.bind_eq_some_iff]
  constructor
  · rintro ⟨rawSnapshotId, ⟨requestId, hfound, hid⟩, hone⟩
    refine ⟨⟨requestId, hfound⟩, fun other hother => ?_⟩
    obtain rfl : requestId = other := Option.some.inj (hfound.symm.trans hother)
    split_ifs at hid with hasks
    obtain rfl := Option.some.inj hid
    exact ⟨hasks, hone⟩
  · rintro ⟨⟨requestId, hfound⟩, h⟩
    obtain ⟨hasks, hone⟩ := h requestId hfound
    exact ⟨_, ⟨requestId, hfound, if_pos hasks⟩, hone⟩

section NamedRows

variable {observationId : JsText}

theorem exists_observationRow_iff :
    (∃ row ∈ (buildApplyPayload platform inputs).observationRows,
        row.observationId = observationId) ↔
      ∃ observation ∈ inputs.observations, observation.observationId = observationId := by
  rw [buildApplyPayload]
  constructor
  · rintro ⟨row, hrow, rfl⟩
    obtain ⟨observation, hobservation, rfl⟩ := List.mem_map.mp hrow
    exact ⟨observation, hobservation, rfl⟩
  · rintro ⟨observation, hobservation, rfl⟩
    exact ⟨_, List.mem_map_of_mem hobservation, rfl⟩

theorem named_by_reconciliation_iff :
    (∃ row ∈ (buildApplyPayload platform inputs).reconciliationRows,
        observationId ∈ row.sourceObservationIds) ↔
      ∃ code, ∃ other ∈ inputs.packet.payload.observationsOf code,
        InComparison platform.toPlatform (inputs.packet.payload.observationsOf code) other ∧
        other.observationId = observationId := by
  have hrows : (∃ row ∈ (buildApplyPayload platform inputs).reconciliationRows,
        observationId ∈ row.sourceObservationIds) ↔
      ∃ row ∈ (packetOf platform.toPlatform inputs.packet.payload).reconciliationRows,
        observationId ∈ row.sourceObservationIds := by
    rw [buildApplyPayload]
    constructor
    · rintro ⟨row, hrow, hid⟩
      obtain ⟨inner, hinner, rfl⟩ := List.mem_map.mp hrow
      exact ⟨inner, hinner, hid⟩
    · rintro ⟨inner, hinner, hid⟩
      exact ⟨_, List.mem_map_of_mem hinner, hid⟩
  rw [hrows]
  constructor
  · rintro ⟨row, hrow, hid⟩
    obtain ⟨code, -, factName, comparison, hsome, rfl⟩ := mem_reconciliationRows_iff.mp hrow
    rw [reconciliationRow, sorted, List.mem_insertionSort] at hid
    have hlisted := hid
    rw [(compareValues_eq_some_iff.mp hsome).2.2.1] at hlisted
    obtain ⟨other, hother, rfl⟩ := exists_observation_of_listed hlisted
    exact ⟨code, other, hother,
      ⟨comparison, mem_securityComparisons.mpr ⟨factName, hsome⟩, hid⟩, rfl⟩
  · rintro ⟨code, other, hother, ⟨comparison, hcomparison, hid⟩, rfl⟩
    obtain ⟨factName, hsome⟩ := mem_securityComparisons.mp hcomparison
    obtain ⟨hin, hcode⟩ := List.mem_filter.mp hother
    refine ⟨_, mem_reconciliationRows_iff.mpr
      ⟨code, List.mem_map.mpr ⟨other, hin, of_decide_eq_true hcode⟩, factName, comparison, hsome,
        rfl⟩, ?_⟩
    rw [reconciliationRow, sorted, List.mem_insertionSort]
    exact hid

theorem named_by_supplement_iff :
    (∃ row ∈ (buildApplyPayload platform inputs).supplementRows,
        row.sourceObservationId = observationId) ↔
      ∃ code, ∃ other ∈ inputs.packet.payload.observationsOf code,
        IsCandidate platform.toPlatform (inputs.packet.payload.observationsOf code) other ∧
        other.observationId = observationId := by
  have hrows : (∃ row ∈ (buildApplyPayload platform inputs).supplementRows,
        row.sourceObservationId = observationId) ↔
      ∃ code ∈ inputs.packet.payload.observations.map Observation.securityCode,
        ∃ candidate ∈ collectSupplementCandidates (inputs.packet.payload.observationsOf code)
          (securityComparisons platform.toPlatform (inputs.packet.payload.observationsOf code)),
        candidate.observationId = observationId := by
    simp only [buildApplyPayload, packetFrom, packetOf, buildReconciliationPacket,
      List.mem_map (f := heldSupplementRow platform inputs), List.mem_flatMap,
      mem_securities_iff]
    constructor
    · rintro ⟨_, ⟨_, ⟨_, ⟨code, hcode, rfl⟩, hrow⟩, rfl⟩, rfl⟩
      obtain ⟨candidate, hcandidate, rfl⟩ := List.mem_map.mp hrow
      exact ⟨code, hcode, candidate, hcandidate, rfl⟩
    · rintro ⟨code, hcode, candidate, hcandidate, rfl⟩
      exact ⟨_, ⟨_, ⟨_, ⟨code, hcode, rfl⟩, List.mem_map_of_mem hcandidate⟩, rfl⟩, rfl⟩
  rw [hrows]
  constructor
  · rintro ⟨code, -, candidate, hcandidate, rfl⟩
    obtain ⟨other, hother, hcandidateOf, -⟩ := mem_candidates hcandidate
    have hid : candidate.observationId = other.observationId := by
      rw [hcandidateOf]
      rfl
    exact ⟨code, other, hother, ⟨candidate, hcandidate, hid⟩, hid.symm⟩
  · rintro ⟨code, other, hother, ⟨candidate, hcandidate, hid⟩, rfl⟩
    obtain ⟨hin, hcode⟩ := List.mem_filter.mp hother
    exact ⟨code, List.mem_map.mpr ⟨other, hin, of_decide_eq_true hcode⟩, candidate, hcandidate,
      hid⟩

/-- The rows of the packet name rows of the payload exactly when the adapter run saw what the
packet run used. -/
theorem named_iff :
    ((∀ row ∈ (buildApplyPayload platform inputs).reconciliationRows,
        ∀ observationId ∈ row.sourceObservationIds,
          ∃ observation ∈ (buildApplyPayload platform inputs).observationRows,
            observation.observationId = observationId) ∧
      ∀ row ∈ (buildApplyPayload platform inputs).supplementRows,
        ∃ observation ∈ (buildApplyPayload platform inputs).observationRows,
          observation.observationId = row.sourceObservationId) ↔
      ∀ code, ∀ other ∈ inputs.packet.payload.observationsOf code,
        InComparison platform.toPlatform (inputs.packet.payload.observationsOf code) other ∨
          IsCandidate platform.toPlatform (inputs.packet.payload.observationsOf code) other →
        ∃ observation ∈ inputs.observations,
          observation.observationId = other.observationId := by
  simp only [exists_observationRow_iff]
  constructor
  · rintro ⟨hreconciled, hsupplemented⟩ code other hother (hcompared | hcandidate)
    · obtain ⟨row, hrow, hid⟩ := named_by_reconciliation_iff.mpr
        ⟨code, other, hother, hcompared, rfl⟩
      exact hreconciled row hrow _ hid
    · obtain ⟨row, hrow, hid⟩ := named_by_supplement_iff.mpr
        ⟨code, other, hother, hcandidate, rfl⟩
      rw [← hid]
      exact hsupplemented row hrow
  · intro h
    constructor
    · intro row hrow observationId hid
      obtain ⟨code, other, hother, hcompared, rfl⟩ := named_by_reconciliation_iff.mp
        ⟨row, hrow, hid⟩
      exact h code other hother (Or.inl hcompared)
    · intro row hrow
      obtain ⟨code, other, hother, hcandidate, hid⟩ := named_by_supplement_iff.mp
        ⟨row, hrow, rfl⟩
      rw [← hid]
      exact h code other hother (Or.inr hcandidate)

end NamedRows

end Aiphabee.IpoPublic
