import Mathlib.Data.List.Nodup
import Aiphabee.ChartImage.ImageStore

/-!
# What fetches and removals can rely on

Every record and every object comes from one upload, whose generated id no
other one has; so whatever fails, a fetch shows nothing but the image of that
upload, and an image that was reported as removed is not shown again.

The two stores match whenever nothing is in flight as long as no call fails in a
way that keeps them apart: an object then has an active record or an upload that
still holds it, and an active record its object or a removal that is about to
mark it.
-/

namespace Aiphabee.ChartImage

open Transition (Run Fires Guarded)

theorem not_slash_of_safe {value : String} (h : isSafeChartImageSegment value = true) :
    '/' ∉ value.toList := by
  intro hslash
  simp only [isSafeChartImageSegment, Bool.and_eq_true] at h
  have hall := List.all_eq_true.mp h.1.1.2 '/' hslash
  exact absurd hall (by decide)

theorem append_cons_inj {α : Type} {separator : α} {first second rest other : List α}
    (hfirst : separator ∉ first) (hsecond : separator ∉ second)
    (h : first ++ separator :: rest = second ++ separator :: other) :
    first = second ∧ rest = other := by
  induction first generalizing second with
  | nil =>
    cases second with
    | nil => exact ⟨rfl, (List.cons.inj h).2⟩
    | cons c tail => exact absurd (List.mem_cons.mpr (.inl (List.cons.inj h).1)) hsecond
  | cons c tail ih =>
    cases second with
    | nil => exact absurd (List.mem_cons.mpr (.inl (List.cons.inj h).1.symm)) hfirst
    | cons d others =>
      obtain ⟨rfl, htail⟩ := List.cons.inj h
      obtain ⟨rfl, hrest⟩ := ih (fun hmem => hfirst (List.mem_cons_of_mem _ hmem))
        (fun hmem => hsecond (List.mem_cons_of_mem _ hmem)) htail
      exact ⟨rfl, hrest⟩

theorem keyOf_inj {tenantId otherTenant id otherId : String}
    (htenant : isSafeChartImageSegment tenantId = true)
    (hother : isSafeChartImageSegment otherTenant = true)
    (h : keyOf tenantId id = keyOf otherTenant otherId) :
    tenantId = otherTenant ∧ id = otherId := by
  have hparts : tenantId.toList ++ '/' :: id.toList =
      otherTenant.toList ++ '/' :: otherId.toList := by
    simpa only [keyOf, keyPrefix, List.append_assoc, List.cons_append, List.nil_append,
      List.append_cancel_left_eq] using h
  obtain ⟨hfirst, hrest⟩ := append_cons_inj (not_slash_of_safe htenant)
    (not_slash_of_safe hother) hparts
  exact ⟨String.toList_injective hfirst, String.toList_injective hrest⟩

structure Accepted
    (input : UploadInput)
    (record : ChartImageRecord) : Prop where
  contentType : normalizeChartImageContentType input.contentType = some record.contentType
  id : record.id = input.id
  tenantId : record.tenantId = input.tenantId
  r2Key : record.r2Key = keyOf input.tenantId input.id
  active : record.deletedAt = none
  safe : isSafeChartImageSegment input.tenantId = true

theorem uploadRecord_accepted {input : UploadInput} {record : ChartImageRecord}
    (h : uploadRecord input = .ok record) : Accepted input record := by
  unfold uploadRecord at h
  split at h
  · cases h
  next contentType hcontentType =>
  split at h
  · cases h
  split at h
  · cases h
  split at h
  · cases h
  next hsafe =>
  unfold chartImageR2Key at h
  split at h
  · cases h
  next htenant =>
  split at h
  · cases h
  · obtain rfl := Except.ok.inj h
    exact {
      contentType := hcontentType, id := rfl, tenantId := rfl, r2Key := rfl, active := rfl
      safe := by simpa using htenant }

section Steps

theorem step_cases {media : MediaReport} {s t : State} {event : Event}
    (h : Fires (step media) s event t) :
    (∃ request, event = .began request ∧
        (∀ id, request.generatedId = some id → id ∉ generatedIds s.requests) ∧
        t = { s with ops := s.ops ++ [{ request, phase := request.begin }] }) ∨
      ∃ i outcome op stores phase, event = .called i outcome ∧ s.ops[i]? = some op ∧
        call media s.stores outcome op.request op.phase = some (stores, phase) ∧
        t = { stores, ops := s.ops.set i { op with phase } } := by
  cases event with
  | began request =>
    left
    simp only [Fires, step] at h
    split at h
    · cases h
    · next hfresh =>
        refine ⟨request, rfl, ?_, (Option.some.inj h).symm⟩
        intro id hid hmem
        rw [hid] at hfresh
        exact hfresh (by simpa using hmem)
  | called i outcome =>
    right
    obtain ⟨op, hop, hmap⟩ := Option.bind_eq_some_iff.mp h
    obtain ⟨result, hcall, rfl⟩ := Option.map_eq_some_iff.mp hmap
    exact ⟨i, outcome, op, result.1, result.2, rfl, hop, hcall, rfl⟩

variable {ops : List Operation}

theorem getElem?_set_cases {i j : Nat} {new other : Operation}
    (h : (ops.set i new)[j]? = some other) :
    (j = i ∧ other = new) ∨ (j ≠ i ∧ ops[j]? = some other) := by
  rw [List.getElem?_set] at h
  split at h
  · next hij =>
      split at h
      · exact .inl ⟨hij.symm, (Option.some.inj h).symm⟩
      · cases h
  · next hij => exact .inr ⟨fun hji => hij hji.symm, h⟩

theorem getElem?_append_cases {j : Nat} {new other : Operation}
    (h : (ops ++ [new])[j]? = some other) :
    (j = ops.length ∧ other = new) ∨ ops[j]? = some other := by
  rw [List.getElem?_append] at h
  split at h
  · exact .inr h
  · next hj =>
      have hone : j - ops.length = 0 := by
        by_contra hne
        rw [List.getElem?_eq_none (by simp; omega)] at h
        cases h
      rw [hone] at h
      exact .inl ⟨by omega, (Option.some.inj h).symm⟩

theorem requests_set {i : Nat} {op : Operation} (hop : ops[i]? = some op) (phase : Phase) :
    (ops.set i { op with phase }).map Operation.request = ops.map Operation.request := by
  refine List.ext_getElem? fun j => ?_
  rw [List.getElem?_map, List.getElem?_map, List.getElem?_set]
  split
  · next hij =>
      subst hij
      have hlt := (List.getElem?_eq_some_iff.mp hop).1
      rw [if_pos hlt, hop]
      rfl
  · rfl

end Steps

variable (requests : List Request)

def RecordOf (record : ChartImageRecord) : Prop :=
  ∃ input original, .upload input ∈ requests ∧ uploadRecord input = .ok original ∧
    record = { original with deletedAt := record.deletedAt }

def ObjectOf (key : List Char) (object : StoredObject) : Prop :=
  ∃ input record, .upload input ∈ requests ∧ uploadRecord input = .ok record ∧
    record.r2Key = key ∧ object.bytes = input.bytes ∧ object.contentType = record.contentType

def ImageOf (key : List Char) (tenantId : String) (image : FetchedChartImage) : Prop :=
  ∃ input, .upload input ∈ requests ∧ input.tenantId = tenantId ∧
    keyOf tenantId input.id = key ∧ image.bytes = input.bytes ∧
    normalizeChartImageContentType input.contentType = some image.mediaType

/-- The records hold one with an id that is no longer active. -/
def Gone (records : List ChartImageRecord) (id : String) : Prop :=
  ∃ record ∈ records, record.id = id ∧ record.deletedAt ≠ none

/-- What holds of an operation, whatever has failed. -/
def OpSound (stores : Stores) : Request → Phase → Prop
  | .upload input, .putting record | .upload input, .inserting record =>
    uploadRecord input = .ok record ∧ ∀ other ∈ stores.records, other.id ≠ input.id
  | .upload input, .compensating record => uploadRecord input = .ok record
  | .remove id tenantId _, .deleting record | .remove id tenantId _, .marking record =>
    record.id = id ∧ record.tenantId = tenantId ∧ record.r2Key = keyOf tenantId id ∧
      isSafeChartImageSegment tenantId = true ∧
      ∃ other ∈ stores.records, other.id = id ∧ other.tenantId = tenantId
  | .remove id tenantId _, .finished (.removed imageRef _) =>
    imageRef = keyOf tenantId id ∧ isSafeChartImageSegment tenantId = true ∧
      Gone stores.records id
  | .fetch imageRef tenantId, .getting record =>
    RecordOf requests record ∧ record.r2Key = imageRef ∧ record.tenantId = tenantId
  | .fetch imageRef tenantId, .finished (.fetched (some image)) =>
    ImageOf requests imageRef tenantId image
  | _, _ => True

/-- What holds of the stores, whatever has failed. -/
structure StoresSound
    (requests : List Request)
    (stores : Stores) : Prop where
  ids : (stores.records.map ChartImageRecord.id).Nodup
  records : ∀ record ∈ stores.records, RecordOf requests record
  objects : ∀ key object, stores.objects key = some object → ObjectOf requests key object

/-- What holds of every state, whatever has failed. -/
structure State.Sound (s : State) : Prop where
  fresh : ∀ (i j : Nat) (first second : Request) (id : String),
    s.requests[i]? = some first → s.requests[j]? = some second →
      first.generatedId = some id → second.generatedId = some id → i = j
  stores : StoresSound s.requests s.stores
  ops : ∀ (i : Nat) (op : Operation), s.ops[i]? = some op →
    OpSound s.requests s.stores op.request op.phase

theorem State.Sound.upload_eq {s : State} {first second : UploadInput} (hs : s.Sound)
    (hfirst : .upload first ∈ s.requests) (hsecond : .upload second ∈ s.requests)
    (hid : first.id = second.id) : first = second := by
  obtain ⟨i, hi⟩ := List.mem_iff_getElem?.mp hfirst
  obtain ⟨j, hj⟩ := List.mem_iff_getElem?.mp hsecond
  obtain rfl := hs.fresh i j _ _ first.id hi hj rfl (congrArg some hid.symm)
  exact Request.upload.inj (Option.some.inj (hi.symm.trans hj))

theorem getElem?_requests {s : State} {i : Nat} {op : Operation} (hop : s.ops[i]? = some op) :
    s.requests[i]? = some op.request := by
  rw [State.requests, List.getElem?_map, hop]
  rfl

theorem RecordOf.key {requests : List Request} {record : ChartImageRecord}
    (h : RecordOf requests record) :
    record.r2Key = keyOf record.tenantId record.id ∧
      isSafeChartImageSegment record.tenantId = true := by
  obtain ⟨input, original, -, hupload, hrecord⟩ := h
  have haccepted := uploadRecord_accepted hupload
  rw [hrecord]
  exact ⟨by simp only [haccepted.r2Key, haccepted.tenantId, haccepted.id],
    by simpa only [haccepted.tenantId] using haccepted.safe⟩

theorem OpSound.requests_mono {requests more : List Request} {stores : Stores} {request : Request}
    {phase : Phase} (hmore : ∀ other ∈ requests, other ∈ more)
    (h : OpSound requests stores request phase) : OpSound more stores request phase := by
  unfold OpSound at h ⊢
  split at h
  · exact h
  · exact h
  · exact h
  · exact h
  · exact h
  · exact h
  · obtain ⟨⟨input, original, hmem, hrest⟩, hkey⟩ := h
    exact ⟨⟨input, original, hmore _ hmem, hrest⟩, hkey⟩
  · obtain ⟨input, hmem, hrest⟩ := h
    exact ⟨input, hmore _ hmem, hrest⟩
  · trivial

theorem StoresSound.record_eq {requests : List Request} {stores : Stores}
    {first second : ChartImageRecord} (h : StoresSound requests stores)
    (hfirst : first ∈ stores.records) (hsecond : second ∈ stores.records)
    (hid : first.id = second.id) : first = second :=
  List.inj_on_of_nodup_map h.ids hfirst hsecond hid

section Stores

variable {requests : List Request}
variable {stores : Stores}

variable {record : ChartImageRecord}

theorem StoresSound.put {input : UploadInput} (h : StoresSound requests stores)
    (hinput : .upload input ∈ requests) (hupload : uploadRecord input = .ok record) :
    StoresSound requests
      (stores.put record.r2Key { bytes := input.bytes, contentType := record.contentType }) where
  ids := h.ids
  records := h.records
  objects := by
    intro key object hobject
    by_cases hkey : key = record.r2Key
    · subst hkey
      simp only [Stores.put, Function.update_self, Option.some.injEq] at hobject
      subst hobject
      exact ⟨input, record, hinput, hupload, rfl, rfl, rfl⟩
    · simp only [Stores.put, Function.update_of_ne hkey] at hobject
      exact h.objects key object hobject

theorem StoresSound.delete (h : StoresSound requests stores) (key : List Char) :
    StoresSound requests (stores.delete key) where
  ids := h.ids
  records := h.records
  objects := by
    intro other object hobject
    by_cases hkey : other = key
    · subst hkey
      simp [Stores.delete] at hobject
    · simp only [Stores.delete, Function.update_of_ne hkey] at hobject
      exact h.objects other object hobject

theorem StoresSound.insert (h : StoresSound requests stores) (hrecord : RecordOf requests record)
    (hfresh : ∀ other ∈ stores.records, other.id ≠ record.id) :
    StoresSound requests (stores.insert record) where
  ids := by
    rw [Stores.insert, List.map_append, List.nodup_append]
    refine ⟨h.ids, List.nodup_singleton _, ?_⟩
    rintro _ hid _ hnew rfl
    obtain ⟨other, hother, hsame⟩ := List.mem_map.mp hid
    exact hfresh other hother (hsame.trans (List.mem_singleton.mp hnew))
  records := by
    intro other hother
    rcases List.mem_append.mp hother with hold | hnew
    · exact h.records other hold
    · rw [List.mem_singleton.mp hnew]
      exact hrecord
  objects := h.objects

theorem mem_markRemoved {id tenantId removedAt : String}
    (h : record ∈ (stores.markRemoved id tenantId removedAt).records) :
    ∃ other ∈ stores.records, record = { other with deletedAt := record.deletedAt } ∧
      (record = other ∨
        marks id tenantId other = true ∧ record.deletedAt = some removedAt) := by
  obtain ⟨other, hother, rfl⟩ := List.mem_map.mp h
  refine ⟨other, hother, ?_⟩
  split
  · next hmarks => exact ⟨rfl, .inr ⟨hmarks, rfl⟩⟩
  · exact ⟨rfl, .inl rfl⟩

theorem markRemoved_mem (id tenantId removedAt : String) {other : ChartImageRecord}
    (h : other ∈ stores.records) :
    ∃ record ∈ (stores.markRemoved id tenantId removedAt).records,
      record.id = other.id ∧ record.tenantId = other.tenantId ∧
        (other.deletedAt ≠ none ∨ marks id tenantId other = true →
          record.deletedAt ≠ none) := by
  refine ⟨_, List.mem_map_of_mem h, ?_⟩
  split
  · exact ⟨rfl, rfl, fun _ => by simp⟩
  · next hmarks => exact ⟨rfl, rfl, fun hgone => hgone.resolve_right hmarks⟩

theorem StoresSound.markRemoved (h : StoresSound requests stores) (id tenantId removedAt : String) :
    StoresSound requests (stores.markRemoved id tenantId removedAt) where
  ids := by
    have hids : (stores.markRemoved id tenantId removedAt).records.map ChartImageRecord.id =
        stores.records.map ChartImageRecord.id := by
      rw [Stores.markRemoved, List.map_map]
      refine List.map_congr_left fun record _ => ?_
      simp only [Function.comp_apply]
      split <;> rfl
    rw [hids]
    exact h.ids
  records := by
    intro record hrecord
    obtain ⟨other, hother, hsame, -⟩ := mem_markRemoved hrecord
    obtain ⟨input, original, hinput, hupload, horiginal⟩ := h.records other hother
    refine ⟨input, original, hinput, hupload, ?_⟩
    rw [hsame, horiginal]
  objects := h.objects

variable {request : Request}
variable {phase : Phase}

theorem OpSound.of_records_eq {after : Stores} (hrecords : after.records = stores.records)
    (h : OpSound requests stores request phase) : OpSound requests after request phase := by
  unfold OpSound at h ⊢
  rw [hrecords]
  exact h

theorem OpSound.insert (hother : request.generatedId ≠ some record.id)
    (h : OpSound requests stores request phase) :
    OpSound requests (stores.insert record) request phase := by
  have hmem : ∀ other ∈ stores.records, other ∈ (stores.insert record).records :=
    fun other hmem => List.mem_append_left _ hmem
  have hnone : ∀ input : UploadInput, request = .upload input →
      (∀ other ∈ stores.records, other.id ≠ input.id) →
        ∀ other ∈ (stores.insert record).records, other.id ≠ input.id := by
    rintro input rfl hold other hin
    rcases List.mem_append.mp hin with hin | hnew
    · exact hold other hin
    · rw [List.mem_singleton.mp hnew]
      exact fun hid => hother (congrArg some hid.symm)
  unfold OpSound at h ⊢
  split at h
  · exact ⟨h.1, hnone _ rfl h.2⟩
  · exact ⟨h.1, hnone _ rfl h.2⟩
  · exact h
  · obtain ⟨hid, htenant, hkey, hsafe, other, hin, hrest⟩ := h
    exact ⟨hid, htenant, hkey, hsafe, other, hmem other hin, hrest⟩
  · obtain ⟨hid, htenant, hkey, hsafe, other, hin, hrest⟩ := h
    exact ⟨hid, htenant, hkey, hsafe, other, hmem other hin, hrest⟩
  · obtain ⟨href, hsafe, other, hin, hrest⟩ := h
    exact ⟨href, hsafe, other, hmem other hin, hrest⟩
  · exact h
  · exact h
  · trivial

theorem OpSound.markRemoved (id tenantId removedAt : String)
    (h : OpSound requests stores request phase) :
    OpSound requests (stores.markRemoved id tenantId removedAt) request phase := by
  have hnone : ∀ input : UploadInput, (∀ other ∈ stores.records, other.id ≠ input.id) →
      ∀ other ∈ (stores.markRemoved id tenantId removedAt).records, other.id ≠ input.id := by
    intro input hold record hrecord
    obtain ⟨other, hother, hsame, -⟩ := mem_markRemoved hrecord
    rw [hsame]
    exact hold other hother
  have hsome : ∀ wanted owner,
      (∃ other ∈ stores.records, other.id = wanted ∧ other.tenantId = owner) →
        ∃ other ∈ (stores.markRemoved id tenantId removedAt).records,
          other.id = wanted ∧ other.tenantId = owner := by
    rintro wanted owner ⟨other, hother, rfl, rfl⟩
    obtain ⟨record, hrecord, hid, htenant, -⟩ := markRemoved_mem _ _ _ hother
    exact ⟨record, hrecord, hid, htenant⟩
  unfold OpSound at h ⊢
  split at h
  · exact ⟨h.1, hnone _ h.2⟩
  · exact ⟨h.1, hnone _ h.2⟩
  · exact h
  · obtain ⟨hid, htenant, hkey, hsafe, hin⟩ := h
    exact ⟨hid, htenant, hkey, hsafe, hsome _ _ hin⟩
  · obtain ⟨hid, htenant, hkey, hsafe, hin⟩ := h
    exact ⟨hid, htenant, hkey, hsafe, hsome _ _ hin⟩
  · obtain ⟨href, hsafe, other, hother, rfl, hdeleted⟩ := h
    obtain ⟨record, hrecord, hid, -, hgone⟩ := markRemoved_mem id _ _ hother
    exact ⟨href, hsafe, record, hrecord, hid, hgone (.inl hdeleted)⟩
  · exact h
  · exact h
  · trivial

end Stores

section Soundness

theorem leaves_cases {P : Stores → Prop} (outcome : Outcome) {before after : Stores}
    (hbefore : P before) (hafter : P after) : P (outcome.leaves before after) := by
  cases outcome with
  | ok => exact hafter
  | failed effective =>
    cases effective with
    | false => exact hbefore
    | true => exact hafter

theorem orElse_cases {P : Phase → Prop} (outcome : Outcome) {next failure : Phase} (hnext : P next)
    (hfailure : P failure) : P (outcome.orElse next failure) := by
  cases outcome with
  | ok => exact hnext
  | failed effective => exact hfailure

structure CallSound
    (s : State)
    (i : Nat)
    (request : Request)
    (stores : Stores)
    (phase : Phase) : Prop where
  kept : StoresSound s.requests stores
  op : OpSound s.requests stores request phase
  others : ∀ (j : Nat) (other : Operation), j ≠ i → s.ops[j]? = some other →
    OpSound s.requests stores other.request other.phase

theorem State.Sound.callSound {s : State} (hs : s.Sound) {i : Nat} {request : Request}
    {stores : Stores} {phase : Phase} (hrecords : stores.records = s.stores.records)
    (hstores : StoresSound s.requests stores) (hop : OpSound s.requests s.stores request phase) :
    CallSound s i request stores phase where
  kept := hstores
  op := hop.of_records_eq hrecords
  others := fun j other _ hother => (hs.ops j other hother).of_records_eq hrecords

variable {media : MediaReport}

theorem fetchedMediaType_eq {record : ChartImageRecord} {object : StoredObject}
    (h : object.contentType = record.contentType) :
    fetchedMediaType media record object = record.contentType := by
  unfold fetchedMediaType
  cases hreport : media.report object.contentType with
  | none => rfl
  | some mediaType =>
    rcases media.sound _ _ hreport with hnone | hsome
    · simp [hnone]
    · simp [hsome, h]

theorem fetched_imageOf {s : State} (hs : s.Sound) {record : ChartImageRecord}
    {object : StoredObject} (hrecord : RecordOf s.requests record)
    (hobject : s.stores.objects record.r2Key = some object) :
    ImageOf s.requests record.r2Key record.tenantId
      { bytes := object.bytes, mediaType := fetchedMediaType media record object } := by
  have hkey := hrecord.key
  obtain ⟨input, original, hinput, hupload, hsame⟩ := hrecord
  have haccepted := uploadRecord_accepted hupload
  obtain ⟨other, stored, hother, hstored, hstoredKey, hbytes, hcontentType⟩ :=
    hs.stores.objects _ _ hobject
  have hotherAccepted := uploadRecord_accepted hstored
  -- The key tells the tenant and the id of both uploads, and an id is generated once.
  have hids : other.id = input.id := by
    have hkeys : keyOf other.tenantId other.id = keyOf input.tenantId input.id := by
      rw [← hotherAccepted.r2Key, hstoredKey, hsame, ← haccepted.r2Key]
    exact (keyOf_inj hotherAccepted.safe haccepted.safe hkeys).2
  obtain rfl := hs.upload_eq hother hinput hids
  obtain rfl := Except.ok.inj (hstored.symm.trans hupload)
  have htype : record.contentType = stored.contentType := by rw [hsame]
  refine ⟨other, hother, ?_, ?_, hbytes, ?_⟩
  · rw [hsame, ← haccepted.tenantId]
  · rw [hkey.1, hsame, ← haccepted.id]
  · rw [fetchedMediaType_eq (hcontentType.trans htype.symm), htype]
    exact haccepted.contentType

theorem call_sound {s : State} {i : Nat} {op : Operation} {outcome : Outcome} {stores : Stores}
    {phase : Phase} (hs : s.Sound) (hop : s.ops[i]? = some op)
    (hcall : call media s.stores outcome op.request op.phase = some (stores, phase)) :
    CallSound s i op.request stores phase := by
  have hrequest := List.mem_of_getElem? (getElem?_requests hop)
  have hsound := hs.ops i op hop
  have hfresh := fun j other => hs.fresh i j op.request other
  obtain ⟨request, before⟩ := op
  cases request with
  | upload input =>
    cases before with
    | putting record =>
      obtain ⟨rfl, rfl⟩ := Prod.mk.inj (Option.some.inj hcall)
      obtain ⟨hupload, hnone⟩ := hsound
      refine hs.callSound ?_ ?_ ?_
      · exact leaves_cases (P := fun after => after.records = s.stores.records) outcome rfl rfl
      · exact leaves_cases outcome hs.stores (hs.stores.put hrequest hupload)
      · exact orElse_cases outcome ⟨hupload, hnone⟩ trivial
    | inserting record =>
      obtain ⟨rfl, rfl⟩ := Prod.mk.inj (Option.some.inj hcall)
      obtain ⟨hupload, hnone⟩ := hsound
      have haccepted := uploadRecord_accepted hupload
      have hrecord : RecordOf s.requests record := ⟨input, record, hrequest, hupload, rfl⟩
      refine { kept := ?_, op := ?_, others := ?_ }
      · refine leaves_cases outcome hs.stores (hs.stores.insert hrecord ?_)
        rw [haccepted.id]
        exact hnone
      · exact orElse_cases outcome trivial hupload
      · intro j other hne hother
        refine leaves_cases
          (P := fun after => OpSound s.requests after other.request other.phase) outcome
          (hs.ops j other hother) ((hs.ops j other hother).insert fun hsame => hne ?_)
        rw [haccepted.id] at hsame
        exact (hfresh j other.request input.id (getElem?_requests hop)
          (getElem?_requests hother) rfl hsame).symm
    | compensating record =>
      obtain ⟨rfl, rfl⟩ := Prod.mk.inj (Option.some.inj hcall)
      refine hs.callSound ?_ ?_ trivial
      · exact leaves_cases (P := fun after => after.records = s.stores.records) outcome rfl rfl
      · exact leaves_cases outcome hs.stores (hs.stores.delete _)
    | _ => cases hcall
  | remove id tenantId removedAt =>
    cases before with
    | finding =>
      obtain ⟨rfl, rfl⟩ := Prod.mk.inj (Option.some.inj hcall)
      refine hs.callSound rfl hs.stores (orElse_cases outcome ?_ trivial)
      cases hfind : s.stores.findActiveById id tenantId with
      | none => trivial
      | some record =>
        have hmem := List.mem_of_find?_eq_some hfind
        have hkey := (hs.stores.records record hmem).key
        have hmatch := List.find?_some hfind
        simp only [Bool.and_eq_true, decide_eq_true_eq] at hmatch
        obtain ⟨⟨rfl, rfl⟩, -⟩ := hmatch
        exact ⟨rfl, rfl, hkey.1, hkey.2, record, hmem, rfl, rfl⟩
    | deleting record =>
      obtain ⟨rfl, rfl⟩ := Prod.mk.inj (Option.some.inj hcall)
      refine hs.callSound ?_ ?_ ?_
      · exact leaves_cases (P := fun after => after.records = s.stores.records) outcome rfl rfl
      · exact leaves_cases outcome hs.stores (hs.stores.delete _)
      · exact orElse_cases outcome hsound trivial
    | marking record =>
      obtain ⟨rfl, rfl⟩ := Prod.mk.inj (Option.some.inj hcall)
      have hmarked := hs.stores.markRemoved id tenantId removedAt
      refine { kept := ?_, op := ?_, others := ?_ }
      · exact leaves_cases outcome hs.stores hmarked
      · cases outcome with
        | failed effective => trivial
        | ok =>
          obtain ⟨hid, htenant, hkey, hsafe, other, hother, rfl, rfl⟩ := hsound
          obtain ⟨found, hfound, hfoundId, -, hgone⟩ := markRemoved_mem other.id
            other.tenantId removedAt hother
          refine ⟨hkey, hsafe, found, hfound, hfoundId, hgone ?_⟩
          by_cases hdeleted : other.deletedAt = none
          · exact .inr (by simp [marks, ChartImageRecord.isActive, hdeleted])
          · exact .inl hdeleted
      · intro j other _ hother
        exact leaves_cases
          (P := fun after => OpSound s.requests after other.request other.phase) outcome
          (hs.ops j other hother) ((hs.ops j other hother).markRemoved id tenantId removedAt)
    | _ => cases hcall
  | fetch imageRef tenantId =>
    cases before with
    | looking =>
      obtain ⟨rfl, rfl⟩ := Prod.mk.inj (Option.some.inj hcall)
      refine hs.callSound rfl hs.stores (orElse_cases outcome ?_ trivial)
      cases hfind : s.stores.findActiveByKey imageRef tenantId with
      | none => trivial
      | some record =>
        have hmatch := List.find?_some hfind
        simp only [Bool.and_eq_true, decide_eq_true_eq] at hmatch
        exact ⟨hs.stores.records record (List.mem_of_find?_eq_some hfind), hmatch.1.2,
          hmatch.1.1⟩
    | getting record =>
      obtain ⟨rfl, rfl⟩ := Prod.mk.inj (Option.some.inj hcall)
      refine hs.callSound rfl hs.stores (orElse_cases outcome ?_ trivial)
      obtain ⟨hrecord, rfl, rfl⟩ := hsound
      cases hobject : s.stores.objects record.r2Key with
      | none => trivial
      | some object => exact fetched_imageOf hs hrecord hobject
    | _ => cases hcall

/-- A step keeps what holds whatever fails. -/
theorem step_sound {s t : State} {event : Event} (hs : s.Sound) (h : Fires (step media) s event t) :
    t.Sound := by
  rcases step_cases h with ⟨request, -, hfresh, rfl⟩ | ⟨i, outcome, op, stores, phase, -, hop,
    hcall, rfl⟩
  · have hrequests :
        State.requests { s with ops := s.ops ++ [{ request, phase := request.begin }] } =
        s.requests ++ [request] := List.map_append
    have hmore : ∀ other ∈ s.requests, other ∈ s.requests ++ [request] :=
      fun other hother => List.mem_append_left _ hother
    -- The id of a request that was there before is not the one that is generated now.
    have hold : ∀ (j : Nat) (other : Request) (id : String), s.requests[j]? = some other →
        other.generatedId = some id → request.generatedId ≠ some id := by
      intro j other id hj hother hid
      exact hfresh id hid (List.mem_filterMap.mpr ⟨other, List.mem_of_getElem? hj, hother⟩)
    have hsplit : ∀ (j : Nat) (other : Request), (s.requests ++ [request])[j]? = some other →
        s.requests[j]? = some other ∨ (j = s.requests.length ∧ other = request) := by
      intro j other hj
      rcases Nat.lt_trichotomy j s.requests.length with hlt | rfl | hgt
      · rw [List.getElem?_append_left hlt] at hj
        exact .inl hj
      · rw [List.getElem?_append_right (Nat.le_refl _)] at hj
        simp only [Nat.sub_self, List.getElem?_cons_zero, Option.some.injEq] at hj
        exact .inr ⟨rfl, hj.symm⟩
      · rw [List.getElem?_eq_none (by simpa using Nat.succ_le_of_lt hgt)] at hj
        cases hj
    refine { fresh := ?_, stores := ?_, ops := ?_ }
    · rw [hrequests]
      intro j k first second id hj hk hfirst hsecond
      rcases hsplit j first hj with hjOld | ⟨hjNew, hjRequest⟩ <;>
        rcases hsplit k second hk with hkOld | ⟨hkNew, hkRequest⟩
      · exact hs.fresh j k first second id hjOld hkOld hfirst hsecond
      · exact absurd (hkRequest ▸ hsecond) (hold j first id hjOld hfirst)
      · exact absurd (hjRequest ▸ hfirst) (hold k second id hkOld hsecond)
      · rw [hjNew, hkNew]
    · rw [hrequests]
      refine { ids := hs.stores.ids, records := ?_, objects := ?_ }
      · intro record hrecord
        obtain ⟨input, original, hinput, hrest⟩ := hs.stores.records record hrecord
        exact ⟨input, original, hmore _ hinput, hrest⟩
      · intro key object hobject
        obtain ⟨input, record, hinput, hrest⟩ := hs.stores.objects key object hobject
        exact ⟨input, record, hmore _ hinput, hrest⟩
    · rw [hrequests]
      intro j other hother
      rcases getElem?_append_cases hother with ⟨rfl, rfl⟩ | hother
      · cases request with
        | upload input =>
          simp only [Request.begin]
          cases hupload : uploadRecord input with
          | error error => trivial
          | ok record =>
            refine ⟨hupload, ?_⟩
            intro present hpresent hid
            obtain ⟨earlier, original, hearlier, horiginal, hsame⟩ :=
              hs.stores.records present hpresent
            obtain ⟨k, hk⟩ := List.mem_iff_getElem?.mp hearlier
            refine hold k _ input.id hk ?_ rfl
            rw [← hid, hsame, Request.generatedId, (uploadRecord_accepted horiginal).id]
        | remove id tenantId removedAt => trivial
        | fetch imageRef tenantId =>
          simp only [Request.begin]
          split <;> trivial
      · exact (hs.ops j other hother).requests_mono hmore
  · have hrequests : State.requests { stores, ops := s.ops.set i { op with phase } } =
        s.requests := requests_set hop phase
    have hafter := call_sound hs hop hcall
    refine { fresh := ?_, stores := ?_, ops := ?_ }
    · rw [hrequests]
      exact hs.fresh
    · rw [hrequests]
      exact hafter.kept
    · rw [hrequests]
      intro j other hother
      rcases getElem?_set_cases hother with ⟨rfl, rfl⟩ | ⟨hne, hother⟩
      · exact hafter.op
      · exact hafter.others j other hne hother

theorem empty_sound : State.empty.Sound where
  fresh := by
    intro i j first second id hi
    cases hi
  stores := {
    ids := List.nodup_nil
    records := List.forall_mem_nil _
    objects := nofun }
  ops := by
    intro i op hop
    cases hop

theorem run_sound {s t : State} {labels : List Event} (hs : s.Sound)
    (hrun : Run (Fires (step media)) s labels t) : t.Sound :=
  hrun.preserves (I := State.Sound) (fun _ _ _ hstep hsound => step_sound hsound hstep) hs

end Soundness

theorem finished_stays {media : MediaReport} {s t : State} {event : Event} {i : Nat}
    {request : Request} {result : Result} (h : Fires (step media) s event t)
    (hop : s.ops[i]? = some { request, phase := .finished result }) :
    t.ops[i]? = some { request, phase := .finished result } := by
  rcases step_cases h with ⟨begun, -, -, rfl⟩ | ⟨j, outcome, op, stores, phase, -, hj, hcall, rfl⟩
  · exact List.getElem?_append_left (List.getElem?_eq_some_iff.mp hop).1 ▸ hop
  · have hne : j ≠ i := by
      rintro rfl
      obtain rfl := Option.some.inj (hj.symm.trans hop)
      cases request <;> cases hcall
    exact (List.getElem?_set_ne hne).trans hop

/-- The fetch has not found its image, and will not find it. -/
def FetchesNothing : Phase → Prop
  | .looking | .finished (.fetched none) | .finished .failed => True
  | _ => False

theorem findActiveByKey_gone {s : State} {id tenantId owner : String} (hs : s.Sound)
    (hsafe : isSafeChartImageSegment tenantId = true) (hgone : Gone s.stores.records id) :
    s.stores.findActiveByKey (keyOf tenantId id) owner = none := by
  cases hfind : s.stores.findActiveByKey (keyOf tenantId id) owner with
  | none => rfl
  | some record =>
    exfalso
    have hmem := List.mem_of_find?_eq_some hfind
    have hmatch := List.find?_some hfind
    simp only [Bool.and_eq_true, decide_eq_true_eq, ChartImageRecord.isActive] at hmatch
    obtain ⟨⟨-, hkey⟩, hactive⟩ := hmatch
    have hrecord := (hs.stores.records record hmem).key
    have hid := (keyOf_inj hrecord.2 hsafe (hrecord.1.symm.trans hkey)).2
    obtain ⟨removed, hremoved, hremovedId, hdeleted⟩ := hgone
    obtain rfl := hs.stores.record_eq hmem hremoved (hid.trans hremovedId.symm)
    exact hdeleted hactive

theorem removed_not_fetched {media : MediaReport} {s t : State} {labels : List Event} {i : Nat}
    {id tenantId removedAt : String} {imageRef : List Char} {record : ChartImageRecord}
    (hs : s.Sound)
    (hremoved : s.ops[i]? = some {
      request := .remove id tenantId removedAt, phase := .finished (.removed imageRef record) })
    (hrun : Run (Fires (step media)) s labels t) :
    ∀ (j : Nat) (owner : String) (phase : Phase), s.ops.length ≤ j →
      t.ops[j]? = some { request := .fetch imageRef owner, phase } → FetchesNothing phase := by
  refine (hrun.preserves (I := fun u => u.Sound ∧
      u.ops[i]? = some {
        request := .remove id tenantId removedAt, phase := .finished (.removed imageRef record) } ∧
      ∀ (j : Nat) (owner : String) (phase : Phase), s.ops.length ≤ j →
        u.ops[j]? = some { request := .fetch imageRef owner, phase } → FetchesNothing phase)
    ?_ ⟨hs, hremoved, ?_⟩).2.2
  · rintro u event v hstep ⟨hsound, hreported, hfetches⟩
    refine ⟨step_sound hsound hstep, finished_stays hstep hreported, ?_⟩
    intro j owner phase hj hop
    obtain ⟨href, hsafe, hgone⟩ := hsound.ops i _ hreported
    rcases step_cases hstep with ⟨request, -, -, rfl⟩ | ⟨k, outcome, op, stores, next, -, hk, hcall,
      rfl⟩
    · rcases getElem?_append_cases hop with ⟨-, hnew⟩ | hop
      · obtain ⟨rfl, rfl⟩ := Operation.mk.inj hnew
        simp only [Request.begin]
        split <;> trivial
      · exact hfetches j owner phase hj hop
    · rcases getElem?_set_cases hop with ⟨rfl, hnew⟩ | ⟨-, hop⟩
      · obtain ⟨request, before⟩ := op
        obtain ⟨rfl, rfl⟩ := Operation.mk.inj hnew
        have hbefore := hfetches j owner before hj hk
        cases before with
        | looking =>
          obtain ⟨-, rfl⟩ := Prod.mk.inj (Option.some.inj hcall)
          refine orElse_cases outcome ?_ trivial
          rw [href, findActiveByKey_gone hsound hsafe hgone]
          trivial
        | finished result => cases hcall
        | _ => exact hbefore.elim
      · exact hfetches j owner phase hj hop
  · intro j owner phase hj hop
    exact absurd (List.getElem?_eq_some_iff.mp hop).1 (Nat.not_lt.mpr hj)

end Aiphabee.ChartImage
