import Aiphabee.ChartImage.ImageStoreRuns

/-!
# When the two stores match

An object without an active record is one that an upload still holds, and an
active record without its object is one that a removal is about to mark.  This
is kept by every call that succeeds, and by exactly those failures that are
tolerated.
-/

namespace Aiphabee.ChartImage

open Transition

variable {stores : Stores}
variable {i : Nat}
variable {op : Operation}

section Settled

/-- The object that an upload has put and whose record is not there yet. -/
def Request.holds : Request → Phase → Option (List Char)
  | .upload _, .inserting record | .upload _, .compensating record => some record.r2Key
  | _, _ => none

def Request.inserts : Request → Phase → Option (List Char)
  | .upload _, .inserting record => some record.r2Key
  | _, _ => none

def Request.compensates : Request → Phase → Option String
  | .upload input, .compensating _ => some input.id
  | _, _ => none

structure Settled
    (stores : Stores)
    (ops : List Operation) : Prop where
  owned : ∀ key, (stores.objects key).isSome = true →
    (∃ record ∈ stores.records, record.deletedAt = none ∧ record.r2Key = key) ∨
      ∃ (i : Nat) (op : Operation), ops[i]? = some op ∧ op.request.holds op.phase = some key
  backed : ∀ record ∈ stores.records, record.deletedAt = none →
    (stores.objects record.r2Key).isSome = true ∨
      ∃ (i : Nat) (op : Operation) (key : List Char), ops[i]? = some op ∧
        op.request.marksNext op.phase = some (record.id, key)
  held : ∀ (i : Nat) (op : Operation) (key : List Char), ops[i]? = some op →
    op.request.inserts op.phase = some key → (stores.objects key).isSome = true
  absent : ∀ (i : Nat) (op : Operation) (id : String), ops[i]? = some op →
    op.request.compensates op.phase = some id → ∀ record ∈ stores.records, record.id ≠ id
  gone : ∀ (i : Nat) (op : Operation) (id : String) (key : List Char), ops[i]? = some op →
    op.request.marksNext op.phase = some (id, key) → stores.objects key = none

/-- Nothing is owed once nothing is in flight. -/
theorem Settled.matched {s : State} (h : Settled s.stores s.ops) (hquiet : s.Quiet) :
    s.stores.Matched := by
  constructor
  · intro record hrecord hactive
    rcases h.backed record hrecord hactive with hobject | ⟨i, op, key, hop, hmarks⟩
    · exact hobject
    · obtain ⟨result, hresult⟩ := hquiet op (List.mem_of_getElem? hop)
      rw [hresult] at hmarks
      cases hrequest : op.request <;> simp [hrequest, Request.marksNext] at hmarks
  · intro key hobject
    rcases h.owned key hobject with hrecord | ⟨i, op, hop, hholds⟩
    · exact hrecord
    · obtain ⟨result, hresult⟩ := hquiet op (List.mem_of_getElem? hop)
      rw [hresult] at hholds
      cases hrequest : op.request <;> simp [hrequest, Request.holds] at hholds

/-- An operation that owes nothing. -/
def Phase.isIdle : Phase → Bool
  | .inserting _ | .compensating _ | .marking _ => false
  | _ => true

theorem holds_of_idle (request : Request) {phase : Phase} (h : phase.isIdle = true) :
    request.holds phase = none ∧ request.inserts phase = none ∧
      request.compensates phase = none ∧ request.marksNext phase = none := by
  cases request <;> cases phase <;> first | exact ⟨rfl, rfl, rfl, rfl⟩ | cases h

variable {ops : List Operation}

/-- What is owed once the operation at an index has gone on, told apart from the others. -/
theorem settled_set {op new : Operation} (hop : ops[i]? = some op)
    (howned : ∀ key, (stores.objects key).isSome = true →
      (∃ record ∈ stores.records, record.deletedAt = none ∧ record.r2Key = key) ∨
        new.request.holds new.phase = some key ∨
        ∃ (j : Nat) (other : Operation), j ≠ i ∧ ops[j]? = some other ∧
          other.request.holds other.phase = some key)
    (hbacked : ∀ record ∈ stores.records, record.deletedAt = none →
      (stores.objects record.r2Key).isSome = true ∨
        (∃ key, new.request.marksNext new.phase = some (record.id, key)) ∨
        ∃ (j : Nat) (other : Operation) (key : List Char), j ≠ i ∧ ops[j]? = some other ∧
          other.request.marksNext other.phase = some (record.id, key))
    (hheld : ∀ key, new.request.inserts new.phase = some key →
      (stores.objects key).isSome = true)
    (hheldOthers : ∀ (j : Nat) (other : Operation) (key : List Char), j ≠ i →
      ops[j]? = some other → other.request.inserts other.phase = some key →
        (stores.objects key).isSome = true)
    (habsent : ∀ id, new.request.compensates new.phase = some id →
      ∀ record ∈ stores.records, record.id ≠ id)
    (habsentOthers : ∀ (j : Nat) (other : Operation) (id : String), j ≠ i →
      ops[j]? = some other → other.request.compensates other.phase = some id →
        ∀ record ∈ stores.records, record.id ≠ id)
    (hgone : ∀ id key, new.request.marksNext new.phase = some (id, key) →
      stores.objects key = none)
    (hgoneOthers : ∀ (j : Nat) (other : Operation) (id : String) (key : List Char), j ≠ i →
      ops[j]? = some other → other.request.marksNext other.phase = some (id, key) →
        stores.objects key = none) :
    Settled stores (ops.set i new) := by
  have hnew : (ops.set i new)[i]? = some new := by
    rw [List.getElem?_set_self (List.getElem?_eq_some_iff.mp hop).1]
  have hothers : ∀ (j : Nat) (other : Operation), j ≠ i → ops[j]? = some other →
      (ops.set i new)[j]? = some other := by
    intro j other hne hother
    rw [List.getElem?_set_ne hne.symm, hother]
  refine { owned := ?_, backed := ?_, held := ?_, absent := ?_, gone := ?_ }
  · intro key hobject
    rcases howned key hobject with hrecord | hholds | ⟨j, other, hne, hother, hholds⟩
    · exact .inl hrecord
    · exact .inr ⟨i, new, hnew, hholds⟩
    · exact .inr ⟨j, other, hothers j other hne hother, hholds⟩
  · intro record hrecord hactive
    rcases hbacked record hrecord hactive with hobject | ⟨key, hmarks⟩ | ⟨j, other, key, hne,
      hother, hmarks⟩
    · exact .inl hobject
    · exact .inr ⟨i, new, key, hnew, hmarks⟩
    · exact .inr ⟨j, other, key, hothers j other hne hother, hmarks⟩
  · intro j other key hother hinserts
    rcases getElem?_set_cases hother with ⟨rfl, rfl⟩ | ⟨hne, hother⟩
    · exact hheld key hinserts
    · exact hheldOthers j other key hne hother hinserts
  · intro j other id hother hcompensates
    rcases getElem?_set_cases hother with ⟨rfl, rfl⟩ | ⟨hne, hother⟩
    · exact habsent id hcompensates
    · exact habsentOthers j other id hne hother hcompensates
  · intro j other id key hother hmarks
    rcases getElem?_set_cases hother with ⟨rfl, rfl⟩ | ⟨hne, hother⟩
    · exact hgone id key hmarks
    · exact hgoneOthers j other id key hne hother hmarks

/-- What is owed before a step, told apart by the operation that takes it. -/
theorem Settled.owned_cases (h : Settled stores ops) (hop : ops[i]? = some op) {key : List Char}
    (hobject : (stores.objects key).isSome = true) :
    (∃ record ∈ stores.records, record.deletedAt = none ∧ record.r2Key = key) ∨
      op.request.holds op.phase = some key ∨
      ∃ (j : Nat) (other : Operation), j ≠ i ∧ ops[j]? = some other ∧
        other.request.holds other.phase = some key := by
  rcases h.owned key hobject with hrecord | ⟨j, other, hother, hholds⟩
  · exact .inl hrecord
  · by_cases hj : j = i
    · subst hj
      obtain rfl := Option.some.inj (hother.symm.trans hop)
      exact .inr (.inl hholds)
    · exact .inr (.inr ⟨j, other, hj, hother, hholds⟩)

/-- An operation that holds no object leaves each to a record or to another operation. -/
theorem Settled.owned_elsewhere (h : Settled stores ops) (hop : ops[i]? = some op)
    (hholds : op.request.holds op.phase = none) {key : List Char}
    (hobject : (stores.objects key).isSome = true) :
    (∃ record ∈ stores.records, record.deletedAt = none ∧ record.r2Key = key) ∨
      ∃ (j : Nat) (other : Operation), j ≠ i ∧ ops[j]? = some other ∧
        other.request.holds other.phase = some key := by
  rcases h.owned_cases hop hobject with hrecord | hheld | hother
  · exact .inl hrecord
  · rw [hholds] at hheld
    cases hheld
  · exact .inr hother

theorem Settled.backed_cases (h : Settled stores ops) (hop : ops[i]? = some op)
    {record : ChartImageRecord} (hrecord : record ∈ stores.records)
    (hactive : record.deletedAt = none) :
    (stores.objects record.r2Key).isSome = true ∨
      (∃ key, op.request.marksNext op.phase = some (record.id, key)) ∨
      ∃ (j : Nat) (other : Operation) (key : List Char), j ≠ i ∧ ops[j]? = some other ∧
        other.request.marksNext other.phase = some (record.id, key) := by
  rcases h.backed record hrecord hactive with hobject | ⟨j, other, key, hother, hmarks⟩
  · exact .inl hobject
  · by_cases hj : j = i
    · subst hj
      obtain rfl := Option.some.inj (hother.symm.trans hop)
      exact .inr (.inl ⟨key, hmarks⟩)
    · exact .inr (.inr ⟨j, other, key, hj, hother, hmarks⟩)

/-- An operation that owes nothing may go on to one that owes nothing. -/
theorem Settled.idle_step {phase : Phase} (h : Settled stores ops) (hop : ops[i]? = some op)
    (hbefore : op.phase.isIdle = true) (hafter : phase.isIdle = true) :
    Settled stores (ops.set i { op with phase }) := by
  obtain ⟨-, hinserts, hcompensates, hmarks⟩ := holds_of_idle op.request hafter
  obtain ⟨hwasHeld, -, -, hwasMarked⟩ := holds_of_idle op.request hbefore
  refine settled_set hop ?_ ?_ ?_ (fun j other key _ => h.held j other key) ?_
    (fun j other id _ => h.absent j other id) ?_ (fun j other id key _ => h.gone j other id key)
  · intro key hobject
    exact (h.owned_elsewhere hop hwasHeld hobject).imp_right .inr
  · intro record hrecord hactive
    have hcases := h.backed_cases hop hrecord hactive
    rw [hwasMarked] at hcases
    exact hcases.imp_right fun hor => .inr (hor.resolve_left nofun)
  · intro key hkey
    rw [hinserts] at hkey
    cases hkey
  · intro id hid
    rw [hcompensates] at hid
    cases hid
  · intro id key hkey
    rw [hmarks] at hkey
    cases hkey

end Settled

section Objects

variable {key other : List Char}

theorem Stores.delete_of_ne (hne : key ≠ other) :
    (stores.delete other).objects key = stores.objects key :=
  Function.update_of_ne hne _ _

/-- What is there behind a deletion was there before, under another key. -/
theorem Stores.isSome_of_delete (h : ((stores.delete other).objects key).isSome = true) :
    key ≠ other ∧ (stores.objects key).isSome = true := by
  by_cases hkey : key = other
  · simp [Stores.delete, hkey] at h
  · rw [Stores.delete_of_ne hkey] at h
    exact ⟨hkey, h⟩

theorem Stores.delete_eq_none (h : stores.objects key = none) :
    (stores.delete other).objects key = none := by
  by_cases hkey : key = other
  · simp [Stores.delete, hkey]
  · rw [Stores.delete_of_ne hkey, h]

end Objects

section Keys

theorem key_ne_of_id_ne {requests : List Request} {record original : ChartImageRecord}
    {input : UploadInput} (hrecord : RecordOf requests record)
    (hupload : uploadRecord input = .ok original) (hne : record.id ≠ input.id) :
    record.r2Key ≠ original.r2Key := by
  intro hkey
  have haccepted := uploadRecord_accepted hupload
  rw [hrecord.key.1, haccepted.r2Key] at hkey
  exact hne (keyOf_inj hrecord.key.2 haccepted.safe hkey).2

theorem State.Sound.upload_key_ne {s : State} (hs : s.Sound) {i j : Nat}
    {first second : UploadInput} {firstPhase secondPhase : Phase}
    {firstRecord secondRecord : ChartImageRecord} (hne : i ≠ j)
    (hi : s.ops[i]? = some { request := .upload first, phase := firstPhase })
    (hj : s.ops[j]? = some { request := .upload second, phase := secondPhase })
    (hfirst : uploadRecord first = .ok firstRecord)
    (hsecond : uploadRecord second = .ok secondRecord) :
    firstRecord.r2Key ≠ secondRecord.r2Key := by
  intro hkey
  have hfirstAccepted := uploadRecord_accepted hfirst
  have hsecondAccepted := uploadRecord_accepted hsecond
  rw [hfirstAccepted.r2Key, hsecondAccepted.r2Key] at hkey
  have hid := (keyOf_inj hfirstAccepted.safe hsecondAccepted.safe hkey).2
  exact hne (hs.fresh i j _ _ first.id (getElem?_requests hi) (getElem?_requests hj) rfl
    (congrArg some hid.symm))

theorem insert_key_ne {s : State} {input : UploadInput} {original : ChartImageRecord}
    {id tenantId : String} (hupload : uploadRecord input = .ok original)
    (hnone : ∀ other ∈ s.stores.records, other.id ≠ input.id)
    (hsafe : isSafeChartImageSegment tenantId = true)
    (hsome : ∃ other ∈ s.stores.records, other.id = id ∧ other.tenantId = tenantId) :
    original.r2Key ≠ keyOf tenantId id := by
  intro hkey
  have haccepted := uploadRecord_accepted hupload
  rw [haccepted.r2Key] at hkey
  obtain ⟨other, hother, rfl, -⟩ := hsome
  exact hnone other hother (keyOf_inj haccepted.safe hsafe hkey).2.symm

variable {key : List Char}

theorem inserts_eq_some (h : op.request.inserts op.phase = some key) :
    ∃ input record, op = { request := .upload input, phase := .inserting record } ∧
      record.r2Key = key := by
  obtain ⟨request, phase⟩ := op
  cases request <;> cases phase <;> cases h
  exact ⟨_, _, rfl, rfl⟩

/-- An upload that inserts has another key than the records that are there. -/
theorem State.Sound.inserts_key_ne {s : State} (hs : s.Sound) {j : Nat} {id tenantId : String}
    (hop : s.ops[j]? = some op) (h : op.request.inserts op.phase = some key)
    (hsafe : isSafeChartImageSegment tenantId = true)
    (hsome : ∃ other ∈ s.stores.records, other.id = id ∧ other.tenantId = tenantId) :
    key ≠ keyOf tenantId id := by
  obtain ⟨input, inserted, rfl, rfl⟩ := inserts_eq_some h
  obtain ⟨hupload, hnone⟩ := hs.ops j _ hop
  exact insert_key_ne hupload hnone hsafe hsome

theorem holds_eq_some {requests : List Request} {stores : Stores}
    (hsound : OpSound requests stores op.request op.phase)
    (h : op.request.holds op.phase = some key) :
    ∃ input record phase, op = { request := .upload input, phase } ∧
      uploadRecord input = .ok record ∧ record.r2Key = key := by
  obtain ⟨request, phase⟩ := op
  cases request with
  | upload input =>
    cases phase with
    | inserting record => exact ⟨input, record, _, rfl, hsound.1, Option.some.inj h⟩
    | compensating record => exact ⟨input, record, _, rfl, hsound, Option.some.inj h⟩
    | _ => cases h
  | _ => cases h

theorem compensates_eq_some {id : String} (h : op.request.compensates op.phase = some id) :
    ∃ input record, op = { request := .upload input, phase := .compensating record } ∧
      input.id = id := by
  obtain ⟨request, phase⟩ := op
  cases request <;> cases phase <;> cases h
  exact ⟨_, _, rfl, rfl⟩

theorem marksNext_eq_some {id : String} (h : op.request.marksNext op.phase = some (id, key)) :
    ∃ tenantId removedAt record,
      op = { request := .remove id tenantId removedAt, phase := .marking record } ∧
        record.r2Key = key := by
  obtain ⟨request, phase⟩ := op
  cases request <;> cases phase <;> cases h
  exact ⟨_, _, _, rfl, rfl⟩

end Keys

section Calls

variable {s : State}

variable {record : ChartImageRecord}
variable {input : UploadInput}

theorem settled_put (hs : s.Sound) (h : Settled s.stores s.ops)
    (hop : s.ops[i]? = some { request := .upload input, phase := .putting record }) :
    Settled
      (s.stores.put record.r2Key { bytes := input.bytes, contentType := record.contentType })
      (s.ops.set i { request := .upload input, phase := .inserting record }) := by
  obtain ⟨hupload, hnone⟩ := hs.ops i _ hop
  have hgrows : ∀ key, (s.stores.objects key).isSome = true →
      ((s.stores.put record.r2Key
        { bytes := input.bytes, contentType := record.contentType }).objects key).isSome =
          true := by
    intro key hobject
    by_cases hkey : key = record.r2Key
    · simp [Stores.put, hkey]
    · simpa [Stores.put, Function.update_of_ne hkey] using hobject
  refine settled_set hop ?_ ?_ ?_ ?_ ?_ (fun j other id _ => h.absent j other id) ?_ ?_
  · intro key hobject
    by_cases hkey : key = record.r2Key
    · exact .inr (.inl (congrArg some hkey.symm))
    · simp only [Stores.put, Function.update_of_ne hkey] at hobject
      exact (h.owned_elsewhere hop rfl hobject).imp_right .inr
  · intro other hother hactive
    rcases h.backed_cases hop hother hactive with hobject | hmarks | hmarks
    · exact .inl (hgrows _ hobject)
    · obtain ⟨key, hkey⟩ := hmarks
      cases hkey
    · exact .inr (.inr hmarks)
  · intro key hkey
    obtain rfl := Option.some.inj hkey
    simp [Stores.put]
  · intro j other key _ hother hinserts
    exact hgrows key (h.held j other key hother hinserts)
  · intro id hid
    cases hid
  · intro id key hmarks
    cases hmarks
  · intro j other id key _ hother hmarks
    have hgone := h.gone j other id key hother hmarks
    obtain ⟨tenantId, removedAt, removed, rfl, rfl⟩ := marksNext_eq_some hmarks
    obtain ⟨-, -, hkey, hsafe, hsome⟩ := hs.ops j _ hother
    have hne := insert_key_ne hupload hnone hsafe hsome
    rw [← hkey] at hne
    simpa [Stores.put, Function.update_of_ne hne.symm] using hgone

variable {result : Result}

theorem settled_insert (hs : s.Sound) (h : Settled s.stores s.ops)
    (hop : s.ops[i]? = some { request := .upload input, phase := .inserting record }) :
    Settled (s.stores.insert record)
      (s.ops.set i { request := .upload input, phase := .finished result }) := by
  obtain ⟨hupload, hnone⟩ := hs.ops i _ hop
  have haccepted := uploadRecord_accepted hupload
  refine settled_set hop ?_ ?_ nofun (fun j other key _ => h.held j other key) nofun ?_ nofun
    (fun j other id key _ => h.gone j other id key)
  · intro key hobject
    rcases h.owned_cases hop hobject with ⟨old, hold, hrest⟩ | hholds | hholds
    · exact .inl ⟨old, List.mem_append_left _ hold, hrest⟩
    · exact .inl ⟨record, List.mem_append_right _ (List.mem_singleton_self record),
        haccepted.active, Option.some.inj hholds⟩
    · exact .inr (.inr hholds)
  · intro other hother hactive
    rcases List.mem_append.mp hother with hold | hnew
    · rcases h.backed_cases hop hold hactive with hobject | ⟨key, hkey⟩ | hmarks
      · exact .inl hobject
      · cases hkey
      · exact .inr (.inr hmarks)
    · rw [List.mem_singleton.mp hnew]
      exact .inl (h.held i _ record.r2Key hop rfl)
  · intro j other id hne hother hcompensates present hpresent
    rcases List.mem_append.mp hpresent with hold | hnew
    · exact h.absent j other id hother hcompensates present hold
    · obtain ⟨otherInput, otherRecord, rfl, rfl⟩ := compensates_eq_some hcompensates
      rw [List.mem_singleton.mp hnew, haccepted.id]
      intro hid
      exact hne (hs.fresh j i _ _ input.id (getElem?_requests hother) (getElem?_requests hop)
        (congrArg some hid.symm) rfl)

/-- An insert that has not taken effect leaves the object to be taken back. -/
theorem settled_insertFails (hs : s.Sound) (h : Settled s.stores s.ops)
    (hop : s.ops[i]? = some { request := .upload input, phase := .inserting record }) :
    Settled s.stores
      (s.ops.set i { request := .upload input, phase := .compensating record }) := by
  obtain ⟨-, hnone⟩ := hs.ops i _ hop
  refine settled_set hop (fun key hobject => h.owned_cases hop hobject) ?_ nofun
    (fun j other key _ => h.held j other key) ?_ (fun j other id _ => h.absent j other id) nofun
    (fun j other id key _ => h.gone j other id key)
  · intro other hother hactive
    exact (h.backed_cases hop hother hactive).imp_right fun hor =>
      .inr (hor.resolve_left fun ⟨_, hkey⟩ => nomatch hkey)
  · intro id hid
    obtain rfl := Option.some.inj hid
    exact hnone

/-- The object of an upload whose record was not inserted is taken back. -/
theorem settled_compensate (hs : s.Sound) (h : Settled s.stores s.ops)
    (hop : s.ops[i]? = some { request := .upload input, phase := .compensating record }) :
    Settled (s.stores.delete record.r2Key)
      (s.ops.set i { request := .upload input, phase := .finished result }) := by
  have hupload : uploadRecord input = .ok record := hs.ops i _ hop
  have hnone := h.absent i _ input.id hop rfl
  refine settled_set hop ?_ ?_ nofun ?_ nofun (fun j other id _ => h.absent j other id) nofun ?_
  · intro key hobject
    obtain ⟨hkey, hobject⟩ := Stores.isSome_of_delete hobject
    refine (h.owned_cases hop hobject).imp_right fun hor => .inr (hor.resolve_left ?_)
    exact fun hholds => hkey (Option.some.inj hholds).symm
  · intro other hother hactive
    have hne := key_ne_of_id_ne (hs.stores.records other hother) hupload (hnone other hother)
    rcases h.backed_cases hop hother hactive with hobject | ⟨key, hkey⟩ | hmarks
    · left
      rwa [Stores.delete_of_ne hne]
    · cases hkey
    · exact .inr (.inr hmarks)
  · intro j other key hne hother hinserts
    have hobject := h.held j other key hother hinserts
    obtain ⟨otherInput, otherRecord, rfl, rfl⟩ := inserts_eq_some hinserts
    have hkeys := hs.upload_key_ne hne hother hop (hs.ops j _ hother).1 hupload
    rwa [Stores.delete_of_ne hkeys]
  · intro j other id key _ hother hmarks
    exact Stores.delete_eq_none (h.gone j other id key hother hmarks)

variable {id tenantId removedAt : String}

theorem settled_delete (hs : s.Sound) (h : Settled s.stores s.ops)
    (hop : s.ops[i]? = some
      { request := .remove id tenantId removedAt, phase := .deleting record }) :
    Settled (s.stores.delete record.r2Key)
      (s.ops.set i { request := .remove id tenantId removedAt, phase := .marking record }) := by
  obtain ⟨-, -, hkeyOf, hsafe, hsome⟩ := hs.ops i _ hop
  refine settled_set hop ?_ ?_ nofun ?_ nofun (fun j other id _ => h.absent j other id) ?_ ?_
  · intro key hobject
    obtain ⟨-, hobject⟩ := Stores.isSome_of_delete hobject
    exact (h.owned_elsewhere hop rfl hobject).imp_right .inr
  · intro other hother hactive
    by_cases hkey : other.r2Key = record.r2Key
    · have hother := (hs.stores.records other hother).key
      have hids := (keyOf_inj hother.2 hsafe (hother.1.symm.trans (hkey.trans hkeyOf))).2
      exact .inr (.inl ⟨record.r2Key, by rw [hids]; rfl⟩)
    · rcases h.backed_cases hop hother hactive with hobject | ⟨key, hmarks⟩ | hmarks
      · left
        rwa [Stores.delete_of_ne hkey]
      · cases hmarks
      · exact .inr (.inr hmarks)
  · intro j other key _ hother hinserts
    have hne := hs.inserts_key_ne hother hinserts hsafe hsome
    rw [← hkeyOf] at hne
    rw [Stores.delete_of_ne hne]
    exact h.held j other key hother hinserts
  · intro other key hkey
    obtain ⟨-, rfl⟩ := Prod.mk.inj (Option.some.inj hkey)
    simp [Stores.delete]
  · intro j other otherId key _ hother hmarks
    exact Stores.delete_eq_none (h.gone j other otherId key hother hmarks)

theorem settled_mark (hs : s.Sound) (h : Settled s.stores s.ops)
    (hop : s.ops[i]? = some
      { request := .remove id tenantId removedAt, phase := .marking record }) :
    Settled (s.stores.markRemoved id tenantId removedAt)
      (s.ops.set i { request := .remove id tenantId removedAt, phase := .finished result }) := by
  obtain ⟨-, -, hkeyOf, -, present, hpresent, hpresentId, hpresentTenant⟩ := hs.ops i _ hop
  have hgone := h.gone i _ id record.r2Key hop rfl
  refine settled_set hop ?_ ?_ nofun (fun j other key _ => h.held j other key) nofun ?_ nofun
    (fun j other id key _ => h.gone j other id key)
  · intro key hobject
    rcases h.owned_cases hop hobject with ⟨old, hold, hactive, hkey⟩ | hholds | hholds
    · refine .inl ⟨old, List.mem_map.mpr ⟨old, hold, if_neg ?_⟩, hactive, hkey⟩
      -- A record that is marked has the key of the deleted object.
      intro hmarks
      simp only [marks, Bool.and_eq_true, decide_eq_true_eq] at hmarks
      obtain ⟨⟨htenant, hid⟩, -⟩ := hmarks
      have hsame : key = record.r2Key := by
        rw [← hkey, (hs.stores.records old hold).key.1, htenant, hid, hkeyOf]
      have hnone : s.stores.objects key = none := by rw [hsame, hgone]
      simp only [Stores.markRemoved, hnone] at hobject
      cases hobject
    · cases hholds
    · exact .inr (.inr hholds)
  · intro other hother hactive
    obtain ⟨old, hold, hsame, rfl | ⟨-, hdeleted⟩⟩ := mem_markRemoved hother
    · rcases h.backed_cases hop hold hactive with hobject | ⟨key, hkey⟩ | hmarks
      · exact .inl hobject
      · exfalso
        -- The record that this removal marks is no longer active.
        obtain ⟨hid, -⟩ := Prod.mk.inj (Option.some.inj hkey)
        obtain rfl := hs.stores.record_eq hold hpresent (hid.symm.trans hpresentId.symm)
        obtain ⟨found, hfound, himage⟩ := List.mem_map.mp hother
        have hfoundId : found.id = other.id := by
          rw [← himage]
          split <;> rfl
        obtain rfl := hs.stores.record_eq hfound hold hfoundId
        rw [if_pos (by simp [marks, ChartImageRecord.isActive, hid, hpresentTenant, hactive])]
          at himage
        rw [← himage] at hactive
        cases hactive
      · exact .inr (.inr hmarks)
    · rw [hdeleted] at hactive
      cases hactive
  · intro j other otherId _ hother hcompensates marked hmarked
    obtain ⟨old, hold, hsame, -⟩ := mem_markRemoved hmarked
    rw [hsame]
    exact h.absent j other otherId hother hcompensates old hold

theorem settled_covered {phase : Phase} {stores : Stores} (hs : s.Sound)
    (h : Settled s.stores s.ops)
    (hop : s.ops[i]? = some { request := .remove id tenantId removedAt, phase })
    (hphase : phase = .deleting record ∨ phase = .marking record)
    (hstores : stores = s.stores ∨ stores = s.stores.delete record.r2Key)
    (hcovered : s.Covered i id) :
    Settled stores
      (s.ops.set i { request := .remove id tenantId removedAt, phase := .finished result }) := by
  have hop' := hs.ops i _ hop
  have hrecord : record.id = id ∧ record.r2Key = keyOf tenantId id ∧
      isSafeChartImageSegment tenantId = true ∧
      ∃ other ∈ s.stores.records, other.id = id ∧ other.tenantId = tenantId := by
    rcases hphase with rfl | rfl <;> exact ⟨hop'.1, hop'.2.2.1, hop'.2.2.2.1, hop'.2.2.2.2⟩
  obtain ⟨-, hkeyOf, hsafe, hsome⟩ := hrecord
  have hholds : Request.holds (.remove id tenantId removedAt) phase = none := by
    rcases hphase with rfl | rfl <;> rfl
  have hrecords : stores.records = s.stores.records := by
    rcases hstores with rfl | rfl <;> rfl
  have hsame : ∀ key, key ≠ record.r2Key → stores.objects key = s.stores.objects key := by
    intro key hne
    rcases hstores with rfl | rfl
    · rfl
    · exact Stores.delete_of_ne hne
  have hshrinks : ∀ key, (stores.objects key).isSome = true →
      (s.stores.objects key).isSome = true := by
    intro key hobject
    rcases hstores with rfl | rfl
    · exact hobject
    · exact (Stores.isSome_of_delete hobject).2
  refine settled_set hop ?_ ?_ ?_ ?_ ?_ ?_ ?_ ?_
  · intro key hobject
    rw [hrecords]
    exact (h.owned_elsewhere hop hholds (hshrinks key hobject)).imp_right .inr
  · intro other hother hactive
    rw [hrecords] at hother
    by_cases hid : other.id = id
    · rcases hcovered with hall | ⟨j, marker, key, hne, hj, hmarks⟩
      · exact absurd hactive (hall other hother hid)
      · exact .inr (.inr ⟨j, marker, key, hne, hj, by rw [hid, hmarks]⟩)
    · have hkey := (hs.stores.records other hother).key
      have hne : other.r2Key ≠ record.r2Key := by
        intro hsameKey
        exact hid (keyOf_inj hkey.2 hsafe (hkey.1.symm.trans (hsameKey.trans hkeyOf))).2
      rcases h.backed_cases hop hother hactive with hobject | ⟨key, hmarks⟩ | hmarks
      · left
        rw [hsame _ hne]
        exact hobject
      · obtain ⟨_, _, _, hmarker, -⟩ := marksNext_eq_some hmarks
        obtain ⟨hrequest, -⟩ := Operation.mk.inj hmarker
        exact absurd (Request.remove.inj hrequest).1.symm hid
      · exact .inr (.inr hmarks)
  · intro key hinserts
    cases hinserts
  · intro j other key _ hother hinserts
    have hne := hs.inserts_key_ne hother hinserts hsafe hsome
    rw [← hkeyOf] at hne
    rw [hsame _ hne]
    exact h.held j other key hother hinserts
  · intro otherId hcompensates
    cases hcompensates
  · intro j other otherId _ hother hcompensates
    rw [hrecords]
    exact h.absent j other otherId hother hcompensates
  · intro otherId key hmarks
    cases hmarks
  · intro j other otherId key _ hother hmarks
    have hgone := h.gone j other otherId key hother hmarks
    rcases hstores with rfl | rfl
    · exact hgone
    · exact Stores.delete_eq_none hgone

end Calls

section Steps

theorem settled_began {ops : List Operation} (h : Settled stores ops) (request : Request) :
    Settled stores (ops ++ [{ request, phase := request.begin }]) := by
  have hidle : request.begin.isIdle = true := by
    cases request with
    | upload input =>
      simp only [Request.begin]
      cases uploadRecord input <;> rfl
    | remove id tenantId removedAt => rfl
    | fetch imageRef tenantId =>
      simp only [Request.begin]
      split <;> rfl
  obtain ⟨hholds, hinserts, hcompensates, hmarks⟩ := holds_of_idle request hidle
  have hold : ∀ (j : Nat) (other : Operation), ops[j]? = some other →
      (ops ++ [{ request, phase := request.begin }])[j]? = some other := by
    intro j other hother
    rw [List.getElem?_append_left (List.getElem?_eq_some_iff.mp hother).1, hother]
  refine { owned := ?_, backed := ?_, held := ?_, absent := ?_, gone := ?_ }
  · intro key hobject
    refine (h.owned key hobject).imp_right ?_
    rintro ⟨j, other, hother, hkey⟩
    exact ⟨j, other, hold j other hother, hkey⟩
  · intro record hrecord hactive
    refine (h.backed record hrecord hactive).imp_right ?_
    rintro ⟨j, other, key, hother, hkey⟩
    exact ⟨j, other, key, hold j other hother, hkey⟩
  · intro j other key hother hkey
    rcases getElem?_append_cases hother with ⟨-, rfl⟩ | hother
    · rw [hinserts] at hkey
      cases hkey
    · exact h.held j other key hother hkey
  · intro j other id hother hid
    rcases getElem?_append_cases hother with ⟨-, rfl⟩ | hother
    · rw [hcompensates] at hid
      cases hid
    · exact h.absent j other id hother hid
  · intro j other id key hother hkey
    rcases getElem?_append_cases hother with ⟨-, rfl⟩ | hother
    · rw [hmarks] at hkey
      cases hkey
    · exact h.gone j other id key hother hkey

variable {media : MediaReport}

theorem settled_called {s : State} {i : Nat} {outcome : Outcome} {op : Operation} {phase : Phase}
    (hs : s.Sound) (h : Settled s.stores s.ops) (hop : s.ops[i]? = some op)
    (hcall : call media s.stores outcome op.request op.phase = some (stores, phase))
    (hsingle : SingleFailure s (.called i outcome)) (htolerated : Tolerated s (.called i outcome)) :
    Settled stores (s.ops.set i { op with phase }) := by
  obtain ⟨request, before⟩ := op
  cases request with
  | upload input =>
    cases before with
    | putting record =>
      obtain ⟨rfl, rfl⟩ := Prod.mk.inj (Option.some.inj hcall)
      cases outcome with
      | ok => exact settled_put hs h hop
      | failed effective =>
        obtain rfl : effective = false := htolerated _ hop
        exact h.idle_step hop rfl rfl
    | inserting record =>
      obtain ⟨rfl, rfl⟩ := Prod.mk.inj (Option.some.inj hcall)
      cases outcome with
      | ok => exact settled_insert hs h hop
      | failed effective =>
        obtain rfl : effective = false := htolerated _ hop
        exact settled_insertFails hs h hop
    | compensating record =>
      obtain ⟨rfl, rfl⟩ := Prod.mk.inj (Option.some.inj hcall)
      cases outcome with
      | ok => exact settled_compensate hs h hop
      | failed effective => cases hsingle _ hop
    | _ => cases hcall
  | remove id tenantId removedAt =>
    cases before with
    | finding =>
      obtain ⟨rfl, rfl⟩ := Prod.mk.inj (Option.some.inj hcall)
      refine h.idle_step hop rfl (orElse_cases (P := fun p => p.isIdle = true) outcome ?_ rfl)
      cases s.stores.findActiveById id tenantId <;> rfl
    | deleting record =>
      obtain ⟨rfl, rfl⟩ := Prod.mk.inj (Option.some.inj hcall)
      cases outcome with
      | ok => exact settled_delete hs h hop
      | failed effective =>
        have hfailure : effective = false ∨ s.Covered i id := htolerated _ hop
        cases effective with
        | false => exact h.idle_step hop rfl rfl
        | true =>
          exact settled_covered hs h hop (.inl rfl) (.inr rfl)
            (hfailure.resolve_left nofun)
    | marking record =>
      obtain ⟨rfl, rfl⟩ := Prod.mk.inj (Option.some.inj hcall)
      cases outcome with
      | ok => exact settled_mark hs h hop
      | failed effective =>
        have hfailure : effective = true ∨ s.Covered i id := htolerated _ hop
        cases effective with
        | true => exact settled_mark hs h hop
        | false =>
          exact settled_covered hs h hop (.inr rfl) (.inl rfl)
            (hfailure.resolve_left nofun)
    | _ => cases hcall
  | fetch imageRef tenantId =>
    cases before with
    | looking =>
      obtain ⟨rfl, rfl⟩ := Prod.mk.inj (Option.some.inj hcall)
      refine h.idle_step hop rfl (orElse_cases (P := fun p => p.isIdle = true) outcome ?_ rfl)
      cases s.stores.findActiveByKey imageRef tenantId <;> rfl
    | getting record =>
      obtain ⟨rfl, rfl⟩ := Prod.mk.inj (Option.some.inj hcall)
      exact h.idle_step hop rfl (orElse_cases (P := fun p => p.isIdle = true) outcome rfl rfl)
    | _ => cases hcall

/-- An image whose object is gone, and that no other operation has to mark, is not active. -/
theorem covered_of_settled {s : State} {i : Nat} {id tenantId removedAt : String}
    {record : ChartImageRecord} {result : Result} (hs : s.Sound)
    (hsettled : Settled stores
      (s.ops.set i { request := .remove id tenantId removedAt, phase := .finished result }))
    (hrecords : stores.records = s.stores.records)
    (hkey : record.r2Key = keyOf tenantId id)
    (hsome : ∃ other ∈ s.stores.records, other.id = id ∧ other.tenantId = tenantId)
    (hnone : stores.objects record.r2Key = none) :
    s.Covered i id := by
  obtain ⟨present, hpresent, hpresentId, hpresentTenant⟩ := hsome
  by_cases hactive : present.deletedAt = none
  · right
    rcases hsettled.backed present (hrecords ▸ hpresent) hactive with hobject | ⟨j, other, key,
      hother, hmarks⟩
    · rw [(hs.stores.records present hpresent).key.1, hpresentId, hpresentTenant, ← hkey,
        hnone] at hobject
      cases hobject
    · rcases getElem?_set_cases hother with ⟨-, rfl⟩ | ⟨hne, hother⟩
      · cases hmarks
      · exact ⟨j, other, key, hne, hother, hpresentId ▸ hmarks⟩
  · left
    intro other hother hid
    rw [hs.stores.record_eq hother hpresent (hid.trans hpresentId.symm)]
    exact hactive

theorem tolerated_of_settled {s : State} {i : Nat} {outcome : Outcome} {op : Operation}
    {phase : Phase} (hs : s.Sound) (h : Settled s.stores s.ops) (hop : s.ops[i]? = some op)
    (hcall : call media s.stores outcome op.request op.phase = some (stores, phase))
    (hsettled : Settled stores (s.ops.set i { op with phase })) :
    Tolerated s (.called i outcome) := by
  cases outcome with
  | ok => trivial
  | failed effective =>
    intro other hother
    obtain rfl := Option.some.inj (hop.symm.trans hother)
    have hsound := hs.ops i op hop
    obtain ⟨request, before⟩ := op
    cases request with
    | fetch imageRef tenantId => cases before <;> trivial
    | upload input =>
      cases before with
      | putting record =>
        obtain ⟨rfl, rfl⟩ := Prod.mk.inj (Option.some.inj hcall)
        obtain ⟨hupload, hnone⟩ := hsound
        cases effective with
        | false => rfl
        | true =>
          exfalso
          -- The object has neither a record nor an upload that holds it.
          have hobject : ((Stores.put s.stores record.r2Key
              { bytes := input.bytes, contentType := record.contentType }).objects
                record.r2Key).isSome = true := by
            simp [Stores.put]
          rcases hsettled.owned record.r2Key hobject with ⟨stored, hstored, -, hkey⟩ | ⟨j,
            holder, hholder, hholds⟩
          · exact key_ne_of_id_ne (hs.stores.records stored hstored) hupload
              (hnone stored hstored) hkey
          · rcases getElem?_set_cases hholder with ⟨-, rfl⟩ | ⟨hne, hholder⟩
            · cases hholds
            · obtain ⟨otherInput, otherRecord, otherPhase, rfl, hother, hkey⟩ :=
                holds_eq_some (hs.ops j _ hholder) hholds
              exact hs.upload_key_ne hne hholder hop hother hupload hkey
      | inserting record =>
        obtain ⟨rfl, rfl⟩ := Prod.mk.inj (Option.some.inj hcall)
        cases effective with
        | false => rfl
        | true =>
          exfalso
          have hnew := List.getElem?_set_self (a := ({ request := .upload input
                                                       phase := .compensating record } :
            Operation)) (List.getElem?_eq_some_iff.mp hop).1
          exact hsettled.absent i _ input.id hnew rfl record
            (List.mem_append_right _ (List.mem_singleton_self record))
            (uploadRecord_accepted hsound.1).id
      | _ => trivial
    | remove id tenantId removedAt =>
      cases before with
      | deleting record =>
        obtain ⟨rfl, rfl⟩ := Prod.mk.inj (Option.some.inj hcall)
        obtain ⟨-, -, hkey, -, hsome⟩ := hsound
        cases effective with
        | false => exact .inl rfl
        | true =>
          exact .inr (covered_of_settled hs hsettled rfl hkey hsome (by
            simp [Outcome.leaves, Stores.delete]))
      | marking record =>
        obtain ⟨rfl, rfl⟩ := Prod.mk.inj (Option.some.inj hcall)
        obtain ⟨-, -, hkey, -, hsome⟩ := hsound
        cases effective with
        | true => exact .inl rfl
        | false =>
          exact .inr (covered_of_settled hs hsettled rfl hkey hsome
            (h.gone i _ id record.r2Key hop rfl))
      | _ => trivial

theorem settled_step_iff {s t : State} {event : Event} (hs : s.Sound) (h : Settled s.stores s.ops)
    (hsingle : SingleFailure s event) (hstep : Fires (step media) s event t) :
    Settled t.stores t.ops ↔ Tolerated s event := by
  rcases step_cases hstep with ⟨request, rfl, -, rfl⟩ | ⟨i, outcome, op, stores, phase, rfl, hop,
    hcall, rfl⟩
  · exact ⟨fun _ => trivial, fun _ => settled_began h request⟩
  · exact ⟨tolerated_of_settled hs h hop hcall, settled_called hs h hop hcall hsingle⟩

theorem empty_settled : Settled State.empty.stores State.empty.ops where
  owned := fun _ hobject => absurd hobject Bool.false_ne_true
  backed := fun _ hrecord => absurd hrecord List.not_mem_nil
  held := fun _ _ _ hop => absurd (hop : none = some _) (Option.some_ne_none _).symm
  absent := fun _ _ _ hop => absurd (hop : none = some _) (Option.some_ne_none _).symm
  gone := fun _ _ _ _ hop => absurd (hop : none = some _) (Option.some_ne_none _).symm

end Steps

/-- A step in which at most one call of an operation fails. -/
def SingleStep (media : MediaReport) : State → Event → State → Prop :=
  Guarded (Fires (step media)) SingleFailure

theorem tolerated_iff_settled {media : MediaReport} {s : State} {labels : List Event}
    (hrun : Run (SingleStep media) State.empty labels s) :
    Run (Guarded (SingleStep media) Tolerated) State.empty labels s ↔
      Always (SingleStep media) (fun u => Settled u.stores u.ops) State.empty labels :=
  Run.guarded_iff_always (I := State.Sound)
    (fun _ _ _ _ h h' => fires_deterministic _ _ _ _ _ h.2 h'.2)
    (fun _ _ _ h hs => step_sound hs h.2)
    (fun _ _ _ h hs hP htolerated => (settled_step_iff hs hP h.1 h.2).mpr htolerated)
    (fun _ _ _ h hs hP hQ => (settled_step_iff hs hP h.1 h.2).mp hQ)
    hrun empty_sound empty_settled

/--
Whatever fails, a fetched image is the one that its tenant has uploaded under
its key, and no fetch that begins after an image was reported as removed finds
it.  Where all failures are tolerated, the stores match whenever nothing is in
flight.
-/
theorem image_store_sound (media : MediaReport) {s : State} {labels : List Event}
    (hrun : Run (SingleStep media) State.empty labels s) :
    (∀ (i : Nat) (imageRef : List Char) (tenantId : String) (image : FetchedChartImage),
        s.ops[i]? = some {
          request := .fetch imageRef tenantId, phase := .finished (.fetched (some image)) } →
        ImageOf s.requests imageRef tenantId image) ∧
      (∀ (before : State) (past future : List Event),
        Run (SingleStep media) State.empty past before → Run (SingleStep media) before future s →
          ∀ (i : Nat) (id tenantId removedAt : String) (imageRef : List Char)
            (record : ChartImageRecord),
            before.ops[i]? = some {
              request := .remove id tenantId removedAt
              phase := .finished (.removed imageRef record) } →
            ∀ (j : Nat) (owner : String) (image : Option FetchedChartImage),
              before.ops.length ≤ j →
              s.ops[j]? = some {
                request := .fetch imageRef owner, phase := .finished (.fetched image) } →
              image = none) ∧
      (Run (Guarded (SingleStep media) Tolerated) State.empty labels s →
        Always (SingleStep media) (fun u => u.Quiet → u.stores.Matched)
          State.empty labels) := by
  refine ⟨?_, ?_, ?_⟩
  · intro i imageRef tenantId image hop
    exact (run_sound empty_sound hrun.of_guarded).ops i _ hop
  · intro before past future hpast hfuture i id tenantId removedAt imageRef record hremoved j owner
      image hj hfetch
    have hnothing := removed_not_fetched (run_sound empty_sound hpast.of_guarded) hremoved
      hfuture.of_guarded j owner _ hj hfetch
    cases image with
    | none => rfl
    | some image => exact hnothing.elim
  · intro htolerated pre post u hsplit hpre hquiet
    have hsettled := (tolerated_iff_settled hrun).mp htolerated pre post u hsplit hpre
    exact hsettled.matched hquiet

def sampleMedia : MediaReport where
  report contentType := some contentType.text
  sound := by
    intro contentType mediaType h
    obtain rfl := Option.some.inj h
    right
    cases contentType <;> decide +kernel

def sampleUpload : UploadInput where
  bytes := [0x89, 0x50, 0x4e, 0x47]
  contentType := "image/png"
  id := "img-1"
  contentHashSha256 := "sha256:0"
  createdAt := "2026-07-03T00:00:00.000Z"
  tenantId := "tenant-a"
  userId := "user-a"

def uploadThenFetch : List Event :=
  [.began (.upload sampleUpload), .called 0 .ok, .called 0 .ok,
    .began (.fetch (keyOf "tenant-a" "img-1") "tenant-a"), .called 1 .ok, .called 1 .ok]

theorem image_store_sound_uploadThenFetch :
    ∃ s : State, Run (SingleStep sampleMedia) State.empty uploadThenFetch s ∧
      Always (SingleStep sampleMedia) (fun u => u.Quiet → u.stores.Matched)
        State.empty uploadThenFetch := by
  have hfires : (fire (step sampleMedia) State.empty uploadThenFetch).isSome = true := by
    decide +kernel
  obtain ⟨s, hs⟩ := Option.isSome_iff_exists.mp hfires
  have hok : ∀ event ∈ uploadThenFetch, ∀ p : State, SingleFailure p event ∧ Tolerated p event := by
    simp [uploadThenFetch, SingleFailure, Tolerated]
  have hrun : Run (SingleStep sampleMedia) State.empty uploadThenFetch s :=
    (run_fires_iff.mpr hs).guarded fun event hevent p => (hok event hevent p).1
  exact ⟨s, hrun, (image_store_sound sampleMedia hrun).2.2
    (hrun.guarded fun event hevent p => (hok event hevent p).2)⟩

/-- A put that fails after it has taken effect leaves an object without a record. -/
theorem lostPut_unmatched :
    ¬∀ (media : MediaReport) (s : State) (labels : List Event),
      Run (SingleStep media) State.empty labels s →
        Always (SingleStep media) (fun u => u.Quiet → u.stores.Matched)
          State.empty labels := by
  intro h
  have hfires :
      (fire (step sampleMedia) State.empty
        [.began (.upload sampleUpload), .called 0 (.failed true)]).map (fun s =>
          (s.ops.map Operation.phase, s.stores.records,
            (s.stores.objects (keyOf "tenant-a" "img-1")).isSome)) =
        some ([.finished .failed], [], true) := by
    decide +kernel
  obtain ⟨s, hs, hstate⟩ := Option.map_eq_some_iff.mp hfires
  obtain ⟨hphases, hrest⟩ := Prod.mk.inj hstate
  obtain ⟨hrecords, hobject⟩ := Prod.mk.inj hrest
  have hrun : Run (SingleStep sampleMedia) State.empty
      [.began (.upload sampleUpload), .called 0 (.failed true)] s := by
    obtain ⟨begun, hbegun, hrest⟩ := Run.cons_iff.mp (run_fires_iff.mpr hs)
    obtain ⟨put, hput, hend⟩ := Run.cons_iff.mp hrest
    obtain rfl := Run.nil_iff.mp hend
    refine Run.cons ⟨trivial, hbegun⟩ (Run.cons ⟨?_, hput⟩ (Run.nil put))
    intro op hop
    obtain rfl := Option.some.inj hbegun
    obtain rfl := Option.some.inj hop
    rfl
  have hquiet : s.Quiet := by
    intro op hop
    have hphase := List.mem_map_of_mem (f := Operation.phase) hop
    rw [hphases] at hphase
    exact ⟨_, List.mem_singleton.mp hphase⟩
  have hmatched := h sampleMedia s _ hrun _ [] s (List.append_nil _).symm hrun hquiet
  obtain ⟨record, hrecord, -⟩ := hmatched.2 _ hobject
  rw [hrecords] at hrecord
  cases hrecord

end Aiphabee.ChartImage
