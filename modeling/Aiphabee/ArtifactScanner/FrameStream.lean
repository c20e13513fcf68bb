import Aiphabee.ArtifactScanner.Scanner

/-!
# What a stream puts on the wire

A stream writes a command, one frame for each read that gave data, and the frame
of length zero once the body has ended.  A connection that fails keeps what it
took before.  So the frames of a stream are those of the bytes that were read,
whatever the reads and the connection do, and only a stream of the whole body
has an answer.
-/

namespace Aiphabee.ArtifactScanner

open Frames

variable (connection : Connection)

section Deliveries

def Connection.delivered (bytes : List UInt8) : List UInt8 :=
  if connection.dialOk then
    match connection.capacity with
    | none => bytes
    | some capacity => bytes.take capacity
  else
    []

variable {connection : Connection}

theorem Connection.write_wire {wire : List UInt8} (hdial : connection.dialOk = true)
    (htaken : connection.delivered wire = wire) (bytes : List UInt8) :
    (connection.write wire bytes).1 = connection.delivered (wire ++ bytes) := by
  cases hcapacity : connection.capacity with
  | none => simp [Connection.write, Connection.delivered, hdial, hcapacity]
  | some capacity =>
    have hfits : wire.length ≤ capacity := by
      have hlength := congrArg List.length htaken
      simp only [Connection.delivered, hdial, hcapacity, if_true, List.length_take] at hlength
      omega
    by_cases hall : wire.length + bytes.length ≤ capacity
    · have htake : (wire ++ bytes).take capacity = wire ++ bytes :=
        List.take_of_length_le (by rw [List.length_append]; exact hall)
      simp [Connection.write, Connection.delivered, hdial, hcapacity, hall, htake]
    · simp [Connection.write, Connection.delivered, hdial, hcapacity, hall,
        List.take_append, List.take_of_length_le hfits]

theorem Connection.write_ok {wire bytes : List UInt8} (h : (connection.write wire bytes).2 = true) :
    (connection.write wire bytes).1 = wire ++ bytes := by
  revert h
  cases hcapacity : connection.capacity with
  | none => simp [Connection.write, hcapacity]
  | some capacity => by_cases hall : wire.length + bytes.length ≤ capacity <;>
      simp [Connection.write, hcapacity, hall]

theorem Connection.write_failed {wire bytes : List UInt8} (hdial : connection.dialOk = true)
    (h : (connection.write wire bytes).2 = false) (more : List UInt8) :
    connection.delivered (wire ++ bytes ++ more) = connection.delivered (wire ++ bytes) := by
  revert h
  cases hcapacity : connection.capacity with
  | none => simp [Connection.write, hcapacity]
  | some capacity =>
    by_cases hall : wire.length + bytes.length ≤ capacity
    · simp [Connection.write, hcapacity, hall]
    · have hfull : capacity ≤ (wire ++ bytes).length := by
        rw [List.length_append]
        omega
      intro _
      simp only [Connection.delivered, hdial, hcapacity, if_true]
      exact List.take_append_of_le_length hfull

theorem writeFrame_wire {wire : List UInt8} (hdial : connection.dialOk = true)
    (htaken : connection.delivered wire = wire) (data : List UInt8) :
    (writeFrame connection wire data).1 =
      connection.delivered (wire ++ encodeFrame data) := by
  have hheader := Connection.write_wire hdial htaken (bigEndian32 data.length)
  rw [writeFrame, encodeFrame, ← List.append_assoc]
  cases hwritten : (connection.write wire (bigEndian32 data.length)).2 with
  | false =>
    rw [if_neg (by simp), Connection.write_failed hdial hwritten, hheader]
  | true =>
    have hall := Connection.write_ok hwritten
    have htaken' := hheader.symm.trans hall
    rw [if_pos rfl, hall, Connection.write_wire hdial htaken']

theorem writeFrame_ok {wire data : List UInt8} (h : (writeFrame connection wire data).2 = true) :
    (writeFrame connection wire data).1 = wire ++ encodeFrame data := by
  rw [writeFrame] at h ⊢
  cases hwritten : (connection.write wire (bigEndian32 data.length)).2 with
  | false => simp [hwritten] at h
  | true =>
    rw [hwritten, if_pos rfl] at h
    rw [if_pos rfl, Connection.write_ok h, Connection.write_ok hwritten, encodeFrame,
      List.append_assoc]

end Deliveries

/-- What is known of one read of a body of which `remaining` was left. -/
structure ReadOf
    (remaining : List UInt8)
    (left : Nat)
    (read : LimitedRead) : Prop where
  size : read.data.length ≤ bufferSize
  begins : ∃ rest, remaining = read.data ++ rest
  continues : read.ending = none → remaining = read.data ++ read.remaining
  ends : read.ending = some none → remaining = read.data
  bounded : remaining.length ≤ left →
    read.ending ≠ some (some .maxBytes) ∧ read.remaining.length ≤ read.left

/-- A read splits what was left of a body, and only the last one ends it. -/
theorem sourceRead_spec {remaining data rest : List UInt8} {size : Nat} {step : ReadStep}
    {ending : Option ReadError} (h : sourceRead remaining size step = (data, rest, ending)) :
    remaining = data ++ rest ∧ data.length ≤ size ∧ (ending = some .eof → rest = []) := by
  rw [sourceRead, Prod.mk.injEq, Prod.mk.injEq] at h
  obtain ⟨rfl, rfl, rfl⟩ := h
  refine ⟨(List.take_append_drop _ _).symm, ?_, ?_⟩
  · rw [List.length_take]
    omega
  · intro hend
    split at hend
    · split at hend
      · assumption
      · cases hend
    · exact absurd hend ‹_›

theorem maxBytesRead_spec (remaining : List UInt8) (left : Nat) (step : ReadStep) :
    ReadOf remaining left (maxBytesRead remaining left step) := by
  generalize hsize : (if bufferSize - 1 > left then left + 1 else bufferSize) = size
  rcases hread : sourceRead remaining size step with ⟨data, rest, ending⟩
  obtain ⟨hsplit, hdata, hlast⟩ := sourceRead_spec hread
  have hbuffer : size ≤ bufferSize := by
    split at hsize <;> omega
  have hlengths : remaining.length = data.length + rest.length := by
    rw [hsplit, List.length_append]
  rw [maxBytesRead, hsize, hread]
  by_cases hpass : data.length ≤ left
  · simp only [hpass, if_true]
    exact {
      size := hdata.trans hbuffer
      begins := ⟨rest, hsplit⟩
      continues := fun _ => hsplit
      ends := by
        intro hend
        cases ending with
        | none => cases hend
        | some error =>
          cases error with
          | eof => rw [hsplit, hlast rfl, List.append_nil]
          | failed => cases hend
      bounded := by
        intro hall
        refine ⟨?_, show rest.length ≤ left - data.length by omega⟩
        rcases ending with _ | _ | _ <;> simp }
  · simp only [hpass, if_false]
    exact {
      size := (List.length_take_le' left data).trans (hdata.trans hbuffer)
      begins := ⟨data.drop left ++ rest, by
        rw [hsplit, ← List.append_assoc, List.take_append_drop]⟩
      continues := by simp
      ends := by simp
      bounded := fun hall => by omega }

section Loops

/-- Chunks that reads give and frames carry: with data, and no larger than the buffer. -/
def AreReads (chunks : List (List UInt8)) : Prop :=
  ∀ chunk ∈ chunks, chunk ≠ [] ∧ chunk.length ≤ bufferSize

structure LoopOf
    (connection : Connection)
    (remaining : List UInt8)
    (left : Nat)
    (wire body : List UInt8)
    (loop : StreamLoop)
    (chunks : List (List UInt8)) : Prop where
  reads : AreReads chunks
  body_eq : loop.body = body ++ chunks.flatten
  wire_eq : loop.wire = connection.delivered (wire ++ encodeFrames chunks)
  begins : ∃ rest, remaining = chunks.flatten ++ rest
  whole : loop.outcome = .ok () →
    remaining = chunks.flatten ∧ loop.wire = wire ++ encodeFrames chunks
  bounded : remaining.length ≤ left → loop.outcome ≠ .error .maxBytes

/-- The chunk of a read: none where the read gave no byte. -/
def chunkOf (data : List UInt8) : List (List UInt8) :=
  if data = [] then [] else [data]

theorem chunkOf_flatten (data : List UInt8) :
    (chunkOf data).flatten = data := by
  unfold chunkOf
  split
  · next hnil => rw [hnil, List.flatten_nil]
  · simp

theorem chunkOf_areReads {data : List UInt8} (hsize : data.length ≤ bufferSize) :
    AreReads (chunkOf data) := by
  unfold chunkOf
  split
  · exact List.forall_mem_nil _
  · next hsome =>
      intro chunk hchunk
      obtain rfl := List.mem_singleton.mp hchunk
      exact ⟨hsome, hsize⟩

def writeRead (wire data : List UInt8) : List UInt8 × Bool :=
  if data = [] then (wire, true) else writeFrame connection wire data

variable {connection : Connection}

theorem writeRead_wire {wire : List UInt8} (hdial : connection.dialOk = true)
    (htaken : connection.delivered wire = wire) (data : List UInt8) :
    (writeRead connection wire data).1 =
      connection.delivered (wire ++ encodeFrames (chunkOf data)) := by
  unfold writeRead chunkOf
  split
  · simp [encodeFrames, htaken]
  · simp [encodeFrames, writeFrame_wire hdial htaken]

theorem writeRead_ok {wire data : List UInt8} (h : (writeRead connection wire data).2 = true) :
    (writeRead connection wire data).1 = wire ++ encodeFrames (chunkOf data) := by
  unfold writeRead at h ⊢
  unfold chunkOf
  split at h
  · next hnil => simp [encodeFrames, hnil]
  · next hsome => simp [encodeFrames, hsome, writeFrame_ok h]

theorem encodeFrames_append (left right : List (List UInt8)) :
    encodeFrames (left ++ right) = encodeFrames left ++ encodeFrames right :=
  List.flatMap_append

theorem writeRead_delivered {wire data : List UInt8} (hdial : connection.dialOk = true)
    (htaken : connection.delivered wire = wire)
    (hwritten : (writeRead connection wire data).2 = true) :
    connection.delivered (writeRead connection wire data).1 =
      (writeRead connection wire data).1 := by
  have hwire := writeRead_wire hdial htaken data
  rw [writeRead_ok hwritten] at hwire ⊢
  exact hwire.symm

section Reads

variable {remaining wire body : List UInt8}
variable {left : Nat}
variable {read : LimitedRead}

/-- The frames of one read alone, where the loop ends with it. -/
theorem ReadOf.loopOf_last (hread : ReadOf remaining left read) (hdial : connection.dialOk = true)
    (htaken : connection.delivered wire = wire) {outcome : Except GoError Unit}
    (hwhole : outcome = .ok () → read.ending = some none ∧
      (writeRead connection wire read.data).2 = true)
    (hbounded : remaining.length ≤ left → outcome ≠ .error .maxBytes) :
    LoopOf connection remaining left wire body
      { wire := (writeRead connection wire read.data).1, body := body ++ read.data, outcome }
      (chunkOf read.data) := by
  have hflat := chunkOf_flatten read.data
  obtain ⟨rest, hrest⟩ := hread.begins
  exact {
    reads := chunkOf_areReads hread.size
    body_eq := by rw [hflat]
    wire_eq := writeRead_wire hdial htaken read.data
    begins := ⟨rest, by rw [hflat, hrest]⟩
    whole := fun hok => by
      obtain ⟨hending, hwritten⟩ := hwhole hok
      exact ⟨by rw [hflat]; exact hread.ends hending, writeRead_ok hwritten⟩
    bounded := hbounded }

/-- The frames of one read in front of those of the loop that goes on behind it. -/
theorem ReadOf.loopOf_more (hread : ReadOf remaining left read) (hending : read.ending = none)
    (hwritten : (writeRead connection wire read.data).2 = true) {loop : StreamLoop}
    {more : List (List UInt8)}
    (hloop : LoopOf connection read.remaining read.left (writeRead connection wire read.data).1
      (body ++ read.data) loop more) :
    LoopOf connection remaining left wire body loop (chunkOf read.data ++ more) := by
  have hflat := chunkOf_flatten read.data
  have hsplit := hread.continues hending
  have hwires : (writeRead connection wire read.data).1 ++ encodeFrames more =
      wire ++ encodeFrames (chunkOf read.data ++ more) := by
    rw [writeRead_ok hwritten, encodeFrames_append, List.append_assoc]
  exact {
    reads := fun chunk hchunk =>
      (List.mem_append.mp hchunk).elim (chunkOf_areReads hread.size chunk) (hloop.reads chunk)
    body_eq := by
      rw [hloop.body_eq, List.flatten_append, hflat, List.append_assoc]
    wire_eq := by rw [hloop.wire_eq, hwires]
    begins := by
      obtain ⟨behind, hbehind⟩ := hloop.begins
      exact ⟨behind, by
        rw [List.flatten_append, hflat, List.append_assoc, ← hbehind, ← hsplit]⟩
    whole := fun hok => by
      obtain ⟨hremaining, hwire⟩ := hloop.whole hok
      refine ⟨?_, by rw [hwire, hwires]⟩
      rw [List.flatten_append, hflat, ← hremaining, ← hsplit]
    bounded := fun hsize => hloop.bounded (hread.bounded hsize).2 }

end Reads

theorem streamLoop_cons (step : ReadStep) (steps : List ReadStep) (remaining : List UInt8)
    (left : Nat) (wire body : List UInt8) :
    streamLoop connection (step :: steps) remaining left wire body =
      let read := maxBytesRead remaining left step
      let written := writeRead connection wire read.data
      if !written.2 then
        { wire := written.1, body := body ++ read.data, outcome := .error .other }
      else
        match read.ending with
        | some none => { wire := written.1, body := body ++ read.data, outcome := .ok () }
        | some (some error) =>
          { wire := written.1, body := body ++ read.data, outcome := .error error }
        | none =>
          streamLoop connection steps read.remaining read.left written.1 (body ++ read.data) :=
  rfl

theorem streamLoop_spec (hdial : connection.dialOk = true) (steps : List ReadStep)
    (remaining : List UInt8) (left : Nat) {wire : List UInt8}
    (htaken : connection.delivered wire = wire) (body : List UInt8) :
    ∃ chunks, LoopOf connection remaining left wire body
      (streamLoop connection steps remaining left wire body) chunks := by
  induction steps generalizing remaining left wire body with
  | nil =>
    exact ⟨[], {
      reads := List.forall_mem_nil _
      body_eq := (List.append_nil body).symm
      wire_eq := by simp [streamLoop, encodeFrames, htaken]
      begins := ⟨remaining, rfl⟩
      whole := nofun
      bounded := nofun }⟩
  | cons step steps ih =>
    rw [streamLoop_cons]
    dsimp only
    have hread := maxBytesRead_spec remaining left step
    generalize maxBytesRead remaining left step = read at hread
    cases hwritten : (writeRead connection wire read.data).2 with
    | false =>
      refine ⟨_, hread.loopOf_last hdial htaken (fun hok => ?_) fun _ herror => ?_⟩
      · cases hok
      · cases herror
    | true =>
      rcases hending : read.ending with _ | _ | error
      · -- The loop goes on behind the frames of this read.
        obtain ⟨more, hloop⟩ := ih read.remaining read.left
          (writeRead_delivered hdial htaken hwritten) (body ++ read.data)
        rw [if_neg (by decide)]
        dsimp only
        exact ⟨_, hread.loopOf_more hending hwritten hloop⟩
      · refine ⟨_, hread.loopOf_last hdial htaken (fun _ => ⟨hending, hwritten⟩)
          fun _ herror => ?_⟩
        cases herror
      · refine ⟨_, hread.loopOf_last hdial htaken (fun hok => ?_) fun hsize herror => ?_⟩
        · cases hok
        · cases herror
          exact (hread.bounded hsize).1 hending

end Loops

structure StreamOf
    (connection : Connection)
    (source : List UInt8)
    (stream : ScanStream)
    (chunks : List (List UInt8)) : Prop where
  reads : AreReads chunks
  decodes : decodeFrames (encodeFrames chunks ++ endFrame) =
    some (stream.body, [])
  begins : ∃ rest, source = stream.body ++ rest
  wire_eq :
    stream.wire = connection.delivered (instreamCommand ++ encodeFrames chunks) ∨
      (stream.body = source ∧
        stream.wire = connection.delivered
          (instreamCommand ++ encodeFrames chunks ++ endFrame))
  answered : ∀ reply, stream.outcome = .ok reply →
    stream.body = source ∧
      stream.wire = instreamCommand ++ encodeFrames chunks ++ endFrame ∧
      readNullTerminated connection.reply = .ok reply
  bounded : source.length ≤ maxScanBytes → stream.outcome ≠ .error .maxBytes

theorem decodeFrames_reads {chunks : List (List UInt8)} (h : AreReads chunks) :
    decodeFrames (encodeFrames chunks ++ endFrame) =
      some (chunks.flatten, []) := by
  have hsizes : ∀ chunk ∈ chunks, chunk ≠ [] ∧ chunk.length < 2 ^ 32 := by
    intro chunk hchunk
    have hsize : chunk.length ≤ bufferSize := (h chunk hchunk).2
    exact ⟨(h chunk hchunk).1, hsize.trans_lt (by decide)⟩
  simpa using decodeFrames_encodeFrames chunks hsizes []

theorem StreamOf.unread {connection : Connection} (source : List UInt8) {wire : List UInt8}
    (hwire : wire = connection.delivered instreamCommand) :
    StreamOf connection source { wire, body := [], outcome := .error .other } [] where
  reads := List.forall_mem_nil _
  decodes := decodeFrames_reads (List.forall_mem_nil _)
  begins := ⟨source, rfl⟩
  wire_eq := .inl (by simpa [encodeFrames] using hwire)
  answered := nofun
  bounded := nofun

theorem readNullTerminated_ne_maxBytes (reply : List UInt8) :
    readNullTerminated reply ≠ .error .maxBytes := by
  unfold readNullTerminated
  split <;> nofun

theorem scanStream_spec (steps : List ReadStep) (source : List UInt8) :
    ∃ chunks, StreamOf connection source (scanStream connection steps source) chunks := by
  unfold scanStream
  cases hdial : connection.dialOk with
  | false => exact ⟨[], StreamOf.unread source (by simp [Connection.delivered, hdial])⟩
  | true =>
    have hnothing : connection.delivered [] = [] := by
      cases hcapacity : connection.capacity <;>
        simp [Connection.delivered, hdial, hcapacity]
    have hopened := Connection.write_wire hdial hnothing instreamCommand
    rw [List.nil_append] at hopened
    rw [Bool.not_true, if_neg Bool.false_ne_true]
    dsimp only
    cases hwritten : (connection.write [] instreamCommand).2 with
    | false => exact ⟨[], StreamOf.unread source hopened⟩
    | true =>
      have hall := Connection.write_ok hwritten
      rw [List.nil_append] at hall
      rw [hall, Bool.not_true, if_neg Bool.false_ne_true]
      obtain ⟨chunks, hloop⟩ := streamLoop_spec hdial steps source maxScanBytes
        (hopened.symm.trans hall) []
      generalize streamLoop connection steps source maxScanBytes instreamCommand [] = loop
        at hloop
      have hbody : loop.body = chunks.flatten := hloop.body_eq
      have hdecodes := decodeFrames_reads hloop.reads
      rw [← hbody] at hdecodes
      have hbegins : ∃ rest, source = loop.body ++ rest := by
        obtain ⟨rest, hrest⟩ := hloop.begins
        exact ⟨rest, by rw [hbody, hrest]⟩
      refine ⟨chunks, ?_⟩
      cases houtcome : loop.outcome with
      | error error =>
        exact {
          reads := hloop.reads
          decodes := hdecodes
          begins := hbegins
          wire_eq := .inl hloop.wire_eq
          answered := nofun
          bounded := fun hsize => by simpa [houtcome] using hloop.bounded hsize }
      | ok _ =>
        obtain ⟨hsource, hwire⟩ := hloop.whole houtcome
        have htaken : connection.delivered loop.wire = loop.wire :=
          (congrArg connection.delivered hwire).trans hloop.wire_eq.symm
        have hended := Connection.write_wire hdial htaken endFrame
        rw [hwire] at hended
        have hwhole : loop.body = source := hbody.trans hsource.symm
        dsimp only
        rw [hwire]
        cases hlast : (connection.write (instreamCommand ++ encodeFrames chunks)
            endFrame).2 with
        | false =>
          exact {
            reads := hloop.reads
            decodes := hdecodes
            begins := hbegins
            wire_eq := .inr ⟨hwhole, hended⟩
            answered := nofun
            bounded := nofun }
        | true =>
          exact {
            reads := hloop.reads
            decodes := hdecodes
            begins := hbegins
            wire_eq := .inr ⟨hwhole, hended⟩
            answered := fun reply hreply => ⟨hwhole, Connection.write_ok hlast, hreply⟩
            bounded := fun _ => readNullTerminated_ne_maxBytes connection.reply }

end Aiphabee.ArtifactScanner
