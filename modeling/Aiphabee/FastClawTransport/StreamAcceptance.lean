import Aiphabee.FastClawTransport.StreamGrammar

/-!
# What a run accepts, and what it does

The lines of a stream are folded into the run, whatever chunks they arrive in.
A run resolves exactly on the streams of the grammar; every run, also one that
stops, has done the work of some lines that begin the stream.
-/

namespace Aiphabee.FastClawTransport

open LineBuffer
open JsText (ofString)

variable {ω : Type}
variable {platform : Platform}
variable {application : Application ω}
variable {service : ResultService}
variable {runId : JsText}

section Lines

theorem onLine_cases (state : RunState) (line : Utf8Text) :
    (JsText.utf8Size line ≤ maxLineBytes ∧ isBlank line = true ∧
      onLine platform application service runId state line = .ok state) ∨
    (∃ event, JsText.utf8Size line ≤ maxLineBytes ∧ isBlank line = false ∧
      HoldsEvent platform runId line event ∧
      onLine platform application service runId state line =
        onEvent platform application service runId state event) ∨
    ((JsText.utf8Size line ≤ maxLineBytes → isBlank line = false ∧
        ∀ event, ¬HoldsEvent platform runId line event) ∧
      ∃ thrown, onLine platform application service runId state line = state.stop thrown) := by
  by_cases hsmall : JsText.utf8Size line ≤ maxLineBytes
  · have hsize : ¬JsText.utf8Size line > maxLineBytes := Nat.not_lt.mpr hsmall
    cases hblank : isBlank line with
    | true => exact Or.inl ⟨hsmall, rfl, by simp [onLine, hblank, hsize]⟩
    | false =>
      cases hparsed : parseEvent platform line runId with
      | error thrown =>
        refine Or.inr (Or.inr ⟨fun _ => ⟨rfl, ?_⟩, thrown, ?_⟩)
        · intro event holds
          rw [(parseEvent_eq_ok platform runId line event).mpr holds] at hparsed
          cases hparsed
        · simp [onLine, hblank, hsize, hparsed]
      | ok event =>
        refine Or.inr (Or.inl ⟨event, hsmall, rfl, ?_, ?_⟩)
        · exact (parseEvent_eq_ok platform runId line event).mp hparsed
        · simp [onLine, hblank, hsize, hparsed]
  · refine Or.inr (Or.inr ⟨fun h => absurd h hsmall, .service .lineTooLarge, ?_⟩)
    simp [onLine, Nat.lt_of_not_le hsmall]

variable {lines : List Utf8Text}
variable {events : List FastClawCallbackEvent}

theorem holdEvents_cons {line : Utf8Text} :
    HoldEvents platform runId (line :: lines) events ↔
      (isBlank line = true ∧ HoldEvents platform runId lines events) ∨
        ∃ event rest, isBlank line = false ∧ HoldsEvent platform runId line event ∧
          HoldEvents platform runId lines rest ∧ events = event :: rest := by
  constructor
  · intro h
    cases h with
    | blank white rest => exact Or.inl ⟨white, rest⟩
    | event text holds rest => exact Or.inr ⟨_, _, text, holds, rest, rfl⟩
  · rintro (⟨white, rest⟩ | ⟨event, events, text, holds, rest, rfl⟩)
    · exact rest.blank white
    · exact rest.event text holds

theorem HoldsEvent.unique {line : Utf8Text} {first second : FastClawCallbackEvent}
    (hfirst : HoldsEvent platform runId line first)
    (hsecond : HoldsEvent platform runId line second) : first = second := by
  rw [← parseEvent_eq_ok] at hfirst hsecond
  exact Except.ok.inj (hfirst.symm.trans hsecond)

theorem foldlM_onLine_eq_ok (lines : List Utf8Text) (state last : RunState) :
    lines.foldlM (onLine platform application service runId) state = .ok last ↔
      (∀ line ∈ lines, JsText.utf8Size line ≤ maxLineBytes) ∧
        ∃ events, HoldEvents platform runId lines events ∧
          events.foldlM (onEvent platform application service runId) state = .ok last := by
  induction lines generalizing state with
  | nil =>
    constructor
    · intro h
      exact ⟨by simp, [], HoldEvents.nil, h⟩
    · rintro ⟨-, events, hholds, h⟩
      cases hholds
      exact h
  | cons line rest ih =>
    rw [List.foldlM_cons, List.forall_mem_cons]
    rcases @onLine_cases _ platform application service runId state line with
      ⟨hsmall, hblank, h⟩ | ⟨event, hsmall, hblank, holds, h⟩ | ⟨hbad, thrown, h⟩
    · rw [h]
      refine (ih state).trans ?_
      simp [holdEvents_cons, hsmall, hblank]
    · rw [h]
      constructor
      · intro hrun
        cases hstep : onEvent platform application service runId state event with
        | error stopped =>
          rw [hstep] at hrun
          cases hrun
        | ok next =>
          rw [hstep] at hrun
          obtain ⟨hrest, events, hholds, hevents⟩ := (ih next).mp hrun
          refine ⟨⟨hsmall, hrest⟩, event :: events, hholds.event hblank holds, ?_⟩
          rw [List.foldlM_cons, hstep]
          exact hevents
      · rintro ⟨⟨-, hrest⟩, events, hholds, hrun⟩
        rcases holdEvents_cons.mp hholds with
          ⟨hwhite, -⟩ | ⟨held, events, -, hheld, hrestHolds, rfl⟩
        · rw [hblank] at hwhite
          cases hwhite
        · obtain rfl := hheld.unique holds
          rw [List.foldlM_cons] at hrun
          cases hstep : onEvent platform application service runId state held with
          | error stopped =>
            rw [hstep] at hrun
            cases hrun
          | ok next =>
            rw [hstep] at hrun
            exact (ih next).mpr ⟨hrest, events, hrestHolds, hrun⟩
    · rw [h]
      constructor
      · intro hrun
        cases hrun
      · rintro ⟨⟨hsmall, -⟩, events, hholds, -⟩
        obtain ⟨hblank, hnone⟩ := hbad hsmall
        rcases holdEvents_cons.mp hholds with ⟨hwhite, -⟩ | ⟨held, events, -, hheld, -, -⟩
        · rw [hblank] at hwhite
          cases hwhite
        · exact absurd hheld (hnone held)

theorem traceOf_lines (lines : List Utf8Text) (state : RunState) :
    ∃ read events, read <+: lines ∧ HoldEvents platform runId read events ∧
      traceOf (lines.foldlM (onLine platform application service runId) state) =
        traceOf (events.foldlM (onEvent platform application service runId) state) := by
  induction lines generalizing state with
  | nil => exact ⟨[], [], List.nil_prefix, HoldEvents.nil, rfl⟩
  | cons line rest ih =>
    rw [List.foldlM_cons]
    rcases @onLine_cases _ platform application service runId state line with
      ⟨-, hblank, h⟩ | ⟨event, -, hblank, holds, h⟩ | ⟨-, thrown, h⟩
    · rw [h]
      obtain ⟨read, events, hread, hholds, htrace⟩ := ih state
      exact ⟨line :: read, events, List.cons_prefix_cons.mpr ⟨rfl, hread⟩,
        hholds.blank hblank, htrace⟩
    · rw [h]
      cases hstep : onEvent platform application service runId state event with
      | error stopped =>
        refine ⟨[line], [event], ?_, HoldEvents.nil.event hblank holds, ?_⟩
        · exact List.cons_prefix_cons.mpr ⟨rfl, List.nil_prefix⟩
        · rw [List.foldlM_cons, hstep]
          rfl
      | ok next =>
        obtain ⟨read, events, hread, hholds, htrace⟩ := ih next
        refine ⟨line :: read, event :: events, List.cons_prefix_cons.mpr ⟨rfl, hread⟩,
          hholds.event hblank holds, ?_⟩
        rw [List.foldlM_cons, hstep]
        exact htrace
    · rw [h]
      exact ⟨[], [], List.nil_prefix, HoldEvents.nil, rfl⟩

theorem HoldEvents.of_prefix {events before : List FastClawCallbackEvent}
    (h : HoldEvents platform runId lines events) (hbefore : before <+: events) :
    ∃ read, read <+: lines ∧ HoldEvents platform runId read before := by
  induction h generalizing before with
  | nil =>
    obtain rfl := List.prefix_nil.mp hbefore
    exact ⟨[], List.nil_prefix, HoldEvents.nil⟩
  | @blank line lines events white rest ih =>
    obtain ⟨read, hread, hholds⟩ := ih hbefore
    exact ⟨line :: read, List.cons_prefix_cons.mpr ⟨rfl, hread⟩, hholds.blank white⟩
  | @event line lines event events text holds rest ih =>
    cases before with
    | nil => exact ⟨[], List.nil_prefix, HoldEvents.nil⟩
    | cons head before =>
      obtain ⟨rfl, htail⟩ := List.cons_prefix_cons.mp hbefore
      obtain ⟨read, hread, hholds⟩ := ih htail
      exact ⟨line :: read, List.cons_prefix_cons.mpr ⟨rfl, hread⟩,
        hholds.event text holds⟩

theorem HoldEvents.runId_eq (h : HoldEvents platform runId lines events) :
    ∀ event ∈ events, event.runId = runId := by
  induction h with
  | nil => simp
  | blank white rest ih => exact ih
  | event text holds rest ih =>
    obtain ⟨value, -, -, hread⟩ := holds
    exact List.forall_mem_cons.mpr ⟨eventOf_runId hread, ih⟩

end Lines

def restText (platform : Platform) (carry : platform.decoder.Carry) (bytes : List UInt8) :
    Utf8Text :=
  (platform.decoder.decode carry bytes).2 ++
    platform.decoder.finish (platform.decoder.decode carry bytes).1

theorem restText_append (carry : platform.decoder.Carry) (first second : List UInt8) :
    restText platform carry (first ++ second) =
      (platform.decoder.decode carry first).2 ++
        restText platform (platform.decoder.decode carry first).1 second := by
  simp [restText, platform.decoder.decode_append carry first second]

theorem readChunks_cons (readFailure : Option String) (chunk : List UInt8)
    (chunks : List (List UInt8)) (carry : platform.decoder.Carry) (totalBytes : Nat)
    (reader : Reader Char RunState)
    (hsmall : totalBytes + chunk.length ≤ maxStreamBytes) :
    readChunks platform application service runId readFailure (chunk :: chunks) carry totalBytes
        reader =
      (feed '\n' (onLine platform application service runId) reader
          (platform.decoder.decode carry chunk).2 >>= fun next =>
        readChunks platform application service runId readFailure chunks
          (platform.decoder.decode carry chunk).1 (totalBytes + chunk.length) next) := by
  rw [readChunks, if_neg (Nat.not_lt.mpr hsmall)]

theorem readChunks_eq (chunks : List (List UInt8)) (carry : platform.decoder.Carry)
    (totalBytes : Nat) (reader : Reader Char RunState)
    (hsmall : totalBytes + chunks.flatten.length ≤ maxStreamBytes) :
    readChunks platform application service runId none chunks carry totalBytes reader =
      (feed '\n' (onLine platform application service runId) reader
        (restText platform carry chunks.flatten) >>= finishRun) := by
  induction chunks generalizing carry totalBytes reader with
  | nil => simp [readChunks, restText, platform.decoder.decode_nil]
  | cons chunk chunks ih =>
    rw [List.flatten_cons, List.length_append] at hsmall
    rw [List.flatten_cons, restText_append, feed_append,
      readChunks_cons none chunk chunks carry totalBytes reader (by omega), bind_assoc]
    refine bind_congr fun next => ?_
    exact ih _ _ next (by omega)

theorem readChunks_tooLarge (readFailure : Option String) (chunks : List (List UInt8))
    (carry : platform.decoder.Carry) (totalBytes : Nat) (reader : Reader Char RunState)
    (htotal : totalBytes ≤ maxStreamBytes)
    (hlarge : maxStreamBytes < totalBytes + chunks.flatten.length) :
    ∃ stopped, readChunks platform application service runId readFailure chunks carry totalBytes
      reader = .error stopped := by
  induction chunks generalizing carry totalBytes reader with
  | nil =>
    simp only [List.flatten_nil, List.length_nil] at hlarge
    omega
  | cons chunk chunks ih =>
    rw [List.flatten_cons, List.length_append] at hlarge
    by_cases hchunk : maxStreamBytes < totalBytes + chunk.length
    · rw [readChunks, if_pos hchunk]
      exact ⟨_, rfl⟩
    · rw [readChunks_cons _ _ _ _ _ _ (Nat.not_lt.mp hchunk)]
      cases hfeed : feed '\n' (onLine platform application service runId) reader
          (platform.decoder.decode carry chunk).2 with
      | error stopped => exact ⟨stopped, rfl⟩
      | ok next =>
        exact ih _ (totalBytes + chunk.length) next (Nat.not_lt.mp hchunk) (by omega)

/-- The end of the stream adds nothing to the trace. -/
theorem reportOf_finishRun (reader : Reader Char RunState) :
    (reportOf (finishRun reader)).trace = reader.state.trace := by
  rw [finishRun]
  cases reader.state.final with
  | none => rfl
  | some result => cases isBlank reader.buffer <;> rfl

theorem readChunks_trace (readFailure : Option String) (chunks : List (List UInt8))
    (carry : platform.decoder.Carry) (totalBytes : Nat) (reader : Reader Char RunState) :
    ∃ lines, lines <+: (splitLines '\n'
        (reader.buffer ++ restText platform carry chunks.flatten)).1 ∧
      (reportOf (readChunks platform application service runId readFailure chunks carry totalBytes
        reader)).trace =
        traceOf (lines.foldlM (onLine platform application service runId) reader.state) := by
  induction chunks generalizing carry totalBytes reader with
  | nil =>
    cases readFailure with
    | some name => exact ⟨[], List.nil_prefix, rfl⟩
    | none =>
      refine ⟨_, List.prefix_rfl, ?_⟩
      simp only [readChunks, List.flatten_nil, restText, platform.decoder.decode_nil,
        List.nil_append]
      rw [feed_eq]
      cases (splitLines '\n'
          (reader.buffer ++ platform.decoder.finish carry)).1.foldlM
          (onLine platform application service runId) reader.state with
      | error stopped => rfl
      | ok state => exact reportOf_finishRun _
  | cons chunk chunks ih =>
    by_cases hchunk : maxStreamBytes < totalBytes + chunk.length
    · rw [readChunks, if_pos hchunk]
      exact ⟨[], List.nil_prefix, rfl⟩
    · rw [readChunks_cons _ _ _ _ _ _ (Nat.not_lt.mp hchunk)]
      have hsplit := splitLines_append '\n'
        (reader.buffer ++ (platform.decoder.decode carry chunk).2)
        (restText platform (platform.decoder.decode carry chunk).1 chunks.flatten)
      rw [List.append_assoc] at hsplit
      rw [List.flatten_cons, restText_append, hsplit, feed_eq]
      cases hlines : (splitLines '\n'
          (reader.buffer ++ (platform.decoder.decode carry chunk).2)).1.foldlM
          (onLine platform application service runId) reader.state with
      | error stopped =>
        exact ⟨_, List.prefix_append _ _, (congrArg traceOf hlines).symm⟩
      | ok state =>
        obtain ⟨lines, hbegins, htrace⟩ := ih (platform.decoder.decode carry chunk).1
          (totalBytes + chunk.length)
          ⟨state, (splitLines '\n'
            (reader.buffer ++ (platform.decoder.decode carry chunk).2)).2⟩
        refine ⟨_ ++ lines, (List.prefix_append_right_inj _).mpr hbegins, ?_⟩
        rw [List.foldlM_append, hlines]
        exact htrace

/-- The whole text is read to an answer when its lines are, and white space stands behind them. -/
theorem feed_finishRun_eq_ok (text : Utf8Text) (last : RunState)
    (answer : FastClawTransportResult) :
    (feed '\n' (onLine platform application service runId) ⟨RunState.start, []⟩ text >>=
        finishRun) = .ok (last, answer) ↔
      (splitLines '\n' text).1.foldlM (onLine platform application service runId)
          RunState.start = .ok last ∧
        last.final = some answer ∧ isBlank (splitLines '\n' text).2 = true := by
  rw [feed_eq, List.nil_append]
  cases (splitLines '\n' text).1.foldlM (onLine platform application service runId)
      RunState.start with
  | error stopped =>
    constructor
    · intro h
      cases h
    · rintro ⟨h, -⟩
      cases h
  | ok state =>
    change finishRun ⟨state, _⟩ = _ ↔ _
    rw [finishRun]
    constructor
    · intro h
      cases hfinal : state.final with
      | none =>
        rw [hfinal] at h
        cases h
      | some result =>
        rw [hfinal] at h
        cases hblank : isBlank (splitLines '\n' text).2 with
        | false =>
          rw [hblank] at h
          cases h
        | true =>
          rw [hblank] at h
          cases h
          exact ⟨rfl, hfinal, rfl⟩
    · rintro ⟨hstate, hfinal, hblank⟩
      obtain rfl := Except.ok.inj hstate
      simp only [hfinal, hblank, if_true]

section Acceptance

variable {input : TransportInput}

/-- A run that an answer of lines of JSON was given to. -/
def runOn (platform : Platform) (application : Application ω) (service : ResultService)
    (input : TransportInput) (readFailure : Option String) (chunks : List (List UInt8)) :
    Except Stopped (RunState × FastClawTransportResult) :=
  readChunks platform application service input.runId readFailure chunks platform.decoder.start 0
    ⟨RunState.start, []⟩

theorem run_stream {status : Nat} {contentType : Option String} (body : ResponseBody)
    (hsignal : input.signalAborted = false) (hinput : input.isValid = true)
    (hstatus : 200 ≤ status ∧ status ≤ 299) (hcontent : isNdjson contentType = true) :
    run platform application service input (.answered status contentType (some body)) =
      reportOf (runOn platform application service input body.readFailure body.chunks) := by
  simp [run, hsignal, hinput, hstatus, hcontent, runOn]

theorem reportOf_eq_ok (outcome : Except Stopped (RunState × FastClawTransportResult))
    (answer : FastClawTransportResult) :
    (reportOf outcome).result = .ok answer ↔ ∃ last, outcome = .ok (last, answer) := by
  cases outcome with
  | error stopped => simp [reportOf]
  | ok pair =>
    obtain ⟨last, result⟩ := pair
    constructor
    · intro h
      obtain rfl := Except.ok.inj h
      exact ⟨last, rfl⟩
    · rintro ⟨other, h⟩
      obtain ⟨rfl, rfl⟩ := Prod.mk.inj (Except.ok.inj h)
      rfl

theorem runOn_eq_ok (chunks : List (List UInt8)) (last : RunState)
    (answer : FastClawTransportResult) :
    runOn platform application service input none chunks = .ok (last, answer) ↔
      chunks.flatten.length ≤ maxStreamBytes ∧
        (splitLines '\n' (platform.decoder.text chunks.flatten)).1.foldlM
            (onLine platform application service input.runId) RunState.start = .ok last ∧
          last.final = some answer ∧
            isBlank (splitLines '\n'
              (platform.decoder.text chunks.flatten)).2 = true := by
  by_cases hsmall : chunks.flatten.length ≤ maxStreamBytes
  · rw [runOn, readChunks_eq chunks _ 0 _ (by omega), feed_finishRun_eq_ok, and_iff_right hsmall]
    rfl
  · obtain ⟨stopped, h⟩ :=
      @readChunks_tooLarge _ platform application service input.runId none chunks
      platform.decoder.start 0 ⟨RunState.start, []⟩ (Nat.zero_le _) (by omega)
    rw [runOn, h]
    constructor
    · intro hrun
      cases hrun
    · rintro ⟨hbytes, -⟩
      exact absurd hbytes hsmall

theorem linesOf_iff (bytes : List UInt8) (lines : List Utf8Text) (tail : Utf8Text) :
    LinesOf platform bytes lines tail ↔
      splitLines '\n' (platform.decoder.text bytes) = (lines, tail) :=
  (splitLines_eq_iff '\n' _ tail lines).symm

theorem steps_of_calls (calls : List FastClawTransportToolCall) :
    ∃ steps, List.Forall₂ (CallSteps service) calls steps ∧
      calls.flatMap (callActions platform application service input.runId) = steps.flatten :=
  ⟨calls.map (callActions platform application service input.runId),
    List.forall₂_map_right_iff.mpr (List.forall₂_same.mpr fun call _ => callActions_steps call),
    List.flatMap_def⟩

variable {answer : FastClawTransportResult}

theorem accepts_of_runOn (chunks : List (List UInt8)) {last : RunState}
    (h : runOn platform application service input none chunks = .ok (last, answer)) :
    application.onProgressThrows = false ∧
      ∃ lines tail work,
        Accepts platform input.runId chunks.flatten lines tail work answer ∧
          (∀ call ∈ callsOf work, CallSucceeds platform application service input.runId call) ∧
            last.trace = .progress ::
              (callsOf work).flatMap (callActions platform application service input.runId) := by
  obtain ⟨hbytes, hlines, hfinal, hblank⟩ := (runOn_eq_ok chunks last answer).mp h
  obtain ⟨hsmall, events, hholds, hevents⟩ := (foldlM_onLine_eq_ok _ _ _).mp hlines
  obtain ⟨first, rest, rfl, hprogress, hrest⟩ := answered_start hevents hfinal
  obtain ⟨work, id, rfl, hwork, -, hnodup, hsteps, hcalls, htrace⟩ :=
    work_of_answered rest RunState.begun_isOpen hrest hfinal
  have hids := hholds.runId_eq
  obtain rfl : first = input.runId := hids _ List.mem_cons_self
  obtain rfl : id = input.runId := hids (.final id answer) (by simp)
  refine ⟨hprogress, _, _, work, ⟨(linesOf_iff _ _ _).mpr rfl, hbytes, hsmall, hblank, hholds,
    hwork, hnodup, ?_⟩, hcalls, htrace⟩
  simpa [RunState.begun, RunState.start] using hsteps

/-- A stream of the grammar whose calls succeed is read to its answer. -/
theorem runOn_of_accepts (chunks : List (List UInt8)) {lines : List Utf8Text} {tail : Utf8Text}
    {work : List FastClawCallbackEvent} (hprogress : application.onProgressThrows = false)
    (h : Accepts platform input.runId chunks.flatten lines tail work answer)
    (hcalls : ∀ call ∈ callsOf work, CallSucceeds platform application service input.runId call) :
    ∃ last, runOn platform application service input none chunks = .ok (last, answer) := by
  have hsplit := (linesOf_iff _ _ _).mp h.lines_of
  obtain ⟨last, hlast, hfinal⟩ := @answered_of_work _ platform application service input.runId
    RunState.begun answer work input.runId RunState.begun_isOpen h.works
    (by simp [RunState.begun, RunState.start]) h.distinct
    (by simpa [RunState.begun, RunState.start] using h.counted) hcalls
  refine ⟨last, (runOn_eq_ok chunks last answer).mpr ⟨h.stream_small, ?_, hfinal, ?_⟩⟩
  · rw [hsplit]
    refine (foldlM_onLine_eq_ok _ _ _).mpr ⟨h.lines_small, _, h.holds, ?_⟩
    rw [List.cons_append, List.foldlM_cons, onEvent_remoteAccepted, hprogress]
    exact hlast
  · rw [hsplit]
    exact h.tail_blank

theorem trace_runOn (readFailure : Option String) (chunks : List (List UInt8)) :
    (reportOf (runOn platform application service input readFailure chunks)).trace = [] ∨
      ∃ lines tail read work, LinesOf platform chunks.flatten lines tail ∧ read <+: lines ∧
        HoldEvents platform input.runId read (.remoteAccepted input.runId :: work) ∧
        (∀ event ∈ work, event.isWork = true) ∧ (callIdsOf work).Nodup ∧
        (reportOf (runOn platform application service input readFailure chunks)).trace =
          .progress ::
            (callsOf work).flatMap (callActions platform application service input.runId) := by
  obtain ⟨lines, hlines, htrace⟩ := @readChunks_trace _ platform application service input.runId
    readFailure chunks platform.decoder.start 0 ⟨RunState.start, []⟩
  obtain ⟨read, events, hread, hholds, hevents⟩ :=
    @traceOf_lines _ platform application service input.runId
    lines RunState.start
  have hreport := htrace.trans hevents
  rcases @traceOf_start _ platform application service input.runId events with
      hnone | ⟨first, rest, work, rfl, hbegins, hdone⟩
  · exact Or.inl (hreport.trans hnone)
  · obtain rfl : first = input.runId := hholds.runId_eq _ List.mem_cons_self
    obtain ⟨before, hbefore, hwork⟩ :=
      hholds.of_prefix (List.cons_prefix_cons.mpr ⟨rfl, hbegins.begins⟩)
    exact Or.inr ⟨_, _, before, work, (linesOf_iff _ _ _).mpr rfl,
      hbefore.trans (hread.trans hlines), hwork, hbegins.works, hbegins.distinct,
      hreport.trans hdone⟩

/--
A run resolves to an answer exactly on the streams of the grammar of which the
callbacks and the posts succeed, however the stream is cut in chunks; it has
then called the tool once for each call.  A run that stops, also where reading
fails, has done the same for the calls of lines that begin the stream: the
callbacks come one at a time and in order, after the run was accepted and
before its answer, and a result is posted a second time only when the network
failed the first.
-/
theorem run_grammar (platform : Platform) (application : Application ω) (service : ResultService)
    (input : TransportInput) (status : Nat) (contentType : Option String)
    (chunks : List (List UInt8)) (hsignal : input.signalAborted = false)
    (hinput : input.isValid = true) (hstatus : 200 ≤ status ∧ status ≤ 299)
    (hcontent : isNdjson contentType = true) :
    let report := fun readFailure chunks =>
      run platform application service input
        (.answered status contentType (some ⟨chunks, readFailure⟩))
    (∀ answer, (report none chunks).result = .ok answer ↔
      application.onProgressThrows = false ∧
        ∃ lines tail work,
          Accepts platform input.runId chunks.flatten lines tail work answer ∧
            ∀ call ∈ callsOf work,
              CallSucceeds platform application service input.runId call) ∧
    (∀ others : List (List UInt8), others.flatten = chunks.flatten →
      ∀ answer, (report none others).result = .ok answer ↔
        (report none chunks).result = .ok answer) ∧
    (∀ answer, (report none chunks).result = .ok answer →
      ∃ lines tail work steps,
        Accepts platform input.runId chunks.flatten lines tail work answer ∧
          List.Forall₂ (CallSteps service) (callsOf work) steps ∧
            (report none chunks).trace = .progress :: steps.flatten) ∧
    (∀ readFailure, (report readFailure chunks).trace = [] ∨
      ∃ lines tail read work steps, LinesOf platform chunks.flatten lines tail ∧
        read <+: lines ∧
        HoldEvents platform input.runId read (.remoteAccepted input.runId :: work) ∧
        (∀ event ∈ work, event.isWork = true) ∧ (callIdsOf work).Nodup ∧
        List.Forall₂ (CallSteps service) (callsOf work) steps ∧
        (report readFailure chunks).trace = .progress :: steps.flatten) := by
  have hrun : ∀ readFailure chunks, run platform application service input
      (.answered status contentType (some ⟨chunks, readFailure⟩)) =
      reportOf (runOn platform application service input readFailure chunks) :=
    fun readFailure chunks => run_stream ⟨chunks, readFailure⟩ hsignal hinput hstatus hcontent
  have hanswer : ∀ chunks answer,
      (reportOf (runOn platform application service input none chunks)).result = .ok answer ↔
        application.onProgressThrows = false ∧
          ∃ lines tail work,
            Accepts platform input.runId chunks.flatten lines tail work answer ∧
              ∀ call ∈ callsOf work,
                CallSucceeds platform application service input.runId call := by
    intro chunks answer
    rw [reportOf_eq_ok]
    constructor
    · rintro ⟨last, h⟩
      obtain ⟨hprogress, lines, tail, work, haccepts, hcalls, -⟩ := accepts_of_runOn chunks h
      exact ⟨hprogress, lines, tail, work, haccepts, hcalls⟩
    · rintro ⟨hprogress, lines, tail, work, haccepts, hcalls⟩
      exact runOn_of_accepts chunks hprogress haccepts hcalls
  simp only [hrun]
  refine ⟨hanswer chunks, ?_, ?_, ?_⟩
  · intro others hsame answer
    rw [hanswer others, hanswer chunks, hsame]
  · intro answer h
    obtain ⟨last, hlast⟩ := (reportOf_eq_ok _ _).mp h
    obtain ⟨-, lines, tail, work, haccepts, -, htrace⟩ := accepts_of_runOn chunks hlast
    obtain ⟨steps, hsteps, hflat⟩ :=
      @steps_of_calls _ platform application service input (callsOf work)
    refine ⟨lines, tail, work, steps, haccepts, hsteps, ?_⟩
    rw [hlast, ← hflat]
    exact htrace
  · intro readFailure
    rcases @trace_runOn _ platform application service input readFailure chunks with
      hnone | ⟨lines, tail, read, work, hlines, hread, hholds, hwork, hnodup, htrace⟩
    · exact Or.inl hnone
    · obtain ⟨steps, hsteps, hflat⟩ :=
        @steps_of_calls _ platform application service input (callsOf work)
      exact Or.inr ⟨lines, tail, read, work, steps, hlines, hread, hholds, hwork, hnodup, hsteps,
        htrace.trans (congrArg _ hflat)⟩

end Acceptance

/-- Bytes below 128 are characters; another byte is the replacement character. -/
def asciiDecoder : StreamDecoder UInt8 Char where
  Carry := Unit
  start := ()
  decode _ bytes := ((), bytes.map fun byte =>
    if byte.toNat < 128 then Char.ofNat byte.toNat else '\uFFFD')
  finish _ := []
  decode_nil := by intros; rfl
  decode_append := by intros; simp

def acceptedLine : List Char :=
  "\x7b\"run_id\":\"r\",\"type\":\"remote_accepted\"\x7d".toList

def finalLine : List Char :=
  ("\x7b\"run_id\":\"r\",\"type\":\"final\",\"raw_answer\":\"a\",\"usage\":" ++
    "\x7b\"input_tokens\":0,\"output_tokens\":0,\"steps\":0\x7d\x7d").toList

def jsonText (text : String) : SandboxAuth.JsonValue :=
  .string (ofString text)

def field (key : String) (value : SandboxAuth.JsonValue) : JsText × SandboxAuth.JsonValue :=
  (ofString key, value)

def smallPlatform : Platform where
  decoder := asciiDecoder
  parseJson line :=
    if line = acceptedLine then
      some (.object [field "run_id" (jsonText "r"), field "type" (jsonText "remote_accepted")])
    else if line = finalLine then
      some (.object [field "run_id" (jsonText "r"), field "type" (jsonText "final"),
        field "raw_answer" (jsonText "a"),
        field "usage" (.object [field "input_tokens" (.number (.finite 0)),
          field "output_tokens" (.number (.finite 0)), field "steps" (.number (.finite 0))])])
    else
      none

def smallApplication : Application Unit where
  onProgressThrows := false
  onToolCall _ := .threw
  bodyOf _ := none

def smallService : ResultService where
  post _ _ := .failed "UNKNOWN"

def smallInput : TransportInput where
  externalUserIdentity := ofString "u"
  fastclawAgentId := ofString "a"
  fastclawUserId := ofString "u"
  prompt := ofString "p"
  runId := ofString "r"
  sandboxAuthorization := ofString "s"
  signalAborted := false

/-- Two lines and a space that no newline ends. -/
def spacedBytes : List UInt8 :=
  (acceptedLine ++ '\n' :: finalLine ++ ['\n', ' ']).map fun c => UInt8.ofNat c.toNat

def smallAnswer : FastClawTransportResult where
  rawAnswer := ofString "a"
  usage := { inputTokens := 0, outputTokens := 0, steps := 0 }

def smallRun : RunReport :=
  run smallPlatform smallApplication smallService smallInput
    (.answered 200 (some "application/x-ndjson") (some ⟨[spacedBytes], none⟩))

/-- The grammar at a run whose stream ends in a space. -/
theorem run_grammar_small :
    smallRun.result = .ok smallAnswer ↔
      smallApplication.onProgressThrows = false ∧
        ∃ lines tail work,
          Accepts smallPlatform smallInput.runId [spacedBytes].flatten lines tail work smallAnswer ∧
            ∀ call ∈ callsOf work,
              CallSucceeds smallPlatform smallApplication smallService smallInput.runId call :=
  (run_grammar smallPlatform smallApplication smallService smallInput 200
    (some "application/x-ndjson") [spacedBytes] rfl (by decide +kernel) (by decide)
    (by decide +kernel)).1 smallAnswer

/-- The run resolves, and a newline does not end the last of its lines. -/
theorem spacedStream_resolves :
    smallRun.result = .ok smallAnswer ∧
      ¬∃ lines, smallPlatform.decoder.text spacedBytes = joinLines '\n' lines [] := by
  refine ⟨by decide +kernel, ?_⟩
  rintro ⟨lines, h⟩
  have hlast : (smallPlatform.decoder.text spacedBytes).getLast? = some ' ' := by
    decide +kernel
  rw [h] at hlast
  rcases List.eq_nil_or_concat lines with rfl | ⟨before, line, rfl⟩
  · simp [joinLines] at hlast
  · simp [joinLines] at hlast

end Aiphabee.FastClawTransport
