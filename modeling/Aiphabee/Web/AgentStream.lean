import Aiphabee.Text.JsonMembers
import Aiphabee.Text.LineBuffer

/-!
# The browser's reader of an agent stream

The answer to a prompt is a text of frames with a blank line behind each.  The
reader takes the frames off a buffer, chunk by chunk, and reads what is left of
it when the stream is done.  After every chunk the buffer and the events emitted
so far are those of the text read so far, so that the chunks do not matter.
-/

namespace Aiphabee.AgentStream

open JsText (ofString)
open JsonMembers
open SandboxAuth (JsonValue)

/-- What the runtime gives: `JSON.parse`, with no value where it throws. -/
structure Platform where
  parseJson : JsText → Option JsonValue

/-- `"\n"`. -/
def newline : UInt16 := 0x0A

/-- `"\n\n"`. -/
def blankLine : JsText := [newline, newline]

/-- `"data:"`. -/
def dataPrefix : JsText := ofString "data:"

def isTruthy : JsonValue → Bool
  | .null => false
  | .boolean flag => flag
  | .number value => value ≠ .nan && value ≠ JsNumber.zero
  | .string text => !text.isEmpty
  | .array _ => true
  | .object _ => true

/-- The event that a parsed value is: it has a string as `event`, and a payload. -/
def eventOf (parsed : JsonValue) : Option JsonValue :=
  if (stringMember parsed "event").isNone || !((member parsed "payload").any isTruthy) then
    none
  else
    some parsed

/-- `frame.split("\n")`. -/
def linesOf (frame : JsText) : List JsText :=
  (LineBuffer.splitLines newline frame).1 ++ [(LineBuffer.splitLines newline frame).2]

variable (platform : Platform)

def parseFrame (frame : JsText) : Option JsonValue := do
  let dataLine ← (linesOf frame).find? (dataPrefix.isPrefixOf ·)
  let json := JsText.trim (dataLine.drop dataPrefix.length)
  if json.isEmpty then
    none
  else
    (platform.parseJson json).bind eventOf

/-- `text.split("\n\n")`. -/
def segmentsOf (text : JsText) : List JsText :=
  (LineBuffer.splitWord blankLine text).1 ++ [(LineBuffer.splitWord blankLine text).2]

def parseFrames (text : JsText) : List JsonValue :=
  (segmentsOf text).filterMap (parseFrame platform)

/-- The state of the loop: the events emitted so far, and the last segment. -/
structure Reader where
  events : List JsonValue
  buffer : JsText

/-- One turn of the loop: the last segment stays in the buffer. -/
def readChunk (reader : Reader) (value : JsText) : Reader :=
  let segments := LineBuffer.splitWord blankLine (reader.buffer ++ value)
  { events := reader.events ++ segments.1.filterMap (parseFrame platform)
    buffer := segments.2 }

/-- The answer of the service: without a body it still has a text. -/
structure Response where
  ok : Bool
  status : Nat
  runId : Option JsText
  body : Option (List JsText)
  text : JsText

structure AgentStreamResult where
  runId : Option JsText
  events : List JsonValue

/-- `agent stream request failed with status ...`. -/
structure RequestFailed where
  status : Nat

def readBody (chunks : List JsText) : List JsonValue :=
  let reader := chunks.foldl (readChunk platform) { events := [], buffer := [] }
  reader.events ++ (parseFrame platform reader.buffer).toList

def streamAgentRun (response : Response) :
    Except RequestFailed AgentStreamResult :=
  if !response.ok then
    .error ⟨response.status⟩
  else
    match response.body with
    | none => .ok ⟨response.runId, parseFrames platform response.text⟩
    | some chunks => .ok ⟨response.runId, readBody platform chunks⟩

section Reading

variable (platform : Platform)

def readerOf (text : JsText) : Reader :=
  { events := (LineBuffer.splitWord blankLine text).1.filterMap (parseFrame platform)
    buffer := (LineBuffer.splitWord blankLine text).2 }

theorem readChunk_readerOf (text value : JsText) :
    readChunk platform (readerOf platform text) value = readerOf platform (text ++ value) := by
  have hword : blankLine ≠ [] := List.cons_ne_nil _ _
  simp only [readChunk, readerOf, LineBuffer.splitWord_append hword text value,
    List.filterMap_append]

/-- The loop keeps the buffer and the events of the text that it has read. -/
theorem foldl_readChunk (text : JsText) (chunks : List JsText) :
    chunks.foldl (readChunk platform) (readerOf platform text) =
      readerOf platform (text ++ chunks.flatten) := by
  induction chunks generalizing text with
  | nil => simp
  | cons chunk rest ih =>
    rw [List.foldl_cons, readChunk_readerOf, ih, List.flatten_cons, List.append_assoc]

theorem parseFrames_eq (text : JsText) :
    parseFrames platform text =
      (readerOf platform text).events ++
        (parseFrame platform (readerOf platform text).buffer).toList := by
  rw [parseFrames, segmentsOf, List.filterMap_append]
  refine congrArg (_ ++ ·) ?_
  change [(readerOf platform text).buffer].filterMap (parseFrame platform) = _
  cases htail : parseFrame platform (readerOf platform text).buffer with
  | none => simp [htail]
  | some event => simp [htail]

theorem readBody_eq (chunks : List JsText) :
    readBody platform chunks = parseFrames platform chunks.flatten := by
  have hrun := foldl_readChunk platform [] chunks
  rw [List.nil_append] at hrun
  rw [parseFrames_eq, ← hrun]
  rfl

end Reading

/-- Whatever the chunks of a body are, the events are those of the undivided text. -/
theorem streamAgentRun_chunks (platform : Platform) (status : Nat) (runId : Option JsText)
    (chunks : List JsText) (text : JsText) :
    streamAgentRun platform
        { ok := true, status := status, runId := runId, body := some chunks, text := text } =
      .ok { runId := runId, events := parseFrames platform chunks.flatten } := by
  have hbody := readBody_eq platform chunks
  simp [streamAgentRun, hbody]

/-- A frame that is cut in its separator and one that is cut in its line. -/
example :
    let platform : Platform := ⟨fun _ => some (.object
      [(ofString "event", .string (ofString "done")),
        (ofString "payload", .boolean true)])⟩
    (readBody platform (["data:1\n", "", "\nda", "ta:2"].map ofString)).length = 2 := by
  decide

end Aiphabee.AgentStream
