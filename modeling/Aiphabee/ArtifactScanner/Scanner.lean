import Aiphabee.Text.JsText
import Aiphabee.Wire.Frames

/-!
# The artifact scanner

The scanner asks clamd for its version, and only under signatures that are
current streams the body of the request to it, frame by frame, and reads the
verdict.

A connection to clamd is given by whether it is made, how many bytes it takes
before a write fails, and what it answers until it is closed; the body of a
request by its bytes and by what each read of it gives.  How the build time of
the signatures is read is given as well.
-/

namespace Aiphabee

/-- A string of Go is any list of bytes. -/
abbrev GoString := List UInt8

namespace GoString

def ofString (text : String) : GoString :=
  JsText.encodeUtf8 text.toList

/-- The characters of Unicode that are white space. -/
def whiteSpaces : List Char :=
  ['\t', '\n', '\x0B', '\x0C', '\r', ' ', '\u0085', '\u00A0', '\u1680', '\u2000', '\u2001',
    '\u2002', '\u2003', '\u2004', '\u2005', '\u2006', '\u2007', '\u2008', '\u2009', '\u200A',
    '\u2028', '\u2029', '\u202F', '\u205F', '\u3000']

def spaceBytes : List (List UInt8) :=
  whiteSpaces.map String.utf8EncodeChar

/-- Without white space in front; at most as many characters as the bound says. -/
def trimLeft : Nat → GoString → GoString
  | 0, value => value
  | bound + 1, value =>
    match spaceBytes.find? fun space => space.isPrefixOf value with
    | some space => trimLeft bound (value.drop space.length)
    | none => value

/-- Without white space at the end. -/
def trimRight : Nat → GoString → GoString
  | 0, value => value
  | bound + 1, value =>
    match spaceBytes.find? fun space => space.isSuffixOf value with
    | some space => trimRight bound (value.take (value.length - space.length))
    | none => value

/-- `strings.TrimSpace`: the UTF-8 texts of white space characters are dropped at both ends. -/
def trimSpace (value : GoString) : GoString :=
  trimRight value.length (trimLeft value.length value)

example : trimSpace (ofString " stream: OK\n") = ofString "stream: OK" := by
  decide +kernel

end GoString

namespace ArtifactScanner

/-- `maxScanBytes`. -/
def maxScanBytes : Nat := 10 * 1024 * 1024

def bufferSize : Nat := 64 * 1024

def nanosecondsPerHour : Int := 3600 * 1000000000

/-- `maxSignatureAge`. -/
def maxSignatureAge : Int := 72 * nanosecondsPerHour

/-- What the runtime gives: `time.Parse` for the layout of a build time, in nanoseconds. -/
structure GoPlatform where
  parseBuildTime : GoString → Option Int

/-- An error: the one of a body that is too large, or another. -/
inductive GoError
  | maxBytes
  | other
deriving DecidableEq

inductive ReadError
  | eof
  | failed

/-- A read of a body: the bytes that are there, and how it ends. -/
structure ReadStep where
  count : Nat
  ending : Option ReadError

structure Connection where
  dialOk : Bool
  capacity : Option Nat
  reply : List UInt8

def Connection.write (connection : Connection) (wire bytes : List UInt8) : List UInt8 × Bool :=
  match connection.capacity with
  | none => (wire ++ bytes, true)
  | some capacity =>
    if wire.length + bytes.length ≤ capacity then
      (wire ++ bytes, true)
    else
      (wire ++ bytes.take (capacity - wire.length), false)

/-- The reply up to its first zero byte. -/
def readNullTerminated (reply : List UInt8) : Except GoError GoString :=
  if reply.contains 0 then .ok (reply.takeWhile (· ≠ 0)) else .error .other

def command (connection : Connection) (text : GoString) : Except GoError GoString :=
  if !connection.dialOk then
    .error .other
  else
    let written := connection.write [] text
    if written.2 then readNullTerminated connection.reply else .error .other

/-- `/`. -/
def slash : UInt8 := 0x2F

def parseVersion (response : GoString) : Except GoError (GoString × GoString) :=
  let trimmed := GoString.trimSpace response
  let engine := GoString.trimSpace (trimmed.takeWhile (· ≠ slash))
  let signatures := GoString.trimSpace ((trimmed.dropWhile (· ≠ slash)).drop 1)
  if trimmed.contains slash && engine ≠ [] && signatures ≠ [] then
    .ok (engine, signatures)
  else
    .error .other

def signatureCurrent (platform : GoPlatform) (signatures : GoString) (now : Int) : Bool :=
  let parts := signatures.splitOn slash
  if parts.length < 2 then
    false
  else
    match platform.parseBuildTime (parts.getLastD []) with
    | none => false
    | some builtAt =>
      -24 * nanosecondsPerHour ≤ now - builtAt && now - builtAt ≤ maxSignatureAge

def versionCommand : GoString :=
  GoString.ofString "zVERSION" ++ [0]

def version (platform : GoPlatform) (connection : Connection) (now : Int) :
    Except GoError (GoString × GoString) := do
  let response ← command connection versionCommand
  let parsed ← parseVersion response
  if signatureCurrent platform parsed.2 now then pure parsed else .error .other

def sourceRead (remaining : List UInt8) (size : Nat) (step : ReadStep) :
    List UInt8 × List UInt8 × Option ReadError :=
  let count := min step.count size
  let rest := remaining.drop count
  let ending :=
    match step.ending with
    -- A body ends only behind its last byte.
    | some .eof => if rest = [] then some .eof else none
    | other => other
  (remaining.take count, rest, ending)

/-- A read through `http.MaxBytesReader` with what it still lets pass. -/
structure LimitedRead where
  data : List UInt8
  remaining : List UInt8
  left : Nat
  ending : Option (Option GoError)

/-- `ending` is the error of the read: `some none` is the end of the body. -/
def maxBytesRead (remaining : List UInt8) (left : Nat) (step : ReadStep) : LimitedRead :=
  let size := if bufferSize - 1 > left then left + 1 else bufferSize
  let (data, rest, ending) := sourceRead remaining size step
  if data.length ≤ left then
    { data, remaining := rest, left := left - data.length
      ending := ending.map fun
        | .eof => none
        | .failed => some .other }
  else
    { data := data.take left, remaining := rest, left := 0, ending := some (some .maxBytes) }

/-- What a stream has written and read, and how its loop ended. -/
structure StreamLoop where
  wire : List UInt8
  body : List UInt8
  outcome : Except GoError Unit

def writeFrame (connection : Connection) (wire data : List UInt8) : List UInt8 × Bool :=
  let header := connection.write wire (Frames.bigEndian32 data.length)
  if header.2 then connection.write header.1 data else header

def streamLoop (connection : Connection) :
    List ReadStep → (remaining : List UInt8) → (left : Nat) → (wire body : List UInt8) → StreamLoop
  | [], _, _, wire, body => { wire, body, outcome := .error .other }
  | step :: steps, remaining, left, wire, body =>
    let read := maxBytesRead remaining left step
    let body := body ++ read.data
    let written := if read.data = [] then (wire, true) else writeFrame connection wire read.data
    if !written.2 then
      { wire := written.1, body, outcome := .error .other }
    else
      match read.ending with
      | some none => { wire := written.1, body, outcome := .ok () }
      | some (some error) => { wire := written.1, body, outcome := .error error }
      | none => streamLoop connection steps read.remaining read.left written.1 body

def instreamCommand : GoString :=
  GoString.ofString "zINSTREAM" ++ [0]

structure ScanStream where
  wire : List UInt8
  body : List UInt8
  outcome : Except GoError GoString

def scanStream (connection : Connection) (steps : List ReadStep) (source : List UInt8) :
    ScanStream :=
  if !connection.dialOk then
    { wire := [], body := [], outcome := .error .other }
  else
    let opened := connection.write [] instreamCommand
    if !opened.2 then
      { wire := opened.1, body := [], outcome := .error .other }
    else
      let loop := streamLoop connection steps source maxScanBytes opened.1 []
      match loop.outcome with
      | .error error => { wire := loop.wire, body := loop.body, outcome := .error error }
      | .ok () =>
        let ended := connection.write loop.wire Frames.endFrame
        if ended.2 then
          { wire := ended.1, body := loop.body
            outcome := readNullTerminated connection.reply }
        else
          { wire := ended.1, body := loop.body, outcome := .error .other }

/-- The verdict of clamd: clean, or unsafe. -/
def interpretScanResult (response : GoString) : Except GoError Bool :=
  let trimmed := GoString.trimSpace response
  if trimmed = GoString.ofString "stream: OK" then
    .ok true
  else if (GoString.ofString "stream: ").isPrefixOf trimmed &&
      (GoString.ofString " FOUND").isSuffixOf trimmed then
    .ok false
  else
    .error .other

structure ScanResponse where
  engine : GoString
  reasonCode : String
  scannedAt : GoString
  signatureVersion : GoString
  status : String

structure ScannerReply where
  status : Nat
  payload : Option ScanResponse

/-- All that a scan meets: its context, the clock and its text, the connections to clamd, and
the reads of the body. -/
structure ScanSurroundings where
  contextDone : Bool
  now : Int
  scannedAt : GoString
  versionConnection : Connection
  scanConnection : Connection
  steps : List ReadStep

def scan (platform : GoPlatform) (surroundings : ScanSurroundings) (contentType : String)
    (body : List UInt8) : ScannerReply :=
  let scannedAt := surroundings.scannedAt
  -- A response without a verdict.
  let scanError (status : Nat) (engine signatures : GoString) (reason : String) : ScannerReply :=
    { status
      payload := some {
        engine, reasonCode := reason, scannedAt, signatureVersion := signatures
        status := "error" } }
  if contentType ≠ "application/octet-stream" then
    scanError 415 [] [] "invalid_content_type"
  else if surroundings.contextDone then
    { status := 200, payload := none }
  else
    match version platform surroundings.versionConnection surroundings.now with
    | .error _ => scanError 503 [] [] "scanner_not_ready"
    | .ok (engine, signatures) =>
      let stream := scanStream surroundings.scanConnection surroundings.steps body
      match stream.outcome with
      | .error .maxBytes => scanError 413 engine signatures "payload_too_large"
      | .error .other => scanError 502 engine signatures "scanner_protocol_error"
      | .ok result =>
        match interpretScanResult result with
        | .error _ => scanError 502 engine signatures "scanner_protocol_error"
        | .ok clean =>
          { status := 200
            payload := some {
              engine
              reasonCode := if clean then "" else "malware_detected"
              scannedAt
              signatureVersion := signatures
              status := if clean then "clean" else "unsafe" } }

end ArtifactScanner

end Aiphabee
