import Aiphabee.ArtifactScanner.Scanner
import Aiphabee.Text.JsonMembers
import Aiphabee.Web.Http

/-!
# The bridge to the scanner

The bridge admits a payload by its size and its hash, sends it to the scanner,
and passes on a verdict that is well formed.  A scanner that is not ready is
asked for its health until it is, and is sent the payload once more.

Replies are given by their status, their content type and the value their body
parses to.  What a hop does is given: it fails, something on the way answers
that is no success, or the request arrives, where the body of the reply may
still be lost.
-/

namespace Aiphabee.ArtifactScanner

open JsText (ofString)
open JsonMembers
open SandboxAuth (JsonValue isHash)

structure JsonReply where
  status : Nat
  contentType : Option JsText
  json : Option JsonValue

/-- `response.ok`. -/
def isOk (status : Nat) : Bool :=
  200 ≤ status && status ≤ 299

/-- `response.ok`, and a content type that starts with `application/json`. -/
def JsonReply.isJson (reply : JsonReply) : Bool :=
  isOk reply.status &&
    reply.contentType.any fun type => (ofString "application/json").isPrefixOf type

def JsonReply.value (reply : JsonReply) : JsonValue :=
  reply.json.getD .null

/-- A reply that does not come from the one who was asked: it is no success. -/
structure Refusal where
  reply : JsonReply
  notOk : isOk reply.status = false

/-- What the runtime gives: the hash, `Date.parse`, and the text that JSON makes of a string of Go.
-/
structure JsPlatform where
  sha256 : List UInt8 → List UInt8
  parseDate : JsText → Option Int
  goText : GoString → JsText

def textField (name : String) (value : JsText) : JsText × JsonValue :=
  (ofString name, .string value)

variable (platform : JsPlatform)

def ScanResponse.toJson (response : ScanResponse) : JsonValue :=
  .object
    ([textField "engine" (platform.goText response.engine)] ++
      (if response.reasonCode = "" then []
        else [textField "reason_code" (ofString response.reasonCode)]) ++
      [textField "scanned_at" (platform.goText response.scannedAt),
        textField "signature_version" (platform.goText response.signatureVersion),
        textField "status" (ofString response.status)])

def ScannerReply.toJsonReply (reply : ScannerReply) : JsonReply where
  status := reply.status
  contentType := reply.payload.map fun _ => ofString "application/json; charset=utf-8"
  json := reply.payload.map fun response => response.toJson platform

inductive ScannerFetch
  | threw
  | refused (refusal : Refusal)
  | reached (surroundings : ScanSurroundings) (replyArrives : Bool)

def fetchScan (go : GoPlatform) (platform : JsPlatform) (payload : List UInt8) :
    ScannerFetch → Option JsonReply
  | .threw => none
  | .refused refusal => some refusal.reply
  | .reached surroundings replyArrives =>
    let reply := (scan go surroundings "application/octet-stream" payload).toJsonReply platform
    some (if replyArrives then reply else { reply with json := none })

/-- `ARTIFACT_SCANNER_MAX_BYTES`. -/
def artifactScannerMaxBytes : Nat := 10 * 1024 * 1024

def artifactScannerContractVersion : JsText :=
  ofString "2026-07-11.authoritative-clamav.v0"

def classifications : List JsText :=
  ["public_derived", "tenant_confidential", "user_private"].map ofString

def kinds : List JsText :=
  ["artifact", "memory"].map ofString

def opaqueText (value : JsText) (maxLength : Nat) : Bool :=
  0 < value.length && value.length ≤ maxLength && !JsText.hasControlCharacter value

def opaqueMember (value : JsonValue) (key : String) (maxLength : Nat) : Option JsText :=
  (stringMember value key).filter fun text => opaqueText text maxLength

def validScanTimestamp (value : JsText) : Bool :=
  (platform.parseDate value).isSome

/-- The hash of bytes as hexadecimal digits. -/
def sha256Hex (bytes : List UInt8) : JsText :=
  ofString (JsString.hex (platform.sha256 bytes))

def authenticated (provided : Option JsText) (expected : JsText) : Bool :=
  match provided with
  | none => false
  | some provided =>
    32 ≤ expected.length && 0 < provided.length &&
      platform.sha256 (JsText.encode provided) = platform.sha256 (JsText.encode expected)

/-- The verdict of a scan; the reason of an unsafe one is always the same. -/
structure ParsedVerdict where
  clean : Bool
  engine : JsText
  scannedAt : JsText
  signatureVersion : JsText

/-- The checks that bridge and worker make of a verdict. -/
def parseVerdict (value : JsonValue) : Option ParsedVerdict := do
  let status ← stringMember value "status"
  if status ≠ ofString "clean" ∧ status ≠ ofString "unsafe" then
    none
  else
    let engine ← opaqueMember value "engine" 128
    let signatureVersion ← opaqueMember value "signature_version" 256
    let scannedAt ← (stringMember value "scanned_at").filter (validScanTimestamp platform)
    if status = ofString "unsafe" then
      let reason ← stringMember value "reason_code"
      if reason = ofString "malware_detected" then
        some { clean := false, engine, scannedAt, signatureVersion }
      else
        none
    else if (member value "reason_code").isNone then
      some { clean := true, engine, scannedAt, signatureVersion }
    else
      none

def parseScannerResponse (value : JsonValue) : Option JsonValue :=
  (parseVerdict platform value).map fun _ => value

structure BridgeSurroundings where
  sharedKey : JsText
  firstScan : ScannerFetch
  /-- The status of each request for the health of the scanner; none where it fails. -/
  health : Nat → Option Nat
  secondScan : ScannerFetch

def jsonError (status : Nat) (code message : String) : JsonReply where
  status := status
  contentType := some (ofString "application/json")
  json := some (.object [(ofString "error",
    .object [textField "code" (ofString code),
      textField "message" (ofString message)])])

def scannerUnavailable : JsonReply :=
  jsonError 503 "SCANNER_UNAVAILABLE" "authoritative scanner is unavailable"

def declaresTooMuch (request : Http.Request) : Bool :=
  let contentLength := Http.declaredLength request
  contentLength.isFinite && JsNumber.lt (.ofNat artifactScannerMaxBytes) contentLength

/-- `request.arrayBuffer()`; none where the stream of the body fails. -/
def arrayBuffer (request : Http.Request) : Option (List UInt8) :=
  match request.body with
  | none => some []
  | some body => if body.failed then none else some body.chunks.flatten

def headerText (request : Http.Request) (name : String) : JsText :=
  (request.headers.get name).getD []

def claimedHash (sharedKey : JsText) (request : Http.Request) : Except JsonReply JsText :=
  let hash := headerText request "x-aiphabee-content-sha256"
  if request.url.pathname ≠ "/internal/artifact-scan" then
    .error (jsonError 404 "NOT_FOUND" "route not found")
  else if request.method ≠ "POST" then
    .error (jsonError 405 "METHOD_NOT_ALLOWED" "POST is required")
  else if !authenticated platform (request.headers.get "x-aiphabee-scanner-key") sharedKey then
    .error (jsonError 401 "SCANNER_AUTH_REJECTED" "scanner authorization rejected")
  else if request.headers.get "x-aiphabee-scanner-contract" ≠
      some artifactScannerContractVersion then
    .error (jsonError 400 "SCANNER_CONTRACT_MISMATCH" "scanner contract is invalid")
  else if !(classifications.contains (headerText request "x-aiphabee-classification")) ||
      !(kinds.contains (headerText request "x-aiphabee-kind")) then
    .error (jsonError 400 "INVALID_SCAN_METADATA" "scanner metadata is invalid")
  else if !isHash hash || !opaqueText (headerText request "x-aiphabee-content-type") 255 then
    .error (jsonError 400 "INVALID_SCAN_METADATA" "scanner metadata is invalid")
  else if declaresTooMuch request then
    .error (jsonError 413 "SCAN_PAYLOAD_TOO_LARGE" "scan payload exceeds maximum size")
  else
    .ok hash

/-- The checks of a body against its limit and the hash that was claimed for it. -/
def checkPayload (hash : JsText) (bytes : List UInt8) : Except JsonReply Unit :=
  if bytes.length = 0 then
    .error (jsonError 400 "EMPTY_SCAN_PAYLOAD" "scan payload is empty")
  else if artifactScannerMaxBytes < bytes.length then
    .error (jsonError 413 "SCAN_PAYLOAD_TOO_LARGE" "scan payload exceeds maximum size")
  else if sha256Hex platform bytes ≠ hash then
    .error (jsonError 409 "SCAN_HASH_MISMATCH" "scan payload hash does not match authority")
  else
    .ok ()

/-- The attempts to find the scanner healthy: whether one did before a request failed. -/
def awaitHealth (health : Nat → Option Nat) : (attempt remaining : Nat) → Option Bool
  | _, 0 => some false
  | attempt, remaining + 1 =>
    match health attempt with
    | none => none
    | some status =>
      if isOk status then some true else awaitHealth health (attempt + 1) remaining

def fetchVerdict (go : GoPlatform) (platform : JsPlatform) (surroundings : BridgeSurroundings)
    (payload : List UInt8) : Option JsonReply := do
  let upstream ← fetchScan go platform payload surroundings.firstScan
  if upstream.status = 503 then
    let ready ← awaitHealth surroundings.health 0 120
    if ready then fetchScan go platform payload surroundings.secondScan else none
  else
    some upstream

/-- The reply of the bridge; none where it throws, as on a body whose stream fails. -/
def handleArtifactScannerRequest (go : GoPlatform) (platform : JsPlatform)
    (surroundings : BridgeSurroundings) (request : Http.Request) : Option JsonReply :=
  match claimedHash platform surroundings.sharedKey request with
  | .error reply => some reply
  | .ok hash =>
    match arrayBuffer request with
    | none => none
    | some bytes =>
      match checkPayload platform hash bytes with
      | .error reply => some reply
      | .ok () =>
        match fetchVerdict go platform surroundings bytes with
        | none => some scannerUnavailable
        | some upstream =>
          if !upstream.isJson then
            some scannerUnavailable
          else
            match parseScannerResponse platform upstream.value with
            | none =>
              some (jsonError 502 "SCANNER_PROTOCOL_ERROR"
                "authoritative scanner response is invalid")
            | some result =>
              some {
                status := 200
                contentType := some (ofString "application/json")
                json := some result }

end Aiphabee.ArtifactScanner
