import Aiphabee.ArtifactScanner.Bridge

/-!
# The scanner of the worker

The worker sends a payload with its hash to the bridge, and takes a verdict only
from a reply that is a success and well formed; everything else is an error.
-/

namespace Aiphabee.ArtifactScanner

open JsonMembers
open SandboxAuth (JsonValue isHash)

inductive FastClawArtifactScannerErrorCode
  | invalidConfig
  | scanRejected
  | scannerProtocolError

inductive ScanFailure
  | scannerError (code : FastClawArtifactScannerErrorCode) (detail : String)
  | requestFailed

structure ScanInput where
  bytes : List UInt8
  classification : JsText
  contentHashSha256 : JsText
  contentType : JsText
  kind : JsText

inductive ScanResult
  | clean (classification engine scannedAt signatureVersion : JsText)
  | unsafePayload (reasonCode engine scannedAt signatureVersion : JsText)

structure ServiceBindingFastClawArtifactScanner where
  sharedKey : JsText
  long : 32 ≤ sharedKey.length

/-- The constructor. -/
def ServiceBindingFastClawArtifactScanner.new (sharedKey : JsText) :
    Except ScanFailure ServiceBindingFastClawArtifactScanner :=
  if long : 32 ≤ sharedKey.length then
    .ok { sharedKey, long }
  else
    .error (.scannerError .invalidConfig "INVALID_CONFIG")

inductive BridgeFetch
  | threw
  | refused (refusal : Refusal)
  /-- The request arrives, with the headers that the way adds, and its body in chunks. -/
  | reached
      (surroundings : BridgeSurroundings)
      (contentLength : Option JsText)
      (bodyFails replyArrives : Bool)

/-- The headers of a request to the bridge. -/
def scanHeaders (scanner : ServiceBindingFastClawArtifactScanner) (input : ScanInput) :
    List (String × JsText) :=
  [("content-type", JsText.ofString "application/octet-stream"),
    ("x-aiphabee-classification", input.classification),
    ("x-aiphabee-content-sha256", input.contentHashSha256),
    ("x-aiphabee-content-type", input.contentType),
    ("x-aiphabee-kind", input.kind),
    ("x-aiphabee-scanner-contract", artifactScannerContractVersion),
    ("x-aiphabee-scanner-key", scanner.sharedKey)]

def scanRequest (headers : Http.Headers) (payload : List UInt8) (contentLength : Option JsText)
    (bodyFails : Bool) : Http.Request where
  method := "POST"
  url := {
    protocol := "https:", hostname := "sandbox-bridge", port := ""
    pathname := "/internal/artifact-scan", search := "", hash := "" }
  headers := headers ++ (contentLength.map fun length => ("content-length", length)).toList
  body := some { chunks := [payload], failed := bodyFails }

def fetchBridge (go : GoPlatform) (platform : JsPlatform) (headers : Http.Headers)
    (payload : List UInt8) : BridgeFetch → Option JsonReply
  | .threw => none
  | .refused refusal => some refusal.reply
  | .reached surroundings contentLength bodyFails replyArrives =>
    (handleArtifactScannerRequest go platform surroundings
      (scanRequest headers payload contentLength bodyFails)).map fun reply =>
        if replyArrives then reply else { reply with json := none }

/-- The pattern `^[A-Z0-9_]{1,120}$`. -/
def isProviderCode (code : JsText) : Bool :=
  1 ≤ code.length && code.length ≤ 120 &&
    code.all fun u =>
      (65 ≤ u.toNat && u.toNat ≤ 90) || (48 ≤ u.toNat && u.toNat ≤ 57) || u.toNat = 95

/-- The code that a rejection shows of its body. -/
def safeProviderCode (rejected : JsonValue) : String :=
  match (member rejected "error").bind fun error => stringMember error "code" with
  | some code =>
    if isProviderCode code then
      String.ofList (code.map fun u => Char.ofNat u.toNat)
    else
      "UNCLASSIFIED"
  | none => "UNCLASSIFIED"

def scannerProtocolError : ScanFailure :=
  .scannerError .scannerProtocolError "SCANNER_PROTOCOL_ERROR"

def ParsedVerdict.result (verdict : ParsedVerdict) (input : ScanInput) : ScanResult :=
  if verdict.clean then
    .clean input.classification verdict.engine verdict.scannedAt verdict.signatureVersion
  else
    .unsafePayload (JsText.ofString "malware_detected") verdict.engine verdict.scannedAt
      verdict.signatureVersion

def ServiceBindingFastClawArtifactScanner.scan (go : GoPlatform) (platform : JsPlatform)
    (scanner : ServiceBindingFastClawArtifactScanner) (input : ScanInput) (service : BridgeFetch) :
    Except ScanFailure ScanResult :=
  if !isHash input.contentHashSha256 then
    .error scannerProtocolError
  else
    match Http.Headers.ofRecord (scanHeaders scanner input) with
    | none => .error .requestFailed
    | some headers =>
      match fetchBridge go platform headers input.bytes service with
      | none => .error .requestFailed
      | some response =>
        if !response.isJson then
          .error (.scannerError .scanRejected
            s!"SCAN_REJECTED_{response.status}_{safeProviderCode response.value}")
        else
          match parseVerdict platform response.value with
          | none => .error scannerProtocolError
          | some verdict => .ok (verdict.result input)

end Aiphabee.ArtifactScanner
