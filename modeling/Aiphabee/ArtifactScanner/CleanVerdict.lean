import Aiphabee.ArtifactScanner.FrameStream
import Aiphabee.ArtifactScanner.ServiceScanner

/-!
# Clean verdicts are sound

A clean verdict of the worker goes back, through both hops, to a stream that
held exactly the given bytes and that clamd answered with OK, under signatures
that were current, and the bytes have the given hash.
-/

namespace Aiphabee.ArtifactScanner

open JsText (ofString)
open JsonMembers Http
open SandboxAuth (JsonValue isHash fieldValue)

variable {platform : JsPlatform}

/-- A scan whose signatures were current, and whose stream of all the bytes was answered OK. -/
structure SoundScan
    (go : GoPlatform)
    (surroundings : ScanSurroundings)
    (bytes : List UInt8) : Prop where
  current : ∃ engine signatures,
    version go surroundings.versionConnection surroundings.now = .ok (engine, signatures) ∧
      signatureCurrent go signatures surroundings.now = true
  streamed : ∃ chunks,
    (scanStream surroundings.scanConnection surroundings.steps bytes).wire =
        instreamCommand ++ Frames.encodeFrames chunks ++ Frames.endFrame ∧
      Frames.decodeFrames (Frames.encodeFrames chunks ++ Frames.endFrame) = some (bytes, [])
  answered : ∃ reply,
    readNullTerminated surroundings.scanConnection.reply = .ok reply ∧
      GoString.trimSpace reply = GoString.ofString "stream: OK"

def ScannerFetch.scans : ScannerFetch → List ScanSurroundings
  | .reached surroundings _ => [surroundings]
  | _ => []

def BridgeFetch.scans : BridgeFetch → List ScanSurroundings
  | .reached surroundings _ _ _ => surroundings.firstScan.scans ++ surroundings.secondScan.scans
  | _ => []

structure CleanEvidence
    (go : GoPlatform)
    (platform : JsPlatform)
    (input : ScanInput)
    (service : BridgeFetch) : Prop where
  hashed : sha256Hex platform input.bytes = input.contentHashSha256
  scanned : ∃ surroundings ∈ service.scans, SoundScan go surroundings input.bytes

theorem signatureCurrent_of_version {go : GoPlatform} {connection : Connection} {now : Int}
    {engine signatures : GoString} (h : version go connection now = .ok (engine, signatures)) :
    signatureCurrent go signatures now = true := by
  unfold version at h
  cases hcommand : command connection versionCommand with
  | error error => simp [hcommand, bind, Except.bind] at h
  | ok response =>
    cases hparsed : parseVersion response with
    | error error => simp [hcommand, hparsed, bind, Except.bind] at h
    | ok parsed =>
      simp only [hcommand, hparsed, bind, Except.bind] at h
      split at h
      · next hcurrent =>
          obtain rfl := Except.ok.inj h
          exact hcurrent
      · cases h

theorem interpretScanResult_clean {reply : GoString} (h : interpretScanResult reply = .ok true) :
    GoString.trimSpace reply = GoString.ofString "stream: OK" := by
  unfold interpretScanResult at h
  dsimp only at h
  split at h
  · assumption
  · split at h <;> cases h

theorem scanStream_answered {connection : Connection} {steps : List ReadStep} {bytes : List UInt8}
    {reply : GoString} (h : (scanStream connection steps bytes).outcome = .ok reply) :
    (∃ chunks,
      (scanStream connection steps bytes).wire =
          instreamCommand ++ Frames.encodeFrames chunks ++ Frames.endFrame ∧
        Frames.decodeFrames (Frames.encodeFrames chunks ++ Frames.endFrame) = some (bytes, [])) ∧
      readNullTerminated connection.reply = .ok reply := by
  obtain ⟨chunks, hstream⟩ := scanStream_spec connection steps bytes
  obtain ⟨hbody, hwire, hreply⟩ := hstream.answered reply h
  have hdecodes := hstream.decodes
  rw [hbody] at hdecodes
  exact ⟨⟨chunks, hwire, hdecodes⟩, hreply⟩

theorem scan_cases (go : GoPlatform) (surroundings : ScanSurroundings) (contentType : String)
    (bytes : List UInt8) :
    let reply := scan go surroundings contentType bytes
    isOk reply.status = false ∨ reply.payload = none ∨
      ∃ response, reply.payload = some response ∧
        (response.status = "unsafe" ∨
          (response.status = "clean" ∧ SoundScan go surroundings bytes)) := by
  unfold scan
  dsimp only
  split
  · exact .inl rfl
  split
  · exact .inr (.inl rfl)
  cases hversion : version go surroundings.versionConnection surroundings.now with
  | error error => exact .inl rfl
  | ok names =>
    obtain ⟨engine, signatures⟩ := names
    dsimp only
    cases hstream : (scanStream surroundings.scanConnection surroundings.steps bytes).outcome with
    | error error => cases error <;> exact .inl rfl
    | ok result =>
      dsimp only
      cases hverdict : interpretScanResult result with
      | error error => exact .inl rfl
      | ok clean =>
        refine .inr (.inr ⟨_, rfl, ?_⟩)
        cases clean with
        | false => exact .inl rfl
        | true =>
          obtain ⟨hframes, hreply⟩ := scanStream_answered hstream
          exact .inr ⟨rfl, {
            current := ⟨engine, signatures, hversion, signatureCurrent_of_version hversion⟩
            streamed := hframes
            answered := ⟨result, hreply, interpretScanResult_clean hverdict⟩ }⟩

/-- A body within the limit is not too large for a scan. -/
theorem scan_status_of_length_le (go : GoPlatform) (surroundings : ScanSurroundings)
    (contentType : String) {bytes : List UInt8} (h : bytes.length ≤ maxScanBytes) :
    (scan go surroundings contentType bytes).status ≠ 413 := by
  obtain ⟨_, hstream⟩ := scanStream_spec surroundings.scanConnection surroundings.steps bytes
  have hbounded := hstream.bounded h
  unfold scan
  dsimp only
  split
  · simp
  split
  · simp
  cases version go surroundings.versionConnection surroundings.now with
  | error error => simp
  | ok names =>
    dsimp only
    cases houtcome : (scanStream surroundings.scanConnection surroundings.steps bytes).outcome with
    | error error =>
      cases error with
      | maxBytes => exact absurd houtcome hbounded
      | other => simp
    | ok result =>
      dsimp only
      cases interpretScanResult result <;> simp

theorem toJson_status (platform : JsPlatform) (response : ScanResponse) :
    stringMember (response.toJson platform) "status" = some (ofString response.status) := by
  have hengine : ofString "engine" ≠ ofString "status" := by decide
  have hreason : ofString "reason_code" ≠ ofString "status" := by decide
  have hat : ofString "scanned_at" ≠ ofString "status" := by decide
  have hversion : ofString "signature_version" ≠ ofString "status" := by decide
  by_cases hempty : response.reasonCode = "" <;>
    simp [stringMember, member, fieldValue, ScanResponse.toJson, textField, hempty, hengine,
      hreason, hat, hversion]

section BridgeSide

variable {verdict : ParsedVerdict}

theorem status_of_parseVerdict {value : JsonValue} (h : parseVerdict platform value = some verdict)
    (hclean : verdict.clean = true) :
    stringMember value "status" = some (ofString "clean") := by
  unfold parseVerdict at h
  cases hstatus : stringMember value "status" with
  | none => simp [hstatus] at h
  | some status =>
    simp only [hstatus, Option.bind_eq_bind, Option.bind_some] at h
    split at h
    · cases h
    · next hknown =>
        by_cases hflagged : status = ofString "unsafe"
        · simp only [if_pos hflagged, Option.bind_eq_some_iff] at h
          obtain ⟨engine, -, signatureVersion, -, scannedAt, -, reason, -, hverdict⟩ := h
          split at hverdict
          · obtain rfl := Option.some.inj hverdict
            cases hclean
          · cases hverdict
        · by_cases hother : status = ofString "clean"
          · rw [hother]
          · exact absurd ⟨hother, hflagged⟩ hknown

variable {reply : JsonReply}
variable {go : GoPlatform}

theorem fetchScan_clean {payload : List UInt8} {fetch : ScannerFetch}
    (hreply : fetchScan go platform payload fetch = some reply) (hjson : reply.isJson = true)
    (hparsed : parseVerdict platform reply.value = some verdict) (hclean : verdict.clean = true) :
    ∃ surroundings ∈ fetch.scans, SoundScan go surroundings payload := by
  have hok : isOk reply.status = true := (Bool.and_eq_true_iff.mp hjson).1
  have hstatus := status_of_parseVerdict hparsed hclean
  cases fetch with
  | threw => cases hreply
  | refused refusal =>
    obtain rfl := Option.some.inj hreply
    exact absurd hok (by rw [refusal.notOk]; exact Bool.false_ne_true)
  | reached surroundings replyArrives =>
    refine ⟨surroundings, List.mem_singleton_self _, ?_⟩
    obtain rfl := Option.some.inj hreply
    cases replyArrives with
    | false => simp [JsonReply.value, stringMember, member] at hstatus
    | true =>
      have hcases := scan_cases go surroundings "application/octet-stream" payload
      simp only [if_true, JsonReply.value, ScannerReply.toJsonReply] at hok hstatus
      rcases hcases with hbad | hnone | ⟨response, hpayload, hverdict⟩
      · rw [hbad] at hok
        cases hok
      · rw [hnone] at hstatus
        simp [stringMember, member] at hstatus
      · rw [hpayload, Option.map_some, Option.getD_some, toJson_status] at hstatus
        rcases hverdict with hflagged | ⟨_, hsound⟩
        · rw [hflagged] at hstatus
          exact absurd hstatus (by decide)
        · exact hsound

variable {surroundings : BridgeSurroundings}

theorem fetchVerdict_clean {payload : List UInt8}
    (hreply : fetchVerdict go platform surroundings payload = some reply)
    (hjson : reply.isJson = true) (hparsed : parseVerdict platform reply.value = some verdict)
    (hclean : verdict.clean = true) :
    ∃ scan ∈ surroundings.firstScan.scans ++ surroundings.secondScan.scans,
      SoundScan go scan payload := by
  unfold fetchVerdict at hreply
  cases hfirst : fetchScan go platform payload surroundings.firstScan with
  | none => simp [hfirst] at hreply
  | some upstream =>
    simp only [hfirst, Option.bind_eq_bind, Option.bind_some] at hreply
    split at hreply
    · -- The scanner was not ready, and was asked again.
      cases hready : awaitHealth surroundings.health 0 120 with
      | none => simp [hready] at hreply
      | some ready =>
        cases ready with
        | false => simp [hready] at hreply
        | true =>
          simp only [hready, Option.bind_some, if_true] at hreply
          obtain ⟨scan, hscan, hsound⟩ := fetchScan_clean hreply hjson hparsed hclean
          exact ⟨scan, List.mem_append_right _ hscan, hsound⟩
    · obtain rfl := Option.some.inj hreply
      obtain ⟨scan, hscan, hsound⟩ := fetchScan_clean hfirst hjson hparsed hclean
      exact ⟨scan, List.mem_append_left _ hscan, hsound⟩

theorem checkPayload_ok {hash : JsText} {bytes : List UInt8}
    (h : checkPayload platform hash bytes = .ok ()) :
    bytes.length ≤ maxScanBytes ∧ sha256Hex platform bytes = hash := by
  unfold checkPayload at h
  split at h
  · cases h
  split at h
  · cases h
  split at h
  · cases h
  · next hsize hhash => exact ⟨not_lt.mp hsize, not_not.mp hhash⟩

/-- The bridge passes on no error before its scan as a success. -/
theorem claimedHash_error {sharedKey : JsText} {request : Request}
    (h : claimedHash platform sharedKey request = .error reply) : isOk reply.status = false := by
  unfold claimedHash at h
  dsimp only at h
  repeat' split at h
  all_goals cases h
  all_goals rfl

theorem checkPayload_error {hash : JsText} {bytes : List UInt8}
    (h : checkPayload platform hash bytes = .error reply) : isOk reply.status = false := by
  unfold checkPayload at h
  repeat' split at h
  all_goals cases h
  all_goals rfl

theorem not_isJson (h : isOk reply.status = false) : reply.isJson = false := by
  rw [JsonReply.isJson, h, Bool.false_and]

theorem handleArtifactScannerRequest_clean {request : Request}
    (hreply : handleArtifactScannerRequest go platform surroundings request = some reply)
    (hjson : reply.isJson = true) (hparsed : parseVerdict platform reply.value = some verdict)
    (hclean : verdict.clean = true) :
    ∃ hash bytes,
      claimedHash platform surroundings.sharedKey request = .ok hash ∧
        arrayBuffer request = some bytes ∧
        sha256Hex platform bytes = hash ∧
        ∃ scan ∈ surroundings.firstScan.scans ++ surroundings.secondScan.scans,
          SoundScan go scan bytes := by
  have hnoError : isOk reply.status ≠ false := fun hbad => by
    rw [not_isJson hbad] at hjson
    cases hjson
  unfold handleArtifactScannerRequest at hreply
  cases hhash : claimedHash platform surroundings.sharedKey request with
  | error failure =>
    simp only [hhash, Option.some.injEq] at hreply
    exact absurd (hreply ▸ claimedHash_error hhash) hnoError
  | ok hash =>
    cases hbytes : arrayBuffer request with
    | none => simp [hhash, hbytes] at hreply
    | some bytes =>
      cases hchecked : checkPayload platform hash bytes with
      | error failure =>
        simp only [hhash, hbytes, hchecked, Option.some.injEq] at hreply
        exact absurd (hreply ▸ checkPayload_error hchecked) hnoError
      | ok _ =>
        simp only [hhash, hbytes, hchecked] at hreply
        cases hupstream : fetchVerdict go platform surroundings bytes with
        | none =>
          simp only [hupstream, Option.some.injEq] at hreply
          exact absurd (hreply ▸ rfl) hnoError
        | some upstream =>
          simp only [hupstream] at hreply
          split at hreply
          · obtain rfl := Option.some.inj hreply
            exact absurd rfl hnoError
          · next hupstreamJson =>
              rw [Bool.not_eq_true, Bool.not_eq_false'] at hupstreamJson
              cases hresult : parseScannerResponse platform upstream.value with
              | none =>
                simp only [hresult, Option.some.injEq] at hreply
                exact absurd (hreply ▸ rfl) hnoError
              | some result =>
                simp only [hresult, Option.some.injEq] at hreply
                obtain ⟨parsed, -, hsame⟩ := Option.map_eq_some_iff.mp hresult
                rw [← hreply] at hparsed
                have hparsed' : parseVerdict platform upstream.value = some verdict := by
                  rw [hsame]
                  exact hparsed
                exact ⟨hash, bytes, rfl, rfl, (checkPayload_ok hchecked).2,
                  fetchVerdict_clean hupstream hupstreamJson hparsed' hclean⟩

end BridgeSide

section WorkerSide

theorem headerValue_of_isHash {hash : JsText} (h : isHash hash = true) :
    headerValue hash = some hash := by
  obtain ⟨hlength, hall⟩ := Bool.and_eq_true_iff.mp h
  have hunits : ∀ u ∈ hash,
      (97 ≤ u.toNat ∧ u.toNat ≤ 102) ∨ (48 ≤ u.toNat ∧ u.toNat ≤ 57) := by
    intro u hu
    simpa using List.all_eq_true.mp hall u hu
  have hspaces : ∀ u ∈ hash, isHeaderSpace u = false := by
    intro u hu
    have hunit := hunits u hu
    simp only [isHeaderSpace, Bool.or_eq_false_iff, decide_eq_false_iff_not]
    omega
  have hdrop (text : JsText) (htext : ∀ u ∈ text, u ∈ hash) :
      text.dropWhile isHeaderSpace = text := by
    cases text with
    | nil => rfl
    | cons first rest =>
      exact List.dropWhile_cons_of_neg (by
        rw [hspaces first (htext first List.mem_cons_self)]
        exact Bool.false_ne_true)
  have hstripped :
      ((hash.dropWhile isHeaderSpace).reverse.dropWhile isHeaderSpace).reverse =
        hash := by
    rw [hdrop hash fun _ hu => hu, hdrop hash.reverse fun _ hu => List.mem_reverse.mp hu,
      List.reverse_reverse]
  have hbytes : hash.all (fun u => u.toNat ≤ 0xFF) = true := by
    refine List.all_eq_true.mpr fun u hu => decide_eq_true ?_
    have hunit := hunits u hu
    omega
  have hvalid : hash.all
      (fun u => !(u.toNat = 0x00 || u.toNat = 0x0A || u.toNat = 0x0D)) = true := by
    refine List.all_eq_true.mpr fun u hu => ?_
    have hunit := hunits u hu
    simp only [Bool.not_eq_true', Bool.or_eq_false_iff, decide_eq_false_iff_not]
    omega
  rw [headerValue, hstripped, hbytes, hvalid]
  rfl

variable {scanner : ServiceBindingFastClawArtifactScanner}
variable {input : ScanInput}

theorem headerText_scanRequest {headers : Headers}
    (hhash : isHash input.contentHashSha256 = true)
    (hheaders : Headers.ofRecord (scanHeaders scanner input) = some headers)
    (payload : List UInt8) (contentLength : Option JsText) (bodyFails : Bool) :
    headerText (scanRequest headers payload contentLength bodyFails)
      "x-aiphabee-content-sha256" = input.contentHashSha256 := by
  have hstored := Headers.ofRecord_get hheaders
    (show _ = [("x-aiphabee-content-sha256", input.contentHashSha256)] by simp [scanHeaders])
  rw [headerValue_of_isHash hhash] at hstored
  have hlength : (contentLength.map fun length => ("content-length", length)).toList.filter
      (fun header => header.1 = "x-aiphabee-content-sha256") = [] := by
    cases contentLength <;> simp
  have hget : Headers.get
      (headers ++ (contentLength.map fun length => ("content-length", length)).toList)
      "x-aiphabee-content-sha256" = headers.get "x-aiphabee-content-sha256" := by
    rw [Headers.get, List.filter_append, hlength, List.append_nil, ← Headers.get]
  rw [headerText, scanRequest, hget, hstored, Option.getD_some]

theorem claimedHash_ok {sharedKey : JsText} {request : Request} {hash : JsText}
    (h : claimedHash platform sharedKey request = .ok hash) :
    hash = headerText request "x-aiphabee-content-sha256" := by
  unfold claimedHash at h
  dsimp only at h
  repeat' split at h
  all_goals cases h
  rfl

theorem fetchBridge_clean {go : GoPlatform} {headers : Headers} {service : BridgeFetch}
    {response : JsonReply} {verdict : ParsedVerdict} (hhash : isHash input.contentHashSha256 = true)
    (hheaders : Headers.ofRecord (scanHeaders scanner input) = some headers)
    (hresponse : fetchBridge go platform headers input.bytes service = some response)
    (hjson : response.isJson = true) (hparsed : parseVerdict platform response.value = some verdict)
    (hclean : verdict.clean = true) : CleanEvidence go platform input service := by
  cases service with
  | threw => cases hresponse
  | refused refusal =>
    obtain rfl := Option.some.inj hresponse
    rw [not_isJson refusal.notOk] at hjson
    cases hjson
  | reached surroundings contentLength bodyFails replyArrives =>
    obtain ⟨reply, hreply, hpassed⟩ := Option.map_eq_some_iff.mp hresponse
    cases replyArrives with
    | false =>
      have hstatus := status_of_parseVerdict hparsed hclean
      rw [← hpassed] at hstatus
      simp [JsonReply.value, stringMember, member] at hstatus
    | true =>
      rw [if_pos rfl] at hpassed
      obtain rfl := hpassed
      obtain ⟨hash, bytes, hclaimed, hbytes, hsame, hscan⟩ :=
        handleArtifactScannerRequest_clean hreply hjson hparsed hclean
      have hgiven : hash = input.contentHashSha256 :=
        (claimedHash_ok hclaimed).trans
          (headerText_scanRequest hhash hheaders input.bytes contentLength bodyFails)
      have hpayload : bytes = input.bytes := by
        cases bodyFails with
        | true => simp [arrayBuffer, scanRequest] at hbytes
        | false => simpa [arrayBuffer, scanRequest] using hbytes.symm
      subst hpayload
      exact { hashed := hsame.trans hgiven, scanned := hscan }

theorem scan_clean {go : GoPlatform} {service : BridgeFetch}
    {classification engine scannedAt signatureVersion : JsText}
    (h : scanner.scan go platform input service =
      .ok (.clean classification engine scannedAt signatureVersion)) :
    classification = input.classification ∧ CleanEvidence go platform input service := by
  unfold ServiceBindingFastClawArtifactScanner.scan at h
  split at h
  · cases h
  · next hhash =>
      rw [Bool.not_eq_true, Bool.not_eq_false'] at hhash
      cases hheaders : Headers.ofRecord (scanHeaders scanner input) with
      | none => simp [hheaders] at h
      | some headers =>
        cases hresponse : fetchBridge go platform headers input.bytes service with
        | none => simp [hheaders, hresponse] at h
        | some response =>
          simp only [hheaders, hresponse] at h
          split at h
          · cases h
          · next hjson =>
              rw [Bool.not_eq_true, Bool.not_eq_false'] at hjson
              cases hverdict : parseVerdict platform response.value with
              | none => simp [hverdict] at h
              | some verdict =>
                simp only [hverdict, Except.ok.injEq] at h
                have hclean : verdict.clean = true := by
                  by_contra hnot
                  simp [ParsedVerdict.result, hnot] at h
                simp only [ParsedVerdict.result, hclean, if_true,
                  ScanResult.clean.injEq] at h
                exact ⟨h.1.symm,
                  fetchBridge_clean hhash hheaders hresponse hjson hverdict hclean⟩

end WorkerSide

inductive OutcomeOf
    (go : GoPlatform)
    (platform : JsPlatform)
    (input : ScanInput)
    (service : BridgeFetch) : Except ScanFailure ScanResult → Prop
  | failed (failure : ScanFailure) : OutcomeOf go platform input service (.error failure)
  | foundUnsafe (engine scannedAt signatureVersion : JsText) :
      OutcomeOf go platform input service
        (.ok (.unsafePayload (ofString "malware_detected") engine scannedAt
          signatureVersion))
  | foundClean
      (engine scannedAt signatureVersion : JsText)
      (evidence : CleanEvidence go platform input service) :
      OutcomeOf go platform input service
        (.ok (.clean input.classification engine scannedAt signatureVersion))

theorem scan_unsafe {go : GoPlatform} {platform : JsPlatform}
    {scanner : ServiceBindingFastClawArtifactScanner} {input : ScanInput} {service : BridgeFetch}
    {reasonCode engine scannedAt signatureVersion : JsText}
    (h : scanner.scan go platform input service =
      .ok (.unsafePayload reasonCode engine scannedAt signatureVersion)) :
    reasonCode = ofString "malware_detected" := by
  unfold ServiceBindingFastClawArtifactScanner.scan at h
  repeat' split at h
  all_goals try cases h
  next verdict _ =>
    simp only [ParsedVerdict.result, Except.ok.injEq] at h
    split at h
    · cases h
    · injection h with hreason
      exact hreason.symm

/--
Clean verdicts are sound: every stream carries the frames of exactly what it
read, no payload that the bridge admits is too large for the scanner, and every
outcome of the worker's scan is an error, an unsafe verdict, or a clean one with
its evidence.
-/
theorem clean_verdicts_sound (go : GoPlatform) (platform : JsPlatform)
    (scanner : ServiceBindingFastClawArtifactScanner) (input : ScanInput) (service : BridgeFetch)
    (connection : Connection) (steps : List ReadStep) (source : List UInt8) :
    (∃ chunks, StreamOf connection source (scanStream connection steps source) chunks) ∧
      (∀ hash, checkPayload platform hash source = .ok () →
        source.length ≤ maxScanBytes ∧
          ∀ surroundings,
            (scan go surroundings "application/octet-stream" source).status ≠ 413) ∧
      OutcomeOf go platform input service (scanner.scan go platform input service) := by
  refine ⟨scanStream_spec connection steps source, fun hash hchecked => ?_, ?_⟩
  · have hsize := (checkPayload_ok hchecked).1
    exact ⟨hsize, fun surroundings => scan_status_of_length_le go surroundings _ hsize⟩
  · rcases houtcome : scanner.scan go platform input service with failure | result
    · exact .failed failure
    · cases result with
      | clean classification engine scannedAt signatureVersion =>
        obtain ⟨rfl, hevidence⟩ := scan_clean houtcome
        exact .foundClean engine scannedAt signatureVersion hevidence
      | unsafePayload reasonCode engine scannedAt signatureVersion =>
        obtain rfl := scan_unsafe houtcome
        exact .foundUnsafe engine scannedAt signatureVersion

end Aiphabee.ArtifactScanner
