import Mathlib.Data.List.DropRight
import Aiphabee.IpoPublic.ReconciliationSoundness
import Aiphabee.Store.InsertionMap

/-!
# Plans for the snapshots of public IPO pages

A capture run reads the two pages by itself, makes its own packet of what it saw
and fetches every requested page once more, of which it keeps the length and the
hash.  A storage run makes a capture plan of its own and gives every capture the
key of an object, an envelope and, for every object, a plan to write it.
-/

namespace Aiphabee.IpoPublic

open JsText (ofString)
open StableJson

/-- The address that the contract gives for a source. -/
def SourceId.entryUrl : SourceId → JsText
  | .aastocksIpoPlus =>
    ofString "https://www.aastocks.com/en/stocks/market/ipo/mainpage.aspx"
  | .vbkrHkIpo => ofString "https://www.vbkr.com/ipo/hk/v2/ipo-hk-index"

structure LiveRun where
  payload : AdapterPayload
  page : SourceId → JsText
  located : ∀ observation ∈ payload.observations,
    observation.sourceUrl = observation.sourceId.entryUrl

structure FetchResponse where
  contentType : JsText
  fetchedAt : JsText
  statusCode : Nat
  text : JsText

structure CaptureRun where
  live : LiveRun
  fetchText : SourceId → JsText → FetchResponse

structure SnapshotPlatform extends Platform where
  isoDate : JsText → Option JsText

/-- `Buffer.byteLength(text, "utf8")`. -/
def byteLength (text : JsText) : Nat :=
  (JsText.encode text).length

/-- `prefixedHash("sha256", text)`. -/
def textHash (platform : Platform) (text : JsText) : JsText :=
  ofString "sha256:" ++ platform.stableHash (.string text)

section Captures

variable (platform : Platform)

structure RawSnapshotCapture where
  capturedAt : JsText
  contentType : JsText
  httpStatusCode : Nat
  payloadBytes : Nat
  payloadHash : Option JsText
  provider : JsText
  rawSnapshotCaptureId : JsText
  rawSnapshotId : JsText
  rawSnapshotRequestId : JsText
  readyForExternalSnapshotStore : Bool
  securityCode : JsText
  sourceId : SourceId
  sourceRecordId : JsText
  sourceUrl : JsText

def rawSnapshotIdOf (requestId : JsText) : JsText :=
  ofString "raw_hk_ipo_public_" ++ (platform.stableHash (.string requestId)).take 24

def rawSnapshotCapture (response : FetchResponse) (request : RawSnapshotRequest) :
    RawSnapshotCapture :=
  let payloadHash :=
    if response.statusCode = 200 then some (textHash platform response.text) else none
  { capturedAt := response.fetchedAt
    contentType := response.contentType
    httpStatusCode := response.statusCode
    payloadBytes := byteLength response.text
    payloadHash := payloadHash
    provider := request.provider
    rawSnapshotCaptureId := ofString "rsc_hk_ipo_public_" ++
      (platform.stableHash (record
        [("payload_hash_sha256", .string (payloadHash.getD (ofString "missing"))),
          ("request_id", .string request.requestId)])).take 24
    rawSnapshotId := rawSnapshotIdOf platform request.requestId
    rawSnapshotRequestId := request.requestId
    readyForExternalSnapshotStore := response.statusCode = 200
    securityCode := request.securityCode
    sourceId := request.sourceId
    sourceRecordId := request.sourceRecordId
    sourceUrl := request.sourceUrl }

def buildCapturePlan (run : CaptureRun) : List RawSnapshotCapture :=
  (packetOf platform run.live.payload).rawSnapshotRequests.map fun request =>
    rawSnapshotCapture platform (run.fetchText request.sourceId request.sourceUrl) request

end Captures

/-- `toLowerCase` of a text of ASCII characters, which the names of the sources are. -/
def asciiLower (value : JsText) : JsText :=
  value.map fun unit => if 65 ≤ unit.toNat ∧ unit.toNat ≤ 90 then unit + 32 else unit

/-- The character is in `[a-z0-9._-]`. -/
def isKeyUnit (unit : UInt16) : Bool :=
  (97 ≤ unit.toNat && unit.toNat ≤ 122) || (48 ≤ unit.toNat && unit.toNat ≤ 57) ||
    unit == 46 || unit == 95 || unit == 45

/-- `replace(/[^a-z0-9._-]+/gu, "-")`, where `replaced` tells that a run of others is open. -/
def hyphenated (replaced : Bool) : JsText → JsText
  | [] => []
  | unit :: rest =>
    if isKeyUnit unit then unit :: hyphenated false rest
    else if replaced then hyphenated true rest
    else 45 :: hyphenated true rest

def safeKeyPart (value : JsText) : JsText :=
  let part := ((hyphenated false (asciiLower value)).dropWhile (· = 45)).rdropWhile (· = 45)
  if part = [] then ofString "unknown" else part

/-- `replace(/^sha256:/u, "")`. -/
def withoutHashPrefix (hash : JsText) : JsText :=
  if (ofString "sha256:").isPrefixOf hash then hash.drop 7 else hash

def objectKey (sourceId : SourceId) (date payloadHash : JsText) : JsText :=
  [47].intercalate
    [ofString "hk-ipo-public", ofString "raw-snapshots",
      safeKeyPart sourceId.text, date,
      withoutHashPrefix payloadHash ++ ofString ".html"]

section Storage

variable (platform : SnapshotPlatform)

/-- What a row of the database carries in place of a page. -/
structure PayloadEnvelope where
  bucketHint : JsText
  capturedAt : JsText
  contentType : JsText
  objectKey : JsText
  objectKeyHash : JsText
  payloadBytes : Nat
  payloadHash : Option JsText
  rawSnapshotCaptureId : JsText
  rawSnapshotRequestId : JsText
  sourceId : SourceId
  sourceRecordId : JsText
  sourceUrl : JsText

structure ObjectWritePlan where
  bucketHint : JsText
  contentType : JsText
  objectKey : JsText
  objectKeyHash : JsText
  payloadBytes : Nat
  payloadHash : Option JsText
  sourceId : SourceId
  sourceUrl : JsText

structure StorageRef where
  objectKey : JsText
  payloadEnvelope : PayloadEnvelope
  provider : JsText
  rawSnapshotCaptureId : JsText
  rawSnapshotId : JsText
  rawSnapshotRequestId : JsText
  sourceId : SourceId
  sourceRecordId : JsText
  sourceUrl : JsText

structure StoragePlan where
  rawSnapshotObjectWritePlans : List ObjectWritePlan
  rawSnapshotStorageRefs : List StorageRef
  payloadEnvelopeCount : Nat

/-- `storageContract.bucket_hint` of the contract. -/
def bucketHint : JsText :=
  ofString "aiphabee-artifacts"

/-- `prefixedHash("object_key", objectKey)`. -/
def keyHash (platform : Platform) (key : JsText) : JsText :=
  ofString "object_key:" ++ platform.stableHash (.string key)

variable (capture : RawSnapshotCapture)

def objectKeyFor : JsText :=
  objectKey capture.sourceId
    ((platform.isoDate capture.capturedAt).getD (ofString "unknown-date"))
    (capture.payloadHash.getD (ofString "missing"))

def payloadEnvelopeFor : PayloadEnvelope where
  bucketHint := bucketHint
  capturedAt := capture.capturedAt
  contentType := capture.contentType
  objectKey := objectKeyFor platform capture
  objectKeyHash := keyHash platform.toPlatform (objectKeyFor platform capture)
  payloadBytes := capture.payloadBytes
  payloadHash := capture.payloadHash
  rawSnapshotCaptureId := capture.rawSnapshotCaptureId
  rawSnapshotRequestId := capture.rawSnapshotRequestId
  sourceId := capture.sourceId
  sourceRecordId := capture.sourceRecordId
  sourceUrl := capture.sourceUrl

def objectWritePlan : ObjectWritePlan where
  bucketHint := bucketHint
  contentType := capture.contentType
  objectKey := objectKeyFor platform capture
  objectKeyHash := keyHash platform.toPlatform (objectKeyFor platform capture)
  payloadBytes := capture.payloadBytes
  payloadHash := capture.payloadHash
  sourceId := capture.sourceId
  sourceUrl := capture.sourceUrl

def storageRef : StorageRef where
  objectKey := objectKeyFor platform capture
  payloadEnvelope := payloadEnvelopeFor platform capture
  provider := capture.provider
  rawSnapshotCaptureId := capture.rawSnapshotCaptureId
  rawSnapshotId := capture.rawSnapshotId
  rawSnapshotRequestId := capture.rawSnapshotRequestId
  sourceId := capture.sourceId
  sourceRecordId := capture.sourceRecordId
  sourceUrl := capture.sourceUrl

def buildStoragePlan (captures : List RawSnapshotCapture) : StoragePlan where
  rawSnapshotObjectWritePlans :=
    ((InsertionMap.ofEntries (captures.map fun capture =>
        (objectKeyFor platform capture, objectWritePlan platform capture))).map
      Prod.snd).insertionSort
      fun left right => platform.localeOrder left.objectKey right.objectKey = true
  rawSnapshotStorageRefs := captures.map (storageRef platform)
  payloadEnvelopeCount := captures.length

def storagePlanOf (run : CaptureRun) : StoragePlan :=
  buildStoragePlan platform (buildCapturePlan platform.toPlatform run)

end Storage

section PlanFacts

variable {platform : SnapshotPlatform}
variable {run : CaptureRun}

theorem safeKeyPart_text (sourceId : SourceId) : safeKeyPart sourceId.text = sourceId.text := by
  cases sourceId <;> decide +kernel

/-- Objects of different sources have different keys. -/
theorem sourceId_of_objectKey {first second : SourceId} {date otherDate hash otherHash : JsText}
    (h : objectKey first date hash = objectKey second otherDate otherHash) : first = second := by
  simp only [objectKey, safeKeyPart_text, List.intercalate_cons_cons,
    List.append_cancel_left_eq, List.append_assoc] at h
  have hhead : ∀ (sourceId : SourceId) (rest : JsText),
      (sourceId.text ++ rest).head? = sourceId.text.head? := by
    intro sourceId rest
    refine List.head?_append_of_ne_nil _ ?_
    cases sourceId <;> decide +kernel
  have hfirst : first.text.head? = second.text.head? := by
    rw [← hhead first, h, hhead]
  cases first <;> cases second
  · rfl
  · exact absurd hfirst (by decide +kernel)
  · exact absurd hfirst (by decide +kernel)
  · rfl

theorem sourceUrl_of_request {platform : Platform} {live : LiveRun} {request : RawSnapshotRequest}
    (h : request ∈ (packetOf platform live.payload).rawSnapshotRequests) :
    request.sourceUrl = request.sourceId.entryUrl := by
  rw [packetOf, buildReconciliationPacket, buildRawSnapshotRequests,
    List.mem_insertionSort] at h
  obtain ⟨group, hgroup, hsome⟩ := List.mem_filterMap.mp h
  obtain ⟨first, hfirst, rfl⟩ := Option.map_eq_some_iff.mp hsome
  have hmem : first ∈ group.2 := List.mem_of_head? hfirst
  rw [(mem_grouped_iff.mp hgroup).2] at hmem
  exact live.located first (List.mem_filter.mp hmem).1

end PlanFacts

end Aiphabee.IpoPublic
