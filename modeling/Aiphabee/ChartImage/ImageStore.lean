import Aiphabee.Text.JsString
import Aiphabee.Transition.LabelledRuns

/-!
# The chart image store

An uploaded chart image is an object in one store and a record in another.  An
upload puts the object first and takes it back when the record cannot be
inserted; a removal deletes the object first and marks the record then.  The
operations run at the same time, one store call after the other, and a call
that fails may or may not have taken effect.
-/

namespace Aiphabee.ChartImage

open JsString (toLowerCase)

inductive ContentType
  | png
  | jpeg
  | webp
deriving DecidableEq

def ContentType.text : ContentType → String
  | .png => "image/png"
  | .jpeg => "image/jpeg"
  | .webp => "image/webp"

/-- `CHART_IMAGE_CONTENT_TYPES`. -/
def chartImageContentTypes : List ContentType := [.png, .jpeg, .webp]

/-- `CHART_IMAGE_MAX_BYTES`. -/
def chartImageMaxBytes : Nat := 5 * 1024 * 1024

def normalizeChartImageContentType (value : String) : Option ContentType :=
  let normalized := (JsString.trim value).toList.flatMap toLowerCase
  chartImageContentTypes.find? fun contentType => contentType.text.toList = normalized

/-- `[A-Za-z0-9._-]`. -/
def isSegmentCharacter (c : Char) : Bool :=
  c.isAlphanum || c = '.' || c = '_' || c = '-'

def isSafeChartImageSegment (value : String) : Bool :=
  1 ≤ value.toList.length && value.toList.length ≤ 128 &&
    value.toList.all isSegmentCharacter && value ≠ "." && value ≠ ".."

inductive UploadErrorCode
  | emptyImage
  | imageTooLarge
  | invalidContentType
  | invalidIdentitySegment
  | invalidImageId
deriving DecidableEq

structure ChartImageUploadError where
  code : UploadErrorCode
  message : String
deriving DecidableEq

@[irreducible] def keyRoot : List Char := "charts/".toList

def keyPrefix (tenantId : String) : List Char :=
  keyRoot ++ tenantId.toList ++ ['/']

def keyOf (tenantId id : String) : List Char :=
  keyPrefix tenantId ++ id.toList

def chartImageR2Key (tenantId id : String) : Except ChartImageUploadError (List Char) :=
  if !isSafeChartImageSegment tenantId then
    .error {
      code := .invalidIdentitySegment
      message := "tenant_id must be a safe object-key segment" }
  else if !isSafeChartImageSegment id then
    .error {
      code := .invalidImageId
      message := "image id must be a safe object-key segment" }
  else
    .ok (keyOf tenantId id)

structure ChartImageRecord where
  byteSize : Nat
  contentHashSha256 : String
  contentType : ContentType
  createdAt : String
  deletedAt : Option String
  id : String
  r2Key : List Char
  tenantId : String
  userId : String
deriving DecidableEq

structure UploadInput where
  bytes : List UInt8
  contentType : String
  id : String
  contentHashSha256 : String
  createdAt : String
  tenantId : String
  userId : String

def uploadRecord (input : UploadInput) : Except ChartImageUploadError ChartImageRecord :=
  match normalizeChartImageContentType input.contentType with
  | none =>
    .error { code := .invalidContentType, message := "unsupported chart image content type" }
  | some contentType =>
    if input.bytes.length ≤ 0 then
      .error { code := .emptyImage, message := "chart image bytes are empty" }
    else if input.bytes.length > chartImageMaxBytes then
      .error { code := .imageTooLarge, message := "chart image exceeds max byte size" }
    else if !isSafeChartImageSegment input.tenantId || !isSafeChartImageSegment input.userId then
      .error {
        code := .invalidIdentitySegment
        message := "tenant_id and user_id must be safe object-key segments" }
    else
      (chartImageR2Key input.tenantId input.id).map fun r2Key =>
        { byteSize := input.bytes.length
          contentHashSha256 := input.contentHashSha256
          contentType
          createdAt := input.createdAt
          deletedAt := none
          id := input.id
          r2Key
          tenantId := input.tenantId
          userId := input.userId }

inductive Request
  | upload (input : UploadInput)
  | remove (id tenantId removedAt : String)
  | fetch (imageRef : List Char) (tenantId : String)

def Request.generatedId : Request → Option String
  | .upload input => some input.id
  | _ => none

structure FetchedChartImage where
  bytes : List UInt8
  mediaType : ContentType
deriving DecidableEq

/-- What an operation ends with. -/
inductive Result
  | rejected (error : ChartImageUploadError)
  | failed
  | uploaded (record : ChartImageRecord)
  | notFound
  | removed (imageRef : List Char) (record : ChartImageRecord)
  | fetched (image : Option FetchedChartImage)
deriving DecidableEq

/-- The store call that an operation is about to make. -/
inductive Phase
  | putting (record : ChartImageRecord)
  | inserting (record : ChartImageRecord)
  /-- The object of a record that could not be inserted is taken back. -/
  | compensating (record : ChartImageRecord)
  | finding
  | deleting (record : ChartImageRecord)
  | marking (record : ChartImageRecord)
  | looking
  | getting (record : ChartImageRecord)
  | finished (result : Result)
deriving DecidableEq

/-- Where an operation begins, after the checks that need no store. -/
def Request.begin : Request → Phase
  | .upload input =>
    match uploadRecord input with
    | .error error => .finished (.rejected error)
    | .ok record => .putting record
  | .remove _ _ _ => .finding
  | .fetch imageRef tenantId =>
    if (keyPrefix tenantId).isPrefixOf imageRef then .looking else .finished (.fetched none)

structure StoredObject where
  bytes : List UInt8
  contentType : ContentType

structure Stores where
  records : List ChartImageRecord
  objects : List Char → Option StoredObject

/-- What the object store reports as the media type of an object: never that of another one. -/
structure MediaReport where
  report : ContentType → Option String
  sound : ∀ contentType mediaType, report contentType = some mediaType →
    normalizeChartImageContentType mediaType = none ∨
      normalizeChartImageContentType mediaType = some contentType

def ChartImageRecord.isActive (record : ChartImageRecord) : Bool :=
  record.deletedAt = none

variable (stores : Stores)

def Stores.findActiveById (id tenantId : String) : Option ChartImageRecord :=
  stores.records.find? fun record =>
    record.tenantId = tenantId && record.id = id && record.isActive

def Stores.findActiveByKey (r2Key : List Char) (tenantId : String) : Option ChartImageRecord :=
  stores.records.find? fun record =>
    record.tenantId = tenantId && record.r2Key = r2Key && record.isActive

def Stores.insert (record : ChartImageRecord) : Stores :=
  { stores with records := stores.records ++ [record] }

def marks (id tenantId : String) (record : ChartImageRecord) : Bool :=
  record.tenantId = tenantId && record.id = id && record.isActive

def Stores.markRemoved (id tenantId removedAt : String) : Stores :=
  { stores with
    records := stores.records.map fun record =>
      if marks id tenantId record then { record with deletedAt := some removedAt } else record }

def Stores.put (key : List Char) (object : StoredObject) : Stores :=
  { stores with objects := Function.update stores.objects key (some object) }

def Stores.delete (key : List Char) : Stores :=
  { stores with objects := Function.update stores.objects key none }

/-- How a store call ends: one that fails may have taken effect. -/
inductive Outcome
  | ok
  | failed (effective : Bool)

def Outcome.leaves (outcome : Outcome) (before after : Stores) : Stores :=
  match outcome with
  | .ok => after
  | .failed effective => if effective then after else before

/-- Where an operation goes on that throws when its call fails. -/
def Outcome.orElse (outcome : Outcome) (next failure : Phase) : Phase :=
  match outcome with
  | .ok => next
  | .failed _ => failure

def fetchedMediaType (media : MediaReport) (record : ChartImageRecord) (object : StoredObject) :
    ContentType :=
  ((media.report object.contentType).bind normalizeChartImageContentType).getD record.contentType

/-- The next store call of an operation. -/
def call (media : MediaReport) (stores : Stores) (outcome : Outcome) :
    Request → Phase → Option (Stores × Phase)
  | .upload input, .putting record =>
    some (outcome.leaves stores
        (stores.put record.r2Key { bytes := input.bytes, contentType := record.contentType }),
      outcome.orElse (.inserting record) (.finished .failed))
  | .upload _, .inserting record =>
    some (outcome.leaves stores (stores.insert record),
      outcome.orElse (.finished (.uploaded record)) (.compensating record))
  | .upload _, .compensating record =>
    some (outcome.leaves stores (stores.delete record.r2Key), .finished .failed)
  | .remove id tenantId _, .finding =>
    some (stores, outcome.orElse
      (match stores.findActiveById id tenantId with
        | none => .finished .notFound
        | some record => .deleting record)
      (.finished .failed))
  | .remove _ _ _, .deleting record =>
    some (outcome.leaves stores (stores.delete record.r2Key),
      outcome.orElse (.marking record) (.finished .failed))
  | .remove id tenantId removedAt, .marking record =>
    let removed := ((stores.records.find? (marks id tenantId)).getD record)
    some (outcome.leaves stores (stores.markRemoved id tenantId removedAt),
      outcome.orElse
        (.finished (.removed record.r2Key { removed with deletedAt := some removedAt }))
        (.finished .failed))
  | .fetch imageRef tenantId, .looking =>
    some (stores, outcome.orElse
      (match stores.findActiveByKey imageRef tenantId with
        | none => .finished (.fetched none)
        | some record => .getting record)
      (.finished .failed))
  | .fetch _ _, .getting record =>
    some (stores, outcome.orElse
      (.finished (.fetched ((stores.objects record.r2Key).map fun object =>
        { bytes := object.bytes, mediaType := fetchedMediaType media record object })))
      (.finished .failed))
  | _, _ => none

structure Operation where
  request : Request
  phase : Phase

structure State where
  stores : Stores
  ops : List Operation

inductive Event
  | began (request : Request)
  | called (op : Nat) (outcome : Outcome)

def State.empty : State where
  stores := { records := [], objects := fun _ => none }
  ops := []

variable (s : State)

def State.requests : List Request :=
  s.ops.map Operation.request

def generatedIds (requests : List Request) : List String :=
  requests.filterMap Request.generatedId

/-- An operation begins, with a fresh id where it generates one, or makes its next store call. -/
def step (media : MediaReport) (s : State) : Event → Option State
  | .began request =>
    if request.generatedId.any fun id => (generatedIds s.requests).contains id then
      none
    else
      some { s with ops := s.ops ++ [{ request, phase := request.begin }] }
  | .called i outcome =>
    s.ops[i]?.bind fun op =>
      (call media s.stores outcome op.request op.phase).map fun result =>
        { stores := result.1, ops := s.ops.set i { op with phase := result.2 } }

/-- No operation is in flight. -/
def State.Quiet : Prop :=
  ∀ op ∈ s.ops, ∃ result, op.phase = .finished result

def Stores.Matched : Prop :=
  (∀ record ∈ stores.records, record.deletedAt = none →
      (stores.objects record.r2Key).isSome = true) ∧
    ∀ key, (stores.objects key).isSome = true →
      ∃ record ∈ stores.records, record.deletedAt = none ∧ record.r2Key = key

/-- A call of an operation in which none has failed yet. -/
def Phase.isFirstFailure : Phase → Bool
  | .compensating _ => false
  | _ => true

def SingleFailure : Event → Prop
  | .called i (.failed _) => ∀ op, s.ops[i]? = some op → op.phase.isFirstFailure = true
  | _ => True

def Request.marksNext : Request → Phase → Option (String × List Char)
  | .remove id _ _, .marking record => some (id, record.r2Key)
  | _, _ => none

/-- The record of an image is no longer active, or another operation is about to mark it. -/
def State.Covered (i : Nat) (id : String) : Prop :=
  (∀ record ∈ s.stores.records, record.id = id → record.deletedAt ≠ none) ∨
    ∃ (j : Nat) (op : Operation) (key : List Char), j ≠ i ∧ s.ops[j]? = some op ∧
      op.request.marksNext op.phase = some (id, key)

/--
A failing call leaves the stores so that they match in the end: a put or an
insert that has not taken effect, and a deletion that has not or a mark that
has, unless the record is covered.
-/
def Tolerated : Event → Prop
  | .called i (.failed effective) => ∀ op, s.ops[i]? = some op →
      match op.request, op.phase with
      | .upload _, .putting _ | .upload _, .inserting _ => effective = false
      | .remove id _ _, .deleting _ => effective = false ∨ s.Covered i id
      | .remove id _ _, .marking _ => effective = true ∨ s.Covered i id
      | _, _ => True
  | _ => True

end Aiphabee.ChartImage
