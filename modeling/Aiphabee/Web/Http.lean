import Aiphabee.Text.NumberText

/-!
# Requests and responses of the Fetch interface

Headers are kept as the platform keeps them: by their names in lower case, a
name as often as it was appended.  A body is the chunks that its stream gives,
and whether the stream fails after them.
-/

namespace Aiphabee.Http

section Headers

abbrev Headers := List (String × JsText)

/-- `headers.get(name)`: all values of a name, joined by a comma and a space. -/
def Headers.get (headers : Headers) (name : String) : Option JsText :=
  match (headers.filter fun header => header.1 = name).map Prod.snd with
  | [] => none
  | first :: rest => some ([0x2C, 0x20].intercalate (first :: rest))

/-- White space that is removed at the ends of a header's value. -/
def isHeaderSpace (u : UInt16) : Bool :=
  u.toNat = 0x09 || u.toNat = 0x0A || u.toNat = 0x0D || u.toNat = 0x20

/-- A value as a header stores it; none where the platform throws. -/
def headerValue (value : JsText) : Option JsText :=
  let stripped :=
    ((value.dropWhile isHeaderSpace).reverse.dropWhile isHeaderSpace).reverse
  if value.all (fun u => u.toNat ≤ 0xFF) &&
      stripped.all fun u => !(u.toNat = 0x00 || u.toNat = 0x0A || u.toNat = 0x0D) then
    some stripped
  else
    none

/-- Headers from a record of values; none where the platform throws. -/
def Headers.ofRecord (record : List (String × JsText)) : Option Headers :=
  record.mapM fun header => (headerValue header.2).map fun value => (header.1, value)

variable {record : List (String × JsText)}

theorem Headers.ofRecord_filter {headers : Headers} (h : Headers.ofRecord record = some headers)
    (name : String) :
    Headers.ofRecord (record.filter fun header => header.1 = name) =
      some (headers.filter fun header => header.1 = name) := by
  induction record generalizing headers with
  | nil =>
    obtain rfl := Option.some.inj h
    rfl
  | cons header rest ih =>
    simp only [Headers.ofRecord, List.mapM_cons, Option.bind_eq_bind, Option.bind_eq_some_iff,
      Option.map_eq_some_iff] at h
    obtain ⟨_, ⟨value, hvalue, rfl⟩, stored, hstored, hlast⟩ := h
    obtain rfl := Option.some.inj hlast
    have hrest := ih hstored
    by_cases hname : header.1 = name
    · rw [Headers.ofRecord] at hrest ⊢
      simp [hname, hvalue, hrest]
    · simpa [hname] using hrest

theorem Headers.ofRecord_get {headers : Headers} {name : String} {value : JsText}
    (h : Headers.ofRecord record = some headers)
    (hname : (record.filter fun header => header.1 = name) = [(name, value)]) :
    headers.get name = headerValue value := by
  have hfilter := Headers.ofRecord_filter h name
  rw [hname, Headers.ofRecord] at hfilter
  simp only [List.mapM_cons, List.mapM_nil, Option.bind_eq_bind, Option.bind_eq_some_iff,
    Option.map_eq_some_iff] at hfilter
  obtain ⟨_, ⟨stored, hstored, rfl⟩, _, hnil, hlast⟩ := hfilter
  obtain rfl := Option.some.inj hnil
  rw [Headers.get, ← Option.some.inj hlast, hstored]
  simp [List.intercalate]

end Headers

/-- A parsed address. -/
structure Url where
  protocol : String
  hostname : String
  port : String
  pathname : String
  search : String
  hash : String

structure Body where
  chunks : List (List UInt8)
  failed : Bool

structure Request where
  method : String
  url : Url
  headers : Headers
  body : Option Body

structure Response where
  status : Nat
  headers : Headers
  body : Option Body

def Body.ofBytes (bytes : List UInt8) : Body where
  chunks := [bytes]
  failed := false

/-- `Response.json` of a JSON text, with headers that do not set the content type. -/
def Response.json (text : Utf8Text) (headers : Headers) (status : Nat) : Response where
  status := status
  headers := headers ++ [("content-type", JsText.ofString "application/json")]
  body := some (Body.ofBytes (JsText.encodeUtf8 text))

def mediaType (request : Request) : Option JsText :=
  (request.headers.get "content-type").map fun value =>
    JsText.trim (value.takeWhile fun u => u.toNat ≠ 0x3B)

def declaredLength (request : Request) : JsNumber :=
  match request.headers.get "content-length" with
  | some value => JsNumber.ofText value
  | none => .finite 0

/-- The bytes of a stream, from a number of bytes on; nothing where they pass a limit. -/
def readChunks (limit : Nat) (failed : Bool) : Nat → List (List UInt8) → Option (List UInt8)
  | _, [] => if failed then none else some []
  | size, chunk :: rest =>
    if limit < size + chunk.length then
      none
    else
      (readChunks limit failed (size + chunk.length) rest).map (chunk ++ ·)

def readBounded (limit : Nat) (request : Request) : Option (List UInt8) :=
  match declaredLength request, request.body with
  | .finite length, some body =>
    if limit < length then
      none
    else
      (readChunks limit body.failed 0 body.chunks).filter (· ≠ [])
  | _, some body => (readChunks limit body.failed 0 body.chunks).filter (· ≠ [])
  | _, none => none

end Aiphabee.Http
