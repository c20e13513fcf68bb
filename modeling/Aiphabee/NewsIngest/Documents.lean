import Aiphabee.Text.JsonMembers
import Aiphabee.Text.NumberText

/-!
# Documents of a crawl report

An item of a crawl report becomes a document, and a document the facts that are
held for review and its link to an offering or an application.  Texts that are
made for a key are built as the program builds them; the hash, the texts of
values and the reading of dates are given.
-/

namespace Aiphabee.NewsIngest

open JsonMembers
open SandboxAuth (JsonValue)

/-- What the runtime gives. -/
structure Platform where
  /-- The digits of the SHA-256 of a text. -/
  stableHash : JsText → JsText
  /-- `String(value)`. -/
  toText : JsonValue → JsText
  /-- `JSON.stringify`. -/
  jsonText : JsonValue → JsText
  /-- `new Date(Date.parse(text)).toISOString()`, where the date is one. -/
  isoTimestamp : JsText → Option JsText
  /-- `toLowerCase`. -/
  lowerCase : JsText → JsText

/-- A constant text of the program. -/
@[irreducible] def text (value : String) : JsText := JsText.ofString value

def colons (parts : List JsText) : JsText :=
  (text ":").intercalate parts

variable (platform : Platform)

/-- A prefix and the first 32 digits of a hash. -/
def hashId (kind : String) (value : JsText) : JsText :=
  text kind ++ (platform.stableHash value).take 32

def nonEmptyString : Option JsonValue → Option JsText
  | some (.string value) => some (JsText.trim value) |>.filter (· ≠ [])
  | _ => none

/-- `Number.isInteger`. -/
def isInteger : JsNumber → Bool
  | .finite value => value.den = 1
  | _ => false

def integerOrNull : Option JsonValue → Option JsNumber
  | some (.number value) => if isInteger value then some value else none
  | some (.string value) =>
    if value ≠ [] && value.all fun u => 48 ≤ u.toNat && u.toNat ≤ 57 then
      some (JsNumber.ofText value)
    else
      none
  | _ => none

/-- `value ?? ""` in a template. -/
def templateText : Option JsonValue → JsText
  | none | some .null => []
  | some value => platform.toText value

def isRecord : JsonValue → Bool
  | .object _ => true
  | _ => false

def sourceName : JsText := text "hkex_news"

def sourceSurfaces : List JsText :=
  ["latest_list", "title_search", "content_search", "new_listing_information", "ap_phip",
    "progress_report"].map text

structure Document where
  canonicalUrl : JsText
  category : Option JsText
  contentHash : JsText
  contentId : JsText
  documentId : JsText
  documentUrl : JsText
  hkexCode : Option JsText
  httpStatus : Option JsNumber
  observationId : JsText
  payloadHash : JsText
  publishedAt : Option JsText
  rawPayload : JsonValue
  rawSnapshotId : JsText
  resultRank : JsNumber
  sourcePageUrl : JsText
  sourceRecordId : JsText
  sourceSurface : JsText
  titleEn : Option JsText

def surfaceOf (item : JsonValue) : JsText :=
  match stringMember item "source_surface" with
  | some surface => if sourceSurfaces.contains surface then surface else text "title_search"
  | none => text "title_search"

def orNull : Option JsText → JsonValue
  | some value => .string value
  | none => .null

/-- What is kept of an item as it came. -/
def rawPayloadOf (item : JsonValue) (canonicalUrl contentHash sourceRecordId : JsText) :
    JsonValue :=
  let string (key : String) := orNull (nonEmptyString (member item key))
  .object ([("canonical_url", .string canonicalUrl), ("category", string "category"),
    ("content_hash_sha256", .string contentHash),
    ("content_type",
      .string ((nonEmptyString (member item "content_type")).getD (text "unknown"))),
    ("crawl_run_id", string "crawl_run_id"), ("data_version", string "data_version"),
    ("document_url", string "document_url"), ("hkex_code", string "hkex_code"),
    ("published_at", string "published_at"),
    ("response_body_storage_uri", string "response_body_storage_uri"),
    ("source_page_url", string "source_page_url"), ("source_record_id", .string sourceRecordId),
    ("source_surface", .string (surfaceOf item)), ("title_en", string "title_en"),
    ("title_zh_hant", string "title_zh_hant")].map fun (key, value) => (text key, value))

def normalizeScrapyDocument (item : JsonValue) (index : Nat) : Option Document :=
  let string (key : String) := nonEmptyString (member item key)
  if !isRecord item then
    none
  else
    match string "canonical_url" <|> string "document_url" with
    | none => none
    | some canonicalUrl =>
      let sourceRecordId := (string "source_record_id").getD (platform.stableHash canonicalUrl)
      let documentId := hashId platform "hkex_doc_" (colons [sourceName, sourceRecordId])
      let contentHash :=
        (string "content_hash_sha256").getD (platform.stableHash (platform.jsonText item))
      let sourcePageUrl := (string "source_page_url").getD canonicalUrl
      let rawPayload := rawPayloadOf item canonicalUrl contentHash sourceRecordId
      some {
        canonicalUrl
        category := string "category"
        contentHash
        contentId := hashId platform "hkc_" (colons [documentId, contentHash])
        documentId
        documentUrl := (string "document_url").getD canonicalUrl
        hkexCode := string "hkex_code"
        httpStatus := integerOrNull (member item "http_status")
        observationId := hashId platform "hko_"
          (colons [documentId, templateText platform (member item "crawl_run_id"),
            sourcePageUrl])
        payloadHash := platform.stableHash (platform.jsonText rawPayload)
        publishedAt := (string "published_at").bind platform.isoTimestamp
        rawPayload
        rawSnapshotId := hashId platform "raw_hkex_news_"
          (colons [sourceRecordId, templateText platform (member item "data_version")])
        resultRank :=
          (integerOrNull (member item "result_rank")).getD (.ofNat (index + 1))
        sourcePageUrl
        sourceRecordId
        sourceSurface := surfaceOf item
        titleEn := string "title_en" }

def documentsOf (items : List JsonValue) : List Document :=
  items.zipIdx.filterMap fun (item, index) => normalizeScrapyDocument platform item index

inductive LinkType
  | prospectus
  | phip
  | allotmentResult
  | listingApproval
  | announcement
  | progressReport
  | other
deriving DecidableEq

def LinkType.text : LinkType → JsText
  | .prospectus => NewsIngest.text "prospectus"
  | .phip => NewsIngest.text "phip"
  | .allotmentResult => NewsIngest.text "allotment_result"
  | .listingApproval => NewsIngest.text "listing_approval"
  | .announcement => NewsIngest.text "announcement"
  | .progressReport => NewsIngest.text "progress_report"
  | .other => NewsIngest.text "other"

def linkTypeForCategory : Option JsText → Option LinkType
  | none => none
  | some category =>
    let isOne (names : List String) := names.any fun name => category = text name
    if isOne ["allotment_results"] then some .allotmentResult
    else if isOne ["application_proof", "phip"] then some .phip
    else if isOne ["formal_notice", "offer_subscription", "supplementary_listing_document"] then
      some .prospectus
    else if isOne ["oc_announcement", "supplemental_ipo", "transfer_gem_main"] then
      some .announcement
    else none

/-- The characters of `\w`. -/
def isWordUnit (u : UInt16) : Bool :=
  (48 ≤ u.toNat && u.toNat ≤ 57) || (65 ≤ u.toNat && u.toNat ≤ 90) || u.toNat = 95 ||
    (97 ≤ u.toNat && u.toNat ≤ 122)

/-- `\b` in front of a rest of a text. -/
def endsWord (rest : JsText) : Bool :=
  !(rest.head?.any isWordUnit)

/-- The pattern `word\s+results?\b` at the start of a text. -/
def startsResults (word : String) (value : JsText) : Bool :=
  if (text word).isPrefixOf value then
    let behind := value.drop (text word).length
    let rest := behind.dropWhile JsText.isWhiteSpace
    let last := rest.drop (text "result").length
    rest.length < behind.length && (text "result").isPrefixOf rest &&
      (endsWord last || (last.head? = some 115 && endsWord (last.drop 1)))
  else
    false

/-- The pattern `\bword\s+results?\b`, from where a word may start or not. -/
def namesResults (word : String) : Bool → JsText → Bool
  | _, [] => false
  | wordBefore, u :: rest =>
    (!wordBefore && startsResults word (u :: rest)) || namesResults word (isWordUnit u) rest

def classifyDocumentLinkType (document : Document) : LinkType :=
  match linkTypeForCategory document.category with
  | some linkType => linkType
  | none =>
    let title := platform.lowerCase
      (document.titleEn.getD [] ++ text " " ++ document.documentUrl)
    let includes (word : String) : Bool :=
      title.tails.any fun rest => (text word).isPrefixOf rest
    if includes "prospectus" then .prospectus
    else if includes "phip" then .phip
    else if namesResults "allotment" false title || namesResults "allocation" false title then
      .allotmentResult
    else if includes "listing approval" then .listingApproval
    else if includes "progress report" then .progressReport
    else .announcement

def normalizeHkexCode (value : Option JsText) : Option JsText :=
  let digits := (value.getD []).filter fun u => 48 ≤ u.toNat && u.toNat ≤ 57
  if digits = [] then none else some (List.replicate (5 - digits.length) 48 ++ digits)

structure EntityAnswers where
  offering : JsText → Option JsText
  application : JsText → Option JsText → Option (JsText × Option JsText)

structure EntityLink where
  appCode : Option JsText
  confidence : Option ℚ
  matchedBy : Option JsText
  offeringId : Option JsText

def truthy (value : Option JsText) : Bool :=
  value.any (· ≠ [])

def entityLinkConfidence (appCode offeringId : Option JsText) : Option ℚ :=
  if truthy appCode && truthy offeringId then some (84 / 100)
  else if truthy offeringId then some (78 / 100)
  else if truthy appCode then some (72 / 100)
  else none

def entityLinkMatchedBy (appCode offeringId : Option JsText) : Option JsText :=
  if truthy appCode && truthy offeringId then some (text "hkex_code:offering_application")
  else if truthy offeringId then some (text "hkex_code:offering")
  else if truthy appCode then some (text "hkex_code:application")
  else none

def resolveIpoEntityLink (answers : EntityAnswers) (document : Document) : EntityLink :=
  match normalizeHkexCode document.hkexCode with
  | none => { appCode := none, confidence := none, matchedBy := none, offeringId := none }
  | some code =>
    let offering := answers.offering code
    let application := answers.application code offering
    let appCode := application.map Prod.fst
    let offeringId := offering <|> application.bind Prod.snd
    { appCode
      confidence := entityLinkConfidence appCode offeringId
      matchedBy := entityLinkMatchedBy appCode offeringId
      offeringId }

def EntityLink.isLinked (link : EntityLink) : Bool :=
  truthy link.offeringId || truthy link.appCode

end Aiphabee.NewsIngest
