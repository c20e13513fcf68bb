import Aiphabee.NewsIngest.DailyRun
import Aiphabee.Transition.FilteredWorklist

/-!
# The spider of the news site

From its start page the spider sends the title searches of its scope, and from
the answer of a search a request for every document that it links to.  A document
becomes one line of the report.  The URL functions and the dates of Python are
given.
-/

namespace Aiphabee.NewsIngest

open SandboxAuth (JsonValue)

variable (platform : Platform)

section Searches

/-- What `urlparse` tells apart of a URL. -/
structure UrlParts where
  scheme : JsText
  netloc : JsText
  path : JsText
  query : JsText

/-- What Python and the crawler give. -/
structure SpiderPlatform where
  urljoin : JsText → JsText → JsText
  urlparse : JsText → UrlParts
  urlunparse : UrlParts → JsText
  /-- `str.lower`. -/
  lower : JsText → JsText
  /-- `str.split` of the text with its character references replaced. -/
  words : JsText → List JsText
  /-- The ISO date that lies some days before one. -/
  daysBefore : JsText → Nat → JsText
  /-- `strptime` with the format of the site, written without the offset. -/
  hkexDatetime : JsText → Option JsText
  /-- The fingerprint of a request for a URL. -/
  fingerprint : JsText → JsText

structure QueryProfile where
  label : String
  searchType : String
  t1code : String
  t2Gcode : String
  t2code : String

/-- A profile that leaves the search type at its default. -/
def ipoQuery (label t1code t2Gcode t2code : String) : QueryProfile :=
  { label, searchType := "1", t1code, t2Gcode, t2code }

def ipoTitleSearchQueries : List QueryProfile :=
  [ipoQuery "phip" "91000" "-1" "91100",
    ipoQuery "application_proof" "91000" "-1" "91200",
    ipoQuery "oc_announcement" "91000" "-1" "91300",
    ipoQuery "allotment_results" "10000" "5" "15100",
    ipoQuery "formal_notice" "10000" "5" "15200",
    ipoQuery "supplemental_ipo" "10000" "5" "15500",
    ipoQuery "transfer_gem_main" "10000" "5" "15600",
    ipoQuery "offer_subscription" "30000" "-1" "30700",
    ipoQuery "supplementary_listing_document" "30000" "-1" "31200"]

structure CrawlSettings where
  startUrl : JsText
  queryScope : String
  lookbackDays : Int
  rowRange : Nat

def titleSearchQueries (scope : String) : List QueryProfile :=
  if scope = "all" then
    [{ label := "all_announcements", searchType := "0", t1code := "-2", t2Gcode := "-2"
       t2code := "-2" }]
  else ipoTitleSearchQueries

def titleSearchEndpoint : JsText :=
  text "https://www1.hkexnews.hk/search/titleSearchServlet.do"

def baseUrl : JsText := text "https://www1.hkexnews.hk"

variable (spider : SpiderPlatform)

def dateRange (businessDate : JsText) (lookbackDays : Int) : JsText × JsText :=
  (spider.daysBefore businessDate (max lookbackDays 0).toNat, businessDate)

def titleSearchUrl (settings : CrawlSettings) (fromDate toDate : JsText) (profile : QueryProfile) :
    JsText :=
  let compact (date : JsText) := date.filter (· ≠ 45)
  let query : List (JsText × JsText) :=
    [(text "sortDir", text "0"), (text "sortByOptions", text "DateTime"),
      (text "category", text "0"), (text "market", text "SEHK"), (text "stockId", []),
      (text "documentType", text "-1"), (text "fromDate", compact fromDate),
      (text "toDate", compact toDate), (text "title", []),
      (text "searchType", text profile.searchType), (text "t1code", text profile.t1code),
      (text "t2Gcode", text profile.t2Gcode), (text "t2code", text profile.t2code),
      (text "rowRange", JsText.ofChars (Nat.toDigits 10 settings.rowRange)),
      (text "lang", text "E")]
  titleSearchEndpoint ++ text "?" ++
    (text "&").intercalate (query.map fun entry => entry.1 ++ text "=" ++ entry.2)

end Searches

section Pages

structure SearchRow where
  newsId : Option JsText
  fileLink : Option JsText
  title : Option JsText
  stockCode : Option JsText
  dateTime : Option JsText

structure Response where
  url : JsText
  searchRows : Option (List SearchRow)
  title : Option JsText
  contentType : JsText
  status : Nat
  /-- The digits of the SHA-256 of the body. -/
  contentHash : JsText

inductive Callback
  | parse
  | parseTitleSearchResult (queryLabel : Option String)
  | parseDocument (row : SearchRow) (publishedAt : Option JsText) (queryLabel : Option String)
      (resultRank : Nat) (sourcePageUrl : JsText)

structure ScrapyRequest where
  url : JsText
  callback : Callback
  dontFilter : Bool

/-- `value in url`. -/
def containsText (value : String) (url : JsText) : Bool :=
  url.tails.any (text value).isPrefixOf

variable (spider : SpiderPlatform)
variable (settings : CrawlSettings)
variable (businessDate : JsText)

def isCandidateDocumentUrl (url : JsText) : Bool :=
  let lower := spider.lower url
  (text ".pdf").isSuffixOf lower || containsText "/listedco/" lower ||
    containsText "/newlistings/" lower ||
      (containsText "hkexnews.hk" lower && !containsText "titlesearch" lower)

def parseHkexDatetime (value : Option JsText) : Option JsText :=
  (value.filter (· ≠ [])).bind fun value => (spider.hkexDatetime value).map (· ++ text "+08:00")

def documentRequest (queryLabel : Option String) (sourcePageUrl : JsText) (row : SearchRow)
    (resultRank : Nat) : Option ScrapyRequest :=
  (row.fileLink.filter (· ≠ [])).bind fun fileLink =>
    let url := spider.urljoin baseUrl fileLink
    if isCandidateDocumentUrl spider url then
      some
        { url
          callback := .parseDocument row (parseHkexDatetime spider row.dateTime) queryLabel
            resultRank sourcePageUrl
          dontFilter := false }
    else none

def parseTitleSearchResult (queryLabel : Option String) (response : Response) :
    List ScrapyRequest :=
  (response.searchRows.getD []).zipIdx.filterMap fun entry =>
    documentRequest spider queryLabel response.url entry.1 (entry.2 + 1)

def searchRequest (profile : QueryProfile) : ScrapyRequest where
  url := titleSearchUrl settings (dateRange spider businessDate settings.lookbackDays).1
    (dateRange spider businessDate settings.lookbackDays).2 profile
  callback := .parseTitleSearchResult (some profile.label)
  dontFilter := false

def parse (response : Response) : List ScrapyRequest :=
  if containsText "titleSearchServlet.do" response.url then
    parseTitleSearchResult spider none response
  else
    (titleSearchQueries settings.queryScope).map (searchRequest spider settings businessDate)

def startRequest : ScrapyRequest where
  url := settings.startUrl
  callback := .parse
  dontFilter := true

end Pages

section Items

variable (spider : SpiderPlatform)

def normalizeUrl (value : JsText) : JsText :=
  let parsed := spider.urlparse (spider.urljoin baseUrl value)
  spider.urlunparse { parsed with netloc := spider.lower parsed.netloc }

def cleanText (value : Option JsText) : Option JsText :=
  value.map fun value => (text " ").intercalate (spider.words value)

def stringOrNull : Option JsText → JsonValue
  | some value => .string value
  | none => .null

def sourceRecordIdOf (row : SearchRow) (canonicalUrl : JsText) : JsText :=
  match row.newsId with
  | some newsId => if newsId = [] then platform.stableHash canonicalUrl else newsId
  | none => platform.stableHash canonicalUrl

/-- The line of the report for a document, as the pipelines leave it. -/
def reportItem (ids : Ids) (row : SearchRow) (publishedAt : Option JsText)
    (queryLabel : Option String) (resultRank : Nat) (sourcePageUrl : JsText) (response : Response) :
    JsonValue :=
  let canonicalUrl := normalizeUrl spider response.url
  .object
    [(text "source_record_id", .string (sourceRecordIdOf platform row canonicalUrl)),
      (text "canonical_url", .string canonicalUrl),
      (text "document_url", .string canonicalUrl),
      (text "title_en", stringOrNull
        (((cleanText spider row.title).filter (· ≠ [])).or (cleanText spider response.title))),
      (text "title_zh_hant", .null),
      (text "published_at", stringOrNull publishedAt),
      (text "category", stringOrNull (queryLabel.map text)),
      (text "hkex_code", stringOrNull (cleanText spider row.stockCode)),
      (text "content_type", .string response.contentType),
      (text "content_hash_sha256", .string response.contentHash),
      (text "source_surface", .string (text "title_search")),
      (text "source_page_url", .string sourcePageUrl),
      (text "result_rank", .number (.ofNat resultRank)),
      (text "http_status", .number (.ofNat response.status)),
      (text "crawl_run_id", .string ids.runId),
      (text "data_version", .string ids.dataVersion)]

end Items

section Crawls

variable (spider : SpiderPlatform)
variable (settings : CrawlSettings)
variable (businessDate : JsText)

/-- What the site has published while a crawl goes on; a request that fails has no response. -/
structure Site where
  /-- The documents that a query matches, in the order of the servlet. -/
  matching : QueryProfile → List SearchRow
  fetch : JsText → Option Response
  /-- The answer of a search has the first rows. -/
  servlet : ∀ profile ∈ titleSearchQueries settings.queryScope,
    ∀ response ∈ fetch (searchRequest spider settings businessDate profile).url,
      ∀ rows ∈ response.searchRows, rows = (matching profile).take settings.rowRange

variable {spider settings businessDate}
variable (site : Site spider settings businessDate)

def callbackRequests (request : ScrapyRequest) : List ScrapyRequest :=
  match site.fetch request.url with
  | none => []
  | some response =>
    match request.callback with
    | .parse => parse spider settings businessDate response
    | .parseTitleSearchResult queryLabel => parseTitleSearchResult spider queryLabel response
    | .parseDocument .. => []

def callbackItems (request : ScrapyRequest) : List JsonValue :=
  match site.fetch request.url with
  | none => []
  | some response =>
    match request.callback with
    | .parseDocument row publishedAt queryLabel resultRank sourcePageUrl =>
      [reportItem platform spider (idsForBusinessDate businessDate) row publishedAt queryLabel
        resultRank sourcePageUrl response]
    | _ => []

/-- The crawler; what is seen and what waits is kept in the directory of the job. -/
def crawler : Worklist.Handler ScrapyRequest JsText JsonValue where
  fingerprint request :=
    if request.dontFilter then none else some (spider.fingerprint request.url)
  requests := callbackRequests site
  results := callbackItems platform site

end Crawls

end Aiphabee.NewsIngest
