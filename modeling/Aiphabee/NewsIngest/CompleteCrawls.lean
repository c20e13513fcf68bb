import Aiphabee.NewsIngest.CrawlRuns

/-!
# Crawls that are complete, and one that is not

The first crawl of a date is led to every published document when the site
answers, no query matches more rows than one answer has, and no two documents
have one link.  The second one sends the same searches, which are dropped, so that
its report is empty and the clean-up removes what the first one has held.
-/

namespace Aiphabee.NewsIngest

open SandboxAuth (JsonValue)
open JsonMembers (member)
open Worklist (Pending Progress Leads ComesUp)

section FirstCrawls

variable {platform : Platform}
variable {spider : SpiderPlatform}
variable {businessDate : JsText}
variable {crawl : NewsCrawl spider businessDate}

/-- A crawl of a new directory on a site that answers, with room for every row. -/
structure NewsCrawl.IsFirst (platform : Platform) (crawl : NewsCrawl spider businessDate) :
    Prop where
  startPage : ∃ response, crawl.site.fetch crawl.settings.startUrl = some response ∧
    containsText "titleSearchServlet.do" response.url = false
  searches : ∀ profile ∈ titleSearchQueries crawl.settings.queryScope, ∃ response rows,
    crawl.site.fetch (searchRequest spider crawl.settings businessDate profile).url =
      some response ∧ response.searchRows = some rows
  fits : ∀ profile ∈ titleSearchQueries crawl.settings.queryScope,
    (crawl.site.matching profile).length ≤ crawl.settings.rowRange
  documents : ∀ row, crawl.IsPublished row → ∃ fileLink response,
    row.fileLink = some fileLink ∧ fileLink ≠ [] ∧
      isCandidateDocumentUrl spider (spider.urljoin baseUrl fileLink) = true ∧
        crawl.site.fetch (spider.urljoin baseUrl fileLink) = some response
  readable : ∀ row, crawl.IsPublished row →
    (nonEmptyString (some (.string (crawl.documentUrl row)))).isSome = true
  searchPrints : ∀ profile ∈ titleSearchQueries crawl.settings.queryScope,
    ∀ other ∈ titleSearchQueries crawl.settings.queryScope,
      spider.fingerprint (searchRequest spider crawl.settings businessDate profile).url =
        spider.fingerprint (searchRequest spider crawl.settings businessDate other).url →
          profile = other
  documentPrints : ∀ row, crawl.IsPublished row → ∀ other, crawl.IsPublished other →
    spider.fingerprint (spider.urljoin baseUrl (row.fileLink.getD [])) =
      spider.fingerprint (spider.urljoin baseUrl (other.fileLink.getD [])) →
        crawl.recordId platform row = crawl.recordId platform other
  apart : ∀ profile ∈ titleSearchQueries crawl.settings.queryScope,
    ∀ row, crawl.IsPublished row →
      spider.fingerprint (searchRequest spider crawl.settings businessDate profile).url ≠
        spider.fingerprint (spider.urljoin baseUrl (row.fileLink.getD []))

theorem member_sourceRecordId (ids : Ids) (row : SearchRow) (publishedAt : Option JsText)
    (queryLabel : Option String) (resultRank : Nat) (sourcePageUrl : JsText) (response : Response) :
    member (reportItem platform spider ids row publishedAt queryLabel resultRank sourcePageUrl
        response) "source_record_id" =
      some (.string (sourceRecordIdOf platform row (normalizeUrl spider response.url))) := by
  rw [reportItem, member, SandboxAuth.fieldValue, List.find?_cons_of_pos (by simp [text])]
  rfl

theorem member_canonicalUrl (ids : Ids) (row : SearchRow) (publishedAt : Option JsText)
    (queryLabel : Option String) (resultRank : Nat) (sourcePageUrl : JsText) (response : Response) :
    member (reportItem platform spider ids row publishedAt queryLabel resultRank sourcePageUrl
        response) "canonical_url" = some (.string (normalizeUrl spider response.url)) := by
  have hother : text "source_record_id" ≠ JsText.ofString "canonical_url" := by
    decide +kernel
  rw [reportItem, member, SandboxAuth.fieldValue, List.find?_cons_of_neg (by simpa using hother),
    List.find?_cons_of_pos (by simp [text])]
  rfl

theorem itemRecordId_reportItem {row : SearchRow} {fileLink : JsText} {response : Response}
    (hlink : row.fileLink = some fileLink)
    (hresponse : crawl.site.fetch (spider.urljoin baseUrl fileLink) = some response)
    (hreadable : (nonEmptyString (some (.string (crawl.documentUrl row)))).isSome = true)
    (ids : Ids) (publishedAt : Option JsText) (queryLabel : Option String) (resultRank : Nat)
    (sourcePageUrl : JsText) :
    itemRecordId platform (reportItem platform spider ids row publishedAt queryLabel resultRank
      sourcePageUrl response) = some (crawl.recordId platform row) := by
  have hurl : crawl.documentUrl row = normalizeUrl spider response.url := by
    simp only [NewsCrawl.documentUrl, hlink, Option.getD_some, hresponse, Option.map_some]
  obtain ⟨canonicalUrl, hcanonical⟩ := Option.isSome_iff_exists.mp hreadable
  have htrim : canonicalUrl = JsText.trim (crawl.documentUrl row) := by
    rw [nonEmptyString, Option.filter_eq_some_iff] at hcanonical
    exact (Option.some.inj hcanonical.1).symm
  have hrecord : isRecord (reportItem platform spider ids row publishedAt queryLabel resultRank
      sourcePageUrl response) = true := rfl
  rw [itemRecordId]
  simp only [normalizeScrapyDocument, hrecord, member_canonicalUrl, member_sourceRecordId, ← hurl,
    hcanonical, Bool.not_true, Bool.false_eq_true, if_false, NewsCrawl.recordId, htrim,
    Option.orElse_eq_orElse]
  rfl

def rowRequest (spider : SpiderPlatform) (row : SearchRow) (queryLabel : Option String)
    (resultRank : Nat) (sourcePageUrl : JsText) : ScrapyRequest where
  url := spider.urljoin baseUrl (row.fileLink.getD [])
  callback := .parseDocument row (parseHkexDatetime spider row.dateTime) queryLabel resultRank
    sourcePageUrl
  dontFilter := false

inductive NewsCrawl.Expected (crawl : NewsCrawl spider businessDate) : ScrapyRequest → Prop
  | start : Expected crawl (startRequest crawl.settings)
  | search
      {profile : QueryProfile}
      (h : profile ∈ titleSearchQueries crawl.settings.queryScope) :
      Expected crawl (searchRequest spider crawl.settings businessDate profile)
  | document
      {row : SearchRow}
      (h : crawl.IsPublished row)
      (queryLabel : Option String)
      (resultRank : Nat)
      (sourcePageUrl : JsText) :
      Expected crawl (rowRequest spider row queryLabel resultRank sourcePageUrl)

theorem callbackRequests_search (hfirst : crawl.IsFirst platform) {profile : QueryProfile}
    (hprofile : profile ∈ titleSearchQueries crawl.settings.queryScope) :
    ∃ sourcePageUrl, callbackRequests crawl.site
        (searchRequest spider crawl.settings businessDate profile) =
      (crawl.site.matching profile).zipIdx.map fun entry =>
        rowRequest spider entry.1 (some profile.label) (entry.2 + 1) sourcePageUrl := by
  obtain ⟨response, rows, hresponse, hrows⟩ := hfirst.searches profile hprofile
  have hall : rows = crawl.site.matching profile := by
    rw [crawl.site.servlet profile hprofile response hresponse rows hrows,
      List.take_of_length_le (hfirst.fits profile hprofile)]
  refine ⟨response.url, ?_⟩
  have hrequest : ∀ entry ∈ (crawl.site.matching profile).zipIdx,
      documentRequest spider (some profile.label) response.url entry.1 (entry.2 + 1) =
        some (rowRequest spider entry.1 (some profile.label) (entry.2 + 1) response.url) := by
    intro entry hentry
    have hrow : crawl.IsPublished entry.1 :=
      ⟨profile, hprofile, List.fst_mem_of_mem_zipIdx hentry⟩
    obtain ⟨fileLink, -, hlink, hne, hcandidate, -⟩ := hfirst.documents entry.1 hrow
    have hkept : (some fileLink).filter (fun link => decide (link ≠ [])) = some fileLink :=
      Option.filter_some_pos (decide_eq_true hne)
    simp only [documentRequest, hlink, hkept, Option.bind_some, hcandidate, if_true, rowRequest,
      Option.getD_some]
  have hcallback : callbackRequests crawl.site
      (searchRequest spider crawl.settings businessDate profile) =
        parseTitleSearchResult spider (some profile.label) response := by
    simp only [callbackRequests, hresponse]
    rfl
  rw [hcallback, parseTitleSearchResult, hrows, Option.getD_some, hall]
  exact (List.filterMap_congr hrequest).trans (congrFun List.filterMap_eq_map' _)

theorem callbackRequests_start (hfirst : crawl.IsFirst platform) :
    callbackRequests crawl.site (startRequest crawl.settings) =
      (titleSearchQueries crawl.settings.queryScope).map
        (searchRequest spider crawl.settings businessDate) := by
  obtain ⟨response, hresponse, hpage⟩ := hfirst.startPage
  have hcallback : callbackRequests crawl.site (startRequest crawl.settings) =
      parse spider crawl.settings businessDate response := by
    rw [callbackRequests, startRequest, hresponse]
  rw [hcallback, parse, if_neg (by rw [hpage]; exact Bool.false_ne_true)]

theorem begin_new (platform : Platform) (crawl : NewsCrawl spider businessDate) :
    crawl.begin platform ⟨[], []⟩ = ⟨[], [startRequest crawl.settings]⟩ :=
  rfl

theorem expected_of_comesUp (hfirst : crawl.IsFirst platform) {request : ScrapyRequest}
    (h : ComesUp (crawler platform crawl.site) [startRequest crawl.settings] request) :
    crawl.Expected request := by
  induction h with
  | start hstart =>
    rw [List.mem_singleton.mp hstart]
    exact .start
  | next _ hnext ih =>
    cases ih with
    | start =>
      change _ ∈ callbackRequests crawl.site _ at hnext
      rw [callbackRequests_start hfirst] at hnext
      obtain ⟨profile, hprofile, rfl⟩ := List.mem_map.mp hnext
      exact .search hprofile
    | @search profile hprofile =>
      change _ ∈ callbackRequests crawl.site _ at hnext
      obtain ⟨sourcePageUrl, hrequests⟩ := callbackRequests_search hfirst hprofile
      rw [hrequests] at hnext
      obtain ⟨entry, hentry, rfl⟩ := List.mem_map.mp hnext
      exact .document ⟨profile, hprofile, List.fst_mem_of_mem_zipIdx hentry⟩ _ _ _
    | @document row hrow queryLabel resultRank sourcePageUrl =>
      change _ ∈ callbackRequests crawl.site _ at hnext
      unfold callbackRequests rowRequest at hnext
      split at hnext <;> cases hnext

theorem leads_rowRequest (hfirst : crawl.IsFirst platform) (work : JobDir) {row : SearchRow}
    (hrow : crawl.IsPublished row) (queryLabel : Option String) (resultRank : Nat)
    (sourcePageUrl : JsText) :
    Leads (crawler platform crawl.site) work
      (fun item => itemRecordId platform item = some (crawl.recordId platform row))
      (rowRequest spider row queryLabel resultRank sourcePageUrl) := by
  obtain ⟨fileLink, response, hlink, -, -, hresponse⟩ := hfirst.documents row hrow
  refine Leads.result ?_ (itemRecordId_reportItem hlink hresponse (hfirst.readable row hrow)
    (idsForBusinessDate businessDate) (parseHkexDatetime spider row.dateTime) queryLabel resultRank
    sourcePageUrl)
  change _ ∈ callbackItems platform crawl.site _
  simp only [callbackItems, rowRequest, hlink, Option.getD_some, hresponse]
  exact List.mem_singleton_self _

theorem NewsCrawl.IsFirst.leadsToAll (hfirst : crawl.IsFirst platform) :
    crawl.LeadsToAll platform ⟨[], []⟩ := by
  rintro row ⟨profile, hprofile, hrow⟩
  have hpublished : crawl.IsPublished row := ⟨profile, hprofile, hrow⟩
  rw [begin_new]
  refine ⟨startRequest crawl.settings, List.mem_singleton_self _, ?_⟩
  obtain ⟨sourcePageUrl, hrequests⟩ := callbackRequests_search hfirst hprofile
  obtain ⟨index, hindex⟩ := List.getElem?_of_mem hrow
  -- What comes up with the fingerprint of the link is a request for the same record.
  have hsearch : Leads (crawler platform crawl.site) ⟨[], [startRequest crawl.settings]⟩
      (fun item => itemRecordId platform item = some (crawl.recordId platform row))
      (searchRequest spider crawl.settings businessDate profile) := by
    refine Leads.next (rowRequest spider row (some profile.label) (index + 1) sourcePageUrl) ?_
      (fun _ _ => List.not_mem_nil) (leads_rowRequest hfirst _ hpublished _ _ _) ?_
    · change _ ∈ callbackRequests crawl.site _
      rw [hrequests]
      exact List.mem_map.mpr ⟨(row, index), List.mem_zipIdx_iff_getElem?.mpr hindex, rfl⟩
    · intro other hcomes _ hprint
      cases expected_of_comesUp hfirst hcomes with
      | start => cases hprint
      | search hother =>
        exact absurd (Option.some.inj hprint) (hfirst.apart _ hother row hpublished)
      | @document found hfound queryLabel resultRank sourcePageUrl =>
        have hsame := hfirst.documentPrints found hfound row hpublished (Option.some.inj hprint)
        rw [← hsame]
        exact leads_rowRequest hfirst _ hfound _ _ _
  refine Leads.next (searchRequest spider crawl.settings businessDate profile) ?_
    (fun _ _ => List.not_mem_nil) hsearch ?_
  · change _ ∈ callbackRequests crawl.site _
    rw [callbackRequests_start hfirst]
    exact List.mem_map_of_mem hprofile
  · intro other hcomes _ hprint
    cases expected_of_comesUp hfirst hcomes with
    | start => cases hprint
    | search hother =>
      obtain rfl := hfirst.searchPrints _ hother profile hprofile (Option.some.inj hprint)
      exact hsearch
    | document hfound queryLabel resultRank sourcePageUrl =>
      exact absurd (Option.some.inj hprint).symm (hfirst.apart profile hprofile _ hfound)

end FirstCrawls

/-- Texts that are joined and taken apart as the samples need it. -/
def sampleSpider : SpiderPlatform where
  urljoin _ link := link
  urlparse url := { scheme := [], netloc := [], path := url, query := [] }
  urlunparse parts := parts.path
  lower value := value
  words value := [value]
  daysBefore date _ := date
  hkexDatetime _ := none
  fingerprint url := url

def sampleSettings : CrawlSettings where
  startUrl := text "s"
  queryScope := "all"
  lookbackDays := 0
  rowRange := 20

def sampleRow : SearchRow where
  newsId := some (text "100")
  fileLink := some (text "a.pdf")
  title := none
  stockCode := none
  dateTime := none

def sampleResponse (url : JsText) (rows : List SearchRow) : Response where
  url
  searchRows := some rows
  title := none
  contentType := text "pdf"
  status := 200
  contentHash := text "h"

/-- A site with one document, which every search finds. -/
def sampleSite : Site sampleSpider sampleSettings (text "2026-06-25") where
  matching _ := [sampleRow]
  fetch url := some (sampleResponse url [sampleRow])
  servlet := by
    rintro profile - response hresponse rows hrows
    obtain rfl := Option.some.inj hresponse
    exact (Option.some.inj hrows).symm

def sampleCrawl : NewsCrawl sampleSpider (text "2026-06-25") where
  settings := sampleSettings
  site := sampleSite
  schedule := [0, 0, 0]
  lost _ := false

theorem sampleCrawl_isFirst :
    sampleCrawl.IsFirst samplePlatform where
  startPage := ⟨_, rfl, by decide +kernel⟩
  searches _ _ := ⟨_, _, rfl, rfl⟩
  fits _ _ := Nat.le_of_ble_eq_true rfl
  documents := by
    rintro row ⟨profile, -, hrow⟩
    obtain rfl := List.mem_singleton.mp hrow
    exact ⟨text "a.pdf", _, rfl, by decide +kernel, by decide +kernel, rfl⟩
  readable := by
    rintro row ⟨profile, -, hrow⟩
    obtain rfl := List.mem_singleton.mp hrow
    decide +kernel
  searchPrints := by
    intro profile hprofile other hother _
    rw [List.mem_singleton.mp hprofile, List.mem_singleton.mp hother]
  documentPrints := by
    rintro row ⟨profile, -, hrow⟩ other ⟨second, -, hother⟩ _
    rw [List.mem_singleton.mp hrow, List.mem_singleton.mp hother]
  apart := by
    rintro profile hprofile row ⟨second, -, hrow⟩
    obtain rfl := List.mem_singleton.mp hprofile
    obtain rfl := List.mem_singleton.mp hrow
    decide +kernel

/-- The first run of a date completes with the document. -/
theorem crawlRuns_complete_first :
    crawlRunsFrom samplePlatform emptyDatabase ⟨[], []⟩ [(sampleRun [], sampleCrawl)] ≠ [] ∧
      ∀ step ∈ crawlRunsFrom samplePlatform emptyDatabase ⟨[], []⟩ [(sampleRun [], sampleCrawl)],
        step.outcome = .committed → step.Complete samplePlatform :=
  ⟨List.cons_ne_nil _ _,
    crawlRuns_complete samplePlatform sampleSpider (text "2026-06-25") emptyDatabase ⟨[], []⟩
      [(sampleRun [], sampleCrawl)] fun step hstep _ => by
        obtain rfl := List.mem_singleton.mp hstep
        exact sampleCrawl_isFirst.leadsToAll⟩

/-- Two runs of one date, with the same document on the site. -/
def sampleRuns : List (CrawlStep sampleSpider (text "2026-06-25")) :=
  crawlRunsFrom samplePlatform emptyDatabase ⟨[], []⟩
    [(sampleRun [], sampleCrawl), (sampleRun [], sampleCrawl)]

theorem one_lt_sampleRuns : 1 < sampleRuns.length :=
  Nat.lt_of_lt_of_eq Nat.one_lt_two rfl

/-- The searches of the second run are dropped, and it completes with an empty report. -/
theorem crawlRuns_not_complete :
    ¬∀ (platform : Platform) (spider : SpiderPlatform) (businessDate : JsText) (db : Database)
      (runs : List (DailyRun × NewsCrawl spider businessDate)),
      ∀ step ∈ crawlRunsFrom platform db ⟨[], []⟩ runs,
        step.outcome = .committed → step.Complete platform := by
  intro h
  have hcommitted : (sampleRuns.get ⟨1, one_lt_sampleRuns⟩).outcome = .committed := by
    decide +kernel
  have hempty :
      ((sampleRuns.get ⟨1, one_lt_sampleRuns⟩).run.documents samplePlatform).length = 0 := by
    decide +kernel
  have hpublished : (sampleRuns.get ⟨1, one_lt_sampleRuns⟩).crawl.IsPublished sampleRow :=
    ⟨_, List.mem_singleton_self _, List.mem_singleton_self _⟩
  have hcomplete := h samplePlatform sampleSpider (text "2026-06-25") emptyDatabase
    [(sampleRun [], sampleCrawl), (sampleRun [], sampleCrawl)]
    (sampleRuns.get ⟨1, one_lt_sampleRuns⟩)
    (List.get_mem sampleRuns ⟨1, one_lt_sampleRuns⟩) hcommitted
  obtain ⟨document, hmem, -⟩ := hcomplete.report sampleRow hpublished
  rw [List.length_eq_zero_iff] at hempty
  rw [hempty] at hmem
  cases hmem

end Aiphabee.NewsIngest
