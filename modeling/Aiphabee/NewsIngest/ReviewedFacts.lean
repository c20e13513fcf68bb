import Aiphabee.NewsIngest.RunSpec

/-!
# Facts that were reviewed

The clean-up of a run keeps every fact that a reviewer has moved away from
pending and HOLD, but the upsert of a derived fact with the same key makes it
pending again.  So a reviewed fact lives through exactly those runs whose
reports do not give its key.
-/

namespace Aiphabee.NewsIngest

open UniqueTable
open SandboxAuth (JsonValue)

def fieldsWithValue (document : Document) : List FactField :=
  (factFields document).filter fun field => truthy field.value

def documentFactKeys (platform : Platform) (ids : Ids) (document : Document) : List FactKey :=
  (fieldsWithValue document).map fun field => factKeyFor platform ids document field.field

def DailyRun.factKeys (platform : Platform) (run : DailyRun) : List FactKey :=
  (run.documents platform).flatMap (documentFactKeys platform run.ids)

theorem documentFactKeys_eq (platform : Platform) (ids : Ids) (document : Document)
    (link : EntityLink) :
    (extractedFactsForDocument platform ids document link).map (fun new => new.row.key) =
      documentFactKeys platform ids document := by
  unfold extractedFactsForDocument documentFactKeys fieldsWithValue
  induction factFields document with
  | nil => rfl
  | cons field rest ih =>
    rw [List.filterMap_cons, List.filter_cons]
    rcases hvalue : field.value with _ | _ | ⟨u, value⟩
    · simpa [truthy] using ih
    · simpa [truthy] using ih
    · simp only [List.map_cons, truthy, Option.any_some, ne_eq, reduceCtorEq, not_false_eq_true,
        decide_true, if_true]
      exact congrArg₂ List.cons rfl ih

theorem factKeys_eq (platform : Platform) (run : DailyRun) :
    (derivedFacts platform run.ids run.answers (run.documents platform)).map
        (fun new => new.row.key) =
      run.factKeys platform := by
  unfold derivedFacts DailyRun.factKeys
  rw [List.map_flatMap]
  congr 1
  funext document
  exact documentFactKeys_eq platform run.ids document _

variable {platform : Platform}

/-- Every fact that a report gives waits for a review. -/
theorem isHeld_of_mem_derivedFacts {ids : Ids} {answers : EntityAnswers} {documents : List Document}
    {new : Entry JsText ExtractedFact} (h : new ∈ derivedFacts platform ids answers documents) :
    new.row.isHeld = true ∧ new.row.dataVersion = ids.dataVersion ∧
      new.row.factNamespace = sourceName ∧ new.row.documentId ∈ documentIdsOf documents := by
  obtain ⟨document, hdocument, hnew⟩ := List.mem_flatMap.mp h
  obtain ⟨field, -, hfield⟩ := List.mem_filterMap.mp hnew
  have hid : document.documentId ∈ documentIdsOf documents :=
    List.mem_eraseDups.mpr (List.mem_map_of_mem hdocument)
  rcases hvalue : field.value with _ | _ | ⟨u, value⟩
  · simp [hvalue] at hfield
  · simp [hvalue] at hfield
  · rw [hvalue] at hfield
    rw [← Option.some.inj hfield]
    exact ⟨rfl, rfl, rfl, hid⟩

def Keeps (reviewed : Entry JsText ExtractedFact) (db : Database) : Prop :=
  ∃ entry ∈ db.facts.entries,
    entry.id = reviewed.id ∧ entry.row.reviewState = reviewed.row.reviewState ∧
      entry.row.qualityState = reviewed.row.qualityState ∧ entry.row.value = reviewed.row.value

def DailyRun.transforms (run : DailyRun) : Bool :=
  !run.locked && !run.startFails && !run.crawlFails && !run.transformFails

/-- The run may write the key: it transforms a report that gives it. -/
def DailyRun.Rederives (platform : Platform) (run : DailyRun) (key : FactKey) : Prop :=
  run.transforms = true ∧ key ∈ run.factKeys platform

variable {reviewed : Entry JsText ExtractedFact} {run : DailyRun}

theorem transform_keeps {db after : Database} (h : transformReport platform db run = some after)
    (hentry : reviewed ∈ db.facts.entries) (hreviewed : reviewed.row.isHeld = false)
    (hkey : reviewed.row.key ∉ run.factKeys platform) : reviewed ∈ after.facts.entries := by
  refine mem_entries_upsertAll (transformReport_spec h).facts_eq ?_ ?_
  · refine List.mem_filter.mpr ⟨hentry, ?_⟩
    simp [keepsFact, hreviewed]
  · intro new hnew heq
    refine hkey ?_
    rw [heq, ← factKeys_eq]
    exact List.mem_map.mpr ⟨new, hnew, rfl⟩

variable {db : Database}

theorem run_keeps (hentry : reviewed ∈ db.facts.entries) (hreviewed : reviewed.row.isHeld = false)
    (hrun : ¬run.Rederives platform reviewed.row.key) :
    reviewed ∈ (runHkexDaily platform db run).1.facts.entries := by
  rcases runHkexDaily_cases platform db run with
    ⟨hfacts, -⟩ | ⟨started, hstarted, htransform, -, hlocked, hstart, hcrawl, hfails, -⟩
  · rw [hfacts]
    exact hentry
  · refine transform_keeps htransform ?_ hreviewed fun hkey => hrun ⟨?_, hkey⟩
    · rw [(startRun_spec hstarted).1]
      exact hentry
    · simp [DailyRun.transforms, hlocked, hstart, hcrawl, hfails]

theorem transform_entries {db after : Database} {entry : Entry JsText ExtractedFact}
    (h : transformReport platform db run = some after) (hentry : entry ∈ after.facts.entries) :
    (entry ∈ db.facts.entries ∧ entry.row.key ∉ run.factKeys platform) ∨
      entry.row.isHeld = true := by
  have hheld : ∀ new ∈ derivedFacts platform run.ids run.answers (run.documents platform),
      new.row.isHeld = true ∧ ∀ old, (mergeFact.apply old new.row).isHeld = true := by
    intro new hnew
    have hnewHeld := (isHeld_of_mem_derivedFacts hnew).1
    exact ⟨hnewHeld, fun _ => hnewHeld⟩
  rcases entries_upsertAll (P := fun fact => fact.isHeld = true) (transformReport_spec h).facts_eq
    hheld hentry with ⟨hkept, hne⟩ | hwritten
  · refine .inl ⟨(List.mem_filter.mp hkept).1, fun hkey => ?_⟩
    rw [← factKeys_eq] at hkey
    obtain ⟨new, hnew, hsame⟩ := List.mem_map.mp hkey
    exact hne new hnew hsame.symm
  · exact .inr hwritten

def OnlyReviewed (reviewed : Entry JsText ExtractedFact) (db : Database) : Prop :=
  ∀ entry ∈ db.facts.entries,
    entry.id = reviewed.id → entry = reviewed ∨ entry.row.isHeld = true

theorem run_onlyReviewed (run : DailyRun) (h : OnlyReviewed reviewed db) :
    OnlyReviewed reviewed (runHkexDaily platform db run).1 := by
  intro entry hentry hid
  rcases runHkexDaily_cases platform db run with
    ⟨hfacts, -⟩ | ⟨started, hstarted, htransform, -⟩
  · rw [hfacts] at hentry
    exact h entry hentry hid
  · rcases transform_entries htransform hentry with ⟨hold, -⟩ | hheld
    · rw [(startRun_spec hstarted).1] at hold
      exact h entry hold hid
    · exact .inr hheld

theorem not_keeps (hreviewed : reviewed.row.isHeld = false)
    (h : ∀ entry ∈ db.facts.entries, entry.id = reviewed.id → entry.row.isHeld = true) :
    ¬Keeps reviewed db := by
  rintro ⟨entry, hentry, hid, hreview, hquality, -⟩
  have hheld := h entry hentry hid
  rw [ExtractedFact.isHeld, hreview, hquality, ← ExtractedFact.isHeld, hreviewed] at hheld
  cases hheld

theorem run_resets (honly : OnlyReviewed reviewed db) (hreviewed : reviewed.row.isHeld = false)
    (hcommitted : (runHkexDaily platform db run).2 = .committed)
    (hkey : reviewed.row.key ∈ run.factKeys platform) :
    ¬Keeps reviewed (runHkexDaily platform db run).1 := by
  refine not_keeps hreviewed fun entry hentry hid => ?_
  rcases runHkexDaily_cases platform db run with
    ⟨-, hnot⟩ | ⟨started, hstarted, htransform, -⟩
  · exact absurd hcommitted hnot
  · rcases transform_entries htransform hentry with ⟨hold, hnone⟩ | hheld
    · rw [(startRun_spec hstarted).1] at hold
      rcases honly entry hold hid with rfl | hheld
      · exact absurd hkey hnone
      · exact hheld
    · exact hheld

theorem runs_keep {runs : List DailyRun} (hentry : reviewed ∈ db.facts.entries)
    (hreviewed : reviewed.row.isHeld = false)
    (hruns : ∀ run ∈ runs, ¬run.Rederives platform reviewed.row.key) :
    ∀ step ∈ runsFrom platform db runs, Keeps reviewed step.after := by
  induction runs generalizing db with
  | nil => exact List.forall_mem_nil _
  | cons run rest ih =>
    have hkept := run_keeps hentry hreviewed (hruns run List.mem_cons_self)
    rw [runsFrom]
    generalize runHkexDaily platform db run = result at hkept ⊢
    refine List.forall_mem_cons.mpr ⟨⟨reviewed, hkept, rfl, rfl, rfl, rfl⟩, ?_⟩
    exact ih hkept fun other hother => hruns other (List.mem_cons_of_mem _ hother)

theorem runs_reset {runs : List DailyRun} (honly : OnlyReviewed reviewed db)
    (hreviewed : reviewed.row.isHeld = false) :
    ∀ step ∈ runsFrom platform db runs, step.outcome = .committed →
      reviewed.row.key ∈ step.run.factKeys platform → ¬Keeps reviewed step.after := by
  induction runs generalizing db with
  | nil => exact List.forall_mem_nil _
  | cons run rest ih =>
    have hreset := @run_resets platform reviewed run db honly hreviewed
    have hnext := @run_onlyReviewed platform reviewed db run honly
    rw [runsFrom]
    generalize runHkexDaily platform db run = result at hreset hnext ⊢
    exact List.forall_mem_cons.mpr ⟨hreset, ih hnext⟩

/--
A reviewed fact keeps its review state, its quality state and its value through
every sequence of runs none of which transforms a report that gives its key
again, and every run that commits such a report resets it.
-/
theorem reviewed_survives {platform : Platform} {db : Database} {runs : List DailyRun}
    {reviewed : Entry JsText ExtractedFact} (hentry : reviewed ∈ db.facts.entries)
    (hreviewed : reviewed.row.isHeld = false) :
    ((∀ run ∈ runs, ¬run.Rederives platform reviewed.row.key) →
      ∀ step ∈ runsFrom platform db runs, Keeps reviewed step.after) ∧
    ∀ step ∈ runsFrom platform db runs, step.outcome = .committed →
      reviewed.row.key ∈ step.run.factKeys platform → ¬Keeps reviewed step.after := by
  refine ⟨runs_keep hentry hreviewed, runs_reset (fun entry hother hid => .inl ?_) hreviewed⟩
  exact List.inj_on_of_nodup_map db.facts.distinctIds hother hentry hid

/-- A platform whose hash is a checksum, and that writes flat objects as JSON does. -/
def samplePlatform : Platform where
  stableHash value := JsText.ofChars (Nat.toDigits 16
    (value.foldl (fun sum u => (sum * 65599 + u.toNat) % 2 ^ 64) 7))
  toText value :=
    match value with
    | .string value => value
    | _ => []
  jsonText value :=
    match value with
    | .object fields =>
      text "\x7b" ++ (text ",").intercalate (fields.map fun (key, value) =>
        text "\"" ++ key ++ text "\":" ++
          match value with
          | .string value => text "\"" ++ value ++ text "\""
          | .number (.finite value) => JsText.ofChars (Nat.toDigits 10 value.num.toNat)
          | _ => text "null") ++ text "\x7d"
    | _ => text "null"
  isoTimestamp := some
  lowerCase value := value.map fun u => if 65 ≤ u.toNat && u.toNat ≤ 90 then u + 32 else u

def sampleItem (record url : String) : JsonValue :=
  .object [(text "source_record_id", .string (text record)),
    (text "canonical_url", .string (text url))]

def sampleRun (items : List JsonValue) : DailyRun where
  businessDate := text "2026-06-25"
  locked := false
  startFails := false
  crawlFails := false
  items
  malformed := 0
  answers := { offering := fun _ => none, application := fun _ _ => none }
  transformFails := false
  startedAt := 0
  completedAt := 1

def databaseOf (fact : Entry JsText ExtractedFact) : Database where
  dataVersions := .empty
  crawlRuns := .empty
  rawSnapshots := .empty
  documents := .empty
  observations := .empty
  extractionRuns := .empty
  links := .empty
  facts := {
    entries := [fact]
    distinctIds := List.nodup_singleton _
    distinctKeys := List.nodup_singleton _ }
  transformRuns := .empty

def acceptedFact : Entry JsText ExtractedFact :=
  let document :=
    (normalizeScrapyDocument samplePlatform (sampleItem "100" "https://a/1.pdf") 0).get
      (by decide +kernel)
  let fact := factOf samplePlatform (sampleRun []).ids document
    { appCode := none, confidence := none, matchedBy := none, offeringId := none }
    { confidence := 95 / 100, field := "document_url", lang := .unknown
      value := some document.documentUrl, valueType := .text } document.documentUrl
  { fact with row := { fact.row with reviewState := .accepted, qualityState := .pass } }

/-- The accepted fact stays when another document is crawled. -/
theorem reviewed_survives_otherDocument :
    acceptedFact.row.isHeld = false ∧
      ∀ step ∈ runsFrom samplePlatform (databaseOf acceptedFact)
        [sampleRun [sampleItem "200" "https://a/2.pdf"]], Keeps acceptedFact step.after := by
  refine ⟨rfl, ?_⟩
  refine (reviewed_survives (List.mem_singleton_self acceptedFact) rfl).1 fun run hrun h => ?_
  obtain rfl := List.mem_singleton.mp hrun
  have hother : acceptedFact.row.key ∉
      (sampleRun [sampleItem "200" "https://a/2.pdf"]).factKeys samplePlatform := by
    decide +kernel
  exact hother h.2

/-- The accepted fact is reset when its document is crawled again. -/
theorem recrawled_resets :
    ¬∀ (platform : Platform) (db : Database) (runs : List DailyRun)
      (reviewed : Entry JsText ExtractedFact),
      reviewed ∈ db.facts.entries → reviewed.row.isHeld = false →
        ∀ step ∈ runsFrom platform db runs, Keeps reviewed step.after := by
  intro h
  have haccepted : acceptedFact.row.isHeld = false := rfl
  have hheld : ∀ entry ∈ (runHkexDaily samplePlatform (databaseOf acceptedFact)
      (sampleRun [sampleItem "100" "https://a/1.pdf"])).1.facts.entries,
      entry.row.isHeld = true := by
    decide +kernel
  have hkept := h samplePlatform (databaseOf acceptedFact)
    [sampleRun [sampleItem "100" "https://a/1.pdf"]] acceptedFact (List.mem_singleton_self _)
    haccepted
  rw [runsFrom] at hkept
  generalize runHkexDaily samplePlatform (databaseOf acceptedFact)
    (sampleRun [sampleItem "100" "https://a/1.pdf"]) = result at hheld hkept
  have hfirst : Keeps acceptedFact result.1 := (List.forall_mem_cons.mp hkept).1
  have hlost := not_keeps haccepted (fun entry hentry _ => hheld entry hentry)
  exact hlost hfirst

end Aiphabee.NewsIngest
