import Aiphabee.NewsIngest.DailyRun

/-!
# What a run does to the tables

Each step of a run is described once, table by table: what it writes, and which
tables it leaves alone.  A run that commits is the start of the crawl, the
upserts of what its report gives, and the two rows that record it.
-/

namespace Aiphabee.NewsIngest

open UniqueTable
open SandboxAuth (JsonValue)

variable (platform : Platform)
variable (ids : Ids)

def derivedFacts (answers : EntityAnswers) (documents : List Document) :
    List (Entry JsText ExtractedFact) :=
  documents.flatMap fun document =>
    extractedFactsForDocument platform ids document (resolveIpoEntityLink answers document)

def derivedLinks (answers : EntityAnswers) (documents : List Document) :
    List (Entry JsText SourceDocumentLink) :=
  documents.filterMap fun document =>
    linkForDocument platform ids document (resolveIpoEntityLink answers document)

def upsertLinks :
    Table JsText SourceDocumentLink.key → List (Entry JsText SourceDocumentLink) →
      Option (Table JsText SourceDocumentLink.key)
  | links, [] => some links
  | links, link :: rest =>
    (upsertIpoSourceDocumentLink links link).bind fun next => upsertLinks next rest

def documentIdsOf (documents : List Document) : List JsText :=
  (documents.map Document.documentId).eraseDups

section Persistence

/-- What the documents of a report leave in front of the clean-up. -/
structure Persisted
    (ids : Ids)
    (db after : Database)
    (documents : List Document) : Prop where
  facts_eq : after.facts = db.facts
  links_eq : after.links = db.links
  dataVersions_eq : after.dataVersions = db.dataVersions
  crawlRuns_eq : after.crawlRuns = db.crawlRuns
  transformRuns_eq : after.transformRuns = db.transformRuns
  observed : ∃ news : List (Entry JsText DocumentObservation),
    List.Forall₂ (fun document new => ∃ isChanged, new = observationOf ids document isChanged)
        documents news ∧
      db.observations.upsertAll mergeObservation news = some after.observations

variable {db after : Database}

theorem upsertRawSnapshot_spec {ids : Ids} {document : Document}
    (h : upsertRawSnapshot db ids document = some after) :
    ∃ rawSnapshots, after = { db with rawSnapshots } := by
  obtain ⟨rawSnapshots, -, hafter⟩ := Option.bind_eq_some_iff.mp h
  exact ⟨rawSnapshots, (Option.some.inj hafter).symm⟩

theorem upsertDocument_spec {document : Document} (h : upsertDocument db document = some after) :
    ∃ documents, after = { db with documents } := by
  unfold upsertDocument at h
  dsimp only at h
  split at h
  · cases h
  · obtain ⟨documents, -, hafter⟩ := Option.bind_eq_some_iff.mp h
    exact ⟨documents, (Option.some.inj hafter).symm⟩

theorem upsertDocumentObservation_spec {ids : Ids} {document : Document} {isChanged : Bool}
    (h : upsertDocumentObservation db ids document isChanged = some after) :
    ∃ observations,
      db.observations.upsert mergeObservation (observationOf ids document isChanged) =
          some observations ∧
        after = { db with observations } := by
  unfold upsertDocumentObservation at h
  dsimp only at h
  split at h
  · obtain ⟨observations, hupsert, hafter⟩ := Option.bind_eq_some_iff.mp h
    exact ⟨observations, hupsert, (Option.some.inj hafter).symm⟩
  · cases h

theorem persistScrapyDocuments_spec {ids : Ids} {documents : List Document} {changed : Nat}
    (h : persistScrapyDocuments ids db documents = some (after, changed)) :
    Persisted ids db after documents := by
  induction documents generalizing db changed with
  | nil =>
    obtain ⟨rfl, rfl⟩ := Prod.mk.inj (Option.some.inj h)
    exact {
      facts_eq := rfl, links_eq := rfl, dataVersions_eq := rfl, crawlRuns_eq := rfl
      transformRuns_eq := rfl
      observed := ⟨[], List.Forall₂.nil, rfl⟩ }
  | cons document rest ih =>
    simp only [persistScrapyDocuments, Option.bind_eq_bind, Option.bind_eq_some_iff] at h
    obtain ⟨kept, hkept, seen, hseen, observed, hobserved, ⟨last, count⟩, hrest, hlast⟩ := h
    obtain ⟨rfl, -⟩ := Prod.mk.inj (Option.some.inj hlast)
    obtain ⟨rawSnapshots, rfl⟩ := upsertRawSnapshot_spec hkept
    obtain ⟨documents, rfl⟩ := upsertDocument_spec hseen
    obtain ⟨observations, hupsert, rfl⟩ := upsertDocumentObservation_spec hobserved
    have hpersisted := ih hrest
    obtain ⟨news, hnews, hupserts⟩ := hpersisted.observed
    refine {
      facts_eq := hpersisted.facts_eq
      links_eq := hpersisted.links_eq
      dataVersions_eq := hpersisted.dataVersions_eq
      crawlRuns_eq := hpersisted.crawlRuns_eq
      transformRuns_eq := hpersisted.transformRuns_eq
      observed := ⟨observationOf ids document (contentChanged db document) :: news,
        List.Forall₂.cons ⟨_, rfl⟩ hnews, ?_⟩ }
    rw [Table.upsertAll]
    exact Option.bind_eq_some_iff.mpr ⟨observations, hupsert, hupserts⟩

end Persistence

/-- What the pipeline leaves: the facts and the links of all documents, and their counts. -/
structure Piped
    (platform : Platform)
    (ids : Ids)
    (answers : EntityAnswers)
    (db after : Database)
    (documents : List Document) : Prop where
  facts_eq :
    db.facts.upsertAll mergeFact (derivedFacts platform ids answers documents) = some after.facts
  links_eq : upsertLinks db.links (derivedLinks platform ids answers documents) = some after.links
  observations_eq : after.observations = db.observations
  dataVersions_eq : after.dataVersions = db.dataVersions
  crawlRuns_eq : after.crawlRuns = db.crawlRuns
  transformRuns_eq : after.transformRuns = db.transformRuns

theorem linkForDocument_eq (document : Document) (link : EntityLink) :
    (linkForDocument platform ids document link).isSome = link.isLinked := by
  unfold linkForDocument
  dsimp only
  split
  · next hlinked => exact hlinked.symm
  · next hnot => exact (Bool.not_eq_true _ ▸ hnot : link.isLinked = false).symm

theorem derivedLinks_cons (answers : EntityAnswers) (document : Document) (rest : List Document) :
    derivedLinks platform ids answers (document :: rest) =
      (linkForDocument platform ids document (resolveIpoEntityLink answers document)).toList ++
        derivedLinks platform ids answers rest := by
  unfold derivedLinks
  rw [List.filterMap_cons]
  cases linkForDocument platform ids document (resolveIpoEntityLink answers document) <;> rfl

theorem upsertLinks_toList (links : Table JsText SourceDocumentLink.key)
    (link : Option (Entry JsText SourceDocumentLink))
    (rest : List (Entry JsText SourceDocumentLink)) :
    upsertLinks links (link.toList ++ rest) =
      (writeLink links link).bind fun next => upsertLinks next rest := by
  cases link <;> rfl

theorem runHeldFactDocuments_spec {platform : Platform} {ids : Ids} {answers : EntityAnswers}
    {db after : Database} {documents : List Document} {counts total : HeldFacts}
    (h : runHeldFactDocuments platform ids answers db counts documents = some (after, total)) :
    Piped platform ids answers db after documents ∧
      total = {
        documentsExtracted := counts.documentsExtracted + documents.length
        factsExtracted :=
          counts.factsExtracted + (derivedFacts platform ids answers documents).length
        linkedDocuments :=
          counts.linkedDocuments + (derivedLinks platform ids answers documents).length } := by
  induction documents generalizing db counts with
  | nil =>
    obtain ⟨rfl, rfl⟩ := Prod.mk.inj (Option.some.inj h)
    exact ⟨⟨rfl, rfl, rfl, rfl, rfl, rfl⟩, rfl⟩
  | cons document rest ih =>
    simp only [runHeldFactDocuments, Option.bind_eq_bind, Option.bind_eq_some_iff] at h
    obtain ⟨next, hnext, hrest⟩ := h
    simp only [runHeldFactDocument, Option.bind_eq_bind, Option.bind_eq_some_iff,
      Option.some.injEq] at hnext
    obtain ⟨links, hlinks, extractionRuns, -, facts, hfacts, rfl⟩ := hnext
    obtain ⟨hpiped, hcounts⟩ := ih hrest
    have hderived : derivedFacts platform ids answers (document :: rest) =
        extractedFactsForDocument platform ids document
          (resolveIpoEntityLink answers document) ++ derivedFacts platform ids answers rest :=
      List.flatMap_cons
    have hlinked := linkForDocument_eq platform ids document
      (resolveIpoEntityLink answers document)
    constructor
    · refine { hpiped with facts_eq := ?_, links_eq := ?_ }
      · rw [hderived, upsertAll_append, hfacts]
        exact hpiped.facts_eq
      · rw [derivedLinks_cons, upsertLinks_toList, hlinks]
        exact hpiped.links_eq
    · have hcount : (if (resolveIpoEntityLink answers document).isLinked then 1 else 0) =
          (linkForDocument platform ids document
            (resolveIpoEntityLink answers document)).toList.length := by
        rw [← hlinked]
        cases linkForDocument platform ids document (resolveIpoEntityLink answers document) <;>
          rfl
      rw [hcounts, hderived, derivedLinks_cons, List.length_append, List.length_append,
        List.length_cons, hcount]
      simp only [HeldFacts.mk.injEq]
      omega

def transformRow (run : DailyRun) (reconciliation : Reconciliation) : TransformRun where
  transformRunId := transformRunIdFor platform run.ids
  dataVersion := run.ids.dataVersion
  completedAt := some run.completedAt
  status := .completed
  validationReport := {
    candidateFactCount :=
      some (derivedFacts platform run.ids run.answers (run.documents platform)).length
    currentDocumentCount := some reconciliation.currentDocumentCount
    documentCount := some (run.documents platform).length
    linkedDocumentCount :=
      some (derivedLinks platform run.ids run.answers (run.documents platform)).length
    reconciliation := some reconciliation }

/-- What a transaction of a report leaves that commits. -/
structure Transformed
    (platform : Platform)
    (db after : Database)
    (run : DailyRun) : Prop where
  facts_eq :
    (db.facts.keep (keepsFact run.ids (documentIdsOf (run.documents platform)))).upsertAll
        mergeFact (derivedFacts platform run.ids run.answers (run.documents platform)) =
      some after.facts
  links_eq :
    upsertLinks (db.links.keep (keepsLink run.ids (documentIdsOf (run.documents platform))))
        (derivedLinks platform run.ids run.answers (run.documents platform)) =
      some after.links
  observed : ∃ news observations,
    List.Forall₂
        (fun document new => ∃ isChanged, new = observationOf run.ids document isChanged)
        (run.documents platform) news ∧
      db.observations.upsertAll mergeObservation news = some observations ∧
      after.observations =
        observations.keep (keepsObservation run.ids (documentIdsOf (run.documents platform)))
  dataVersions_eq : after.dataVersions = db.dataVersions
  crawled : ∃ new : Entry JsText CrawlRun,
    db.crawlRuns.upsert mergeCrawlRun new = some after.crawlRuns ∧
      new.row.crawlRunId = run.ids.runId ∧ new.row.status = .completed ∧
      new.row.errorCount = 0 ∧ new.row.dataVersion = run.ids.dataVersion
  recorded : ∃ reconciliation,
    db.transformRuns.upsert mergeTransformRun
        { id := transformRunIdFor platform run.ids
          row := transformRow platform run reconciliation } =
      some after.transformRuns

theorem transformReport_spec {platform : Platform} {db after : Database} {run : DailyRun}
    (h : transformReport platform db run = some after) : Transformed platform db after run := by
  simp only [transformReport, runHeldFactPipeline, upsertTransformRun, upsertCrawlRun,
    Option.bind_eq_bind, Option.bind_eq_some_iff, Option.some.injEq] at h
  obtain ⟨⟨persisted, changed⟩, hpersisted, piped, ⟨⟨written, heldFacts⟩, hwritten, transformRuns,
    htransform, rfl⟩, crawlRuns, hcrawl, rfl⟩ := h
  have hfirst := persistScrapyDocuments_spec hpersisted
  obtain ⟨hsecond, hcounts⟩ := runHeldFactDocuments_spec hwritten
  have hfacts := hsecond.facts_eq
  have hlinks := hsecond.links_eq
  have htransforms := hsecond.transformRuns_eq
  have hcrawls := hsecond.crawlRuns_eq
  simp only [reconcileCurrentRunScope] at hfacts hlinks htransforms hcrawls
  rw [hfirst.facts_eq] at hfacts
  rw [hfirst.links_eq] at hlinks
  obtain ⟨news, hnews, hobserved⟩ := hfirst.observed
  rw [hcrawls, hfirst.crawlRuns_eq] at hcrawl
  rw [htransforms, hfirst.transformRuns_eq, hcounts] at htransform
  exact {
    facts_eq := hfacts
    links_eq := hlinks
    observed := ⟨news, persisted.observations, hnews, hobserved, hsecond.observations_eq⟩
    dataVersions_eq := hsecond.dataVersions_eq.trans hfirst.dataVersions_eq
    crawled := ⟨_, hcrawl, rfl, rfl, rfl, rfl⟩
    recorded := ⟨(reconcileCurrentRunScope persisted run.ids (run.documents platform)).2, by
      simpa only [transformRow, Nat.zero_add] using htransform⟩ }

theorem startRun_spec {db started : Database} {run : DailyRun}
    (h : startRun db run = some started) :
    started.facts = db.facts ∧ started.links = db.links ∧
      started.observations = db.observations ∧ started.transformRuns = db.transformRuns := by
  simp only [startRun, upsertDataVersion, upsertCrawlRun, Option.bind_eq_bind,
    Option.bind_eq_some_iff, Option.some.injEq] at h
  obtain ⟨_, ⟨_, -, rfl⟩, _, -, rfl⟩ := h
  exact ⟨rfl, rfl, rfl, rfl⟩

theorem runHkexDaily_cases (db : Database) (run : DailyRun) :
    (runHkexDaily platform db run).1.facts = db.facts ∧
        (runHkexDaily platform db run).2 ≠ .committed ∨
      ∃ started, startRun db run = some started ∧
        transformReport platform started run = some (runHkexDaily platform db run).1 ∧
        (runHkexDaily platform db run).2 = .committed ∧
        run.locked = false ∧ run.startFails = false ∧ run.crawlFails = false ∧
        run.transformFails = false ∧
        (db.dataVersions.find run.ids.dataVersion).all fun row => row.releaseState = .held := by
  unfold runHkexDaily
  split
  · exact .inl ⟨rfl, nofun⟩
  next hlocked =>
  split
  · exact .inl ⟨rfl, nofun⟩
  next hheld =>
  split
  · exact .inl ⟨rfl, nofun⟩
  next hstart =>
  cases hstarted : startRun db run with
  | none => exact .inl ⟨rfl, nofun⟩
  | some started =>
    have hfacts := (startRun_spec hstarted).1
    dsimp only
    split
    · exact .inl ⟨hfacts, nofun⟩
    next hcrawl =>
    split
    · exact .inl ⟨hfacts, nofun⟩
    next htransform =>
    cases hafter : transformReport platform started run with
    | none => exact .inl ⟨hfacts, nofun⟩
    | some after =>
      refine .inr ⟨started, rfl, hafter, rfl, by simpa using hlocked, by simpa using hstart,
        by simpa using hcrawl, by simpa using htransform, ?_⟩
      cases hfind : db.dataVersions.find run.ids.dataVersion with
      | none => rfl
      | some row => simpa [hfind] using hheld

end Aiphabee.NewsIngest
