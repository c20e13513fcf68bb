import Mathlib.Data.List.Dedup
import Aiphabee.NewsIngest.ReviewedFacts

/-!
# Convergence of a re-ingest

After a run that commits, the data version should hold exactly what the last
report gives, under the counts that the transform recorded.  The clean-up
removes the rows of documents that are gone, but of a document that is still
there it keeps every old row, and the counts take a document as often as it
comes.  So a run converges exactly when each document comes once, and when the
rows that stay are rows that the report gives again.
-/

namespace Aiphabee.NewsIngest

open UniqueTable
open SandboxAuth (JsonValue)

variable {platform : Platform}
variable {db after : Database}
variable {run : DailyRun}

def derivedFactRows (platform : Platform) (run : DailyRun) : List ExtractedFact :=
  (derivedFacts platform run.ids run.answers (run.documents platform)).map Entry.row

def derivedLinkRows (platform : Platform) (run : DailyRun) : List SourceDocumentLink :=
  (derivedLinks platform run.ids run.answers (run.documents platform)).map Entry.row

def IsObservationOf (ids : Ids) (document : Document) (observation : DocumentObservation) : Prop :=
  ∃ isChanged, observation = (observationOf ids document isChanged).row

def ObservationsConverged (platform : Platform) (run : DailyRun) (db : Database) : Prop :=
  (∀ observation ∈ db.observations.rows, observation.dataVersion = run.ids.dataVersion →
      ∃ document ∈ run.documents platform, IsObservationOf run.ids document observation) ∧
    ∀ document ∈ run.documents platform, ∃ observation ∈ db.observations.rows,
      IsObservationOf run.ids document observation

structure Converged
    (platform : Platform)
    (run : DailyRun)
    (db : Database) : Prop where
  facts : ∀ fact,
    (fact ∈ db.facts.rows ∧ fact.dataVersion = run.ids.dataVersion ∧
        fact.factNamespace = sourceName ∧ fact.isHeld = true) ↔
      fact ∈ derivedFactRows platform run
  links : ∀ link,
    (link ∈ db.links.rows ∧ link.dataVersion = run.ids.dataVersion ∧ link.isAuto = true) ↔
      link ∈ derivedLinkRows platform run
  observations : ObservationsConverged platform run db
  counts : ∃ transform ∈ db.transformRuns.rows,
    transform.transformRunId = transformRunIdFor platform run.ids ∧
      transform.validationReport.documentCount = some (db.documentCount run.ids.dataVersion) ∧
      transform.validationReport.candidateFactCount = some (db.factCount run.ids.dataVersion) ∧
      transform.validationReport.linkedDocumentCount =
        some (db.links.rows.filter fun link =>
          link.dataVersion = run.ids.dataVersion && link.isAuto).length
  validates :
    0 < db.factCount run.ids.dataVersion ∨ db.documentCount run.ids.dataVersion = 0 →
      ∃ state, readValidationState db run.ids.dataVersion = some state ∧ state.pass = true

/--
A fact that a run keeps is one that its report gives again, and so is none of
another namespace.
-/
def FactsAgree (platform : Platform) (db : Database) (run : DailyRun) : Prop :=
  ∀ fact ∈ db.facts.rows, fact.dataVersion = run.ids.dataVersion →
    (fact.factNamespace = sourceName →
        fact.isHeld = false ∨ fact.documentId ∈ (run.documents platform).map Document.documentId →
          fact.key ∈ run.factKeys platform) ∧
      (fact.key ∈ run.factKeys platform → fact.factNamespace = sourceName)

def LinksAgree (platform : Platform) (db : Database) (run : DailyRun) : Prop :=
  ∀ link ∈ db.links.rows, link.dataVersion = run.ids.dataVersion → link.isAuto = true →
    link.documentId ∈ (run.documents platform).map Document.documentId →
      ∃ new ∈ derivedLinks platform run.ids run.answers (run.documents platform),
        new.row.documentId = link.documentId

def observationKey (ids : Ids) (document : Document) : JsText × JsText × JsText :=
  (observationOf ids document false).row.key

/--
A document that was observed and is in the report is observed on the same page
and surface, and the crawl that observed it was the same.
-/
def ObservationsAgree (platform : Platform) (db : Database) (run : DailyRun) : Prop :=
  ∀ observation ∈ db.observations.rows,
    (observation.dataVersion = run.ids.dataVersion →
        observation.crawlRunId = run.ids.runId ∧
          (observation.documentId ∈ (run.documents platform).map Document.documentId →
            ∃ document ∈ run.documents platform,
              observation.key = observationKey run.ids document)) ∧
      ∀ document ∈ run.documents platform,
        observation.key = observationKey run.ids document →
          observation.dataVersion = run.ids.dataVersion ∧
            observation.sourceSurface = document.sourceSurface

/-- The rows of the state before a run agree with those that its report gives. -/
structure Reconcilable
    (platform : Platform)
    (db : Database)
    (run : DailyRun) : Prop where
  distinct : ((run.documents platform).map Document.documentId).Nodup
  facts : FactsAgree platform db run
  links : LinksAgree platform db run
  observations : ObservationsAgree platform db run

structure OwnRuns
    (platform : Platform)
    (ids : Ids)
    (db : Database) : Prop where
  crawl : ∀ run ∈ db.crawlRuns.rows, run.dataVersion = ids.dataVersion → run.crawlRunId = ids.runId
  transform : ∀ run ∈ db.transformRuns.rows,
    run.dataVersion = ids.dataVersion ↔ run.transformRunId = transformRunIdFor platform ids

theorem mem_documentIdsOf {documents : List Document} {id : JsText} :
    id ∈ documentIdsOf documents ↔ id ∈ documents.map Document.documentId :=
  List.mem_eraseDups

def factNames : List String :=
  ["source_record_id", "category", "title_en", "hkex_code", "published_at", "document_url"]

theorem factFields_names (document : Document) :
    (factFields document).map FactField.field = factNames :=
  rfl

theorem factKeyText_injOn :
    ∀ first ∈ factNames, ∀ second ∈ factNames,
      text "document." ++ text first = text "document." ++ text second → first = second := by
  decide +kernel

theorem documentFactKeys_nodup (platform : Platform) (ids : Ids) (document : Document) :
    (documentFactKeys platform ids document).Nodup := by
  have hsub : ((fieldsWithValue document).map FactField.field).Sublist factNames := by
    rw [← factFields_names document, fieldsWithValue]
    exact List.filter_sublist.map _
  have hkeys : documentFactKeys platform ids document =
      ((fieldsWithValue document).map FactField.field).map
        (factKeyFor platform ids document) := by
    rw [List.map_map]
    rfl
  rw [hkeys]
  refine List.Nodup.map_on ?_ ((by decide : factNames.Nodup).sublist hsub)
  intro first hfirst second hsecond heq
  exact factKeyText_injOn first (hsub.subset hfirst) second (hsub.subset hsecond)
    (congrArg FactKey.factKey heq)

/-- Documents that come once give each key once. -/
theorem factKeys_nodup {platform : Platform} {run : DailyRun}
    (h : ((run.documents platform).map Document.documentId).Nodup) :
    (run.factKeys platform).Nodup := by
  unfold DailyRun.factKeys
  generalize run.documents platform = documents at h
  induction documents with
  | nil => exact List.nodup_nil
  | cons document rest ih =>
    rw [List.map_cons, List.nodup_cons] at h
    rw [List.flatMap_cons, List.nodup_append]
    refine ⟨documentFactKeys_nodup platform run.ids document, ih h.2, ?_⟩
    rintro key hkey _ hother rfl
    obtain ⟨field, -, rfl⟩ := List.mem_map.mp hkey
    obtain ⟨other, hmem, hotherKey⟩ := List.mem_flatMap.mp hother
    obtain ⟨otherField, -, heq⟩ := List.mem_map.mp hotherKey
    refine h.1 (List.mem_map.mpr ⟨other, hmem, ?_⟩)
    exact congrArg FactKey.documentId heq

section Facts

theorem derivedFactRows_keys :
    (derivedFactRows platform run).map ExtractedFact.key = run.factKeys platform := by
  rw [derivedFactRows, List.map_map, ← factKeys_eq]
  rfl

variable {fact : ExtractedFact}

/-- What a row that a report gives is, whatever the table held. -/
theorem spec_of_mem_derivedFactRows (h : fact ∈ derivedFactRows platform run) :
    fact.isHeld = true ∧ fact.dataVersion = run.ids.dataVersion ∧
      fact.factNamespace = sourceName ∧
      fact.documentId ∈ (run.documents platform).map Document.documentId ∧
      fact.key ∈ run.factKeys platform := by
  obtain ⟨new, hnew, rfl⟩ := List.mem_map.mp h
  obtain ⟨hheld, hversion, hnamespace, hdocument⟩ := isHeld_of_mem_derivedFacts hnew
  refine ⟨hheld, hversion, hnamespace, mem_documentIdsOf.mp hdocument, ?_⟩
  rw [← derivedFactRows_keys]
  exact List.mem_map_of_mem (List.mem_map_of_mem hnew)

theorem keepsFact_iff :
    keepsFact run.ids (documentIdsOf (run.documents platform)) fact = true ↔
      (fact.dataVersion = run.ids.dataVersion → fact.factNamespace = sourceName →
        fact.isHeld = true →
          fact.documentId ∈ (run.documents platform).map Document.documentId) := by
  rw [← mem_documentIdsOf]
  grind [keepsFact]

theorem mem_facts_iff (htransformed : Transformed platform db after run)
    (hdistinct : ((run.documents platform).map Document.documentId).Nodup) :
    fact ∈ after.facts.rows ↔
      (fact ∈ db.facts.rows ∧
          keepsFact run.ids (documentIdsOf (run.documents platform)) fact = true ∧
          fact.key ∉ run.factKeys platform) ∨
        ∃ new ∈ derivedFactRows platform run,
          fact = (db.facts.keep (keepsFact run.ids
            (documentIdsOf (run.documents platform)))).merged mergeFact new := by
  have hkeys : ((derivedFacts platform run.ids run.answers (run.documents platform)).map
      fun new => new.row.key).Nodup := by
    rw [factKeys_eq]
    exact factKeys_nodup hdistinct
  have hnone : (∀ new ∈ derivedFacts platform run.ids run.answers (run.documents platform),
      fact.key ≠ new.row.key) ↔ fact.key ∉ run.factKeys platform := by
    rw [← factKeys_eq, List.mem_map]
    exact ⟨fun h ⟨new, hnew, hkey⟩ => h new hnew hkey.symm,
      fun h new hnew hkey => h ⟨new, hnew, hkey.symm⟩⟩
  rw [mem_upsertAll htransformed.facts_eq hkeys, mem_keep, and_assoc, hnone]
  refine or_congr Iff.rfl ⟨?_, ?_⟩
  · rintro ⟨new, hnew, hfact⟩
    exact ⟨new.row, List.mem_map_of_mem hnew, hfact⟩
  · rintro ⟨_, hrow, hfact⟩
    obtain ⟨new, hnew, rfl⟩ := List.mem_map.mp hrow
    exact ⟨new, hnew, hfact⟩

theorem merged_fact_eq {table : Table JsText ExtractedFact.key} {new : ExtractedFact}
    (hnew : new.factNamespace = sourceName)
    (h : ∀ old ∈ table.rows, old.key = new.key → old.factNamespace = sourceName) :
    table.merged mergeFact new = new := by
  unfold Table.merged
  split
  · next old hold =>
      obtain ⟨hmem, hkey⟩ := find_eq_some.mp hold
      change { new with factNamespace := old.factNamespace } = new
      rw [h old hmem hkey, ← hnew]
  · rfl

def countedFacts (db : Database) (dataVersion : JsText) : List ExtractedFact :=
  db.facts.rows.filter fun row => row.dataVersion = dataVersion && row.factNamespace = sourceName

theorem mem_countedFacts {dataVersion : JsText} :
    fact ∈ countedFacts db dataVersion ↔
      fact ∈ db.facts.rows ∧ fact.dataVersion = dataVersion ∧
        fact.factNamespace = sourceName := by
  simp [countedFacts]

theorem nodup_countedFacts (dataVersion : JsText) : (countedFacts db dataVersion).Nodup :=
  (List.Nodup.of_map _ (nodup_keys db.facts)).sublist List.filter_sublist

theorem nodup_derivedFactRows
    (hdistinct : ((run.documents platform).map Document.documentId).Nodup) :
    (derivedFactRows platform run).Nodup := by
  refine List.Nodup.of_map ExtractedFact.key ?_
  rw [derivedFactRows_keys]
  exact factKeys_nodup hdistinct

theorem mem_countedFacts_of_agree (htransformed : Transformed platform db after run)
    (hdistinct : ((run.documents platform).map Document.documentId).Nodup)
    (hagree : FactsAgree platform db run) :
    fact ∈ countedFacts after run.ids.dataVersion ↔ fact ∈ derivedFactRows platform run := by
  have hmerged : ∀ new ∈ derivedFactRows platform run,
      (db.facts.keep (keepsFact run.ids
        (documentIdsOf (run.documents platform)))).merged mergeFact new = new := by
    intro new hnew
    obtain ⟨-, hversion, hnamespace, -, hkey⟩ := spec_of_mem_derivedFactRows hnew
    refine merged_fact_eq hnamespace fun old hold hsame => ?_
    have holdVersion : old.dataVersion = run.ids.dataVersion :=
      (congrArg FactKey.dataVersion hsame).trans hversion
    exact (hagree old (mem_keep.mp hold).1 holdVersion).2 (hsame ▸ hkey)
  rw [mem_countedFacts, mem_facts_iff htransformed hdistinct]
  constructor
  · rintro ⟨⟨hold, hkept, hkey⟩ | ⟨new, hnew, rfl⟩, hversion, hnamespace⟩
    · refine absurd ((hagree fact hold hversion).1 hnamespace ?_) hkey
      cases hheld : fact.isHeld with
      | false => exact .inl rfl
      | true => exact .inr (keepsFact_iff.mp hkept hversion hnamespace hheld)
    · rw [hmerged new hnew]
      exact hnew
  · intro hfact
    obtain ⟨-, hversion, hnamespace, -, -⟩ := spec_of_mem_derivedFactRows hfact
    exact ⟨.inr ⟨fact, hfact, (hmerged fact hfact).symm⟩, hversion, hnamespace⟩

theorem facts_converge_iff (htransformed : Transformed platform db after run)
    (hdistinct : ((run.documents platform).map Document.documentId).Nodup) :
    ((∀ fact, (fact ∈ after.facts.rows ∧ fact.dataVersion = run.ids.dataVersion ∧
          fact.factNamespace = sourceName ∧ fact.isHeld = true) ↔
        fact ∈ derivedFactRows platform run) ∧
      after.factCount run.ids.dataVersion = (derivedFactRows platform run).length) ↔
      FactsAgree platform db run := by
  constructor
  · rintro ⟨hheld, hcount⟩ fact hfact hversion
    constructor
    · intro hnamespace hstays
      by_contra hkey
      have hkept : keepsFact run.ids (documentIdsOf (run.documents platform)) fact = true := by
        refine keepsFact_iff.mpr fun _ _ hfactHeld => ?_
        exact hstays.resolve_left (by simp [hfactHeld])
      have hafter := (mem_facts_iff htransformed hdistinct).mpr (.inl ⟨hfact, hkept, hkey⟩)
      have hnot : fact ∉ derivedFactRows platform run := fun hderived =>
        hkey (spec_of_mem_derivedFactRows hderived).2.2.2.2
      -- The fact counts beside those of the report, so the count is too high.
      have hsub : fact :: derivedFactRows platform run ⊆
          countedFacts after run.ids.dataVersion := by
        refine List.cons_subset.mpr
          ⟨mem_countedFacts.mpr ⟨hafter, hversion, hnamespace⟩, fun other hother => ?_⟩
        obtain ⟨hotherAfter, hotherVersion, hotherNamespace, -⟩ := (hheld other).mpr hother
        exact mem_countedFacts.mpr ⟨hotherAfter, hotherVersion, hotherNamespace⟩
      have hlength := (List.subperm_of_subset
        (List.nodup_cons.mpr ⟨hnot, nodup_derivedFactRows hdistinct⟩) hsub).length_le
      rw [List.length_cons] at hlength
      exact absurd hcount (by rw [Database.factCount, ← countedFacts]; omega)
    · intro hkey
      by_contra hnamespace
      have hkept : keepsFact run.ids (documentIdsOf (run.documents platform)) fact = true :=
        keepsFact_iff.mpr fun _ hsame => absurd hsame hnamespace
      rw [← derivedFactRows_keys] at hkey
      obtain ⟨new, hnew, hsame⟩ := List.mem_map.mp hkey
      obtain ⟨hnewAfter, -, hnewNamespace, -⟩ := (hheld new).mpr hnew
      have hmergedAfter := (mem_facts_iff htransformed hdistinct).mpr (.inr ⟨new, hnew, rfl⟩)
      have heq := eq_of_key_eq hmergedAfter hnewAfter (key_merged mergeFact _ new)
      have hfind : (db.facts.keep (keepsFact run.ids
          (documentIdsOf (run.documents platform)))).find new.key = some fact :=
        find_eq_some.mpr ⟨mem_keep.mpr ⟨hfact, hkept⟩, hsame.symm⟩
      rw [Table.merged, hfind] at heq
      exact hnamespace ((congrArg ExtractedFact.factNamespace heq).trans hnewNamespace)
  · intro hagree
    have hcounted : ∀ fact, fact ∈ countedFacts after run.ids.dataVersion ↔
        fact ∈ derivedFactRows platform run := fun _ =>
      mem_countedFacts_of_agree htransformed hdistinct hagree
    constructor
    · intro fact
      rw [← hcounted, mem_countedFacts]
      constructor
      · rintro ⟨hafter, hversion, hnamespace, -⟩
        exact ⟨hafter, hversion, hnamespace⟩
      · rintro ⟨hafter, hversion, hnamespace⟩
        have hderived := (hcounted fact).mp (mem_countedFacts.mpr ⟨hafter, hversion, hnamespace⟩)
        exact ⟨hafter, hversion, hnamespace, (spec_of_mem_derivedFactRows hderived).1⟩
    · exact ((List.perm_ext_iff_of_nodup (nodup_countedFacts _)
        (nodup_derivedFactRows hdistinct)).mpr hcounted).length_eq

end Facts

section Links

/-- A new link removes the row of its key, and the automatic links of its document. -/
def Replaces (new link : SourceDocumentLink) : Prop :=
  link.documentId = new.documentId ∧ link.dataVersion = new.dataVersion ∧
    (link.linkType = new.linkType ∨ link.isAuto = true)

variable {link : SourceDocumentLink}
variable {links next : Table JsText SourceDocumentLink.key}

theorem mem_upsertLink {new : Entry JsText SourceDocumentLink}
    (h : upsertIpoSourceDocumentLink links new = some next) :
    link ∈ next.rows ↔ (link ∈ links.rows ∧ ¬Replaces new.row link) ∨ link = new.row := by
  have hmerged (table : Table JsText SourceDocumentLink.key) :
      table.merged mergeLink new.row = new.row := by
    unfold Table.merged
    split <;> rfl
  rw [mem_upsert h, mem_keep, hmerged, and_assoc]
  refine or_congr (and_congr_right fun _ => ?_) Iff.rfl
  grind [Replaces, SourceDocumentLink.key]

theorem mem_upsertLinks {news : List (Entry JsText SourceDocumentLink)}
    (h : upsertLinks links news = some next)
    (hdistinct : (news.map fun new => new.row.documentId).Nodup) :
    link ∈ next.rows ↔
      (link ∈ links.rows ∧ ∀ new ∈ news, ¬Replaces new.row link) ∨
        ∃ new ∈ news, link = new.row := by
  induction news generalizing links with
  | nil =>
    obtain rfl := Option.some.inj h
    simp
  | cons new rest ih =>
    obtain ⟨first, hfirst, hrest⟩ := Option.bind_eq_some_iff.mp h
    rw [List.map_cons, List.nodup_cons] at hdistinct
    have hother : ∀ other ∈ rest, ¬Replaces other.row new.row := by
      intro other hmem hreplaces
      exact hdistinct.1 (List.mem_map.mpr ⟨other, hmem, hreplaces.1.symm⟩)
    rw [ih hrest hdistinct.2, mem_upsertLink hfirst]
    constructor
    · rintro (⟨⟨hlink, hnew⟩ | rfl, hnone⟩ | ⟨other, hmem, rfl⟩)
      · exact .inl ⟨hlink, List.forall_mem_cons.mpr ⟨hnew, hnone⟩⟩
      · exact .inr ⟨new, List.mem_cons_self, rfl⟩
      · exact .inr ⟨other, List.mem_cons_of_mem _ hmem, rfl⟩
    · rintro (⟨hlink, hnone⟩ | ⟨other, hmem, rfl⟩)
      · obtain ⟨hnew, hnone⟩ := List.forall_mem_cons.mp hnone
        exact .inl ⟨.inl ⟨hlink, hnew⟩, hnone⟩
      · rcases List.mem_cons.mp hmem with rfl | hmem
        · exact .inl ⟨.inr rfl, hother⟩
        · exact .inr ⟨other, hmem, rfl⟩

theorem matchedBy_isAuto {answers : EntityAnswers} {document : Document}
    (h : (resolveIpoEntityLink answers document).isLinked = true) :
    autoIpoLinkMatchedBy.contains ((resolveIpoEntityLink answers document).matchedBy.getD []) =
      true := by
  unfold resolveIpoEntityLink at h ⊢
  cases hcode : normalizeHkexCode document.hkexCode with
  | none => simp [hcode, EntityLink.isLinked, truthy] at h
  | some code =>
    rw [hcode] at h
    simp only [EntityLink.isLinked] at h
    simp only [entityLinkMatchedBy]
    split
    · simp [autoIpoLinkMatchedBy]
    split
    · simp [autoIpoLinkMatchedBy]
    split
    · simp [autoIpoLinkMatchedBy]
    · simp_all

theorem spec_of_mem_derivedLinkRows (h : link ∈ derivedLinkRows platform run) :
    link.dataVersion = run.ids.dataVersion ∧ link.isAuto = true ∧
      link.documentId ∈ (run.documents platform).map Document.documentId := by
  obtain ⟨new, hnew, rfl⟩ := List.mem_map.mp h
  obtain ⟨document, hdocument, hlink⟩ := List.mem_filterMap.mp hnew
  unfold linkForDocument at hlink
  dsimp only at hlink
  split at hlink
  · next hlinked =>
      rw [← Option.some.inj hlink]
      exact ⟨rfl, matchedBy_isAuto hlinked, List.mem_map_of_mem hdocument⟩
  · cases hlink

theorem derivedLinks_nodup (hdistinct : ((run.documents platform).map Document.documentId).Nodup) :
    ((derivedLinks platform run.ids run.answers (run.documents platform)).map
      fun new => new.row.documentId).Nodup := by
  refine hdistinct.sublist ?_
  generalize run.documents platform = documents
  induction documents with
  | nil => exact List.Sublist.refl _
  | cons document rest ih =>
    rw [derivedLinks_cons, List.map_append, List.map_cons]
    cases hlink : linkForDocument platform run.ids document
        (resolveIpoEntityLink run.answers document) with
    | none => exact ih.cons _
    | some row =>
      have hid : row.row.documentId = document.documentId := by
        unfold linkForDocument at hlink
        dsimp only at hlink
        split at hlink
        · rw [← Option.some.inj hlink]
        · cases hlink
      rw [Option.toList_some, List.map_singleton, hid]
      exact ih.cons_cons _

theorem keepsLink_iff :
    keepsLink run.ids (documentIdsOf (run.documents platform)) link = true ↔
      (link.dataVersion = run.ids.dataVersion → link.isAuto = true →
        link.documentId ∈ (run.documents platform).map Document.documentId) := by
  rw [← mem_documentIdsOf]
  grind [keepsLink]

theorem links_converge_iff (htransformed : Transformed platform db after run)
    (hdistinct : ((run.documents platform).map Document.documentId).Nodup) :
    (∀ link, (link ∈ after.links.rows ∧ link.dataVersion = run.ids.dataVersion ∧
        link.isAuto = true) ↔ link ∈ derivedLinkRows platform run) ↔
      LinksAgree platform db run := by
  have hafter (link : SourceDocumentLink) :
      link ∈ after.links.rows ↔ _ :=
    mem_upsertLinks htransformed.links_eq (derivedLinks_nodup hdistinct)
  constructor
  · intro hlinks link hlink hversion hauto hdocument
    by_contra hnone
    have hstays : link ∈ after.links.rows := by
      refine (hafter link).mpr (.inl ⟨mem_keep.mpr ⟨hlink, ?_⟩, fun new hnew hreplaces => ?_⟩)
      · exact keepsLink_iff.mpr fun _ _ => hdocument
      · exact hnone ⟨new, hnew, hreplaces.1.symm⟩
    obtain ⟨new, hnew, rfl⟩ := List.mem_map.mp ((hlinks link).mp ⟨hstays, hversion, hauto⟩)
    exact hnone ⟨new, hnew, rfl⟩
  · intro hagree link
    constructor
    · rintro ⟨hstays, hversion, hauto⟩
      rcases (hafter link).mp hstays with ⟨hold, hnone⟩ | ⟨new, hnew, rfl⟩
      · obtain ⟨hlink, hkept⟩ := mem_keep.mp hold
        obtain ⟨new, hnew, hsame⟩ :=
          hagree link hlink hversion hauto (keepsLink_iff.mp hkept hversion hauto)
        have hnewVersion := (spec_of_mem_derivedLinkRows (List.mem_map_of_mem hnew)).1
        exact absurd ⟨hsame.symm, hversion.trans hnewVersion.symm, .inr hauto⟩ (hnone new hnew)
      · exact List.mem_map_of_mem hnew
    · intro hlink
      obtain ⟨hversion, hauto, -⟩ := spec_of_mem_derivedLinkRows hlink
      obtain ⟨new, hnew, rfl⟩ := List.mem_map.mp hlink
      exact ⟨(hafter _).mpr (.inr ⟨new, hnew, rfl⟩), hversion, hauto⟩

end Links

section Observations

theorem news_spec {ids : Ids} {documents : List Document}
    {news : List (Entry JsText DocumentObservation)}
    (h : List.Forall₂
      (fun document new => ∃ isChanged, new = observationOf ids document isChanged)
      documents news) :
    (∀ new ∈ news, ∃ document ∈ documents, IsObservationOf ids document new.row) ∧
      (∀ document ∈ documents, ∃ new ∈ news, IsObservationOf ids document new.row) ∧
      (news.map fun new => new.row.key) = documents.map (observationKey ids) := by
  induction h with
  | nil => simp
  | @cons document new documents news hfirst _ ih =>
    obtain ⟨isChanged, rfl⟩ := hfirst
    obtain ⟨hnews, hdocuments, hkeys⟩ := ih
    refine ⟨List.forall_mem_cons.mpr ⟨⟨document, List.mem_cons_self, isChanged, rfl⟩, ?_⟩,
      List.forall_mem_cons.mpr ⟨⟨_, List.mem_cons_self, isChanged, rfl⟩, ?_⟩, ?_⟩
    · intro other hother
      obtain ⟨document', hmem, hspec⟩ := hnews other hother
      exact ⟨document', List.mem_cons_of_mem _ hmem, hspec⟩
    · intro other hother
      obtain ⟨new', hmem, hspec⟩ := hdocuments other hother
      exact ⟨new', List.mem_cons_of_mem _ hmem, hspec⟩
    · rw [List.map_cons, List.map_cons, hkeys]
      rfl

variable {observation : DocumentObservation}

theorem keepsObservation_iff :
    keepsObservation run.ids (documentIdsOf (run.documents platform)) observation = true ↔
      (observation.crawlRunId = run.ids.runId → observation.dataVersion = run.ids.dataVersion →
        observation.documentId ∈ (run.documents platform).map Document.documentId) := by
  rw [← mem_documentIdsOf]
  grind [keepsObservation]

theorem mem_observations_iff (htransformed : Transformed platform db after run)
    (hdistinct : ((run.documents platform).map Document.documentId).Nodup) :
    ∃ news : List DocumentObservation,
      (∀ new ∈ news, ∃ document ∈ run.documents platform, IsObservationOf run.ids document new) ∧
      (∀ document ∈ run.documents platform, ∃ new ∈ news, IsObservationOf run.ids document new) ∧
      ∀ observation, observation ∈ after.observations.rows ↔
        ((observation ∈ db.observations.rows ∧
            ∀ document ∈ run.documents platform,
              observation.key ≠ observationKey run.ids document) ∨
          ∃ new ∈ news, observation = db.observations.merged mergeObservation new) ∧
        keepsObservation run.ids (documentIdsOf (run.documents platform)) observation = true := by
  obtain ⟨news, observations, hnews, hupserts, hafter⟩ := htransformed.observed
  obtain ⟨hofDocument, hofNews, hkeys⟩ := news_spec hnews
  have hnodup : (news.map fun new => new.row.key).Nodup := by
    rw [hkeys]
    refine List.Nodup.of_map Prod.fst ?_
    rw [List.map_map]
    exact hdistinct
  refine ⟨news.map Entry.row, ?_, ?_, fun observation => ?_⟩
  · intro new hnew
    obtain ⟨entry, hentry, rfl⟩ := List.mem_map.mp hnew
    exact hofDocument entry hentry
  · intro document hdocument
    obtain ⟨entry, hentry, hspec⟩ := hofNews document hdocument
    exact ⟨entry.row, List.mem_map_of_mem hentry, hspec⟩
  · have hnone : (∀ new ∈ news, observation.key ≠ new.row.key) ↔
        ∀ document ∈ run.documents platform,
          observation.key ≠ observationKey run.ids document := by
      have hmem : observation.key ∈ (news.map fun new => new.row.key) ↔
          observation.key ∈ (run.documents platform).map (observationKey run.ids) := by
        rw [hkeys]
      simp only [List.mem_map] at hmem
      constructor
      · intro h document hdocument hkey
        obtain ⟨new, hnew, hsame⟩ := hmem.mpr ⟨document, hdocument, hkey.symm⟩
        exact h new hnew hsame.symm
      · intro h new hnew hkey
        obtain ⟨document, hdocument, hsame⟩ := hmem.mp ⟨new, hnew, hkey.symm⟩
        exact h document hdocument hsame.symm
    rw [hafter, mem_keep, mem_upsertAll hupserts hnodup, hnone]
    refine and_congr (or_congr Iff.rfl ⟨?_, ?_⟩) Iff.rfl
    · rintro ⟨new, hnew, hmerged⟩
      exact ⟨new.row, List.mem_map_of_mem hnew, hmerged⟩
    · rintro ⟨_, hrow, hmerged⟩
      obtain ⟨new, hnew, rfl⟩ := List.mem_map.mp hrow
      exact ⟨new, hnew, hmerged⟩

theorem IsObservationOf.spec {ids : Ids} {document : Document}
    (h : IsObservationOf ids document observation) :
    observation.key = observationKey ids document ∧ observation.dataVersion = ids.dataVersion ∧
      observation.crawlRunId = ids.runId ∧ observation.documentId = document.documentId ∧
      observation.sourceSurface = document.sourceSurface := by
  obtain ⟨isChanged, rfl⟩ := h
  exact ⟨rfl, rfl, rfl, rfl, rfl⟩

theorem merged_observation_eq {table : Table JsText DocumentObservation.key}
    {new : DocumentObservation}
    (h : ∀ old ∈ table.rows, old.key = new.key →
      old.dataVersion = new.dataVersion ∧ old.sourceSurface = new.sourceSurface) :
    table.merged mergeObservation new = new := by
  unfold Table.merged
  split
  · next old hold =>
      obtain ⟨hmem, hkey⟩ := find_eq_some.mp hold
      obtain ⟨hversion, hsurface⟩ := h old hmem hkey
      change { new with dataVersion := old.dataVersion, sourceSurface := old.sourceSurface } = new
      rw [hversion, hsurface]
  · rfl

theorem observations_converge_iff (htransformed : Transformed platform db after run)
    (hdistinct : ((run.documents platform).map Document.documentId).Nodup) :
    ObservationsConverged platform run after ↔ ObservationsAgree platform db run := by
  obtain ⟨news, hofDocument, hofNews, hafter⟩ := mem_observations_iff htransformed hdistinct
  constructor
  · rintro ⟨hall, heach⟩ observation hobservation
    constructor
    · intro hversion
      by_cases hkey : ∃ document ∈ run.documents platform,
          observation.key = observationKey run.ids document
      · obtain ⟨document, hdocument, hsame⟩ := hkey
        exact ⟨congrArg (·.2.1) hsame, fun _ => ⟨document, hdocument, hsame⟩⟩
      · -- The observation stays unless it is one of a document that is gone.
        have hnone : ∀ document ∈ run.documents platform,
            observation.key ≠ observationKey run.ids document :=
          fun document hdocument hsame => hkey ⟨document, hdocument, hsame⟩
        have hgone : keepsObservation run.ids (documentIdsOf (run.documents platform))
            observation = false := by
          by_contra hkept
          rw [Bool.not_eq_false] at hkept
          obtain ⟨document, hdocument, hspec⟩ := hall observation
            ((hafter observation).mpr ⟨.inl ⟨hobservation, hnone⟩, hkept⟩) hversion
          exact hnone document hdocument hspec.spec.1
        have hnot := mt keepsObservation_iff.mpr (by rw [hgone]; exact Bool.false_ne_true)
        push Not at hnot
        obtain ⟨hrun, -, hdocument⟩ := hnot
        exact ⟨hrun, fun hmem => absurd hmem hdocument⟩
    · intro document hdocument hkey
      obtain ⟨present, hpresent, hspec⟩ := heach document hdocument
      obtain ⟨hpresentKey, hpresentVersion, -, -, hpresentSurface⟩ := hspec.spec
      obtain ⟨new, hnew, hnewSpec⟩ := hofNews document hdocument
      rcases (hafter present).mp hpresent with ⟨⟨-, hnone⟩ | ⟨other, hother, hmerged⟩, -⟩
      · exact absurd hpresentKey (hnone document hdocument)
      · have hotherKey : other.key = observation.key := by
          rw [← key_merged mergeObservation db.observations other, ← hmerged, hpresentKey, hkey]
        have hfind : db.observations.find other.key = some observation :=
          find_eq_some.mpr ⟨hobservation, hotherKey.symm⟩
        rw [Table.merged, hfind] at hmerged
        have hmergedVersion : present.dataVersion = observation.dataVersion := by
          rw [hmerged]
          rfl
        have hmergedSurface : present.sourceSurface = observation.sourceSurface := by
          rw [hmerged]
          rfl
        exact ⟨hmergedVersion ▸ hpresentVersion, hmergedSurface ▸ hpresentSurface⟩
  · intro hagree
    have hmerged : ∀ document ∈ run.documents platform, ∀ new,
        IsObservationOf run.ids document new →
          db.observations.merged mergeObservation new = new := by
      intro document hdocument new hspec
      obtain ⟨hkey, hversion, -, -, hsurface⟩ := hspec.spec
      refine merged_observation_eq fun old hold hsame => ?_
      obtain ⟨holdVersion, holdSurface⟩ := (hagree old hold).2 document hdocument
        (hsame.trans hkey)
      exact ⟨holdVersion.trans hversion.symm, holdSurface.trans hsurface.symm⟩
    constructor
    · intro observation hobservation hversion
      obtain ⟨⟨hold, hnone⟩ | ⟨new, hnew, rfl⟩, hkept⟩ := (hafter observation).mp hobservation
      · obtain ⟨hrun, hdocuments⟩ := (hagree observation hold).1 hversion
        obtain ⟨document, hdocument, hkey⟩ :=
          hdocuments (keepsObservation_iff.mp hkept hrun hversion)
        exact absurd hkey (hnone document hdocument)
      · obtain ⟨document, hdocument, hspec⟩ := hofDocument new hnew
        rw [hmerged document hdocument new hspec]
        exact ⟨document, hdocument, hspec⟩
    · intro document hdocument
      obtain ⟨new, hnew, hspec⟩ := hofNews document hdocument
      refine ⟨new, (hafter new).mpr
        ⟨.inr ⟨new, hnew, (hmerged document hdocument new hspec).symm⟩, ?_⟩, hspec⟩
      refine keepsObservation_iff.mpr fun _ _ => ?_
      rw [hspec.spec.2.2.2.1]
      exact List.mem_map_of_mem hdocument

def observedDocuments (db : Database) (dataVersion : JsText) : List JsText :=
  (db.observations.rows.filter fun row => row.dataVersion = dataVersion).map
    DocumentObservation.documentId

theorem mem_observedDocuments (h : ObservationsConverged platform run after) {id : JsText} :
    id ∈ observedDocuments after run.ids.dataVersion ↔
      id ∈ (run.documents platform).map Document.documentId := by
  simp only [observedDocuments, List.mem_map, List.mem_filter, decide_eq_true_eq]
  constructor
  · rintro ⟨observation, ⟨hobservation, hversion⟩, rfl⟩
    obtain ⟨document, hdocument, hspec⟩ := h.1 observation hobservation hversion
    exact ⟨document, hdocument, hspec.spec.2.2.2.1.symm⟩
  · rintro ⟨document, hdocument, rfl⟩
    obtain ⟨observation, hobservation, hspec⟩ := h.2 document hdocument
    exact ⟨observation, ⟨hobservation, hspec.spec.2.1⟩, hspec.spec.2.2.2.1⟩

/-- The documents that count are as many as the report has exactly when each comes once. -/
theorem documentCount_iff (h : ObservationsConverged platform run after) :
    after.documentCount run.ids.dataVersion = (run.documents platform).length ↔
      ((run.documents platform).map Document.documentId).Nodup := by
  have hcount : after.documentCount run.ids.dataVersion =
      ((run.documents platform).map Document.documentId).dedup.length := by
    refine ((List.perm_ext_iff_of_nodup (List.nodup_dedup _) (List.nodup_dedup _)).mpr
      fun id => ?_).length_eq
    rw [List.mem_dedup, List.mem_dedup]
    exact mem_observedDocuments h
  rw [hcount, ← List.dedup_eq_self]
  constructor
  · intro hlength
    refine (List.dedup_sublist _).eq_of_length ?_
    rw [hlength, List.length_map]
  · intro hself
    rw [hself, List.length_map]

end Observations

theorem latest_mem {α : Type} (completedAt : α → Option Int) (id : α → JsText) {rows : List α}
    (h : rows ≠ []) : ∃ row ∈ rows, latest completedAt id rows = some row := by
  induction rows with
  | nil => exact absurd rfl h
  | cons row rest ih =>
    rw [latest]
    cases hrest : latest completedAt id rest with
    | none => exact ⟨row, List.mem_cons_self, rfl⟩
    | some other =>
      have hsome : rest ≠ [] := by
        rintro rfl
        cases hrest
      obtain ⟨found, hfound, hlatest⟩ := ih hsome
      obtain rfl := Option.some.inj (hrest.symm.trans hlatest)
      dsimp only
      split
      · exact ⟨row, List.mem_cons_self, rfl⟩
      · exact ⟨other, List.mem_cons_of_mem _ hfound, rfl⟩

theorem latest_filter {α : Type} (completedAt : α → Option Int) (id : α → JsText)
    (condition : α → Bool) {rows : List α} {row : α} (hrow : row ∈ rows)
    (hcondition : condition row = true)
    (honly : ∀ other ∈ rows, condition other = true → other = row) :
    latest completedAt id (rows.filter condition) = some row := by
  have hmem : row ∈ rows.filter condition := List.mem_filter.mpr ⟨hrow, hcondition⟩
  obtain ⟨found, hfound, hlatest⟩ := latest_mem completedAt id (List.ne_nil_of_mem hmem)
  obtain ⟨hfoundRow, hfoundCondition⟩ := List.mem_filter.mp hfound
  rw [hlatest, honly found hfoundRow hfoundCondition]

theorem recorded_row (htransformed : Transformed platform db after run)
    (hown : OwnRuns platform run.ids db) :
    ∃ reconciliation, transformRow platform run reconciliation ∈ after.transformRuns.rows := by
  obtain ⟨reconciliation, hrecorded⟩ := htransformed.recorded
  refine ⟨reconciliation, (mem_upsert hrecorded).mpr (.inr ?_)⟩
  unfold Table.merged
  split
  · next old hold =>
      obtain ⟨hmem, hkey⟩ := find_eq_some.mp hold
      have hversion := (hown.transform old hmem).mpr hkey
      change _ = { transformRow platform run reconciliation with dataVersion := old.dataVersion }
      rw [hversion]
      rfl
  · rfl

theorem transform_ownRuns (htransformed : Transformed platform db after run)
    (hown : OwnRuns platform run.ids db) : OwnRuns platform run.ids after := by
  obtain ⟨new, hcrawl, hid, -, -, hversion⟩ := htransformed.crawled
  obtain ⟨reconciliation, hrecorded⟩ := htransformed.recorded
  constructor
  · intro other hother hsame
    rcases (mem_upsert hcrawl).mp hother with ⟨hold, -⟩ | rfl
    · exact hown.crawl other hold hsame
    · exact (key_merged mergeCrawlRun db.crawlRuns new.row).trans hid
  · intro other hother
    rcases (mem_upsert hrecorded).mp hother with ⟨hold, -⟩ | hmerged
    · exact hown.transform other hold
    · unfold Table.merged at hmerged
      split at hmerged
      · next old hold =>
          obtain ⟨hmem, hkey⟩ := find_eq_some.mp hold
          rw [hmerged]
          exact ⟨fun _ => rfl, fun _ => (hown.transform old hmem).mpr hkey⟩
      · rw [hmerged]
        exact ⟨fun _ => rfl, fun _ => rfl⟩

theorem readValidationState_pass (htransformed : Transformed platform db after run)
    (hown : OwnRuns platform run.ids db) {version : DataVersionRow}
    (hversion : after.dataVersions.find run.ids.dataVersion = some version)
    (hheld : version.releaseState = .held)
    (hdocuments : after.documentCount run.ids.dataVersion = (run.documents platform).length)
    (hfacts : after.factCount run.ids.dataVersion = (derivedFactRows platform run).length)
    (hsome : 0 < after.factCount run.ids.dataVersion ∨
      after.documentCount run.ids.dataVersion = 0) :
    ∃ state, readValidationState after run.ids.dataVersion = some state ∧ state.pass = true := by
  have hownAfter := transform_ownRuns htransformed hown
  obtain ⟨new, hcrawl, hid, hstatus, herrors, hnewVersion⟩ := htransformed.crawled
  obtain ⟨reconciliation, hrecorded⟩ := recorded_row htransformed hown
  -- The crawl that validates is the one of the run.
  have hcrawlRow : db.crawlRuns.merged mergeCrawlRun new.row ∈ after.crawlRuns.rows :=
    (mem_upsert hcrawl).mpr (.inr rfl)
  have hcrawlSpec : (db.crawlRuns.merged mergeCrawlRun new.row).status = .completed ∧
      (db.crawlRuns.merged mergeCrawlRun new.row).errorCount = 0 ∧
      (db.crawlRuns.merged mergeCrawlRun new.row).dataVersion = run.ids.dataVersion := by
    unfold Table.merged
    split
    · exact ⟨hstatus, herrors, hnewVersion⟩
    · exact ⟨hstatus, herrors, hnewVersion⟩
  have hlatestCrawl := latest_filter CrawlRun.completedAt CrawlRun.crawlRunId
    (fun row => row.dataVersion = run.ids.dataVersion) hcrawlRow
    (by simpa using hcrawlSpec.2.2) fun other hother hsame => eq_of_key_eq hother hcrawlRow
      ((hownAfter.crawl other hother (by simpa using hsame)).trans
        (hownAfter.crawl _ hcrawlRow hcrawlSpec.2.2).symm)
  have hlatestTransform := latest_filter TransformRun.completedAt TransformRun.transformRunId
    (fun row => row.dataVersion = run.ids.dataVersion) hrecorded
    (by simp [transformRow]) fun other hother hsame => eq_of_key_eq hother hrecorded
      ((hownAfter.transform other hother).mp (by simpa using hsame))
  refine ⟨_, by rw [readValidationState, hversion]; rfl, ?_⟩
  simp only [hlatestCrawl, hlatestTransform, Option.any_some, hcrawlSpec, hheld, transformRow,
    Option.bind_some, Option.all_some, hdocuments, hfacts, decide_true, Bool.true_and,
    Bool.and_true, derivedFactRows, List.length_map]
  rw [hdocuments, hfacts, derivedFactRows, List.length_map] at hsome
  simpa [or_comm] using hsome

section Law

theorem autoLinks_length
    (hlinks : ∀ link, (link ∈ after.links.rows ∧ link.dataVersion = run.ids.dataVersion ∧
      link.isAuto = true) ↔ link ∈ derivedLinkRows platform run)
    (hdistinct : ((run.documents platform).map Document.documentId).Nodup) :
    (after.links.rows.filter fun link =>
        link.dataVersion = run.ids.dataVersion && link.isAuto).length =
      (derivedLinkRows platform run).length := by
  have hrows : (after.links.rows.filter fun link =>
      link.dataVersion = run.ids.dataVersion && link.isAuto).Nodup :=
    (List.Nodup.of_map _ (nodup_keys after.links)).sublist List.filter_sublist
  have hderived : (derivedLinkRows platform run).Nodup := by
    refine List.Nodup.of_map SourceDocumentLink.documentId ?_
    rw [derivedLinkRows, List.map_map]
    exact derivedLinks_nodup hdistinct
  refine ((List.perm_ext_iff_of_nodup hrows hderived).mpr fun link => ?_).length_eq
  rw [← hlinks, List.mem_filter, Bool.and_eq_true, decide_eq_true_eq]

theorem transform_converges_iff (htransformed : Transformed platform db after run)
    (hown : OwnRuns platform run.ids db) {version : DataVersionRow}
    (hversion : after.dataVersions.find run.ids.dataVersion = some version)
    (hheld : version.releaseState = .held) :
    Converged platform run after ↔ Reconcilable platform db run := by
  obtain ⟨reconciliation, hrecorded⟩ := recorded_row htransformed hown
  constructor
  · intro hconverged
    obtain ⟨transform, htransform, hid, hdocuments, hfacts, -⟩ := hconverged.counts
    obtain rfl := eq_of_key_eq htransform hrecorded hid
    have hdistinct := (documentCount_iff hconverged.observations).mp
      (Option.some.inj hdocuments).symm
    refine {
      distinct := hdistinct
      facts := (facts_converge_iff htransformed hdistinct).mp ⟨hconverged.facts, ?_⟩
      links := (links_converge_iff htransformed hdistinct).mp hconverged.links
      observations :=
        (observations_converge_iff htransformed hdistinct).mp hconverged.observations }
    rw [derivedFactRows, List.length_map]
    exact (Option.some.inj hfacts).symm
  · intro hagree
    have hobservations :=
      (observations_converge_iff htransformed hagree.distinct).mpr hagree.observations
    have hdocuments := (documentCount_iff hobservations).mpr hagree.distinct
    obtain ⟨hfacts, hcount⟩ := (facts_converge_iff htransformed hagree.distinct).mpr hagree.facts
    have hlinks := (links_converge_iff htransformed hagree.distinct).mpr hagree.links
    have hlinkCount := autoLinks_length hlinks hagree.distinct
    exact {
      facts := hfacts
      links := hlinks
      observations := hobservations
      counts := by
        refine ⟨_, hrecorded, rfl, ?_, ?_, ?_⟩
        · rw [hdocuments]
          rfl
        · rw [hcount, derivedFactRows, List.length_map]
          rfl
        · rw [hlinkCount, derivedLinkRows, List.length_map]
          rfl
      validates :=
        readValidationState_pass htransformed hown hversion hheld hdocuments hcount }

theorem markFailed_rows {runs : Table JsText CrawlRun.crawlRunId} {now : Int}
    {condition : CrawlRun → Bool} {crawl : CrawlRun}
    (h : crawl ∈ (markFailed runs now condition).rows) :
    ∃ old ∈ runs.rows, crawl.crawlRunId = old.crawlRunId ∧ crawl.dataVersion = old.dataVersion := by
  obtain ⟨entry, hentry, rfl⟩ := List.mem_map.mp h
  obtain ⟨old, hold, rfl⟩ := List.mem_map.mp hentry
  refine ⟨old.row, List.mem_map_of_mem hold, ?_⟩
  split <;> exact ⟨rfl, rfl⟩

variable {started : Database}

theorem startRun_tables (h : startRun db run = some started) :
    (∃ (crawls : Table JsText CrawlRun.crawlRunId) (new : Entry JsText CrawlRun),
        (∀ crawl ∈ crawls.rows, ∃ old ∈ db.crawlRuns.rows,
          crawl.crawlRunId = old.crawlRunId ∧ crawl.dataVersion = old.dataVersion) ∧
        new.row.crawlRunId = run.ids.runId ∧
        crawls.upsert mergeCrawlRun new = some started.crawlRuns) ∧
      db.dataVersions.upsert mergeDataVersion {
          id := run.ids.dataVersion
          row := { dataVersion := run.ids.dataVersion, releaseState := .held } } =
        some started.dataVersions := by
  simp only [startRun, upsertDataVersion, upsertCrawlRun, Option.bind_eq_bind,
    Option.bind_eq_some_iff, Option.some.injEq] at h
  obtain ⟨_, ⟨dataVersions, hversions, rfl⟩, crawlRuns, hcrawls, rfl⟩ := h
  exact ⟨⟨_, _, fun crawl hcrawl => markFailed_rows hcrawl, rfl, hcrawls⟩, hversions⟩

theorem startRun_ownRuns (h : startRun db run = some started) (hown : OwnRuns platform run.ids db) :
    OwnRuns platform run.ids started := by
  obtain ⟨⟨crawls, new, hcrawls, hid, hupsert⟩, -⟩ := startRun_tables h
  constructor
  · intro crawl hcrawl hversion
    rcases (mem_upsert hupsert).mp hcrawl with ⟨hold, -⟩ | rfl
    · obtain ⟨old, hmem, hsameId, hsameVersion⟩ := hcrawls crawl hold
      exact hsameId.trans (hown.crawl old hmem (hsameVersion ▸ hversion))
    · exact (key_merged mergeCrawlRun crawls new.row).trans hid
  · rw [(startRun_spec h).2.2.2]
    exact hown.transform

theorem startRun_held (h : startRun db run = some started)
    (hheld : (db.dataVersions.find run.ids.dataVersion).all fun row => row.releaseState = .held) :
    ∃ version, started.dataVersions.find run.ids.dataVersion = some version ∧
      version.releaseState = .held := by
  obtain ⟨-, hversions⟩ := startRun_tables h
  refine ⟨_, find_eq_some.mpr ⟨(mem_upsert hversions).mpr (.inr rfl), key_merged _ _ _⟩, ?_⟩
  unfold Table.merged
  split
  · next old hold =>
      rw [hold, Option.all_some, decide_eq_true_eq] at hheld
      exact hheld
  · rfl

theorem run_ownRuns (run : DailyRun) (hown : OwnRuns platform run.ids db) :
    OwnRuns platform run.ids (runHkexDaily platform db run).1 := by
  unfold runHkexDaily
  split
  · exact hown
  split
  · exact hown
  split
  · exact hown
  cases hstarted : startRun db run with
  | none => exact hown
  | some started =>
    have hownStarted := startRun_ownRuns hstarted hown
    dsimp only
    split
    · refine ⟨fun crawl hcrawl hversion => ?_, hownStarted.transform⟩
      obtain ⟨old, hold, hsameId, hsameVersion⟩ := markFailed_rows hcrawl
      exact hsameId.trans (hownStarted.crawl old hold (hsameVersion ▸ hversion))
    split
    · exact hownStarted
    cases hafter : transformReport platform started run with
    | none => exact hownStarted
    | some after => exact transform_ownRuns (transformReport_spec hafter) hownStarted

/-- A run that commits leaves a converged data version exactly where the rows before it agree. -/
theorem run_converges_iff (hown : OwnRuns platform run.ids db)
    (hcommitted : (runHkexDaily platform db run).2 = .committed) :
    Converged platform run (runHkexDaily platform db run).1 ↔ Reconcilable platform db run := by
  rcases runHkexDaily_cases platform db run with
    ⟨-, hnot⟩ | ⟨started, hstarted, htransform, -, -, -, -, -, hheld⟩
  · exact absurd hcommitted hnot
  · have htransformed := transformReport_spec htransform
    obtain ⟨version, hversion, hversionHeld⟩ := startRun_held hstarted hheld
    rw [transform_converges_iff htransformed (startRun_ownRuns hstarted hown)
      (htransformed.dataVersions_eq ▸ hversion) hversionHeld]
    obtain ⟨hfacts, hlinks, hobservations, -⟩ := startRun_spec hstarted
    constructor
    · rintro ⟨hdistinct, hf, hl, ho⟩
      exact ⟨hdistinct, by rwa [FactsAgree, ← hfacts], by rwa [LinksAgree, ← hlinks],
        by rwa [ObservationsAgree, ← hobservations]⟩
    · rintro ⟨hdistinct, hf, hl, ho⟩
      exact ⟨hdistinct, by rwa [FactsAgree, hfacts], by rwa [LinksAgree, hlinks],
        by rwa [ObservationsAgree, hobservations]⟩

/--
In every sequence of runs of a business date, a run that commits leaves a data
version that has converged to its report exactly when the rows before it agree
with those that the report gives.
-/
theorem reingest_converges_iff {date : JsText} {runs : List DailyRun}
    (hdate : ∀ run ∈ runs, run.businessDate = date)
    (hown : OwnRuns platform (idsForBusinessDate date) db) :
    ∀ step ∈ runsFrom platform db runs, step.outcome = .committed →
      (Converged platform step.run step.after ↔ Reconcilable platform step.before step.run) := by
  induction runs generalizing db with
  | nil => exact List.forall_mem_nil _
  | cons run rest ih =>
    obtain ⟨rfl, hrest⟩ := List.forall_mem_cons.mp hdate
    have hfirst := @run_converges_iff platform db run hown
    have hnext := run_ownRuns run hown
    rw [runsFrom]
    generalize runHkexDaily platform db run = result at hfirst hnext ⊢
    exact List.forall_mem_cons.mpr ⟨hfirst, ih hrest hnext⟩

end Law

def emptyDatabase : Database where
  dataVersions := .empty
  crawlRuns := .empty
  rawSnapshots := .empty
  documents := .empty
  observations := .empty
  extractionRuns := .empty
  links := .empty
  facts := .empty
  transformRuns := .empty

theorem ownRuns_empty (ids : Ids) : OwnRuns samplePlatform ids emptyDatabase where
  crawl _ h := absurd h List.not_mem_nil
  transform _ h := absurd h List.not_mem_nil

/-- The report of one document. -/
def firstReport : DailyRun :=
  sampleRun [sampleItem "100" "https://a/1.pdf"]

/-- A report that ranks this document second. -/
def rerankedReport : DailyRun :=
  sampleRun [sampleItem "200" "https://a/2.pdf", sampleItem "100" "https://a/1.pdf"]

/-- A report that is delivered twice is committed twice, and converges both times. -/
theorem reingest_converges_redelivered :
    (runsFrom samplePlatform emptyDatabase [firstReport, firstReport]).map RunStep.outcome =
        [.committed, .committed] ∧
      ∀ step ∈ runsFrom samplePlatform emptyDatabase [firstReport, firstReport],
        Converged samplePlatform step.run step.after := by
  refine ⟨by decide +kernel, fun step hstep => ?_⟩
  have hiff := reingest_converges_iff (by simp [firstReport, sampleRun])
    (ownRuns_empty (idsForBusinessDate (text "2026-06-25"))) step hstep
  simp only [runsFrom, List.mem_cons, List.not_mem_nil, or_false] at hstep
  have hcommitted : step.outcome = .committed := by
    rcases hstep with rfl | rfl <;> decide +kernel
  refine (hiff hcommitted).mpr ⟨?_, ?_, ?_, ?_⟩
  · rcases hstep with rfl | rfl <;> decide +kernel
  · unfold FactsAgree
    rcases hstep with rfl | rfl <;> decide +kernel
  · unfold LinksAgree
    rcases hstep with rfl | rfl <;> decide +kernel
  · unfold ObservationsAgree
    rcases hstep with rfl | rfl <;> decide +kernel

/-- A second report that ranks the document second leaves the facts of its first rank. -/
theorem reranked_diverges :
    ¬∀ (platform : Platform) (db : Database) (date : JsText) (runs : List DailyRun),
      (∀ run ∈ runs, run.businessDate = date) →
        OwnRuns platform (idsForBusinessDate date) db →
          ∀ step ∈ runsFrom platform db runs, step.outcome = .committed →
            Converged platform step.run step.after := by
  intro h
  have hsteps := h samplePlatform emptyDatabase (text "2026-06-25")
    [firstReport, rerankedReport] (by simp [firstReport, rerankedReport, sampleRun])
    (ownRuns_empty _)
  have hown : OwnRuns samplePlatform rerankedReport.ids
      (runHkexDaily samplePlatform emptyDatabase firstReport).1 :=
    run_ownRuns firstReport (ownRuns_empty _)
  have hfacts : ¬FactsAgree samplePlatform
      (runHkexDaily samplePlatform emptyDatabase firstReport).1 rerankedReport := by
    unfold FactsAgree
    decide +kernel
  have hcommitted : (runHkexDaily samplePlatform
      (runHkexDaily samplePlatform emptyDatabase firstReport).1 rerankedReport).2 =
        .committed := by
    decide +kernel
  rw [runsFrom, runsFrom] at hsteps
  generalize (runHkexDaily samplePlatform emptyDatabase firstReport).1 = first
    at hown hfacts hcommitted hsteps
  have hsecond := (List.forall_mem_cons.mp (List.forall_mem_cons.mp hsteps).2).1 hcommitted
  exact hfacts ((run_converges_iff hown hcommitted).mp hsecond).facts

end Aiphabee.NewsIngest
