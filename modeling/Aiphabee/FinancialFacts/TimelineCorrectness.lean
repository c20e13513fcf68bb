import Mathlib.Data.Char
import Aiphabee.FinancialFacts.RestatementTimeline

/-!
# When a restatement timeline is correct

The statements are sorted by the texts of their timestamps and checked by the
instants these denote.  `timeline_correct_iff` says for accepted statements how the
two have to agree for the timeline to do what it is for: to select the last version
as of any point in time, to name one latest version, to number a restatement after
the statement it restates, and not to depend on the order of its input.
-/

namespace Aiphabee.FinancialFacts

open StableSort

variable {platform : Platform}
variable {methodologyVersion : String}
variable {statements : List FinancialStatementVersionInput}
variable {timeline : FinancialRestatementTimeline}
variable {sorted : List FinancialStatementVersionInput}
variable {statement : FinancialStatementVersionInput}
variable {event : FinancialRestatementEvent}

/-- The first statement is published at the instant of the second one or before it. -/
def NotLater (platform : Platform) (left right : FinancialStatementVersionInput) : Prop :=
  ∀ i j, platform.dateParse left.publishedAt = some i →
    platform.dateParse right.publishedAt = some j → i ≤ j

def selectedStatement (platform : Platform) (timeline : FinancialRestatementTimeline)
    (asOf : String) : Except FinancialRestatementError (Option FinancialStatementVersionInput) :=
  (selectFinancialStatementAsOf platform timeline asOf).map
    (Option.map FinancialStatementVersion.toFinancialStatementVersionInput)

structure SelectsLast
    (platform : Platform)
    (timeline : FinancialRestatementTimeline)
    (asOfTime : Int)
    (selection : Option FinancialStatementVersion) : Prop where
  missing : selection = none ↔
    ∀ version ∈ timeline.versions, publishedBy platform asOfTime version = false
  listed : ∀ version, selection = some version →
    version ∈ timeline.versions ∧ publishedBy platform asOfTime version = true
  last : ∀ version, selection = some version →
    ∀ other ∈ timeline.versions, publishedBy platform asOfTime other = true →
      NotLater platform other.toFinancialStatementVersionInput
        version.toFinancialStatementVersionInput

structure Reconciles
    (original restated : FinancialStatementVersionInput)
    (deltas : List FinancialRestatementDelta) : Prop where
  listed : ∀ delta ∈ deltas,
    delta.originalValue = original.facts.valueOf delta.metricId ∧
      delta.restatedValue = restated.facts.valueOf delta.metricId ∧
      delta.valueDelta = roundValue (delta.restatedValue.sub delta.originalValue)
  unlisted : ∀ metricId, metricId ∉ deltas.map FinancialRestatementDelta.metricId →
    roundValue ((restated.facts.valueOf metricId).sub (original.facts.valueOf metricId)) = .zero

structure TimelineCorrect
    (platform : Platform)
    (methodologyVersion : String)
    (statements : List FinancialStatementVersionInput)
    (timeline : FinancialRestatementTimeline) : Prop where
  selected : ∀ asOf asOfTime, platform.dateParse asOf = some asOfTime →
    ∃ selection, selectFinancialStatementAsOf platform timeline asOf = .ok selection ∧
      SelectsLast platform timeline asOfTime selection
  stable : ∀ asOf asOfTime later more moreTimeline, platform.dateParse asOf = some asOfTime →
    (∀ statement ∈ later, ∀ i,
      platform.dateParse statement.publishedAt = some i → asOfTime < i) →
    more.Perm (statements ++ later) →
    buildFinancialRestatementTimeline platform more methodologyVersion = .ok moreTimeline →
    selectedStatement platform moreTimeline asOf = selectedStatement platform timeline asOf
  latest : timeline.versions ≠ [] →
    timeline.versions.countP FinancialStatementVersion.isLatest = 1 ∧
      ∀ version ∈ timeline.versions, version.isLatest = true →
        ∀ other ∈ timeline.versions,
          NotLater platform other.toFinancialStatementVersionInput
            version.toFinancialStatementVersionInput
  chain : ∀ event ∈ timeline.events,
    event.dataVersionBefore.number < event.dataVersionAfter.number
  reconciled : ∀ event ∈ timeline.events, ∃ original ∈ statements, ∃ restated ∈ statements,
    original.statementId = event.originalStatementId ∧
      restated.statementId = event.restatedStatementId ∧
      Reconciles original restated event.deltas
  unordered : ∀ others, statements.Perm others →
    buildFinancialRestatementTimeline platform others methodologyVersion = .ok timeline

structure TextFollowsInstants
    (platform : Platform)
    (statements : List FinancialStatementVersionInput) : Prop where
  /-- Statements whose timestamps compare equal are the same statement. -/
  ties : TiesAgree (publishedLe platform) statements
  /-- A statement with a later instant has one at this instant with a later text. -/
  instants : ∀ earlier ∈ statements, ∀ statement ∈ statements, ∀ i j,
    platform.dateParse earlier.publishedAt = some i →
    platform.dateParse statement.publishedAt = some j → i < j →
    ∃ other ∈ statements, platform.dateParse other.publishedAt = some j ∧
      ¬publishedLe platform other earlier
  /-- The identifier of the statement with the last text occurs once. -/
  latest : ∀ statement ∈ statements,
    (∀ other ∈ statements, publishedLe platform other statement) →
    statements.countP (fun other => other.statementId = statement.statementId) = 1
  /-- A statement with a restatement's identifier has a later text than all it restates. -/
  chain : ∀ statement ∈ statements, statement.isRestatement = true →
    ∀ priorVersionId, statement.priorVersionId = some priorVersionId →
    ∃ last ∈ statements, last.statementId = statement.statementId ∧
      ∀ prior ∈ statements, prior.statementId = priorVersionId →
        ¬publishedLe platform last prior

theorem valueOf_of_notMem {facts : Facts} {metricId : String}
    (h : metricId ∉ facts.entries.map Prod.fst) : facts.valueOf metricId = .zero := by
  have hnone : (facts.entries.find? fun entry => entry.1 = metricId) = none := by
    refine List.find?_eq_none.mpr fun entry hentry hfound => h ?_
    rw [← of_decide_eq_true hfound]
    exact List.mem_map_of_mem hentry
  rw [Facts.valueOf, Facts.get?, hnone]
  rfl

/-- The deltas of two statements are what changes from the one to the other. -/
theorem createFactDeltas_reconciles (original restated : FinancialStatementVersionInput) :
    Reconciles original restated (createFactDeltas original restated) := by
  constructor
  · intro delta hdelta
    obtain ⟨hmem, _⟩ := List.mem_filter.mp hdelta
    obtain ⟨metricId, _, rfl⟩ := List.mem_map.mp hmem
    exact ⟨rfl, rfl, rfl⟩
  · intro metricId hmetric
    by_cases hkey : metricId ∈
        original.facts.entries.map Prod.fst ++ restated.facts.entries.map Prod.fst
    · by_contra hne
      refine hmetric (List.mem_map.mpr ⟨_, List.mem_filter.mpr
        ⟨List.mem_map_of_mem (List.mem_mergeSort.mpr (List.mem_eraseDups.mpr hkey)), ?_⟩, rfl⟩)
      simp only [JsNumber.strictEquals, Bool.not_eq_true', Bool.and_eq_false_iff,
        decide_eq_false_iff_not]
      exact Or.inr hne
    · rw [List.mem_append, not_or] at hkey
      rw [valueOf_of_notMem hkey.1, valueOf_of_notMem hkey.2]
      decide +kernel

structure Accepted
    (platform : Platform)
    (methodologyVersion : String)
    (sorted : List FinancialStatementVersionInput)
    (timeline : FinancialRestatementTimeline) : Prop where
  valid : ∀ statement ∈ sorted, ∃ i, platform.dateParse statement.publishedAt = some i
  events : List.Forall₂
    (fun statement event => createRestatementEvent platform sorted statement = .ok event)
    (sorted.filter FinancialStatementVersionInput.isRestatement) timeline.events
  versions : timeline.versions = sorted.map (versionOf sorted)

theorem restatementEvents_ok {sorted restatements : List FinancialStatementVersionInput}
    {events : List FinancialRestatementEvent}
    (h : restatementEvents platform sorted restatements = .ok events) :
    List.Forall₂
      (fun statement event => createRestatementEvent platform sorted statement = .ok event)
      restatements events := by
  induction restatements generalizing events with
  | nil =>
    cases h
    exact List.Forall₂.nil
  | cons restatement rest ih =>
    rw [restatementEvents] at h
    cases hevent : createRestatementEvent platform sorted restatement with
    | error error => rw [hevent] at h; cases h
    | ok event =>
      rw [hevent] at h
      cases hrest : restatementEvents platform sorted rest with
      | error error => rw [hrest] at h; cases h
      | ok others =>
        rw [hrest] at h
        cases h
        exact List.Forall₂.cons hevent (ih hrest)

theorem accepted_of_timelineOf (h : timelineOf platform methodologyVersion sorted = .ok timeline) :
    Accepted platform methodologyVersion sorted timeline := by
  rw [timelineOf] at h
  cases hvalid : sorted.findSome? (validateStatement platform) with
  | some error => rw [hvalid] at h; cases h
  | none =>
    rw [hvalid] at h
    cases hdimensions : validateDimensions sorted with
    | some error => rw [hdimensions] at h; cases h
    | none =>
      rw [hdimensions] at h
      cases hevents : restatementEvents platform sorted
          (sorted.filter FinancialStatementVersionInput.isRestatement) with
      | error error => rw [hevents] at h; cases h
      | ok events =>
        rw [hevents] at h
        cases h
        refine
          { valid := fun statement hstatement => ?_
            events := restatementEvents_ok hevents
            versions := rfl }
        have hnone := List.findSome?_eq_none_iff.mp hvalid statement hstatement
        rw [validateStatement] at hnone
        split at hnone
        · cases hnone
        next hparse =>
          exact Option.ne_none_iff_exists'.mp (by simpa using hparse)

theorem createRestatementEvent_ok
    (h : createRestatementEvent platform sorted statement = .ok event) :
    ∃ priorVersionId original,
      statement.priorVersionId = some priorVersionId ∧
      statementById sorted priorVersionId = some original ∧
      original.statementId ≠ statement.statementId ∧
      event.dataVersionAfter =
        ⟨(restatementVersionById sorted statement.statementId).getD 0⟩ ∧
      event.dataVersionBefore =
        ⟨(restatementVersionById sorted original.statementId).getD 0⟩ ∧
      event.originalStatementId = original.statementId ∧
      event.restatedStatementId = statement.statementId ∧
      event.deltas = createFactDeltas original statement := by
  rw [createRestatementEvent] at h
  cases hprior : statement.priorVersionId with
  | none => rw [hprior] at h; cases h
  | some priorVersionId =>
    rw [hprior] at h
    dsimp only at h
    cases horiginal : statementById sorted priorVersionId with
    | none => rw [horiginal] at h; cases h
    | some original =>
      rw [horiginal] at h
      dsimp only at h
      split at h
      · cases h
      next hne =>
        split at h
        · cases h
        · cases h
          exact ⟨priorVersionId, original, rfl, horiginal, hne, rfl, rfl, rfl, rfl, rfl⟩

/-- A statement of an identifier has the last place of the identifier at its place or behind it. -/
theorem restatementVersionById_spec {index : Nat} (h : sorted[index]? = some statement) :
    ∃ last other, restatementVersionById sorted statement.statementId = some last ∧
      sorted[last]? = some other ∧ other.statementId = statement.statementId ∧ index ≤ last := by
  obtain ⟨last, other, hlast, hother, hid, hle⟩ := lastIndex_spec
    (p := fun candidate => decide (candidate.statementId = statement.statementId)) h
    (decide_eq_true rfl)
  exact ⟨last, other, hlast, hother, of_decide_eq_true hid, hle⟩

/-- The statement of an identifier is one with this identifier, at the place of the identifier. -/
theorem statementById_spec {statementId : String} {original : FinancialStatementVersionInput}
    (h : statementById sorted statementId = some original) :
    original.statementId = statementId ∧ ∃ index, sorted[index]? = some original ∧
      restatementVersionById sorted statementId = some index := by
  obtain ⟨index, hindex, horiginal⟩ := Option.bind_eq_some_iff.mp h
  refine ⟨?_, index, horiginal, hindex⟩
  obtain ⟨entry, hentry, rfl⟩ := Option.map_eq_some_iff.mp hindex
  obtain ⟨hmem, hid⟩ := List.mem_filter.mp (List.mem_of_getLast? hentry)
  rw [List.mem_zipIdx_iff_getElem?.mp hmem] at horiginal
  obtain rfl := Option.some.inj horiginal
  exact of_decide_eq_true hid

theorem Accepted.statements_eq (h : Accepted platform methodologyVersion sorted timeline) :
    timeline.versions.map FinancialStatementVersion.toFinancialStatementVersionInput = sorted := by
  rw [h.versions, List.map_map]
  exact List.map_id sorted

theorem Accepted.mem_versions (h : Accepted platform methodologyVersion sorted timeline)
    {version : FinancialStatementVersion} (hversion : version ∈ timeline.versions) :
    version.toFinancialStatementVersionInput ∈ sorted := by
  rw [← h.statements_eq]
  exact List.mem_map_of_mem hversion

theorem Accepted.versionOf_mem (h : Accepted platform methodologyVersion sorted timeline)
    (hstatement : statement ∈ sorted) : versionOf sorted statement ∈ timeline.versions := by
  rw [h.versions]
  exact List.mem_map_of_mem hstatement

theorem exists_left_of_mem {α β : Type*} {R : α → β → Prop} {rows : List α} {others : List β}
    (h : List.Forall₂ R rows others) {other : β} (hother : other ∈ others) :
    ∃ row ∈ rows, R row other := by
  induction h with
  | nil => cases hother
  | cons hrelated _ ih =>
    rcases List.mem_cons.mp hother with rfl | hrest
    · exact ⟨_, List.mem_cons_self, hrelated⟩
    · obtain ⟨row, hrow, hR⟩ := ih hrest
      exact ⟨row, List.mem_cons_of_mem _ hrow, hR⟩

theorem Accepted.event_of_mem (h : Accepted platform methodologyVersion sorted timeline)
    (hevent : event ∈ timeline.events) :
    ∃ statement ∈ sorted, statement.isRestatement = true ∧
      createRestatementEvent platform sorted statement = .ok event := by
  obtain ⟨statement, hstatement, hcreated⟩ := exists_left_of_mem h.events hevent
  obtain ⟨hmem, hrestatement⟩ := List.mem_filter.mp hstatement
  exact ⟨statement, hmem, hrestatement, hcreated⟩

theorem Accepted.mem_event (h : Accepted platform methodologyVersion sorted timeline)
    (hmem : statement ∈ sorted) (hrestatement : statement.isRestatement = true) :
    ∃ event ∈ timeline.events,
      createRestatementEvent platform sorted statement = .ok event :=
  exists_left_of_mem h.events.flip (List.mem_filter.mpr ⟨hmem, hrestatement⟩)

theorem publishedLe_of_index_le (hsorted : sorted.Pairwise (publishedLe platform))
    {index later : Nat} {statement other : FinancialStatementVersionInput}
    (hstatement : sorted[index]? = some statement) (hother : sorted[later]? = some other)
    (hle : index ≤ later) : publishedLe platform statement other := by
  obtain ⟨hindex, rfl⟩ := List.getElem?_eq_some_iff.mp hstatement
  obtain ⟨hlater, rfl⟩ := List.getElem?_eq_some_iff.mp hother
  rcases hle.eq_or_lt with rfl | hlt
  · exact refl_of (publishedLe platform) _
  · exact List.pairwise_iff_getElem.mp hsorted index later hindex hlater hlt

theorem publishedLe_getLast (hsorted : sorted.Pairwise (publishedLe platform))
    {last : FinancialStatementVersionInput} (hlast : sorted.getLast? = some last) :
    ∀ other ∈ sorted, publishedLe platform other last := by
  intro other hother
  obtain ⟨index, hindex⟩ := List.mem_iff_getElem?.mp hother
  have hlength := (List.getElem?_eq_some_iff.mp hindex).1
  rw [List.getLast?_eq_getElem?] at hlast
  exact publishedLe_of_index_le hsorted hindex hlast (by omega)

theorem event_places (hmem : statement ∈ sorted)
    (h : createRestatementEvent platform sorted statement = .ok event) :
    ∃ priorVersionId original last,
      statement.priorVersionId = some priorVersionId ∧
      priorVersionId ≠ statement.statementId ∧
      sorted[event.dataVersionBefore.number]? = some original ∧
      original.statementId = priorVersionId ∧
      (∀ index prior, sorted[index]? = some prior → prior.statementId = priorVersionId →
        index ≤ event.dataVersionBefore.number) ∧
      sorted[event.dataVersionAfter.number]? = some last ∧
      last.statementId = statement.statementId ∧
      ∀ index other, sorted[index]? = some other → other.statementId = statement.statementId →
        index ≤ event.dataVersionAfter.number := by
  obtain ⟨priorVersionId, original, hprior, horiginal, hne, hafter, hbefore, _⟩ :=
    createRestatementEvent_ok h
  obtain ⟨hid, before, hplace, hversion⟩ := statementById_spec horiginal
  obtain ⟨index, hindex⟩ := List.mem_iff_getElem?.mp hmem
  obtain ⟨after, last, hlastVersion, hlast, hlastId, _⟩ := restatementVersionById_spec hindex
  rw [hlastVersion] at hafter
  rw [hid, hversion] at hbefore
  refine ⟨priorVersionId, original, last, hprior, hid ▸ hne, ?_, hid, ?_, ?_, hlastId, ?_⟩
  · rw [hbefore]
    exact hplace
  · intro index prior hprior hpriorId
    obtain ⟨place, _, hplaceVersion, _, _, hle⟩ := restatementVersionById_spec hprior
    rw [hpriorId, hversion] at hplaceVersion
    rw [hbefore]
    exact (Option.some.inj hplaceVersion) ▸ hle
  · rw [hafter]
    exact hlast
  · intro index other hother hotherId
    obtain ⟨place, _, hplaceVersion, _, _, hle⟩ := restatementVersionById_spec hother
    rw [hotherId, hlastVersion] at hplaceVersion
    rw [hafter]
    exact (Option.some.inj hplaceVersion) ▸ hle

theorem event_numbers_of_text (hsorted : sorted.Pairwise (publishedLe platform))
    (hmem : statement ∈ sorted) (h : createRestatementEvent platform sorted statement = .ok event)
    (htext : ∀ priorVersionId, statement.priorVersionId = some priorVersionId →
      ∃ last ∈ sorted, last.statementId = statement.statementId ∧
        ∀ prior ∈ sorted, prior.statementId = priorVersionId →
          ¬publishedLe platform last prior) :
    event.dataVersionBefore.number < event.dataVersionAfter.number := by
  obtain ⟨priorVersionId, original, _, hprior, _, horiginal, hid, _, _, _, hafter⟩ :=
    event_places hmem h
  obtain ⟨last, hlast, hlastId, hlater⟩ := htext priorVersionId hprior
  obtain ⟨index, hindex⟩ := List.mem_iff_getElem?.mp hlast
  have hbehind : event.dataVersionBefore.number < index := by
    by_contra hle
    exact hlater original (List.mem_of_getElem? horiginal) hid
      (publishedLe_of_index_le hsorted hindex horiginal (Nat.not_lt.mp hle))
  exact hbehind.trans_le (hafter index last hindex hlastId)

theorem text_of_event_numbers (hsorted : sorted.Pairwise (publishedLe platform))
    (hties : TiesAgree (publishedLe platform) sorted) (hmem : statement ∈ sorted)
    (h : createRestatementEvent platform sorted statement = .ok event)
    (hnumbers : event.dataVersionBefore.number < event.dataVersionAfter.number) :
    ∀ priorVersionId, statement.priorVersionId = some priorVersionId →
      ∃ last ∈ sorted, last.statementId = statement.statementId ∧
        ∀ prior ∈ sorted, prior.statementId = priorVersionId →
          ¬publishedLe platform last prior := by
  intro priorVersionId hprior
  obtain ⟨otherId, _, last, hother, hne, _, _, hbefore, hlast, hlastId, _⟩ := event_places hmem h
  obtain rfl := Option.some.inj (hprior.symm.trans hother)
  refine ⟨last, List.mem_of_getElem? hlast, hlastId, fun prior hpriorMem hpriorId hle => ?_⟩
  obtain ⟨index, hindex⟩ := List.mem_iff_getElem?.mp hpriorMem
  have hindexLe := (hbefore index prior hindex hpriorId).trans hnumbers.le
  -- the two are at different places with the same text
  have hsame := hties last (List.mem_of_getElem? hlast) prior hpriorMem hle
    (publishedLe_of_index_le hsorted hindex hlast hindexLe)
  exact hne (by rw [← hpriorId, ← hsame, hlastId])

section Selection

def statementPublishedBy (platform : Platform) (asOfTime : Int)
    (statement : FinancialStatementVersionInput) : Bool :=
  (platform.dateParse statement.publishedAt).any fun time => time ≤ asOfTime

variable {asOfTime : Int}

/-- A version published by an instant is one whose own instant is not behind it. -/
theorem publishedBy_iff {version : FinancialStatementVersion} :
    publishedBy platform asOfTime version = true ↔
      ∃ i, platform.dateParse version.publishedAt = some i ∧ i ≤ asOfTime := by
  rw [publishedBy]
  cases platform.dateParse version.publishedAt <;> simp

/-- The order that puts the last text first. -/
def publishedAfter (platform : Platform) (left right : FinancialStatementVersionInput) : Prop :=
  publishedLe platform right left

instance (platform : Platform) : DecidableRel (publishedAfter platform) := fun _ _ =>
  inferInstanceAs (Decidable (publishedLe platform _ _))

instance (platform : Platform) : Std.Total (publishedAfter platform) :=
  ⟨fun _ _ => platform.localeLe_total _ _⟩

instance (platform : Platform) :
    IsTrans FinancialStatementVersionInput (publishedAfter platform) :=
  ⟨fun _ _ _ hab hbc => platform.localeLe_trans _ _ _ hbc hab⟩

theorem Accepted.selectedStatement_eq (h : Accepted platform methodologyVersion sorted timeline)
    {asOf : String} (hasOf : platform.dateParse asOf = some asOfTime) :
    selectedStatement platform timeline asOf =
      .ok ((sorted.filter (statementPublishedBy platform asOfTime)).insertionSort
        (publishedAfter platform)).head? := by
  rw [selectedStatement, selectFinancialStatementAsOf, hasOf]
  simp only [Except.map]
  rw [← List.head?_map,
    List.map_insertionSort (publishedGe platform) (publishedAfter platform)
      FinancialStatementVersion.toFinancialStatementVersionInput _ (fun _ _ _ _ => Iff.rfl),
    ← h.statements_eq, List.filter_map]
  rfl

theorem selected_perm {others : List FinancialStatementVersionInput}
    (hties : TiesAgree (publishedLe platform)
      (sorted.filter (statementPublishedBy platform asOfTime)))
    (hperm : (sorted.filter (statementPublishedBy platform asOfTime)).Perm
      (others.filter (statementPublishedBy platform asOfTime))) :
    ((sorted.filter (statementPublishedBy platform asOfTime)).insertionSort
        (publishedAfter platform)).head? =
      ((others.filter (statementPublishedBy platform asOfTime)).insertionSort
        (publishedAfter platform)).head? := by
  have hflipped : TiesAgree (publishedAfter platform)
      (sorted.filter (statementPublishedBy platform asOfTime)) :=
    fun a ha b hb hab hba => hties a ha b hb hba hab
  rw [insertionSort_perm hflipped hperm]

theorem selectsLast_of_text (h : Accepted platform methodologyVersion sorted timeline)
    (hinstants : ∀ earlier ∈ sorted, ∀ statement ∈ sorted, ∀ i j,
      platform.dateParse earlier.publishedAt = some i →
      platform.dateParse statement.publishedAt = some j → i < j →
      ∃ other ∈ sorted, platform.dateParse other.publishedAt = some j ∧
        ¬publishedLe platform other earlier)
    (asOfTime : Int) :
    SelectsLast platform timeline asOfTime
      ((timeline.versions.filter (publishedBy platform asOfTime)).insertionSort
        (publishedGe platform)).head? := by
  constructor
  · rw [head_insertionSort_eq_none_iff, List.filter_eq_nil_iff]
    simp only [Bool.not_eq_true]
  · intro version hversion
    exact List.mem_filter.mp (head_insertionSort hversion).1
  · intro version hversion other hother hpublished i j hi hj
    obtain ⟨hmem, hfirst⟩ := head_insertionSort hversion
    by_contra hlt
    -- a version of the later instant has a later text than the selected one
    obtain ⟨statement, hstatement, hinstant, hlater⟩ := hinstants _
      (h.mem_versions (List.mem_filter.mp hmem).1) _ (h.mem_versions hother) j i hj hi
      (Int.not_le.mp hlt)
    refine hlater (hfirst (versionOf sorted statement)
      (List.mem_filter.mpr ⟨h.versionOf_mem hstatement, ?_⟩))
    have hsame : publishedBy platform asOfTime (versionOf sorted statement) =
        publishedBy platform asOfTime other := by
      rw [publishedBy, publishedBy, hi]
      exact congrArg (Option.any _) hinstant
    exact hsame.trans hpublished

theorem text_of_selectsLast (h : Accepted platform methodologyVersion sorted timeline)
    (hties : TiesAgree (publishedLe platform) sorted)
    (hselected : ∀ asOf asOfTime, platform.dateParse asOf = some asOfTime →
      ∃ selection, selectFinancialStatementAsOf platform timeline asOf = .ok selection ∧
        SelectsLast platform timeline asOfTime selection)
    {earlier statement : FinancialStatementVersionInput}
    (hearlier : earlier ∈ sorted)
    (hstatement : statement ∈ sorted)
    {i j : Int}
    (hi : platform.dateParse earlier.publishedAt = some i)
    (hj : platform.dateParse statement.publishedAt = some j)
    (hlt : i < j) :
    ∃ other ∈ sorted, platform.dateParse other.publishedAt = some j ∧
      ¬publishedLe platform other earlier := by
  obtain ⟨selection, hselection, hlast⟩ := hselected statement.publishedAt j hj
  rw [selectFinancialStatementAsOf, hj] at hselection
  obtain rfl := Except.ok.inj hselection
  have hby : publishedBy platform j (versionOf sorted statement) = true :=
    publishedBy_iff.mpr ⟨j, hj, le_rfl⟩
  have hbyEarlier : publishedBy platform j (versionOf sorted earlier) = true :=
    publishedBy_iff.mpr ⟨i, hi, hlt.le⟩
  cases hhead : ((timeline.versions.filter (publishedBy platform j)).insertionSort
      (publishedGe platform)).head? with
  | none =>
    have hmissing := hlast.missing.mp hhead _ (h.versionOf_mem hstatement)
    rw [hby] at hmissing
    cases hmissing
  | some version =>
    obtain ⟨hmem, hfirst⟩ := head_insertionSort hhead
    obtain ⟨hversion, hpublished⟩ := List.mem_filter.mp hmem
    obtain ⟨k, hk, hle⟩ := publishedBy_iff.mp hpublished
    have hnotLater := hlast.last version hhead _ (h.versionOf_mem hstatement) hby j k hj hk
    have hinstant : k = j := le_antisymm hle hnotLater
    refine ⟨version.toFinancialStatementVersionInput, h.mem_versions hversion, hinstant ▸ hk,
      fun hback => ?_⟩
    have hforth : publishedLe platform earlier version.toFinancialStatementVersionInput :=
      hfirst _ (List.mem_filter.mpr ⟨h.versionOf_mem hearlier, hbyEarlier⟩)
    have hsame := hties _ (h.mem_versions hversion) _ hearlier hback hforth
    rw [hsame, hi] at hk
    have hik := Option.some.inj hk
    omega

end Selection

section Latest

variable {last : FinancialStatementVersionInput}

theorem eq_of_countP_eq_one {α : Type*} {p : α → Bool} {rows : List α} (h : rows.countP p = 1)
    {a b : α} (ha : a ∈ rows) (hpa : p a = true) (hb : b ∈ rows) (hpb : p b = true) : a = b := by
  rw [List.countP_eq_length_filter] at h
  obtain ⟨row, hrow⟩ := List.length_eq_one_iff.mp h
  have honly : ∀ c ∈ rows, p c = true → c = row := by
    intro c hc hpc
    have hmem := List.mem_filter.mpr ⟨hc, hpc⟩
    rw [hrow] at hmem
    exact List.mem_singleton.mp hmem
  exact (honly a ha hpa).trans (honly b hb hpb).symm

theorem Accepted.countP_isLatest (h : Accepted platform methodologyVersion sorted timeline)
    (hlast : sorted.getLast? = some last) :
    timeline.versions.countP FinancialStatementVersion.isLatest =
      sorted.countP fun other => other.statementId = last.statementId := by
  rw [h.versions, List.countP_map]
  congr 1
  funext statement
  simp [versionOf, hlast]

theorem latest_of_text (h : Accepted platform methodologyVersion sorted timeline)
    (hsorted : sorted.Pairwise (publishedLe platform)) (hlast : sorted.getLast? = some last)
    (hcount : sorted.countP (fun other => other.statementId = last.statementId) = 1)
    (hinstants : ∀ earlier ∈ sorted, ∀ statement ∈ sorted, ∀ i j,
      platform.dateParse earlier.publishedAt = some i →
      platform.dateParse statement.publishedAt = some j → i < j →
      ∃ other ∈ sorted, platform.dateParse other.publishedAt = some j ∧
        ¬publishedLe platform other earlier) :
    ∀ version ∈ timeline.versions, version.isLatest = true →
      ∀ other ∈ timeline.versions,
        NotLater platform other.toFinancialStatementVersionInput
          version.toFinancialStatementVersionInput := by
  intro version hversion hlatest other hother i j hi hj
  have hid : version.statementId = last.statementId := by
    have hmem := hversion
    rw [h.versions] at hmem
    obtain ⟨statement, _, rfl⟩ := List.mem_map.mp hmem
    simpa [versionOf, hlast] using hlatest
  have hsame : version.toFinancialStatementVersionInput = last :=
    eq_of_countP_eq_one hcount (h.mem_versions hversion) (decide_eq_true hid)
      (List.mem_of_getLast? hlast) (decide_eq_true rfl)
  by_contra hlt
  obtain ⟨later, hmem, _, hbehind⟩ := hinstants _ (h.mem_versions hversion) _
    (h.mem_versions hother) j i hj hi (Int.not_le.mp hlt)
  rw [hsame] at hbehind
  exact hbehind (publishedLe_getLast hsorted hlast later hmem)

end Latest

theorem textFollowsInstants_of_correct
    (h : buildFinancialRestatementTimeline platform statements methodologyVersion = .ok timeline)
    (hcorrect : TimelineCorrect platform methodologyVersion statements timeline) :
    TextFollowsInstants platform statements := by
  have haccepted := accepted_of_timelineOf h
  have hsorted := List.pairwise_insertionSort (publishedLe platform) statements
  have hmem : ∀ statement, statement ∈ statements.insertionSort (publishedLe platform) ↔
      statement ∈ statements := fun statement => List.mem_insertionSort _
  have hperm := List.perm_insertionSort (publishedLe platform) statements
  have hties : TiesAgree (publishedLe platform) statements :=
    insertionSort_forall_perm_iff.mp fun others hothers =>
      haccepted.statements_eq.symm.trans
        (accepted_of_timelineOf (hcorrect.unordered others hothers)).statements_eq
  have htiesSorted : TiesAgree (publishedLe platform)
      (statements.insertionSort (publishedLe platform)) :=
    fun a ha b hb => hties a ((hmem a).mp ha) b ((hmem b).mp hb)
  refine
    { ties := hties
      instants := fun earlier hearlier statement hstatement i j hi hj hlt => ?_
      latest := fun statement hstatement hgreatest => ?_
      chain := fun statement hstatement hrestatement priorVersionId hprior => ?_ }
  · obtain ⟨other, hother, hrest⟩ := text_of_selectsLast haccepted htiesSorted
      hcorrect.selected ((hmem earlier).mpr hearlier) ((hmem statement).mpr hstatement) hi hj hlt
    exact ⟨other, (hmem other).mp hother, hrest⟩
  · have hne := List.ne_nil_of_mem ((hmem statement).mpr hstatement)
    have hlast := List.getLast?_eq_some_getLast hne
    generalize (statements.insertionSort (publishedLe platform)).getLast hne = last at hlast
    have hlastMem := List.mem_of_getLast? hlast
    have hsame : statement = last :=
      hties statement hstatement last ((hmem last).mp hlastMem)
        (publishedLe_getLast hsorted hlast statement ((hmem statement).mpr hstatement))
        (hgreatest last ((hmem last).mp hlastMem))
    rw [hsame, ← hperm.countP_eq, ← haccepted.countP_isLatest hlast]
    exact (hcorrect.latest (List.ne_nil_of_mem (haccepted.versionOf_mem hlastMem))).1
  · obtain ⟨event, hevent, hcreated⟩ :=
      haccepted.mem_event ((hmem statement).mpr hstatement) hrestatement
    obtain ⟨last, hlast, hid, hlater⟩ := text_of_event_numbers hsorted htiesSorted
      ((hmem statement).mpr hstatement) hcreated (hcorrect.chain event hevent)
      priorVersionId hprior
    exact ⟨last, (hmem last).mp hlast, hid,
      fun prior hprior => hlater prior ((hmem prior).mpr hprior)⟩

theorem correct_of_textFollowsInstants
    (h : buildFinancialRestatementTimeline platform statements methodologyVersion = .ok timeline)
    (htext : TextFollowsInstants platform statements) :
    TimelineCorrect platform methodologyVersion statements timeline := by
  have haccepted := accepted_of_timelineOf h
  have hsorted := List.pairwise_insertionSort (publishedLe platform) statements
  have hmem : ∀ statement, statement ∈ statements.insertionSort (publishedLe platform) ↔
      statement ∈ statements := fun statement => List.mem_insertionSort _
  have hperm := List.perm_insertionSort (publishedLe platform) statements
  have hinstants : ∀ earlier ∈ statements.insertionSort (publishedLe platform),
      ∀ statement ∈ statements.insertionSort (publishedLe platform), ∀ i j,
      platform.dateParse earlier.publishedAt = some i →
      platform.dateParse statement.publishedAt = some j → i < j →
      ∃ other ∈ statements.insertionSort (publishedLe platform),
        platform.dateParse other.publishedAt = some j ∧ ¬publishedLe platform other earlier := by
    intro earlier hearlier statement hstatement i j hi hj hlt
    obtain ⟨other, hother, hrest⟩ := htext.instants earlier ((hmem earlier).mp hearlier)
      statement ((hmem statement).mp hstatement) i j hi hj hlt
    exact ⟨other, (hmem other).mpr hother, hrest⟩
  refine
    { selected := fun asOf asOfTime hasOf => ⟨_, ?_, selectsLast_of_text haccepted hinstants _⟩
      stable := fun asOf asOfTime later more moreTimeline hasOf hlater hmore hbuilt => ?_
      latest := fun hne => ?_
      chain := fun event hevent => ?_
      reconciled := fun event hevent => ?_
      unordered := fun others hothers => ?_ }
  · rw [selectFinancialStatementAsOf, hasOf]
  · rw [(accepted_of_timelineOf hbuilt).selectedStatement_eq hasOf,
      haccepted.selectedStatement_eq hasOf]
    have hnone : later.filter (statementPublishedBy platform asOfTime) = [] := by
      refine List.filter_eq_nil_iff.mpr fun statement hstatement hpublished => ?_
      rw [statementPublishedBy] at hpublished
      cases hparse : platform.dateParse statement.publishedAt with
      | none => rw [hparse] at hpublished; cases hpublished
      | some i =>
        rw [hparse] at hpublished
        exact absurd (of_decide_eq_true hpublished)
          (Int.not_le.mpr (hlater statement hstatement i hparse))
    have hsame := (List.perm_insertionSort (publishedLe platform) more).trans hmore
    have hfiltered := hsame.filter (statementPublishedBy platform asOfTime)
    rw [List.filter_append, hnone, List.append_nil] at hfiltered
    refine congrArg Except.ok (selected_perm ?_ ?_).symm
    · intro a ha b hb
      exact htext.ties a ((hmem a).mp (List.mem_filter.mp ha).1) b
        ((hmem b).mp (List.mem_filter.mp hb).1)
    · exact (hperm.filter _).trans hfiltered.symm
  · obtain ⟨version, hversion⟩ := List.exists_mem_of_ne_nil _ hne
    have hsortedNe := List.ne_nil_of_mem (haccepted.mem_versions hversion)
    have hlast := List.getLast?_eq_some_getLast hsortedNe
    generalize (statements.insertionSort (publishedLe platform)).getLast hsortedNe = last at hlast
    have hcount : (statements.insertionSort (publishedLe platform)).countP
        (fun other => other.statementId = last.statementId) = 1 := by
      rw [hperm.countP_eq]
      exact htext.latest last ((hmem last).mp (List.mem_of_getLast? hlast)) fun other hother =>
        publishedLe_getLast hsorted hlast other ((hmem other).mpr hother)
    rw [haccepted.countP_isLatest hlast]
    exact ⟨hcount, latest_of_text haccepted hsorted hlast hcount hinstants⟩
  · obtain ⟨statement, hstatement, hrestatement, hcreated⟩ := haccepted.event_of_mem hevent
    refine event_numbers_of_text hsorted hstatement hcreated fun priorVersionId hprior => ?_
    obtain ⟨last, hlast, hid, hlater⟩ := htext.chain statement ((hmem statement).mp hstatement)
      hrestatement priorVersionId hprior
    exact ⟨last, (hmem last).mpr hlast, hid,
      fun prior hprior => hlater prior ((hmem prior).mp hprior)⟩
  · obtain ⟨statement, hstatement, _, hcreated⟩ := haccepted.event_of_mem hevent
    obtain ⟨_, original, _, horiginal, _, _, _, hid, hrestatedId, hdeltas⟩ :=
      createRestatementEvent_ok hcreated
    obtain ⟨_, index, hindex, _⟩ := statementById_spec horiginal
    refine ⟨original, (hmem original).mp (List.mem_of_getElem? hindex), statement,
      (hmem statement).mp hstatement, hid.symm, hrestatedId.symm, ?_⟩
    rw [hdeltas]
    exact createFactDeltas_reconciles original statement
  · rw [buildFinancialRestatementTimeline, ← insertionSort_perm htext.ties hothers]
    exact h

/-- A timeline is correct exactly when the texts of the timestamps follow their instants. -/
theorem timeline_correct_iff (platform : Platform) (methodologyVersion : String)
    (statements : List FinancialStatementVersionInput) (timeline : FinancialRestatementTimeline)
    (h : buildFinancialRestatementTimeline platform statements methodologyVersion = .ok timeline) :
    TimelineCorrect platform methodologyVersion statements timeline ↔
      TextFollowsInstants platform statements :=
  ⟨textFollowsInstants_of_correct h, correct_of_textFollowsInstants h⟩

def tablePlatform (timestamps : List (String × Int)) : Platform where
  dateParse text := (timestamps.find? fun entry => entry.1 = text).map Prod.snd
  toCollation := .ofKey String.toList

def balancedStatement (statementId publishedAt : String) : FinancialStatementVersionInput where
  accountingStandard := "IFRS"
  companyId := "company_1"
  currency := "HKD"
  facts :=
    { entries := [("assets", .nearest 3), ("equity", .nearest 2), ("liabilities", .nearest 1)]
      sorted := by decide }
  isRestatement := false
  periodEnd := "2025-12-31"
  priorVersionId := none
  publishedAt := publishedAt
  restatementReason := none
  scale := .nearest 1
  sourceRecordId := "record_1"
  statementId := statementId
  unit := "HKD"

/-- Two statements with timestamps of one form have a correct timeline. -/
theorem timeline_correct_iff_oneForm :
    ∃ timeline,
      buildFinancialRestatementTimeline
        (tablePlatform [("2026-01-01T22:00:00Z", 1767304800000),
          ("2026-01-01T23:00:00Z", 1767308400000)])
        [balancedStatement "second" "2026-01-01T23:00:00Z",
          balancedStatement "first" "2026-01-01T22:00:00Z"] "v1" = .ok timeline ∧
      TimelineCorrect
        (tablePlatform [("2026-01-01T22:00:00Z", 1767304800000),
          ("2026-01-01T23:00:00Z", 1767308400000)]) "v1"
        [balancedStatement "second" "2026-01-01T23:00:00Z",
          balancedStatement "first" "2026-01-01T22:00:00Z"] timeline := by
  refine ⟨
    { events := []
      methodologyVersion := "v1"
      versions :=
        [{ balancedStatement "first" "2026-01-01T22:00:00Z" with
            isLatest := false
            restatementVersion := 0 },
          { balancedStatement "second" "2026-01-01T23:00:00Z" with
            isLatest := true
            restatementVersion := 1 }] }, by decide +kernel,
    (timeline_correct_iff _ _ _ _ (by decide +kernel)).mpr
      { ties := ?_
        instants := ?_
        latest := ?_
        chain := ?_ }⟩
  · unfold TiesAgree
    decide +kernel
  · intro earlier hearlier statement hstatement i j hi hj hlt
    refine ⟨statement, hstatement, hj, ?_⟩
    have hall : ∀ earlier ∈
          [balancedStatement "second" "2026-01-01T23:00:00Z",
            balancedStatement "first" "2026-01-01T22:00:00Z"],
        ∀ statement ∈
          [balancedStatement "second" "2026-01-01T23:00:00Z",
            balancedStatement "first" "2026-01-01T22:00:00Z"],
        ((tablePlatform [("2026-01-01T22:00:00Z", 1767304800000),
            ("2026-01-01T23:00:00Z", 1767308400000)]).dateParse statement.publishedAt).getD 0 ≤
          ((tablePlatform [("2026-01-01T22:00:00Z", 1767304800000),
            ("2026-01-01T23:00:00Z", 1767308400000)]).dateParse earlier.publishedAt).getD 0 ∨
        ¬publishedLe (tablePlatform [("2026-01-01T22:00:00Z", 1767304800000),
          ("2026-01-01T23:00:00Z", 1767308400000)]) statement earlier := by
      decide +kernel
    refine (hall earlier hearlier statement hstatement).resolve_left ?_
    rw [hi, hj]
    exact Int.not_le.mpr hlt
  · decide +kernel
  · intro statement hstatement hrestatement
    simp only [List.mem_cons, List.not_mem_nil, or_false] at hstatement
    rcases hstatement with rfl | rfl <;> cases hrestatement

/-- A timestamp with an offset has the greater text and the earlier instant. -/
theorem timeline_selects_earlierInstant :
    ∃ timeline,
      buildFinancialRestatementTimeline
        (tablePlatform [("2026-01-02T00:00:00+02:00", 1767304800000),
          ("2026-01-01T23:00:00Z", 1767308400000)])
        [balancedStatement "first" "2026-01-02T00:00:00+02:00",
          balancedStatement "second" "2026-01-01T23:00:00Z"] "v1" = .ok timeline ∧
      ¬TimelineCorrect
        (tablePlatform [("2026-01-02T00:00:00+02:00", 1767304800000),
          ("2026-01-01T23:00:00Z", 1767308400000)]) "v1"
        [balancedStatement "first" "2026-01-02T00:00:00+02:00",
          balancedStatement "second" "2026-01-01T23:00:00Z"] timeline := by
  refine ⟨
    { events := []
      methodologyVersion := "v1"
      versions :=
        [{ balancedStatement "second" "2026-01-01T23:00:00Z" with
            isLatest := false
            restatementVersion := 0 },
          { balancedStatement "first" "2026-01-02T00:00:00+02:00" with
            isLatest := true
            restatementVersion := 1 }] }, by decide +kernel, fun hcorrect => ?_⟩
  obtain ⟨selection, hselection, hlast⟩ :=
    hcorrect.selected "2026-01-01T23:00:00Z" 1767308400000 (by decide +kernel)
  have hfirst : selection = some
      { balancedStatement "first" "2026-01-02T00:00:00+02:00" with
        isLatest := true
        restatementVersion := 1 } := by
    refine Except.ok.inj (hselection.symm.trans ?_)
    decide +kernel
  have hnotLater := hlast.last _ hfirst _ List.mem_cons_self (by decide +kernel)
    1767308400000 1767304800000 (by decide +kernel) (by decide +kernel)
  omega

end Aiphabee.FinancialFacts
