import Mathlib.Data.List.Perm.Lattice
import Aiphabee.IpoPublic.SupplementCandidates
import Aiphabee.Store.StableSort

/-!
# When the reconciliation of public observations is sound and complete

The report is right about the sources, lists every observation and does not
depend on their order exactly when, security by security, no source supplies a
fact alone and more than once, nothing that a compared fact is read from is blank
or doubled, and no record shows a field that is not compared twice.  That the
observations of a row belong to its requests for snapshots holds in any case.
-/

namespace Aiphabee.IpoPublic

open JsText (ofString)

section Groups

theorem groupValue_append (rows : List Observation) :
    GroupBy.groupValue (fun observation => [observation])
        (fun group observation => group ++ [observation]) rows =
      if rows = [] then none else some rows := by
  cases rows with
  | nil => rfl
  | cons first rest =>
    have hfold : ∀ (group : List Observation), rest.foldl
        (fun group observation => group ++ [observation]) group = group ++ rest := by
      induction rest with
      | nil => exact fun group => (List.append_nil group).symm
      | cons next others ih =>
        intro group
        rw [List.foldl_cons, ih, List.append_assoc, List.singleton_append]
    rw [GroupBy.groupValue, hfold, if_neg (List.cons_ne_nil _ _)]
    rfl

variable {key : Observation → JsText}

theorem mem_keys_grouped {rows : List Observation} {k : JsText} :
    k ∈ (grouped key rows).map Prod.fst ↔ k ∈ rows.map key := by
  rw [grouped, GroupBy.keys_groupBy]
  exact @List.mem_eraseDups JsText instBEqOfDecidableEq inferInstance _ _

theorem mem_grouped_iff {rows : List Observation} {entry : JsText × List Observation} :
    entry ∈ grouped key rows ↔
      entry.1 ∈ rows.map key ∧ entry.2 = rows.filter fun row => key row = entry.1 := by
  have hvalue : ∀ entry ∈ grouped key rows,
      entry.1 ∈ rows.map key ∧ entry.2 = rows.filter fun row => key row = entry.1 := by
    intro entry hentry
    have hkey : entry.1 ∈ rows.map key := mem_keys_grouped.mp (List.mem_map_of_mem hentry)
    have hgroup := GroupBy.groupValue_of_mem hentry
    rw [groupValue_append] at hgroup
    split at hgroup
    · cases hgroup
    · exact ⟨hkey, (Option.some.inj hgroup).symm⟩
  constructor
  · exact hvalue entry
  · rintro ⟨hkey, hrows⟩
    obtain ⟨other, hother, hfirst⟩ := List.mem_map.mp (mem_keys_grouped.mpr hkey)
    obtain ⟨-, hotherRows⟩ := hvalue other hother
    have hsame : other = entry := by
      refine Prod.ext hfirst ?_
      rw [hotherRows, hrows, hfirst]
    exact hsame ▸ hother

variable {platform : Platform}

def AdapterPayload.observationsOf (payload : AdapterPayload) (code : JsText) :
    List Observation :=
  payload.observations.filter fun observation => observation.securityCode = code

theorem mem_securities_iff {payload : AdapterPayload} {security : Security} :
    security ∈ (buildReconciliationReport platform payload).securities ↔
      ∃ code ∈ payload.observations.map Observation.securityCode,
        security = buildSecurity platform code (payload.observationsOf code) := by
  rw [buildReconciliationReport]
  simp only [List.mem_map (b := security), List.mem_insertionSort, mem_grouped_iff]
  constructor
  · rintro ⟨⟨code, group⟩, ⟨hcode, hgroup⟩, rfl⟩
    obtain rfl : group = payload.observationsOf code := hgroup
    exact ⟨code, hcode, rfl⟩
  · rintro ⟨code, hcode, rfl⟩
    exact ⟨⟨code, payload.observationsOf code⟩, ⟨hcode, rfl⟩, rfl⟩

end Groups

section Soundness

variable (platform : Platform)

def packetOf (payload : AdapterPayload) : ReconciliationPacket :=
  buildReconciliationPacket platform (buildReconciliationReport platform payload) payload

def ReconciliationRow.outcome (row : ReconciliationRow) :
    JsText × FactName × ComparisonStatus × JsText :=
  (row.securityCode, row.factName, row.status, row.rowId)

structure Reconciled (payload : AdapterPayload) : Prop where
  statuses : ∀ security ∈ (buildReconciliationReport platform payload).securities,
    ∀ comparison ∈ security.comparisons, StatusRight comparison
  listed : ∀ security ∈ (buildReconciliationReport platform payload).securities,
    ∀ comparison ∈ security.comparisons, ∀ observation ∈ payload.observations,
      observation.securityCode = security.securityCode →
      observation.observes comparison.factName = true →
      observation.observationId ∈ observationIdsFromValues comparison.values
  covered : ∀ observation ∈ payload.observations, observation.fieldName ≠ .companySummaryUrl →
    (∃ security ∈ (buildReconciliationReport platform payload).securities,
      security.securityCode = observation.securityCode ∧
      ∃ comparison ∈ security.comparisons,
        observation.observationId ∈ observationIdsFromValues comparison.values) ∨
    ∃ row ∈ (packetOf platform payload).supplementCandidateRows,
      row.securityCode = observation.securityCode ∧
      row.sourceObservationId = observation.observationId
  requested : ∀ row ∈ (packetOf platform payload).reconciliationRows,
    ∀ observationId ∈ row.sourceObservationIds,
      ∃ request ∈ (packetOf platform payload).rawSnapshotRequests,
        request.requestId ∈ row.rawSnapshotRequestIds ∧
        observationId ∈ request.observationIds
  unordered : ∀ other : AdapterPayload, payload.observations.Perm other.observations →
    (∀ outcome,
      outcome ∈ (packetOf platform payload).reconciliationRows.map ReconciliationRow.outcome ↔
        outcome ∈ (packetOf platform other).reconciliationRows.map ReconciliationRow.outcome) ∧
    ∀ rowId,
      rowId ∈ (packetOf platform payload).supplementCandidateRows.map
          SupplementCandidateRow.rowId ↔
        rowId ∈ (packetOf platform other).supplementCandidateRows.map
          SupplementCandidateRow.rowId

structure Clean (observations : List Observation) : Prop where
  both : ∀ factName, SuppliedByBoth platform observations factName
  whole : ∀ factName, (∃ sourceId, 0 < supplyCount platform observations factName sourceId) →
    Whole platform observations factName
  once : ShownOnce platform observations

variable {platform : Platform}
variable {payload : AdapterPayload}

theorem AdapterPayload.identifiedOf (payload : AdapterPayload) (code : JsText) :
    ∀ first ∈ payload.observationsOf code, ∀ second ∈ payload.observationsOf code,
      first.observationId = second.observationId → first.SameButForTime second := by
  intro first hfirst second hsecond
  exact payload.identified first (List.mem_filter.mp hfirst).1 second (List.mem_filter.mp hsecond).1

theorem exists_supplyCount_iff {observations : List Observation} {factName : FactName} :
    (∃ sourceId, 0 < supplyCount platform observations factName sourceId) ↔
      factValues platform observations factName ≠ [] := by
  constructor
  · rintro ⟨sourceId, hpos⟩
    rw [← countP_factValues, List.countP_pos_iff] at hpos
    obtain ⟨value, hvalue, -⟩ := hpos
    exact List.ne_nil_of_mem hvalue
  · intro hne
    obtain ⟨value, hvalue⟩ := List.exists_mem_of_ne_nil _ hne
    refine ⟨value.sourceId, ?_⟩
    rw [← countP_factValues, List.countP_pos_iff]
    exact ⟨value, hvalue, decide_eq_true rfl⟩

end Soundness

section Requests

variable {platform : Platform}
variable {payload : AdapterPayload}

theorem exists_request (platform : Platform) {observation : Observation}
    (h : observation ∈ payload.observations) :
    ∃ request ∈ buildRawSnapshotRequests platform payload.observations,
      observation.observationId ∈ request.observationIds := by
  have hgroup : (observation.pageKey,
      payload.observations.filter fun row => row.pageKey = observation.pageKey) ∈
        grouped Observation.pageKey payload.observations :=
    mem_grouped_iff.mpr ⟨List.mem_map_of_mem h, rfl⟩
  have hmem : observation ∈
      payload.observations.filter fun row => row.pageKey = observation.pageKey :=
    List.mem_filter.mpr ⟨h, decide_eq_true rfl⟩
  obtain ⟨first, rest, hrows⟩ := List.exists_cons_of_ne_nil (List.ne_nil_of_mem hmem)
  refine ⟨rawSnapshotRequest platform first (first :: rest), ?_, ?_⟩
  · rw [buildRawSnapshotRequests, List.mem_insertionSort]
    refine List.mem_filterMap.mpr ⟨_, hgroup, ?_⟩
    rw [hrows]
    rfl
  · rw [rawSnapshotRequest, sorted, List.mem_insertionSort]
    rw [hrows] at hmem
    exact List.mem_map_of_mem hmem

variable {observationId : JsText}
variable {request : RawSnapshotRequest}

theorem requestIdOf_isSome {requests : List RawSnapshotRequest} (hrequest : request ∈ requests)
    (hlists : observationId ∈ request.observationIds) :
    ∃ last ∈ requests, requestIdOf requests observationId = some last.requestId ∧
      observationId ∈ last.observationIds := by
  have hne : (requests.filter fun request => observationId ∈ request.observationIds) ≠ [] :=
    List.ne_nil_of_mem (List.mem_filter.mpr ⟨hrequest, decide_eq_true hlists⟩)
  have hlast := List.getLast?_eq_some_getLast hne
  have hmem := List.mem_of_getLast? hlast
  obtain ⟨hin, hobservation⟩ := List.mem_filter.mp hmem
  refine ⟨_, hin, ?_, of_decide_eq_true hobservation⟩
  rw [requestIdOf, hlast]
  rfl

theorem requestId_ne_nil (h : request ∈ buildRawSnapshotRequests platform payload.observations) :
    request.requestId ≠ [] := by
  rw [buildRawSnapshotRequests, List.mem_insertionSort] at h
  obtain ⟨group, _, hsome⟩ := List.mem_filterMap.mp h
  obtain ⟨first, _, rfl⟩ := Option.map_eq_some_iff.mp hsome
  intro hnil
  exact absurd (List.append_eq_nil_iff.mp hnil).1 (by decide +kernel)

theorem exists_observation_of_listed {observations : List Observation} {factName : FactName}
    (h : observationId ∈
      observationIdsFromValues (factValues platform observations factName)) :
    ∃ observation ∈ observations, observation.observationId = observationId := by
  by_cases hfact : factName = .issuePriceRange
  · subst hfact
    rcases listed_range_iff.mp h with ⟨observation, hmem, -, rfl⟩ |
      ⟨low, high, hlow, hhigh, rfl | rfl⟩
    · exact ⟨observation, hmem, rfl⟩
    · exact ⟨low, List.mem_of_find?_eq_some hlow, rfl⟩
    · exact ⟨high, List.mem_of_find?_eq_some hhigh, rfl⟩
  · obtain ⟨observation, hmem, -, rfl⟩ := (listed_iff hfact).mp h
    exact ⟨observation, hmem, rfl⟩

theorem mem_reconciliationRows_iff {row : ReconciliationRow} :
    row ∈ (packetOf platform payload).reconciliationRows ↔
      ∃ code ∈ payload.observations.map Observation.securityCode, ∃ factName comparison,
        compareValues factName (factValues platform (payload.observationsOf code) factName) =
          some comparison ∧
        row = reconciliationRow platform
          (buildRawSnapshotRequests platform payload.observations)
          (buildSecurity platform code (payload.observationsOf code)) comparison := by
  simp only [packetOf, buildReconciliationPacket, List.mem_flatMap, mem_securities_iff,
    List.mem_map]
  constructor
  · rintro ⟨security, ⟨code, hcode, rfl⟩, comparison, hcomparison, rfl⟩
    obtain ⟨factName, hsome⟩ := mem_securityComparisons.mp hcomparison
    exact ⟨code, hcode, factName, comparison, hsome, rfl⟩
  · rintro ⟨code, hcode, factName, comparison, hsome, rfl⟩
    exact ⟨_, ⟨code, hcode, rfl⟩, comparison, mem_securityComparisons.mpr ⟨factName, hsome⟩, rfl⟩

theorem row_requested {row : ReconciliationRow}
    (hrow : row ∈ (packetOf platform payload).reconciliationRows)
    (hid : observationId ∈ row.sourceObservationIds) :
    ∃ request ∈ (packetOf platform payload).rawSnapshotRequests,
      request.requestId ∈ row.rawSnapshotRequestIds ∧ observationId ∈ request.observationIds := by
  obtain ⟨code, -, factName, comparison, hsome, rfl⟩ := mem_reconciliationRows_iff.mp hrow
  obtain ⟨-, -, hvalues, -⟩ := compareValues_eq_some_iff.mp hsome
  rw [reconciliationRow, sorted, List.mem_insertionSort] at hid
  have hlisted := hid
  rw [hvalues] at hlisted
  obtain ⟨observation, hobservation, rfl⟩ := exists_observation_of_listed hlisted
  obtain ⟨request, hrequest, hlists⟩ := exists_request platform
    (List.mem_filter.mp hobservation).1
  obtain ⟨last, hlast, hfound, hlastLists⟩ := requestIdOf_isSome hrequest hlists
  refine ⟨last, hlast, ?_, hlastLists⟩
  rw [reconciliationRow, unique, List.mem_eraseDups]
  refine List.mem_filter.mpr ⟨List.mem_filterMap.mpr ⟨_, hid, hfound⟩, ?_⟩
  exact decide_eq_true (requestId_ne_nil hlast)

end Requests

section Order

variable {platform : Platform}
variable {observations others : List Observation}
variable {factName : FactName}

/-- What the outcome of a comparison depends on. -/
def ComparedValue.essence (value : ComparedValue) : JsText × JsText :=
  (value.normalizedValue, value.observationId)

theorem nodup_unique (texts : List JsText) : (unique texts).Nodup := by
  have hnodup := GroupBy.nodup_eraseDups texts
  rwa [lawful_beq_subsingleton instBEqOfDecidableEq (List.instBEq : BEq JsText)] at hnodup

theorem sorted_unique_congr {first second : List JsText}
    (h : ∀ text, text ∈ first ↔ text ∈ second) :
    sorted (unique first) = sorted (unique second) := by
  refine StableSort.insertionSort_perm ?_ ?_
  · exact fun a _ b _ hab hba => List.le_antisymm hab hba
  · refine (List.perm_ext_iff_of_nodup (nodup_unique first) (nodup_unique second)).mpr ?_
    intro text
    rw [unique, unique, List.mem_eraseDups, List.mem_eraseDups]
    exact h text

theorem compareValues_of_perm {values values' : List ComparedValue}
    (hperm : (values.map ComparedValue.essence).Perm (values'.map ComparedValue.essence))
    {comparison : Comparison} (h : compareValues factName values = some comparison) :
    ∃ other, compareValues factName values' = some other ∧ other.status = comparison.status ∧
      sorted (observationIdsFromValues other.values) =
        sorted (observationIdsFromValues comparison.values) := by
  obtain ⟨hne, -, hvalues, -⟩ := compareValues_eq_some_iff.mp h
  have hlength : values'.length = values.length := by
    have := hperm.length_eq
    rwa [List.length_map, List.length_map, eq_comm] at this
  have hne' : values' ≠ [] := by
    rwa [← List.length_pos_iff, hlength, List.length_pos_iff]
  obtain ⟨other, hother⟩ := compareValues_isSome factName hne'
  obtain ⟨-, -, hvalues', -⟩ := compareValues_eq_some_iff.mp hother
  refine ⟨other, hother, ?_, ?_⟩
  · have hsame : ∀ list : List ComparedValue,
        (∀ first ∈ list, ∀ second ∈ list, first.normalizedValue = second.normalizedValue) ↔
          ∀ first ∈ list.map ComparedValue.essence, ∀ second ∈ list.map ComparedValue.essence,
            first.1 = second.1 := by
      intro list
      simp only [List.forall_mem_map]
      rfl
    have hmem : (∀ first ∈ values'.map ComparedValue.essence,
        ∀ second ∈ values'.map ComparedValue.essence, first.1 = second.1) ↔
          ∀ first ∈ values.map ComparedValue.essence,
            ∀ second ∈ values.map ComparedValue.essence, first.1 = second.1 := by
      simp only [hperm.mem_iff]
    simp only [status_of_compareValues hother, status_of_compareValues h, hlength, hsame, hmem]
  · rw [hvalues, hvalues']
    refine sorted_unique_congr fun text => ?_
    have hlisted : ∀ list : List ComparedValue,
        (text ∈ list.flatMap fun value =>
          (value.observationId.splitOn 124).filter fun text => text ≠ []) ↔
        ∃ pair ∈ list.map ComparedValue.essence,
          text ∈ (pair.2.splitOn 124).filter fun text => text ≠ [] := by
      intro list
      simp only [List.mem_flatMap, List.mem_map, exists_exists_and_eq_and]
      rfl
    rw [hlisted, hlisted]
    simp only [hperm.mem_iff]

theorem essence_perm
    (hid : ∀ first ∈ observations, ∀ second ∈ observations,
      first.observationId = second.observationId → first.SameButForTime second)
    (hperm : observations.Perm others)
    (hwhole : (∃ sourceId, 0 < supplyCount platform observations factName sourceId) →
      Whole platform observations factName) :
    ((factValues platform observations factName).map ComparedValue.essence).Perm
      ((factValues platform others factName).map ComparedValue.essence) := by
  have hfields : ((((factName.selectors.flatMap fun selector =>
      observations.filter fun observation => observation.isOf selector.1 selector.2).map
        (toComparableValue platform)).filter fun value => value.normalizedValue ≠ []).map
        ComparedValue.essence).Perm
      ((((factName.selectors.flatMap fun selector =>
      others.filter fun observation => observation.isOf selector.1 selector.2).map
        (toComparableValue platform)).filter fun value => value.normalizedValue ≠ []).map
        ComparedValue.essence) := by
    refine ((List.Perm.flatMap_left _ fun selector _ => ?_).map _ |>.filter _).map _
    exact hperm.filter _
  cases factName with
  | lotSize => exact hfields
  | listingDate => exact hfields
  | issuePriceRange =>
    rw [factValues, factValues, List.map_append, List.map_append]
    refine List.Perm.append ?_ ?_
    · exact (((hperm.filter _).filterMap _).map _)
    · -- the prices are there once, or they are not compared
      have hpair : ∀ low high low' high' : Observation,
          observations.find? Observation.isLow = some low →
          observations.find? Observation.isHigh = some high →
          others.find? Observation.isLow = some low' →
          others.find? Observation.isHigh = some high' →
          (pairedValue low high).essence = (pairedValue low' high').essence := by
        intro low high low' high' hlow hhigh hlow' hhigh'
        have hmem := List.mem_of_find?_eq_some hlow
        have hmemHigh := List.mem_of_find?_eq_some hhigh
        have hmem' := hperm.mem_iff.mpr (List.mem_of_find?_eq_some hlow')
        have hmemHigh' := hperm.mem_iff.mpr (List.mem_of_find?_eq_some hhigh')
        have hvalue : pairedValue low high ∈
            factValues platform observations .issuePriceRange :=
          mem_rangeValues.mpr (Or.inr ⟨low, high, hlow, hhigh, rfl⟩)
        obtain ⟨-, -, hlows, hhighs⟩ :=
          hwhole (exists_supplyCount_iff.mpr (List.ne_nil_of_mem hvalue))
        have hlowId := hlows low hmem low' hmem' (List.find?_some hlow) (List.find?_some hlow')
        have hhighId := hhighs high hmemHigh high' hmemHigh' (List.find?_some hhigh)
          (List.find?_some hhigh')
        rw [ComparedValue.essence, ComparedValue.essence, pairedValue, pairedValue, hlowId,
          hhighId, (hid low hmem low' hmem' hlowId).fieldValue,
          (hid high hmemHigh high' hmemHigh' hhighId).fieldValue]
      have hshows : ShowsRange observations ↔ ShowsRange others := by
        rw [ShowsRange, ShowsRange]
        simp only [hperm.mem_iff]
      have hrange : ∀ list : List Observation, ∀ low high,
          list.find? Observation.isLow = some low → list.find? Observation.isHigh = some high →
          vbkrRange list = [pairedValue low high] := by
        intro list low high hlow hhigh
        have hlowOf : (list.find? fun observation =>
            observation.isOf .issueLowPrice .vbkrHkIpo) = some low := hlow
        have hhighOf : (list.find? fun observation =>
            observation.isOf .issueHighPrice .vbkrHkIpo) = some high := hhigh
        rw [vbkrRange, hlowOf, hhighOf]
      have hnone : ∀ list : List Observation, ¬ShowsRange list → vbkrRange list = [] := by
        intro list hnot
        rw [vbkrRange]
        split
        · next low high hlow hhigh =>
            exact absurd (showsRange_iff.mpr ⟨low, high, hlow, hhigh⟩) hnot
        · rfl
      by_cases hshown : ShowsRange observations
      · obtain ⟨low, high, hlow, hhigh⟩ := showsRange_iff.mp hshown
        obtain ⟨low', high', hlow', hhigh'⟩ := showsRange_iff.mp (hshows.mp hshown)
        rw [hrange _ low high hlow hhigh, hrange _ low' high' hlow' hhigh', List.map_singleton,
          List.map_singleton, hpair low high low' high' hlow hhigh hlow' hhigh']
      · rw [hnone _ hshown, hnone _ fun h => hshown (hshows.mpr h)]

variable {payload other : AdapterPayload}

theorem AdapterPayload.observationsOf_perm (hperm : payload.observations.Perm other.observations)
    (code : JsText) : (payload.observationsOf code).Perm (other.observationsOf code) :=
  hperm.filter _

theorem outcome_of_perm (hclean : ∀ code, Clean platform (payload.observationsOf code))
    (hperm : payload.observations.Perm other.observations)
    {outcome : JsText × FactName × ComparisonStatus × JsText}
    (h : outcome ∈
      (packetOf platform payload).reconciliationRows.map ReconciliationRow.outcome) :
    outcome ∈ (packetOf platform other).reconciliationRows.map ReconciliationRow.outcome := by
  obtain ⟨row, hrow, rfl⟩ := List.mem_map.mp h
  obtain ⟨code, hcode, factName, comparison, hsome, rfl⟩ := mem_reconciliationRows_iff.mp hrow
  obtain ⟨found, hfound, hstatus, hids⟩ := compareValues_of_perm
    (essence_perm (payload.identifiedOf code) (AdapterPayload.observationsOf_perm hperm code)
      ((hclean code).whole factName)) hsome
  refine List.mem_map.mpr ⟨_, mem_reconciliationRows_iff.mpr
    ⟨code, (hperm.map _).mem_iff.mp hcode, factName, found, hfound, rfl⟩, ?_⟩
  have hname := (compareValues_eq_some_iff.mp hsome).2.1
  have hname' := (compareValues_eq_some_iff.mp hfound).2.1
  simp only [ReconciliationRow.outcome, reconciliationRow, buildSecurity, hstatus, hids, hname,
    hname']

theorem mem_supplementRows_iff {rowId : JsText} :
    rowId ∈ (packetOf platform payload).supplementCandidateRows.map
        SupplementCandidateRow.rowId ↔
      ∃ code ∈ payload.observations.map Observation.securityCode,
        ∃ candidate ∈ collectSupplementCandidates (payload.observationsOf code)
          (securityComparisons platform (payload.observationsOf code)),
        rowId = (supplementCandidateRow platform []
          (buildSecurity platform code []) candidate).rowId := by
  simp only [packetOf, buildReconciliationPacket, List.map_flatMap, List.mem_flatMap,
    mem_securities_iff, List.map_map, List.mem_map (b := rowId)]
  constructor
  · rintro ⟨security, ⟨code, hcode, rfl⟩, candidate, hcandidate, rfl⟩
    exact ⟨code, hcode, candidate, hcandidate, rfl⟩
  · rintro ⟨code, hcode, candidate, hcandidate, rfl⟩
    exact ⟨_, ⟨code, hcode, rfl⟩, candidate, hcandidate, rfl⟩

theorem fieldCompared_of_perm (hperm : observations.Perm others) {fieldName : FieldName}
    (h : FieldCompared platform others fieldName) :
    FieldCompared platform observations fieldName := by
  obtain ⟨observation, hmem, hfield⟩ := h
  exact ⟨observation, hperm.mem_iff.mpr hmem, hfield⟩

theorem supplement_of_perm (hclean : ∀ code, Clean platform (payload.observationsOf code))
    (hperm : payload.observations.Perm other.observations) {rowId : JsText}
    (h : rowId ∈ (packetOf platform payload).supplementCandidateRows.map
      SupplementCandidateRow.rowId) :
    rowId ∈ (packetOf platform other).supplementCandidateRows.map
      SupplementCandidateRow.rowId := by
  obtain ⟨code, hcode, candidate, hcandidate, rfl⟩ := mem_supplementRows_iff.mp h
  have hpermOf := AdapterPayload.observationsOf_perm hperm code
  obtain ⟨observation, hmem, rfl, hcompared, hsummary⟩ := mem_candidates hcandidate
  have hcompared' : ¬FieldCompared platform (other.observationsOf code) observation.fieldName :=
    fun h => hcompared (fieldCompared_of_perm hpermOf h)
  obtain ⟨kept, hkept, hkey⟩ :=
    exists_candidate (hpermOf.mem_iff.mp hmem) hcompared' hsummary
  obtain ⟨found, hfound, rfl, -⟩ := mem_candidates hkept
  obtain ⟨hsource, hrecord, hfield⟩ := SupplementCandidate.key_eq_iff.mp hkey
  have hid := (hclean code).once observation hmem found (hpermOf.mem_iff.mpr hfound)
    hsource.symm hrecord.symm hfield.symm hsummary hcompared
  refine mem_supplementRows_iff.mpr
    ⟨code, (hperm.map _).mem_iff.mp hcode, _, hkept, ?_⟩
  have hfield' : found.fieldName = observation.fieldName := hfield
  simp only [supplementCandidateRow, supplementCandidate, hid, hfield']

theorem supplyCount_of_perm (hperm : observations.Perm others) (sourceId : SourceId) :
    supplyCount platform observations factName sourceId =
      supplyCount platform others factName sourceId := by
  have hshows : ShowsRange observations ↔ ShowsRange others := by
    rw [ShowsRange, ShowsRange]
    simp only [hperm.mem_iff]
  rw [supplyCount, supplyCount, hperm.countP_eq]
  simp only [hshows]

/-- Whether a security can be reconciled does not depend on the order either. -/
theorem Clean.of_perm (h : Clean platform observations) (hperm : observations.Perm others) :
    Clean platform others where
  both := by
    intro factName
    rw [SuppliedByBoth, ← supplyCount_of_perm hperm, ← supplyCount_of_perm hperm]
    exact h.both factName
  whole := by
    intro factName hsupplied
    simp only [← supplyCount_of_perm hperm] at hsupplied
    have hwhole := h.whole factName hsupplied
    cases factName <;> simpa only [Whole, hperm.mem_iff] using hwhole
  once := by
    intro first hfirst second hsecond hsource hrecord hfield hsummary hcompared
    exact h.once first (hperm.mem_iff.mpr hfirst) second (hperm.mem_iff.mpr hsecond) hsource
      hrecord hfield hsummary fun hc => hcompared (fieldCompared_of_perm hperm.symm hc)

end Order

section Main

variable {platform : Platform}
variable {payload : AdapterPayload}

/-- The report and the packet are sound and complete exactly when every security lets its facts
be reconciled. -/
theorem reconciled_iff :
    Reconciled platform payload ↔
      ∀ code ∈ payload.observations.map Observation.securityCode,
        Clean platform (payload.observationsOf code) := by
  constructor
  · intro h code hcode
    have hsecurity : buildSecurity platform code (payload.observationsOf code) ∈
        (buildReconciliationReport platform payload).securities :=
      mem_securities_iff.mpr ⟨code, hcode, rfl⟩
    have hlisted : ∀ factName,
        factValues platform (payload.observationsOf code) factName ≠ [] →
        AllListed platform (payload.observationsOf code) factName := by
      intro factName hne observation hobservation hobserves
      obtain ⟨hmem, hof⟩ := List.mem_filter.mp hobservation
      obtain ⟨comparison, hsome⟩ := compareValues_isSome factName hne
      obtain ⟨-, hname, hvalues, -⟩ := compareValues_eq_some_iff.mp hsome
      rw [← hvalues]
      exact h.listed _ hsecurity comparison (mem_securityComparisons.mpr ⟨factName, hsome⟩)
        observation hmem (of_decide_eq_true hof) (hname ▸ hobserves)
    refine ⟨?_, ?_, ?_⟩
    · intro factName
      by_cases hne : factValues platform (payload.observationsOf code) factName = []
      · intro htwo
        rw [← countP_factValues, ← countP_factValues, hne] at htwo
        exact absurd htwo (by decide)
      · obtain ⟨comparison, hsome⟩ := compareValues_isSome factName hne
        exact (statusRight_iff_suppliedByBoth hsome).mp (h.statuses _ hsecurity comparison
          (mem_securityComparisons.mpr ⟨factName, hsome⟩))
    · intro factName hsupplied
      have hne := exists_supplyCount_iff.mp hsupplied
      exact (allListed_iff (payload.identifiedOf code)).mp (hlisted factName hne)
    · refine (covered_iff_shownOnce (payload.identifiedOf code) hlisted).mp ?_
      intro observation hobservation hsummary
      obtain ⟨hmem, hof⟩ := List.mem_filter.mp hobservation
      have hcodeOf := of_decide_eq_true hof
      rcases h.covered observation hmem hsummary with
        ⟨security, hsecurity', hsame, comparison, hcomparison, hids⟩ | ⟨row, hrow, hsame, hids⟩
      · obtain ⟨code', -, rfl⟩ := mem_securities_iff.mp hsecurity'
        have hcodes : code' = code := hsame.trans hcodeOf
        subst hcodes
        exact Or.inl ⟨comparison, hcomparison, hids⟩
      · simp only [packetOf, buildReconciliationPacket, List.mem_flatMap,
              mem_securities_iff] at hrow
        obtain ⟨security, ⟨code', -, rfl⟩, hrow⟩ := hrow
        obtain ⟨candidate, hcandidate, rfl⟩ := List.mem_map.mp hrow
        have hcodes : code' = code := hsame.trans hcodeOf
        subst hcodes
        exact Or.inr ⟨candidate, hcandidate, hids⟩
  · intro hcleanCodes
    have hclean : ∀ code, Clean platform (payload.observationsOf code) := by
      intro code
      by_cases hcode : code ∈ payload.observations.map Observation.securityCode
      · exact hcleanCodes code hcode
      · have hnone : payload.observationsOf code = [] := by
          refine List.filter_eq_nil_iff.mpr fun observation hmem hof => hcode ?_
          exact List.mem_map.mpr ⟨observation, hmem, of_decide_eq_true hof⟩
        rw [hnone]
        refine ⟨fun factName htwo => ?_, fun factName _ => ?_, fun _ hfirst => ?_⟩
        · simp [supplyCount, ShowsRange] at htwo
        · cases factName <;> simp [Whole]
        · exact (List.not_mem_nil hfirst).elim
    have hlisted : ∀ code factName,
        factValues platform (payload.observationsOf code) factName ≠ [] →
        AllListed platform (payload.observationsOf code) factName := by
      intro code factName hne
      exact (allListed_iff (payload.identifiedOf code)).mpr
        ((hclean code).whole factName (exists_supplyCount_iff.mpr hne))
    refine ⟨?_, ?_, ?_, fun row hrow id hid => row_requested hrow hid, ?_⟩
    · intro security hsecurity comparison hcomparison
      obtain ⟨code, -, rfl⟩ := mem_securities_iff.mp hsecurity
      obtain ⟨factName, hsome⟩ := mem_securityComparisons.mp hcomparison
      exact (statusRight_iff_suppliedByBoth hsome).mpr ((hclean code).both factName)
    · intro security hsecurity comparison hcomparison observation hmem hof hobserves
      obtain ⟨code, -, rfl⟩ := mem_securities_iff.mp hsecurity
      obtain ⟨factName, hsome⟩ := mem_securityComparisons.mp hcomparison
      obtain ⟨hne, hname, hvalues, -⟩ := compareValues_eq_some_iff.mp hsome
      rw [hname] at hobserves
      rw [hvalues]
      exact hlisted code factName hne observation
        (List.mem_filter.mpr ⟨hmem, decide_eq_true hof⟩) hobserves
    · intro observation hmem hsummary
      have hcode : observation.securityCode ∈ payload.observations.map Observation.securityCode :=
        List.mem_map_of_mem hmem
      have hin : observation ∈ payload.observationsOf observation.securityCode :=
        List.mem_filter.mpr ⟨hmem, decide_eq_true rfl⟩
      have hcovered := (covered_iff_shownOnce (payload.identifiedOf observation.securityCode)
        (hlisted observation.securityCode)).mpr (hclean observation.securityCode).once
      rcases hcovered observation hin hsummary with
        ⟨comparison, hcomparison, hids⟩ | ⟨candidate, hcandidate, hids⟩
      · exact Or.inl ⟨_, mem_securities_iff.mpr ⟨_, hcode, rfl⟩, rfl, comparison, hcomparison, hids⟩
      · refine Or.inr ⟨supplementCandidateRow platform
          (buildRawSnapshotRequests platform payload.observations)
          (buildSecurity platform observation.securityCode
            (payload.observationsOf observation.securityCode)) candidate, ?_, rfl, hids⟩
        simp only [packetOf, buildReconciliationPacket, List.mem_flatMap]
        exact ⟨_, mem_securities_iff.mpr ⟨_, hcode, rfl⟩, List.mem_map_of_mem hcandidate⟩
    · intro other hperm
      have hcleanOther : ∀ code, Clean platform (other.observationsOf code) := fun code =>
        (hclean code).of_perm (AdapterPayload.observationsOf_perm hperm code)
      refine ⟨fun outcome => ⟨outcome_of_perm hclean hperm, ?_⟩,
        fun rowId => ⟨supplement_of_perm hclean hperm, ?_⟩⟩
      · exact outcome_of_perm hcleanOther hperm.symm
      · exact supplement_of_perm hcleanOther hperm.symm

def plainPlatform : Platform where
  toLowerCase := id
  stableHash := fun value => JsText.ofChars (StableJson.render value)
  isOfficialHkexUrl := fun _ => false
  localeOrder := fun first second => decide (first ≤ second)

theorem plainId_one : ofString "obs_1" ≠ [] ∧ 124 ∉ ofString "obs_1" := by
  decide +kernel

theorem plainId_two : ofString "obs_2" ≠ [] ∧ 124 ∉ ofString "obs_2" := by
  decide +kernel

theorem text_500 : JsNumber.ofText (ofString (JsNumber.finite 500).toText) = .finite 500 := by
  decide +kernel

theorem aastocks_lotSize : FieldName.lotSize ∈ SourceId.fields .aastocksIpoPlus := by
  decide

def lotSizeOf (observationId sourceRecordId : String)
    (hid : ofString observationId ≠ [] ∧ 124 ∉ ofString observationId) :
    Observation where
  observationId := ofString observationId
  fieldName := .lotSize
  fieldValue := .number ⟨500, text_500⟩
  fieldValueType := .number
  locator := ofString sourceRecordId
  observedAt := ofString "2026-06-28T00:00:00Z"
  provider := ofString "AASTOCKS"
  securityCode := ofString "02649.HK"
  sourceId := .aastocksIpoPlus
  sourceRecordId := ofString sourceRecordId
  sourceUrl := ofString "https://www.aastocks.com/en/stocks/market/ipo"
  idPlain := hid
  fieldKnown := aastocks_lotSize

/-- One source that shows a security in two sections. -/
def twoSections : AdapterPayload where
  runs :=
    [[lotSizeOf "obs_1" "aastocks_ipo_plus:current_ipos:02649.HK" plainId_one,
      lotSizeOf "obs_2" "aastocks_ipo_plus:listed_ipo:02649.HK" plainId_two]]
  identified := by
    have hne : ofString "obs_1" ≠ ofString "obs_2" := by
      decide +kernel
    intro first hfirst second hsecond hsame
    simp only [List.flatten_cons, List.flatten_nil, List.append_nil, List.mem_cons,
      List.not_mem_nil, or_false] at hfirst hsecond
    rcases hfirst with rfl | rfl <;> rcases hsecond with rfl | rfl
    · constructor <;> rfl
    · exact absurd hsame hne
    · exact absurd hsame.symm hne
    · constructor <;> rfl

/-- A source that shows a security twice agrees with itself. -/
theorem twoSections_not_reconciled :
    ¬Reconciled plainPlatform twoSections := by
  intro h
  have hany : ((buildReconciliationReport plainPlatform twoSections).securities.any
      fun security => security.comparisons.any fun comparison =>
        decide (comparison.status = .agreement) &&
          comparison.values.all fun value => decide (value.sourceId = .aastocksIpoPlus)) =
        true := by
    decide +kernel
  obtain ⟨security, hsecurity, hcomparisons⟩ := List.any_eq_true.mp hany
  obtain ⟨comparison, hcomparison, hagrees⟩ := List.any_eq_true.mp hcomparisons
  obtain ⟨hstatus, hsources⟩ := Bool.and_eq_true_iff.mp hagrees
  have hright := h.statuses security hsecurity comparison hcomparison
  obtain ⟨⟨first, hfirst, second, hsecond, hdiffer⟩, -⟩ :=
    hright.agreement.mp (of_decide_eq_true hstatus)
  have hall := List.all_eq_true.mp hsources
  exact hdiffer ((of_decide_eq_true (hall first hfirst)).trans
    (of_decide_eq_true (hall second hsecond)).symm)

end Main

end Aiphabee.IpoPublic
