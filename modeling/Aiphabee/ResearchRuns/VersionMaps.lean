import Aiphabee.ResearchRuns.ReplayPlan
import Aiphabee.Store.GroupBy
import Aiphabee.Store.InsertionMap

/-!
# The versions that a replay compares

The versions of a run are held by a map, so that of the entries with one key the
last one counts.  The keys of the evidence and the keys of the calls are never the
same, nor are those of a data version and a methodology version.  With the same
evidence the maps of two runs therefore agree exactly when, under every id of a
call, the versions that are noted last agree.
-/

namespace Aiphabee.ResearchRuns

open StableJson
open InsertionMap (lastValue lastValue_append_of_not_mem lastValue_append_of_not_mem_right)

section UniqueSorted

variable (localeOrder : LocaleOrder)

theorem mem_uniqueSorted {values : List JsText} {value : JsText} :
    value ∈ uniqueSorted localeOrder values ↔ value ∈ values := by
  rw [uniqueSorted, List.mem_insertionSort, List.mem_eraseDups]

theorem nodup_uniqueSorted (values : List JsText) : (uniqueSorted localeOrder values).Nodup := by
  rw [uniqueSorted, (List.perm_insertionSort _ _).nodup_iff]
  have hnodup := GroupBy.nodup_eraseDups values
  rwa [lawful_beq_subsingleton instBEqOfDecidableEq (List.instBEq : BEq JsText)] at hnodup

end UniqueSorted

theorem mapGet_newMap (entries : List (JsText × JsText)) (key : JsText) :
    mapGet (newMap entries) key = lastValue entries key :=
  InsertionMap.get_ofEntries entries key

theorem mapGet_eq_none {entries : List (JsText × JsText)} {key : JsText}
    (h : key ∉ entries.map Prod.fst) : mapGet entries key = none := by
  have hlookup : KeyedTable.lookup Prod.fst entries key = none := by
    refine KeyedTable.lookup_eq_none.mpr fun entry hentry hkey => h ?_
    exact List.mem_map.mpr ⟨entry, hentry, hkey⟩
  rw [mapGet, hlookup]
  rfl

/-- No field is reported exactly when the maps hold the same values. -/
theorem compareStringMaps_eq_nil_iff (localeOrder : LocaleOrder)
    {previous current : List (JsText × JsText)} :
    compareStringMaps localeOrder previous current = [] ↔
      ∀ key, mapGet previous key = mapGet current key := by
  rw [compareStringMaps, List.filterMap_eq_nil_iff]
  constructor
  · intro h key
    by_cases hkey : key ∈ previous.map Prod.fst ++ current.map Prod.fst
    · have hnone := h key ((mem_uniqueSorted localeOrder).mpr hkey)
      split at hnone
      next hsame => exact hsame
      next => cases hnone
    · rw [List.mem_append, not_or] at hkey
      rw [mapGet_eq_none hkey.1, mapGet_eq_none hkey.2]
  · intro h key _
    rw [if_pos (h key)]

section Versions

def lastVersions (toolCalls : List ResearchRunSavedToolCall) (id : JsText) :
    Option (JsText × JsText) :=
  ((toolCalls.filter fun toolCall => toolCall.toolCallId = id).getLast?).map fun toolCall =>
    (toolCall.dataVersion, toolCall.methodologyVersion)

def SameLastVersions (previous current : List ResearchRunSavedToolCall) : Prop :=
  ∀ id, lastVersions previous id = lastVersions current id

def versionEntries {ρ : Type} (owner : String) (id dataVersion methodologyVersion : ρ → JsText)
    (rows : List ρ) : List (JsText × JsText) :=
  rows.flatMap fun row =>
    [(versionField owner (id row) ":data_version", dataVersion row),
      (versionField owner (id row) ":methodology_version", methodologyVersion row)]

theorem versionField_ne (owner owner' : String) (id id' : JsText) :
    versionField owner id ":data_version" ≠ versionField owner' id' ":methodology_version" := by
  intro h
  have hlast := congrArg (fun text => text.reverse.take 12) h
  simp only [versionField, List.reverse_append] at hlast
  rw [List.take_append_of_le_length (by decide +kernel),
    List.take_append_of_le_length (by decide +kernel)] at hlast
  exact absurd hlast (by decide +kernel)

theorem versionField_inj {owner version : String} {id id' : JsText} :
    versionField owner id version = versionField owner id' version ↔ id = id' := by
  rw [versionField, versionField, List.append_left_inj, List.append_right_inj]

theorem evidenceField_ne_toolField (id id' : JsText) (version version' : String) :
    versionField "evidence:" id version ≠ versionField "tool:" id' version' := by
  intro h
  have hfirst := congrArg (fun text => text.take 1) h
  simp only [versionField, List.append_assoc] at hfirst
  rw [List.take_append_of_le_length (by decide +kernel),
    List.take_append_of_le_length (by decide +kernel)] at hfirst
  exact absurd hfirst (by decide +kernel)

variable {ρ : Type}
variable {owner : String}
variable {id dataVersion methodologyVersion : ρ → JsText}
variable (rows : List ρ)
variable (key : JsText)

theorem filter_versionEntries_data :
    ((versionEntries owner id dataVersion methodologyVersion rows).filter fun entry =>
        entry.1 = versionField owner key ":data_version") =
      (rows.filter fun row => id row = key).map fun row =>
        (versionField owner (id row) ":data_version", dataVersion row) := by
  induction rows with
  | nil => rfl
  | cons row rest ih =>
    have hne := versionField_ne owner owner key (id row)
    rw [versionEntries, List.flatMap_cons, ← versionEntries, List.filter_append, ih]
    by_cases hkey : id row = key
    · simp [hkey, (versionField_ne owner owner key key).symm]
    · simp [hkey, hne.symm, versionField_inj]

theorem filter_versionEntries_methodology :
    ((versionEntries owner id dataVersion methodologyVersion rows).filter fun entry =>
        entry.1 = versionField owner key ":methodology_version") =
      (rows.filter fun row => id row = key).map fun row =>
        (versionField owner (id row) ":methodology_version", methodologyVersion row) := by
  induction rows with
  | nil => rfl
  | cons row rest ih =>
    have hne := versionField_ne owner owner (id row) key
    rw [versionEntries, List.flatMap_cons, ← versionEntries, List.filter_append, ih]
    by_cases hkey : id row = key
    · simp [hkey, versionField_ne owner owner key key]
    · simp [hkey, hne, versionField_inj]

variable {key : JsText}

theorem mem_keys_versionEntries {rows : List ρ}
    (h : key ∈ (versionEntries owner id dataVersion methodologyVersion rows).map Prod.fst) :
    ∃ row ∈ rows, key = versionField owner (id row) ":data_version" ∨
      key = versionField owner (id row) ":methodology_version" := by
  obtain ⟨entry, hentry, rfl⟩ := List.mem_map.mp h
  obtain ⟨row, hrow, hfields⟩ := List.mem_flatMap.mp hentry
  simp only [List.mem_cons, List.not_mem_nil, or_false] at hfields
  refine ⟨row, hrow, ?_⟩
  rcases hfields with rfl | rfl
  · exact Or.inl rfl
  · exact Or.inr rfl

theorem lastValue_versionEntries_data :
    lastValue (versionEntries owner id dataVersion methodologyVersion rows)
        (versionField owner key ":data_version") =
      ((rows.filter fun row => id row = key).getLast?).map dataVersion := by
  rw [lastValue, filter_versionEntries_data, List.getLast?_map, Option.map_map]
  rfl

theorem lastValue_versionEntries_methodology :
    lastValue (versionEntries owner id dataVersion methodologyVersion rows)
        (versionField owner key ":methodology_version") =
      ((rows.filter fun row => id row = key).getLast?).map methodologyVersion := by
  rw [lastValue, filter_versionEntries_methodology, List.getLast?_map, Option.map_map]
  rfl

theorem map_pair_eq_iff {α β γ : Type} (f : α → β) (g : α → γ) {first second : Option α} :
    first.map (fun value => (f value, g value)) = second.map (fun value => (f value, g value)) ↔
      first.map f = second.map f ∧ first.map g = second.map g := by
  cases first <;> cases second <;> simp

theorem collectDataVersionMap_eq (plan : ResearchRunSavePlan) :
    collectDataVersionMap plan = newMap
      (versionEntries "evidence:" ResearchRunSavedEvidenceRecord.evidenceRecordId
          ResearchRunSavedEvidenceRecord.dataVersion
          ResearchRunSavedEvidenceRecord.methodologyVersion plan.evidenceRecords ++
        versionEntries "tool:" ResearchRunSavedToolCall.toolCallId
          ResearchRunSavedToolCall.dataVersion
          ResearchRunSavedToolCall.methodologyVersion plan.toolCalls) :=
  rfl

theorem sameVersionMaps_iff {previous current : ResearchRunSavePlan}
    (hevidence : previous.evidenceRecords = current.evidenceRecords) :
    (∀ key, mapGet (collectDataVersionMap previous) key =
        mapGet (collectDataVersionMap current) key) ↔
      SameLastVersions previous.toolCalls current.toolCalls := by
  simp only [collectDataVersionMap_eq, mapGet_newMap]
  have htool : ∀ (records : List ResearchRunSavedEvidenceRecord) (id : JsText) (version : String),
      versionField "tool:" id version ∉
        (versionEntries "evidence:" ResearchRunSavedEvidenceRecord.evidenceRecordId
          ResearchRunSavedEvidenceRecord.dataVersion
          ResearchRunSavedEvidenceRecord.methodologyVersion records).map Prod.fst := by
    intro records id version hmem
    obtain ⟨saved, _, hkey⟩ := mem_keys_versionEntries hmem
    rcases hkey with hkey | hkey
    · exact evidenceField_ne_toolField _ _ _ _ hkey.symm
    · exact evidenceField_ne_toolField _ _ _ _ hkey.symm
  constructor
  · intro h id
    have hdata := h (versionField "tool:" id ":data_version")
    have hmethodology := h (versionField "tool:" id ":methodology_version")
    simp only [lastValue_append_of_not_mem (htool _ _ _), lastValue_versionEntries_data] at hdata
    simp only [lastValue_append_of_not_mem (htool _ _ _),
      lastValue_versionEntries_methodology] at hmethodology
    exact (map_pair_eq_iff _ _).mpr ⟨hdata, hmethodology⟩
  · intro h key
    rw [hevidence]
    by_cases hmem : (∃ id, key = versionField "tool:" id ":data_version" ∨
        key = versionField "tool:" id ":methodology_version")
    · obtain ⟨id, hkey⟩ := hmem
      obtain ⟨hdata, hmethodology⟩ := (map_pair_eq_iff _ _).mp (h id)
      rcases hkey with rfl | rfl
      · simpa only [lastValue_append_of_not_mem (htool _ _ _),
          lastValue_versionEntries_data] using hdata
      · simpa only [lastValue_append_of_not_mem (htool _ _ _),
          lastValue_versionEntries_methodology] using hmethodology
    · have hnone : ∀ toolCalls : List ResearchRunSavedToolCall,
          key ∉ (versionEntries "tool:" ResearchRunSavedToolCall.toolCallId
            ResearchRunSavedToolCall.dataVersion
            ResearchRunSavedToolCall.methodologyVersion toolCalls).map Prod.fst := by
        intro toolCalls hkeys
        obtain ⟨toolCall, _, hkey⟩ := mem_keys_versionEntries hkeys
        exact hmem ⟨toolCall.toolCallId, hkey⟩
      rw [lastValue_append_of_not_mem_right (hnone _),
        lastValue_append_of_not_mem_right (hnone _)]

end Versions

end Aiphabee.ResearchRuns
