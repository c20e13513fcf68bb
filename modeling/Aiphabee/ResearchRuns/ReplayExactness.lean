import Mathlib.Data.List.TakeWhile
import Aiphabee.ResearchRuns.EvidenceTexts
import Aiphabee.ResearchRuns.VersionMaps

/-!
# When a replay tells exactly whether a run has changed

A replay compares the evidence, the model and the prompt, the parameters, the
inputs of the tools and the question.  Of the tools it compares nothing more than
the versions that are noted last under every id of a call: the name and the
version of a tool are not looked at, and versions noted earlier under the same id
are hidden.  Evidence that a client posts back lacks the fields without a value,
so that it counts as changed unless every field has one.
-/

namespace Aiphabee.ResearchRuns

open JsText (ofString)
open StableJson

variable {savedRun : SavedRun}
variable {current : ResearchRunSavePlan}

structure SameButForTools (previous current : ResearchRunSavePlan) : Prop where
  question : previous.question = current.question
  model : previous.modelSnapshot = current.modelSnapshot
  parameters : canonical (parametersValue previous.parameterSnapshot.parameters) =
    canonical (parametersValue current.parameterSnapshot.parameters)
  evidence : previous.evidenceRecords = current.evidenceRecords
  inputs : (previous.toolCalls.map fun toolCall => canonical toolCall.inputSnapshot.1) =
    current.toolCalls.map fun toolCall => canonical toolCall.inputSnapshot.1

def toolUses (plan : ResearchRunSavePlan) : List (JsText × JsText × JsText × JsText) :=
  plan.toolCalls.map fun toolCall =>
    (toolCall.toolName, toolCall.toolVersion, toolCall.dataVersion, toolCall.methodologyVersion)

/-- The runs have the same question, model, prompt, parameters, evidence and calls of tools. -/
structure SameRun (previous current : ResearchRunSavePlan) : Prop
    extends SameButForTools previous current where
  tools : toolUses previous = toolUses current

structure Hashed (plan : ResearchRunSavePlan) : Prop where
  question : plan.questionHash = hashStableValue (.string plan.question)
  parameters : plan.parameterSnapshot.parameterHash =
    hashStableValue (parametersValue plan.parameterSnapshot.parameters)
  inputs : ∀ toolCall ∈ plan.toolCalls,
    toolCall.inputHash = hashStableValue toolCall.inputSnapshot.1
  snapshotId : normalizeText (some plan.snapshotId) ≠ none

theorem trim_ne_nil {value : JsText} {u : UInt16} (hu : u ∈ value)
    (hspace : JsText.isWhiteSpace u = false) : JsText.trim value ≠ [] := by
  intro hnil
  rw [JsText.trim, List.reverse_eq_nil_iff, List.dropWhile_eq_nil_iff] at hnil
  have hrest : u ∈ value.dropWhile JsText.isWhiteSpace := by
    rw [← List.takeWhile_append_dropWhile (p := JsText.isWhiteSpace) (l := value),
      List.mem_append] at hu
    rcases hu with htake | hdrop
    · have hwhite := List.mem_takeWhile_imp htake
      rw [hspace] at hwhite
      cases hwhite
    · exact hdrop
  have hwhite := hnil u (List.mem_reverse.mpr hrest)
  rw [hspace] at hwhite
  cases hwhite

theorem normalizeText_snapshotId (hash : JsText) :
    normalizeText (some (ofString "research_snapshot_" ++ hash)) ≠ none := by
  have hmem : (114 : UInt16) ∈ ofString "research_snapshot_" ++ hash :=
    List.mem_append_left _ (by decide +kernel)
  have hne := trim_ne_nil hmem (by decide +kernel)
  rw [normalizeText, Option.map_some, Option.filter_some, if_pos (decide_eq_true hne)]
  exact Option.some_ne_none _

theorem normalizeToolCall_inputHash {toolCall : ResearchRunToolCallInput} {index : Nat}
    {saved : ResearchRunSavedToolCall} (h : normalizeToolCall toolCall index = some saved) :
    saved.inputHash = hashStableValue saved.inputSnapshot.1 := by
  simp only [normalizeToolCall, Option.bind_eq_bind, Option.bind_eq_some_iff,
    Option.some.injEq] at h
  obtain ⟨_, _, _, _, _, _, _, _, _, _, rfl⟩ := h
  rfl

theorem createResearchRunSavePlan_hashed {localeOrder : LocaleOrder}
    {input : CreateResearchRunSavePlanInput} {plan : ResearchRunSavePlan}
    (h : createResearchRunSavePlan localeOrder input = .ok plan) : Hashed plan := by
  simp only [createResearchRunSavePlan] at h
  split at h
  · cases h
  · cases h
  · cases h
  split at h
  · cases h
  split at h
  · cases h
  · obtain rfl := Except.ok.inj h
    refine ⟨rfl, rfl, ?_, normalizeText_snapshotId _⟩
    intro toolCall htoolCall
    obtain ⟨entry, _, hsaved⟩ := List.mem_filterMap.mp htoolCall
    exact normalizeToolCall_inputHash hsaved

def hashedTexts (savedRun : SavedRun) (current : ResearchRunSavePlan) : List Utf8Text :=
  [stableStringify savedRun.evidenceValue,
    stableStringify (evidenceValue current.evidenceRecords),
    stableStringify (parametersValue savedRun.plan.parameterSnapshot.parameters),
    stableStringify (parametersValue current.parameterSnapshot.parameters),
    stableStringify (.string savedRun.plan.question),
    stableStringify (.string current.question)] ++
  (savedRun.plan.toolCalls ++ current.toolCalls).map fun toolCall =>
    stableStringify toolCall.inputSnapshot.1

def HashesApart (savedRun : SavedRun) (current : ResearchRunSavePlan) : Prop :=
  ∀ text ∈ hashedTexts savedRun current, ∀ other ∈ hashedTexts savedRun current,
    hashText text = hashText other → text = other

instance (savedRun : SavedRun) (current : ResearchRunSavePlan) :
    Decidable (HashesApart savedRun current) :=
  inferInstanceAs (Decidable (∀ text ∈ hashedTexts savedRun current,
    ∀ other ∈ hashedTexts savedRun current, hashText text = hashText other → text = other))

/-- Hashes tell values apart up to the order of the fields. -/
theorem hashStableValue_eq_iff (hhash : HashesApart savedRun current) (first second : Value)
    (hfirst : stableStringify first ∈ hashedTexts savedRun current)
    (hsecond : stableStringify second ∈ hashedTexts savedRun current)
    (hfirstRegular : Regular first) (hsecondRegular : Regular second) :
    hashStableValue first = hashStableValue second ↔ canonical first = canonical second := by
  rw [← stableStringify_eq_iff hfirstRegular hsecondRegular]
  constructor
  · exact hhash _ hfirst _ hsecond
  · intro h
    rw [hashStableValue, hashStableValue, h]

theorem hashesValue_eq_iff {hashes others : List JsText} :
    stableStringify (hashesValue hashes) = stableStringify (hashesValue others) ↔
      hashes = others := by
  have hjson : ∀ texts : List JsText, IsJson (hashesValue texts) :=
    fun texts => isJson_sourceRecordIds texts
  have hordered : ∀ texts : List JsText, Ordered (hashesValue texts) := by
    intro texts
    rw [hashesValue, Ordered, orderedElements_iff]
    intro element helement
    obtain ⟨text, _, rfl⟩ := List.mem_map.mp helement
    trivial
  rw [stableStringify_eq_iff (IsJson.regular _ (hjson _)) (IsJson.regular _ (hjson _)),
    canonical_of_ordered _ (hordered _), canonical_of_ordered _ (hordered _), hashesValue,
    hashesValue, Value.array.injEq, sourceRecordIds_inj]

theorem regular_parametersValue (parameters : List (JsText × JsonValue)) :
    Regular (parametersValue parameters) := by
  rw [parametersValue, Regular, regularFields_iff]
  intro field hfield
  obtain ⟨entry, _, rfl⟩ := List.mem_map.mp hfield
  exact IsJson.regular _ entry.2.2

section Changes

variable (localeOrder : LocaleOrder)
variable (input : CreateResearchRunReplayPlanInput)

theorem diffCategories_eq_nil_iff {data : ResearchRunDataDiff} {model : ResearchRunModelDiff}
    {parameters : ResearchRunParameterDiff} :
    diffCategories data model parameters = [] ↔
      data.changed = false ∧ model.changed = false ∧ parameters.changed = false := by
  cases hdata : data.changed <;> cases hmodel : model.changed <;>
    cases hparameters : parameters.changed <;>
    simp [diffCategories, hdata, hmodel, hparameters]

theorem modelDiff_unchanged_iff :
    (createResearchRunModelDiff savedRun current).changed = false ↔
      savedRun.plan.modelSnapshot = current.modelSnapshot := by
  rw [createResearchRunModelDiff]
  cases savedRun.plan.modelSnapshot
  cases current.modelSnapshot
  simp only [Bool.or_eq_false_iff, decide_eq_false_iff_not, not_not, ModelSnapshot.mk.injEq,
    and_assoc]

theorem dataDiff_unchanged_iff (hhash : HashesApart savedRun current) :
    (createResearchRunDataDiff localeOrder savedRun current).changed = false ↔
      savedRun.plan.evidenceRecords = current.evidenceRecords ∧
      (savedRun.form = .json → ∀ saved ∈ savedRun.plan.evidenceRecords, saved.Complete) ∧
      SameLastVersions savedRun.plan.toolCalls current.toolCalls := by
  have htexts : hashStableValue savedRun.evidenceValue =
      hashStableValue (evidenceValue current.evidenceRecords) ↔
      stableStringify savedRun.evidenceValue =
        stableStringify (evidenceValue current.evidenceRecords) := by
    constructor
    · exact hhash _ (by simp [hashedTexts]) _ (by simp [hashedTexts])
    · intro h
      rw [hashStableValue, hashStableValue, h]
  simp only [createResearchRunDataDiff, Bool.or_eq_false_iff, decide_eq_false_iff_not, not_not,
    Bool.not_eq_eq_eq_not, Bool.not_false, List.isEmpty_iff, compareStringMaps_eq_nil_iff, htexts]
  rw [SavedRun.evidenceValue, evidenceText_eq_iff, and_assoc]
  constructor
  · rintro ⟨hevidence, hcomplete, hmaps⟩
    exact ⟨hevidence, hcomplete, (sameVersionMaps_iff hevidence).mp hmaps⟩
  · rintro ⟨hevidence, hcomplete, hversions⟩
    exact ⟨hevidence, hcomplete, (sameVersionMaps_iff hevidence).mpr hversions⟩

theorem parameterDiff_unchanged_iff (hprevious : Hashed savedRun.plan) (hcurrent : Hashed current)
    (hhash : HashesApart savedRun current) :
    (createResearchRunParameterDiff localeOrder savedRun current).changed = false ↔
      canonical (parametersValue savedRun.plan.parameterSnapshot.parameters) =
        canonical (parametersValue current.parameterSnapshot.parameters) ∧
      ((savedRun.plan.toolCalls.map fun toolCall => canonical toolCall.inputSnapshot.1) =
        current.toolCalls.map fun toolCall => canonical toolCall.inputSnapshot.1) ∧
      savedRun.plan.question = current.question := by
  have hparameters := hashStableValue_eq_iff hhash
    (parametersValue savedRun.plan.parameterSnapshot.parameters)
    (parametersValue current.parameterSnapshot.parameters)
    (by simp [hashedTexts]) (by simp [hashedTexts]) (regular_parametersValue _)
    (regular_parametersValue _)
  have hquestion := hashStableValue_eq_iff hhash
    (.string savedRun.plan.question) (.string current.question)
    (by simp [hashedTexts]) (by simp [hashedTexts]) trivial trivial
  have hinputs : toolInputHashes savedRun.plan = toolInputHashes current ↔
      (savedRun.plan.toolCalls.map fun toolCall => canonical toolCall.inputSnapshot.1) =
        current.toolCalls.map fun toolCall => canonical toolCall.inputSnapshot.1 := by
    refine map_eq_map_iff fun toolCall htoolCall other hother => ?_
    rw [hprevious.inputs toolCall htoolCall, hcurrent.inputs other hother]
    refine hashStableValue_eq_iff hhash _ _ ?_ ?_ (IsJson.regular _ toolCall.inputSnapshot.2)
      (IsJson.regular _ other.inputSnapshot.2)
    · exact List.mem_append_right _ (List.mem_map.mpr
        ⟨toolCall, List.mem_append_left _ htoolCall, rfl⟩)
    · exact List.mem_append_right _ (List.mem_map.mpr
        ⟨other, List.mem_append_right _ hother, rfl⟩)
  simp only [createResearchRunParameterDiff, Bool.or_eq_false_iff, decide_eq_false_iff_not,
    not_not, hashesValue_eq_iff, hprevious.parameters, hcurrent.parameters, hprevious.question,
    hcurrent.question, hparameters, hinputs, hquestion, canonical, Value.string.injEq, and_assoc]

/-- A replay finds nothing in any category exactly when the runs are the same but for the
tools, the evidence is complete where it was posted, and the versions noted last agree. -/
theorem replayPlan_unchanged_iff (hprevious : Hashed savedRun.plan) (hcurrent : Hashed current)
    (hhash : HashesApart savedRun current) :
    (replayPlan localeOrder input savedRun current).categories = [] ↔
      SameButForTools savedRun.plan current ∧
      (savedRun.form = .json → ∀ saved ∈ savedRun.plan.evidenceRecords, saved.Complete) ∧
      SameLastVersions savedRun.plan.toolCalls current.toolCalls := by
  rw [replayPlan, diffCategories_eq_nil_iff, dataDiff_unchanged_iff localeOrder hhash,
    modelDiff_unchanged_iff, parameterDiff_unchanged_iff localeOrder hprevious hcurrent hhash]
  constructor
  · rintro ⟨⟨hevidence, hcomplete, hversions⟩, hmodel, hparameters, hinputs, hquestion⟩
    exact ⟨⟨hquestion, hmodel, hparameters, hevidence, hinputs⟩, hcomplete, hversions⟩
  · rintro ⟨hsame, hcomplete, hversions⟩
    exact ⟨⟨hsame.evidence, hcomplete, hversions⟩, hsame.model, hsame.parameters, hsame.inputs,
      hsame.question⟩

end Changes

section ParameterKeys

def parameter (plan : ResearchRunSavePlan) (key : JsText) : Option Value :=
  member (plan.parameterSnapshot.parameters.map fun entry => (entry.1, entry.2.1)) key

/-- The reported keys are those on which the parameters differ, each in one list and once. -/
structure KeysPartition
    (previous current : ResearchRunSavePlan)
    (diff : ResearchRunParameterDiff) : Prop where
  added : ∀ key, key ∈ diff.addedKeys ↔
    parameter previous key = none ∧ parameter current key ≠ none
  removed : ∀ key, key ∈ diff.removedKeys ↔
    parameter previous key ≠ none ∧ parameter current key = none
  changed : ∀ key, key ∈ diff.changedKeys ↔ ∃ value other,
    parameter previous key = some value ∧ parameter current key = some other ∧
    canonical value ≠ canonical other
  covers : ∀ key,
    (parameter previous key).map canonical ≠ (parameter current key).map canonical ↔
      key ∈ diff.addedKeys ∨ key ∈ diff.removedKeys ∨ key ∈ diff.changedKeys
  nodup : (diff.addedKeys ++ diff.removedKeys ++ diff.changedKeys).Nodup

variable {key : JsText}
variable {fields : List (JsText × Value)}

theorem member_eq_none_iff :
    member fields key = none ↔ key ∉ fields.map Prod.fst := by
  rw [member, Option.map_eq_none_iff, KeyedTable.lookup_eq_none]
  simp only [List.mem_map, not_exists, not_and]

theorem member_ne_none_iff :
    member fields key ≠ none ↔ key ∈ fields.map Prod.fst := by
  rw [ne_eq, member_eq_none_iff, not_not]

theorem isJson_parameter {plan : ResearchRunSavePlan} {value : Value}
    (h : parameter plan key = some value) : IsJson value := by
  obtain ⟨field, hfield, rfl⟩ := Option.map_eq_some_iff.mp h
  obtain ⟨entry, _, rfl⟩ := List.mem_map.mp (KeyedTable.lookup_mem hfield)
  exact entry.2.2

theorem SavedRun.parameters_eq (savedRun : SavedRun) :
    savedRun.parameters =
      savedRun.plan.parameterSnapshot.parameters.map fun entry => (entry.1, entry.2.1) := by
  rw [SavedRun.parameters]
  refine List.map_congr_left fun entry _ => ?_
  cases savedRun.form with
  | plan => rfl
  | json => rw [SavedForm.read, roundTrip_of_isJson _ entry.2.2]

theorem keysPartition (localeOrder : LocaleOrder) (savedRun : SavedRun)
    (current : ResearchRunSavePlan) :
    KeysPartition savedRun.plan current
      (createResearchRunParameterDiff localeOrder savedRun current) := by
  have hadded : ∀ key,
      key ∈ (createResearchRunParameterDiff localeOrder savedRun current).addedKeys ↔
        parameter savedRun.plan key = none ∧ parameter current key ≠ none := by
    intro key
    rw [parameter, parameter, member_eq_none_iff, member_ne_none_iff, and_comm]
    simp only [createResearchRunParameterDiff, compareParameterKeys, mem_uniqueSorted,
      List.mem_filter, List.mem_eraseDups, decide_eq_true_eq, SavedRun.parameters_eq]
  have hremoved : ∀ key,
      key ∈ (createResearchRunParameterDiff localeOrder savedRun current).removedKeys ↔
        parameter savedRun.plan key ≠ none ∧ parameter current key = none := by
    intro key
    rw [parameter, parameter, member_eq_none_iff, member_ne_none_iff]
    simp only [createResearchRunParameterDiff, compareParameterKeys, mem_uniqueSorted,
      List.mem_filter, List.mem_eraseDups, decide_eq_true_eq, SavedRun.parameters_eq]
  have hchanged : ∀ key,
      key ∈ (createResearchRunParameterDiff localeOrder savedRun current).changedKeys ↔
        ∃ value other, parameter savedRun.plan key = some value ∧
          parameter current key = some other ∧ canonical value ≠ canonical other := by
    intro key
    simp only [createResearchRunParameterDiff, compareParameterKeys, mem_uniqueSorted,
      List.mem_filter, List.mem_eraseDups, decide_eq_true_eq, SavedRun.parameters_eq,
      ← member_ne_none_iff]
    show parameter savedRun.plan key ≠ none ∧ parameter current key ≠ none ∧
      (parameter savedRun.plan key).map stableStringify ≠
        (parameter current key).map stableStringify ↔ _
    cases hvalue : parameter savedRun.plan key with
    | none => simp
    | some value =>
      cases hother : parameter current key with
      | none => simp
      | some other =>
        simp [stableStringify_eq_iff ((isJson_parameter hvalue).regular value)
          ((isJson_parameter hother).regular other)]
  refine ⟨hadded, hremoved, hchanged, ?_, ?_⟩
  · intro key
    rw [hadded, hremoved, hchanged]
    cases parameter savedRun.plan key with
    | none => cases parameter current key <;> simp
    | some value => cases parameter current key <;> simp
  · refine List.nodup_append'.mpr ⟨List.nodup_append'.mpr ⟨?_, ?_, ?_⟩, ?_, ?_⟩
    · exact nodup_uniqueSorted _ _
    · exact nodup_uniqueSorted _ _
    · intro key hfirst hsecond
      exact ((hremoved key).mp hsecond).1 ((hadded key).mp hfirst).1
    · exact nodup_uniqueSorted _ _
    · intro key hfirst hsecond
      obtain ⟨value, other, hvalue, hother, _⟩ := (hchanged key).mp hsecond
      rcases List.mem_append.mp hfirst with hkey | hkey
      · have hnone := ((hadded key).mp hkey).1
        rw [hvalue] at hnone
        cases hnone
      · have hnone := ((hremoved key).mp hkey).2
        rw [hother] at hnone
        cases hnone

end ParameterKeys

section Replays

def replayInput (savedRun : SavedRun) (current : CreateResearchRunSavePlanInput)
    (replayReason : Option JsText) (requestId : JsText) : CreateResearchRunReplayPlanInput :=
  { currentRun := some { current with requestId := some current.requestId }
    replayReason := replayReason
    requestId := requestId
    savedRun := some savedRun }

/-- The replay of a saved run is exact: it tells whether the current run is another one, finds
nothing when the run is replayed against its own input, and reports the parameters that differ. -/
structure ReplayIsExact
    (localeOrder : LocaleOrder)
    (savedRun : SavedRun)
    (saved current : CreateResearchRunSavePlanInput)
    (currentRunPlan : ResearchRunSavePlan)
    (replayReason : Option JsText)
    (requestId : JsText) : Prop where
  changed : ∃ replay,
    createResearchRunReplayPlan localeOrder
      (replayInput savedRun current replayReason requestId) = .ok replay ∧
    (replay.changed = false ↔ SameRun savedRun.plan currentRunPlan) ∧
    KeysPartition savedRun.plan currentRunPlan replay.parameters
  self : ∃ replay,
    createResearchRunReplayPlan localeOrder
      (replayInput savedRun saved replayReason requestId) = .ok replay ∧
    replay.categories = []

/-- Evidence that was posted has a value in every field; and where the runs are the same but for
the tools, the versions that are noted last under the ids of the calls agree exactly when the
tools do. -/
structure TellsApart (savedRun : SavedRun) (currentRunPlan : ResearchRunSavePlan) : Prop where
  complete : savedRun.form = .json → ∀ saved ∈ savedRun.plan.evidenceRecords, saved.Complete
  tools : SameButForTools savedRun.plan currentRunPlan →
    (SameLastVersions savedRun.plan.toolCalls currentRunPlan.toolCalls ↔
      toolUses savedRun.plan = toolUses currentRunPlan)

variable {localeOrder : LocaleOrder}
variable {saved current : CreateResearchRunSavePlanInput}
variable {currentRunPlan : ResearchRunSavePlan}

theorem createResearchRunReplayPlan_eq (savedRun : SavedRun) (hprevious : Hashed savedRun.plan)
    (hcurrent : createResearchRunSavePlan localeOrder current = .ok currentRunPlan)
    (replayReason : Option JsText) (requestId : JsText) :
    createResearchRunReplayPlan localeOrder
        (replayInput savedRun current replayReason requestId) =
      .ok (replayPlan localeOrder (replayInput savedRun current replayReason requestId) savedRun
        currentRunPlan) := by
  have hplan : createResearchRunSavePlan localeOrder
      { current with requestId := (some current.requestId).getD requestId } =
        .ok currentRunPlan := hcurrent
  simp only [createResearchRunReplayPlan, replayInput, if_neg hprevious.snapshotId]
  rw [hplan]
  rfl

theorem replayPlan_changed_eq_false_iff {input : CreateResearchRunReplayPlanInput}
    {savedRun : SavedRun} :
    (replayPlan localeOrder input savedRun currentRunPlan).changed = false ↔
      (replayPlan localeOrder input savedRun currentRunPlan).categories = [] := by
  rw [replayPlan, Bool.not_eq_false', List.isEmpty_iff]

/-- The replay of a saved run is exact precisely when nothing is missing from posted evidence
and the versions noted last tell the tools apart. -/
theorem replay_exact_iff {plan : ResearchRunSavePlan} (form : SavedForm)
    (replayReason : Option JsText) (requestId : JsText)
    (hsaved : createResearchRunSavePlan localeOrder saved = .ok plan)
    (hcurrent : createResearchRunSavePlan localeOrder current = .ok currentRunPlan)
    (hhash : HashesApart ⟨plan, form⟩ currentRunPlan) (hself : HashesApart ⟨plan, form⟩ plan) :
    ReplayIsExact localeOrder ⟨plan, form⟩ saved current currentRunPlan replayReason requestId ↔
      TellsApart ⟨plan, form⟩ currentRunPlan := by
  have hplan := createResearchRunSavePlan_hashed hsaved
  have hreplay := createResearchRunReplayPlan_eq ⟨plan, form⟩ hplan hcurrent
    replayReason requestId
  have hselfReplay := createResearchRunReplayPlan_eq ⟨plan, form⟩ hplan hsaved
    replayReason requestId
  have hunchanged := replayPlan_unchanged_iff localeOrder
    (replayInput ⟨plan, form⟩ current replayReason requestId) hplan
    (createResearchRunSavePlan_hashed hcurrent) hhash
  have hselfUnchanged := replayPlan_unchanged_iff localeOrder
    (replayInput ⟨plan, form⟩ saved replayReason requestId) hplan hplan hself
  constructor
  · rintro ⟨⟨replay, hok, hchanged, -⟩, selfReplay, hselfOk, hnothing⟩
    rw [hreplay] at hok
    rw [hselfReplay] at hselfOk
    obtain rfl := Except.ok.inj hok
    obtain rfl := Except.ok.inj hselfOk
    have hcomplete := (hselfUnchanged.mp hnothing).2.1
    rw [replayPlan_changed_eq_false_iff, hunchanged] at hchanged
    refine ⟨hcomplete, fun hsame => ?_⟩
    constructor
    · intro hversions
      exact (hchanged.mp ⟨hsame, hcomplete, hversions⟩).tools
    · intro htools
      exact (hchanged.mpr ⟨hsame, htools⟩).2.2
  · rintro ⟨hcomplete, htools⟩
    have hsameSelf : SameButForTools plan plan := ⟨rfl, rfl, rfl, rfl, rfl⟩
    refine ⟨⟨_, hreplay, ?_, keysPartition localeOrder ⟨plan, form⟩ currentRunPlan⟩, _,
      hselfReplay, hselfUnchanged.mpr ⟨hsameSelf, hcomplete, fun _ => rfl⟩⟩
    rw [replayPlan_changed_eq_false_iff, hunchanged]
    constructor
    · rintro ⟨hsame, -, hversions⟩
      exact ⟨hsame, (htools hsame).mp hversions⟩
    · intro hsame
      exact ⟨hsame.toSameButForTools, hcomplete, (htools hsame.toSameButForTools).mpr hsame.tools⟩

end Replays

theorem exists_ok {ε α : Type} {result : Except ε α} {test : α → Bool}
    (h : result.toOption.any test = true) : ∃ value, result = .ok value ∧ test value = true := by
  cases result with
  | error error => cases h
  | ok value => exact ⟨value, rfl, h⟩

def unitOrder : LocaleOrder :=
  fun left right => decide (left ≤ right)

def text (value : String) : Option JsText :=
  some (ofString value)

def dividendRun (methodologyVersion : String) : CreateResearchRunSavePlanInput where
  answerHash := none
  evidenceRecords := some
    [{ citationLabel := none
       dataVersion := text "data-v0"
       documentLocation := none
       evidenceRecordId := text "evidence_1"
       methodologyVersion := text "method-v0"
       sourceRecordIds := some [ofString "src_1"] }]
  modelProvider := none
  modelVersion := text "model-v0"
  parameters := none
  promptTemplateId := none
  promptVersion := text "prompt-v0"
  question := text "Dividends?"
  runId := none
  toolCalls := some
    [{ dataVersion := text "data-v0"
       input := some ⟨.null, trivial⟩
       inputSchemaId := none
       methodologyVersion := text methodologyVersion
       outputSchemaId := none
       requestId := text "req-tool"
       toolCallId := text "call_1"
       toolName := text "get_dividends"
       toolVersion := none }]
  requestId := ofString "req-save"

def firstPage : DocumentLocationInput where
  anchor := text "a"
  documentId := text "d"
  page := some ⟨1, by decide +kernel⟩
  paragraph := some ⟨1, by decide +kernel⟩
  sourceRecordId := text "src_1"

/-- The run with evidence that has a value in every field. -/
def citedRun (methodologyVersion : String) : CreateResearchRunSavePlanInput :=
  let run := dividendRun methodologyVersion
  { run with
    evidenceRecords := run.evidenceRecords.map (List.map fun record =>
      { record with citationLabel := text "[1]", documentLocation := some firstPage }) }

/-- A posted run is replayed exactly against one with another version of the method. -/
theorem replay_exact_citedRun :
    ∃ plan currentRunPlan,
      createResearchRunSavePlan unitOrder (citedRun "method-v0") = .ok plan ∧
      createResearchRunSavePlan unitOrder (citedRun "method-v1") = .ok currentRunPlan ∧
      plan.evidenceRecords ≠ [] ∧
      ReplayIsExact unitOrder ⟨plan, .json⟩ (citedRun "method-v0") (citedRun "method-v1")
        currentRunPlan none [] := by
  have hrun : ((createResearchRunSavePlan unitOrder (citedRun "method-v0")).toOption.any
      fun plan => (createResearchRunSavePlan unitOrder (citedRun "method-v1")).toOption.any
      fun currentRunPlan => decide (HashesApart ⟨plan, .json⟩ currentRunPlan ∧
          HashesApart ⟨plan, .json⟩ plan ∧ plan.evidenceRecords ≠ [] ∧
          (∀ saved ∈ plan.evidenceRecords, saved.citationLabel ≠ none ∧
            saved.documentLocation = normalizeDocumentLocation firstPage) ∧
          lastVersions plan.toolCalls (ofString "call_1") ≠
            lastVersions currentRunPlan.toolCalls (ofString "call_1") ∧
          toolUses plan ≠ toolUses currentRunPlan)) = true := by
    decide +kernel
  obtain ⟨plan, hsaved, hplans⟩ := exists_ok hrun
  obtain ⟨currentRunPlan, hcurrent, hfacts⟩ := exists_ok hplans
  obtain ⟨hhash, hself, hsome, hrecords, hversions, htools⟩ := of_decide_eq_true hfacts
  refine ⟨plan, currentRunPlan, hsaved, hcurrent, hsome, ?_⟩
  refine (replay_exact_iff .json none [] hsaved hcurrent hhash hself).mpr ⟨?_, ?_⟩
  · intro _ saved hmem
    obtain ⟨hlabel, hlocation⟩ := hrecords saved hmem
    exact ⟨hlabel, _, hlocation, by decide +kernel, by decide +kernel, by decide +kernel,
      by decide +kernel, by decide +kernel⟩
  · intro _
    exact ⟨fun hsame => absurd (hsame _) hversions, fun hsame => absurd hsame htools⟩

/-- A saved run that is posted back and replayed against its own input is reported as changed. -/
theorem dividendRun_not_exact :
    ∃ plan, createResearchRunSavePlan unitOrder (dividendRun "method-v0") = .ok plan ∧
      HashesApart ⟨plan, .json⟩ plan ∧
      ¬ReplayIsExact unitOrder ⟨plan, .json⟩ (dividendRun "method-v0") (dividendRun "method-v0")
        plan none [] := by
  have hrun : ((createResearchRunSavePlan unitOrder (dividendRun "method-v0")).toOption.any
      fun plan => decide (HashesApart ⟨plan, .json⟩ plan) &&
        !(createResearchRunReplayPlan unitOrder
          (replayInput ⟨plan, .json⟩ (dividendRun "method-v0") none [])).toOption.any
            fun replay => replay.categories.isEmpty) = true := by
    decide +kernel
  obtain ⟨plan, hsaved, hfacts⟩ := exists_ok hrun
  obtain ⟨hhash, hchanged⟩ := Bool.and_eq_true_iff.mp hfacts
  refine ⟨plan, hsaved, of_decide_eq_true hhash, ?_⟩
  rintro ⟨-, replay, hreplay, hnothing⟩
  rw [hreplay] at hchanged
  have hsome : (!replay.categories.isEmpty) = true := hchanged
  rw [hnothing] at hsome
  cases hsome

end Aiphabee.ResearchRuns
