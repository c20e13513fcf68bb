import Aiphabee.ResearchRuns.SavePlan
import Aiphabee.Store.KeyedTable

/-!
# Plans of replays

A replay makes a plan of the current run and compares the saved run with it, by
three categories: the data, the model and the parameters.  The saved run is the
plan itself or what a client posts back, a plan that went through JSON: there
the fields that had no value are missing.
-/

namespace Aiphabee.ResearchRuns

open StableJson

variable (localeOrder : LocaleOrder)

inductive SavedForm
  | plan
  | json

def SavedForm.read : SavedForm → Value → Value
  | .plan, value => value
  | .json, value => roundTrip value

structure SavedRun where
  plan : ResearchRunSavePlan
  form : SavedForm

def SavedRun.evidenceValue (savedRun : SavedRun) : Value :=
  savedRun.form.read (ResearchRuns.evidenceValue savedRun.plan.evidenceRecords)

def SavedRun.parameters (savedRun : SavedRun) : List (JsText × Value) :=
  savedRun.plan.parameterSnapshot.parameters.map fun entry =>
    (entry.1, savedRun.form.read entry.2.1)

/-- `map.set(key, value)`. -/
def mapSet (entries : List (JsText × JsText)) (entry : JsText × JsText) :
    List (JsText × JsText) :=
  if (KeyedTable.lookup Prod.fst entries entry.1).isSome then
    KeyedTable.put Prod.fst entries entry
  else
    entries ++ [entry]

/-- `new Map(entries)`. -/
def newMap (entries : List (JsText × JsText)) : List (JsText × JsText) :=
  entries.foldl mapSet []

/-- `map.get(key)`. -/
def mapGet (entries : List (JsText × JsText)) (key : JsText) : Option JsText :=
  (KeyedTable.lookup Prod.fst entries key).map Prod.snd

/-- `record[key]`. -/
def member (fields : List (JsText × Value)) (key : JsText) : Option Value :=
  (KeyedTable.lookup Prod.fst fields key).map Prod.snd

structure ResearchRunDataDiff where
  changed : Bool
  changedDataVersions : List (JsText × Option JsText × Option JsText)
  changedSourceRecordIds : List JsText
  currentEvidenceHash : JsText
  currentSourceRecordIds : List JsText
  previousEvidenceHash : JsText
  previousSourceRecordIds : List JsText

structure ResearchRunModelDiff where
  changed : Bool
  modelProviderChanged : Bool
  modelVersionChanged : Bool
  promptTemplateChanged : Bool
  promptVersionChanged : Bool

structure ResearchRunParameterDiff where
  addedKeys : List JsText
  changed : Bool
  changedKeys : List JsText
  currentParameterHash : JsText
  currentToolInputHashes : List JsText
  previousParameterHash : JsText
  previousToolInputHashes : List JsText
  questionChanged : Bool
  removedKeys : List JsText
  toolInputChanged : Bool

def uniqueSorted (values : List JsText) : List JsText :=
  values.eraseDups.insertionSort fun left right => localeOrder left right = true

def symmetricDifference (left right : List JsText) : List JsText :=
  uniqueSorted localeOrder
    (left.filter (fun item => item ∉ right) ++ right.filter fun item => item ∉ left)

def collectSourceRecordIds (records : List ResearchRunSavedEvidenceRecord) : List JsText :=
  uniqueSorted localeOrder
    (records.flatMap ResearchRunSavedEvidenceRecord.sourceRecordIds)

def versionField (owner : String) (id : JsText) (version : String) : JsText :=
  JsText.ofString owner ++ id ++ JsText.ofString version

def collectDataVersionMap (plan : ResearchRunSavePlan) : List (JsText × JsText) :=
  newMap
    ((plan.evidenceRecords.flatMap fun saved =>
        [(versionField "evidence:" saved.evidenceRecordId ":data_version", saved.dataVersion),
          (versionField "evidence:" saved.evidenceRecordId ":methodology_version",
            saved.methodologyVersion)]) ++
      plan.toolCalls.flatMap fun toolCall =>
        [(versionField "tool:" toolCall.toolCallId ":data_version", toolCall.dataVersion),
          (versionField "tool:" toolCall.toolCallId ":methodology_version",
            toolCall.methodologyVersion)])

def compareStringMaps (previous current : List (JsText × JsText)) :
    List (JsText × Option JsText × Option JsText) :=
  (uniqueSorted localeOrder (previous.map Prod.fst ++ current.map Prod.fst)).filterMap
    fun field =>
      if mapGet previous field = mapGet current field then
        none
      else
        some (field, mapGet previous field, mapGet current field)

structure ParameterKeyDiff where
  addedKeys : List JsText
  changedKeys : List JsText
  removedKeys : List JsText

def compareParameterKeys (previous current : List (JsText × Value)) : ParameterKeyDiff :=
  let previousKeys := (previous.map Prod.fst).eraseDups
  let currentKeys := (current.map Prod.fst).eraseDups
  { addedKeys := uniqueSorted localeOrder (currentKeys.filter fun key => key ∉ previousKeys)
    changedKeys := uniqueSorted localeOrder (previousKeys.filter fun key =>
      key ∈ currentKeys ∧
        (member previous key).map stableStringify ≠ (member current key).map stableStringify)
    removedKeys := uniqueSorted localeOrder (previousKeys.filter fun key => key ∉ currentKeys) }

def createResearchRunDataDiff (savedRun : SavedRun) (currentRunPlan : ResearchRunSavePlan) :
    ResearchRunDataDiff :=
  let previousEvidenceHash := hashStableValue savedRun.evidenceValue
  let currentEvidenceHash := hashStableValue (evidenceValue currentRunPlan.evidenceRecords)
  let previousSourceRecordIds :=
    collectSourceRecordIds localeOrder savedRun.plan.evidenceRecords
  let currentSourceRecordIds :=
    collectSourceRecordIds localeOrder currentRunPlan.evidenceRecords
  let changedDataVersions := compareStringMaps localeOrder
    (collectDataVersionMap savedRun.plan) (collectDataVersionMap currentRunPlan)
  { changed :=
      decide (previousEvidenceHash ≠ currentEvidenceHash) || !changedDataVersions.isEmpty
    changedDataVersions := changedDataVersions
    changedSourceRecordIds :=
      symmetricDifference localeOrder previousSourceRecordIds currentSourceRecordIds
    currentEvidenceHash := currentEvidenceHash
    currentSourceRecordIds := currentSourceRecordIds
    previousEvidenceHash := previousEvidenceHash
    previousSourceRecordIds := previousSourceRecordIds }

def createResearchRunModelDiff (savedRun : SavedRun) (currentRunPlan : ResearchRunSavePlan) :
    ResearchRunModelDiff :=
  let previous := savedRun.plan.modelSnapshot
  let current := currentRunPlan.modelSnapshot
  { changed :=
      decide (previous.modelProvider ≠ current.modelProvider) ||
        decide (previous.modelVersion ≠ current.modelVersion) ||
        decide (previous.promptTemplateId ≠ current.promptTemplateId) ||
        decide (previous.promptVersion ≠ current.promptVersion)
    modelProviderChanged := previous.modelProvider ≠ current.modelProvider
    modelVersionChanged := previous.modelVersion ≠ current.modelVersion
    promptTemplateChanged := previous.promptTemplateId ≠ current.promptTemplateId
    promptVersionChanged := previous.promptVersion ≠ current.promptVersion }

def toolInputHashes (plan : ResearchRunSavePlan) : List JsText :=
  plan.toolCalls.map ResearchRunSavedToolCall.inputHash

def hashesValue (hashes : List JsText) : Value :=
  .array (hashes.map .string)

def createResearchRunParameterDiff (savedRun : SavedRun) (currentRunPlan : ResearchRunSavePlan) :
    ResearchRunParameterDiff :=
  let previousParameterSnapshot := savedRun.plan.parameterSnapshot
  let currentParameterSnapshot := currentRunPlan.parameterSnapshot
  let previousToolInputHashes := toolInputHashes savedRun.plan
  let currentToolInputHashes := toolInputHashes currentRunPlan
  let toolInputChanged := decide (stableStringify (hashesValue previousToolInputHashes) ≠
    stableStringify (hashesValue currentToolInputHashes))
  let questionChanged := decide (savedRun.plan.questionHash ≠ currentRunPlan.questionHash)
  let keyDiff := compareParameterKeys localeOrder savedRun.parameters
    (currentParameterSnapshot.parameters.map fun entry => (entry.1, entry.2.1))
  { addedKeys := keyDiff.addedKeys
    changed :=
      decide (previousParameterSnapshot.parameterHash ≠ currentParameterSnapshot.parameterHash) ||
        toolInputChanged || questionChanged
    changedKeys := keyDiff.changedKeys
    currentParameterHash := currentParameterSnapshot.parameterHash
    currentToolInputHashes := currentToolInputHashes
    previousParameterHash := previousParameterSnapshot.parameterHash
    previousToolInputHashes := previousToolInputHashes
    questionChanged := questionChanged
    removedKeys := keyDiff.removedKeys
    toolInputChanged := toolInputChanged }

inductive ResearchRunDiffCategory
  | data
  | model
  | parameters

structure CreateResearchRunReplayCurrentRunInput extends ResearchRunFields where
  requestId : Option JsText

structure CreateResearchRunReplayPlanInput where
  currentRun : Option CreateResearchRunReplayCurrentRunInput
  replayReason : Option JsText
  requestId : JsText
  savedRun : Option SavedRun

structure ResearchRunReplayPlan where
  categories : List ResearchRunDiffCategory
  changed : Bool
  currentRunPlan : ResearchRunSavePlan
  data : ResearchRunDataDiff
  model : ResearchRunModelDiff
  parameters : ResearchRunParameterDiff
  replayReason : Option JsText
  requestId : JsText
  savedSnapshotId : JsText

def diffCategories (data : ResearchRunDataDiff) (model : ResearchRunModelDiff)
    (parameters : ResearchRunParameterDiff) : List ResearchRunDiffCategory :=
  [if data.changed then some .data else none,
    if model.changed then some .model else none,
    if parameters.changed then some .parameters else none].filterMap id

def replayPlan (input : CreateResearchRunReplayPlanInput) (savedRun : SavedRun)
    (currentRunPlan : ResearchRunSavePlan) : ResearchRunReplayPlan :=
  let data := createResearchRunDataDiff localeOrder savedRun currentRunPlan
  let model := createResearchRunModelDiff savedRun currentRunPlan
  let parameters := createResearchRunParameterDiff localeOrder savedRun currentRunPlan
  let categories := diffCategories data model parameters
  { categories := categories
    changed := !categories.isEmpty
    currentRunPlan := currentRunPlan
    data := data
    model := model
    parameters := parameters
    replayReason := normalizeText input.replayReason
    requestId := input.requestId
    savedSnapshotId := savedRun.plan.snapshotId }

def createResearchRunReplayPlan (input : CreateResearchRunReplayPlanInput) :
    Except ResearchRunInputError ResearchRunReplayPlan :=
  match input.savedRun with
  | none => .error ⟨.savedRunRequired, "savedRun with snapshot_id is required"⟩
  | some savedRun =>
    if normalizeText (some savedRun.plan.snapshotId) = none then
      .error ⟨.savedRunRequired, "savedRun with snapshot_id is required"⟩
    else
      match input.currentRun with
      | none => .error ⟨.currentRunRequired, "currentRun replay input is required"⟩
      | some currentRun =>
        (createResearchRunSavePlan localeOrder
          { currentRun with requestId := currentRun.requestId.getD input.requestId }).map
          (replayPlan localeOrder input savedRun)

end Aiphabee.ResearchRuns
