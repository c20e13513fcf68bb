import Aiphabee.Text.JsonRoundTrip

/-!
# Plans of saved research runs

A research run is saved with what it was asked, the model and the prompt, the
parameters, the calls of its tools and its evidence.  Every text is trimmed, a
blank one counts as missing, and a call or a record of evidence that lacks
something required is left out.  Hashes of the stable texts of these parts stand
for them when a saved run is compared with a later one.
-/

namespace Aiphabee.ResearchRuns

open JsText (ofString)
open StableJson

variable (localeOrder : LocaleOrder)

def hashUnits (units : JsText) : UInt32 :=
  units.foldl (fun hash unit => (hash ^^^ unit.toUInt32) * 16777619) 2166136261

def hashText (text : Utf8Text) : JsText :=
  let hash := (hashUnits (JsText.ofChars text)).toNat
  JsText.ofChars ([7, 6, 5, 4, 3, 2, 1, 0].map fun place =>
    JsText.hexDigit (hash / 16 ^ place % 16))

def hashStableValue (value : Value) : JsText :=
  hashText (stableStringify value)

/-- The parameters of a run as an object: every key is there once. -/
structure ParameterInput where
  entries : List (JsText × Option JsonValue)
  distinct : (entries.map Prod.fst).Nodup

structure ResearchRunToolCallInput where
  dataVersion : Option JsText
  input : Option JsonValue
  inputSchemaId : Option JsText
  methodologyVersion : Option JsText
  outputSchemaId : Option JsText
  requestId : Option JsText
  toolCallId : Option JsText
  toolName : Option JsText
  toolVersion : Option JsText

structure DocumentLocationInput where
  anchor : Option JsText
  documentId : Option JsText
  page : Option FiniteNumber
  paragraph : Option FiniteNumber
  sourceRecordId : Option JsText

structure ResearchRunEvidenceInput where
  citationLabel : Option JsText
  dataVersion : Option JsText
  documentLocation : Option DocumentLocationInput
  evidenceRecordId : Option JsText
  methodologyVersion : Option JsText
  sourceRecordIds : Option (List JsText)

structure ResearchRunFields where
  answerHash : Option JsText
  evidenceRecords : Option (List ResearchRunEvidenceInput)
  modelProvider : Option JsText
  modelVersion : Option JsText
  parameters : Option ParameterInput
  promptTemplateId : Option JsText
  promptVersion : Option JsText
  question : Option JsText
  runId : Option JsText
  toolCalls : Option (List ResearchRunToolCallInput)

structure CreateResearchRunSavePlanInput extends ResearchRunFields where
  requestId : JsText

structure ResearchRunSavedToolCall where
  dataVersion : JsText
  inputHash : JsText
  inputSchemaId : Option JsText
  inputSnapshot : JsonValue
  methodologyVersion : JsText
  outputSchemaId : Option JsText
  requestId : JsText
  toolCallId : JsText
  toolName : JsText
  toolVersion : JsText

structure DocumentLocation where
  anchor : Option JsText
  documentId : Option JsText
  page : Option FiniteNumber
  paragraph : Option FiniteNumber
  sourceRecordId : Option JsText
deriving DecidableEq

structure ResearchRunSavedEvidenceRecord where
  citationLabel : Option JsText
  dataVersion : JsText
  documentLocation : Option DocumentLocation
  evidenceRecordId : JsText
  methodologyVersion : JsText
  sourceRecordIds : List JsText

structure ModelSnapshot where
  modelProvider : JsText
  modelVersion : JsText
  promptTemplateId : Option JsText
  promptVersion : JsText

structure ResearchRunParameterSnapshot where
  parameterHash : JsText
  parameters : List (JsText × JsonValue)
  parametersRecorded : Bool

structure ResearchRunSavePlan where
  answerHash : Option JsText
  evidenceRecords : List ResearchRunSavedEvidenceRecord
  snapshotHash : JsText
  modelSnapshot : ModelSnapshot
  parameterSnapshot : ResearchRunParameterSnapshot
  question : JsText
  questionHash : JsText
  requestId : JsText
  runId : JsText
  snapshotId : JsText
  toolCalls : List ResearchRunSavedToolCall

inductive ResearchRunInputErrorCode
  | questionRequired
  | modelVersionRequired
  | promptVersionRequired
  | toolInputRequired
  | evidenceSnapshotRequired
  | savedRunRequired
  | currentRunRequired

structure ResearchRunInputError where
  code : ResearchRunInputErrorCode
  message : String

def optionalText (value : Option JsText) : Value :=
  orUndefined (value.map .string)

def optionalNumber (value : Option FiniteNumber) : Value :=
  orUndefined (value.map .number)

def DocumentLocation.toValue (location : DocumentLocation) : Value :=
  record
    [("anchor", optionalText location.anchor),
      ("document_id", optionalText location.documentId),
      ("page", optionalNumber location.page),
      ("paragraph", optionalNumber location.paragraph),
      ("source_record_id", optionalText location.sourceRecordId)]

def ResearchRunSavedEvidenceRecord.toValue (saved : ResearchRunSavedEvidenceRecord) : Value :=
  record
    [("citation_label", optionalText saved.citationLabel),
      ("data_version", .string saved.dataVersion),
      ("document_location", orUndefined (saved.documentLocation.map DocumentLocation.toValue)),
      ("evidence_record_id", .string saved.evidenceRecordId),
      ("methodology_version", .string saved.methodologyVersion),
      ("source_record_ids", .array (saved.sourceRecordIds.map .string))]

def ResearchRunSavedToolCall.toValue (saved : ResearchRunSavedToolCall) : Value :=
  record
    [("data_version", .string saved.dataVersion),
      ("input_hash", .string saved.inputHash),
      ("input_schema_id", optionalText saved.inputSchemaId),
      ("input_snapshot", saved.inputSnapshot.1),
      ("methodology_version", .string saved.methodologyVersion),
      ("output_schema_id", optionalText saved.outputSchemaId),
      ("request_id", .string saved.requestId),
      ("tool_call_id", .string saved.toolCallId),
      ("tool_name", .string saved.toolName),
      ("tool_version", .string saved.toolVersion)]

def evidenceValue (records : List ResearchRunSavedEvidenceRecord) : Value :=
  .array (records.map ResearchRunSavedEvidenceRecord.toValue)

def parametersValue (parameters : List (JsText × JsonValue)) : Value :=
  .object (parameters.map fun entry => (entry.1, entry.2.1))

/-- The trimmed text; a blank one is missing. -/
def normalizeText (value : Option JsText) : Option JsText :=
  (value.map JsText.trim).filter fun text => text ≠ []

def normalizeKnown (known : List JsText) (fallback : String) (values : Option (List JsText)) :
    List JsText :=
  let normalized := (values.getD []).filter (· ∈ known)
  if normalized.isEmpty then [ofString fallback] else normalized.eraseDups

def normalizePositiveInteger (value : Option FiniteNumber) : Option FiniteNumber :=
  value.filter fun number => number.value.den = 1 ∧ 0 < number.value

def normalizeDocumentLocation (location : Option DocumentLocationInput) :
    Option DocumentLocation := do
  let location ← location
  let documentId := normalizeText location.documentId
  let sourceRecordId := normalizeText location.sourceRecordId
  if documentId = none ∧ sourceRecordId = none then
    none
  else
    some
      { anchor := normalizeText location.anchor
        documentId := documentId
        page := normalizePositiveInteger location.page
        paragraph := normalizePositiveInteger location.paragraph
        sourceRecordId := sourceRecordId }

def normalizeToolCall (toolCall : ResearchRunToolCallInput) (index : Nat) :
    Option ResearchRunSavedToolCall := do
  let toolName ← normalizeText toolCall.toolName
  let inputSnapshot ← toolCall.input
  let requestId ← normalizeText toolCall.requestId
  let dataVersion ← normalizeText toolCall.dataVersion
  let methodologyVersion ← normalizeText toolCall.methodologyVersion
  let defaultId :=
    ofString ("tool_call_" ++ toString (index + 1) ++ "_") ++ toolName
  some
    { dataVersion := dataVersion
      inputHash := hashStableValue inputSnapshot.1
      inputSchemaId := normalizeText toolCall.inputSchemaId
      inputSnapshot := inputSnapshot
      methodologyVersion := methodologyVersion
      outputSchemaId := normalizeText toolCall.outputSchemaId
      requestId := requestId
      toolCallId := (normalizeText toolCall.toolCallId).getD defaultId
      toolName := toolName
      toolVersion := (normalizeText toolCall.toolVersion).getD (ofString "0.0.0") }

def normalizeToolCalls (toolCalls : Option (List ResearchRunToolCallInput)) :
    List ResearchRunSavedToolCall :=
  (toolCalls.getD []).zipIdx.filterMap fun entry => normalizeToolCall entry.1 entry.2

def normalizeEvidenceRecord (evidence : ResearchRunEvidenceInput) :
    Option ResearchRunSavedEvidenceRecord := do
  let sourceRecordIds :=
    (evidence.sourceRecordIds.getD []).filterMap fun sourceRecordId =>
      normalizeText (some sourceRecordId)
  let evidenceRecordId ← normalizeText evidence.evidenceRecordId
  let dataVersion ← normalizeText evidence.dataVersion
  let methodologyVersion ← normalizeText evidence.methodologyVersion
  if sourceRecordIds = [] then
    none
  else
    some
      { citationLabel := normalizeText evidence.citationLabel
        dataVersion := dataVersion
        documentLocation := normalizeDocumentLocation evidence.documentLocation
        evidenceRecordId := evidenceRecordId
        methodologyVersion := methodologyVersion
        sourceRecordIds := sourceRecordIds }

def normalizeEvidenceRecords (evidenceRecords : Option (List ResearchRunEvidenceInput)) :
    List ResearchRunSavedEvidenceRecord :=
  (evidenceRecords.getD []).filterMap normalizeEvidenceRecord

/-- `left.localeCompare(right) <= 0`, which belongs to the platform. -/
abbrev LocaleOrder := JsText → JsText → Bool

def normalizeParameters (parameters : Option ParameterInput) : List (JsText × JsonValue) :=
  match parameters with
  | none => []
  | some parameters =>
    (parameters.entries.filterMap fun entry =>
      if entry.1 = [] then none else entry.2.map fun value => (entry.1, value)).insertionSort
      fun left right => localeOrder left.1 right.1 = true

def createParameterSnapshot (parameters : Option ParameterInput) : ResearchRunParameterSnapshot :=
  let normalized := normalizeParameters localeOrder parameters
  { parameterHash := hashStableValue (parametersValue normalized)
    parameters := normalized
    parametersRecorded := !normalized.isEmpty }

def createResearchRunSavePlan (input : CreateResearchRunSavePlanInput) :
    Except ResearchRunInputError ResearchRunSavePlan :=
  match normalizeText input.question, normalizeText input.modelVersion,
      normalizeText input.promptVersion with
  | none, _, _ => .error ⟨.questionRequired, "question is required"⟩
  | _, none, _ => .error ⟨.modelVersionRequired, "modelVersion is required"⟩
  | _, _, none => .error ⟨.promptVersionRequired, "promptVersion is required"⟩
  | some question, some modelVersion, some promptVersion =>
    let toolCalls := normalizeToolCalls input.toolCalls
    if toolCalls.isEmpty then
      .error ⟨.toolInputRequired, "at least one tool input snapshot is required"⟩
    else
      let evidenceRecords := normalizeEvidenceRecords input.evidenceRecords
      if evidenceRecords.isEmpty then
        .error ⟨.evidenceSnapshotRequired, "at least one evidence snapshot record is required"⟩
      else
        let runHash := hashStableValue (.array
          [.string input.requestId, .string question, .string modelVersion,
            .string promptVersion])
        let parameters := normalizeParameters localeOrder input.parameters
        let snapshotHash := hashStableValue (record
          [("evidenceRecords", evidenceValue evidenceRecords),
            ("modelVersion", .string modelVersion),
            ("parameters", parametersValue parameters),
            ("promptVersion", .string promptVersion),
            ("question", .string question),
            ("toolCalls", .array (toolCalls.map ResearchRunSavedToolCall.toValue))])
        .ok
          { answerHash := normalizeText input.answerHash
            evidenceRecords := evidenceRecords
            snapshotHash := snapshotHash
            modelSnapshot :=
              { modelProvider := (normalizeText input.modelProvider).getD
                  (ofString "not_configured")
                modelVersion := modelVersion
                promptTemplateId := normalizeText input.promptTemplateId
                promptVersion := promptVersion }
            parameterSnapshot := createParameterSnapshot localeOrder input.parameters
            question := question
            questionHash := hashStableValue (.string question)
            requestId := input.requestId
            runId := (normalizeText input.runId).getD
              (ofString "research_run_" ++ runHash)
            snapshotId := ofString "research_snapshot_" ++ snapshotHash
            toolCalls := toolCalls }

end Aiphabee.ResearchRuns
