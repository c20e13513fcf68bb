import Aiphabee.Serving.ServingStore
import Aiphabee.Store.GroupBy

/-!
# The serving read pipeline is closed unless every stage lets a read pass

Every stage either passes on what the stage before it has planned or yields
the blocked plan, whose field set is empty and whose limit is zero.  One lemma
a planner says which; the statement at the end of the pipeline is emitted
exactly when no stage blocks.
-/

namespace Aiphabee.ServingStore

def servingReadPipeline (read : ServingReadPlanInput) (release : ServingQualityReleasePlanInput)
    (servingSnapshotId : String) : ServingSqlTextPlan :=
  let releasePlan := createServingQualityReleasePlan release
  createServingSqlTextPlan
    (createServingSqlDescriptor
      (createServingQueryPlan
        { readPlan := createServingReadPlan read
          releaseState := releasePlan.releaseState
          rowCount := releasePlan.rowCount
          servingSnapshotId := servingSnapshotId
          snapshotQualityState := releasePlan.snapshotQualityState }))

/-- A field name is kept exactly when it is not empty. -/
theorem mem_normalizeFields {fields : List String} {field : String} :
    field ∈ normalizeFields fields ↔ field ∈ fields ∧ field ≠ "" := by
  rw [normalizeFields, JsString.sort, (List.mergeSort_perm _ _).mem_iff, List.mem_eraseDups,
    List.mem_filter]
  simp [Nat.pos_iff_ne_zero]

theorem normalizeFields_pairwise (fields : List String) :
    (normalizeFields fields).Pairwise fun left right =>
      JsString.codeUnits left ≤ JsString.codeUnits right :=
  JsString.sort_pairwise _

theorem normalizeFields_nodup (fields : List String) : (normalizeFields fields).Nodup :=
  (List.mergeSort_perm _ _).nodup_iff.mpr (GroupBy.nodup_eraseDups _)

/-- Nothing is left exactly when every name is empty. -/
theorem normalizeFields_eq_nil {fields : List String} :
    normalizeFields fields = [] ↔ ¬∃ field ∈ fields, field ≠ "" := by
  rw [List.eq_nil_iff_forall_not_mem]
  simp only [mem_normalizeFields, not_exists]

/-- The gateway let the request pass, whole or in part. -/
def ServingReadGatewayStatus.isAllowed (status : ServingReadGatewayStatus) : Prop :=
  status = .allow ∨ status = .allow_with_redactions

instance (status : ServingReadGatewayStatus) : Decidable status.isAllowed :=
  inferInstanceAs (Decidable (_ ∨ _))

/-- A read may be planned: the gateway allows it, a field is named, and its quality holds. -/
def ReadAllowed (input : ServingReadPlanInput) : Prop :=
  input.gatewayStatus.isAllowed ∧ (∃ field ∈ input.allowedFields, field ≠ "") ∧
    ¬input.qualityState.isBlocked

theorem createServingReadPlan_planned (input : ServingReadPlanInput) :
    (createServingReadPlan input).status = .read_planned ↔ ReadAllowed input := by
  have hfields : normalizeFields input.allowedFields = [] ↔ _ := normalizeFields_eq_nil
  simp only [createServingReadPlan, getServingReadStatus, ReadAllowed, hfields]
  cases hgateway : input.gatewayStatus <;> by_cases hquality : input.qualityState.isBlocked <;>
    simp [hquality, ServingReadGatewayStatus.isAllowed]

theorem createServingReadPlan_fields {input : ServingReadPlanInput} (h : ReadAllowed input) :
    (createServingReadPlan input).allowedFields = normalizeFields input.allowedFields := by
  have hstatus := (createServingReadPlan_planned input).mpr h
  simp only [createServingReadPlan] at hstatus ⊢
  rw [if_pos hstatus]

theorem createServingQueryPlan_planned (input : ServingQueryPlanInput) :
    (createServingQueryPlan input).status = .query_planned ↔
      input.readPlan.status = .read_planned ∧ ¬input.snapshotQualityState.isBlocked ∧
        input.releaseState = .released := by
  simp only [createServingQueryPlan, getServingQueryBlockedReason]
  by_cases hread : input.readPlan.status = .read_planned <;>
    by_cases hquality : input.snapshotQualityState.isBlocked <;>
    by_cases hrelease : input.releaseState = .released <;>
    simp [hread, hquality, hrelease]

theorem createServingQueryPlan_values (input : ServingQueryPlanInput) :
    let plan := createServingQueryPlan input
    (plan.status = .query_planned →
      plan.allowedFields = input.readPlan.allowedFields ∧
        plan.plannedRows =
          ((input.readPlan.requestedRows.min input.readPlan.rowLimit).min input.rowCount)) ∧
    (plan.status ≠ .query_planned → plan.allowedFields = [] ∧ plan.plannedRows = .zero) := by
  constructor
  · intro h
    simp only [createServingQueryPlan] at h ⊢
    exact ⟨if_pos h, if_pos h⟩
  · intro h
    simp only [createServingQueryPlan] at h ⊢
    exact ⟨if_neg h, if_neg h⟩

theorem statement_of_queryPlan (queryPlan : ServingQueryPlan) :
    let plan := createServingSqlTextPlan (createServingSqlDescriptor queryPlan)
    (queryPlan.status = .query_planned →
      plan.sqlText = some createServingRecordProjectionSqlText ∧
        plan.parameters.fieldSet = queryPlan.allowedFields ∧
        plan.parameters.limit = queryPlan.plannedRows) ∧
    (queryPlan.status ≠ .query_planned →
      plan.sqlText = none ∧ plan.parameters.fieldSet = [] ∧ plan.parameters.limit = .zero) := by
  constructor <;> intro h <;> simp [createServingSqlTextPlan, createServingSqlDescriptor, h]

theorem createServingRecordProjectionSqlText_ne :
    createServingRecordProjectionSqlText ≠ "" := by
  intro h
  rw [createServingRecordProjectionSqlText, String.intercalate_cons_cons,
    String.append_eq_empty_iff, String.append_eq_empty_iff] at h
  exact absurd h.1.1 (by decide)

section Pipeline

def Passes (read : ServingReadPlanInput) (release : ServingQualityReleasePlanInput) : Prop :=
  ReadAllowed read ∧ ¬release.snapshotQualityState.isBlocked ∧
    (createServingQualityReleasePlan release).releaseState = .released

theorem queryPlan_planned_iff (read : ServingReadPlanInput)
    (release : ServingQualityReleasePlanInput) (servingSnapshotId : String) :
    (createServingQueryPlan
        { readPlan := createServingReadPlan read
          releaseState := (createServingQualityReleasePlan release).releaseState
          rowCount := release.rowCount
          servingSnapshotId := servingSnapshotId
          snapshotQualityState := release.snapshotQualityState }).status = .query_planned ↔
      Passes read release := by
  rw [createServingQueryPlan_planned, Passes, ← createServingReadPlan_planned]

variable {release : ServingQualityReleasePlanInput}
variable {read : ServingReadPlanInput}

theorem servingReadPipeline_of_passes (h : Passes read release) (servingSnapshotId : String) :
    let plan := servingReadPipeline read release servingSnapshotId
    plan.sqlText = some createServingRecordProjectionSqlText ∧
      plan.parameters.fieldSet = normalizeFields read.allowedFields ∧
      plan.parameters.limit = (read.requestedRows.min read.maxRows).min release.rowCount := by
  have hplanned := (queryPlan_planned_iff read release servingSnapshotId).mpr h
  obtain ⟨htext, hfieldSet, hlimit⟩ := (statement_of_queryPlan _).1 hplanned
  obtain ⟨hallowed, hrows⟩ := (createServingQueryPlan_values _).1 hplanned
  refine ⟨htext, ?_, hlimit.trans hrows⟩
  rw [← createServingReadPlan_fields h.1]
  exact hfieldSet.trans hallowed

theorem servingReadPipeline_of_not_passes (h : ¬Passes read release) (servingSnapshotId : String) :
    let plan := servingReadPipeline read release servingSnapshotId
    plan.sqlText = none ∧ plan.parameters.fieldSet = [] ∧ plan.parameters.limit = .zero :=
  (statement_of_queryPlan _).2 (mt (queryPlan_planned_iff read release servingSnapshotId).mp h)

theorem min_three_spec {a b c : JsNumber} (ha : a ≠ .nan) (hb : b ≠ .nan) (hc : c ≠ .nan) :
    (a.min b).min c ∈ [a, b, c] ∧ ((a.min b).min c).le a ∧ ((a.min b).min c).le b ∧
      ((a.min b).min c).le c := by
  obtain ⟨hone, hinnerA, hinnerB⟩ := JsNumber.min_spec ha hb
  have hinner : a.min b ≠ .nan := by
    rcases hone with h | h
    · rwa [h]
    · rwa [h]
  obtain ⟨houter, houterInner, houterC⟩ := JsNumber.min_spec hinner hc
  refine ⟨?_, JsNumber.le_trans houterInner hinnerA, JsNumber.le_trans houterInner hinnerB,
    houterC⟩
  rcases houter with h | h
  · rw [h]
    rcases hone with hone | hone <;> simp [hone]
  · simp [h]

/--
The pipeline emits a statement exactly when every stage lets the read pass.
The statement reads the allowed fields, in order and each once; its limit is
one of the three row counts and at most each of them, when all are numbers.
Otherwise there are no fields and the limit is zero.
-/
theorem servingReadPipeline_failClosed (read : ServingReadPlanInput)
    (release : ServingQualityReleasePlanInput) (servingSnapshotId : String) :
    let plan := servingReadPipeline read release servingSnapshotId
    let fieldSet := plan.parameters.fieldSet
    let limit := plan.parameters.limit
    ((∃ text, plan.sqlText = some text ∧ text ≠ "") ↔ Passes read release) ∧
    (Passes read release →
      (fieldSet.Pairwise fun left right =>
        JsString.codeUnits left ≤ JsString.codeUnits right) ∧
      fieldSet.Nodup ∧
      (∀ field, field ∈ fieldSet ↔ field ∈ read.allowedFields ∧ field ≠ "") ∧
      (read.requestedRows ≠ .nan → read.maxRows ≠ .nan → release.rowCount ≠ .nan →
        limit ∈ [read.requestedRows, read.maxRows, release.rowCount] ∧
          limit.le read.requestedRows ∧ limit.le read.maxRows ∧ limit.le release.rowCount)) ∧
    (¬Passes read release →
      plan.sqlText = none ∧ fieldSet = [] ∧ limit = .zero) := by
  intro plan fieldSet limit
  refine ⟨⟨?_, ?_⟩, ?_, fun h => servingReadPipeline_of_not_passes h servingSnapshotId⟩
  · rintro ⟨text, htext, -⟩
    by_contra h
    obtain ⟨hnone, -⟩ := servingReadPipeline_of_not_passes h servingSnapshotId
    cases htext.symm.trans hnone
  · intro h
    obtain ⟨htext, -⟩ := servingReadPipeline_of_passes h servingSnapshotId
    exact ⟨_, htext, createServingRecordProjectionSqlText_ne⟩
  · intro h
    obtain ⟨-, hfieldSet, hlimit⟩ := servingReadPipeline_of_passes h servingSnapshotId
    have hfields : fieldSet = normalizeFields read.allowedFields := hfieldSet
    have hrows : limit = (read.requestedRows.min read.maxRows).min release.rowCount := hlimit
    rw [hfields, hrows]
    exact ⟨normalizeFields_pairwise _, normalizeFields_nodup _,
      fun field => mem_normalizeFields, min_three_spec⟩

def unnamedFieldRead : ServingReadPlanInput :=
  { allowedFields := [""]
    dataVersion := "v1"
    dataset := "quote_snapshot"
    errorCode := none
    gatewayStatus := .allow
    maxRows := .finite 500
    methodologyVersion := "m1"
    qualityState := .PASS
    requestedFields := [""]
    requestedRows := .finite 1
    rightsPolicyVersion := "r1"
    timeRange := none }

def passedRelease : ServingQualityReleasePlanInput :=
  { dataVersion := "v1"
    dataset := "quote_snapshot"
    fieldQualityStates := none
    methodologyVersion := "m1"
    recordQualityStates := none
    rightsPolicyVersion := "r1"
    rowCount := .finite 3
    snapshotQualityState := .PASS
    sourceRecordId := "source-1" }

def negativeRowsRead : ServingReadPlanInput :=
  { unnamedFieldRead with
    allowedFields := ["quote_snapshot.last_price"]
    requestedRows := .finite (-5) }

/--
A field list of empty names is not empty, and no statement is emitted for it;
a request for a negative number of rows is planned with that limit.
-/
theorem unnamedField_blocked_negativeRows_planned :
    ¬((∃ text,
          (servingReadPipeline unnamedFieldRead passedRelease "snapshot-1").sqlText =
            some text ∧ text ≠ "") ↔
        unnamedFieldRead.gatewayStatus.isAllowed ∧ unnamedFieldRead.allowedFields ≠ [] ∧
          ¬unnamedFieldRead.qualityState.isBlocked ∧
          ¬passedRelease.snapshotQualityState.isBlocked ∧
          (createServingQualityReleasePlan passedRelease).releaseState = .released) ∧
      (servingReadPipeline negativeRowsRead passedRelease "snapshot-1").parameters.limit =
        .finite (-5) := by
  constructor
  · intro h
    obtain ⟨text, htext, -⟩ := h.mpr (by decide)
    have hblocked : ¬Passes unnamedFieldRead passedRelease := by
      rintro ⟨⟨-, ⟨field, hfield, hne⟩, -⟩, -⟩
      exact hne (List.mem_singleton.mp hfield)
    obtain ⟨hnone, -⟩ := servingReadPipeline_of_not_passes hblocked "snapshot-1"
    cases htext.symm.trans hnone
  · have hpasses : Passes negativeRowsRead passedRelease := by
      unfold Passes ReadAllowed
      decide
    obtain ⟨-, -, hlimit⟩ := servingReadPipeline_of_passes hpasses "snapshot-1"
    rw [hlimit]
    decide

end Pipeline

end Aiphabee.ServingStore
