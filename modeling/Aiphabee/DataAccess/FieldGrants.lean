import Aiphabee.DataAccess.Gateway

/-!
# What a policy grants

`Grants` says without any search order when the gateway lets a field through: a
field policy approves it and none blocks it, and the entitlements of the workspace,
where the policy has any, approve it and none blocks it.  `mem_allowedFields` is the
specification of the field checks by it.
-/

namespace Aiphabee.DataAccess

open ServingStore (TimeRange normalizeFields mem_normalizeFields)

variable {dateParse : String → Option Int}
variable {request : DataAccessRequest}
variable {policy : DataAccessPolicy}
variable {timeWindowDays : Option JsNumber}
variable {field : String}

/-- Some field policy approves the field and none blocks it. -/
def FieldPoliciesGrant (request : DataAccessRequest) (policy : DataAccessPolicy) (field : String) :
    Prop :=
  (∃ entry ∈ policy.fieldPolicies, entry.appliesTo request field = true ∧
    entry.status = .approved) ∧
  ∀ entry ∈ policy.fieldPolicies, entry.appliesTo request field = true → entry.status ≠ .blocked

def EntitlementPasses (request : DataAccessRequest) (timeWindowDays : Option JsNumber)
    (entitlement : DataAccessEntitlementPolicy) : Prop :=
  (request.exportRequested = true → entitlement.exportAllowed = true) ∧
    exceedsWindow timeWindowDays entitlement.maxWindowDays = false

/-- No entitlement of the workspace blocks the field, and the approved one passes. -/
def EntitlementsGrant (request : DataAccessRequest) (policy : DataAccessPolicy)
    (timeWindowDays : Option JsNumber) (field : String) : Prop :=
  ∃ workspaceId, request.workspaceId = some workspaceId ∧ workspaceId ≠ "" ∧
    (∀ entitlement ∈ policy.entitlementPolicies,
      entitlement.appliesTo request workspaceId field = true → entitlement.status ≠ .blocked) ∧
    ∃ entitlement, approvedEntitlement request policy workspaceId field = some entitlement ∧
      EntitlementPasses request timeWindowDays entitlement

/-- A policy lets a field through. -/
def Grants (request : DataAccessRequest) (policy : DataAccessPolicy)
    (timeWindowDays : Option JsNumber) (field : String) : Prop :=
  policy.channels request.channel = .approved ∧
    FieldPoliciesGrant request policy field ∧
    (policy.entitlementPolicies = [] ∨ EntitlementsGrant request policy timeWindowDays field)

theorem fieldStatus_eq_approved :
    ((getFieldPolicy request field policy).map DataAccessFieldPolicy.status).getD
        policy.defaultFieldStatus = .approved ↔
      FieldPoliciesGrant request policy field := by
  have hmem : ∀ entry, entry ∈ (policy.fieldPolicies.filter fun entry =>
      entry.appliesTo request field) ↔
      entry ∈ policy.fieldPolicies ∧ entry.appliesTo request field = true :=
    fun entry => List.mem_filter
  rw [getFieldPolicy, DataAccessPolicy.defaultFieldStatus]
  generalize (policy.fieldPolicies.filter fun entry =>
    entry.appliesTo request field) = matching at hmem
  cases hblocked : matching.find? fun entry => entry.status = .blocked with
  | some entry =>
    have hstatus : entry.status = .blocked := by simpa using List.find?_some hblocked
    obtain ⟨hentry, happlies⟩ := (hmem entry).mp (List.mem_of_find?_eq_some hblocked)
    constructor
    · intro h
      change entry.status = .approved at h
      rw [hstatus] at h
      cases h
    · intro h
      exact absurd hstatus (h.2 entry hentry happlies)
  | none =>
    have hnone : ∀ entry ∈ policy.fieldPolicies, entry.appliesTo request field = true →
        entry.status ≠ .blocked := by
      intro entry hentry happlies hstatus
      exact List.find?_eq_none.mp hblocked entry ((hmem entry).mpr ⟨hentry, happlies⟩)
        (decide_eq_true hstatus)
    cases happroved : matching.find? fun entry => entry.status = .approved with
    | some entry =>
      have hstatus : entry.status = .approved := by
        simpa using List.find?_some happroved
      obtain ⟨hentry, happlies⟩ := (hmem entry).mp (List.mem_of_find?_eq_some happroved)
      exact ⟨fun _ => ⟨⟨entry, hentry, happlies, hstatus⟩, hnone⟩, fun _ => hstatus⟩
    | none =>
      constructor
      · intro h
        cases hhead : matching.head? with
        | none => rw [hhead] at h; cases h
        | some entry =>
          rw [hhead] at h
          exact absurd (decide_eq_true h)
            (List.find?_eq_none.mp happroved entry (List.mem_of_head? hhead))
      · rintro ⟨⟨entry, hentry, happlies, hstatus⟩, -⟩
        exact absurd (decide_eq_true hstatus)
          (List.find?_eq_none.mp happroved entry ((hmem entry).mpr ⟨hentry, happlies⟩))

theorem evaluateWorkspaceEntitlement_eq_none :
    evaluateWorkspaceEntitlement request field policy timeWindowDays = none ↔
      policy.entitlementPolicies = [] ∨
        EntitlementsGrant request policy timeWindowDays field := by
  rw [evaluateWorkspaceEntitlement]
  by_cases hempty : policy.entitlementPolicies = []
  · simp [hempty]
  rw [if_neg hempty]
  simp only [hempty, false_or, EntitlementsGrant]
  cases hworkspace : request.workspaceId with
  | none => simp
  | some workspaceId =>
    by_cases hname : workspaceId = ""
    · simp [hname]
    have hblocked : ((matchingEntitlements request policy workspaceId field).any
        fun entitlement => entitlement.status = .blocked) = false ↔
        ∀ entitlement ∈ policy.entitlementPolicies,
          entitlement.appliesTo request workspaceId field = true →
            entitlement.status ≠ .blocked := by
      simp [matchingEntitlements]
    simp only [Option.some.injEq, exists_eq_left', ne_eq, hname, not_false_eq_true, true_and,
      ← hblocked]
    cases (matchingEntitlements request policy workspaceId field).any
        fun entitlement => entitlement.status = .blocked with
    | true => simp
    | false =>
      cases happroved : approvedEntitlement request policy workspaceId field with
      | none => simp
      | some entitlement =>
        simp only [Option.some.injEq, exists_eq_left', EntitlementPasses]
        cases request.exportRequested <;> cases entitlement.exportAllowed <;>
          cases exceedsWindow timeWindowDays entitlement.maxWindowDays <;> simp

theorem deniedReason_eq_none :
    deniedReason request field policy timeWindowDays = none ↔
      FieldPoliciesGrant request policy field ∧
        (policy.entitlementPolicies = [] ∨
          EntitlementsGrant request policy timeWindowDays field) := by
  rw [← fieldStatus_eq_approved, ← evaluateWorkspaceEntitlement_eq_none, deniedReason]
  split
  next happroved => simp [happroved]
  next hnot => simp [hnot]

theorem foldl_push (reason : String → Option DataAccessDeniedReason) (fields : List String)
    (decision : FieldDecision) :
    fields.foldl (fun decision field => decision.push field (reason field)) decision =
      { allowedFields :=
          decision.allowedFields ++ fields.filter fun field => (reason field).isNone
        deniedFields :=
          decision.deniedFields ++
            fields.filterMap fun field => (reason field).map (⟨field, ·⟩) } := by
  induction fields generalizing decision with
  | nil => simp
  | cons field rest ih =>
    rw [List.foldl_cons, ih]
    cases hreason : reason field with
    | none => simp [FieldDecision.push, hreason]
    | some denied => simp [FieldDecision.push, hreason]

theorem mem_evaluateFields {requestedFields : List String} :
    field ∈ (evaluateFields request requestedFields policy timeWindowDays).allowedFields ↔
      field ∈ requestedFields ∧ Grants request policy timeWindowDays field := by
  rw [evaluateFields, Grants, ← deniedReason_eq_none]
  split
  next hchannel =>
    rw [foldl_push]
    simp [hchannel]
  next hchannel => simp [hchannel]

/-- A field that is asked for and let through. -/
def GrantedField (dateParse : String → Option Int) (request : DataAccessRequest)
    (policy : DataAccessPolicy) (field : String) : Prop :=
  field ∈ request.requestedFields ∧ field ≠ "" ∧
    Grants request policy (calculateWindowDays dateParse request.timeRange) field

theorem mem_fieldDecision :
    field ∈ (evaluateFields request (normalizeFields request.requestedFields) policy
        (calculateWindowDays dateParse request.timeRange)).allowedFields ↔
      GrantedField dateParse request policy field := by
  rw [mem_evaluateFields, mem_normalizeFields, GrantedField, and_assoc]

def fieldDecisionOf (dateParse : String → Option Int) (request : DataAccessRequest)
    (policy : DataAccessPolicy) : FieldDecision :=
  evaluateFields request (normalizeFields request.requestedFields) policy
    (calculateWindowDays dateParse request.timeRange)

def limitErrorOf (dateParse : String → Option Int) (request : DataAccessRequest)
    (policy : DataAccessPolicy) : Option GatewayErrorCode :=
  getLimitError request policy (calculateWindowDays dateParse request.timeRange)

/-- A quality hold hides a limit, and a limit hides what the fields decide. -/
theorem decision_status :
    (evaluateDataAccessRequest dateParse request policy).status =
      if request.qualityState.isBlocked then .quality_hold
      else if (limitErrorOf dateParse request policy).isSome then .deny
      else getDecisionStatus (fieldDecisionOf dateParse request policy) := by
  rw [evaluateDataAccessRequest, limitErrorOf, fieldDecisionOf]
  dsimp only
  by_cases hquality : request.qualityState.isBlocked
  · simp [getQualityError, hquality]
  generalize evaluateFields request (normalizeFields request.requestedFields) policy
    (calculateWindowDays dateParse request.timeRange) = decision
  simp only [getQualityError, hquality, if_false, Option.none_or, Option.isSome_none,
    Bool.false_eq_true]
  cases getLimitError request policy (calculateWindowDays dateParse request.timeRange) with
  | some error => rfl
  | none =>
    cases getDecisionStatus decision <;> rfl

theorem getDecisionStatus_ne_quality_hold (decision : FieldDecision) :
    getDecisionStatus decision ≠ .quality_hold := by
  rw [getDecisionStatus]
  split
  · decide
  · split <;> decide

theorem decision_status_eq_quality_hold :
    (evaluateDataAccessRequest dateParse request policy).status = .quality_hold ↔
      request.qualityState.isBlocked := by
  rw [decision_status]
  split
  next hquality => simp [hquality]
  next hquality =>
    split
    · simp [hquality]
    · simp [hquality, getDecisionStatus_ne_quality_hold]

theorem decision_allowedFields :
    (evaluateDataAccessRequest dateParse request policy).allowedFields =
      if request.qualityState.isBlocked then []
      else (fieldDecisionOf dateParse request policy).allowedFields := by
  have hstatus := @decision_status_eq_quality_hold dateParse request policy
  rw [← if_congr hstatus rfl rfl]
  rfl

/-- Limits do not empty the list of allowed fields, a quality hold does. -/
theorem mem_allowedFields :
    field ∈ (evaluateDataAccessRequest dateParse request policy).allowedFields ↔
      ¬request.qualityState.isBlocked ∧ GrantedField dateParse request policy field := by
  rw [decision_allowedFields, ← mem_fieldDecision, fieldDecisionOf]
  split
  next hquality => simp [hquality]
  next hquality => simp [hquality]

end Aiphabee.DataAccess
