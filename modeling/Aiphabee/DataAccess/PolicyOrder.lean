import Aiphabee.DataAccess.FieldGrants
import Aiphabee.Store.LookupOrder

/-!
# The order of the policies

The gateway searches the policies from the first on.  A field policy that blocks comes
before one that approves, so the order of the field policies does not matter.  Among the
entitlements that approve a field only the first one is asked for its rights to export
and for its time window.

So the decision of a request is the same for all orders exactly when the entitlements
settle, without an order, what becomes of each field (`policyOrderFree_iff`).
-/

namespace Aiphabee.DataAccess

open ServingStore (normalizeFields)

variable {dateParse : String → Option Int}
variable {request : DataAccessRequest}
variable {policy other : DataAccessPolicy}
variable {timeWindowDays : Option JsNumber}
variable {field : String}

def fieldReason (dateParse : String → Option Int) (request : DataAccessRequest)
    (policy : DataAccessPolicy) (field : String) : Option DataAccessDeniedReason :=
  if policy.channels request.channel = .approved then
    deniedReason request field policy (calculateWindowDays dateParse request.timeRange)
  else
    some .channelBlocked

theorem fieldDecision_allowedFields :
    (fieldDecisionOf dateParse request policy).allowedFields =
      (normalizeFields request.requestedFields).filter fun field =>
        (fieldReason dateParse request policy field).isNone := by
  unfold fieldDecisionOf evaluateFields fieldReason
  split
  · rw [foldl_push]
    rfl
  · simp

theorem fieldDecision_deniedFields :
    (fieldDecisionOf dateParse request policy).deniedFields =
      (normalizeFields request.requestedFields).filterMap fun field =>
        (fieldReason dateParse request policy field).map (⟨field, ·⟩) := by
  unfold fieldDecisionOf evaluateFields fieldReason
  split
  · rw [foldl_push]
    rfl
  · simp

structure SameDecision (left right : DataAccessDecision) : Prop where
  status : left.status = right.status
  allowedFields : left.allowedFields = right.allowedFields
  deniedFields : left.deniedFields = right.deniedFields

theorem decision_deniedFields :
    (evaluateDataAccessRequest dateParse request policy).deniedFields =
      (fieldDecisionOf dateParse request policy).deniedFields :=
  rfl

theorem sameDecision_iff
    (hlimits : limitErrorOf dateParse request policy = limitErrorOf dateParse request other) :
    SameDecision (evaluateDataAccessRequest dateParse request policy)
        (evaluateDataAccessRequest dateParse request other) ↔
      ∀ field ∈ normalizeFields request.requestedFields,
        fieldReason dateParse request policy field =
          fieldReason dateParse request other field := by
  constructor
  · intro h field hfield
    have hdenied := h.deniedFields
    rw [decision_deniedFields, decision_deniedFields, fieldDecision_deniedFields,
      fieldDecision_deniedFields] at hdenied
    have hmem : ∀ reason,
        fieldReason dateParse request policy field = some reason ↔
          fieldReason dateParse request other field = some reason := by
      have hlist : ∀ (policy : DataAccessPolicy) reason,
          fieldReason dateParse request policy field = some reason ↔
            (⟨field, reason⟩ : DeniedField) ∈
              (normalizeFields request.requestedFields).filterMap fun field =>
                (fieldReason dateParse request policy field).map (⟨field, ·⟩) := by
        intro policy reason
        simp only [List.mem_filterMap, Option.map_eq_some_iff, DeniedField.mk.injEq]
        constructor
        · exact fun hreason => ⟨field, hfield, reason, hreason, rfl, rfl⟩
        · rintro ⟨_, _, _, hreason, rfl, rfl⟩
          exact hreason
      intro reason
      rw [hlist policy, hlist other, hdenied]
    exact Option.ext hmem
  · intro h
    have hdecision : fieldDecisionOf dateParse request policy =
        fieldDecisionOf dateParse request other := by
      have hallowed : (fieldDecisionOf dateParse request policy).allowedFields =
          (fieldDecisionOf dateParse request other).allowedFields := by
        rw [fieldDecision_allowedFields, fieldDecision_allowedFields]
        exact List.filter_congr fun field hfield => by rw [h field hfield]
      have hdenied : (fieldDecisionOf dateParse request policy).deniedFields =
          (fieldDecisionOf dateParse request other).deniedFields := by
        rw [fieldDecision_deniedFields, fieldDecision_deniedFields]
        exact List.filterMap_congr fun field hfield => by rw [h field hfield]
      cases hleft : fieldDecisionOf dateParse request policy
      cases hright : fieldDecisionOf dateParse request other
      rw [hleft, hright] at hallowed hdenied
      exact congrArg₂ FieldDecision.mk hallowed hdenied
    constructor
    · rw [decision_status, decision_status, hlimits, hdecision]
    · rw [decision_allowedFields, decision_allowedFields, hdecision]
    · rw [decision_deniedFields, decision_deniedFields, hdecision]

def fieldStatusOf (request : DataAccessRequest) (policy : DataAccessPolicy) (field : String) :
    DataAccessFieldStatus :=
  ((getFieldPolicy request field policy).map
    DataAccessFieldPolicy.status).getD policy.defaultFieldStatus

theorem fieldStatusOf_eq_blocked :
    fieldStatusOf request policy field = .blocked ↔
      ∃ entry ∈ policy.fieldPolicies,
        entry.appliesTo request field = true ∧ entry.status = .blocked := by
  have hmem : ∀ entry, entry ∈ (policy.fieldPolicies.filter fun entry =>
      entry.appliesTo request field) ↔
      entry ∈ policy.fieldPolicies ∧ entry.appliesTo request field = true :=
    fun entry => List.mem_filter
  rw [fieldStatusOf, getFieldPolicy, DataAccessPolicy.defaultFieldStatus]
  generalize (policy.fieldPolicies.filter fun entry =>
    entry.appliesTo request field) = matching at hmem
  cases hblocked : matching.find? fun entry => entry.status = .blocked with
  | some entry =>
    have hstatus : entry.status = .blocked := by simpa using List.find?_some hblocked
    obtain ⟨hentry, happlies⟩ := (hmem entry).mp (List.mem_of_find?_eq_some hblocked)
    exact iff_of_true hstatus ⟨entry, hentry, happlies, hstatus⟩
  | none =>
    have hnone : ∀ entry ∈ matching, entry.status ≠ .blocked := by
      simpa using List.find?_eq_none.mp hblocked
    refine iff_of_false ?_ ?_
    · rw [Option.none_or]
      intro hstatus
      cases happroved : matching.find? fun entry => entry.status = .approved with
      | some entry =>
        rw [happroved] at hstatus
        exact hnone entry (List.mem_of_find?_eq_some happroved) hstatus
      | none =>
        rw [happroved, Option.none_or] at hstatus
        cases hhead : matching.head? with
        | none => rw [hhead] at hstatus; cases hstatus
        | some entry =>
          rw [hhead] at hstatus
          exact hnone entry (List.mem_of_head? hhead) hstatus
    · rintro ⟨entry, hentry, happlies, hstatus⟩
      exact hnone entry ((hmem entry).mpr ⟨hentry, happlies⟩) hstatus

theorem fieldStatusOf_perm (hperm : policy.fieldPolicies.Perm other.fieldPolicies) :
    fieldStatusOf request policy field = fieldStatusOf request other field := by
  have happroved : fieldStatusOf request policy field = .approved ↔
      fieldStatusOf request other field = .approved := by
    rw [fieldStatusOf, fieldStatusOf, fieldStatus_eq_approved, fieldStatus_eq_approved,
      FieldPoliciesGrant, FieldPoliciesGrant]
    simp only [hperm.mem_iff]
  have hblocked : fieldStatusOf request policy field = .blocked ↔
      fieldStatusOf request other field = .blocked := by
    rw [fieldStatusOf_eq_blocked, fieldStatusOf_eq_blocked]
    simp only [hperm.mem_iff]
  cases hleft : fieldStatusOf request policy field <;>
    cases hright : fieldStatusOf request other field <;> simp_all

section Entitlements

/-- Why an approved entitlement does not let a request pass, if it does not. -/
def rightsReason (request : DataAccessRequest) (timeWindowDays : Option JsNumber)
    (entitlement : DataAccessEntitlementPolicy) : Option DataAccessDeniedReason :=
  if request.exportRequested && !entitlement.exportAllowed then some .exportBlocked
  else if exceedsWindow timeWindowDays entitlement.maxWindowDays then some .timeRangeBlocked
  else none

def entitlementReason (request : DataAccessRequest) (timeWindowDays : Option JsNumber)
    (entitlements : List DataAccessEntitlementPolicy) (field : String) :
    Option DataAccessDeniedReason :=
  evaluateWorkspaceEntitlement request field
    { defaultDataAccessPolicy with entitlementPolicies := entitlements } timeWindowDays

theorem evaluateWorkspaceEntitlement_eq :
    evaluateWorkspaceEntitlement request field policy timeWindowDays =
      entitlementReason request timeWindowDays policy.entitlementPolicies field :=
  rfl

/-- The entitlements of a workspace settle what becomes of a field: one of them blocks it,
none of them approves it, or all that approve it have the same rights. -/
def WorkspaceSettles (request : DataAccessRequest) (timeWindowDays : Option JsNumber)
    (entitlements : List DataAccessEntitlementPolicy) (workspaceId field : String)
    (reason : Option DataAccessDeniedReason) : Prop :=
  let applies := fun entitlement status => entitlement ∈ entitlements ∧
    entitlement.appliesTo request workspaceId field = true ∧ entitlement.status = status
  (∃ entitlement, applies entitlement .blocked) ∧
      reason = some .workspaceEntitlementBlocked ∨
    (¬∃ entitlement, applies entitlement .blocked) ∧
      ((¬∃ entitlement, applies entitlement .approved) ∧
          reason = some .workspaceEntitlementDefaultDeny ∨
        (∃ entitlement, applies entitlement .approved) ∧
          ∀ entitlement, applies entitlement .approved →
            rightsReason request timeWindowDays entitlement = reason)

/-- Entitlements settle what becomes of a field, without an order. -/
def Settles (request : DataAccessRequest) (timeWindowDays : Option JsNumber)
    (entitlements : List DataAccessEntitlementPolicy) (field : String)
    (reason : Option DataAccessDeniedReason) : Prop :=
  if entitlements = [] then reason = none
  else match request.workspaceId with
    | none => reason = some .workspaceEntitlementDefaultDeny
    | some workspaceId =>
      if workspaceId = "" then reason = some .workspaceEntitlementDefaultDeny
      else WorkspaceSettles request timeWindowDays entitlements workspaceId field reason

def approvesField (request : DataAccessRequest) (workspaceId field : String)
    (entitlement : DataAccessEntitlementPolicy) : Bool :=
  entitlement.appliesTo request workspaceId field && entitlement.status = .approved

variable {entitlements : List DataAccessEntitlementPolicy} {workspaceId : String}

theorem entitlementReason_workspace (hsome : entitlements ≠ [])
    (hworkspace : request.workspaceId = some workspaceId) (hname : workspaceId ≠ "") :
    entitlementReason request timeWindowDays entitlements field =
      if ∃ entitlement ∈ entitlements,
          entitlement.appliesTo request workspaceId field = true ∧
              entitlement.status = .blocked then
        some .workspaceEntitlementBlocked
      else
        match entitlements.find? (approvesField request workspaceId field) with
        | none => some .workspaceEntitlementDefaultDeny
        | some entitlement => rightsReason request timeWindowDays entitlement := by
  have hblocked : (matchingEntitlements request
        { defaultDataAccessPolicy with entitlementPolicies := entitlements } workspaceId
        field).any (fun entitlement => entitlement.status = .blocked) = true ↔
      ∃ entitlement ∈ entitlements,
        entitlement.appliesTo request workspaceId field = true ∧
          entitlement.status = .blocked := by
    simp [matchingEntitlements]
  have happroved : approvedEntitlement request
      { defaultDataAccessPolicy with entitlementPolicies := entitlements } workspaceId field =
        entitlements.find? (approvesField request workspaceId field) := by
    rw [approvedEntitlement, matchingEntitlements, List.find?_filter]
    refine congrArg (List.find? · entitlements) (funext fun entitlement => ?_)
    simp [approvesField]
  unfold entitlementReason evaluateWorkspaceEntitlement
  dsimp only
  rw [if_neg hsome, hworkspace]
  dsimp only
  rw [if_neg hname, if_congr hblocked rfl rfl, happroved]
  rfl

theorem approvesField_iff {entitlement : DataAccessEntitlementPolicy} :
    approvesField request workspaceId field entitlement = true ↔
      entitlement.appliesTo request workspaceId field = true ∧
        entitlement.status = .approved := by
  simp [approvesField]

variable {reason : Option DataAccessDeniedReason}

theorem workspaceSettles_iff
    (hsome : ∀ {others : List DataAccessEntitlementPolicy}, others.Perm entitlements → others ≠ [])
    (hworkspace : request.workspaceId = some workspaceId) (hname : workspaceId ≠ "") :
    (∀ others, others.Perm entitlements →
        entitlementReason request timeWindowDays others field = reason) ↔
      WorkspaceSettles request timeWindowDays entitlements workspaceId field reason := by
  have hreason : ∀ {others : List DataAccessEntitlementPolicy}, others.Perm entitlements →
      entitlementReason request timeWindowDays others field =
        if ∃ entitlement ∈ others,
            entitlement.appliesTo request workspaceId field = true ∧
              entitlement.status = .blocked then
          some .workspaceEntitlementBlocked
        else
          match others.find? (approvesField request workspaceId field) with
          | none => some .workspaceEntitlementDefaultDeny
          | some entitlement => rightsReason request timeWindowDays entitlement :=
    fun hperm => entitlementReason_workspace (hsome hperm) hworkspace hname
  unfold WorkspaceSettles
  dsimp only
  by_cases hblocked : ∃ entitlement ∈ entitlements,
      entitlement.appliesTo request workspaceId field = true ∧ entitlement.status = .blocked
  · have hall : ∀ others, others.Perm entitlements →
        entitlementReason request timeWindowDays others field =
          some .workspaceEntitlementBlocked := by
      intro others hperm
      rw [hreason hperm, if_pos]
      simpa only [hperm.mem_iff] using hblocked
    simp only [hblocked, true_and, not_true_eq_false, false_and, or_false]
    exact ⟨fun h => (h entitlements .rfl).symm.trans (hall entitlements .rfl),
      fun h others hperm => (hall others hperm).trans h.symm⟩
  · have hall : ∀ {others : List DataAccessEntitlementPolicy}, others.Perm entitlements →
        entitlementReason request timeWindowDays others field =
          match others.find? (approvesField request workspaceId field) with
          | none => some .workspaceEntitlementDefaultDeny
          | some entitlement => rightsReason request timeWindowDays entitlement := by
      intro others hperm
      rw [hreason hperm, if_neg]
      simpa only [hperm.mem_iff] using hblocked
    simp only [hblocked, false_and, not_false_eq_true, true_and, false_or]
    by_cases happroved : ∃ entitlement, entitlement ∈ entitlements ∧
        entitlement.appliesTo request workspaceId field = true ∧ entitlement.status = .approved
    · simp only [happroved, not_true_eq_false, false_and, true_and, false_or]
      constructor
      · rintro h entitlement ⟨hmem, happroves⟩
        obtain ⟨others, hperm, hfound⟩ :=
          LookupOrder.exists_perm_find? hmem (approvesField_iff.mpr happroves)
        have hothers := h others hperm
        rw [hall hperm, hfound] at hothers
        exact hothers
      · intro h others hperm
        obtain ⟨entitlement, hmem, happroves⟩ := happroved
        obtain ⟨found, hfound⟩ := Option.isSome_iff_exists.mp (List.find?_isSome.mpr
          ⟨entitlement, hperm.mem_iff.mpr hmem, approvesField_iff.mpr happroves⟩)
        obtain ⟨hfoundMem, hfoundApproves⟩ := LookupOrder.find?_perm hperm hfound
        rw [hall hperm, hfound]
        exact h found ⟨hfoundMem, approvesField_iff.mp hfoundApproves⟩
    · have hnone : ∀ others, others.Perm entitlements →
          entitlementReason request timeWindowDays others field =
            some .workspaceEntitlementDefaultDeny := by
        intro others hperm
        have hfind : others.find? (approvesField request workspaceId field) = none := by
          refine List.find?_eq_none.mpr fun entitlement hmem happroves => happroved ?_
          exact ⟨entitlement, hperm.mem_iff.mp hmem, approvesField_iff.mp happroves⟩
        rw [hall hperm, hfind]
      simp only [happroved, not_false_eq_true, true_and, false_and, or_false]
      exact ⟨fun h => (h entitlements .rfl).symm.trans (hnone entitlements .rfl),
        fun h others hperm => (hnone others hperm).trans h.symm⟩

theorem settles_iff :
    (∀ others, others.Perm entitlements →
        entitlementReason request timeWindowDays others field = reason) ↔
      Settles request timeWindowDays entitlements field reason := by
  unfold Settles
  by_cases hnil : entitlements = []
  · rw [if_pos hnil, hnil]
    simp only [List.perm_nil, forall_eq]
    exact eq_comm
  have hsome : ∀ {others : List DataAccessEntitlementPolicy},
      others.Perm entitlements → others ≠ [] := by
    rintro others hperm rfl
    exact hnil (List.nil_perm.mp hperm)
  rw [if_neg hnil]
  cases hworkspace : request.workspaceId with
  | none =>
    have hreason : ∀ others, others.Perm entitlements →
        entitlementReason request timeWindowDays others field =
          some .workspaceEntitlementDefaultDeny := by
      intro others hperm
      simp [entitlementReason, evaluateWorkspaceEntitlement, hsome hperm, hworkspace]
    exact ⟨fun h => (h entitlements .rfl).symm.trans (hreason entitlements .rfl),
      fun h others hperm => (hreason others hperm).trans h.symm⟩
  | some workspaceId =>
    dsimp only
    by_cases hname : workspaceId = ""
    · have hreason : ∀ others, others.Perm entitlements →
          entitlementReason request timeWindowDays others field =
            some .workspaceEntitlementDefaultDeny := by
        intro others hperm
        simp [entitlementReason, evaluateWorkspaceEntitlement, hsome hperm, hworkspace, hname]
      rw [if_pos hname]
      exact ⟨fun h => (h entitlements .rfl).symm.trans (hreason entitlements .rfl),
        fun h others hperm => (hreason others hperm).trans h.symm⟩
    rw [if_neg hname]
    exact workspaceSettles_iff hsome hworkspace hname

end Entitlements

def withLists (policy : DataAccessPolicy) (fieldPolicies : List DataAccessFieldPolicy)
    (entitlementPolicies : List DataAccessEntitlementPolicy) : DataAccessPolicy :=
  { policy with
    fieldPolicies := fieldPolicies
    entitlementPolicies := entitlementPolicies }

def PolicyOrderFree (dateParse : String → Option Int) (request : DataAccessRequest)
    (policy : DataAccessPolicy) : Prop :=
  ∀ fieldPolicies entitlementPolicies,
    fieldPolicies.Perm policy.fieldPolicies →
      entitlementPolicies.Perm policy.entitlementPolicies →
        SameDecision (evaluateDataAccessRequest dateParse request policy)
          (evaluateDataAccessRequest dateParse request
            (withLists policy fieldPolicies entitlementPolicies))

def PolicySettles (dateParse : String → Option Int) (request : DataAccessRequest)
    (policy : DataAccessPolicy) : Prop :=
  policy.channels request.channel = .approved →
    ∀ field ∈ normalizeFields request.requestedFields,
      FieldPoliciesGrant request policy field →
        ∃ reason, Settles request (calculateWindowDays dateParse request.timeRange)
          policy.entitlementPolicies field reason

theorem fieldReason_of_grant (hchannel : policy.channels request.channel = .approved)
    (hgrant : FieldPoliciesGrant request policy field) :
    fieldReason dateParse request policy field =
      entitlementReason request (calculateWindowDays dateParse request.timeRange)
        policy.entitlementPolicies field := by
  have hstatus : fieldStatusOf request policy field = .approved :=
    fieldStatus_eq_approved.mpr hgrant
  rw [fieldReason, if_pos hchannel, deniedReason, ← fieldStatusOf, if_pos hstatus,
    evaluateWorkspaceEntitlement_eq]

theorem fieldReason_of_not_grant
    (hchannels : policy.channels request.channel = other.channels request.channel)
    (hperm : policy.fieldPolicies.Perm other.fieldPolicies)
    (hnot : ¬(policy.channels request.channel = .approved ∧
      FieldPoliciesGrant request policy field)) :
    fieldReason dateParse request policy field = fieldReason dateParse request other field := by
  have hstatus : fieldStatusOf request policy field = fieldStatusOf request other field :=
    fieldStatusOf_perm hperm
  rw [fieldReason, fieldReason, ← hchannels]
  split
  · next hchannel =>
      have hdenied : fieldStatusOf request policy field ≠ .approved :=
        fun happroved => hnot ⟨hchannel, fieldStatus_eq_approved.mp happroved⟩
      rw [deniedReason, deniedReason, ← fieldStatusOf, ← fieldStatusOf, ← hstatus,
        if_neg hdenied, if_neg hdenied]
  · rfl

theorem policyOrderFree_iff (dateParse : String → Option Int) (request : DataAccessRequest)
    (policy : DataAccessPolicy) :
    PolicyOrderFree dateParse request policy ↔ PolicySettles dateParse request policy := by
  have hlimits : ∀ fieldPolicies entitlementPolicies,
      limitErrorOf dateParse request policy =
        limitErrorOf dateParse request (withLists policy fieldPolicies entitlementPolicies) :=
    fun _ _ => rfl
  constructor
  · intro h hchannel field hfield hgrant
    refine ⟨fieldReason dateParse request policy field, settles_iff.mp fun others hperm => ?_⟩
    have hsame := (sameDecision_iff (hlimits _ _)).mp
      (h policy.fieldPolicies others .rfl hperm) field hfield
    rw [hsame]
    have hother : FieldPoliciesGrant request (withLists policy policy.fieldPolicies others) field :=
      hgrant
    have hother' : (withLists policy policy.fieldPolicies others).channels request.channel =
        .approved := hchannel
    exact (fieldReason_of_grant hother' hother).symm
  · intro h fieldPolicies entitlementPolicies hfieldPerm hperm
    refine (sameDecision_iff (hlimits _ _)).mpr fun field hfield => ?_
    by_cases hgrant : policy.channels request.channel = .approved ∧
        FieldPoliciesGrant request policy field
    · obtain ⟨reason, hsettles⟩ := h hgrant.1 field hfield hgrant.2
      have hall := settles_iff.mpr hsettles
      have hother : FieldPoliciesGrant request
          (withLists policy fieldPolicies entitlementPolicies) field := by
        have hmem := hgrant.2
        unfold FieldPoliciesGrant withLists at *
        simpa only [hfieldPerm.mem_iff] using hmem
      have hother' : (withLists policy fieldPolicies entitlementPolicies).channels
          request.channel = .approved := hgrant.1
      rw [fieldReason_of_grant hgrant.1 hgrant.2, hall _ .rfl]
      exact ((fieldReason_of_grant hother' hother).trans (hall _ hperm)).symm
    · exact fieldReason_of_not_grant rfl hfieldPerm.symm hgrant

end Aiphabee.DataAccess
