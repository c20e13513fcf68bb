import Aiphabee.Sharing.PrivateShare

/-!
# Shares do not expand rights

The fields of a share are among those that either party is allowed alone, and what the
creator is entitled to changes nothing of what the recipient is allowed.  A share that
is blocked for the limits of the policy is the exception to the last promise: the
gateway denies such a request but still names the fields, and the share keeps those
that both parties were granted (`noRightsExpansion_iff`).
-/

namespace Aiphabee.PrivateSharing

open DataAccess

variable {dateParse : String → Option Int}
variable {input : PrivateShareLinkPlanInput}
variable {policy more : DataAccessPolicy}
variable {party : ShareParty}
variable {plan : PrivateShareLinkPlan}
variable {field : String}

def partyRequest (input : PrivateShareLinkPlanInput) (party : ShareParty) : DataAccessRequest :=
  exportRequestOf (exportInputOf input party)

def decisionAlone (dateParse : String → Option Int) (input : PrivateShareLinkPlanInput)
    (policy : DataAccessPolicy) (party : ShareParty) : DataAccessDecision :=
  evaluateDataAccessRequest dateParse (partyRequest input party) policy

structure MoreEntitlements
    (workspaceId : Option String)
    (policy more : DataAccessPolicy) : Prop where
  same : more = { policy with entitlementPolicies := more.entitlementPolicies }
  kept : policy.entitlementPolicies.Sublist more.entitlementPolicies
  others : (more.entitlementPolicies.filter fun entry => some entry.workspaceId ≠ workspaceId) =
    policy.entitlementPolicies.filter fun entry => some entry.workspaceId ≠ workspaceId

def withCreator (input : PrivateShareLinkPlanInput) (creatorPlan : Option String)
    (creatorScopes : Option (List String)) : PrivateShareLinkPlanInput :=
  { input with creatorPlan := creatorPlan, creatorScopes := creatorScopes }

structure NoRightsExpansion
    (dateParse : String → Option Int)
    (input : PrivateShareLinkPlanInput)
    (policy : DataAccessPolicy)
    (plan : PrivateShareLinkPlan) : Prop where
  planned : plan.status = .plannedNoWrite →
    plan.accessPolicy.effectiveFields ≠ [] ∧
      ∀ field ∈ plan.accessPolicy.effectiveFields, ∀ party ∈ [input.creator, input.recipient],
        (decisionAlone dateParse input policy party).status.isAllowed ∧
          field ∈ (decisionAlone dateParse input policy party).allowedFields
  recipientRights : ∀ more, MoreEntitlements input.creatorWorkspaceId policy more →
    ∀ creatorPlan creatorScopes other,
      createPrivateShareLinkPlan dateParse (withCreator input creatorPlan creatorScopes) more =
        some other →
      ∀ field ∈ other.accessPolicy.effectiveFields,
        field ∈ (decisionAlone dateParse input more input.recipient).allowedFields ∧
          (input.recipientWorkspaceId ≠ input.creatorWorkspaceId →
            field ∈ (decisionAlone dateParse input policy input.recipient).allowedFields)
  blocked : plan.status ≠ .plannedNoWrite → plan.accessPolicy.effectiveFields = []

/-- Two parties with their scopes ask beyond the limits for a field that both are granted. -/
structure DeniedByLimits
    (dateParse : String → Option Int)
    (input : PrivateShareLinkPlanInput)
    (policy : DataAccessPolicy) : Prop where
  context : requiredContextPresent input = true
  term : expiryWithinLimit input = true
  creatorScope : scopeGranted input.creator = true
  recipientScope : scopeGranted input.recipient = true
  quality : ¬(input.qualityState.getD .PASS).isBlocked
  limits : limitErrorOf dateParse (partyRequest input input.creator) policy ≠ none
  field : ∃ field, GrantedField dateParse (partyRequest input input.creator) policy field ∧
    GrantedField dateParse (partyRequest input input.recipient) policy field

theorem exportAsked_iff :
    ExportAsked (exportInputOf input party) ↔ scopeGranted party = true := by
  have hformat : normalizeRestrictedExportFormat "pdf" ≠ none := by decide
  exact ⟨fun h => h.2, fun h => ⟨hformat, h⟩⟩

theorem mem_partyPlan :
    field ∈ allowedFieldsOf (partyPlan dateParse input policy party) ↔
      (requiredContextPresent input = true ∧ expiryWithinLimit input = true) ∧
        scopeGranted party = true ∧
          field ∈ (decisionAlone dateParse input policy party).allowedFields := by
  rw [partyPlan, allowedFieldsOf, ← Bool.and_eq_true]
  split
  next hcome =>
    simp only [Option.map_some, Option.getD_some, hcome, true_and]
    rw [mem_exportPlan_allowedFields, exportAsked_iff, decisionAlone, partyRequest]
  next hcome => simp [hcome]

theorem partyPlan_planned_iff :
    (partyPlan dateParse input policy party).map RestrictedExportPlan.status =
        some .plannedNoWrite ↔
      (requiredContextPresent input = true ∧ expiryWithinLimit input = true) ∧
        scopeGranted party = true ∧
          (decisionAlone dateParse input policy party).status.isAllowed := by
  rw [partyPlan, ← Bool.and_eq_true]
  split
  next hcome =>
    simp only [Option.map_some, Option.some.injEq, hcome, true_and]
    rw [exportPlan_planned_iff, exportAsked_iff, decisionAlone, partyRequest]
  next hcome => simp [hcome]

theorem mem_effectiveFields :
    field ∈ effectiveFields dateParse input policy ↔
      field ∈ allowedFieldsOf (creatorPlan dateParse input policy) ∧
        field ∈ allowedFieldsOf (recipientPlan dateParse input policy) := by
  rw [effectiveFields, List.mem_filter, List.contains_iff_mem]

theorem mem_decisionAlone :
    field ∈ (decisionAlone dateParse input policy party).allowedFields ↔
      ¬(input.qualityState.getD .PASS).isBlocked ∧
        GrantedField dateParse (partyRequest input party) policy field :=
  mem_allowedFields

/-- The limits are those of the fields that both parties ask for. -/
theorem limitErrorOf_party (left right : ShareParty) :
    limitErrorOf dateParse (partyRequest input left) policy =
      limitErrorOf dateParse (partyRequest input right) policy :=
  rfl

theorem decisionAlone_isAllowed_iff :
    (decisionAlone dateParse input policy party).status.isAllowed ↔
      ¬(input.qualityState.getD .PASS).isBlocked ∧
        limitErrorOf dateParse (partyRequest input input.creator) policy = none ∧
          ∃ field, GrantedField dateParse (partyRequest input party) policy field := by
  rw [limitErrorOf_party input.creator party]
  exact decision_isAllowed_iff

theorem created_spec (h : createPrivateShareLinkPlan dateParse input policy = some plan) :
    plan.status = getPrivateShareStatus dateParse input policy ∧
      plan.accessPolicy.effectiveFields = effectiveFields dateParse input policy := by
  obtain ⟨expiresAt, -, rfl⟩ := Option.map_eq_some_iff.mp h
  exact ⟨rfl, rfl⟩

theorem created_of_expiresAt (policy : DataAccessPolicy)
    (h : (expiresAt dateParse input).isSome = true) :
    ∃ plan, createPrivateShareLinkPlan dateParse input policy = some plan := by
  obtain ⟨text, htext⟩ := Option.isSome_iff_exists.mp h
  exact ⟨_, by rw [createPrivateShareLinkPlan, htext]; rfl⟩

theorem status_planned_iff :
    getPrivateShareStatus dateParse input policy = .plannedNoWrite ↔
      (creatorPlan dateParse input policy).map RestrictedExportPlan.status =
          some .plannedNoWrite ∧
        (recipientPlan dateParse input policy).map RestrictedExportPlan.status =
            some .plannedNoWrite ∧
          effectiveFields dateParse input policy ≠ [] := by
  constructor
  · intro h
    unfold getPrivateShareStatus at h
    split at h
    · cases h
    split at h
    · cases h
    split at h
    · cases h
    split at h
    · cases h
    split at h
    · cases h
    split at h
    · cases h
    next hcreator hrecipient =>
      rw [not_or, not_not] at hrecipient
      exact ⟨not_not.mp hcreator, hrecipient.1, hrecipient.2⟩
  · rintro ⟨hcreator, hrecipient, hfields⟩
    obtain ⟨⟨hcontext, hterm⟩, hcreatorScope, -⟩ := partyPlan_planned_iff.mp hcreator
    obtain ⟨-, hrecipientScope, -⟩ := partyPlan_planned_iff.mp hrecipient
    simp [getPrivateShareStatus, hcontext, hterm, hcreatorScope, hrecipientScope, hcreator,
      hrecipient, hfields]

/-- A field of a share is granted to both parties, who have come far enough to ask for it. -/
theorem mem_effectiveFields_iff :
    field ∈ effectiveFields dateParse input policy ↔
      (requiredContextPresent input = true ∧ expiryWithinLimit input = true) ∧
        scopeGranted input.creator = true ∧ scopeGranted input.recipient = true ∧
          ¬(input.qualityState.getD .PASS).isBlocked ∧
            GrantedField dateParse (partyRequest input input.creator) policy field ∧
              GrantedField dateParse (partyRequest input input.recipient) policy field := by
  rw [mem_effectiveFields, creatorPlan, recipientPlan, mem_partyPlan, mem_partyPlan,
    mem_decisionAlone, mem_decisionAlone]
  tauto

theorem limits_of_blocked (hstatus : getPrivateShareStatus dateParse input policy ≠ .plannedNoWrite)
    (hfield : field ∈ effectiveFields dateParse input policy) :
    DeniedByLimits dateParse input policy := by
  obtain ⟨⟨hcontext, hterm⟩, hcreator, hrecipient, hquality, hcreatorField, hrecipientField⟩ :=
    mem_effectiveFields_iff.mp hfield
  refine ⟨hcontext, hterm, hcreator, hrecipient, hquality, fun hlimit => hstatus ?_,
    field, hcreatorField, hrecipientField⟩
  refine status_planned_iff.mpr ⟨partyPlan_planned_iff.mpr ?_, partyPlan_planned_iff.mpr ?_,
    List.ne_nil_of_mem hfield⟩
  · exact ⟨⟨hcontext, hterm⟩, hcreator,
      decisionAlone_isAllowed_iff.mpr ⟨hquality, hlimit, field, hcreatorField⟩⟩
  · exact ⟨⟨hcontext, hterm⟩, hrecipient,
      decisionAlone_isAllowed_iff.mpr ⟨hquality, hlimit, field, hrecipientField⟩⟩

theorem DeniedByLimits.keeps_field (h : DeniedByLimits dateParse input policy) :
    getPrivateShareStatus dateParse input policy ≠ .plannedNoWrite ∧
      effectiveFields dateParse input policy ≠ [] := by
  obtain ⟨field, hcreator, hrecipient⟩ := h.field
  constructor
  · intro hplanned
    obtain ⟨-, -, hallowed⟩ := partyPlan_planned_iff.mp (status_planned_iff.mp hplanned).1
    exact h.limits (decisionAlone_isAllowed_iff.mp hallowed).2.1
  · exact List.ne_nil_of_mem (mem_effectiveFields_iff.mpr
      ⟨⟨h.context, h.term⟩, h.creatorScope, h.recipientScope, h.quality, hcreator, hrecipient⟩)

section Recipient

variable {workspaceId : Option String}

theorem MoreEntitlements.matching_eq (h : MoreEntitlements workspaceId policy more)
    (request : DataAccessRequest) {own : String} (hown : some own ≠ workspaceId) (field : String) :
    matchingEntitlements request more own field =
      matchingEntitlements request policy own field := by
  have hfilter : ∀ entries : List DataAccessEntitlementPolicy,
      (entries.filter fun entry => entry.appliesTo request own field) =
        (entries.filter fun entry => some entry.workspaceId ≠ workspaceId).filter
          fun entry => entry.appliesTo request own field := by
    intro entries
    rw [List.filter_filter]
    refine List.filter_congr fun entry _ => ?_
    cases happlies : entry.appliesTo request own field with
    | false => simp
    | true =>
      simp only [DataAccessEntitlementPolicy.appliesTo, Bool.and_eq_true, decide_eq_true_eq]
        at happlies
      simp [happlies.1.1.1.1, hown]
  rw [matchingEntitlements, matchingEntitlements, hfilter more.entitlementPolicies, h.others,
    ← hfilter]

theorem MoreEntitlements.grants (h : MoreEntitlements workspaceId policy more)
    {request : DataAccessRequest} (hown : request.workspaceId ≠ workspaceId)
    {timeWindowDays : Option JsNumber} (hgrants : Grants request more timeWindowDays field) :
    Grants request policy timeWindowDays field := by
  obtain ⟨hchannel, hfields, hentitled⟩ := hgrants
  have hsame := h.same
  refine ⟨?_, ?_, ?_⟩
  · rw [hsame] at hchannel
    exact hchannel
  · rw [hsame] at hfields
    exact hfields
  rcases hentitled with hempty | ⟨own, hworkspace, hname, hblocks, entitlement, hfound, hpasses⟩
  · exact Or.inl (List.sublist_nil.mp (hempty ▸ h.kept))
  · have hother : some own ≠ workspaceId := hworkspace ▸ hown
    have hmatching := h.matching_eq request hother field
    refine Or.inr ⟨own, hworkspace, hname, fun entry hentry happlies => ?_, entitlement, ?_,
      hpasses⟩
    · exact hblocks entry (h.kept.subset hentry) happlies
    · rw [approvedEntitlement, ← hmatching]
      exact hfound

theorem recipient_keeps_rights (h : MoreEntitlements input.creatorWorkspaceId policy more)
    (hworkspace : input.recipientWorkspaceId ≠ input.creatorWorkspaceId)
    (hfield : field ∈ (decisionAlone dateParse input more input.recipient).allowedFields) :
    field ∈ (decisionAlone dateParse input policy input.recipient).allowedFields := by
  obtain ⟨hquality, hrequested, hname, hgrants⟩ := mem_decisionAlone.mp hfield
  exact mem_decisionAlone.mpr ⟨hquality, hrequested, hname, h.grants hworkspace hgrants⟩

/-- A share keeps its promise exactly when it is not blocked for the limits alone. -/
theorem noRightsExpansion_iff (h : createPrivateShareLinkPlan dateParse input policy = some plan) :
    NoRightsExpansion dateParse input policy plan ↔ ¬DeniedByLimits dateParse input policy := by
  obtain ⟨hstatus, hfields⟩ := created_spec h
  constructor
  · intro hpromise hdenied
    obtain ⟨hblocked, hkept⟩ := hdenied.keeps_field
    exact hkept (hfields ▸ hpromise.blocked (hstatus ▸ hblocked))
  · intro hlimits
    refine ⟨fun hplanned => ?_, fun more hmore creatorPlan creatorScopes other hother field
      hfield => ?_, fun hblocked => ?_⟩
    · rw [hstatus] at hplanned
      rw [hfields]
      obtain ⟨hcreator, hrecipient, hne⟩ := status_planned_iff.mp hplanned
      refine ⟨hne, fun field hfield party hparty => ?_⟩
      obtain ⟨hcreatorField, hrecipientField⟩ := mem_effectiveFields.mp hfield
      rcases List.mem_pair.mp hparty with rfl | rfl
      · exact ⟨(partyPlan_planned_iff.mp hcreator).2.2, (mem_partyPlan.mp hcreatorField).2.2⟩
      · exact ⟨(partyPlan_planned_iff.mp hrecipient).2.2, (mem_partyPlan.mp hrecipientField).2.2⟩
    · rw [(created_spec hother).2] at hfield
      have hrecipient : field ∈
          (decisionAlone dateParse input more input.recipient).allowedFields :=
        (mem_partyPlan.mp (mem_effectiveFields.mp hfield).2).2.2
      exact ⟨hrecipient, fun hworkspace => recipient_keeps_rights hmore hworkspace hrecipient⟩
    · rw [hstatus] at hblocked
      rw [hfields]
      refine List.eq_nil_iff_forall_not_mem.mpr fun field hfield => ?_
      exact hlimits (limits_of_blocked hblocked hfield)

end Recipient

def tooManyRowsShare : PrivateShareLinkPlanInput where
  creatorAccountId := some "acct_creator"
  creatorScopes := some [privateSharingRequiredScope]
  creatorWorkspaceId := some "ws_creator"
  fields := some ["synthetic_profile.company_name"]
  recipientAccountId := some "acct_recipient"
  recipientScopes := some [privateSharingRequiredScope]
  recipientWorkspaceId := some "ws_recipient"
  requestedRows := some (.ofNat 101)

/-- The platform reads the one date that a share without a date is dated at. -/
def epochOnly (text : String) : Option Int :=
  if text = "1970-01-01T00:00:00.000Z" then some 0 else none

/-- The two workspaces of the shares below, each entitled to one field. -/
def sharePolicy : DataAccessPolicy :=
  createSyntheticPrivateSharePolicy "ws_creator" "ws_recipient"

theorem grantedField_tooManyRowsShare :
    ∀ party ∈ [tooManyRowsShare.creator, tooManyRowsShare.recipient],
      GrantedField epochOnly (partyRequest tooManyRowsShare party) sharePolicy
        "synthetic_profile.company_name" := by
  have hrequested : "synthetic_profile.company_name" ∈
      PrivateSharing.normalizeFields tooManyRowsShare.fields := by
    rw [PrivateSharing.normalizeFields, JsString.sort, (List.mergeSort_perm _ _).mem_iff]
    decide +kernel
  intro party hparty
  refine ⟨hrequested, by decide, rfl, ?_, Or.inr ?_⟩
  · have hgrants : ∀ party ∈ [tooManyRowsShare.creator, tooManyRowsShare.recipient],
        ∀ entry ∈ sharePolicy.fieldPolicies,
          entry.appliesTo (partyRequest tooManyRowsShare party)
              "synthetic_profile.company_name" = true → entry.status ≠ .blocked := by
      decide +kernel
    refine ⟨⟨_, List.mem_cons_self, ?_, rfl⟩, hgrants party hparty⟩
    rcases List.mem_pair.mp hparty with rfl | rfl <;> decide +kernel
  rcases List.mem_pair.mp hparty with rfl | rfl
  · refine ⟨"ws_creator", rfl, by decide, by decide +kernel,
      syntheticShareEntitlement "ws_creator", ?_, fun _ => rfl, rfl⟩
    decide +kernel
  · refine ⟨"ws_recipient", rfl, by decide, by decide +kernel,
      syntheticShareEntitlement "ws_recipient", ?_, fun _ => rfl, rfl⟩
    decide +kernel

/-- The share that is blocked for its rows still names the field. -/
theorem tooManyRowsShare_keeps_field :
    ∃ plan, createPrivateShareLinkPlan epochOnly tooManyRowsShare sharePolicy = some plan ∧
      ¬NoRightsExpansion epochOnly tooManyRowsShare sharePolicy plan := by
  have hends : (expiresAt epochOnly tooManyRowsShare).isSome = true := by decide +kernel
  obtain ⟨plan, hplan⟩ := created_of_expiresAt sharePolicy hends
  refine ⟨plan, hplan, fun hpromise => ?_⟩
  have hdenied : DeniedByLimits epochOnly tooManyRowsShare sharePolicy :=
    { context := by decide +kernel
      term := by decide +kernel
      creatorScope := by decide +kernel
      recipientScope := by decide +kernel
      quality := by decide
      limits := by decide +kernel
      field := ⟨_, grantedField_tooManyRowsShare _ (List.mem_cons_self),
        grantedField_tooManyRowsShare _ (List.mem_cons_of_mem _ List.mem_cons_self)⟩ }
  obtain ⟨hstatus, hfields⟩ := created_spec hplan
  obtain ⟨hblocked, hkept⟩ := hdenied.keeps_field
  exact hkept (hfields ▸ hpromise.blocked (hstatus ▸ hblocked))

/-- The same share over five rows keeps the promise. -/
theorem fiveRowsShare_keeps_promise :
    ∃ plan, createPrivateShareLinkPlan epochOnly
        { tooManyRowsShare with requestedRows := some (.ofNat 5) } sharePolicy = some plan ∧
      NoRightsExpansion epochOnly { tooManyRowsShare with requestedRows := some (.ofNat 5) }
        sharePolicy plan := by
  have hends : (expiresAt epochOnly
      { tooManyRowsShare with requestedRows := some (.ofNat 5) }).isSome = true := by
    decide +kernel
  obtain ⟨plan, hplan⟩ := created_of_expiresAt sharePolicy hends
  exact ⟨plan, hplan, (noRightsExpansion_iff hplan).mpr fun hdenied =>
    hdenied.limits (by decide +kernel)⟩

end Aiphabee.PrivateSharing
