import Aiphabee.DataAccess.EntitlementSoundness
import Aiphabee.DataAccess.PolicyOrder

/-!
# The order of the entitlement rows

The policy of entitlement rows joins each workspace entitlement to the last data
entitlement and to the last active subscription under its identifiers.  Over all orders
of the rows these can be any choice of one row for each identifier.

So the decision of a request is the same for all orders of the rows exactly when the
entitlements under all such choices settle the same for each field (`rowOrderFree_iff`).
-/

namespace Aiphabee.DataAccess

open LookupOrder
open ServingStore (normalizeFields)

variable {dateParse : String → Option Int}
variable {request : DataAccessRequest}
variable {input other : EntitlementPolicySourceInput}

/-- The rows of the second input are those of the first in another order. -/
structure RowsReordered (input other : EntitlementPolicySourceInput) : Prop where
  asOf : other.asOf = input.asOf
  dataEntitlements : other.dataEntitlements.Perm input.dataEntitlements
  subscriptionRows :
    (other.subscriptionRows.getD []).Perm (input.subscriptionRows.getD [])
  workspaceEntitlements : other.workspaceEntitlements.Perm input.workspaceEntitlements

def planUnder (subscriptionPick : String → Option WorkspaceSubscriptionRow)
    (entitlement : WorkspaceEntitlementRow) : String :=
  match entitlement.subscriptionId with
  | none => "*"
  | some subscriptionId =>
    ((subscriptionPick subscriptionId).map
      WorkspaceSubscriptionRow.planCode).getD "subscription_unresolved"

def policyUnder (subscriptionPick : String → Option WorkspaceSubscriptionRow)
    (workspaceEntitlement : WorkspaceEntitlementRow) (dataEntitlement : DataEntitlementRow) :
    DataAccessEntitlementPolicy where
  channel := dataEntitlement.channel
  dataset := dataEntitlement.dataset
  exportAllowed := dataEntitlement.exportAllowed
  fieldPattern := dataEntitlement.fieldPattern
  maxWindowDays := dataEntitlement.timeRangeDays
  plan := planUnder subscriptionPick workspaceEntitlement
  status := combineEntitlementStatuses dataEntitlement.status workspaceEntitlement.status
  workspaceId := workspaceEntitlement.workspaceId

def policiesUnder (rows : List WorkspaceEntitlementRow)
    (dataPick : String → Option DataEntitlementRow)
    (subscriptionPick : String → Option WorkspaceSubscriptionRow) :
    List DataAccessEntitlementPolicy :=
  rows.filterMap fun workspaceEntitlement =>
    (dataPick workspaceEntitlement.entitlementId).map
      (policyUnder subscriptionPick workspaceEntitlement)

abbrev DataPick (input : EntitlementPolicySourceInput)
    (dataPick : String → Option DataEntitlementRow) : Prop :=
  Picks DataEntitlementRow.entitlementId input.dataEntitlements dataPick

abbrev SubscriptionPick (dateParse : String → Option Int) (input : EntitlementPolicySourceInput)
    (subscriptionPick : String → Option WorkspaceSubscriptionRow) : Prop :=
  Picks WorkspaceSubscriptionRow.subscriptionId (activeSubscriptions dateParse input)
    subscriptionPick

theorem entitlementPoliciesOf_eq :
    entitlementPoliciesOf dateParse input =
      policiesUnder (activeWorkspaceEntitlements dateParse input)
        (last DataEntitlementRow.entitlementId input.dataEntitlements)
        (last WorkspaceSubscriptionRow.subscriptionId
          (activeSubscriptions dateParse input)) :=
  rfl

theorem activeSubscriptions_perm (dateParse : String → Option Int) (h : RowsReordered input other) :
    (activeSubscriptions dateParse other).Perm (activeSubscriptions dateParse input) := by
  unfold activeSubscriptions
  rw [h.asOf]
  exact h.subscriptionRows.filter _

theorem activeWorkspaceEntitlements_perm (dateParse : String → Option Int)
    (h : RowsReordered input other) :
    (activeWorkspaceEntitlements dateParse other).Perm
      (activeWorkspaceEntitlements dateParse input) := by
  unfold activeWorkspaceEntitlements
  rw [h.asOf]
  exact h.workspaceEntitlements.filter _

theorem activeDataEntitlements_perm (dateParse : String → Option Int)
    (h : RowsReordered input other) :
    (activeDataEntitlements dateParse other).Perm (activeDataEntitlements dateParse input) := by
  have hids := (activeWorkspaceEntitlements_perm dateParse h).map
    WorkspaceEntitlementRow.entitlementId
  unfold activeDataEntitlements
  simp only [hids.mem_iff]
  exact h.dataEntitlements.filter _

theorem channels_approved_iff (channel : DataAccessChannel) :
    (createPolicyFromEntitlementRows dateParse input).policy.channels channel = .approved ↔
      ∃ data ∈ activeDataEntitlements dateParse input,
        data.status = .approved ∧ data.channel = channel := by
  constructor
  · intro h
    have hmem : channel ∈
        ((((activeDataEntitlements dateParse input).map fieldPolicyOf).filter
            fun entry => entry.status = .approved).map DataAccessFieldPolicy.channel) ++
          (((entitlementPoliciesOf dateParse input).filter
            fun entry => entry.status = .approved).map DataAccessEntitlementPolicy.channel) := by
      by_contra hnot
      exact absurd ((if_neg hnot).symm.trans h) (by decide)
    rcases List.mem_append.mp hmem with hfield | hentitlement
    · obtain ⟨entry, hentry, hchannel⟩ := List.mem_map.mp hfield
      obtain ⟨hentry, hstatus⟩ := List.mem_filter.mp hentry
      obtain ⟨data, hdata, rfl⟩ := List.mem_map.mp hentry
      exact ⟨data, hdata, of_decide_eq_true hstatus, hchannel⟩
    · obtain ⟨entry, hentry, hchannel⟩ := List.mem_map.mp hentitlement
      obtain ⟨hentry, hstatus⟩ := List.mem_filter.mp hentry
      obtain ⟨row, hrow, data, hdata, rfl⟩ := mem_entitlementPoliciesOf.mp hentry
      have hboth : (entitlementPolicyOf dateParse input row data).status = .approved :=
        of_decide_eq_true hstatus
      rw [entitlementPolicyOf_status, combineEntitlementStatuses_eq_approved] at hboth
      exact ⟨data, entitlementById_active hrow hdata, hboth.1, hchannel⟩
  · rintro ⟨data, hdata, hstatus, rfl⟩
    exact if_pos (List.mem_append_left _ (List.mem_map.mpr ⟨fieldPolicyOf data,
      List.mem_filter.mpr ⟨List.mem_map_of_mem hdata, decide_eq_true hstatus⟩, rfl⟩))

theorem channels_eq (h : RowsReordered input other) (channel : DataAccessChannel) :
    (createPolicyFromEntitlementRows dateParse input).policy.channels channel =
      (createPolicyFromEntitlementRows dateParse other).policy.channels channel := by
  have hperm := activeDataEntitlements_perm dateParse h
  have hiff : (createPolicyFromEntitlementRows dateParse input).policy.channels channel =
        .approved ↔
      (createPolicyFromEntitlementRows dateParse other).policy.channels channel = .approved := by
    rw [channels_approved_iff, channels_approved_iff]
    simp only [hperm.mem_iff]
  have htwo : ∀ input : EntitlementPolicySourceInput,
      (createPolicyFromEntitlementRows dateParse input).policy.channels channel = .approved ∨
        (createPolicyFromEntitlementRows dateParse input).policy.channels channel =
          .defaultDeny := by
    intro input
    exact ite_eq_or_eq _ _ _
  rcases htwo input with hleft | hleft
  · rw [hleft, hiff.mp hleft]
  · rcases htwo other with hright | hright
    · rw [hiff.mpr hright, hright]
    · rw [hleft, hright]

theorem fieldPolicies_perm (dateParse : String → Option Int) (h : RowsReordered input other) :
    (createPolicyFromEntitlementRows dateParse input).policy.fieldPolicies.Perm
      (createPolicyFromEntitlementRows dateParse other).policy.fieldPolicies :=
  ((activeDataEntitlements_perm dateParse h).symm.map fieldPolicyOf)

def RowOrderFree (dateParse : String → Option Int) (request : DataAccessRequest)
    (input : EntitlementPolicySourceInput) : Prop :=
  ∀ other, RowsReordered input other →
    SameDecision
      (evaluateDataAccessRequest dateParse request
        (createPolicyFromEntitlementRows dateParse input).policy)
      (evaluateDataAccessRequest dateParse request
        (createPolicyFromEntitlementRows dateParse other).policy)

def RowsSettle (dateParse : String → Option Int) (request : DataAccessRequest)
    (input : EntitlementPolicySourceInput) : Prop :=
  (createPolicyFromEntitlementRows dateParse input).policy.channels request.channel = .approved →
    ∀ field ∈ normalizeFields request.requestedFields,
      FieldPoliciesGrant request (createPolicyFromEntitlementRows dateParse input).policy field →
        ∃ reason, ∀ dataPick subscriptionPick,
          DataPick input dataPick → SubscriptionPick dateParse input subscriptionPick →
            Settles request (calculateWindowDays dateParse request.timeRange)
              (policiesUnder (activeWorkspaceEntitlements dateParse input) dataPick
                subscriptionPick) field reason

/-- Any choice of rows, and any order of what it makes, comes from an order of the rows. -/
theorem exists_reordered {dataPick : String → Option DataEntitlementRow}
    {subscriptionPick : String → Option WorkspaceSubscriptionRow}
    {policies : List DataAccessEntitlementPolicy} (hdata : DataPick input dataPick)
    (hsubscription : SubscriptionPick dateParse input subscriptionPick)
    (hperm : policies.Perm (policiesUnder (activeWorkspaceEntitlements dateParse input) dataPick
      subscriptionPick)) :
    ∃ other, RowsReordered input other ∧ entitlementPoliciesOf dateParse other = policies := by
  obtain ⟨dataRows, hdataPerm, hdataLast⟩ := exists_perm_last hdata
  obtain ⟨active, hactivePerm, hactiveLast⟩ := exists_perm_last hsubscription
  obtain ⟨subscriptions, hsubscriptionPerm, hsubscriptionActive⟩ :=
    exists_perm_filter hactivePerm
  obtain ⟨activeRows, hrowsPerm, hrows⟩ := exists_perm_filterMap hperm
  obtain ⟨rows, hallPerm, hallActive⟩ := exists_perm_filter hrowsPerm
  refine ⟨
    { asOf := input.asOf
      dataEntitlements := dataRows
      subscriptionRows := some subscriptions
      workspaceEntitlements := rows }, ⟨rfl, hdataPerm, hsubscriptionPerm, hallPerm⟩, ?_⟩
  rw [entitlementPoliciesOf_eq, activeWorkspaceEntitlements, activeSubscriptions]
  dsimp only [Option.getD_some]
  rw [hdataLast, hallActive, hsubscriptionActive, hactiveLast]
  exact hrows

/-- All orders of the rows lead to one decision exactly when the fields are settled. -/
theorem rowOrderFree_iff (dateParse : String → Option Int) (request : DataAccessRequest)
    (input : EntitlementPolicySourceInput) :
    RowOrderFree dateParse request input ↔ RowsSettle dateParse request input := by
  have hlimits : ∀ other, limitErrorOf dateParse request
        (createPolicyFromEntitlementRows dateParse input).policy =
      limitErrorOf dateParse request (createPolicyFromEntitlementRows dateParse other).policy :=
    fun _ => rfl
  have hgrants : ∀ {other field}, RowsReordered input other →
      FieldPoliciesGrant request (createPolicyFromEntitlementRows dateParse input).policy field →
        FieldPoliciesGrant request
          (createPolicyFromEntitlementRows dateParse other).policy field := by
    intro other field hother hgrant
    have hperm := fieldPolicies_perm dateParse hother
    unfold FieldPoliciesGrant at hgrant ⊢
    simpa only [hperm.mem_iff] using hgrant
  constructor
  · intro h hchannel field hfield hgrant
    refine ⟨fieldReason dateParse request
      (createPolicyFromEntitlementRows dateParse input).policy field,
      fun dataPick subscriptionPick hdata hsubscription => settles_iff.mp fun policies hperm => ?_⟩
    obtain ⟨other, hother, hpolicies⟩ := exists_reordered hdata hsubscription hperm
    have hsame := (sameDecision_iff (hlimits other)).mp (h other hother) field hfield
    rw [channels_eq hother] at hchannel
    rw [hsame, fieldReason_of_grant hchannel (hgrants hother hgrant), ← hpolicies]
    rfl
  · intro h other hother
    refine (sameDecision_iff (hlimits other)).mpr fun field hfield => ?_
    by_cases hgrant : (createPolicyFromEntitlementRows dateParse input).policy.channels
          request.channel = .approved ∧
        FieldPoliciesGrant request (createPolicyFromEntitlementRows dateParse input).policy field
    · obtain ⟨reason, hsettles⟩ := h hgrant.1 field hfield hgrant.2
      have hchannel := hgrant.1
      rw [channels_eq hother] at hchannel
      have hown := settles_iff.mpr (hsettles _ _
        (picks_last _ .rfl) (picks_last _ .rfl)) _ .rfl
      have hothers := settles_iff.mpr (hsettles _ _
        (picks_last _ hother.dataEntitlements)
        (picks_last _ (activeSubscriptions_perm dateParse hother))) _
        ((activeWorkspaceEntitlements_perm dateParse hother).filterMap _)
      rw [fieldReason_of_grant hgrant.1 hgrant.2,
        fieldReason_of_grant hchannel (hgrants hother hgrant.2)]
      exact hown.trans hothers.symm
    · exact fieldReason_of_not_grant (channels_eq hother _) (fieldPolicies_perm dateParse hother)
        hgrant

/-- No order of the policies, and none of the rows, makes a difference exactly when the
entitlements settle each field. -/
theorem decisions_orderFree_iff (dateParse : String → Option Int) (request : DataAccessRequest)
    (policy : DataAccessPolicy) (input : EntitlementPolicySourceInput) :
    (PolicyOrderFree dateParse request policy ↔ PolicySettles dateParse request policy) ∧
      (RowOrderFree dateParse request input ↔ RowsSettle dateParse request input) :=
  ⟨policyOrderFree_iff dateParse request policy, rowOrderFree_iff dateParse request input⟩

def exportOneField : DataAccessRequest where
  channel := .export
  dataset := "quotes"
  exportRequested := true
  plan := "team"
  qualityState := .PASS
  requestedFields := ["close"]
  requestedRows := .ofNat 1
  workspaceId := some "ws_1"

def closeEntitlement (exportAllowed : Bool) : DataAccessEntitlementPolicy where
  channel := .export
  dataset := "quotes"
  exportAllowed := exportAllowed
  fieldPattern := "close"
  plan := "*"
  status := .approved
  workspaceId := "ws_1"

def twoRightsPolicy : DataAccessPolicy :=
  { defaultDataAccessPolicy with
    channels := fun _ => .approved
    entitlementPolicies := [closeEntitlement true, closeEntitlement false]
    fieldPolicies := [{ channel := .export, field := "close", status := .approved }] }

/-- The field is allowed in one order of the entitlements and denied in the other. -/
theorem twoRights_ordered :
    ¬PolicyOrderFree (fun _ => none) exportOneField twoRightsPolicy := by
  intro h
  have hsame := h twoRightsPolicy.fieldPolicies [closeEntitlement false, closeEntitlement true]
    .rfl (List.Perm.swap _ _ _)
  have hlimits : limitErrorOf (fun _ => none) exportOneField twoRightsPolicy =
      limitErrorOf (fun _ => none) exportOneField (withLists twoRightsPolicy
        twoRightsPolicy.fieldPolicies [closeEntitlement false, closeEntitlement true]) := rfl
  have hfield : "close" ∈ normalizeFields exportOneField.requestedFields :=
    ServingStore.mem_normalizeFields.mpr ⟨List.mem_cons_self, by decide⟩
  have hreason := (sameDecision_iff hlimits).mp hsame "close" hfield
  revert hreason
  decide +kernel

end Aiphabee.DataAccess
