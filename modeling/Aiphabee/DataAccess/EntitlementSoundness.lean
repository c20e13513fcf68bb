import Aiphabee.DataAccess.EntitlementRows
import Aiphabee.DataAccess.FieldGrants

/-!
# When entitlement rows are compiled soundly

A field that a request is allowed under the policy of some rows should be one to which
its own workspace is entitled on its plan.  The subscription of a workspace entitlement
is looked up by its identifier alone, and a plan without a subscription has a name like
any other.  `entitlementSound_iff` says for which rows and requests this goes well.
-/

namespace Aiphabee.DataAccess

variable (dateParse : String → Option Int)
variable (input : EntitlementPolicySourceInput)
variable (request : DataAccessRequest)

def DataEntitlementRow.appliesTo (entitlement : DataEntitlementRow) (request : DataAccessRequest)
    (field : String) : Bool :=
  entitlement.dataset = request.dataset && entitlement.channel = request.channel &&
    matchesFieldPattern entitlement.fieldPattern field

def OfWorkspace (row : WorkspaceEntitlementRow) : Prop :=
  row ∈ activeWorkspaceEntitlements dateParse input ∧
    request.workspaceId = some row.workspaceId

def OwnPlan (row : WorkspaceEntitlementRow) : Prop :=
  ∀ subscriptionId, row.subscriptionId = some subscriptionId →
    ∃ subscription ∈ activeSubscriptions dateParse input,
      subscription.subscriptionId = subscriptionId ∧
      subscription.workspaceId = row.workspaceId ∧
      subscription.planCode = request.plan

def HasData (field : String) (row : WorkspaceEntitlementRow) (data : DataEntitlementRow) : Prop :=
  data ∈ input.dataEntitlements ∧ data.entitlementId = row.entitlementId ∧
    data.appliesTo request field = true

def Entitled (field : String) : Prop :=
  ∃ row data, OfWorkspace dateParse input request row ∧ row.status = .approved ∧
    HasData input request field row data ∧ data.status = .approved ∧
    OwnPlan dateParse input request row

def BlockedField (field : String) : Prop :=
  ∃ row data, OfWorkspace dateParse input request row ∧ HasData input request field row data ∧
    (row.status = .blocked ∨ data.status = .blocked) ∧ OwnPlan dateParse input request row

def EntitlementSound : Prop :=
  ∀ field ∈ (evaluateDataAccessRequest dateParse request
      (createPolicyFromEntitlementRows dateParse input).policy).allowedFields,
    Entitled dateParse input request field ∧ ¬BlockedField dateParse input request field

section Rows

def resolvesToPlan (row : WorkspaceEntitlementRow) : Bool :=
  getPlanCode dateParse input row = "*" || getPlanCode dateParse input row = request.plan

variable (field : String)

def approvesRow (row : WorkspaceEntitlementRow) : Bool :=
  request.workspaceId = some row.workspaceId && resolvesToPlan dateParse input request row &&
    row.status = .approved &&
    (entitlementById input row.entitlementId).any fun data =>
      data.appliesTo request field && data.status = .approved

def approvingRow : Option WorkspaceEntitlementRow :=
  (activeWorkspaceEntitlements dateParse input).find? (approvesRow dateParse input request field)

structure LetsThrough (field : String) : Prop where
  named : field ∈ request.requestedFields
  nonempty : field ≠ ""
  workspace : request.workspaceId ≠ some ""
  /-- No data entitlement that a valid row of any workspace names blocks the field. -/
  dataFree : ∀ data ∈ activeDataEntitlements dateParse input,
    data.appliesTo request field = true → data.status ≠ .blocked
  /-- No row of the workspace whose plan code is the requested one blocks the field. -/
  rowsFree : ∀ row data, OfWorkspace dateParse input request row →
    entitlementById input row.entitlementId = some data → data.appliesTo request field = true →
    resolvesToPlan dateParse input request row = true → row.status ≠ .blocked
  approved : ∃ row data, approvingRow dateParse input request field = some row ∧
    entitlementById input row.entitlementId = some data ∧
    (request.exportRequested = true → data.exportAllowed = true) ∧
    exceedsWindow (calculateWindowDays dateParse request.timeRange) data.timeRangeDays = false

/-- The join gives a row another plan than the requested one, or another data entitlement. -/
def JoinedElsewhere (row : WorkspaceEntitlementRow) (data : DataEntitlementRow) : Prop :=
  resolvesToPlan dateParse input request row = false ∨
    entitlementById input row.entitlementId ≠ some data

def OnlyForeignPlans : Prop :=
  (∀ row ∈ activeWorkspaceEntitlements dateParse input,
    approvesRow dateParse input request field row = true →
      ¬OwnPlan dateParse input request row) ∧
  ∀ row data, OfWorkspace dateParse input request row → row.status = .approved →
    HasData input request field row data → data.status = .approved →
    JoinedElsewhere dateParse input request row data → ¬OwnPlan dateParse input request row

def HiddenBlock : Prop :=
  ∃ row data, OfWorkspace dateParse input request row ∧ row.status = .blocked ∧
    HasData input request field row data ∧ OwnPlan dateParse input request row ∧
    JoinedElsewhere dateParse input request row data

end Rows

variable {dateParse : String → Option Int}
variable {input : EntitlementPolicySourceInput}
variable {request : DataAccessRequest}
variable {field : String}

section Joins

theorem lastWithKey_isSome {Row : Type} {key : Row → String} {rows : List Row} {row : Row}
    (h : row ∈ rows) : ∃ found, lastWithKey key rows (key row) = some found := by
  refine Option.isSome_iff_exists.mp (List.find?_isSome.mpr ⟨row, List.mem_reverse.mpr h, ?_⟩)
  exact decide_eq_true rfl

theorem lastWithKey_spec {Row : Type} {key : Row → String} {rows : List Row} {name : String}
    {row : Row} (h : lastWithKey key rows name = some row) : row ∈ rows ∧ key row = name :=
  ⟨List.mem_reverse.mp (List.mem_of_find?_eq_some h), by simpa using List.find?_some h⟩

variable {data : DataEntitlementRow}

theorem mem_activeDataEntitlements :
    data ∈ activeDataEntitlements dateParse input ↔
      data ∈ input.dataEntitlements ∧
        ∃ row ∈ activeWorkspaceEntitlements dateParse input,
          data.entitlementId = row.entitlementId := by
  rw [activeDataEntitlements, List.mem_filter]
  simp [eq_comm]

theorem entitlementById_active {row : WorkspaceEntitlementRow}
    (hrow : row ∈ activeWorkspaceEntitlements dateParse input)
    (h : entitlementById input row.entitlementId = some data) :
    data ∈ activeDataEntitlements dateParse input := by
  obtain ⟨hdata, hid⟩ := lastWithKey_spec h
  exact mem_activeDataEntitlements.mpr ⟨hdata, row, hrow, hid⟩

theorem mem_entitlementPoliciesOf {entitlement : DataAccessEntitlementPolicy} :
    entitlement ∈ entitlementPoliciesOf dateParse input ↔
      ∃ row ∈ activeWorkspaceEntitlements dateParse input, ∃ data,
        entitlementById input row.entitlementId = some data ∧
          entitlementPolicyOf dateParse input row data = entitlement := by
  simp only [entitlementPoliciesOf, List.mem_filterMap, Option.map_eq_some_iff]

end Joins

section Compiled

variable {dataStatus workspaceStatus : DataAccessFieldStatus}

theorem combineEntitlementStatuses_eq_approved :
    combineEntitlementStatuses dataStatus workspaceStatus = .approved ↔
      dataStatus = .approved ∧ workspaceStatus = .approved := by
  cases dataStatus <;> cases workspaceStatus <;> decide

theorem combineEntitlementStatuses_eq_blocked :
    combineEntitlementStatuses dataStatus workspaceStatus = .blocked ↔
      dataStatus = .blocked ∨ workspaceStatus = .blocked := by
  cases dataStatus <;> cases workspaceStatus <;> decide

theorem fieldPolicyOf_appliesTo (data : DataEntitlementRow) :
    (fieldPolicyOf data).appliesTo request field = data.appliesTo request field := by
  change (decide (data.channel = request.channel) &&
    matchesFieldPattern data.fieldPattern field &&
    decide (data.dataset = request.dataset) && true) = data.appliesTo request field
  rw [DataEntitlementRow.appliesTo, Bool.and_true, Bool.and_right_comm, Bool.and_comm
    (decide (data.channel = request.channel))]

theorem entitlementPolicyOf_appliesTo (row : WorkspaceEntitlementRow) (data : DataEntitlementRow)
    (workspaceId : String) :
    (entitlementPolicyOf dateParse input row data).appliesTo request workspaceId field = true ↔
      row.workspaceId = workspaceId ∧ resolvesToPlan dateParse input request row = true ∧
        data.appliesTo request field = true := by
  change (decide (row.workspaceId = workspaceId) && resolvesToPlan dateParse input request row &&
    decide (data.dataset = request.dataset) && decide (data.channel = request.channel) &&
    matchesFieldPattern data.fieldPattern field) = true ↔ _
  simp only [DataEntitlementRow.appliesTo, Bool.and_eq_true, decide_eq_true_eq, and_assoc]

theorem entitlementPolicyOf_status (row : WorkspaceEntitlementRow) (data : DataEntitlementRow) :
    (entitlementPolicyOf dateParse input row data).status =
      combineEntitlementStatuses data.status row.status :=
  rfl

theorem approvedEntitlement_compiled {workspaceId : String}
    (hworkspace : request.workspaceId = some workspaceId) :
    approvedEntitlement request (createPolicyFromEntitlementRows dateParse input).policy
        workspaceId field =
      (approvingRow dateParse input request field).bind fun row =>
        (entitlementById input row.entitlementId).map
          (entitlementPolicyOf dateParse input row) := by
  have hpolicies : (createPolicyFromEntitlementRows dateParse input).policy.entitlementPolicies =
      entitlementPoliciesOf dateParse input := rfl
  rw [approvedEntitlement, matchingEntitlements, List.find?_filter, hpolicies,
    entitlementPoliciesOf, List.find?_filterMap, approvingRow]
  congr 2
  funext row
  rw [Bool.eq_iff_iff, approvesRow, hworkspace]
  cases entitlementById input row.entitlementId with
  | none => simp
  | some data =>
    simp only [Option.map_some, Option.any_some, Bool.and_eq_true,
      entitlementPolicyOf_appliesTo, decide_eq_true_eq, entitlementPolicyOf_status,
      combineEntitlementStatuses_eq_approved, Option.some.injEq]
    constructor
    · rintro ⟨⟨hrow, hplan, hdata⟩, hstatus, hrowStatus⟩
      exact ⟨⟨⟨hrow.symm, hplan⟩, hrowStatus⟩, hdata, hstatus⟩
    · rintro ⟨⟨⟨hrow, hplan⟩, hrowStatus⟩, hdata, hstatus⟩
      exact ⟨⟨hrow.symm, hplan, hdata⟩, hstatus, hrowStatus⟩

theorem fieldPoliciesGrant_compiled :
    FieldPoliciesGrant request (createPolicyFromEntitlementRows dateParse input).policy field ↔
      (∃ data ∈ activeDataEntitlements dateParse input, data.appliesTo request field = true ∧
        data.status = .approved) ∧
      ∀ data ∈ activeDataEntitlements dateParse input, data.appliesTo request field = true →
        data.status ≠ .blocked := by
  have hpolicies : (createPolicyFromEntitlementRows dateParse input).policy.fieldPolicies =
      (activeDataEntitlements dateParse input).map fieldPolicyOf := rfl
  rw [FieldPoliciesGrant, hpolicies]
  simp only [List.mem_map, exists_exists_and_eq_and, forall_exists_index, and_imp,
    forall_apply_eq_imp_iff₂, fieldPolicyOf_appliesTo]
  rfl

theorem channels_compiled {data : DataEntitlementRow}
    (hdata : data ∈ activeDataEntitlements dateParse input) (hstatus : data.status = .approved)
    (hchannel : data.channel = request.channel) :
    (createPolicyFromEntitlementRows dateParse input).policy.channels request.channel =
      .approved := by
  refine if_pos (List.mem_append_left _ (List.mem_map.mpr ⟨fieldPolicyOf data,
    List.mem_filter.mpr ⟨List.mem_map_of_mem hdata, decide_eq_true hstatus⟩, hchannel⟩))

theorem entitlementPolicies_ne_nil {data : DataEntitlementRow}
    (hdata : data ∈ activeDataEntitlements dateParse input) :
    (createPolicyFromEntitlementRows dateParse input).policy.entitlementPolicies ≠ [] := by
  obtain ⟨hmem, row, hrow, hid⟩ := mem_activeDataEntitlements.mp hdata
  obtain ⟨found, hfound⟩ := @lastWithKey_isSome _ DataEntitlementRow.entitlementId _ _ hmem
  rw [hid] at hfound
  exact List.ne_nil_of_mem (mem_entitlementPoliciesOf.mpr ⟨row, hrow, found, hfound, rfl⟩)

theorem entitlementPolicies_free {workspaceId : String}
    (hworkspace : request.workspaceId = some workspaceId)
    (hdata : ∀ data ∈ activeDataEntitlements dateParse input,
      data.appliesTo request field = true → data.status ≠ .blocked) :
    (∀ entitlement ∈
        (createPolicyFromEntitlementRows dateParse input).policy.entitlementPolicies,
      entitlement.appliesTo request workspaceId field = true → entitlement.status ≠ .blocked) ↔
    ∀ row data, OfWorkspace dateParse input request row →
      entitlementById input row.entitlementId = some data →
      data.appliesTo request field = true →
      resolvesToPlan dateParse input request row = true → row.status ≠ .blocked := by
  constructor
  · rintro h row data ⟨hrow, hof⟩ hfound happlies hplan hblocked
    obtain rfl := Option.some.inj (hworkspace.symm.trans hof)
    exact h _ (mem_entitlementPoliciesOf.mpr ⟨row, hrow, data, hfound, rfl⟩)
      ((entitlementPolicyOf_appliesTo row data _).mpr ⟨rfl, hplan, happlies⟩)
      (combineEntitlementStatuses_eq_blocked.mpr (Or.inr hblocked))
  · intro h entitlement hentitlement happlies hblocked
    obtain ⟨row, hrow, data, hfound, rfl⟩ := mem_entitlementPoliciesOf.mp hentitlement
    obtain ⟨hof, hplan, happlies⟩ :=
      (entitlementPolicyOf_appliesTo row data workspaceId).mp happlies
    rcases combineEntitlementStatuses_eq_blocked.mp hblocked with hdataBlocked | hrowBlocked
    · exact hdata data (entitlementById_active hrow hfound) happlies hdataBlocked
    · exact h row data ⟨hrow, hworkspace.trans (congrArg some hof.symm)⟩ hfound happlies hplan
        hrowBlocked

end Compiled

section Soundness

variable {row : WorkspaceEntitlementRow}

theorem approvesRow_iff :
    approvesRow dateParse input request field row = true ↔
      request.workspaceId = some row.workspaceId ∧
        resolvesToPlan dateParse input request row = true ∧ row.status = .approved ∧
        ∃ data, entitlementById input row.entitlementId = some data ∧
          data.appliesTo request field = true ∧ data.status = .approved := by
  rw [approvesRow]
  cases entitlementById input row.entitlementId with
  | none => simp
  | some data => simp [and_assoc]

theorem approvingRow_spec (h : approvingRow dateParse input request field = some row)
    {data : DataEntitlementRow} (hfound : entitlementById input row.entitlementId = some data) :
    OfWorkspace dateParse input request row ∧ row.status = .approved ∧
      data.appliesTo request field = true ∧ data.status = .approved := by
  obtain ⟨hworkspace, _, hstatus, other, hother, happlies, hdata⟩ :=
    approvesRow_iff.mp (List.find?_some h)
  obtain rfl := Option.some.inj (hother.symm.trans hfound)
  exact ⟨⟨List.mem_of_find?_eq_some h, hworkspace⟩, hstatus, happlies, hdata⟩

theorem grantedField_iff_letsThrough :
    GrantedField dateParse request (createPolicyFromEntitlementRows dateParse input).policy field ↔
      LetsThrough dateParse input request field := by
  constructor
  · rintro ⟨hnamed, hnonempty, _, hfields, hentitlements⟩
    obtain ⟨⟨data, hdata, _⟩, hfree⟩ := fieldPoliciesGrant_compiled.mp hfields
    rcases hentitlements with hempty | ⟨workspaceId, hworkspace, hne, hrows, entitlement, hfound,
      hexport, hwindow⟩
    · exact absurd hempty (entitlementPolicies_ne_nil hdata)
    rw [approvedEntitlement_compiled hworkspace] at hfound
    obtain ⟨row, hrow, hpolicy⟩ := Option.bind_eq_some_iff.mp hfound
    obtain ⟨own, hown, rfl⟩ := Option.map_eq_some_iff.mp hpolicy
    exact
      { named := hnamed
        nonempty := hnonempty
        workspace := fun h => hne (Option.some.inj (hworkspace.symm.trans h))
        dataFree := hfree
        rowsFree := (entitlementPolicies_free hworkspace hfree).mp hrows
        approved := ⟨row, own, hrow, hown, hexport, hwindow⟩ }
  · intro h
    obtain ⟨row, data, hrow, hfound, hexport, hwindow⟩ := h.approved
    obtain ⟨⟨hactive, hworkspace⟩, hstatus, happlies, hdataStatus⟩ := approvingRow_spec hrow hfound
    have hdata := entitlementById_active hactive hfound
    have hchannel : data.channel = request.channel := by
      simp only [DataEntitlementRow.appliesTo, Bool.and_eq_true, decide_eq_true_eq] at happlies
      exact happlies.1.2
    refine ⟨h.named, h.nonempty, channels_compiled hdata hdataStatus hchannel,
      fieldPoliciesGrant_compiled.mpr ⟨⟨data, hdata, happlies, hdataStatus⟩, h.dataFree⟩,
      Or.inr ⟨row.workspaceId, hworkspace, ?_, ?_, entitlementPolicyOf dateParse input row data,
        ?_, hexport, hwindow⟩⟩
    · intro hempty
      exact h.workspace (hworkspace.trans (congrArg some hempty))
    · exact (entitlementPolicies_free hworkspace h.dataFree).mpr h.rowsFree
    · rw [approvedEntitlement_compiled hworkspace, hrow, Option.bind_some, hfound]
      rfl

theorem not_joinedElsewhere {data : DataEntitlementRow}
    (h : ¬JoinedElsewhere dateParse input request row data) :
    resolvesToPlan dateParse input request row = true ∧
      entitlementById input row.entitlementId = some data := by
  simp only [JoinedElsewhere, not_or, Bool.not_eq_false, ne_eq, not_not] at h
  exact h

theorem entitled_iff :
    Entitled dateParse input request field ↔ ¬OnlyForeignPlans dateParse input request field := by
  constructor
  · rintro ⟨row, data, hof, hstatus, hhas, hdata, hown⟩ ⟨hforeign, helsewhere⟩
    by_cases hjoined : JoinedElsewhere dateParse input request row data
    · exact helsewhere row data hof hstatus hhas hdata hjoined hown
    · obtain ⟨hplan, hfound⟩ := not_joinedElsewhere hjoined
      exact hforeign row hof.1
        (approvesRow_iff.mpr ⟨hof.2, hplan, hstatus, data, hfound, hhas.2.2, hdata⟩) hown
  · intro h
    by_contra hnot
    refine h ⟨fun row hrow happroves hown => ?_, fun row data hof hstatus hhas hdata _ hown =>
      hnot ⟨row, data, hof, hstatus, hhas, hdata, hown⟩⟩
    obtain ⟨hworkspace, _, hstatus, data, hfound, happlies, hdata⟩ := approvesRow_iff.mp happroves
    obtain ⟨hmem, hid⟩ := lastWithKey_spec hfound
    exact hnot ⟨row, data, ⟨hrow, hworkspace⟩, hstatus, ⟨hmem, hid, happlies⟩, hdata, hown⟩

/-- A field that the rows let through is blocked exactly by a row that is joined to something else.
-/
theorem blockedField_iff (h : LetsThrough dateParse input request field) :
    BlockedField dateParse input request field ↔ HiddenBlock dateParse input request field := by
  constructor
  · rintro ⟨row, data, hof, hhas, hblocked, hown⟩
    have hrow : row.status = .blocked := by
      refine hblocked.resolve_right fun hdata => ?_
      exact h.dataFree data (mem_activeDataEntitlements.mpr ⟨hhas.1, row, hof.1, hhas.2.1⟩)
        hhas.2.2 hdata
    refine ⟨row, data, hof, hrow, hhas, hown, ?_⟩
    by_contra hnot
    obtain ⟨hplan, hfound⟩ := not_joinedElsewhere hnot
    exact h.rowsFree row data hof hfound hhas.2.2 hplan hrow
  · rintro ⟨row, data, hof, hrow, hhas, hown, _⟩
    exact ⟨row, data, hof, hhas, Or.inl hrow, hown⟩

theorem entitlementSound_of_letsThrough
    (h : ∀ field, LetsThrough dateParse input request field →
      ¬OnlyForeignPlans dateParse input request field ∧
        ¬HiddenBlock dateParse input request field) :
    EntitlementSound dateParse input request := by
  intro field hfield
  have hthrough := grantedField_iff_letsThrough.mp (mem_allowedFields.mp hfield).2
  obtain ⟨hforeign, hhidden⟩ := h field hthrough
  exact ⟨entitled_iff.mpr hforeign, mt (blockedField_iff hthrough).mp hhidden⟩

/--
A request is allowed only what its workspace is entitled to exactly when quality rules
hold the data, or no field is let through on foreign plans alone or past a hidden block.
-/
theorem entitlementSound_iff (dateParse : String → Option Int)
    (input : EntitlementPolicySourceInput) (request : DataAccessRequest) :
    EntitlementSound dateParse input request ↔
      request.qualityState.isBlocked ∨
        ∀ field, LetsThrough dateParse input request field →
          ¬OnlyForeignPlans dateParse input request field ∧
            ¬HiddenBlock dateParse input request field := by
  constructor
  · intro h
    by_cases hquality : request.qualityState.isBlocked
    · exact Or.inl hquality
    refine Or.inr fun field hthrough => ?_
    obtain ⟨hentitled, hfree⟩ := h field
      (mem_allowedFields.mpr ⟨hquality, grantedField_iff_letsThrough.mpr hthrough⟩)
    exact ⟨entitled_iff.mp hentitled, mt (blockedField_iff hthrough).mpr hfree⟩
  · rintro (hquality | hrows)
    · intro field hfield
      exact absurd hquality (mem_allowedFields.mp hfield).1
    · exact entitlementSound_of_letsThrough hrows

/-- The instants of two timestamps. -/
def exampleDates (text : String) : Option Int :=
  if text = "2026-01-01T00:00:00.000Z" then some 1767225600000
  else if text = "2026-06-22T00:00:00.000Z" then some 1782086400000
  else none

/-- A row of one workspace that names the subscription of another one. -/
def foreignSubscriptionRows : EntitlementPolicySourceInput where
  asOf := "2026-06-22T00:00:00.000Z"
  dataEntitlements :=
    [{ channel := .web
       dataset := "quote_snapshot"
       entitlementId := "entitlement_1"
       exportAllowed := false
       fieldPattern := "quote_snapshot.*"
       rightsPolicyVersion := "rights-v1"
       sourceRecordId := "record_1"
       status := .approved }]
  subscriptionRows := some
    [{ billingState := .active
       planCode := "pro"
       subscriptionId := "subscription_b"
       validFrom := "2026-01-01T00:00:00.000Z"
       workspaceId := "workspace_b" }]
  workspaceEntitlements :=
    [{ entitlementId := "entitlement_1"
       sourceRecordId := "record_2"
       status := .approved
       subscriptionId := some "subscription_b"
       validFrom := "2026-01-01T00:00:00.000Z"
       workspaceEntitlementId := "workspace_entitlement_1"
       workspaceId := "workspace_a" }]

def foreignPlanRequest : DataAccessRequest where
  channel := .web
  dataset := "quote_snapshot"
  plan := "pro"
  qualityState := .PASS
  requestedFields := ["quote_snapshot.last_price"]
  requestedRows := .ofNat 1
  workspaceId := some "workspace_a"

/-- The plan of another workspace's subscription lets a field through. -/
theorem foreignSubscription_lets_through :
    ¬EntitlementSound exampleDates foreignSubscriptionRows foreignPlanRequest := by
  intro h
  have hgranted : GrantedField exampleDates foreignPlanRequest
      (createPolicyFromEntitlementRows exampleDates foreignSubscriptionRows).policy
      "quote_snapshot.last_price" :=
    ⟨List.mem_cons_self, by decide, by decide +kernel,
      ⟨⟨_, List.mem_cons_self, by decide +kernel, rfl⟩, by decide +kernel⟩,
      Or.inr ⟨"workspace_a", rfl, by decide, by decide +kernel, _, rfl, by decide +kernel, rfl⟩⟩
  obtain ⟨⟨row, data, ⟨hrow, _⟩, _, _, _, hown⟩, _⟩ :=
    h _ (mem_allowedFields.mpr ⟨by decide, hgranted⟩)
  obtain rfl := List.mem_singleton.mp (List.mem_of_mem_filter hrow)
  obtain ⟨subscription, hsubscription, _, hworkspace, _⟩ := hown _ rfl
  obtain rfl := List.mem_singleton.mp (List.mem_of_mem_filter hsubscription)
  exact absurd hworkspace (by decide)

end Soundness

end Aiphabee.DataAccess
