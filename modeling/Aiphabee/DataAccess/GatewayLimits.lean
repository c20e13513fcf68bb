import Aiphabee.DataAccess.FieldGrants

/-!
# When the limits of the gateway are closed

A decision that serves rows has to stay within the limits, and one that denies has
to give nothing away.  The limits are checked apart from the fields, and a count that
is below zero or no date at all passes them; `failClosed_iff` says which requests and
policies are decided as they should be.
-/

namespace Aiphabee.DataAccess

variable {dateParse : String → Option Int}
variable {request : DataAccessRequest}
variable {policy : DataAccessPolicy}

def WindowWithin (dateParse : String → Option Int) (range : ServingStore.TimeRange)
    (limit : JsNumber) : Prop :=
  ∃ start stop, dateParse (range.start ++ "T00:00:00Z") = some start ∧
    dateParse (range.stop ++ "T00:00:00Z") = some stop ∧ start ≤ stop ∧
    (windowDays start stop).le limit = true

def ApprovesField (request : DataAccessRequest) (policy : DataAccessPolicy) (field : String)
    (entitlement : DataAccessEntitlementPolicy) : Prop :=
  ∃ workspaceId, request.workspaceId = some workspaceId ∧
    approvedEntitlement request policy workspaceId field = some entitlement

structure FailClosed
    (dateParse : String → Option Int)
    (request : DataAccessRequest)
    (policy : DataAccessPolicy)
    (decision : DataAccessDecision) : Prop where
  rows : decision.status.isAllowed →
    JsNumber.zero.le decision.limits.servedRows = true ∧
      decision.limits.servedRows.le (request.requestedRows.min policy.maxRows) = true
  window : decision.status.isAllowed → ∀ range, request.timeRange = some range →
    WindowWithin dateParse range policy.maxWindowDays ∧
      ∀ field ∈ decision.allowedFields, ∀ entitlement,
        ApprovesField request policy field entitlement →
        ∀ limit, entitlement.maxWindowDays = some limit → WindowWithin dateParse range limit
  denied : decision.status = .deny ∨ decision.status = .quality_hold →
    decision.allowedFields = [] ∧
      decision.limits.servedRows = .zero ∧
      decision.usage.credits = .zero ∧
      decision.usageLedger.ledgerEntry.creditDelta = .zero ∧
      decision.servingSqlText.sqlText = none

structure WithinLimits
    (dateParse : String → Option Int)
    (request : DataAccessRequest)
    (policy : DataAccessPolicy) : Prop where
  atLeastZero : JsNumber.zero.le request.requestedRows = true
  atMostLimit : request.requestedRows.le policy.maxRows = true
  window : ∀ range, request.timeRange = some range →
    WindowWithin dateParse range policy.maxWindowDays
  /-- The limits of the entitlements are numbers where there is a window to compare. -/
  numbers : request.timeRange ≠ none → ∀ field, GrantedField dateParse request policy field →
    ∀ entitlement, ApprovesField request policy field entitlement →
      entitlement.maxWindowDays ≠ some .nan

section Numbers

theorem windowDays_ne_nan (start stop : Int) : windowDays start stop ≠ .nan := by
  rw [windowDays, JsNumber.sub, JsNumber.neg, JsNumber.add]
  cases hdifference : JsNumber.nearest ((stop : ℚ) + -(start : ℚ)) with
  | nan => exact absurd hdifference (JsNumber.nearest_ne_nan _)
  | infinity negative => simp [JsNumber.overCount, JsNumber.floor, JsNumber.add, JsNumber.ofNat]
  | finite value =>
    rw [JsNumber.overCount]
    cases hquotient : JsNumber.nearest (value / (86400000 : Nat)) with
    | nan => exact absurd hquotient (JsNumber.nearest_ne_nan _)
    | infinity negative => simp [JsNumber.floor, JsNumber.add, JsNumber.ofNat]
    | finite quotient => exact JsNumber.nearest_ne_nan _

theorem le_of_not_exceedsWindow {start stop : Int} {limit : JsNumber} (hlimit : limit ≠ .nan)
    (h : exceedsWindow (some (windowDays start stop)) (some limit) = false) :
    (windowDays start stop).le limit = true := by
  by_contra hle
  have hlt := JsNumber.lt_of_not_le (windowDays_ne_nan start stop) hlimit
    (Bool.eq_false_iff.mpr hle)
  exact absurd (h.symm.trans hlt) (by decide)

theorem not_exceedsWindow_of_le {days limit : JsNumber} (h : days.le limit = true) :
    exceedsWindow (some days) (some limit) = false := by
  simp [exceedsWindow, JsNumber.lt, h]

variable {a b : JsNumber}

/-- What is at most a number is no greater than it. -/
theorem lt_eq_false_of_le (h : a.le b = true) : JsNumber.lt b a = false := by
  simp [JsNumber.lt, h]

/-- When the smaller of two counts is at least zero, and the second is not below the first. -/
theorem le_of_zero_le_min (hmin : JsNumber.zero.le (a.min b) = true)
    (hlt : JsNumber.lt b a = false) : JsNumber.zero.le a = true ∧ a.le b = true := by
  have ha : a ≠ .nan := by
    rintro rfl
    cases hmin
  have hb : b ≠ .nan := by
    rintro rfl
    cases a <;> cases hmin
  have hle : a.le b = true := by
    by_contra hnot
    exact absurd (hlt.symm.trans (JsNumber.lt_of_not_le ha hb (Bool.eq_false_iff.mpr hnot)))
      (by decide)
  refine ⟨?_, hle⟩
  have hsame : a.min b = a := by
    cases a <;> cases b <;> simp_all [JsNumber.min]
  rwa [hsame] at hmin

theorem le_self_of_le (h : a.le b = true) : a.le a = true := by
  cases a with
  | nan => cases h
  | infinity negative => cases negative <;> rfl
  | finite value => simp [JsNumber.le]

/-- A count within a limit is the smaller one of the two. -/
theorem min_eq_of_le (h : a.le b = true) : a.min b = a := by
  cases a <;> cases b <;> simp_all [JsNumber.min, JsNumber.le]

end Numbers

theorem allowedFields_ne_nil :
    (fieldDecisionOf dateParse request policy).allowedFields ≠ [] ↔
      ∃ field, GrantedField dateParse request policy field := by
  rw [← exists_congr fun field => mem_fieldDecision]
  exact ⟨List.exists_mem_of_ne_nil _, fun ⟨_, hfield⟩ => List.ne_nil_of_mem hfield⟩

theorem decision_isAllowed_iff :
    (evaluateDataAccessRequest dateParse request policy).status.isAllowed ↔
      ¬request.qualityState.isBlocked ∧ limitErrorOf dateParse request policy = none ∧
        ∃ field, GrantedField dateParse request policy field := by
  rw [← allowedFields_ne_nil, decision_status, ServingStore.ServingReadGatewayStatus.isAllowed]
  by_cases hquality : request.qualityState.isBlocked
  · simp [hquality]
  cases limitErrorOf dateParse request policy with
  | some error => simp [hquality]
  | none =>
    rw [getDecisionStatus]
    by_cases hempty : (fieldDecisionOf dateParse request policy).allowedFields = []
    · simp [hquality, hempty]
    · by_cases hdenied : (fieldDecisionOf dateParse request policy).deniedFields = [] <;>
        simp [hquality, hempty, hdenied]

theorem isAllowed_or_denied (status : DataAccessDecisionStatus) :
    status.isAllowed ∨ status = .deny ∨ status = .quality_hold := by
  cases status <;> decide

theorem not_isAllowed_of_denied {status : DataAccessDecisionStatus}
    (h : status = .deny ∨ status = .quality_hold) : ¬status.isAllowed := by
  rcases h with rfl | rfl <;> decide

theorem servedRows_of_isAllowed
    (h : (evaluateDataAccessRequest dateParse request policy).status.isAllowed) :
    (evaluateDataAccessRequest dateParse request policy).limits.servedRows =
      request.requestedRows.min policy.maxRows := by
  obtain ⟨hquality, hlimit, hgranted⟩ := decision_isAllowed_iff.mp h
  have hfields := allowedFields_ne_nil.mpr hgranted
  change servedRowsOf request policy (limitErrorOf dateParse request policy)
    (getQualityError request.qualityState)
    (fieldDecisionOf dateParse request policy).allowedFields = _
  simp [servedRowsOf, hlimit, getQualityError, hquality, hfields]

theorem servedRows_of_not_isAllowed
    (h : ¬(evaluateDataAccessRequest dateParse request policy).status.isAllowed) :
    (evaluateDataAccessRequest dateParse request policy).limits.servedRows = .zero := by
  change servedRowsOf request policy (limitErrorOf dateParse request policy)
    (getQualityError request.qualityState)
    (fieldDecisionOf dateParse request policy).allowedFields = _
  rw [servedRowsOf, if_pos]
  by_contra hnot
  simp only [not_or, Bool.not_eq_true, Option.isSome_eq_false_iff, Option.isNone_iff_eq_none]
    at hnot
  obtain ⟨hlimit, hquality, hfields⟩ := hnot
  refine h (decision_isAllowed_iff.mpr
    ⟨fun hblocked => ?_, hlimit, allowedFields_ne_nil.mp hfields⟩)
  rw [getQualityError, if_pos hblocked] at hquality
  cases hquality

theorem credits_of_not_isAllowed
    (h : ¬(evaluateDataAccessRequest dateParse request policy).status.isAllowed) :
    (evaluateDataAccessRequest dateParse request policy).usage.credits = .zero := by
  have hcredits : (evaluateDataAccessRequest dateParse request policy).usage.credits =
      if JsNumber.lt .zero
        (evaluateDataAccessRequest dateParse request policy).limits.servedRows then .ofNat 1
      else .zero := rfl
  rw [hcredits, servedRows_of_not_isAllowed h]
  decide +kernel

theorem sqlText_of_not_isAllowed
    (h : ¬(evaluateDataAccessRequest dateParse request policy).status.isAllowed) :
    (evaluateDataAccessRequest dateParse request policy).servingSqlText.sqlText = none := by
  refine ((ServingStore.statement_of_queryPlan
    (evaluateDataAccessRequest dateParse request policy).servingQuery).2 fun hplanned => ?_).1
  have hread := ((ServingStore.createServingQueryPlan_planned _).mp hplanned).1
  exact h ((ServingStore.createServingReadPlan_planned _).mp hread).1

/-- A request that is allowed nothing gives nothing away, if it is granted nothing or held. -/
theorem denied_of_no_fields
    (h : ¬(evaluateDataAccessRequest dateParse request policy).status.isAllowed)
    (hfields : request.qualityState.isBlocked ∨
      ∀ field, ¬GrantedField dateParse request policy field) :
    (evaluateDataAccessRequest dateParse request policy).allowedFields = [] ∧
      (evaluateDataAccessRequest dateParse request policy).limits.servedRows = .zero ∧
      (evaluateDataAccessRequest dateParse request policy).usage.credits = .zero ∧
      (evaluateDataAccessRequest dateParse request policy).usageLedger.ledgerEntry.creditDelta =
        .zero ∧
      (evaluateDataAccessRequest dateParse request policy).servingSqlText.sqlText = none := by
  refine ⟨List.eq_nil_iff_forall_not_mem.mpr fun field hfield => ?_,
    servedRows_of_not_isAllowed h, credits_of_not_isAllowed h, credits_of_not_isAllowed h,
    sqlText_of_not_isAllowed h⟩
  obtain ⟨hquality, hgranted⟩ := mem_allowedFields.mp hfield
  exact hfields.elim hquality fun hnone => hnone field hgranted

theorem limitErrorOf_of_withinLimits (h : WithinLimits dateParse request policy) :
    limitErrorOf dateParse request policy = none := by
  rw [limitErrorOf, getLimitError, lt_eq_false_of_le h.atMostLimit]
  have hwindow : exceedsWindow (calculateWindowDays dateParse request.timeRange)
      (some policy.maxWindowDays) = false := by
    cases hrange : request.timeRange with
    | none => rfl
    | some range =>
      obtain ⟨start, stop, hstart, hstop, _, hle⟩ := h.window range hrange
      rw [calculateWindowDays]
      simp only [hstart, hstop]
      exact not_exceedsWindow_of_le hle
  simp [hwindow]

theorem window_of_withinLimits (h : WithinLimits dateParse request policy)
    {range : ServingStore.TimeRange} (hrange : request.timeRange = some range) {field : String}
    (hgranted : GrantedField dateParse request policy field)
    {entitlement : DataAccessEntitlementPolicy}
    (happroves : ApprovesField request policy field entitlement) {limit : JsNumber}
    (hlimit : entitlement.maxWindowDays = some limit) : WindowWithin dateParse range limit := by
  obtain ⟨start, stop, hstart, hstop, horder, _⟩ := h.window range hrange
  refine ⟨start, stop, hstart, hstop, horder, le_of_not_exceedsWindow ?_ ?_⟩
  · intro hnan
    rw [hnan] at hlimit
    exact h.numbers (by rw [hrange]; exact Option.some_ne_none range) field hgranted entitlement
      happroves hlimit
  · obtain ⟨workspaceId, hworkspace, happroved⟩ := happroves
    obtain ⟨_, _, _, _, hgrants⟩ := hgranted
    rcases hgrants with hempty | ⟨otherId, hother, _, _, other, hfound, _, hpasses⟩
    · rw [approvedEntitlement, matchingEntitlements, hempty] at happroved
      cases happroved
    · obtain rfl := Option.some.inj (hworkspace.symm.trans hother)
      obtain rfl := Option.some.inj (happroved.symm.trans hfound)
      rw [hlimit, hrange, calculateWindowDays] at hpasses
      simpa only [hstart, hstop] using hpasses

/-- A decision keeps to the limits exactly when its request does, or has no field to serve. -/
theorem failClosed_iff (dateParse : String → Option Int) (request : DataAccessRequest)
    (policy : DataAccessPolicy) :
    FailClosed dateParse request policy (evaluateDataAccessRequest dateParse request policy) ↔
      request.qualityState.isBlocked ∨
        (∀ field, ¬GrantedField dateParse request policy field) ∨
        WithinLimits dateParse request policy := by
  constructor
  · intro h
    by_contra hnot
    simp only [not_or, not_forall, not_not] at hnot
    obtain ⟨hquality, ⟨field, hgranted⟩, hlimits⟩ := hnot
    have hfield := mem_allowedFields.mpr ⟨hquality, hgranted⟩
    rcases isAllowed_or_denied
        (evaluateDataAccessRequest dateParse request policy).status with hallowed | hdenied
    · obtain ⟨hzero, hmin⟩ := h.rows hallowed
      rw [servedRows_of_isAllowed hallowed] at hzero
      have hlimitError := (decision_isAllowed_iff.mp hallowed).2.1
      have hlt : JsNumber.lt policy.maxRows request.requestedRows = false := by
        by_contra hlt
        rw [limitErrorOf, getLimitError, if_pos (Bool.not_eq_false _ ▸ hlt)] at hlimitError
        cases hlimitError
      obtain ⟨hleast, hmost⟩ := le_of_zero_le_min hzero hlt
      refine hlimits
        { atLeastZero := hleast
          atMostLimit := hmost
          window := fun range hrange => (h.window hallowed range hrange).1
          numbers := fun hsome other hother entitlement happroves hnan => ?_ }
      obtain ⟨range, hrange⟩ := Option.ne_none_iff_exists'.mp hsome
      obtain ⟨_, _, _, _, _, hle⟩ := (h.window hallowed range hrange).2 other
        (mem_allowedFields.mpr ⟨hquality, hother⟩) entitlement happroves _ hnan
      revert hle
      cases windowDays _ _ <;> simp [JsNumber.le]
    · rw [(h.denied hdenied).1] at hfield
      cases hfield
  · intro hcondition
    have hwithin : ∀ field, (evaluateDataAccessRequest dateParse request policy).status.isAllowed →
        GrantedField dateParse request policy field → WithinLimits dateParse request policy := by
      intro field hallowed hgranted
      rcases hcondition with hquality | hnone | hlimits
      · exact absurd hquality (decision_isAllowed_iff.mp hallowed).1
      · exact absurd hgranted (hnone field)
      · exact hlimits
    refine
      { rows := fun hallowed => ?_
        window := fun hallowed range hrange => ?_
        denied := fun hdenied =>
          denied_of_no_fields (not_isAllowed_of_denied hdenied) ?_ }
    · obtain ⟨_, _, field, hgranted⟩ := decision_isAllowed_iff.mp hallowed
      have hlimits := hwithin field hallowed hgranted
      rw [servedRows_of_isAllowed hallowed, min_eq_of_le hlimits.atMostLimit]
      exact ⟨hlimits.atLeastZero, le_self_of_le hlimits.atMostLimit⟩
    · obtain ⟨_, _, field, hgranted⟩ := decision_isAllowed_iff.mp hallowed
      have hlimits := hwithin field hallowed hgranted
      refine ⟨hlimits.window range hrange,
        fun other hother entitlement happroves limit hlimit => ?_⟩
      exact window_of_withinLimits hlimits hrange (mem_allowedFields.mp hother).2 happroves hlimit
    · rcases hcondition with hquality | hnone | hlimits
      · exact Or.inl hquality
      · exact Or.inr hnone
      · by_cases hquality : request.qualityState.isBlocked
        · exact Or.inl hquality
        · refine Or.inr fun field hgranted => not_isAllowed_of_denied hdenied ?_
          exact decision_isAllowed_iff.mpr
            ⟨hquality, limitErrorOf_of_withinLimits hlimits, field, hgranted⟩

/-- A request for one row more than the gateway serves. -/
def tooManyRows : DataAccessRequest where
  channel := .web
  dataset := "synthetic_profile"
  plan := "internal"
  qualityState := .PASS
  requestedFields := ["synthetic_profile.company_name"]
  requestedRows := .ofNat 501

/-- A request that is denied for its rows is still given the fields. -/
theorem tooManyRows_keeps_its_fields :
    ¬FailClosed (fun _ => none) tooManyRows createSyntheticApprovedPolicy
      (evaluateDataAccessRequest (fun _ => none) tooManyRows createSyntheticApprovedPolicy) := by
  intro h
  have hgranted : GrantedField (fun _ => none) tooManyRows createSyntheticApprovedPolicy
      "synthetic_profile.company_name" :=
    ⟨List.mem_cons_self, by decide, rfl,
      ⟨⟨_, List.mem_cons_self, by decide +kernel, rfl⟩, by decide +kernel⟩, Or.inl rfl⟩
  have hfield := mem_allowedFields.mpr ⟨by decide, hgranted⟩
  have hstatus : (evaluateDataAccessRequest (fun _ => none) tooManyRows
      createSyntheticApprovedPolicy).status = .deny := by
    rw [decision_status]
    decide +kernel
  rw [(h.denied (Or.inl hstatus)).1] at hfield
  cases hfield

end Aiphabee.DataAccess
