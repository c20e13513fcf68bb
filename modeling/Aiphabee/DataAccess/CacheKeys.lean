import Aiphabee.DataAccess.FieldGrants
import Aiphabee.Text.JoinedFields

/-!
# Cache keys of the gateway

A decision has a cache key: its dimensions as texts, joined with vertical bars.  No part
is escaped, and a part that is missing stands as the word `none`.

So the keys of two requests are the same exactly when their parts have the same pieces
between bars (`cacheKey_eq_iff`).  Requests that differ can have the same pieces, as one
of no workspace and one of the workspace `none` do (`cacheKeys_shared`).  The keys keep
apart all requests whose parts hold no bar, no comma in a field and not the word that
stands for a missing part (`agree_of_plain`).
-/

namespace Aiphabee.DataAccess

open JsString (sort)
open JoinedFields

variable {dateParse : String → Option Int}
variable {request other : DataAccessRequest}
variable {policy otherPolicy : DataAccessPolicy}

def allowedFieldsOf (dateParse : String → Option Int) (request : DataAccessRequest)
    (policy : DataAccessPolicy) : List String :=
  (fieldDecisionOf dateParse request policy).allowedFields

def cacheKeyOf (dateParse : String → Option Int) (request : DataAccessRequest)
    (policy : DataAccessPolicy) : String :=
  createDataAccessCacheKey request policy (allowedFieldsOf dateParse request policy)

variable (fields : List String)

def fieldsText : String :=
  let joined := ",".intercalate (sort fields)
  if joined = "" then "none" else joined

def keyParts (dateParse : String → Option Int) (request : DataAccessRequest)
    (policy : DataAccessPolicy) : List String :=
  ["dag", "dataset=" ++ request.dataset, "channel=" ++ request.channel.text,
    "plan=" ++ request.plan, "workspace=" ++ request.workspaceId.getD "none",
    "export=" ++ (if request.exportRequested then "true" else "false"),
    "fields=" ++ fieldsText (allowedFieldsOf dateParse request policy),
    "data_version=gateway-scaffold-v0", "rights=" ++ policy.rightsPolicyVersion,
    "methodology=" ++ policy.methodologyVersion,
    "from=" ++ (request.timeRange.map ServingStore.TimeRange.start).getD "none",
    "to=" ++ (request.timeRange.map ServingStore.TimeRange.stop).getD "none"]

def keyPieces (dateParse : String → Option Int) (request : DataAccessRequest)
    (policy : DataAccessPolicy) : List (List Char) :=
  pieces '|' ((keyParts dateParse request policy).map String.toList)

theorem cacheKeyOf_eq :
    cacheKeyOf dateParse request policy =
      (String.ofList ['|']).intercalate (keyParts dateParse request policy) := by
  have hbar : String.ofList ['|'] = "|" := rfl
  rw [hbar]
  rfl

theorem cacheKey_eq_iff :
    cacheKeyOf dateParse request policy = cacheKeyOf dateParse other otherPolicy ↔
      keyPieces dateParse request policy = keyPieces dateParse other otherPolicy := by
  rw [cacheKeyOf_eq, cacheKeyOf_eq]
  exact intercalate_texts_eq_iff (List.cons_ne_nil _ _) (List.cons_ne_nil _ _)

/-- Two requests and their policies agree in what a cache key is made of. -/
structure Agree
    (dateParse : String → Option Int)
    (request : DataAccessRequest)
    (policy : DataAccessPolicy)
    (other : DataAccessRequest)
    (otherPolicy : DataAccessPolicy) : Prop where
  dataset : request.dataset = other.dataset
  channel : request.channel = other.channel
  plan : request.plan = other.plan
  workspaceId : request.workspaceId = other.workspaceId
  exportRequested : request.exportRequested = other.exportRequested
  allowedFields : ∀ field, field ∈ allowedFieldsOf dateParse request policy ↔
    field ∈ allowedFieldsOf dateParse other otherPolicy
  rightsPolicyVersion : policy.rightsPolicyVersion = otherPolicy.rightsPolicyVersion
  methodologyVersion : policy.methodologyVersion = otherPolicy.methodologyVersion
  timeRange : request.timeRange = other.timeRange

section PlainParts

/-- A text without bars. -/
def NoBar (text : String) : Prop :=
  '|' ∉ text.toList

/-- A part that may be missing holds no bar and is not the word for a missing part. -/
def PlainPart (part : Option String) : Prop :=
  ∀ text ∈ part, NoBar text ∧ text ≠ "none"

structure Plain
    (dateParse : String → Option Int)
    (request : DataAccessRequest)
    (policy : DataAccessPolicy) : Prop where
  dataset : NoBar request.dataset
  plan : NoBar request.plan
  workspaceId : PlainPart request.workspaceId
  allowedFields : ∀ field ∈ allowedFieldsOf dateParse request policy,
    NoBar field ∧ ',' ∉ field.toList ∧ field ≠ "none"
  rightsPolicyVersion : NoBar policy.rightsPolicyVersion
  methodologyVersion : NoBar policy.methodologyVersion
  timeRange : ∀ range ∈ request.timeRange,
    NoBar range.start ∧ range.start ≠ "none" ∧ NoBar range.stop

theorem NoBar.append {left right : String} (hleft : NoBar left) (hright : NoBar right) :
    NoBar (left ++ right) := by
  rw [NoBar, String.toList_append, List.mem_append, not_or]
  exact ⟨hleft, hright⟩

theorem PlainPart.noBar {part : Option String} (h : PlainPart part) : NoBar (part.getD "none") := by
  cases part with
  | none => unfold NoBar; decide
  | some text => exact (h text rfl).1

theorem PlainPart.eq_of_getD {part part' : Option String} (h : PlainPart part)
    (h' : PlainPart part') (heq : part.getD "none" = part'.getD "none") : part = part' := by
  cases part with
  | none =>
    cases part' with
    | none => rfl
    | some text => exact absurd heq.symm (h' text rfl).2
  | some text =>
    cases part' with
    | none => exact absurd heq (h text rfl).2
    | some text' => exact congrArg some heq

theorem toList_joined :
    (",".intercalate (sort fields)).toList =
      [','].intercalate ((sort fields).map String.toList) :=
  toList_intercalate ',' _

theorem mem_sort {field : String} (fields : List String) :
    field ∈ sort fields ↔ field ∈ fields :=
  (List.mergeSort_perm fields JsString.sortsBefore).mem_iff

/-- The texts that are joined to the text of some fields. -/
def fieldParts : List String :=
  if fields = [] then ["none"] else sort fields

theorem fieldParts_ne_nil : fieldParts fields ≠ [] := by
  unfold fieldParts
  split
  · exact List.cons_ne_nil _ _
  · next hne =>
      obtain ⟨field, hfield⟩ := List.exists_mem_of_ne_nil _ hne
      exact List.ne_nil_of_mem ((mem_sort fields).mpr hfield)

variable {fields : List String}

theorem noComma_fieldParts (h : ∀ field ∈ fields, ',' ∉ field.toList) :
    ∀ chars ∈ (fieldParts fields).map String.toList, ',' ∉ chars := by
  intro chars hchars
  obtain ⟨part, hpart, rfl⟩ := List.mem_map.mp hchars
  unfold fieldParts at hpart
  split at hpart
  · obtain rfl := List.mem_singleton.mp hpart
    decide
  · exact h part ((mem_sort fields).mp hpart)

/-- Fields that are not empty are not taken for missing ones. -/
theorem fieldsText_toList (hcomma : ∀ field ∈ fields, ',' ∉ field.toList)
    (hempty : ∀ field ∈ fields, field ≠ "") :
    (fieldsText fields).toList = [','].intercalate ((fieldParts fields).map String.toList) := by
  by_cases hnil : fields = []
  · have hsort : sort [] = [] := List.mergeSort_nil
    have hjoined : ",".intercalate ([] : List String) = "" := rfl
    rw [hnil, fieldsText, fieldParts, hsort, hjoined, if_pos rfl, if_pos rfl]
    rfl
  · have hparts : fieldParts fields = sort fields := if_neg hnil
    have hjoined : ",".intercalate (sort fields) ≠ "" := by
      intro heq
      have hchars : [','].intercalate ((fieldParts fields).map String.toList) =
          [','].intercalate [[]] := by
        rw [hparts, ← toList_joined, heq]
        rfl
      have hsame := intercalate_inj
        ⟨by simpa using fieldParts_ne_nil fields, noComma_fieldParts hcomma⟩
        ⟨List.cons_ne_nil _ _, by simp⟩ hchars
      have hmem : ([] : List Char) ∈ (fieldParts fields).map String.toList := by simp [hsame]
      obtain ⟨field, hfield, hchars⟩ := List.mem_map.mp hmem
      rw [hparts, mem_sort] at hfield
      exact hempty field hfield (String.toList_injective hchars)
    rw [fieldsText, if_neg hjoined, hparts, toList_joined]

theorem mem_iff_of_fieldsText {fields others : List String}
    (h : ∀ field ∈ fields, ',' ∉ field.toList ∧ field ≠ "none" ∧ field ≠ "")
    (h' : ∀ field ∈ others, ',' ∉ field.toList ∧ field ≠ "none" ∧ field ≠ "")
    (heq : fieldsText fields = fieldsText others) (field : String) :
    field ∈ fields ↔ field ∈ others := by
  have hcomma : ∀ field ∈ fields, ',' ∉ field.toList := fun field hfield => (h field hfield).1
  have hcomma' : ∀ field ∈ others, ',' ∉ field.toList := fun field hfield => (h' field hfield).1
  have hchars := congrArg String.toList heq
  rw [fieldsText_toList hcomma fun field hfield => (h field hfield).2.2,
    fieldsText_toList hcomma' fun field hfield => (h' field hfield).2.2] at hchars
  have hmaps := intercalate_inj
    ⟨by simpa using fieldParts_ne_nil fields, noComma_fieldParts hcomma⟩
    ⟨by simpa using fieldParts_ne_nil others, noComma_fieldParts hcomma'⟩ hchars
  have hparts : fieldParts fields = fieldParts others :=
    List.map_injective_iff.mpr (fun _ _ => String.toList_injective) hmaps
  have hmem : ∀ {left right : List String}, fieldParts left = fieldParts right →
      (∀ field ∈ left, field ≠ "none") → ∀ field, field ∈ left → field ∈ right := by
    intro left right hsame hnone field hfield
    have hleft : left ≠ [] := List.ne_nil_of_mem hfield
    unfold fieldParts at hsame
    rw [if_neg hleft] at hsame
    have hsorted := (mem_sort left).mpr hfield
    rw [hsame] at hsorted
    split at hsorted
    · exact absurd (List.mem_singleton.mp hsorted) (hnone field hfield)
    · exact (mem_sort right).mp hsorted
  exact ⟨hmem hparts (fun field hfield => (h field hfield).2.1) field,
    hmem hparts.symm (fun field hfield => (h' field hfield).2.1) field⟩

theorem allowedFieldsOf_ne_empty {field : String}
    (h : field ∈ allowedFieldsOf dateParse request policy) : field ≠ "" :=
  (mem_fieldDecision.mp h).2.1

theorem noBar_fieldsText (h : ∀ field ∈ fields, NoBar field) : NoBar (fieldsText fields) := by
  unfold fieldsText
  dsimp only
  split
  · unfold NoBar
    decide
  · rw [NoBar, toList_joined]
    intro hmem
    rcases mem_intercalate hmem with hcomma | ⟨chars, hchars, hbar⟩
    · exact absurd hcomma (by decide)
    · obtain ⟨field, hfield, rfl⟩ := List.mem_map.mp hchars
      exact h field ((mem_sort fields).mp hfield) hbar

theorem noBar_keyParts (h : Plain dateParse request policy) :
    ∀ part ∈ keyParts dateParse request policy, NoBar part := by
  have hchannel : NoBar request.channel.text := by
    unfold NoBar
    cases request.channel <;> decide
  have hexport : NoBar (if request.exportRequested then "true" else "false") := by
    unfold NoBar
    split <;> decide
  have hfields := noBar_fieldsText fun field hfield => (h.allowedFields field hfield).1
  have hrange : NoBar ((request.timeRange.map ServingStore.TimeRange.start).getD "none") ∧
      NoBar ((request.timeRange.map ServingStore.TimeRange.stop).getD "none") := by
    cases hrange : request.timeRange with
    | none =>
      unfold NoBar
      decide
    | some range =>
      obtain ⟨hstart, -, hstop⟩ := h.timeRange range hrange
      exact ⟨hstart, hstop⟩
  have hlabel : ∀ label ∈ ["dag", "dataset=", "channel=", "plan=", "workspace=", "export=",
      "fields=", "data_version=gateway-scaffold-v0", "rights=", "methodology=", "from=",
      "to="], NoBar label := by
    unfold NoBar
    decide
  simp only [List.forall_mem_cons] at hlabel
  obtain ⟨hdag, hdataset, hchannelLabel, hplan, hworkspace, hexportLabel, hfieldsLabel, hdata,
    hrights, hmethodology, hfrom, hto, -⟩ := hlabel
  simp only [keyParts, List.forall_mem_cons]
  exact ⟨hdag, hdataset.append h.dataset, hchannelLabel.append hchannel, hplan.append h.plan,
    hworkspace.append h.workspaceId.noBar, hexportLabel.append hexport,
    hfieldsLabel.append hfields, hdata, hrights.append h.rightsPolicyVersion,
    hmethodology.append h.methodologyVersion, hfrom.append hrange.1, hto.append hrange.2,
    fun _ hnone => absurd hnone List.not_mem_nil⟩

theorem channel_of_text {channel channel' : DataAccessChannel} (h : channel.text = channel'.text) :
    channel = channel' := by
  cases channel <;> cases channel' <;> first | rfl | exact absurd h (by decide)

theorem agree_of_plain (hplain : Plain dateParse request policy)
    (hother : Plain dateParse other otherPolicy)
    (hkey : cacheKeyOf dateParse request policy = cacheKeyOf dateParse other otherPolicy) :
    Agree dateParse request policy other otherPolicy := by
  have hchars := congrArg String.toList hkey
  rw [cacheKeyOf_eq, cacheKeyOf_eq, toList_intercalate,
    toList_intercalate] at hchars
  have hnoBar : ∀ {parts : List String}, (∀ part ∈ parts, NoBar part) →
      ∀ chars ∈ parts.map String.toList, '|' ∉ chars := by
    intro parts hparts chars hmem
    obtain ⟨part, hpart, rfl⟩ := List.mem_map.mp hmem
    exact hparts part hpart
  have hmaps := intercalate_inj
    ⟨List.cons_ne_nil _ _, hnoBar (noBar_keyParts hplain)⟩
    ⟨List.cons_ne_nil _ _, hnoBar (noBar_keyParts hother)⟩ hchars
  have hparts : keyParts dateParse request policy = keyParts dateParse other otherPolicy :=
    List.map_injective_iff.mpr (fun _ _ => String.toList_injective) hmaps
  simp only [keyParts, List.cons.injEq, String.append_right_inj, true_and, and_true] at hparts
  obtain ⟨hdataset, hchannel, hplan, hworkspace, hexport, hfields, hrights, hmethodology, hstart,
    hstop⟩ := hparts
  have hfieldsOf : ∀ {request policy}, Plain dateParse request policy →
      ∀ field ∈ allowedFieldsOf dateParse request policy,
        ',' ∉ field.toList ∧ field ≠ "none" ∧ field ≠ "" := by
    intro request policy h field hfield
    exact ⟨(h.allowedFields field hfield).2.1, (h.allowedFields field hfield).2.2,
      allowedFieldsOf_ne_empty hfield⟩
  have hexportSame : request.exportRequested = other.exportRequested := by
    cases hleft : request.exportRequested <;> cases hright : other.exportRequested <;>
      simp [hleft, hright] at hexport ⊢
  have hrange : request.timeRange = other.timeRange := by
    cases hleft : request.timeRange with
    | none =>
      cases hright : other.timeRange with
      | none => rfl
      | some range =>
        simp only [hleft, hright, Option.map_none, Option.getD_none, Option.map_some,
          Option.getD_some] at hstart
        exact absurd hstart.symm (hother.timeRange range hright).2.1
    | some range =>
      cases hright : other.timeRange with
      | none =>
        simp only [hleft, hright, Option.map_none, Option.getD_none, Option.map_some,
          Option.getD_some] at hstart
        exact absurd hstart (hplain.timeRange range hleft).2.1
      | some range' =>
        simp only [hleft, hright, Option.map_some, Option.getD_some] at hstart hstop
        obtain ⟨start, stop⟩ := range
        obtain ⟨start', stop'⟩ := range'
        obtain rfl : start = start' := hstart
        obtain rfl : stop = stop' := hstop
        rfl
  exact {
    dataset := hdataset
    channel := channel_of_text hchannel
    plan := hplan
    workspaceId := hplain.workspaceId.eq_of_getD hother.workspaceId hworkspace
    exportRequested := hexportSame
    allowedFields := mem_iff_of_fieldsText (hfieldsOf hplain) (hfieldsOf hother) hfields
    rightsPolicyVersion := hrights
    methodologyVersion := hmethodology
    timeRange := hrange }

end PlainParts

/-- One key for two requests means that they agree, exactly when they do or their pieces differ;
between plain requests it always does. -/
theorem cacheKeys_isolation (dateParse : String → Option Int) (request : DataAccessRequest)
    (policy : DataAccessPolicy) (other : DataAccessRequest) (otherPolicy : DataAccessPolicy) :
    ((cacheKeyOf dateParse request policy = cacheKeyOf dateParse other otherPolicy →
          Agree dateParse request policy other otherPolicy) ↔
        Agree dateParse request policy other otherPolicy ∨
          keyPieces dateParse request policy ≠ keyPieces dateParse other otherPolicy) ∧
      (Plain dateParse request policy → Plain dateParse other otherPolicy →
        cacheKeyOf dateParse request policy = cacheKeyOf dateParse other otherPolicy →
          Agree dateParse request policy other otherPolicy) := by
  refine ⟨?_, agree_of_plain⟩
  rw [cacheKey_eq_iff, imp_iff_or_not]

def withoutWorkspace : DataAccessRequest where
  channel := .web
  dataset := "synthetic_profile"
  plan := "free"
  qualityState := .PASS
  requestedFields := ["synthetic_profile.company_name"]
  requestedRows := .ofNat 1

/-- The same request of a workspace that is called like the missing part. -/
def workspaceNone : DataAccessRequest :=
  { withoutWorkspace with workspaceId := some "none" }

/-- The two requests share a key and the field in it, and are of different workspaces. -/
theorem cacheKeys_shared :
    cacheKeyOf (fun _ => none) withoutWorkspace createSyntheticApprovedPolicy =
        cacheKeyOf (fun _ => none) workspaceNone createSyntheticApprovedPolicy ∧
      ¬Agree (fun _ => none) withoutWorkspace createSyntheticApprovedPolicy workspaceNone
        createSyntheticApprovedPolicy := by
  refine ⟨rfl, fun h => ?_⟩
  have hworkspace : (none : Option String) = some "none" := h.workspaceId
  cases hworkspace

end Aiphabee.DataAccess
