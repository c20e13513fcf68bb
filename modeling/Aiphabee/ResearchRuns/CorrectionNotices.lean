import Aiphabee.ResearchRuns.EvidenceTexts
import Aiphabee.ResearchRuns.VersionMaps

/-!
# Notices of corrected data

A correction of a source record affects the saved runs whose evidence cites the
record.  Each of them is listed with what it cites, and its owner is notified on
every channel.  The user and the workspace of the request, when it has them, take
the place of those that saved the run.
-/

namespace Aiphabee.ResearchRuns

open JsText (ofString)
open StableJson

structure DataCorrectionSourceInput where
  correctedDataVersion : Option JsText
  correctionId : Option JsText
  previousDataVersion : Option JsText
  reason : Option JsText
  severity : Option JsText
  sourceRecordId : Option JsText

structure DataCorrectionEventPlan where
  correctedDataVersion : JsText
  correctionEventId : JsText
  previousDataVersion : Option JsText
  reason : JsText
  severity : JsText
  sourceRecordId : JsText

structure AffectedRun where
  plan : ResearchRunSavePlan
  userId : JsText
  workspaceId : JsText

structure CreateDataCorrectionNotificationPlanInput where
  affectedRuns : Option (List AffectedRun)
  corrections : Option (List DataCorrectionSourceInput)
  notificationChannels : Option (List JsText)
  userId : Option JsText
  workspaceId : Option JsText

structure DataCorrectionImpactPlan where
  evidenceRecordIds : List JsText
  impactId : JsText
  impactedSourceRecordIds : List JsText
  researchRunId : JsText
  snapshotId : JsText
  userId : JsText
  workspaceId : JsText

structure DataCorrectionUserNotificationPlan where
  channel : JsText
  notificationEventId : JsText
  researchRunId : JsText
  snapshotId : JsText
  userId : JsText
  workspaceId : JsText

inductive DataCorrectionNotificationStatus
  | blockedMissingContext
  | plannedNoWrite

structure DataCorrectionNotificationPlan where
  affectedReports : List DataCorrectionImpactPlan
  channels : List JsText
  corrections : List DataCorrectionEventPlan
  notifications : List DataCorrectionUserNotificationPlan
  status : DataCorrectionNotificationStatus

section Plans

def normalizeDataCorrectionSeverity (severity : Option JsText) : JsText :=
  if severity = some (ofString "low") then
    ofString "low"
  else if severity = some (ofString "high") then
    ofString "high"
  else
    ofString "medium"

def normalizeDataCorrectionEvent (correction : DataCorrectionSourceInput) :
    Option DataCorrectionEventPlan := do
  let sourceRecordId ← normalizeText correction.sourceRecordId
  let correctedDataVersion ← normalizeText correction.correctedDataVersion
  let previousDataVersion := normalizeText correction.previousDataVersion
  let reason := (normalizeText correction.reason).getD (ofString "data_correction")
  some
    { correctedDataVersion := correctedDataVersion
      correctionEventId := (normalizeText correction.correctionId).getD
        (ofString "data_correction_" ++ hashStableValue (record
          [("correctedDataVersion", .string correctedDataVersion),
            ("previousDataVersion", optionalText previousDataVersion),
            ("reason", .string reason),
            ("sourceRecordId", .string sourceRecordId)]))
      previousDataVersion := previousDataVersion
      reason := reason
      severity := normalizeDataCorrectionSeverity correction.severity
      sourceRecordId := sourceRecordId }

def normalizeDataCorrectionEvents (corrections : Option (List DataCorrectionSourceInput)) :
    List DataCorrectionEventPlan :=
  (corrections.getD []).filterMap normalizeDataCorrectionEvent

def normalizeDataCorrectionNotificationChannels (channels : Option (List JsText)) : List JsText :=
  normalizeKnown (["in_app", "email"].map ofString) "in_app" channels

variable (localeOrder : LocaleOrder)

def createDataCorrectionImpact (correctedSourceRecordIds : List JsText)
    (defaultUserId defaultWorkspaceId : Option JsText) (run : AffectedRun) :
    Option DataCorrectionImpactPlan :=
  let matchedEvidenceRecords := run.plan.evidenceRecords.filter fun record =>
    record.sourceRecordIds.any (· ∈ correctedSourceRecordIds)
  let impactedSourceRecordIds := uniqueSorted localeOrder
    (matchedEvidenceRecords.flatMap fun record =>
      record.sourceRecordIds.filter (· ∈ correctedSourceRecordIds))
  if impactedSourceRecordIds.isEmpty then
    none
  else
    some
      { evidenceRecordIds := uniqueSorted localeOrder
          (matchedEvidenceRecords.map (·.evidenceRecordId))
        impactId := ofString "research_correction_impact_" ++ hashStableValue (record
          [("impactedSourceRecordIds", .array (impactedSourceRecordIds.map .string)),
            ("runId", .string run.plan.runId),
            ("snapshotId", .string run.plan.snapshotId)])
        impactedSourceRecordIds := impactedSourceRecordIds
        researchRunId := run.plan.runId
        snapshotId := run.plan.snapshotId
        userId := defaultUserId.getD run.userId
        workspaceId := defaultWorkspaceId.getD run.workspaceId }

def notificationValue (impact : DataCorrectionImpactPlan) (channel : JsText) : Value :=
  record
    [("channel", .string channel),
      ("impactId", .string impact.impactId),
      ("snapshotId", .string impact.snapshotId)]

def createDataCorrectionNotificationItem (impact : DataCorrectionImpactPlan) (channel : JsText) :
    DataCorrectionUserNotificationPlan :=
  { channel := channel
    notificationEventId := ofString "user_notification_" ++
      hashStableValue (notificationValue impact channel)
    researchRunId := impact.researchRunId
    snapshotId := impact.snapshotId
    userId := impact.userId
    workspaceId := impact.workspaceId }

variable (input : CreateDataCorrectionNotificationPlanInput)

def createDataCorrectionImpacts : List DataCorrectionImpactPlan :=
  (input.affectedRuns.getD []).filterMap (createDataCorrectionImpact localeOrder
    ((normalizeDataCorrectionEvents input.corrections).map (·.sourceRecordId))
    (normalizeText input.userId) (normalizeText input.workspaceId))

def createDataCorrectionNotificationPlan : DataCorrectionNotificationPlan :=
  let corrections := normalizeDataCorrectionEvents input.corrections
  let channels := normalizeDataCorrectionNotificationChannels input.notificationChannels
  let impacts := createDataCorrectionImpacts localeOrder input
  { affectedReports := impacts
    channels := channels
    corrections := corrections
    notifications := impacts.flatMap fun impact =>
      channels.map (createDataCorrectionNotificationItem impact)
    status :=
      if corrections ≠ [] ∧ impacts ≠ [] then .plannedNoWrite else .blockedMissingContext }

end Plans

section Purpose

variable (input : CreateDataCorrectionNotificationPlanInput)

def IsCorrected (id : JsText) : Prop :=
  ∃ correction ∈ normalizeDataCorrectionEvents input.corrections, correction.sourceRecordId = id

instance (id : JsText) : Decidable (IsCorrected input id) :=
  inferInstanceAs (Decidable (∃ correction ∈ _, _))

def IsImpacted (run : AffectedRun) : Prop :=
  ∃ record ∈ run.plan.evidenceRecords, ∃ id ∈ record.sourceRecordIds, IsCorrected input id

instance (run : AffectedRun) : Decidable (IsImpacted input run) :=
  inferInstanceAs (Decidable (∃ record ∈ _, ∃ id ∈ _, _))

def impactedRuns : List AffectedRun :=
  (input.affectedRuns.getD []).filter fun run => IsImpacted input run

def AffectedRun.key (run : AffectedRun) : JsText × JsText :=
  (run.plan.runId, run.plan.snapshotId)

structure ImpactOf (run : AffectedRun) (impact : DataCorrectionImpactPlan) : Prop where
  key : (impact.researchRunId, impact.snapshotId) = run.key
  sources : ∀ id, id ∈ impact.impactedSourceRecordIds ↔
    ∃ record ∈ run.plan.evidenceRecords, id ∈ record.sourceRecordIds ∧ IsCorrected input id
  evidence : ∀ evidenceId, evidenceId ∈ impact.evidenceRecordIds ↔
    ∃ record ∈ run.plan.evidenceRecords, record.evidenceRecordId = evidenceId ∧
      ∃ id ∈ record.sourceRecordIds, IsCorrected input id
  once : impact.impactedSourceRecordIds.Nodup ∧ impact.evidenceRecordIds.Nodup

def noticesOf (notifications : List DataCorrectionUserNotificationPlan) (run : AffectedRun)
    (channel : JsText) : List DataCorrectionUserNotificationPlan :=
  notifications.filter fun notice =>
    (notice.researchRunId, notice.snapshotId) = run.key ∧ notice.channel = channel

structure NoticesReach (plan : DataCorrectionNotificationPlan) : Prop where
  listed : List.Forall₂ (ImpactOf input) (impactedRuns input) plan.affectedReports
  addressed : ∀ run ∈ impactedRuns input, ∀ channel ∈ plan.channels,
    ∃ notice, noticesOf plan.notifications run channel = [notice] ∧
      notice.userId = run.userId ∧ notice.workspaceId = run.workspaceId
  ids : ∀ notice ∈ plan.notifications, ∀ other ∈ plan.notifications,
    notice.notificationEventId = other.notificationEventId →
      notice.snapshotId = other.snapshotId ∧ notice.channel = other.channel
  blocked : plan.status = .blockedMissingContext ↔ impactedRuns input = []
  silent : plan.status = .blockedMissingContext → plan.notifications = []

/--
The request names no other user or workspace than those that saved the affected
runs, and none of these is there twice.
-/
structure OwnersAgree : Prop where
  users : ∀ run ∈ impactedRuns input, (normalizeText input.userId).getD run.userId = run.userId
  workspaces : ∀ run ∈ impactedRuns input,
    (normalizeText input.workspaceId).getD run.workspaceId = run.workspaceId
  distinct : ((impactedRuns input).map AffectedRun.key).Nodup

def notificationTexts (localeOrder : LocaleOrder) : List Utf8Text :=
  (createDataCorrectionImpacts localeOrder input).flatMap fun impact =>
    (normalizeDataCorrectionNotificationChannels input.notificationChannels).map fun channel =>
      stableStringify (notificationValue impact channel)

/-- The hash tells the texts of the notices of a plan apart. -/
def NoticeHashesApart (localeOrder : LocaleOrder) : Prop :=
  ∀ text ∈ notificationTexts input localeOrder, ∀ other ∈ notificationTexts input localeOrder,
    hashText text = hashText other → text = other

instance (localeOrder : LocaleOrder) : Decidable (NoticeHashesApart input localeOrder) :=
  inferInstanceAs (Decidable (∀ text ∈ _, ∀ other ∈ _, _))

end Purpose

section Notices

variable {localeOrder : LocaleOrder} {input : CreateDataCorrectionNotificationPlanInput}

theorem mem_corrected_iff {id : JsText} :
    id ∈ (normalizeDataCorrectionEvents input.corrections).map (·.sourceRecordId) ↔
      IsCorrected input id :=
  List.mem_map

theorem createDataCorrectionImpact_spec (localeOrder : LocaleOrder)
    (input : CreateDataCorrectionNotificationPlanInput) (run : AffectedRun) :
    (¬IsImpacted input run ∧ createDataCorrectionImpact localeOrder
        ((normalizeDataCorrectionEvents input.corrections).map (·.sourceRecordId))
        (normalizeText input.userId) (normalizeText input.workspaceId) run = none) ∨
      (IsImpacted input run ∧ ∃ impact, createDataCorrectionImpact localeOrder
          ((normalizeDataCorrectionEvents input.corrections).map (·.sourceRecordId))
          (normalizeText input.userId) (normalizeText input.workspaceId) run = some impact ∧
        ImpactOf input run impact ∧
        impact.userId = (normalizeText input.userId).getD run.userId ∧
        impact.workspaceId = (normalizeText input.workspaceId).getD run.workspaceId) := by
  rw [createDataCorrectionImpact]
  generalize hmatched : run.plan.evidenceRecords.filter _ = matched
  generalize himpacted : uniqueSorted localeOrder (matched.flatMap _) = impacted
  have hrecord : ∀ record, record ∈ matched ↔ record ∈ run.plan.evidenceRecords ∧
      ∃ id ∈ record.sourceRecordIds, IsCorrected input id := by
    intro record
    simp only [← hmatched, List.mem_filter, List.any_eq_true, decide_eq_true_eq, mem_corrected_iff]
  have hsources : ∀ id, id ∈ impacted ↔
      ∃ record ∈ run.plan.evidenceRecords, id ∈ record.sourceRecordIds ∧ IsCorrected input id := by
    intro id
    simp only [← himpacted, mem_uniqueSorted, List.mem_flatMap, List.mem_filter, decide_eq_true_eq,
      mem_corrected_iff, hrecord]
    exact ⟨fun ⟨record, ⟨hrun, _⟩, hid⟩ => ⟨record, hrun, hid⟩,
      fun ⟨record, hrun, hid⟩ => ⟨record, ⟨hrun, id, hid⟩, hid⟩⟩
  have hnone : impacted = [] ↔ ¬IsImpacted input run := by
    rw [List.eq_nil_iff_forall_not_mem]
    simp only [hsources, IsImpacted]
    exact ⟨fun h ⟨record, hrun, id, hid⟩ => h id ⟨record, hrun, hid⟩,
      fun h id ⟨record, hrun, hid⟩ => h ⟨record, hrun, id, hid⟩⟩
  by_cases hempty : impacted = []
  · exact .inl ⟨hnone.mp hempty, if_pos (by rw [hempty]; rfl)⟩
  · refine .inr ⟨not_not.mp (mt hnone.mpr hempty), _,
      if_neg (by rwa [List.isEmpty_iff]), ⟨rfl, hsources, fun evidenceId => ?_, ?_, ?_⟩, rfl, rfl⟩
    · simp only [mem_uniqueSorted, List.mem_map, hrecord]
      exact ⟨fun ⟨record, ⟨hrun, hid⟩, heq⟩ => ⟨record, hrun, heq, hid⟩,
        fun ⟨record, hrun, heq, hid⟩ => ⟨record, ⟨hrun, hid⟩, heq⟩⟩
    · exact himpacted ▸ nodup_uniqueSorted localeOrder _
    · exact nodup_uniqueSorted localeOrder _

theorem createDataCorrectionImpacts_spec (localeOrder : LocaleOrder)
    (input : CreateDataCorrectionNotificationPlanInput) :
    List.Forall₂ (fun run impact => ImpactOf input run impact ∧
        impact.userId = (normalizeText input.userId).getD run.userId ∧
        impact.workspaceId = (normalizeText input.workspaceId).getD run.workspaceId)
      (impactedRuns input) (createDataCorrectionImpacts localeOrder input) := by
  rw [impactedRuns, createDataCorrectionImpacts]
  induction input.affectedRuns.getD [] with
  | nil => exact .nil
  | cons run rest ih =>
    rcases createDataCorrectionImpact_spec localeOrder input run with
      ⟨hnot, hnone⟩ | ⟨his, impact, hsome, hspec⟩
    · rwa [List.filter_cons_of_neg (by simpa using hnot), List.filterMap_cons_none hnone]
    · rw [List.filter_cons_of_pos (by simpa using his), List.filterMap_cons_some hsome]
      exact .cons hspec ih

theorem createDataCorrectionImpacts_runs (localeOrder : LocaleOrder)
    (input : CreateDataCorrectionNotificationPlanInput) :
    (createDataCorrectionImpacts localeOrder input).map
        (fun impact => (impact.researchRunId, impact.snapshotId)) =
      (impactedRuns input).map AffectedRun.key ∧
    ∀ impact ∈ createDataCorrectionImpacts localeOrder input, ∃ run ∈ impactedRuns input,
      (impact.researchRunId, impact.snapshotId) = run.key ∧
        impact.userId = (normalizeText input.userId).getD run.userId ∧
        impact.workspaceId = (normalizeText input.workspaceId).getD run.workspaceId := by
  have hspecs := createDataCorrectionImpacts_spec localeOrder input
  generalize impactedRuns input = runs at hspecs ⊢
  generalize createDataCorrectionImpacts localeOrder input = impacts at hspecs ⊢
  induction hspecs with
  | nil => exact ⟨rfl, List.forall_mem_nil _⟩
  | cons hspec _ ih =>
    refine ⟨congrArg₂ List.cons hspec.1.key ih.1, List.forall_mem_cons.mpr ⟨?_, ?_⟩⟩
    · exact ⟨_, List.mem_cons_self, hspec.1.key, hspec.2⟩
    · intro impact himpact
      obtain ⟨run, hrun, hkey⟩ := ih.2 impact himpact
      exact ⟨run, List.mem_cons_of_mem _ hrun, hkey⟩

theorem channels_spec (channels : Option (List JsText)) :
    (normalizeDataCorrectionNotificationChannels channels).Nodup ∧
      normalizeDataCorrectionNotificationChannels channels ≠ [] := by
  rw [normalizeDataCorrectionNotificationChannels, normalizeKnown]
  split
  · exact ⟨List.nodup_singleton _, List.cons_ne_nil _ _⟩
  · next hsome =>
    refine ⟨?_, fun hnil => hsome ?_⟩
    · have hnodup := GroupBy.nodup_eraseDups ((channels.getD []).filter
        (· ∈ ["in_app", "email"].map ofString))
      rwa [lawful_beq_subsingleton instBEqOfDecidableEq (List.instBEq : BEq JsText)] at hnodup
    · refine List.isEmpty_iff.mpr (List.eq_nil_iff_forall_not_mem.mpr fun channel hchannel => ?_)
      have hmem := List.mem_eraseDups.mpr hchannel
      rw [hnil] at hmem
      cases hmem

theorem noticesOf_eq (impacts : List DataCorrectionImpactPlan) {channels : List JsText}
    {channel : JsText} (hnodup : channels.Nodup) (hchannel : channel ∈ channels)
    (run : AffectedRun) :
    noticesOf (impacts.flatMap fun impact =>
        channels.map (createDataCorrectionNotificationItem impact)) run channel =
      (impacts.filter fun impact => (impact.researchRunId, impact.snapshotId) = run.key).map
        (createDataCorrectionNotificationItem · channel) := by
  have hone : channels.filter (· = channel) = [channel] := by
    rw [List.filter_eq, List.count_eq_one_of_mem hnodup hchannel]
    rfl
  rw [noticesOf]
  induction impacts with
  | nil => rfl
  | cons impact rest ih =>
    rw [List.flatMap_cons, List.filter_append, ih, List.filter_map]
    have hitem : ((fun notice : DataCorrectionUserNotificationPlan =>
        decide ((notice.researchRunId, notice.snapshotId) = run.key ∧
          notice.channel = channel)) ∘ createDataCorrectionNotificationItem impact) =
        fun other => decide ((impact.researchRunId, impact.snapshotId) = run.key ∧
          other = channel) :=
      rfl
    rw [hitem]
    by_cases hkey : (impact.researchRunId, impact.snapshotId) = run.key
    · simp only [hkey, true_and, hone, List.filter_cons_of_pos, decide_true]
      rfl
    · simp [hkey]

theorem notificationValue_inj {impact other : DataCorrectionImpactPlan} {channel second : JsText}
    (h : stableStringify (notificationValue impact channel) =
      stableStringify (notificationValue other second)) :
    channel = second ∧ impact.snapshotId = other.snapshotId := by
  have hregular : ∀ impact channel, Regular (notificationValue impact channel) :=
    fun _ _ => ⟨trivial, trivial, trivial, trivial⟩
  have hordered : ∀ impact channel, Ordered (notificationValue impact channel) := by
    intro impact channel
    refine ordered_record ?_ ?_
    · show (["channel", "impactId", "snapshotId"].map ofString).Pairwise (· ≤ ·)
      decide +kernel
    · exact List.forall_mem_cons.mpr ⟨trivial, List.forall_mem_cons.mpr
        ⟨trivial, List.forall_mem_singleton.mpr trivial⟩⟩
  rw [stableStringify_eq_iff (hregular _ _) (hregular _ _), canonical_of_ordered _ (hordered _ _),
    canonical_of_ordered _ (hordered _ _)] at h
  simp only [notificationValue, record, Value.object.injEq, List.map_cons, List.map_nil,
    List.cons.injEq, Prod.mk.injEq, true_and, and_true, Value.string.injEq] at h
  exact ⟨h.1, h.2.2⟩

theorem status_iff (localeOrder : LocaleOrder) (input : CreateDataCorrectionNotificationPlanInput) :
    (createDataCorrectionNotificationPlan localeOrder input).status = .blockedMissingContext ↔
      createDataCorrectionImpacts localeOrder input = [] := by
  have hmissing : normalizeDataCorrectionEvents input.corrections = [] →
      createDataCorrectionImpacts localeOrder input = [] := by
    intro hnone
    rw [← List.map_eq_nil_iff, (createDataCorrectionImpacts_runs localeOrder input).1,
      List.map_eq_nil_iff, impactedRuns, List.filter_eq_nil_iff]
    rintro run - himpacted
    obtain ⟨record, -, id, -, correction, hcorrection, -⟩ := of_decide_eq_true himpacted
    rw [hnone] at hcorrection
    cases hcorrection
  rw [createDataCorrectionNotificationPlan]
  dsimp only
  split
  · next h => exact iff_of_false nofun h.2
  · next h =>
    refine iff_of_true rfl ?_
    by_contra hsome
    exact h ⟨mt hmissing hsome, hsome⟩

/--
The notices reach those whose runs are affected exactly if the request names no
other owner of an affected run, and no affected run is listed twice.
-/
theorem noticesReach_iff (hhash : NoticeHashesApart input localeOrder) :
    NoticesReach input (createDataCorrectionNotificationPlan localeOrder input) ↔
      OwnersAgree input := by
  have hspec := createDataCorrectionImpacts_spec localeOrder input
  obtain ⟨hkeys, hruns⟩ := createDataCorrectionImpacts_runs localeOrder input
  obtain ⟨hnodup, hne⟩ := channels_spec input.notificationChannels
  have hnotices := fun channel (hchannel : channel ∈ _) run =>
    noticesOf_eq (createDataCorrectionImpacts localeOrder input) hnodup hchannel run
  -- as many impacts have the key of a run as runs are listed with it
  have hcount : ∀ key, ((createDataCorrectionImpacts localeOrder input).filter fun impact =>
      (impact.researchRunId, impact.snapshotId) = key).length =
        ((impactedRuns input).map AffectedRun.key).count key := by
    intro key
    rw [← hkeys, List.count, List.countP_map, List.countP_eq_length_filter]
    exact congrArg List.length (List.filter_congr fun impact _ => (Bool.beq_eq_decide_eq _ _).symm)
  constructor
  · intro hreach
    obtain ⟨channel, hchannel⟩ := List.exists_mem_of_ne_nil _ hne
    have hdistinct : ((impactedRuns input).map AffectedRun.key).Nodup := by
      refine List.nodup_iff_count_le_one.mpr fun key => ?_
      by_cases hkey : key ∈ (impactedRuns input).map AffectedRun.key
      · obtain ⟨run, hrun, rfl⟩ := List.mem_map.mp hkey
        obtain ⟨notice, hnotice, -⟩ := hreach.addressed run hrun channel hchannel
        have hlength := congrArg List.length ((hnotices channel hchannel run).symm.trans hnotice)
        rw [List.length_map, hcount] at hlength
        exact hlength.le
      · rw [List.count_eq_zero_of_not_mem hkey]
        exact Nat.zero_le 1
    have howners : ∀ run ∈ impactedRuns input,
        (normalizeText input.userId).getD run.userId = run.userId ∧
          (normalizeText input.workspaceId).getD run.workspaceId = run.workspaceId := by
      intro run hrun
      obtain ⟨notice, hnotice, huser, hworkspace⟩ :=
        hreach.addressed run hrun channel hchannel
      have hfilter := (hnotices channel hchannel run).symm.trans hnotice
      obtain ⟨impact, himpact, rfl⟩ := List.map_eq_singleton_iff.mp hfilter
      obtain ⟨hmem, hkey⟩ := List.mem_filter.mp (himpact ▸ List.mem_singleton_self impact)
      obtain ⟨other, hother, hsame, hby, hat⟩ := hruns impact hmem
      obtain rfl := List.inj_on_of_nodup_map hdistinct hother hrun
        (hsame.symm.trans (of_decide_eq_true hkey))
      exact ⟨hby.symm.trans huser, hat.symm.trans hworkspace⟩
    exact ⟨fun run hrun => (howners run hrun).1, fun run hrun => (howners run hrun).2, hdistinct⟩
  · intro hagree
    have hempty : createDataCorrectionImpacts localeOrder input = [] ↔ impactedRuns input = [] := by
      rw [← List.map_eq_nil_iff, hkeys, List.map_eq_nil_iff]
    refine ⟨hspec.imp fun _ _ h => h.1, fun run hrun channel hchannel => ?_, ?_,
      (status_iff localeOrder input).trans hempty, fun hblocked => ?_⟩
    · have hlength := hcount run.key
      rw [List.count_eq_one_of_mem hagree.distinct (List.mem_map_of_mem hrun),
        List.length_eq_one_iff] at hlength
      obtain ⟨impact, himpact⟩ := hlength
      obtain ⟨hmem, hkey⟩ := List.mem_filter.mp (himpact ▸ List.mem_singleton_self impact)
      obtain ⟨other, hother, hsame, hby, hat⟩ := hruns impact hmem
      obtain rfl := List.inj_on_of_nodup_map hagree.distinct hother hrun
        (hsame.symm.trans (of_decide_eq_true hkey))
      refine ⟨createDataCorrectionNotificationItem impact channel, ?_,
        hby.trans (hagree.users _ hrun), hat.trans (hagree.workspaces _ hrun)⟩
      exact (hnotices channel hchannel _).trans (by rw [himpact]; rfl)
    · have htext : ∀ notice ∈
        (createDataCorrectionNotificationPlan localeOrder input).notifications,
          ∃ impact channel, notice = createDataCorrectionNotificationItem impact channel ∧
            stableStringify (notificationValue impact channel) ∈
              notificationTexts input localeOrder := by
        intro notice hnotice
        obtain ⟨impact, himpact, hitem⟩ := List.mem_flatMap.mp hnotice
        obtain ⟨channel, hchannel, rfl⟩ := List.mem_map.mp hitem
        exact ⟨impact, channel, rfl, List.mem_flatMap.mpr
          ⟨impact, himpact, List.mem_map.mpr ⟨channel, hchannel, rfl⟩⟩⟩
      intro notice hnotice other hother hsame
      obtain ⟨impact, channel, rfl, hfirst⟩ := htext notice hnotice
      obtain ⟨second, channel', rfl, hsecond⟩ := htext other hother
      obtain ⟨hchannel, hsnapshot⟩ := notificationValue_inj
        (hhash _ hfirst _ hsecond (List.append_cancel_left hsame))
      exact ⟨hsnapshot, hchannel⟩
    · change (createDataCorrectionImpacts localeOrder input).flatMap _ = []
      rw [(status_iff localeOrder input).mp hblocked, List.flatMap_nil]

end Notices

/-- A run of the first user whose one evidence record cites a source record. -/
def citingRun : AffectedRun where
  plan :=
    { answerHash := none
      evidenceRecords :=
        [{ citationLabel := none
           dataVersion := ofString "v1"
           documentLocation := none
           evidenceRecordId := ofString "ev-1"
           methodologyVersion := ofString "m1"
           sourceRecordIds := [ofString "src-1", ofString "src-2"] }]
      snapshotHash := ofString "h0"
      modelSnapshot :=
        { modelProvider := ofString "provider"
          modelVersion := ofString "m1"
          promptTemplateId := none
          promptVersion := ofString "p1" }
      parameterSnapshot :=
        { parameterHash := ofString "h0", parameters := [], parametersRecorded := false }
      question := ofString "q"
      questionHash := ofString "h0"
      requestId := ofString "req-1"
      runId := ofString "run-1"
      snapshotId := ofString "snap-1"
      toolCalls := [] }
  userId := ofString "u1"
  workspaceId := ofString "ws-1"

def correctionRequest (user : String) : CreateDataCorrectionNotificationPlanInput where
  affectedRuns := some [citingRun]
  corrections := some
    [{ correctedDataVersion := some (ofString "v2")
       correctionId := some (ofString "c-1")
       previousDataVersion := none
       reason := none
       severity := none
       sourceRecordId := some (ofString "src-1") }]
  notificationChannels := none
  userId := some (ofString user)
  workspaceId := none

theorem noticesReach_owner :
    NoticesReach (correctionRequest "u1") (createDataCorrectionNotificationPlan
      (fun left right => decide (left ≤ right)) (correctionRequest "u1")) := by
  refine (noticesReach_iff (by decide +kernel)).mpr ⟨?_, ?_, ?_⟩ <;> decide +kernel

/-- The notice about a run of one user goes to the other one that asked for the plan. -/
theorem notice_to_other_user :
    ¬∀ (localeOrder : LocaleOrder) (input : CreateDataCorrectionNotificationPlanInput),
      NoticeHashesApart input localeOrder →
        NoticesReach input (createDataCorrectionNotificationPlan localeOrder input) := by
  intro h
  have hreach := h (fun left right => decide (left ≤ right)) (correctionRequest "u2")
    (by decide +kernel)
  obtain ⟨notice, hnotice, huser, -⟩ := hreach.addressed citingRun
    (List.mem_filter.mpr ⟨List.mem_singleton_self _, by decide +kernel⟩)
    (ofString "in_app") (by decide +kernel)
  have hmem := (List.mem_filter.mp (hnotice ▸ List.mem_singleton_self notice)).1
  have hother : ∀ notice ∈ (createDataCorrectionNotificationPlan
      (fun left right => decide (left ≤ right)) (correctionRequest "u2")).notifications,
      notice.userId ≠ citingRun.userId := by
    decide +kernel
  exact hother notice hmem huser

end Aiphabee.ResearchRuns
