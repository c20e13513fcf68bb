import Mathlib.Algebra.Order.BigOperators.Group.List
import Mathlib.Data.Finset.Dedup
import Mathlib.Data.List.Chain
import Mathlib.Data.List.ReduceOption
import Aiphabee.Usage.PartnerReconciliation

/-!
# When a partner reconciliation report groups exactly

A sanitised text is not empty, has no two underscores next to each other and
ends in none, so that joining with two underscores keeps the sanitised fields
apart.  Sanitising itself does not keep texts apart: rows of the users `user-1`
and `user_1` fall into one group.

Where the rows of a report are separated by their sanitised fields, the groups
are those of the group fields; where the sums are exact in doubles, too, the
report does not depend on the order of the rows.
-/

namespace Aiphabee.PartnerReconciliation

open GroupBy

variable {localeCompare : String → String → Int}

/-- No two underscores are next to each other. -/
def NoDoubleUnderscore (chars : List Char) : Prop :=
  chars.IsChain fun c d => ¬(c = '_' ∧ d = '_')

theorem replaceRuns_noDoubleUnderscore (chars : List Char) :
    ∀ inRun,
      NoDoubleUnderscore (replaceRuns inRun chars) ∧
        (inRun = true → (replaceRuns inRun chars).head? ≠ some '_') := by
  induction chars with
  | nil =>
    intro inRun
    exact ⟨List.isChain_nil, by simp [replaceRuns]⟩
  | cons c rest ih =>
    intro inRun
    obtain ⟨hout, _⟩ := ih false
    obtain ⟨hin, hhead⟩ := ih true
    by_cases hc : isIdCharacter c = true
    · have hne : c ≠ '_' := by
        rintro rfl
        revert hc
        decide
      simp only [replaceRuns, if_pos hc]
      refine ⟨List.isChain_cons.mpr ⟨?_, hout⟩, by simp [hne]⟩
      rintro d _ ⟨rfl, _⟩
      exact hne rfl
    · cases inRun with
      | true => simpa [replaceRuns, hc] using ⟨hin, hhead rfl⟩
      | false =>
        simp only [replaceRuns, if_neg hc]
        refine ⟨List.isChain_cons.mpr ⟨?_, hin⟩, by simp⟩
        rintro d hd ⟨_, rfl⟩
        exact hhead rfl hd

/-- What is kept between the underscores at either end. -/
theorem stripUnderscores_spec {chars : List Char} (h : NoDoubleUnderscore chars) :
    NoDoubleUnderscore (stripUnderscores chars) ∧
      (stripUnderscores chars).getLast? ≠ some '_' := by
  constructor
  · have hdrop : NoDoubleUnderscore (chars.dropWhile (· = '_')) :=
      h.suffix (List.dropWhile_suffix _)
    have hprefix : stripUnderscores chars <+: chars.dropWhile (· = '_') := by
      have hsuffix := List.dropWhile_suffix (l := (chars.dropWhile (· = '_')).reverse) (· = '_')
      simpa [stripUnderscores] using List.reverse_prefix.mpr hsuffix
    exact hdrop.prefix hprefix
  · intro hlast
    rw [stripUnderscores, List.getLast?_reverse] at hlast
    have := List.head?_dropWhile_not (· = '_') (chars.dropWhile (· = '_')).reverse
    rw [hlast] at this
    simp at this

/-- A sanitised text has no two underscores next to each other, and ends in none. -/
theorem sanitizeChars_spec (value : List Char) :
    NoDoubleUnderscore (sanitizeChars value) ∧
      (sanitizeChars value).getLast? ≠ some '_' := by
  simp only [sanitizeChars]
  split
  · exact ⟨by unfold NoDoubleUnderscore; decide, by decide⟩
  · exact stripUnderscores_spec (replaceRuns_noDoubleUnderscore _ false).1

/-- Two underscores mark the end of a sanitised text. -/
theorem append_underscores_inj {left right : List Char}
    (hleft : NoDoubleUnderscore left ∧ left.getLast? ≠ some '_')
    (hright : NoDoubleUnderscore right ∧ right.getLast? ≠ some '_') {leftRest rightRest : List Char}
    (h : left ++ '_' :: '_' :: leftRest = right ++ '_' :: '_' :: rightRest) :
    left = right ∧ leftRest = rightRest := by
  induction left generalizing right with
  | nil =>
    cases right with
    | nil => simpa using h
    | cons c rest =>
      obtain ⟨rfl, htail⟩ := List.cons.inj h
      cases rest with
      | nil => exact absurd rfl hright.2
      | cons d rest =>
        obtain rfl := (List.cons.inj htail).1
        exact absurd ⟨rfl, rfl⟩ (List.isChain_cons_cons.mp hright.1).1
  | cons c rest ih =>
    cases right with
    | nil =>
      obtain ⟨rfl, htail⟩ := List.cons.inj h
      cases rest with
      | nil => exact absurd rfl hleft.2
      | cons d rest =>
        obtain rfl := (List.cons.inj htail).1
        exact absurd ⟨rfl, rfl⟩ (List.isChain_cons_cons.mp hleft.1).1
    | cons d rest' =>
      obtain ⟨rfl, htail⟩ := List.cons.inj h
      have hsub : ∀ chars : List Char,
          NoDoubleUnderscore (c :: chars) ∧ (c :: chars).getLast? ≠ some '_' →
            NoDoubleUnderscore chars ∧ chars.getLast? ≠ some '_' := by
        rintro chars ⟨hchain, hlast⟩
        refine ⟨hchain.tail, ?_⟩
        cases chars with
        | nil => simp
        | cons d chars => simpa using hlast
      obtain ⟨rfl, hrest⟩ := ih (hsub rest hleft) (hsub rest' hright) htail
      exact ⟨rfl, hrest⟩

theorem toList_sanitizeId (value : String) :
    (sanitizeId value).toList = sanitizeChars value.toList := by
  simp [sanitizeId]

theorem sanitizeId_text_inj :
    (∀ c d : UsageLedgerChannel, sanitizeId c.text = sanitizeId d.text → c = d) ∧
      ∀ p q : UsageQuotaPlanCode, sanitizeId p.text = sanitizeId q.text → p = q := by
  constructor
  · intro c d
    cases c <;> cases d <;> decide
  · intro p q
    cases p <;> cases q <;> decide

theorem groupKey_eq_iff {f g : GroupFields} :
    f.groupKey = g.groupKey ↔
      sanitizeId f.dataset = sanitizeId g.dataset ∧ f.channel = g.channel ∧
        f.packageCode = g.packageCode ∧ sanitizeId f.userId = sanitizeId g.userId := by
  constructor
  · intro h
    have hlist := congrArg String.toList h
    simp only [GroupFields.groupKey, List.map_cons, List.map_nil,
      String.intercalate_cons_cons, String.intercalate_singleton, String.toList_append,
      toList_sanitizeId, List.append_assoc, show "__".toList = ['_', '_'] from rfl,
      List.cons_append, List.nil_append] at hlist
    obtain ⟨hdataset, hlist⟩ := append_underscores_inj
      (sanitizeChars_spec _) (sanitizeChars_spec _) hlist
    obtain ⟨hchannel, hlist⟩ := append_underscores_inj
      (sanitizeChars_spec _) (sanitizeChars_spec _) hlist
    obtain ⟨hpackage, huser⟩ := append_underscores_inj
      (sanitizeChars_spec _) (sanitizeChars_spec _) hlist
    exact ⟨congrArg String.ofList hdataset,
      sanitizeId_text_inj.1 _ _ (congrArg String.ofList hchannel),
      sanitizeId_text_inj.2 _ _ (congrArg String.ofList hpackage),
      congrArg String.ofList huser⟩
  · rintro ⟨hdataset, hchannel, hpackage, huser⟩
    simp [GroupFields.groupKey, hdataset, hchannel, hpackage, huser]

theorem mem_uniqueStrings {values : List (Option String)} {value : String} :
    value ∈ uniqueStrings values ↔ some value ∈ values ∧ value ≠ "" := by
  simp [uniqueStrings, List.reduceOption_mem_iff]

theorem nodup_uniqueStrings (values : List (Option String)) : (uniqueStrings values).Nodup :=
  nodup_eraseDups _

/-- A further text is added to those that are listed already. -/
theorem uniqueStrings_concat (values : List (Option String)) (value : Option String) :
    uniqueStrings ((uniqueStrings values).map some ++ [value]) =
      uniqueStrings (values ++ [value]) := by
  -- What is listed is present, not empty and listed once: reading it again changes nothing.
  have hreduce : ((uniqueStrings values).map some).reduceOption = uniqueStrings values := by
    simp [List.reduceOption]
  have hfilter : (uniqueStrings values).filter (fun value => value ≠ "") =
      uniqueStrings values := by
    refine List.filter_eq_self.mpr fun value hvalue => ?_
    simpa using (mem_uniqueStrings.mp hvalue).2
  have hunique : (uniqueStrings values).eraseDups = uniqueStrings values :=
    eraseDups_of_nodup (nodup_uniqueStrings values)
  have hsplit : ∀ others : List (Option String),
      uniqueStrings (others ++ [value]) =
        ((others.reduceOption.filter fun value => value ≠ "") ++
          [value].reduceOption.filter fun value => value ≠ "").eraseDups := by
    intro others
    rw [uniqueStrings, List.reduceOption_append, List.filter_append]
  rw [hsplit, hsplit, hreduce, hfilter]
  by_cases hvalue : ∃ text, value = some text ∧ text ≠ ""
  · obtain ⟨text, rfl, htext⟩ := hvalue
    have hlast : [some text].reduceOption.filter (fun value => value ≠ "") = [text] := by
      simp [List.reduceOption, htext]
    rw [hlast, eraseDups_concat, eraseDups_concat, hunique]
    simp only [uniqueStrings, List.mem_eraseDups]
  · have hlast : [value].reduceOption.filter (fun value => value ≠ "") = [] := by
      cases value with
      | none => rfl
      | some text => simpa [List.reduceOption] using hvalue
    rw [hlast, List.append_nil, List.append_nil, hunique]
    rfl

/-- The amounts that are added up in a report. -/
inductive Counter
  | backfill
  | credits
  | errors
  | meteredRows
  | missingRows
  | usage

namespace Counter

def amount : Counter → PartnerReconciliationUsageRowInput → Nat
  | .backfill, row => normalizeNonNegativeCount row.backfillCount
  | .credits, row => normalizeCreditCount row.credits
  | .errors, row => normalizeNonNegativeCount row.errorCount
  | .meteredRows, row => normalizeNonNegativeCount row.meteredRows
  | .missingRows, row => normalizeNonNegativeCount row.missingRows
  | .usage, row => row.calls

def total : Counter → Group → WholeNumber
  | .backfill, group => group.backfillCount
  | .credits, group => group.credits
  | .errors, group => group.errorCount
  | .meteredRows, group => group.meteredRows
  | .missingRows, group => group.missingRows
  | .usage, group => group.usageCount

def summaryTotal : Counter → Summary → WholeNumber
  | .backfill, summary => summary.backfillCount
  | .credits, summary => summary.creditTotal
  | .errors, summary => summary.errorCount
  | .meteredRows, summary => summary.meteredRowTotal
  | .missingRows, summary => summary.missingRows
  | .usage, summary => summary.usageCountTotal

theorem total_startGroup (counter : Counter) (row : PartnerReconciliationUsageRowInput) :
    counter.total (startGroup row) = .finite (counter.amount row) := by
  cases counter <;> rfl

theorem total_mergeRow (counter : Counter) (group : Group)
    (row : PartnerReconciliationUsageRowInput) :
    counter.total (mergeRow group row) =
      (counter.total group).add (.finite (counter.amount row)) := by
  cases counter <;> rfl

theorem summaryTotal_summarize (counter : Counter) (lines : List ReportLine) :
    counter.summaryTotal (summarizePartnerReconciliationRows lines) =
      sumOfLines (fun line => counter.total line.toGroup) lines := by
  cases counter <;> rfl

end Counter

def longestDelay (rows : List PartnerReconciliationUsageRowInput) : Nat :=
  (rows.map fun row => normalizeNonNegativeCount row.dataDelayMinutes).foldl max 0

structure Describes
    (group : Group)
    (fields : GroupFields)
    (rows : List PartnerReconciliationUsageRowInput) : Prop where
  groupFields : group.groupFields = fields
  totals : ∀ counter : Counter,
    counter.total group = WholeNumber.runningSum (rows.map counter.amount)
  dataDelayMinutesMax : group.dataDelayMinutesMax = longestDelay rows
  requestIds : group.requestIds = uniqueStrings (rows.map fun row => row.requestId)
  usageEventIds : group.usageEventIds = uniqueStrings (rows.map fun row => row.usageEventId)
  slaStatus : group.slaStatus =
    slaStatusOf group.dataDelayMinutesMax group.missingRows group.errorCount
  table : group.table = "aiphabee_core.partner_reconciliation_report_line"

theorem describes_startGroup (row : PartnerReconciliationUsageRowInput) :
    Describes (startGroup row) row.groupFields [row] where
  groupFields := rfl
  totals counter := counter.total_startGroup row
  dataDelayMinutesMax := (Nat.zero_max _).symm
  requestIds := rfl
  usageEventIds := rfl
  slaStatus := rfl
  table := rfl

theorem Describes.mergeRow {group : Group} {fields : GroupFields}
    {rows : List PartnerReconciliationUsageRowInput} (h : Describes group fields rows)
    (hrows : rows ≠ []) (row : PartnerReconciliationUsageRowInput) :
    Describes (mergeRow group row) fields (rows ++ [row]) where
  groupFields := h.groupFields
  totals counter := by
    rw [counter.total_mergeRow, h.totals counter]
    cases rows with
    | nil => exact absurd rfl hrows
    | cons first rest => simp [WholeNumber.runningSum]
  dataDelayMinutesMax := by
    simp [PartnerReconciliation.mergeRow, h.dataDelayMinutesMax, longestDelay]
  requestIds := by
    simp only [PartnerReconciliation.mergeRow, h.requestIds, List.map_append, List.map_cons,
      List.map_nil]
    exact uniqueStrings_concat _ _
  usageEventIds := by
    simp only [PartnerReconciliation.mergeRow, h.usageEventIds, List.map_append, List.map_cons,
      List.map_nil]
    exact uniqueStrings_concat _ _
  slaStatus := rfl
  table := h.table

theorem describes_groupValue {fields : GroupFields} (rows : List PartnerReconciliationUsageRowInput)
    (hfields : ∀ row ∈ rows, row.groupFields = fields) :
    ∀ group, groupValue startGroup mergeRow rows = some group →
      Describes group fields rows := by
  induction rows using List.reverseRecOn with
  | nil =>
    intro group hgroup
    cases hgroup
  | append_singleton rows row ih =>
    intro group hgroup
    rw [groupValue_concat] at hgroup
    obtain rfl := Option.some.inj hgroup
    cases hvalue : groupValue startGroup mergeRow rows with
    | none =>
      obtain rfl : rows = [] := by
        cases rows with
        | nil => rfl
        | cons first rest => cases hvalue
      obtain rfl := hfields row (by simp)
      exact describes_startGroup row
    | some value =>
      have hrows : rows ≠ [] := by
        rintro rfl
        cases hvalue
      refine Describes.mergeRow ?_ hrows row
      exact ih (fun other hother => hfields other (List.mem_append_left _ hother)) value hvalue

section SeparatedRows

def rowsOf (fields : GroupFields) (rows : List PartnerReconciliationUsageRowInput) :
    List PartnerReconciliationUsageRowInput :=
  rows.filter fun row => row.groupFields = fields

/--
No two rows of one channel and one package have data sets and users that are
told apart as they are and not after sanitising.
-/
def Separated (rows : List PartnerReconciliationUsageRowInput) : Prop :=
  ∀ row ∈ rows, ∀ other ∈ rows,
    row.groupFields.channel = other.groupFields.channel →
    row.groupFields.packageCode = other.groupFields.packageCode →
    sanitizeId row.groupFields.dataset = sanitizeId other.groupFields.dataset →
    sanitizeId row.groupFields.userId = sanitizeId other.groupFields.userId →
    row.groupFields.dataset = other.groupFields.dataset ∧
      row.groupFields.userId = other.groupFields.userId

def groupOrder (localeCompare : String → String → Int)
    (rows : List PartnerReconciliationUsageRowInput) : List GroupFields :=
  ((rows.map fun row => row.groupFields).eraseDups).mergeSort (sortsBefore localeCompare)

variable {rows : List PartnerReconciliationUsageRowInput}

theorem separated_iff :
    Separated rows ↔
      ∀ row ∈ rows, ∀ other ∈ rows,
        row.groupFields.groupKey = other.groupFields.groupKey →
          row.groupFields = other.groupFields := by
  constructor
  · intro h row hrow other hother hkey
    obtain ⟨hdataset, hchannel, hpackage, huser⟩ := groupKey_eq_iff.mp hkey
    obtain ⟨hdataset, huser⟩ := h row hrow other hother hchannel hpackage hdataset huser
    cases hleft : row.groupFields
    cases hright : other.groupFields
    simp_all
  · intro h row hrow other hother hchannel hpackage hdataset huser
    have heq := h row hrow other hother
      (groupKey_eq_iff.mpr ⟨hdataset, hchannel, hpackage, huser⟩)
    exact ⟨congrArg GroupFields.dataset heq, congrArg GroupFields.userId heq⟩

theorem Separated.perm {rows' : List PartnerReconciliationUsageRowInput} (h : Separated rows)
    (hperm : rows'.Perm rows) : Separated rows' :=
  fun row hrow other hother =>
    h row (hperm.subset hrow) other (hperm.subset hother)

theorem groupOrder_spec (localeCompare : String → String → Int)
    (rows : List PartnerReconciliationUsageRowInput) :
    (groupOrder localeCompare rows).Nodup ∧
      ∀ fields, fields ∈ groupOrder localeCompare rows ↔
        fields ∈ rows.map fun row => row.groupFields := by
  have hperm := List.mergeSort_perm
    ((rows.map fun row => row.groupFields).eraseDups) (sortsBefore localeCompare)
  refine ⟨hperm.nodup_iff.mpr (nodup_eraseDups _), fun fields => ?_⟩
  exact hperm.mem_iff.trans List.mem_eraseDups

theorem groups_of_separated (h : Separated rows) :
    let groups :=
      (groupBy (fun row => row.groupFields.groupKey) startGroup mergeRow rows).map
        Prod.snd
    (groups.map fun group => group.groupFields) =
        (rows.map fun row => row.groupFields).eraseDups ∧
      ∀ group ∈ groups, Describes group group.groupFields (rowsOf group.groupFields rows) := by
  have hcomp :
      groupBy (fun row => row.groupFields.groupKey) startGroup mergeRow rows =
        (groupBy (fun row => row.groupFields) startGroup mergeRow rows).map
          fun entry => (entry.1.groupKey, entry.2) :=
    groupBy_comp GroupFields.groupKey (separated_iff.mp h)
  have hdescribes : ∀ entry ∈
      groupBy (fun row => row.groupFields) startGroup mergeRow rows,
      Describes entry.2 entry.1 (rowsOf entry.1 rows) := by
    intro entry hentry
    refine describes_groupValue _ ?_ entry.2 (groupValue_of_mem hentry)
    intro row hrow
    simpa using (List.mem_filter.mp hrow).2
  simp only [hcomp, List.map_map]
  constructor
  · rw [← keys_groupBy]
    exact List.map_congr_left fun entry hentry => (hdescribes entry hentry).groupFields
  · intro group hgroup
    obtain ⟨entry, hentry, rfl⟩ := List.mem_map.mp hgroup
    have hentry' := hdescribes entry hentry
    simp only [Function.comp_apply, hentry'.groupFields]
    exact hentry'

theorem sortedGroups_of_separated (localeCompare : String → String → Int) (h : Separated rows) :
    ((sortedGroups localeCompare rows).map fun group => group.groupFields) =
        groupOrder localeCompare rows ∧
      ∀ group ∈ sortedGroups localeCompare rows,
        Describes group group.groupFields (rowsOf group.groupFields rows) := by
  obtain ⟨hfields, hdescribes⟩ := groups_of_separated h
  constructor
  · rw [groupOrder, ← hfields]
    exact List.map_mergeSort fun _ _ _ _ => rfl
  · intro group hgroup
    exact hdescribes group ((List.mergeSort_perm _ _).subset hgroup)

theorem toGroup_lines (reportId : String) :
    (aggregatePartnerReconciliationRows localeCompare reportId rows).map
        (fun line => line.toGroup) =
      sortedGroups localeCompare rows := by
  simp only [aggregatePartnerReconciliationRows, List.mapIdx_eq_zipIdx_map, List.map_map]
  exact List.zipIdx_map_fst 0 _

end SeparatedRows

section Reports

def exactTotal (counter : Counter) (rows : List PartnerReconciliationUsageRowInput) : Nat :=
  (rows.map counter.amount).sum

def SumsExactly (localeCompare : String → String → Int)
    (rows : List PartnerReconciliationUsageRowInput) : Prop :=
  ∀ rows', rows'.Perm rows → ∀ counter : Counter,
    (∀ row ∈ rows,
      WholeNumber.runningSum ((rowsOf row.groupFields rows').map counter.amount) =
        .finite (exactTotal counter (rowsOf row.groupFields rows))) ∧
    ((groupOrder localeCompare rows').map fun fields =>
        exactTotal counter (rowsOf fields rows)).foldl
      (fun total n => total.add (.finite n)) (WholeNumber.finite 0) =
        .finite (exactTotal counter rows)

/-- What a line says beyond its id and the order of the ids that it lists. -/
structure LineContent where
  groupFields : GroupFields
  totals : Counter → WholeNumber
  dataDelayMinutesMax : Nat
  requestIds : Finset String
  usageEventIds : Finset String
  slaStatus : SlaStatus
  table : String

def ReportLine.content (line : ReportLine) : LineContent :=
  { groupFields := line.groupFields
    totals := fun counter => counter.total line.toGroup
    dataDelayMinutesMax := line.dataDelayMinutesMax
    requestIds := line.requestIds.toFinset
    usageEventIds := line.usageEventIds.toFinset
    slaStatus := line.slaStatus
    table := line.table }

structure GroupsExactly
    (localeCompare : String → String → Int)
    (reportId : String)
    (rows : List PartnerReconciliationUsageRowInput) : Prop where
  /-- There is one line for the group fields of the rows. -/
  oneLineEach :
    let lines := aggregatePartnerReconciliationRows localeCompare reportId rows
    (lines.map fun line => line.groupFields).Nodup ∧
      ∀ fields, (fields ∈ lines.map fun line => line.groupFields) ↔
        fields ∈ rows.map fun row => row.groupFields
  /-- Two rows are in one group exactly when their group fields are equal. -/
  sameGroup :
    ∀ row ∈ rows, ∀ other ∈ rows,
      row.groupFields.groupKey = other.groupFields.groupKey ↔
        row.groupFields = other.groupFields
  /-- The totals of a line are the sums of the amounts of its rows. -/
  lineTotals :
    ∀ line ∈ aggregatePartnerReconciliationRows localeCompare reportId rows,
      ∀ counter : Counter,
        counter.total line.toGroup = .finite (exactTotal counter (rowsOf line.groupFields rows))
  /-- The totals of the report are the sums of the amounts of all rows. -/
  reportTotals :
    ∀ counter : Counter,
      counter.summaryTotal
          (summarizePartnerReconciliationRows
            (aggregatePartnerReconciliationRows localeCompare reportId rows)) =
        .finite (exactTotal counter rows)
  /-- A line lists the request ids of its rows, each once. -/
  requestIds :
    ∀ line ∈ aggregatePartnerReconciliationRows localeCompare reportId rows,
      line.requestIds.Nodup ∧
        ∀ id, id ∈ line.requestIds ↔
          id ≠ "" ∧ ∃ row ∈ rows,
            row.groupFields = line.groupFields ∧ row.requestId = some id
  /-- A line lists the ids of the usage events of its rows, each once. -/
  usageEventIds :
    ∀ line ∈ aggregatePartnerReconciliationRows localeCompare reportId rows,
      line.usageEventIds.Nodup ∧
        ∀ id, id ∈ line.usageEventIds ↔
          id ≠ "" ∧ ∃ row ∈ rows,
            row.groupFields = line.groupFields ∧ row.usageEventId = some id
  /-- The order of the rows changes neither the lines nor the summary. -/
  orderFree :
    ∀ rows', rows'.Perm rows →
      ((aggregatePartnerReconciliationRows localeCompare reportId rows').map
          ReportLine.content).Perm
        ((aggregatePartnerReconciliationRows localeCompare reportId rows).map
          ReportLine.content) ∧
      summarizePartnerReconciliationRows
          (aggregatePartnerReconciliationRows localeCompare reportId rows') =
        summarizePartnerReconciliationRows
          (aggregatePartnerReconciliationRows localeCompare reportId rows)

variable {reportId : String}
variable {rows rows' : List PartnerReconciliationUsageRowInput}

theorem lines_of_separated (localeCompare : String → String → Int) (reportId : String)
    (h : Separated rows) :
    let lines := aggregatePartnerReconciliationRows localeCompare reportId rows
    (lines.map fun line => line.groupFields) = groupOrder localeCompare rows ∧
      ∀ line ∈ lines, Describes line.toGroup line.groupFields (rowsOf line.groupFields rows) := by
  obtain ⟨hfields, hdescribes⟩ := sortedGroups_of_separated localeCompare h
  rw [← toGroup_lines reportId] at hfields hdescribes
  refine ⟨by simpa [Function.comp_def] using hfields, fun line hline => ?_⟩
  exact hdescribes line.toGroup (List.mem_map_of_mem hline)

theorem sumOfLines_eq {field : ReportLine → WholeNumber} {lines : List ReportLine}
    (amount : GroupFields → Nat)
    (h : ∀ line ∈ lines, field line = .finite (amount line.groupFields)) :
    sumOfLines field lines =
      ((lines.map fun line => line.groupFields).map amount).foldl
        (fun total n => total.add (.finite n)) (.finite 0) := by
  rw [sumOfLines, List.map_map, List.foldl_map]
  refine List.foldl_ext _ _ _ fun total line hline => ?_
  rw [h line hline, Function.comp_apply]

/-- The sum over all rows does not depend on their order. -/
theorem exactTotal_perm (counter : Counter) (h : rows'.Perm rows) :
    exactTotal counter rows' = exactTotal counter rows :=
  (h.map counter.amount).sum_eq

theorem rowsOf_perm (fields : GroupFields) (h : rows'.Perm rows) :
    (rowsOf fields rows').Perm (rowsOf fields rows) :=
  h.filter _

def contentOf (rows : List PartnerReconciliationUsageRowInput) (fields : GroupFields) :
    LineContent :=
  let ofGroup := rowsOf fields rows
  let missingRows := WholeNumber.finite (exactTotal .missingRows ofGroup)
  let errorCount := WholeNumber.finite (exactTotal .errors ofGroup)
  { groupFields := fields
    totals := fun counter => .finite (exactTotal counter ofGroup)
    dataDelayMinutesMax := longestDelay ofGroup
    requestIds := (uniqueStrings (ofGroup.map fun row => row.requestId)).toFinset
    usageEventIds := (uniqueStrings (ofGroup.map fun row => row.usageEventId)).toFinset
    slaStatus := slaStatusOf (longestDelay ofGroup) missingRows errorCount
    table := "aiphabee_core.partner_reconciliation_report_line" }

theorem contentOf_perm (h : rows'.Perm rows) (fields : GroupFields) :
    contentOf rows' fields = contentOf rows fields := by
  have hrows := rowsOf_perm fields h
  have hdelay : longestDelay (rowsOf fields rows') = longestDelay (rowsOf fields rows) :=
    (hrows.map _).foldl_eq 0
  have hids : ∀ id : PartnerReconciliationUsageRowInput → Option String,
      (uniqueStrings ((rowsOf fields rows').map id)).toFinset =
        (uniqueStrings ((rowsOf fields rows).map id)).toFinset := by
    intro id
    ext value
    simp only [List.mem_toFinset, mem_uniqueStrings, (hrows.map id).mem_iff]
  simp only [contentOf, hdelay, hids, exactTotal_perm _ hrows]

theorem lineTotals_of_exact (hseparated : Separated rows) (hexact : SumsExactly localeCompare rows)
    (hperm : rows'.Perm rows) :
    ∀ line ∈ aggregatePartnerReconciliationRows localeCompare reportId rows',
      ∀ counter : Counter,
        counter.total line.toGroup =
          .finite (exactTotal counter (rowsOf line.groupFields rows)) := by
  intro line hline counter
  obtain ⟨hfields, hdescribes⟩ := lines_of_separated localeCompare reportId (hseparated.perm hperm)
  have hmem : line.groupFields ∈ groupOrder localeCompare rows' := by
    rw [← hfields]
    exact List.mem_map_of_mem hline
  obtain ⟨row, hrow, heq⟩ := List.mem_map.mp (((groupOrder_spec _ _).2 _).mp hmem)
  rw [(hdescribes line hline).totals counter, ← heq]
  exact (hexact rows' hperm counter).1 row (hperm.subset hrow)

theorem reportTotals_of_exact (hseparated : Separated rows)
    (hexact : SumsExactly localeCompare rows) (hperm : rows'.Perm rows) (counter : Counter) :
    counter.summaryTotal
        (summarizePartnerReconciliationRows
          (aggregatePartnerReconciliationRows localeCompare reportId rows')) =
      .finite (exactTotal counter rows) := by
  obtain ⟨hfields, -⟩ := lines_of_separated localeCompare reportId (hseparated.perm hperm)
  rw [counter.summaryTotal_summarize,
    sumOfLines_eq (fun fields => exactTotal counter (rowsOf fields rows))
      fun line hline => lineTotals_of_exact hseparated hexact hperm line hline counter,
    hfields]
  exact (hexact rows' hperm counter).2

theorem contents_of_exact (hseparated : Separated rows) (hexact : SumsExactly localeCompare rows)
    (hperm : rows'.Perm rows) :
    (aggregatePartnerReconciliationRows localeCompare reportId rows').map ReportLine.content =
      (groupOrder localeCompare rows').map (contentOf rows) := by
  obtain ⟨hfields, hdescribes⟩ := lines_of_separated localeCompare reportId (hseparated.perm hperm)
  rw [← hfields, List.map_map]
  refine List.map_congr_left fun line hline => ?_
  have htotals := lineTotals_of_exact hseparated hexact hperm line hline
  have hline' := hdescribes line hline
  have hmissing : line.missingRows = _ := htotals .missingRows
  have herrors : line.errorCount = _ := htotals .errors
  rw [Function.comp_apply, ← contentOf_perm hperm]
  have hsums : ∀ counter : Counter,
      exactTotal counter (rowsOf line.groupFields rows') =
        exactTotal counter (rowsOf line.groupFields rows) :=
    fun counter => exactTotal_perm counter (rowsOf_perm _ hperm)
  simp only [ReportLine.content, contentOf, htotals, hsums, hline'.dataDelayMinutesMax,
    hline'.requestIds, hline'.usageEventIds, hline'.slaStatus, hline'.table, hmissing, herrors]

theorem summary_counts_of_perm {lines lines' : List ReportLine}
    (h : (lines'.map ReportLine.content).Perm (lines.map ReportLine.content)) :
    let summary := summarizePartnerReconciliationRows lines
    let summary' := summarizePartnerReconciliationRows lines'
    summary'.datasetCount = summary.datasetCount ∧
      summary'.delayedLineCount = summary.delayedLineCount ∧
      summary'.lineCount = summary.lineCount ∧
      summary'.userCount = summary.userCount := by
  have hdistinct : ∀ field : LineContent → String,
      ((lines'.map ReportLine.content).map field).eraseDups.length =
        ((lines.map ReportLine.content).map field).eraseDups.length := by
    intro field
    refine List.Perm.length_eq ((List.perm_ext_iff_of_nodup
      (nodup_eraseDups _) (nodup_eraseDups _)).mpr fun value => ?_)
    rw [List.mem_eraseDups, List.mem_eraseDups]
    exact (h.map field).mem_iff
  have hdataset := hdistinct fun content => content.groupFields.dataset
  have huser := hdistinct fun content => content.groupFields.userId
  have hdelayed :=
    ((h.filter fun content => 0 < content.dataDelayMinutesMax)).length_eq
  rw [List.map_map, List.map_map] at hdataset huser
  rw [List.filter_map, List.filter_map, List.length_map, List.length_map] at hdelayed
  have hlength := h.length_eq
  rw [List.length_map, List.length_map] at hlength
  exact ⟨hdataset, hdelayed, hlength, huser⟩

theorem groupsExactly_of_separated (hseparated : Separated rows)
    (hexact : SumsExactly localeCompare rows) : GroupsExactly localeCompare reportId rows := by
  obtain ⟨hfields, hdescribes⟩ := lines_of_separated localeCompare reportId hseparated
  obtain ⟨hnodup, hmem⟩ := groupOrder_spec localeCompare rows
  have hids : ∀ id : PartnerReconciliationUsageRowInput → Option String,
      ∀ fields value,
        value ∈ uniqueStrings ((rowsOf fields rows).map id) ↔
          value ≠ "" ∧ ∃ row ∈ rows, row.groupFields = fields ∧ id row = some value := by
    intro id fields value
    rw [mem_uniqueStrings, List.mem_map, and_comm]
    simp only [rowsOf, List.mem_filter, decide_eq_true_eq, and_assoc]
  constructor
  case oneLineEach =>
    intro lines
    rw [hfields]
    exact ⟨hnodup, hmem⟩
  case sameGroup =>
    intro row hrow other hother
    refine ⟨separated_iff.mp hseparated row hrow other hother, fun heq => ?_⟩
    rw [heq]
  case lineTotals =>
    exact lineTotals_of_exact hseparated hexact (List.Perm.refl rows)
  case reportTotals =>
    exact reportTotals_of_exact hseparated hexact (List.Perm.refl rows)
  case requestIds =>
    intro line hline
    rw [(hdescribes line hline).requestIds]
    exact ⟨nodup_uniqueStrings _, hids _ _⟩
  case usageEventIds =>
    intro line hline
    rw [(hdescribes line hline).usageEventIds]
    exact ⟨nodup_uniqueStrings _, hids _ _⟩
  case orderFree =>
    intro rows' hperm
    have hcontents :
        ((aggregatePartnerReconciliationRows localeCompare reportId rows').map
            ReportLine.content).Perm
          ((aggregatePartnerReconciliationRows localeCompare reportId rows).map
            ReportLine.content) := by
      rw [contents_of_exact hseparated hexact hperm,
        contents_of_exact hseparated hexact (List.Perm.refl rows)]
      refine List.Perm.map _ ((List.perm_ext_iff_of_nodup
        (groupOrder_spec localeCompare rows').1 hnodup).mpr fun fields => ?_)
      rw [(groupOrder_spec localeCompare rows').2, hmem]
      exact (hperm.map _).mem_iff
    refine ⟨hcontents, ?_⟩
    obtain ⟨hdataset, hdelayed, hline, huser⟩ := summary_counts_of_perm hcontents
    have htotals : ∀ counter : Counter,
        counter.summaryTotal
            (summarizePartnerReconciliationRows
              (aggregatePartnerReconciliationRows localeCompare reportId rows')) =
          counter.summaryTotal
            (summarizePartnerReconciliationRows
              (aggregatePartnerReconciliationRows localeCompare reportId rows)) := by
      intro counter
      rw [reportTotals_of_exact hseparated hexact hperm,
        reportTotals_of_exact hseparated hexact (List.Perm.refl rows)]
    exact Summary.ext (htotals .backfill) (htotals .credits) hdataset hdelayed (htotals .errors)
      hline (htotals .meteredRows) (htotals .missingRows) (htotals .usage) huser

theorem GroupsExactly.separated (h : GroupsExactly localeCompare reportId rows) : Separated rows :=
  separated_iff.mpr fun row hrow other hother => (h.sameGroup row hrow other hother).mp

theorem GroupsExactly.sumsExactly (h : GroupsExactly localeCompare reportId rows) :
    SumsExactly localeCompare rows := by
  intro rows' hperm counter
  obtain ⟨hfields, hdescribes⟩ := lines_of_separated localeCompare reportId (h.separated.perm hperm)
  obtain ⟨hcontents, hsummary⟩ := h.orderFree rows' hperm
  -- A line of the other order has the content of a line of the given one.
  have htotal : ∀ line ∈ aggregatePartnerReconciliationRows localeCompare reportId rows',
      counter.total line.toGroup =
        .finite (exactTotal counter (rowsOf line.groupFields rows)) := by
    intro line hline
    obtain ⟨other, hother, hcontent⟩ :=
      List.mem_map.mp (hcontents.subset (List.mem_map_of_mem hline))
    have hgroup : other.groupFields = line.groupFields :=
      congrArg LineContent.groupFields hcontent
    have htotals : counter.total other.toGroup = counter.total line.toGroup :=
      congrFun (congrArg LineContent.totals hcontent) counter
    rw [← htotals, h.lineTotals other hother counter, hgroup]
  constructor
  · intro row hrow
    have hmem : row.groupFields ∈ groupOrder localeCompare rows' :=
      ((groupOrder_spec _ _).2 _).mpr
        (List.mem_map_of_mem (hperm.symm.subset hrow))
    rw [← hfields] at hmem
    obtain ⟨line, hline, heq⟩ := List.mem_map.mp hmem
    have hline' := htotal line hline
    rwa [(hdescribes line hline).totals counter, heq] at hline'
  · have htotals := h.reportTotals counter
    rw [← hsummary, counter.summaryTotal_summarize,
      sumOfLines_eq (fun fields => exactTotal counter (rowsOf fields rows)) htotal,
      hfields] at htotals
    exact htotals

/--
A report groups its rows exactly if and only if sanitising does not merge the
group fields of two rows and the sums are exact.
-/
theorem groupsExactly_iff (localeCompare : String → String → Int) (reportId : String)
    (rows : List PartnerReconciliationUsageRowInput) :
    GroupsExactly localeCompare reportId rows ↔
      Separated rows ∧ SumsExactly localeCompare rows :=
  ⟨fun h => ⟨h.separated, h.sumsExactly⟩, fun h => groupsExactly_of_separated h.1 h.2⟩

def byCodePoint (left right : String) : Int :=
  if left < right then -1 else if right < left then 1 else 0

/-- The two users are reported as one. -/
theorem mergedUsers_not_groupsExactly :
    ¬GroupsExactly byCodePoint "weekly"
      [{ dataset := some "quotes", userId := some "user-1", credits := some (.finite 3) },
        { dataset := some "quotes", userId := some "user_1", credits := some (.finite 5) }] := by
  intro h
  have hsame := separated_iff.mp h.separated _ List.mem_cons_self _
    (List.mem_cons_of_mem _ List.mem_cons_self)
  revert hsame
  decide

end Reports

end Aiphabee.PartnerReconciliation
