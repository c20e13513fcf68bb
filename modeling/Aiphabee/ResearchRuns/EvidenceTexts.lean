import Aiphabee.ResearchRuns.ReplayPlan

/-!
# The stable text of saved evidence

The text of the evidence of a plan shows the fields without a value, the text of
the evidence that a client posts back does not.  So the posted evidence has the
text of a plan's evidence exactly when it is the same and no field of it lacks a
value.
-/

namespace Aiphabee.ResearchRuns

open StableJson

structure DocumentLocation.Complete (location : DocumentLocation) : Prop where
  anchor : location.anchor ≠ none
  documentId : location.documentId ≠ none
  page : location.page ≠ none
  paragraph : location.paragraph ≠ none
  sourceRecordId : location.sourceRecordId ≠ none

structure ResearchRunSavedEvidenceRecord.Complete
    (saved : ResearchRunSavedEvidenceRecord) : Prop where
  citationLabel : saved.citationLabel ≠ none
  documentLocation : ∃ location, saved.documentLocation = some location ∧ location.Complete

section Optional

theorem optionalText_eq_undefined_iff {value : Option JsText} :
    optionalText value = .undefined ↔ value = none := by
  cases value <;> simp [optionalText, orUndefined]

variable {value : Option FiniteNumber}

theorem optionalNumber_eq_undefined_iff :
    optionalNumber value = .undefined ↔ value = none := by
  cases value <;> simp [optionalNumber, orUndefined]

theorem optionalText_inj {first second : Option JsText} :
    optionalText first = optionalText second ↔ first = second := by
  cases first <;> cases second <;> simp [optionalText, orUndefined]

theorem optionalNumber_inj {first second : Option FiniteNumber} :
    optionalNumber first = optionalNumber second ↔ first = second := by
  cases first <;> cases second <;> simp [optionalNumber, orUndefined]

theorem ordered_optionalText (value : Option JsText) : Ordered (optionalText value) := by
  cases value <;> trivial

theorem ordered_optionalNumber (value : Option FiniteNumber) : Ordered (optionalNumber value) := by
  cases value <;> trivial

theorem isJson_optionalText {value : Option JsText} (h : value ≠ none) :
    IsJson (optionalText value) := by
  cases value with
  | none => exact absurd rfl h
  | some text => trivial

theorem isJson_optionalNumber (h : value ≠ none) : IsJson (optionalNumber value) := by
  cases value with
  | none => exact absurd rfl h
  | some number => trivial

end Optional

theorem DocumentLocation.ordered_toValue (location : DocumentLocation) :
    Ordered location.toValue := by
  refine ordered_record ?_ ?_
  · show (["anchor", "document_id", "page", "paragraph", "source_record_id"].map
      JsText.ofString).Pairwise (· ≤ ·)
    decide +kernel
  · simp only [List.forall_mem_cons, ordered_optionalText, ordered_optionalNumber,
      List.not_mem_nil, false_implies, implies_true, and_self]

theorem DocumentLocation.toValue_inj {first second : DocumentLocation} :
    first.toValue = second.toValue ↔ first = second := by
  obtain ⟨a, b, c, d, e⟩ := first
  obtain ⟨a', b', c', d', e'⟩ := second
  simp only [toValue, record, Value.object.injEq, List.map_cons, List.map_nil, List.cons.injEq,
    Prod.mk.injEq, true_and, and_true, optionalText_inj, optionalNumber_inj, mk.injEq]

theorem DocumentLocation.Complete.isJson {location : DocumentLocation} (h : location.Complete) :
    IsJson location.toValue := by
  rw [DocumentLocation.toValue, record, IsJson, fieldsJson_iff]
  simp only [List.map_cons, List.map_nil, List.forall_mem_cons, List.not_mem_nil,
    false_implies, implies_true, and_true]
  exact ⟨isJson_optionalText h.anchor, isJson_optionalText h.documentId,
    isJson_optionalNumber h.page, isJson_optionalNumber h.paragraph,
    isJson_optionalText h.sourceRecordId⟩

theorem DocumentLocation.roundTrip_eq_iff {posted location : DocumentLocation} :
    roundTrip posted.toValue = location.toValue ↔ posted = location ∧ posted.Complete := by
  constructor
  · intro h
    have hfields := congrArg (fun value => match value with
      | .object fields => fields.length
      | _ => 0) h
    simp only [toValue, record, roundTrip] at hfields
    have hdefined := defined_of_length_roundTripFields (hfields.trans rfl)
    simp only [List.map_cons, List.map_nil, List.forall_mem_cons, List.not_mem_nil,
      false_implies, implies_true, and_true, ne_eq, optionalText_eq_undefined_iff,
      optionalNumber_eq_undefined_iff] at hdefined
    obtain ⟨hanchor, hdocument, hpage, hparagraph, hsource⟩ := hdefined
    have hcomplete : posted.Complete := ⟨hanchor, hdocument, hpage, hparagraph, hsource⟩
    rw [roundTrip_of_isJson _ hcomplete.isJson] at h
    exact ⟨toValue_inj.mp h, hcomplete⟩
  · rintro ⟨rfl, hcomplete⟩
    exact roundTrip_of_isJson _ hcomplete.isJson

section Records

variable {saved posted : ResearchRunSavedEvidenceRecord}

theorem location_inj {first second : Option DocumentLocation} :
    orUndefined (first.map DocumentLocation.toValue) =
      orUndefined (second.map DocumentLocation.toValue) ↔ first = second := by
  cases first with
  | none =>
    cases second with
    | none => simp
    | some location => simp [orUndefined, DocumentLocation.toValue, record]
  | some location =>
    cases second with
    | none => simp [orUndefined, DocumentLocation.toValue, record]
    | some other => simp [orUndefined, DocumentLocation.toValue_inj]

theorem sourceRecordIds_inj {first second : List JsText} :
    first.map Value.string = second.map Value.string ↔ first = second := by
  refine List.map_inj_right ?_
  intro a b h
  exact Value.string.inj h

theorem ResearchRunSavedEvidenceRecord.ordered_toValue (saved : ResearchRunSavedEvidenceRecord) :
    Ordered saved.toValue := by
  refine ordered_record ?_ ?_
  · show (["citation_label", "data_version", "document_location", "evidence_record_id",
      "methodology_version", "source_record_ids"].map JsText.ofString).Pairwise (· ≤ ·)
    decide +kernel
  · have hlocation :
        Ordered (orUndefined (saved.documentLocation.map DocumentLocation.toValue)) := by
      cases saved.documentLocation with
      | none => trivial
      | some location => exact location.ordered_toValue
    have hids : Ordered (.array (saved.sourceRecordIds.map .string)) := by
      rw [Ordered, orderedElements_iff]
      intro element helement
      obtain ⟨id, _, rfl⟩ := List.mem_map.mp helement
      trivial
    simp only [List.forall_mem_cons, ordered_optionalText, hlocation, hids, List.not_mem_nil,
      false_implies, implies_true, and_true, true_and]
    exact ⟨trivial, trivial, trivial⟩

theorem ResearchRunSavedEvidenceRecord.toValue_ne_undefined
    (saved : ResearchRunSavedEvidenceRecord) : saved.toValue ≠ .undefined := by
  rw [toValue, record]
  intro hundefined
  cases hundefined

theorem ResearchRunSavedEvidenceRecord.toValue_inj :
    posted.toValue = saved.toValue ↔ posted = saved := by
  obtain ⟨a, b, c, d, e, f⟩ := posted
  obtain ⟨a', b', c', d', e', f'⟩ := saved
  simp only [toValue, record, Value.object.injEq, List.map_cons, List.map_nil, List.cons.injEq,
    Prod.mk.injEq, true_and, and_true, optionalText_inj, location_inj, Value.string.injEq,
    Value.array.injEq, sourceRecordIds_inj, mk.injEq]

theorem isJson_sourceRecordIds (ids : List JsText) : IsJson (.array (ids.map .string)) := by
  rw [IsJson]
  induction ids with
  | nil => trivial
  | cons id rest ih => exact ⟨trivial, ih⟩

theorem ResearchRunSavedEvidenceRecord.Complete.isJson (h : saved.Complete) :
    IsJson saved.toValue := by
  obtain ⟨location, hlocation, hcomplete⟩ := h.documentLocation
  rw [ResearchRunSavedEvidenceRecord.toValue, record, IsJson, fieldsJson_iff, hlocation]
  simp only [List.map_cons, List.map_nil, List.forall_mem_cons, List.not_mem_nil,
    false_implies, implies_true, and_true]
  exact ⟨isJson_optionalText h.citationLabel, trivial, hcomplete.isJson, trivial, trivial,
    isJson_sourceRecordIds _⟩

theorem ResearchRunSavedEvidenceRecord.roundTrip_eq_iff :
    roundTrip posted.toValue = saved.toValue ↔ posted = saved ∧ posted.Complete := by
  constructor
  · intro h
    have hfields := congrArg (fun value => match value with
      | .object fields => fields.length
      | _ => 0) h
    simp only [toValue, record, roundTrip] at hfields
    have hdefined := defined_of_length_roundTripFields (hfields.trans rfl)
    have hmap := h
    rw [toValue, record, roundTrip, roundTripFields_of_defined hdefined, toValue, record] at hmap
    simp only [List.map_cons, List.map_nil, List.forall_mem_cons, ne_eq,
      optionalText_eq_undefined_iff] at hdefined
    obtain ⟨hlabel, -, hlocation, -⟩ := hdefined
    simp only [List.map_cons, List.map_nil, Value.object.injEq, List.cons.injEq, Prod.mk.injEq,
      true_and] at hmap
    obtain ⟨-, -, hlocations, -⟩ := hmap
    have hcomplete : posted.Complete := by
      refine ⟨hlabel, ?_⟩
      cases hposted : posted.documentLocation with
      | none =>
        rw [hposted] at hlocation
        exact absurd rfl hlocation
      | some location =>
        rw [hposted] at hlocations
        cases hsaved : saved.documentLocation with
        | none =>
          rw [hsaved] at hlocations
          simp only [Option.map_some, Option.map_none, orUndefined, DocumentLocation.toValue,
            record, roundTrip, reduceCtorEq] at hlocations
        | some other =>
          rw [hsaved] at hlocations
          exact ⟨location, rfl, (DocumentLocation.roundTrip_eq_iff.mp hlocations).2⟩
    rw [roundTrip_of_isJson _ hcomplete.isJson] at h
    exact ⟨toValue_inj.mp h, hcomplete⟩
  · rintro ⟨rfl, hcomplete⟩
    exact roundTrip_of_isJson _ hcomplete.isJson

end Records

section Evidence

variable {form : SavedForm}
variable {previous current : List ResearchRunSavedEvidenceRecord}

theorem ordered_evidenceValue (records : List ResearchRunSavedEvidenceRecord) :
    Ordered (evidenceValue records) := by
  rw [evidenceValue, Ordered, orderedElements_iff]
  intro element helement
  obtain ⟨saved, _, rfl⟩ := List.mem_map.mp helement
  exact saved.ordered_toValue

theorem regular_evidenceValue (records : List ResearchRunSavedEvidenceRecord) :
    Regular (evidenceValue records) := by
  rw [evidenceValue, Regular]
  induction records with
  | nil => trivial
  | cons saved rest ih =>
    refine ⟨?_, ?_, ih⟩
    · exact saved.toValue_ne_undefined
    · rw [ResearchRunSavedEvidenceRecord.toValue, record, Regular, regularFields_iff]
      have hoptional : ∀ value, Regular (optionalText value) := by
        intro value
        cases value <;> trivial
      have hnumber : ∀ value, Regular (optionalNumber value) := by
        intro value
        cases value <;> trivial
      have hlocation : Regular
          (orUndefined (saved.documentLocation.map DocumentLocation.toValue)) := by
        cases saved.documentLocation with
        | none => trivial
        | some location =>
          rw [Option.map_some, orUndefined, DocumentLocation.toValue, record, Regular,
            regularFields_iff]
          simp only [List.map_cons, List.map_nil, List.forall_mem_cons, hoptional, hnumber,
            List.not_mem_nil, false_implies, implies_true, and_true]
      simp only [List.map_cons, List.map_nil, List.forall_mem_cons, hoptional, hlocation,
        List.not_mem_nil, false_implies, implies_true, and_true, true_and]
      exact ⟨trivial, trivial, trivial, IsJson.regular _ (isJson_sourceRecordIds _)⟩

theorem SavedForm.ordered_read {value : Value} (h : Ordered value) : Ordered (form.read value) := by
  cases form with
  | plan => exact h
  | json => exact h.roundTrip

theorem SavedForm.regular_readEvidence :
    Regular (form.read (evidenceValue previous)) := by
  cases form with
  | plan => exact regular_evidenceValue previous
  | json =>
    exact IsJson.regular _ (isJson_roundTrip _ (by rw [evidenceValue]; exact nofun))

/-- The elements of two arrays are equal when equality means one thing at every place. -/
theorem map_eq_map_iff {α β γ δ : Type} {f : α → γ} {g : β → γ} {f' : α → δ} {g' : β → δ}
    {as : List α} {bs : List β} (h : ∀ a ∈ as, ∀ b ∈ bs, f a = g b ↔ f' a = g' b) :
    as.map f = bs.map g ↔ as.map f' = bs.map g' := by
  induction as generalizing bs with
  | nil => cases bs <;> simp
  | cons a as ih =>
    cases bs with
    | nil => simp
    | cons b bs =>
      simp only [List.map_cons, List.cons.injEq]
      rw [h a List.mem_cons_self b List.mem_cons_self,
        ih fun a ha b hb => h a (List.mem_cons_of_mem _ ha) b (List.mem_cons_of_mem _ hb)]

theorem readEvidence_eq_iff :
    form.read (evidenceValue previous) = evidenceValue current ↔
      previous = current ∧ (form = .json → ∀ saved ∈ previous, saved.Complete) := by
  cases form with
  | plan =>
    have hinj : Function.Injective ResearchRunSavedEvidenceRecord.toValue := by
      intro a b h
      exact ResearchRunSavedEvidenceRecord.toValue_inj.mp h
    simp only [SavedForm.read, evidenceValue, Value.array.injEq, reduceCtorEq, false_implies,
      and_true]
    exact List.map_inj_right hinj
  | json =>
    simp only [SavedForm.read, evidenceValue, roundTrip, Value.array.injEq, true_implies]
    rw [roundTripElements_of_defined, List.map_map]
    · induction previous generalizing current with
      | nil => cases current <;> simp
      | cons posted rest ih =>
        cases current with
        | nil => simp
        | cons saved others =>
          simp only [List.map_cons, List.cons.injEq, Function.comp_apply,
            ResearchRunSavedEvidenceRecord.roundTrip_eq_iff, ih, List.forall_mem_cons]
          tauto
    · intro element helement
      obtain ⟨saved, _, rfl⟩ := List.mem_map.mp helement
      exact saved.toValue_ne_undefined

theorem evidenceText_eq_iff :
    stableStringify (form.read (evidenceValue previous)) =
        stableStringify (evidenceValue current) ↔
      previous = current ∧ (form = .json → ∀ saved ∈ previous, saved.Complete) := by
  rw [stableStringify_eq_iff SavedForm.regular_readEvidence (regular_evidenceValue current),
    canonical_of_ordered _ (SavedForm.ordered_read (ordered_evidenceValue previous)),
    canonical_of_ordered _ (ordered_evidenceValue current), readEvidence_eq_iff]

end Evidence

end Aiphabee.ResearchRuns
