import Aiphabee.IpoPublic.ComparedFacts

/-!
# The observations that are not compared

An observation of a field that is not compared becomes a candidate, once for
every source, record and field.  So every observation is in a comparison or is a
candidate exactly when no record shows a field that is not compared twice, with
different identifiers.
-/

namespace Aiphabee.IpoPublic

variable (platform : Platform)
variable {observations : List Observation}

section UniqueBy

variable {ρ κ : Type} [DecidableEq κ]
variable {key : ρ → κ}

theorem uniqueBy_concat (rows : List ρ) (row : ρ) :
    uniqueBy key (rows ++ [row]) =
      if (uniqueBy key rows).any fun other => key other = key row then uniqueBy key rows
      else uniqueBy key rows ++ [row] := by
  rw [uniqueBy, List.foldl_append]
  rfl

theorem uniqueBy_spec (rows : List ρ) :
    (∀ row ∈ uniqueBy key rows, row ∈ rows) ∧
      (∀ row ∈ rows, ∃ kept ∈ uniqueBy key rows, key kept = key row) ∧
      ((uniqueBy key rows).map key).Nodup := by
  induction rows using List.reverseRecOn with
  | nil => exact ⟨fun _ h => h, fun _ h => (List.not_mem_nil h).elim, List.nodup_nil⟩
  | append_singleton rows row ih =>
    obtain ⟨hsub, hkept, hnodup⟩ := ih
    rw [uniqueBy_concat]
    split
    · next hany =>
        obtain ⟨other, hother, hkey⟩ := List.any_eq_true.mp hany
        refine ⟨fun kept hmem => List.mem_append_left _ (hsub kept hmem), ?_, hnodup⟩
        intro candidate hmem
        rcases List.mem_append.mp hmem with hold | hnew
        · exact hkept candidate hold
        · rw [List.mem_singleton.mp hnew]
          exact ⟨other, hother, of_decide_eq_true hkey⟩
    · next hany =>
        refine ⟨?_, ?_, ?_⟩
        · intro kept hmem
          rcases List.mem_append.mp hmem with hold | hnew
          · exact List.mem_append_left _ (hsub kept hold)
          · exact List.mem_append_right _ hnew
        · intro candidate hmem
          rcases List.mem_append.mp hmem with hold | hnew
          · obtain ⟨kept, hin, hkey⟩ := hkept candidate hold
            exact ⟨kept, List.mem_append_left _ hin, hkey⟩
          · exact ⟨candidate, List.mem_append_right _ hnew, rfl⟩
        · rw [List.map_append, List.nodup_append']
          refine ⟨hnodup, List.nodup_singleton _, ?_⟩
          intro k hold hnew
          obtain ⟨other, hother, rfl⟩ := List.mem_map.mp hold
          refine hany (List.any_eq_true.mpr ⟨other, hother, decide_eq_true ?_⟩)
          simpa using hnew

end UniqueBy

def FieldName.all : List FieldName :=
  [.companyName, .companySummaryUrl, .industry, .offerPriceOrRange, .listingPrice, .lotSize,
    .entryFeeHkd, .closingDate, .listingDate, .oversubscriptionRate, .oneLotSuccessRate,
    .appliedLotsForOneLot, .greyMarketDate, .applyEndTime, .applyRate, .applyResultDate,
    .applyStartDate, .issueHighPrice, .issueLowPrice, .listedDate, .lowestFeeHkd,
    .prospectusUrl, .securityName, .securityNameEn, .securityNameZhHant, .sponsors,
    .sponsorsZhHant, .stockStatus, .issuePriceRange]

theorem FieldName.mem_all (fieldName : FieldName) : fieldName ∈ FieldName.all := by
  cases fieldName <;> decide

theorem FieldName.texts :
    (FieldName.all.map FieldName.text).Nodup ∧
      ∀ fieldName ∈ FieldName.all, 58 ∉ fieldName.text := by
  decide +kernel

theorem FieldName.text_inj {first second : FieldName} (h : first.text = second.text) :
    first = second :=
  List.inj_on_of_nodup_map FieldName.texts.1 first.mem_all second.mem_all h

theorem FieldName.colon_not_mem_text (fieldName : FieldName) : 58 ∉ fieldName.text :=
  FieldName.texts.2 fieldName fieldName.mem_all

theorem SourceId.text_append_inj {first second : SourceId} {r s : JsText}
    (h : first.text ++ 58 :: r = second.text ++ 58 :: s) : first = second ∧ r = s := by
  have hdiffer : ∀ r s : JsText, SourceId.text .aastocksIpoPlus ++ r ≠
      SourceId.text .vbkrHkIpo ++ s := by
    intro r s hsame
    have hfirst : (SourceId.text .aastocksIpoPlus ++ r).take 1 =
        (SourceId.text .vbkrHkIpo ++ s).take 1 := by
      rw [hsame]
    rw [List.take_append_of_le_length (by decide +kernel),
      List.take_append_of_le_length (by decide +kernel)] at hfirst
    exact absurd hfirst (by decide +kernel)
  cases first with
  | aastocksIpoPlus =>
    cases second with
    | aastocksIpoPlus => exact ⟨rfl, (List.cons.inj (List.append_cancel_left h)).2⟩
    | vbkrHkIpo => exact absurd h (hdiffer _ _)
  | vbkrHkIpo =>
    cases second with
    | aastocksIpoPlus => exact absurd h.symm (hdiffer _ _)
    | vbkrHkIpo => exact ⟨rfl, (List.cons.inj (List.append_cancel_left h)).2⟩

/-- Texts in front of a last part without the separator are read back. -/
theorem append_separator_inj {α : Type} {separator : α} {r s last other : List α}
    (hlast : separator ∉ last) (hother : separator ∉ other)
    (h : r ++ separator :: last = s ++ separator :: other) : r = s ∧ last = other := by
  rcases List.append_eq_append_iff.mp h with ⟨t, rfl, ht⟩ | ⟨t, rfl, ht⟩
  · cases t with
    | nil => exact ⟨(List.append_nil _).symm, (List.cons.inj ht).2⟩
    | cons c t =>
      have hmem : separator ∈ last := by
        rw [(List.cons.inj ht).2]
        exact List.mem_append_right _ List.mem_cons_self
      exact absurd hmem hlast
  · cases t with
    | nil => exact ⟨List.append_nil _, (List.cons.inj ht).2.symm⟩
    | cons c t =>
      have hmem : separator ∈ other := by
        rw [(List.cons.inj ht).2]
        exact List.mem_append_right _ List.mem_cons_self
      exact absurd hmem hother

theorem SupplementCandidate.key_eq_iff {first second : SupplementCandidate} :
    first.key = second.key ↔
      first.sourceId = second.sourceId ∧ first.sourceRecordId = second.sourceRecordId ∧
        first.fieldName = second.fieldName := by
  constructor
  · intro h
    rw [SupplementCandidate.key, SupplementCandidate.key] at h
    simp only [List.append_assoc, List.cons_append] at h
    obtain ⟨hsource, hrest⟩ := SourceId.text_append_inj h
    obtain ⟨hrecord, hfield⟩ := append_separator_inj first.fieldName.colon_not_mem_text
      second.fieldName.colon_not_mem_text hrest
    exact ⟨hsource, hrecord, FieldName.text_inj hfield⟩
  · rintro ⟨hsource, hrecord, hfield⟩
    rw [SupplementCandidate.key, SupplementCandidate.key, hsource, hrecord, hfield]

section ComparedFields

/-- Some observation of the field gives a value to a fact. -/
def FieldCompared (observations : List Observation) (fieldName : FieldName) : Prop :=
  ∃ observation ∈ observations, observation.fieldName = fieldName ∧
    ∃ factName, supplies platform factName observation = true

def ShownOnce (observations : List Observation) : Prop :=
  ∀ first ∈ observations, ∀ second ∈ observations,
    first.sourceId = second.sourceId → first.sourceRecordId = second.sourceRecordId →
    first.fieldName = second.fieldName → first.fieldName ≠ .companySummaryUrl →
    ¬FieldCompared platform observations first.fieldName →
    first.observationId = second.observationId

variable {platform : Platform}

variable {observation : Observation}

theorem supplies_observes {factName : FactName}
    (h : supplies platform factName observation = true) : observation.observes factName = true := by
  cases factName with
  | issuePriceRange =>
    rw [supplies, Bool.and_eq_true] at h
    exact observes_range_iff.mpr (Or.inl h.1)
  | _ =>
    rw [supplies, Bool.and_eq_true] at h
    exact h.1

theorem fieldName_ne_issuePriceRange (observation : Observation) :
    observation.fieldName ≠ .issuePriceRange := by
  have hall : ∀ sourceId : SourceId, FieldName.issuePriceRange ∉ sourceId.fields := by
    intro sourceId
    cases sourceId <;> decide
  intro hfield
  have hknown := observation.fieldKnown
  rw [hfield] at hknown
  exact hall observation.sourceId hknown

theorem comparison_of_supplies {factName : FactName} (hmem : observation ∈ observations)
    (h : supplies platform factName observation = true) :
    factValues platform observations factName ≠ [] := by
  by_cases hfact : factName = .issuePriceRange
  · subst hfact
    rw [supplies, Bool.and_eq_true] at h
    obtain ⟨value, hparsed, -, -⟩ := exists_parsedValue h.2
    exact List.ne_nil_of_mem (mem_rangeValues.mpr (Or.inl ⟨observation, hmem, h.1, hparsed⟩))
  · exact List.ne_nil_of_mem ((mem_factValues hfact).mpr ⟨observation, hmem, h, rfl⟩)

theorem mem_comparedFields_iff :
    observation.fieldName ∈ comparedFields (securityComparisons platform observations) ↔
      FieldCompared platform observations observation.fieldName := by
  rw [comparedFields, List.mem_flatMap]
  constructor
  · rintro ⟨comparison, hcomparison, hfield⟩
    obtain ⟨value, hvalue, hname⟩ := List.mem_map.mp hfield
    obtain ⟨factName, hsome⟩ := mem_securityComparisons.mp hcomparison
    obtain ⟨-, -, hvalues, -⟩ := compareValues_eq_some_iff.mp hsome
    rw [hvalues] at hvalue
    by_cases hfact : factName = .issuePriceRange
    · subst hfact
      rcases mem_rangeValues.mp hvalue with ⟨other, hother, hof, hparsed⟩ | ⟨low, high, -, -, rfl⟩
      · obtain ⟨range, hrange, rfl⟩ := Option.map_eq_some_iff.mp hparsed
        refine ⟨other, hother, hname, .issuePriceRange, ?_⟩
        rw [supplies, hof, hrange]
        rfl
      · exact absurd hname.symm (fieldName_ne_issuePriceRange observation)
    · obtain ⟨other, hother, hsupplies, rfl⟩ := (mem_factValues hfact).mp hvalue
      exact ⟨other, hother, hname, factName, hsupplies⟩
  · rintro ⟨other, hother, hname, factName, hsupplies⟩
    obtain ⟨comparison, hsome⟩ := compareValues_isSome factName
      (comparison_of_supplies hother hsupplies)
    obtain ⟨-, -, hvalues, -⟩ := compareValues_eq_some_iff.mp hsome
    refine ⟨comparison, mem_securityComparisons.mpr ⟨factName, hsome⟩, ?_⟩
    rw [hvalues, ← hname]
    by_cases hfact : factName = .issuePriceRange
    · subst hfact
      rw [supplies, Bool.and_eq_true] at hsupplies
      obtain ⟨value, hparsed, -, hvalue⟩ := exists_parsedValue hsupplies.2
      exact List.mem_map.mpr ⟨value, mem_rangeValues.mpr (Or.inl
        ⟨other, hother, hsupplies.1, hparsed⟩), hvalue⟩
    · exact List.mem_map.mpr ⟨_, (mem_factValues hfact).mpr ⟨other, hother, hsupplies, rfl⟩, rfl⟩

theorem observes_of_fieldCompared (h : FieldCompared platform observations observation.fieldName) :
    ∃ factName, observation.observes factName = true ∧
      factValues platform observations factName ≠ [] := by
  obtain ⟨other, hother, hname, factName, hsupplies⟩ := h
  refine ⟨factName, ?_, comparison_of_supplies hother hsupplies⟩
  obtain ⟨selector, hselector, hof⟩ := List.any_eq_true.mp (supplies_observes hsupplies)
  rw [Observation.isOf_iff] at hof
  rw [hname] at hof
  have hknown := observation.fieldKnown
  -- apart from the size of a lot, a field belongs to one source
  cases factName with
  | lotSize =>
    simp only [FactName.selectors, List.mem_cons, List.not_mem_nil, or_false] at hselector
    have hlot : observation.fieldName = .lotSize := by
      rcases hselector with rfl | rfl <;> exact hof.2
    cases hsource : observation.sourceId <;>
      simp [Observation.observes, FactName.selectors, Observation.isOf, hsource, hlot]
  | listingDate =>
    simp only [FactName.selectors, List.mem_cons, List.not_mem_nil, or_false] at hselector
    rcases hselector with rfl | rfl <;> rw [hof.2] at hknown <;>
      cases hsource : observation.sourceId <;> rw [hsource] at hknown <;>
      first
      | exact absurd hknown (by decide)
      | simp [Observation.observes, FactName.selectors, Observation.isOf, hsource, hof.2]
  | issuePriceRange =>
    simp only [FactName.selectors, List.mem_cons, List.not_mem_nil, or_false] at hselector
    rcases hselector with rfl | rfl | rfl <;> rw [hof.2] at hknown <;>
      cases hsource : observation.sourceId <;> rw [hsource] at hknown <;>
      first
      | exact absurd hknown (by decide)
      | simp [Observation.observes, FactName.selectors, Observation.isOf, hsource, hof.2]

end ComparedFields

section Coverage

def InComparison (observations : List Observation) (observation : Observation) : Prop :=
  ∃ comparison ∈ securityComparisons platform observations,
    observation.observationId ∈ observationIdsFromValues comparison.values

def IsCandidate (observations : List Observation) (observation : Observation) : Prop :=
  ∃ candidate ∈ collectSupplementCandidates observations
      (securityComparisons platform observations),
    candidate.observationId = observation.observationId

variable {platform : Platform}

theorem mem_candidates {candidate : SupplementCandidate}
    (h : candidate ∈ collectSupplementCandidates observations
      (securityComparisons platform observations)) :
    ∃ observation ∈ observations, candidate = supplementCandidate observation ∧
      ¬FieldCompared platform observations observation.fieldName ∧
      observation.fieldName ≠ .companySummaryUrl := by
  have hmem := (uniqueBy_spec _).1 candidate h
  obtain ⟨observation, hfilter, rfl⟩ := List.mem_map.mp hmem
  obtain ⟨hobservation, hfield⟩ := List.mem_filter.mp hfilter
  obtain ⟨hcompared, hsummary⟩ := of_decide_eq_true hfield
  exact ⟨observation, hobservation, rfl, fun h => hcompared (mem_comparedFields_iff.mpr h),
    hsummary⟩

theorem exists_candidate {observation : Observation} (hmem : observation ∈ observations)
    (hcompared : ¬FieldCompared platform observations observation.fieldName)
    (hsummary : observation.fieldName ≠ .companySummaryUrl) :
    ∃ candidate ∈ collectSupplementCandidates observations
        (securityComparisons platform observations),
      candidate.key = (supplementCandidate observation).key := by
  refine (uniqueBy_spec _).2.1 (supplementCandidate observation) ?_
  refine List.mem_map.mpr ⟨observation, List.mem_filter.mpr ⟨hmem, decide_eq_true ?_⟩, rfl⟩
  exact ⟨fun h => hcompared (mem_comparedFields_iff.mp h), hsummary⟩

theorem candidate_eq_of_key {first second : SupplementCandidate}
    (hfirst : first ∈ collectSupplementCandidates observations
      (securityComparisons platform observations))
    (hsecond : second ∈ collectSupplementCandidates observations
      (securityComparisons platform observations))
    (h : first.key = second.key) :
    first = second :=
  List.inj_on_of_nodup_map (uniqueBy_spec _).2.2 hfirst hsecond h

theorem isLow_or_isHigh_of_inComparison
    (hid : ∀ first ∈ observations, ∀ second ∈ observations,
      first.observationId = second.observationId → first.SameButForTime second)
    {observation : Observation}
    (hmem : observation ∈ observations)
    (hcompared : ¬FieldCompared platform observations observation.fieldName)
    (h : InComparison platform observations observation) :
    factValues platform observations .issuePriceRange ≠ [] ∧
      (observation.isLow = true ∨ observation.isHigh = true) := by
  obtain ⟨comparison, hcomparison, hlisted⟩ := h
  obtain ⟨factName, hsome⟩ := mem_securityComparisons.mp hcomparison
  obtain ⟨hne, -, hvalues, -⟩ := compareValues_eq_some_iff.mp hsome
  rw [hvalues] at hlisted
  by_cases hfact : factName = .issuePriceRange
  · subst hfact
    refine ⟨hne, ?_⟩
    rcases listed_range_cases hid hmem hlisted with ⟨hof, hparsed⟩ | ⟨_, _, _, _, hkind⟩
    · exact absurd ⟨observation, hmem, rfl, .issuePriceRange, by rw [supplies, hof, hparsed]; rfl⟩
        hcompared
    · exact hkind.imp And.left And.left
  · obtain ⟨other, hother, hsupplies, hsame⟩ := (listed_iff hfact).mp hlisted
    exact absurd ⟨other, hother, (hid observation hmem other hother hsame).fieldName.symm,
      factName, hsupplies⟩ hcompared

/-- Where all observations of the facts are listed, every other one is a candidate exactly when
no record shows its field under two identifiers. -/
theorem covered_iff_shownOnce
    (hid : ∀ first ∈ observations, ∀ second ∈ observations,
      first.observationId = second.observationId → first.SameButForTime second)
    (hlisted : ∀ factName, factValues platform observations factName ≠ [] →
      AllListed platform observations factName) :
    (∀ observation ∈ observations, observation.fieldName ≠ .companySummaryUrl →
      InComparison platform observations observation ∨
        IsCandidate platform observations observation) ↔
      ShownOnce platform observations := by
  constructor
  · intro hcovered first hfirst second hsecond hsource hrecord hfield hsummary hcompared
    have hcomparedSecond : ¬FieldCompared platform observations second.fieldName :=
      hfield ▸ hcompared
    -- a price of a compared range is there under one identifier
    have hprices : ∀ observation ∈ observations,
        ¬FieldCompared platform observations observation.fieldName →
        InComparison platform observations observation → ∀ other ∈ observations,
        other.sourceId = observation.sourceId → other.fieldName = observation.fieldName →
        observation.observationId = other.observationId := by
      intro observation hmem hnot hin other hother hsame hname
      obtain ⟨hne, hprice⟩ := isLow_or_isHigh_of_inComparison hid hmem hnot hin
      obtain ⟨-, -, hlows, hhighs⟩ := (allListed_iff hid).mp (hlisted _ hne)
      rcases hprice with hisLow | hisHigh
      · refine hlows observation hmem other hother hisLow ?_
        rw [Observation.isLow, Observation.isOf_iff] at hisLow ⊢
        rw [hsame, hname]
        exact hisLow
      · refine hhighs observation hmem other hother hisHigh ?_
        rw [Observation.isHigh, Observation.isOf_iff] at hisHigh ⊢
        rw [hsame, hname]
        exact hisHigh
    rcases hcovered first hfirst hsummary with hin | ⟨kept, hkept, hkeptId⟩
    · exact hprices first hfirst hcompared hin second hsecond hsource.symm hfield.symm
    rcases hcovered second hsecond (hfield ▸ hsummary) with hin | ⟨other, hother, hotherId⟩
    · exact (hprices second hsecond hcomparedSecond hin first hfirst hsource hfield).symm
    obtain ⟨one, hone, rfl, -⟩ := mem_candidates hkept
    obtain ⟨two, htwo, rfl, -⟩ := mem_candidates hother
    have hfirstSame := hid one hone first hfirst hkeptId
    have hsecondSame := hid two htwo second hsecond hotherId
    have hkey : (supplementCandidate one).key = (supplementCandidate two).key := by
      rw [SupplementCandidate.key_eq_iff]
      simp only [supplementCandidate]
      rw [hfirstSame.sourceId, hsecondSame.sourceId, hfirstSame.sourceRecordId,
        hsecondSame.sourceRecordId, hfirstSame.fieldName, hsecondSame.fieldName]
      exact ⟨hsource, hrecord, hfield⟩
    have hsame := candidate_eq_of_key hkept hother hkey
    rw [← hkeptId, ← hotherId, hsame]
  · intro honce observation hmem hsummary
    by_cases hcompared : FieldCompared platform observations observation.fieldName
    · obtain ⟨factName, hobserves, hne⟩ := observes_of_fieldCompared hcompared
      obtain ⟨comparison, hsome⟩ := compareValues_isSome factName hne
      obtain ⟨-, -, hvalues, -⟩ := compareValues_eq_some_iff.mp hsome
      refine Or.inl ⟨comparison, mem_securityComparisons.mpr ⟨factName, hsome⟩, ?_⟩
      rw [hvalues]
      exact hlisted factName hne observation hmem hobserves
    · obtain ⟨candidate, hcandidate, hkey⟩ := exists_candidate hmem hcompared hsummary
      obtain ⟨other, hother, rfl, -⟩ := mem_candidates hcandidate
      obtain ⟨hsource, hrecord, hfield⟩ := SupplementCandidate.key_eq_iff.mp hkey
      refine Or.inr ⟨_, hcandidate, ?_⟩
      exact (honce observation hmem other hother hsource.symm hrecord.symm hfield.symm hsummary
        hcompared).symm

end Coverage

end Aiphabee.IpoPublic
