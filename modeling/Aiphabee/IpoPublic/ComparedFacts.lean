import Aiphabee.IpoPublic.Reconciliation
import Aiphabee.Text.JoinedFields

/-!
# The values of a compared fact

A comparison counts values and not sources.  Its status is right about the
sources exactly when two sources supply the fact wherever more than one value is
there.  The values list every observation of the fact exactly when none of them
is blank, no range fails to parse, and there is one low and one high price.
-/

namespace Aiphabee.IpoPublic

variable {factName : FactName}
variable (platform : Platform)
variable {observations : List Observation}

section Statuses

/-- The status says how many sources supplied the fact and whether they agree. -/
structure StatusRight (comparison : Comparison) : Prop where
  agreement : comparison.status = .agreement ↔
    (∃ first ∈ comparison.values, ∃ second ∈ comparison.values,
      first.sourceId ≠ second.sourceId) ∧
    ∀ first ∈ comparison.values, ∀ second ∈ comparison.values,
      first.normalizedValue = second.normalizedValue
  conflict : comparison.status = .conflict ↔
    ∃ first ∈ comparison.values, ∃ second ∈ comparison.values,
      first.sourceId ≠ second.sourceId ∧ first.normalizedValue ≠ second.normalizedValue
  singleSource : comparison.status = .singleSource ↔
    ∀ first ∈ comparison.values, ∀ second ∈ comparison.values,
      first.sourceId = second.sourceId

variable {values : List ComparedValue}
variable {comparison : Comparison}

theorem compareValues_eq_some_iff :
    compareValues factName values = some comparison ↔
      values ≠ [] ∧ comparison.factName = factName ∧ comparison.values = values ∧
      compareValues factName values = some comparison := by
  constructor
  · intro h
    refine ⟨?_, ?_, ?_, h⟩
    · rintro rfl
      cases h
    · cases values with
      | nil => cases h
      | cons first rest => rw [← Option.some.inj h]
    · cases values with
      | nil => cases h
      | cons first rest => rw [← Option.some.inj h]
  · exact fun h => h.2.2.2

theorem compareValues_isSome (factName : FactName) (h : values ≠ []) :
    ∃ comparison, compareValues factName values = some comparison := by
  cases values with
  | nil => exact absurd rfl h
  | cons first rest => exact ⟨_, rfl⟩

/-- One value is left of a list exactly when the list has elements and they are equal. -/
theorem length_unique_eq_one_iff {texts : List JsText} :
    (unique texts).length = 1 ↔
      texts ≠ [] ∧ ∀ first ∈ texts, ∀ second ∈ texts, first = second := by
  have hnodup : (unique texts).Nodup := by
    have hdups := GroupBy.nodup_eraseDups texts
    rwa [lawful_beq_subsingleton instBEqOfDecidableEq (List.instBEq : BEq JsText)] at hdups
  constructor
  · intro h
    obtain ⟨text, htext⟩ := List.length_eq_one_iff.mp h
    have hmem : ∀ first, first ∈ texts ↔ first = text := by
      intro first
      rw [← List.mem_eraseDups (l := texts), ← unique, htext, List.mem_singleton]
    refine ⟨?_, fun first hfirst second hsecond => ?_⟩
    · rintro rfl
      exact List.not_mem_nil ((hmem text).mpr rfl)
    · rw [(hmem first).mp hfirst, (hmem second).mp hsecond]
  · rintro ⟨hne, hsame⟩
    obtain ⟨text, rest, rfl⟩ := List.exists_cons_of_ne_nil hne
    have hmem : ∀ first ∈ unique (text :: rest), first = text := by
      intro first hfirst
      exact hsame first (List.mem_eraseDups.mp hfirst) text List.mem_cons_self
    have hfirst : text ∈ unique (text :: rest) := List.mem_eraseDups.mpr List.mem_cons_self
    cases hunique : unique (text :: rest) with
    | nil =>
      rw [hunique] at hfirst
      cases hfirst
    | cons head tail =>
      cases tail with
      | nil => rfl
      | cons next others =>
        rw [hunique] at hmem hnodup
        have hhead := hmem head List.mem_cons_self
        have hnext := hmem next (List.mem_cons_of_mem _ List.mem_cons_self)
        rw [hhead, hnext] at hnodup
        exact absurd List.mem_cons_self (List.nodup_cons.mp hnodup).1

theorem status_of_compareValues (h : compareValues factName values = some comparison) :
    comparison.status =
      if values.length = 1 then .singleSource
      else if ∀ first ∈ values, ∀ second ∈ values,
          first.normalizedValue = second.normalizedValue then .agreement
      else .conflict := by
  cases values with
  | nil => cases h
  | cons first rest =>
    have hsame : (unique ((first :: rest).map ComparedValue.normalizedValue)).length = 1 ↔
        ∀ value ∈ first :: rest, ∀ other ∈ first :: rest,
          value.normalizedValue = other.normalizedValue := by
      rw [length_unique_eq_one_iff, List.forall_mem_map]
      simp only [List.forall_mem_map]
      exact and_iff_right (by simp)
    rw [← Option.some.inj h]
    simp only [hsame]

theorem statusRight_iff (h : compareValues factName values = some comparison) :
    StatusRight comparison ↔
      (2 ≤ values.length → ∃ first ∈ values, ∃ second ∈ values,
        first.sourceId ≠ second.sourceId) := by
  obtain ⟨hne, -, hvalues, -⟩ := compareValues_eq_some_iff.mp h
  have hstatus := status_of_compareValues h
  constructor
  · intro hright hlength
    by_contra hnone
    have hsingle : comparison.status = .singleSource := by
      refine hright.singleSource.mpr fun first hfirst second hsecond => ?_
      by_contra hdiffer
      rw [hvalues] at hfirst hsecond
      exact hnone ⟨first, hfirst, second, hsecond, hdiffer⟩
    rw [hstatus, if_neg (by omega)] at hsingle
    split at hsingle <;> cases hsingle
  · intro hsources
    by_cases hlength : values.length = 1
    · -- one value: one source, and nothing to agree or to differ
      obtain ⟨value, rfl⟩ := List.length_eq_one_iff.mp hlength
      rw [if_pos hlength] at hstatus
      refine ⟨?_, ?_, ?_⟩
      · simp [hstatus, hvalues]
      · simp [hstatus, hvalues]
      · simp [hstatus, hvalues]
    · have htwo : 2 ≤ values.length := by
        have := List.length_pos_iff.mpr hne
        omega
      obtain ⟨first, hfirst, second, hsecond, hdiffer⟩ := hsources htwo
      rw [if_neg hlength] at hstatus
      by_cases hsame : ∀ value ∈ values, ∀ other ∈ values,
          value.normalizedValue = other.normalizedValue
      · rw [if_pos hsame] at hstatus
        refine ⟨?_, ?_, ?_⟩
        · rw [hstatus, hvalues]
          exact ⟨fun _ => ⟨⟨first, hfirst, second, hsecond, hdiffer⟩, hsame⟩, fun _ => rfl⟩
        · rw [hstatus, hvalues]
          refine ⟨nofun, ?_⟩
          rintro ⟨value, hvalue, other, hother, -, hne'⟩
          exact absurd (hsame value hvalue other hother) hne'
        · rw [hstatus, hvalues]
          exact ⟨nofun, fun hall => absurd (hall first hfirst second hsecond) hdiffer⟩
      · rw [if_neg hsame] at hstatus
        refine ⟨?_, ?_, ?_⟩
        · rw [hstatus, hvalues]
          exact ⟨nofun, fun hagree => absurd hagree.2 hsame⟩
        · rw [hstatus, hvalues]
          refine ⟨fun _ => ?_, fun _ => rfl⟩
          -- two sources that never differed would leave no room for a third value
          by_contra hnone
          have hcross : ∀ value ∈ values, ∀ other ∈ values, value.sourceId ≠ other.sourceId →
              value.normalizedValue = other.normalizedValue := by
            intro value hvalue other hother hne'
            by_contra hdiffers
            exact hnone ⟨value, hvalue, other, hother, hne', hdiffers⟩
          have hfirstAll : ∀ value ∈ values,
              value.normalizedValue = first.normalizedValue := by
            intro value hvalue
            by_cases hsource : value.sourceId = first.sourceId
            · have hother : value.sourceId ≠ second.sourceId := by
                rw [hsource]
                exact hdiffer
              rw [hcross value hvalue second hsecond hother,
                hcross first hfirst second hsecond hdiffer]
            · exact hcross value hvalue first hfirst hsource
          refine hsame fun value hvalue other hother => ?_
          rw [hfirstAll value hvalue, hfirstAll other hother]
        · rw [hstatus, hvalues]
          exact ⟨nofun, fun hall => absurd (hall first hfirst second hsecond) hdiffer⟩

end Statuses

variable (observation : Observation)

section Facts

def FactName.selectors : FactName → List (FieldName × SourceId)
  | .lotSize => [(.lotSize, .aastocksIpoPlus), (.lotSize, .vbkrHkIpo)]
  | .listingDate => [(.listingDate, .aastocksIpoPlus), (.listedDate, .vbkrHkIpo)]
  | .issuePriceRange =>
    [(.offerPriceOrRange, .aastocksIpoPlus), (.issueLowPrice, .vbkrHkIpo),
      (.issueHighPrice, .vbkrHkIpo)]

def Observation.observes (factName : FactName) : Bool :=
  factName.selectors.any fun selector => observation.isOf selector.1 selector.2

def Observation.isLow : Bool :=
  observation.isOf .issueLowPrice .vbkrHkIpo

def Observation.isHigh : Bool :=
  observation.isOf .issueHighPrice .vbkrHkIpo

def supplies (factName : FactName) (observation : Observation) : Bool :=
  match factName with
  | .lotSize | .listingDate =>
    observation.observes factName &&
      decide (normalizeComparable platform observation.fieldValue ≠ [])
  | .issuePriceRange =>
    observation.isOf .offerPriceOrRange .aastocksIpoPlus &&
      (parsePriceRange observation.fieldValue).isSome

/-- The second source shows both ends of a range. -/
def ShowsRange (observations : List Observation) : Prop :=
  (∃ low ∈ observations, low.isLow = true) ∧ ∃ high ∈ observations, high.isHigh = true

instance (observations : List Observation) : Decidable (ShowsRange observations) :=
  inferInstanceAs (Decidable (_ ∧ _))

def supplyCount (observations : List Observation) (factName : FactName) (sourceId : SourceId) :
    Nat :=
  (observations.countP fun observation =>
      supplies platform factName observation && decide (observation.sourceId = sourceId)) +
    if factName = .issuePriceRange ∧ sourceId = .vbkrHkIpo ∧ ShowsRange observations then 1 else 0

def factValues (observations : List Observation) : FactName → List ComparedValue
  | .issuePriceRange => aastocksRange observations ++ vbkrRange observations
  | factName =>
    ((factName.selectors.flatMap fun selector =>
        observations.filter fun observation => observation.isOf selector.1 selector.2).map
      (toComparableValue platform)).filter fun value => value.normalizedValue ≠ []

variable {platform : Platform}

theorem mem_securityComparisons {comparison : Comparison} :
    comparison ∈ securityComparisons platform observations ↔
      ∃ factName, compareValues factName (factValues platform observations factName) =
        some comparison := by
  rw [securityComparisons, List.mem_filterMap]
  constructor
  · rintro ⟨option, hmem, hsome⟩
    simp only [List.mem_cons, List.not_mem_nil, or_false, id_eq] at hmem hsome
    rcases hmem with rfl | rfl | rfl
    · exact ⟨.lotSize, hsome⟩
    · exact ⟨.listingDate, hsome⟩
    · exact ⟨.issuePriceRange, hsome⟩
  · rintro ⟨factName, hsome⟩
    refine ⟨_, ?_, hsome⟩
    cases factName with
    | lotSize => exact List.mem_cons_self
    | listingDate => exact List.mem_cons_of_mem _ List.mem_cons_self
    | issuePriceRange =>
      exact List.mem_cons_of_mem _ (List.mem_cons_of_mem _ List.mem_cons_self)

theorem Observation.isOf_iff {observation : Observation} {fieldName : FieldName}
    {sourceId : SourceId} :
    observation.isOf fieldName sourceId = true ↔
      observation.sourceId = sourceId ∧ observation.fieldName = fieldName := by
  rw [Observation.isOf, Bool.and_eq_true, decide_eq_true_eq, decide_eq_true_eq]

theorem supplies_field_iff (hfact : factName ≠ .issuePriceRange) {observation : Observation} :
    supplies platform factName observation = true ↔
      observation.observes factName = true ∧
        normalizeComparable platform observation.fieldValue ≠ [] := by
  cases factName with
  | issuePriceRange => exact absurd rfl hfact
  | _ => rw [supplies, Bool.and_eq_true, decide_eq_true_eq]

theorem mem_factValues (hfact : factName ≠ .issuePriceRange) {value : ComparedValue} :
    value ∈ factValues platform observations factName ↔
      ∃ observation ∈ observations, supplies platform factName observation = true ∧
        value = toComparableValue platform observation := by
  have hvalues : factValues platform observations factName =
      ((factName.selectors.flatMap fun selector =>
          observations.filter fun observation => observation.isOf selector.1 selector.2).map
        (toComparableValue platform)).filter fun value => value.normalizedValue ≠ [] := by
    cases factName with
    | issuePriceRange => exact absurd rfl hfact
    | _ => rfl
  rw [hvalues, List.mem_filter, List.mem_map, decide_eq_true_eq]
  constructor
  · rintro ⟨⟨observation, hmem, rfl⟩, hblank⟩
    obtain ⟨selector, hselector, hfilter⟩ := List.mem_flatMap.mp hmem
    obtain ⟨hobservation, hof⟩ := List.mem_filter.mp hfilter
    refine ⟨observation, hobservation, (supplies_field_iff hfact).mpr ⟨?_, hblank⟩, rfl⟩
    exact List.any_eq_true.mpr ⟨selector, hselector, hof⟩
  · rintro ⟨observation, hobservation, hsupply, rfl⟩
    obtain ⟨hobserves, hblank⟩ := (supplies_field_iff hfact).mp hsupply
    obtain ⟨selector, hselector, hof⟩ := List.any_eq_true.mp hobserves
    refine ⟨⟨observation, List.mem_flatMap.mpr ⟨selector, hselector, ?_⟩, rfl⟩, hblank⟩
    exact List.mem_filter.mpr ⟨hobservation, hof⟩

theorem mem_rangeValues {value : ComparedValue} :
    value ∈ factValues platform observations .issuePriceRange ↔
      (∃ observation ∈ observations,
        observation.isOf .offerPriceOrRange .aastocksIpoPlus = true ∧
          parsedValue observation = some value) ∨
      ∃ low high, observations.find? Observation.isLow = some low ∧
        observations.find? Observation.isHigh = some high ∧ value = pairedValue low high := by
  rw [factValues, List.mem_append, aastocksRange, List.mem_filterMap]
  refine or_congr ?_ ?_
  · simp only [List.mem_filter, and_assoc]
  · rw [vbkrRange]
    constructor
    · intro h
      split at h
      · next low high hlow hhigh => exact ⟨low, high, hlow, hhigh, List.mem_singleton.mp h⟩
      · cases h
    · rintro ⟨low, high, hlow, hhigh, rfl⟩
      have hlow' : (observations.find? fun observation =>
          observation.isOf .issueLowPrice .vbkrHkIpo) = some low := hlow
      have hhigh' : (observations.find? fun observation =>
          observation.isOf .issueHighPrice .vbkrHkIpo) = some high := hhigh
      rw [hlow', hhigh']
      exact List.mem_singleton.mpr rfl

theorem showsRange_iff :
    ShowsRange observations ↔
      ∃ low high, observations.find? Observation.isLow = some low ∧
        observations.find? Observation.isHigh = some high := by
  constructor
  · rintro ⟨⟨low, hlow, hisLow⟩, high, hhigh, hisHigh⟩
    obtain ⟨first, hfirst⟩ := Option.isSome_iff_exists.mp
      (List.find?_isSome.mpr ⟨low, hlow, hisLow⟩)
    obtain ⟨second, hsecond⟩ := Option.isSome_iff_exists.mp
      (List.find?_isSome.mpr ⟨high, hhigh, hisHigh⟩)
    exact ⟨first, second, hfirst, hsecond⟩
  · rintro ⟨low, high, hlow, hhigh⟩
    exact ⟨⟨low, List.mem_of_find?_eq_some hlow, List.find?_some hlow⟩, high,
      List.mem_of_find?_eq_some hhigh, List.find?_some hhigh⟩

end Facts

section Counts

variable {platform : Platform}

theorem countP_fieldValues {fieldA fieldV : FieldName}
    (hfact : factName.selectors = [(fieldA, .aastocksIpoPlus), (fieldV, .vbkrHkIpo)])
    (sourceId : SourceId) :
    (((factName.selectors.flatMap fun selector =>
          observations.filter fun observation => observation.isOf selector.1 selector.2).map
        (toComparableValue platform)).filter fun value => value.normalizedValue ≠ []).countP
        (fun value => value.sourceId = sourceId) =
      observations.countP fun observation =>
        (observation.observes factName &&
          decide (normalizeComparable platform observation.fieldValue ≠ [])) &&
        decide (observation.sourceId = sourceId) := by
  rw [List.countP_filter, List.countP_map, List.countP_flatMap, hfact]
  simp only [List.map_cons, List.map_nil, List.sum_cons, List.sum_nil, Nat.add_zero,
    Function.comp_apply, List.countP_filter]
  -- the observations of the one source are none of the other selector's
  have hzero : ∀ (field : FieldName) (other : SourceId), other ≠ sourceId →
      (observations.countP fun observation =>
        decide ((toComparableValue platform observation).sourceId = sourceId) &&
          decide ((toComparableValue platform observation).normalizedValue ≠ []) &&
          observation.isOf field other) = 0 := by
    intro field other hne
    refine List.countP_eq_zero.mpr fun observation _ h => hne ?_
    rw [Bool.and_eq_true, Bool.and_eq_true, Observation.isOf_iff] at h
    exact h.2.1.symm.trans (of_decide_eq_true h.1.1)
  cases sourceId with
  | aastocksIpoPlus =>
    rw [hzero fieldV .vbkrHkIpo (by decide), Nat.add_zero]
    refine List.countP_congr fun observation _ => ?_
    cases hsource : observation.sourceId <;>
      simp [toComparableValue, Observation.observes, hfact, Observation.isOf, hsource, and_comm]
  | vbkrHkIpo =>
    rw [hzero fieldA .aastocksIpoPlus (by decide), Nat.zero_add]
    refine List.countP_congr fun observation _ => ?_
    cases hsource : observation.sourceId <;>
      simp [toComparableValue, Observation.observes, hfact, Observation.isOf, hsource, and_comm]

theorem exists_parsedValue {observation : Observation}
    (h : (parsePriceRange observation.fieldValue).isSome = true) :
    ∃ value, parsedValue observation = some value ∧
      value.observationId = observation.observationId ∧
      value.fieldName = observation.fieldName := by
  obtain ⟨range, hrange⟩ := Option.isSome_iff_exists.mp h
  rw [parsedValue, hrange]
  exact ⟨_, rfl, rfl, rfl⟩

theorem countP_rangeValues (sourceId : SourceId) :
    (factValues platform observations .issuePriceRange).countP
        (fun value => value.sourceId = sourceId) =
      supplyCount platform observations .issuePriceRange sourceId := by
  rw [factValues, List.countP_append, supplyCount]
  congr 1
  · rw [aastocksRange, List.countP_filterMap, List.countP_filter]
    refine List.countP_congr fun observation _ => ?_
    simp only [supplies, Bool.and_eq_true, decide_eq_true_eq]
    cases hparse : parsePriceRange observation.fieldValue with
    | none => simp [parsedValue, hparse]
    | some range => simp [parsedValue, hparse, and_comm]
  · rw [vbkrRange]
    by_cases hshows : ShowsRange observations
    · obtain ⟨low, high, hlow, hhigh⟩ := showsRange_iff.mp hshows
      have hlowOf : (observations.find? fun observation =>
          observation.isOf .issueLowPrice .vbkrHkIpo) = some low := hlow
      have hhighOf : (observations.find? fun observation =>
          observation.isOf .issueHighPrice .vbkrHkIpo) = some high := hhigh
      have hisLow : low.isLow = true := List.find?_some hlow
      have hsource : low.sourceId = .vbkrHkIpo := (Observation.isOf_iff.mp hisLow).1
      rw [hlowOf, hhighOf]
      cases sourceId <;> simp [pairedValue, hsource, hshows]
    · rw [if_neg fun hall => hshows hall.2.2]
      split
      · next low high hlow hhigh =>
          exact absurd (showsRange_iff.mpr ⟨low, high, hlow, hhigh⟩) hshows
      · rfl

theorem countP_factValues (factName : FactName) (sourceId : SourceId) :
    (factValues platform observations factName).countP (fun value => value.sourceId = sourceId) =
      supplyCount platform observations factName sourceId := by
  cases factName with
  | lotSize =>
    rw [supplyCount, if_neg (by simp), Nat.add_zero]
    exact countP_fieldValues rfl sourceId
  | listingDate =>
    rw [supplyCount, if_neg (by simp), Nat.add_zero]
    exact countP_fieldValues rfl sourceId
  | issuePriceRange => exact countP_rangeValues sourceId

theorem length_eq_countP_add (values : List ComparedValue) :
    values.length =
      values.countP (fun value => value.sourceId = .aastocksIpoPlus) +
        values.countP fun value => value.sourceId = .vbkrHkIpo := by
  induction values with
  | nil => rfl
  | cons value rest ih =>
    rw [List.length_cons, List.countP_cons, List.countP_cons, ih]
    cases value.sourceId <;> simp <;> omega

/-- Where a fact has several values, both sources supply it. -/
def SuppliedByBoth (platform : Platform) (observations : List Observation) (factName : FactName) :
    Prop :=
  2 ≤ supplyCount platform observations factName .aastocksIpoPlus +
      supplyCount platform observations factName .vbkrHkIpo →
    0 < supplyCount platform observations factName .aastocksIpoPlus ∧
      0 < supplyCount platform observations factName .vbkrHkIpo

theorem statusRight_iff_suppliedByBoth {comparison : Comparison}
    (h : compareValues factName (factValues platform observations factName) = some comparison) :
    StatusRight comparison ↔ SuppliedByBoth platform observations factName := by
  rw [statusRight_iff h, SuppliedByBoth, ← countP_factValues, ← countP_factValues,
    ← length_eq_countP_add, List.countP_pos_iff, List.countP_pos_iff]
  refine imp_congr_right fun _ => ?_
  simp only [decide_eq_true_eq]
  constructor
  · rintro ⟨first, hfirst, second, hsecond, hdiffer⟩
    cases hsource : first.sourceId with
    | aastocksIpoPlus =>
      refine ⟨⟨first, hfirst, hsource⟩, second, hsecond, ?_⟩
      cases hother : second.sourceId with
      | aastocksIpoPlus => exact absurd (hsource.trans hother.symm) hdiffer
      | vbkrHkIpo => rfl
    | vbkrHkIpo =>
      refine ⟨⟨second, hsecond, ?_⟩, first, hfirst, hsource⟩
      cases hother : second.sourceId with
      | aastocksIpoPlus => rfl
      | vbkrHkIpo => exact absurd (hsource.trans hother.symm) hdiffer
  · rintro ⟨⟨first, hfirst, hsource⟩, second, hsecond, hother⟩
    refine ⟨first, hfirst, second, hsecond, ?_⟩
    rw [hsource, hother]
    decide

end Counts

section Listed

variable {platform : Platform}

theorem splitOn_plain :
    (observation.observationId.splitOn 124).filter (fun text => text ≠ []) =
      [observation.observationId] := by
  have hsplit : ([124].intercalate [observation.observationId]).splitOn 124 =
      [observation.observationId] :=
    List.splitOn_intercalate 124 (by simpa using observation.idPlain.2) (List.cons_ne_nil _ _)
  rw [List.intercalate_singleton] at hsplit
  rw [hsplit]
  simp [observation.idPlain.1]

theorem splitOn_pair (low high : Observation) :
    ((low.observationId ++ 124 :: high.observationId).splitOn 124).filter
        (fun text => text ≠ []) =
      [low.observationId, high.observationId] := by
  have hsplit : ([124].intercalate [low.observationId, high.observationId]).splitOn 124 =
      [low.observationId, high.observationId] :=
    List.splitOn_intercalate 124 (by simpa using ⟨low.idPlain.2, high.idPlain.2⟩)
      (List.cons_ne_nil _ _)
  rw [List.intercalate_cons_cons, List.intercalate_singleton, List.append_assoc,
    List.singleton_append] at hsplit
  rw [hsplit]
  simp [low.idPlain.1, high.idPlain.1]

variable {observationId : JsText}

theorem mem_observationIdsFromValues {values : List ComparedValue} :
    observationId ∈ observationIdsFromValues values ↔
      ∃ value ∈ values, observationId ∈
        (value.observationId.splitOn 124).filter fun text => text ≠ [] := by
  rw [observationIdsFromValues, unique, List.mem_eraseDups, List.mem_flatMap]

theorem listed_iff (hfact : factName ≠ .issuePriceRange) :
    observationId ∈ observationIdsFromValues (factValues platform observations factName) ↔
      ∃ observation ∈ observations, supplies platform factName observation = true ∧
        observationId = observation.observationId := by
  rw [mem_observationIdsFromValues]
  constructor
  · rintro ⟨value, hvalue, hid⟩
    obtain ⟨observation, hobservation, hsupplies, rfl⟩ := (mem_factValues hfact).mp hvalue
    rw [toComparableValue, splitOn_plain] at hid
    exact ⟨observation, hobservation, hsupplies, List.mem_singleton.mp hid⟩
  · rintro ⟨observation, hobservation, hsupplies, rfl⟩
    refine ⟨_, (mem_factValues hfact).mpr ⟨observation, hobservation, hsupplies, rfl⟩, ?_⟩
    rw [toComparableValue, splitOn_plain]
    exact List.mem_singleton.mpr rfl

theorem listed_range_iff :
    observationId ∈
        observationIdsFromValues (factValues platform observations .issuePriceRange) ↔
      (∃ observation ∈ observations, supplies platform .issuePriceRange observation = true ∧
        observationId = observation.observationId) ∨
      ∃ low high, observations.find? Observation.isLow = some low ∧
        observations.find? Observation.isHigh = some high ∧
        (observationId = low.observationId ∨ observationId = high.observationId) := by
  have hpair : ∀ low high : Observation, observationId ∈
      ((pairedValue low high).observationId.splitOn 124).filter (fun text => text ≠ []) ↔
        observationId = low.observationId ∨ observationId = high.observationId := by
    intro low high
    rw [pairedValue, splitOn_pair]
    simp
  rw [mem_observationIdsFromValues]
  constructor
  · rintro ⟨value, hvalue, hid⟩
    rcases mem_rangeValues.mp hvalue with ⟨observation, hobservation, hof, hparsed⟩ |
      ⟨low, high, hlow, hhigh, rfl⟩
    · obtain ⟨range, hrange, rfl⟩ := Option.map_eq_some_iff.mp hparsed
      rw [splitOn_plain] at hid
      refine Or.inl ⟨observation, hobservation, ?_, List.mem_singleton.mp hid⟩
      rw [supplies, hof, hrange]
      rfl
    · exact Or.inr ⟨low, high, hlow, hhigh, (hpair low high).mp hid⟩
  · rintro (⟨observation, hobservation, hsupplies, rfl⟩ | ⟨low, high, hlow, hhigh, hid⟩)
    · rw [supplies, Bool.and_eq_true] at hsupplies
      obtain ⟨value, hparsed, hid, -⟩ := exists_parsedValue hsupplies.2
      refine ⟨value, mem_rangeValues.mpr (Or.inl
        ⟨observation, hobservation, hsupplies.1, hparsed⟩), ?_⟩
      rw [hid, splitOn_plain]
      exact List.mem_singleton.mpr rfl
    · exact ⟨_, mem_rangeValues.mpr (Or.inr ⟨low, high, hlow, hhigh, rfl⟩),
        (hpair low high).mpr hid⟩

end Listed

section Whole

/-- Nothing that a fact is read from is blank or unparsed, and no price is there twice or
alone. -/
def Whole (observations : List Observation) : FactName → Prop
  | .issuePriceRange =>
    (∀ observation ∈ observations,
      observation.isOf .offerPriceOrRange .aastocksIpoPlus = true →
        (parsePriceRange observation.fieldValue).isSome = true) ∧
    ((∃ low ∈ observations, low.isLow = true) ↔ ∃ high ∈ observations, high.isHigh = true) ∧
    (∀ low ∈ observations, ∀ other ∈ observations, low.isLow = true → other.isLow = true →
      low.observationId = other.observationId) ∧
    ∀ high ∈ observations, ∀ other ∈ observations, high.isHigh = true → other.isHigh = true →
      high.observationId = other.observationId
  | factName =>
    ∀ observation ∈ observations, observation.observes factName = true →
      normalizeComparable platform observation.fieldValue ≠ []

def AllListed (observations : List Observation) (factName : FactName) : Prop :=
  ∀ observation ∈ observations, observation.observes factName = true →
    observation.observationId ∈
      observationIdsFromValues (factValues platform observations factName)

variable {platform : Platform}

variable {observation : Observation}

theorem observes_range_iff :
    observation.observes .issuePriceRange = true ↔
      observation.isOf .offerPriceOrRange .aastocksIpoPlus = true ∨ observation.isLow = true ∨
        observation.isHigh = true := by
  simp only [Observation.observes, FactName.selectors, List.any_cons, List.any_nil,
    Bool.or_false, Bool.or_eq_true]
  rfl

theorem not_isOf_of_isOf {first second : FieldName} {source other : SourceId} (hne : first ≠ second)
    (h : observation.isOf first source = true) : observation.isOf second other ≠ true := by
  intro hsecond
  rw [Observation.isOf_iff] at h hsecond
  exact hne (h.2.symm.trans hsecond.2)

section SameIds

variable (hid : ∀ first ∈ observations, ∀ second ∈ observations,
  first.observationId = second.observationId → first.SameButForTime second)

include hid

theorem isOf_of_id {first second : Observation} {fieldName : FieldName} {sourceId : SourceId}
    (hfirst : first ∈ observations) (hsecond : second ∈ observations)
    (hsame : first.observationId = second.observationId)
    (h : second.isOf fieldName sourceId = true) : first.isOf fieldName sourceId = true := by
  have hbut := hid first hfirst second hsecond hsame
  rw [Observation.isOf_iff] at h ⊢
  rw [hbut.sourceId, hbut.fieldName]
  exact h

/-- A listed cell has a parsed range, and a listed price is the first of its kind. -/
theorem listed_range_cases (hmem : observation ∈ observations)
    (h : observation.observationId ∈
      observationIdsFromValues (factValues platform observations .issuePriceRange)) :
    (observation.isOf .offerPriceOrRange .aastocksIpoPlus = true ∧
        (parsePriceRange observation.fieldValue).isSome = true) ∨
      ∃ low high, observations.find? Observation.isLow = some low ∧
        observations.find? Observation.isHigh = some high ∧
        (observation.isLow = true ∧ observation.observationId = low.observationId ∨
          observation.isHigh = true ∧ observation.observationId = high.observationId) := by
  rcases listed_range_iff.mp h with ⟨other, hother, hsupplies, hsame⟩ |
    ⟨low, high, hlow, hhigh, hsame⟩
  · rw [supplies, Bool.and_eq_true] at hsupplies
    rw [(hid observation hmem other hother hsame).fieldValue]
    exact Or.inl ⟨isOf_of_id hid hmem hother hsame hsupplies.1, hsupplies.2⟩
  · refine Or.inr ⟨low, high, hlow, hhigh, ?_⟩
    have hisLow : low.isLow = true := List.find?_some hlow
    have hisHigh : high.isHigh = true := List.find?_some hhigh
    exact hsame.imp
      (fun hsame => ⟨isOf_of_id hid hmem (List.mem_of_find?_eq_some hlow) hsame hisLow, hsame⟩)
      fun hsame => ⟨isOf_of_id hid hmem (List.mem_of_find?_eq_some hhigh) hsame hisHigh, hsame⟩

theorem whole_of_allListed_range (h : AllListed platform observations .issuePriceRange) :
    Whole platform observations .issuePriceRange := by
  have hlow : ∀ low ∈ observations, low.isLow = true → ∃ first high,
      observations.find? Observation.isLow = some first ∧
        observations.find? Observation.isHigh = some high ∧
        low.observationId = first.observationId := by
    intro low hmem hisLow
    rcases listed_range_cases hid hmem
        (h low hmem (observes_range_iff.mpr (Or.inr (Or.inl hisLow)))) with
      ⟨hof, -⟩ | ⟨first, high, hfirst, hhigh, ⟨-, hsame⟩ | ⟨hisHigh, -⟩⟩
    · exact absurd hisLow (not_isOf_of_isOf (by decide) hof)
    · exact ⟨first, high, hfirst, hhigh, hsame⟩
    · exact absurd hisLow (not_isOf_of_isOf (by decide) hisHigh)
  have hhigh : ∀ high ∈ observations, high.isHigh = true → ∃ low first,
      observations.find? Observation.isLow = some low ∧
        observations.find? Observation.isHigh = some first ∧
        high.observationId = first.observationId := by
    intro high hmem hisHigh
    rcases listed_range_cases hid hmem
        (h high hmem (observes_range_iff.mpr (Or.inr (Or.inr hisHigh)))) with
      ⟨hof, -⟩ | ⟨low, first, hlow, hfirst, ⟨hisLow, -⟩ | ⟨-, hsame⟩⟩
    · exact absurd hisHigh (not_isOf_of_isOf (by decide) hof)
    · exact absurd hisHigh (not_isOf_of_isOf (by decide) hisLow)
    · exact ⟨low, first, hlow, hfirst, hsame⟩
  refine ⟨?_, ⟨?_, ?_⟩, ?_, ?_⟩
  · intro observation hmem hof
    rcases listed_range_cases hid hmem
        (h observation hmem (observes_range_iff.mpr (Or.inl hof))) with
      ⟨-, hparsed⟩ | ⟨low, high, -, -, ⟨hisLow, -⟩ | ⟨hisHigh, -⟩⟩
    · exact hparsed
    · exact absurd hof (not_isOf_of_isOf (by decide) hisLow)
    · exact absurd hof (not_isOf_of_isOf (by decide) hisHigh)
  · rintro ⟨low, hmem, hisLow⟩
    obtain ⟨_, high, _, hfound, _⟩ := hlow low hmem hisLow
    exact ⟨high, List.mem_of_find?_eq_some hfound, List.find?_some hfound⟩
  · rintro ⟨high, hmem, hisHigh⟩
    obtain ⟨low, _, hfound, _, _⟩ := hhigh high hmem hisHigh
    exact ⟨low, List.mem_of_find?_eq_some hfound, List.find?_some hfound⟩
  · intro low hmem other hother hisLow hisOther
    obtain ⟨first, _, hfirst, _, hsame⟩ := hlow low hmem hisLow
    obtain ⟨second, _, hsecond, _, hsame'⟩ := hlow other hother hisOther
    obtain rfl := Option.some.inj (hfirst.symm.trans hsecond)
    exact hsame.trans hsame'.symm
  · intro high hmem other hother hisHigh hisOther
    obtain ⟨_, first, _, hfirst, hsame⟩ := hhigh high hmem hisHigh
    obtain ⟨_, second, _, hsecond, hsame'⟩ := hhigh other hother hisOther
    obtain rfl := Option.some.inj (hfirst.symm.trans hsecond)
    exact hsame.trans hsame'.symm

omit hid in
theorem allListed_range_of_whole (h : Whole platform observations .issuePriceRange) :
    AllListed platform observations .issuePriceRange := by
  obtain ⟨hcells, hboth, hlows, hhighs⟩ := h
  intro observation hmem hobserves
  rw [listed_range_iff]
  rcases observes_range_iff.mp hobserves with hof | hisLow | hisHigh
  · refine Or.inl ⟨observation, hmem, ?_, rfl⟩
    rw [supplies, hof, hcells observation hmem hof]
    rfl
  · obtain ⟨low, high, hlow, hhigh⟩ := showsRange_iff.mp
      ⟨⟨observation, hmem, hisLow⟩, hboth.mp ⟨observation, hmem, hisLow⟩⟩
    exact Or.inr ⟨low, high, hlow, hhigh, Or.inl (hlows observation hmem low
      (List.mem_of_find?_eq_some hlow) hisLow (List.find?_some hlow))⟩
  · obtain ⟨low, high, hlow, hhigh⟩ := showsRange_iff.mp
      ⟨hboth.mpr ⟨observation, hmem, hisHigh⟩, observation, hmem, hisHigh⟩
    exact Or.inr ⟨low, high, hlow, hhigh, Or.inr (hhighs observation hmem high
      (List.mem_of_find?_eq_some hhigh) hisHigh (List.find?_some hhigh))⟩

theorem allListed_iff :
    AllListed platform observations factName ↔ Whole platform observations factName := by
  by_cases hfact : factName = .issuePriceRange
  · subst hfact
    exact ⟨whole_of_allListed_range hid, allListed_range_of_whole⟩
  · have hwhole : Whole platform observations factName ↔
        ∀ observation ∈ observations, observation.observes factName = true →
          normalizeComparable platform observation.fieldValue ≠ [] := by
      cases factName with
      | issuePriceRange => exact absurd rfl hfact
      | _ => exact Iff.rfl
    rw [hwhole, AllListed]
    refine forall₂_congr fun observation hmem => imp_congr_right fun hobserves => ?_
    rw [listed_iff hfact]
    constructor
    · rintro ⟨other, hother, hsupply, hsame⟩
      rw [(hid observation hmem other hother hsame).fieldValue]
      exact ((supplies_field_iff hfact).mp hsupply).2
    · intro hblank
      exact ⟨observation, hmem, (supplies_field_iff hfact).mpr ⟨hobserves, hblank⟩, rfl⟩

end SameIds

end Whole

end Aiphabee.IpoPublic
