import Mathlib.Data.Char
import Mathlib.Data.List.Sort
import Aiphabee.Calendar.IsoText
import Aiphabee.Text.Collation
import Aiphabee.Text.JsNumber
import Aiphabee.Text.JsString

/-!
# Bars of an ephemeral provider

The bars of a provider come as values of any type.  They are checked one by one,
searched for a timestamp that stands twice, and put in the order of their timestamps.
The bars are handed on only when no issue was found.

The main result, `normalizeEphemeralBars_spec`, says which lists of bars pass, and
that the bars handed on are the given ones, converted, from the earliest to the latest.
-/

namespace Aiphabee.MarketData

namespace BarNormalization

open Calendar (isoText yearOf IsShortYear)
open DigitOrder (SameShape)

variable (platform : Platform)

/-- How texts are parsed by `Date.parse` and compared by `localeCompare`. -/
structure Platform extends Collation String where
  /-- The instant of a text, and none for a text that is not a number of milliseconds. -/
  dateParse : String → Option Int
  dateParse_valid : ∀ text time, dateParse text = some time →
    -8640000000000000 ≤ time ∧ time ≤ 8640000000000000
  /-- Where two texts differ in digits only, the first of these digits decides. -/
  localeLe_digits : ∀ a b, SameShape a.toList b.toList →
    (toCollation.localeLe a b = true ↔ ¬b.toList < a.toList)

inductive RawField
  | undefined
  | null
  | boolean (value : Bool)
  | number (value : JsNumber)
  | string (value : String)
  | other
deriving DecidableEq

structure EphemeralRawOhlcvBar where
  close : RawField
  complete : RawField
  high : RawField
  low : RawField
  «open» : RawField
  timestamp : RawField
  volume : RawField

/-- A bar with finite numbers. -/
structure NormalizedEphemeralBar where
  close : ℚ
  complete : Bool
  high : ℚ
  low : ℚ
  «open» : ℚ
  timestamp : String
  volume : Option ℚ

inductive ErrorCode
  | duplicateTimestamp
  | invalidOhlcRelation
  | invalidPrice
  | invalidTimestamp
  | negativeVolume
  | tooManyBars

structure Issue where
  code : ErrorCode
  index : Int
  message : String
  timestamp : Option String

structure Provider where
  providerId : String
  providerResponseSchemaVersion : String
  retrievedAt : String

structure NormalizationInput where
  provider : Provider
  rawBars : List EphemeralRawOhlcvBar

inductive Status
  | ok
  | invalid
deriving DecidableEq

structure NormalizationResult where
  bars : List NormalizedEphemeralBar
  barsCount : Nat
  incompleteLatestBar : Bool
  issues : List Issue
  provider : Provider
  status : Status

def maxEphemeralOhlcvBars : Nat := 500

/-- The instant of a timestamp that is a text and not blank. -/
def instantOf : RawField → Option Int
  | .string value => if (JsString.trim value).isEmpty then none else platform.dateParse value
  | _ => none

def normalizeTimestamp (value : RawField) : Option String :=
  (instantOf platform value).map isoText

def normalizesToTimestamp (value : RawField) (timestamp : String) : Bool :=
  normalizeTimestamp platform value = some timestamp

def normalizeFiniteNumber : RawField → Option ℚ
  | .number (.finite value) => some value
  | _ => none

/-- A volume that may be missing; `none` is one that is not accepted. -/
def normalizeVolume : RawField → Option (Option ℚ)
  | .undefined => some none
  | .null => some none
  | .number (.finite value) => if value < 0 then none else some (some value)
  | _ => none

def isComplete (value : RawField) : Bool :=
  if value = .undefined then true else value = .boolean true

def singleBarIssues (bar : EphemeralRawOhlcvBar) (index : Nat) : List Issue :=
  let timestamp := normalizeTimestamp platform bar.timestamp
  let «open» := normalizeFiniteNumber bar.open
  let high := normalizeFiniteNumber bar.high
  let low := normalizeFiniteNumber bar.low
  let close := normalizeFiniteNumber bar.close
  (if timestamp.isNone then
      [⟨.invalidTimestamp, index, "timestamp must be parseable", none⟩] else []) ++
    (if «open».isNone || high.isNone || low.isNone || close.isNone then
      [⟨.invalidPrice, index, "open, high, low, and close must be finite numbers", timestamp⟩]
      else []) ++
    (if (normalizeVolume bar.volume).isNone then
      [⟨.negativeVolume, index, "volume must be null or >= 0", timestamp⟩] else []) ++
    match «open», high, low, close with
    | some «open», some high, some low, some close =>
      if high < max (max «open» close) low ∨ low > min (min «open» close) high then
        [⟨.invalidOhlcRelation, index, "high/low must bound open and close", timestamp⟩]
      else []
    | _, _, _, _ => []

/-- The bar, when every field of it could be read. -/
def normalizeSingleBar (bar : EphemeralRawOhlcvBar) : Option NormalizedEphemeralBar := do
  let timestamp ← normalizeTimestamp platform bar.timestamp
  let «open» ← normalizeFiniteNumber bar.open
  let high ← normalizeFiniteNumber bar.high
  let low ← normalizeFiniteNumber bar.low
  let close ← normalizeFiniteNumber bar.close
  let volume ← normalizeVolume bar.volume
  return {
    close := close
    complete := isComplete bar.complete
    high := high
    low := low
    «open» := «open»
    timestamp := timestamp
    volume := volume }

def firstIndex (rawBars : List EphemeralRawOhlcvBar) (timestamp : String) : Int :=
  match rawBars.findIdx? fun candidate =>
      normalizesToTimestamp platform candidate.timestamp timestamp with
  | some index => index
  | none => -1

def duplicateIssues (rawBars : List EphemeralRawOhlcvBar) :
    List String → List NormalizedEphemeralBar → List Issue
  | _, [] => []
  | seen, bar :: bars =>
    if bar.timestamp ∈ seen then
      ⟨.duplicateTimestamp, firstIndex platform rawBars bar.timestamp,
        "timestamp must be unique", some bar.timestamp⟩ :: duplicateIssues rawBars seen bars
    else
      duplicateIssues rawBars (bar.timestamp :: seen) bars

/-- The order in which the bars are sorted. -/
def timestampLe (left right : NormalizedEphemeralBar) : Prop :=
  platform.localeLe left.timestamp right.timestamp = true

instance : DecidableRel (timestampLe platform) := fun _ _ =>
  inferInstanceAs (Decidable (_ = true))

instance : Std.Total (timestampLe platform) :=
  ⟨fun _ _ => platform.localeLe_total _ _⟩

instance : IsTrans NormalizedEphemeralBar (timestampLe platform) :=
  ⟨fun _ _ _ => platform.localeLe_trans _ _ _⟩

def invalidResult (provider : Provider) (issues : List Issue) : NormalizationResult where
  bars := []
  barsCount := 0
  incompleteLatestBar := false
  issues := issues
  provider := provider
  status := .invalid

def normalizeEphemeralBars (input : NormalizationInput) : NormalizationResult :=
  if input.rawBars.length > maxEphemeralOhlcvBars then
    invalidResult input.provider
      [⟨.tooManyBars, maxEphemeralOhlcvBars, "bars_count must be <= 500", none⟩]
  else
    let normalizedBars := input.rawBars.filterMap (normalizeSingleBar platform)
    let issues :=
      (input.rawBars.mapIdx fun index bar => singleBarIssues platform bar index).flatten ++
        duplicateIssues platform input.rawBars [] normalizedBars
    if issues.length > 0 then
      invalidResult input.provider issues
    else
      let bars := normalizedBars.insertionSort (timestampLe platform)
      { bars := bars
        barsCount := bars.length
        incompleteLatestBar := bars.getLast?.any fun bar => !bar.complete
        issues := []
        provider := input.provider
        status := .ok }

structure ValidPrices (bar : EphemeralRawOhlcvBar) : Prop where
  finite : ∃ opening high low close,
    bar.open = .number (.finite opening) ∧ bar.high = .number (.finite high) ∧
      bar.low = .number (.finite low) ∧ bar.close = .number (.finite close) ∧
      max opening close ≤ high ∧ low ≤ min opening close ∧ low ≤ high

def ValidVolume (bar : EphemeralRawOhlcvBar) : Prop :=
  bar.volume = .undefined ∨ bar.volume = .null ∨
    ∃ volume, bar.volume = .number (.finite volume) ∧ 0 ≤ volume

structure ValidBar (bar : EphemeralRawOhlcvBar) : Prop where
  prices : ValidPrices bar
  volume : ValidVolume bar
  timestamp : (instantOf platform bar.timestamp).isSome = true

def VolumeOf (raw : RawField) : Option ℚ → Prop
  | none => raw = .undefined ∨ raw = .null
  | some volume => raw = .number (.finite volume)

structure Converts (raw : EphemeralRawOhlcvBar) (bar : NormalizedEphemeralBar) : Prop where
  «open» : raw.open = .number (.finite bar.open)
  high : raw.high = .number (.finite bar.high)
  low : raw.low = .number (.finite bar.low)
  close : raw.close = .number (.finite bar.close)
  volume : VolumeOf raw.volume bar.volume
  complete : bar.complete = true ↔ raw.complete = .undefined ∨ raw.complete = .boolean true
  timestamp : ∃ time, instantOf platform raw.timestamp = some time ∧ bar.timestamp = isoText time

@[simp] theorem normalizeFiniteNumber_eq_some_iff {value : RawField} {number : ℚ} :
    normalizeFiniteNumber value = some number ↔ value = .number (.finite number) := by
  unfold normalizeFiniteNumber
  split <;> simp_all

theorem normalizeVolume_eq_some {value : RawField} {volume : Option ℚ}
    (h : normalizeVolume value = some volume) : VolumeOf value volume := by
  unfold normalizeVolume at h
  split at h
  · cases h
    exact .inl rfl
  · cases h
    exact .inr rfl
  · split at h
    · cases h
    · cases h
      rfl
  · cases h

theorem normalizeVolume_isSome_iff (bar : EphemeralRawOhlcvBar) :
    (normalizeVolume bar.volume).isSome = true ↔ ValidVolume bar := by
  unfold normalizeVolume ValidVolume
  split
  · next h => simp [h]
  · next h => simp [h]
  · next value h =>
      simp only [h, reduceCtorEq, false_or, RawField.number.injEq, JsNumber.finite.injEq]
      by_cases hvalue : value < 0
      · simp [hvalue]
      · simp [hvalue, not_lt.mp hvalue]
  · next hundefined hnull hnumber =>
      simp only [Option.isSome_none, Bool.false_eq_true, false_iff, not_or]
      exact ⟨hundefined, hnull, fun ⟨volume, hvolume, _⟩ => hnumber volume hvolume⟩

theorem normalizeSingleBar_converts {raw : EphemeralRawOhlcvBar} {bar : NormalizedEphemeralBar}
    (h : normalizeSingleBar platform raw = some bar) : Converts platform raw bar := by
  unfold normalizeSingleBar at h
  simp only [Option.bind_eq_bind, Option.bind_eq_some_iff, Option.pure_def,
    Option.some.injEq] at h
  obtain ⟨timestamp, htimestamp, opening, hopen, high, hhigh, low, hlow, close, hclose, volume,
    hvolume, rfl⟩ := h
  obtain ⟨time, htime, htext⟩ := Option.map_eq_some_iff.mp htimestamp
  exact {
    «open» := normalizeFiniteNumber_eq_some_iff.mp hopen
    high := normalizeFiniteNumber_eq_some_iff.mp hhigh
    low := normalizeFiniteNumber_eq_some_iff.mp hlow
    close := normalizeFiniteNumber_eq_some_iff.mp hclose
    volume := normalizeVolume_eq_some hvolume
    complete := by
      unfold isComplete
      split <;> simp [*]
    timestamp := ⟨time, htime, htext.symm⟩ }

theorem ohlc_bounded_iff {opening high low close : ℚ} :
    ¬(high < max (max opening close) low ∨ low > min (min opening close) high) ↔
      max opening close ≤ high ∧ low ≤ min opening close ∧ low ≤ high := by
  simp only [not_or, not_lt, max_le_iff, le_min_iff]
  tauto

theorem isNone_eq_false_iff_exists {α : Type} {value : Option α} :
    value.isNone = false ↔ ∃ found, value = some found := by
  rw [Option.isNone_eq_false_iff, Option.isSome_iff_exists]

theorem singleBarIssues_eq_nil_iff (bar : EphemeralRawOhlcvBar) (index : Nat) :
    singleBarIssues platform bar index = [] ↔ ValidBar platform bar := by
  have htimestamp : (normalizeTimestamp platform bar.timestamp).isNone = false ↔
      (instantOf platform bar.timestamp).isSome = true := by
    rw [normalizeTimestamp, Option.isNone_map, Option.isNone_eq_false_iff]
  unfold singleBarIssues
  simp only [List.append_eq_nil_iff, ite_eq_right_iff, List.cons_ne_self, imp_false,
    Bool.not_eq_true, Bool.or_eq_false_iff]
  constructor
  · rintro ⟨⟨⟨htime, ⟨⟨hopen, hhigh⟩, hlow⟩, hclose⟩, hvolume⟩, hrelation⟩
    obtain ⟨opening, hopen⟩ := isNone_eq_false_iff_exists.mp hopen
    obtain ⟨high, hhigh⟩ := isNone_eq_false_iff_exists.mp hhigh
    obtain ⟨low, hlow⟩ := isNone_eq_false_iff_exists.mp hlow
    obtain ⟨close, hclose⟩ := isNone_eq_false_iff_exists.mp hclose
    simp only [hopen, hhigh, hlow, hclose] at hrelation
    have hbounded : ¬(high < max (max opening close) low ∨
        low > min (min opening close) high) := by
      intro hissue
      rw [if_pos hissue] at hrelation
      cases hrelation
    rw [normalizeFiniteNumber_eq_some_iff] at hopen hhigh hlow hclose
    rw [Option.isNone_eq_false_iff, normalizeVolume_isSome_iff] at hvolume
    exact ⟨⟨opening, high, low, close, hopen, hhigh, hlow, hclose, ohlc_bounded_iff.mp hbounded⟩,
      hvolume, htimestamp.mp htime⟩
  · rintro ⟨⟨opening, high, low, close, hopen, hhigh, hlow, hclose, hbounded⟩, hvolume, htime⟩
    rw [← normalizeFiniteNumber_eq_some_iff] at hopen hhigh hlow hclose
    rw [← normalizeVolume_isSome_iff, ← Option.isNone_eq_false_iff] at hvolume
    simp only [hopen, hhigh, hlow, hclose, Option.isNone_some]
    exact ⟨⟨⟨htimestamp.mpr htime, by simp⟩, hvolume⟩, if_neg (ohlc_bounded_iff.mpr hbounded)⟩

theorem normalizeSingleBar_of_valid {raw : EphemeralRawOhlcvBar} (h : ValidBar platform raw) :
    ∃ bar, normalizeSingleBar platform raw = some bar := by
  obtain ⟨⟨opening, high, low, close, hopen, hhigh, hlow, hclose, -⟩, hvolume, htime⟩ := h
  rw [← normalizeFiniteNumber_eq_some_iff] at hopen hhigh hlow hclose
  rw [← normalizeVolume_isSome_iff] at hvolume
  obtain ⟨volume, hvolume⟩ := Option.isSome_iff_exists.mp hvolume
  obtain ⟨time, htime⟩ := Option.isSome_iff_exists.mp htime
  simp [normalizeSingleBar, normalizeTimestamp, hopen, hhigh, hlow, hclose, hvolume, htime]

theorem filterMap_converts {rawBars : List EphemeralRawOhlcvBar}
    (h : ∀ raw ∈ rawBars, ValidBar platform raw) :
    List.Forall₂ (Converts platform) rawBars
      (rawBars.filterMap (normalizeSingleBar platform)) := by
  induction rawBars with
  | nil => exact .nil
  | cons raw rawBars ih =>
    obtain ⟨bar, hbar⟩ := normalizeSingleBar_of_valid platform (h raw List.mem_cons_self)
    rw [List.filterMap_cons_some hbar]
    exact .cons (normalizeSingleBar_converts platform hbar)
      (ih fun other hother => h other (List.mem_cons_of_mem _ hother))

section Instants

variable {platform : Platform}

theorem natAbs_yearOf_instant {field : RawField} {time : Int}
    (h : instantOf platform field = some time) : (yearOf time).natAbs < 10 ^ 6 := by
  unfold instantOf at h
  split at h
  · split at h
    · cases h
    · obtain ⟨hlow, hhigh⟩ := platform.dateParse_valid _ _ h
      exact Calendar.natAbs_yearOf_lt hlow hhigh
  · cases h

theorem Converts.timestamp_eq_iff {raw raw' : EphemeralRawOhlcvBar}
    {bar bar' : NormalizedEphemeralBar} (h : Converts platform raw bar)
    (h' : Converts platform raw' bar') :
    bar.timestamp = bar'.timestamp ↔
      instantOf platform raw.timestamp = instantOf platform raw'.timestamp := by
  obtain ⟨time, htime, htext⟩ := h.timestamp
  obtain ⟨time', htime', htext'⟩ := h'.timestamp
  rw [htext, htext', htime, htime', Option.some.injEq]
  refine ⟨Calendar.isoText_injective ?_ ?_, congrArg isoText⟩
  · exact natAbs_yearOf_instant htime
  · exact natAbs_yearOf_instant htime'

def DistinctInstants (platform : Platform) (rawBars : List EphemeralRawOhlcvBar) : Prop :=
  rawBars.Pairwise fun left right =>
    instantOf platform left.timestamp ≠ instantOf platform right.timestamp

theorem nodup_timestamps_iff {rawBars : List EphemeralRawOhlcvBar}
    {bars : List NormalizedEphemeralBar} (h : List.Forall₂ (Converts platform) rawBars bars) :
    (bars.map NormalizedEphemeralBar.timestamp).Nodup ↔ DistinctInstants platform rawBars := by
  rw [List.Nodup, List.pairwise_map, DistinctInstants]
  induction h with
  | nil => simp
  | @cons raw bar rawBars bars hbar hbars ih =>
    rw [List.pairwise_cons, List.pairwise_cons, ih]
    refine and_congr_left' ?_
    clear ih
    induction hbars with
    | nil => simp
    | cons hbar' _ ih =>
      rw [List.forall_mem_cons, List.forall_mem_cons, ih, ne_eq, hbar.timestamp_eq_iff hbar']

theorem duplicateIssues_eq_nil_iff (rawBars : List EphemeralRawOhlcvBar) (seen : List String)
    (bars : List NormalizedEphemeralBar) :
    duplicateIssues platform rawBars seen bars = [] ↔
      (∀ bar ∈ bars, bar.timestamp ∉ seen) ∧
        (bars.map NormalizedEphemeralBar.timestamp).Nodup := by
  induction bars generalizing seen with
  | nil => simp [duplicateIssues]
  | cons bar bars ih =>
    rw [duplicateIssues]
    split
    · next hseen => simp [hseen]
    · next hseen =>
        rw [ih]
        simp only [List.mem_cons, not_or, List.map_cons, List.nodup_cons, List.mem_map,
          forall_eq_or_imp, not_exists, not_and]
        constructor
        · rintro ⟨hbars, hnodup⟩
          exact ⟨⟨hseen, fun other hother => (hbars other hother).2⟩,
            fun other hother => (hbars other hother).1, hnodup⟩
        · rintro ⟨⟨-, hbars⟩, hdistinct, hnodup⟩
          exact ⟨fun other hother => ⟨hdistinct other hother, hbars other hother⟩, hnodup⟩

/-- The years of two instants are not negative, and both or none have more than four digits. -/
structure WrittenAlike (time other : Int) : Prop where
  first : 0 ≤ yearOf time
  second : 0 ≤ yearOf other
  digits : yearOf time ≤ 9999 ↔ yearOf other ≤ 9999

theorem lt_of_timestampLe {raw raw' : EphemeralRawOhlcvBar} {bar bar' : NormalizedEphemeralBar}
    {time time' : Int} (h : Converts platform raw bar) (h' : Converts platform raw' bar')
    (hle : timestampLe platform bar bar') (hne : bar.timestamp ≠ bar'.timestamp)
    (htime : instantOf platform raw.timestamp = some time)
    (htime' : instantOf platform raw'.timestamp = some time') (halike : WrittenAlike time time') :
    time < time' := by
  obtain ⟨_, htext, hbar⟩ := h.timestamp
  obtain ⟨_, htext', hbar'⟩ := h'.timestamp
  obtain rfl := Option.some.inj (htime.symm.trans htext)
  obtain rfl := Option.some.inj (htime'.symm.trans htext')
  have hyear := natAbs_yearOf_instant htime
  have hyear' := natAbs_yearOf_instant htime'
  have hkind : IsShortYear (yearOf time) ↔ IsShortYear (yearOf time') :=
    ⟨fun hshort => ⟨halike.second, halike.digits.mp hshort.2⟩,
      fun hshort => ⟨halike.first, halike.digits.mpr hshort.2⟩⟩
  have hfirst := halike.first
  have hsecond := halike.second
  have hshape := Calendar.SameShape.isoText hyear hyear' hkind (by omega)
  rw [timestampLe, hbar, hbar', platform.localeLe_digits _ _ hshape] at hle
  rw [hbar, hbar'] at hne
  rcases lt_trichotomy time time' with hlt | rfl | hgt
  · exact hlt
  · exact absurd rfl hne
  · rw [← Calendar.isoText_lt_iff hyear' hyear hsecond hfirst hkind.symm] at hgt
    exact absurd hgt hle

end Instants

section Result

variable {platform : Platform}

structure Acceptable (platform : Platform) (rawBars : List EphemeralRawOhlcvBar) : Prop where
  bounded : rawBars.length ≤ 500
  valid : ∀ raw ∈ rawBars, ValidBar platform raw
  distinct : DistinctInstants platform rawBars

def allIssues (platform : Platform) (rawBars : List EphemeralRawOhlcvBar) : List Issue :=
  (rawBars.mapIdx fun index bar => singleBarIssues platform bar index).flatten ++
    duplicateIssues platform rawBars [] (rawBars.filterMap (normalizeSingleBar platform))

theorem allIssues_eq_nil_iff (platform : Platform) (rawBars : List EphemeralRawOhlcvBar) :
    allIssues platform rawBars = [] ↔
      (∀ raw ∈ rawBars, ValidBar platform raw) ∧ DistinctInstants platform rawBars := by
  have hsingle : (rawBars.mapIdx fun index bar => singleBarIssues platform bar index).flatten = [] ↔
      ∀ raw ∈ rawBars, ValidBar platform raw := by
    rw [List.flatten_eq_nil_iff]
    constructor
    · intro hnil raw hraw
      obtain ⟨index, hindex, rfl⟩ := List.mem_iff_getElem.mp hraw
      refine (singleBarIssues_eq_nil_iff platform _ index).mp (hnil _ ?_)
      exact List.mem_mapIdx.mpr ⟨index, hindex, rfl⟩
    · intro hvalid issues hissues
      obtain ⟨index, hindex, rfl⟩ := List.mem_mapIdx.mp hissues
      exact (singleBarIssues_eq_nil_iff platform _ index).mpr (hvalid _ (List.getElem_mem hindex))
  rw [allIssues, List.append_eq_nil_iff, hsingle]
  refine and_congr_right fun hvalid => ?_
  rw [duplicateIssues_eq_nil_iff, nodup_timestamps_iff (filterMap_converts platform hvalid)]
  simp

theorem normalizeEphemeralBars_status (input : NormalizationInput) :
    (normalizeEphemeralBars platform input).status = .ok ↔ Acceptable platform input.rawBars := by
  have hissues := allIssues_eq_nil_iff platform input.rawBars
  unfold normalizeEphemeralBars
  dsimp only
  rw [← allIssues]
  split
  · next hmany =>
      refine iff_of_false (by simp [invalidResult]) fun haccept => ?_
      exact absurd haccept.bounded (not_le.mpr hmany)
  · next hmany =>
      split
      · next hsome =>
          refine iff_of_false (by simp [invalidResult]) fun haccept => ?_
          rw [hissues.mpr ⟨haccept.valid, haccept.distinct⟩] at hsome
          exact absurd hsome (lt_irrefl 0)
      · next hnone =>
          have hnil := List.length_eq_zero_iff.mp (Nat.eq_zero_of_not_pos hnone)
          obtain ⟨hvalid, hdistinct⟩ := hissues.mp hnil
          exact iff_of_true rfl ⟨not_lt.mp hmany, hvalid, hdistinct⟩

theorem normalizeEphemeralBars_bars {input : NormalizationInput}
    (h : Acceptable platform input.rawBars) :
    (normalizeEphemeralBars platform input).bars =
      (input.rawBars.filterMap (normalizeSingleBar platform)).insertionSort
        (timestampLe platform) := by
  have hnil := (allIssues_eq_nil_iff platform input.rawBars).mpr ⟨h.valid, h.distinct⟩
  unfold normalizeEphemeralBars
  dsimp only
  have hfew : ¬input.rawBars.length > maxEphemeralOhlcvBars := not_lt.mpr h.bounded
  rw [← allIssues, hnil, if_neg hfew]
  rfl

theorem converted_of_mem {order : List EphemeralRawOhlcvBar} {bars : List NormalizedEphemeralBar}
    {raw : EphemeralRawOhlcvBar} (h : List.Forall₂ (Converts platform) order bars)
    (hraw : raw ∈ order) : ∃ bar ∈ bars, Converts platform raw bar := by
  induction h with
  | nil => cases hraw
  | cons hbar _ ih =>
    rcases List.mem_cons.mp hraw with rfl | hraw
    · exact ⟨_, List.mem_cons_self, hbar⟩
    · obtain ⟨bar, hmem, hconverts⟩ := ih hraw
      exact ⟨bar, List.mem_cons_of_mem _ hmem, hconverts⟩

theorem sortedBars_order {rawBars : List EphemeralRawOhlcvBar} (h : Acceptable platform rawBars) :
    ∃ order, order.Perm rawBars ∧
      List.Forall₂ (Converts platform) order
        ((rawBars.filterMap (normalizeSingleBar platform)).insertionSort
          (timestampLe platform)) ∧
      order.Pairwise fun left right => ∀ time time',
        instantOf platform left.timestamp = some time →
          instantOf platform right.timestamp = some time' →
            WrittenAlike time time' → time < time' := by
  have hconverts := filterMap_converts platform h.valid
  have hperm := List.perm_insertionSort (timestampLe platform)
    (rawBars.filterMap (normalizeSingleBar platform))
  have hsorted := List.pairwise_insertionSort (timestampLe platform)
    (rawBars.filterMap (normalizeSingleBar platform))
  have hnodup := (nodup_timestamps_iff hconverts).mpr h.distinct
  rw [← (hperm.map NormalizedEphemeralBar.timestamp).nodup_iff, List.Nodup,
    List.pairwise_map] at hnodup
  obtain ⟨order, horder, hbars⟩ :
      Relation.Comp List.Perm (List.Forall₂ (Converts platform)) rawBars
        ((rawBars.filterMap (normalizeSingleBar platform)).insertionSort
          (timestampLe platform)) := by
    rw [← List.forall₂_comp_perm_eq_perm_comp_forall₂]
    exact ⟨_, hconverts, hperm.symm⟩
  refine ⟨order, horder.symm, hbars, ?_⟩
  have hboth := hsorted.and hnodup
  clear hsorted hnodup hperm horder
  generalize (rawBars.filterMap (normalizeSingleBar platform)).insertionSort
    (timestampLe platform) = bars at hbars hboth
  induction hbars with
  | nil => exact .nil
  | @cons raw bar order bars hbar hbars ih =>
    obtain ⟨hhead, htail⟩ := List.pairwise_cons.mp hboth
    refine List.pairwise_cons.mpr ⟨fun other hother time time' htime htime' halike => ?_, ih htail⟩
    obtain ⟨other', hother', hconverted⟩ := converted_of_mem hbars hother
    obtain ⟨hle, hne⟩ := hhead other' hother'
    exact lt_of_timestampLe hbar hconverted hle hne htime htime' halike

/-- Exactly the acceptable lists pass, and their bars come converted and in order. -/
theorem normalizeEphemeralBars_spec (platform : Platform) (input : NormalizationInput) :
    ((normalizeEphemeralBars platform input).status = .ok ↔
        Acceptable platform input.rawBars) ∧
      ((normalizeEphemeralBars platform input).status = .ok →
        ∃ order, order.Perm input.rawBars ∧
          List.Forall₂ (Converts platform) order (normalizeEphemeralBars platform input).bars ∧
          order.Pairwise fun left right => ∀ time time',
            instantOf platform left.timestamp = some time →
              instantOf platform right.timestamp = some time' →
                WrittenAlike time time' → time < time') := by
  refine ⟨normalizeEphemeralBars_status input, fun hok => ?_⟩
  have haccept := (normalizeEphemeralBars_status input).mp hok
  rw [normalizeEphemeralBars_bars haccept]
  exact sortedBars_order haccept

def oneDayPlatform : Platform where
  dateParse text := if text = "2026-07-01" then some 1782864000000 else none
  dateParse_valid text time h := by
    split at h
    · cases h
      decide
    · cases h
  toCollation := .ofKey String.toList
  localeLe_digits a b _ := (Collation.localeLe_ofKey String.toList a b).trans not_lt.symm

def zeroBar : EphemeralRawOhlcvBar where
  close := .number .zero
  complete := .undefined
  high := .number .zero
  low := .number .zero
  «open» := .number .zero
  timestamp := .string "2026-07-01"
  volume := .null

def zeroInput : NormalizationInput where
  provider := ⟨"provider", "v0", "2026-07-07T03:20:00.000Z"⟩
  rawBars := [zeroBar]

/-- A price need not be positive: a bar of zeros passes. -/
theorem normalizeEphemeralBars_zero :
    (normalizeEphemeralBars oneDayPlatform zeroInput).status = .ok ∧
      ∃ raw ∈ zeroInput.rawBars, ¬∃ price, raw.close = .number (.finite price) ∧ 0 < price := by
  refine ⟨by decide +kernel, zeroBar, List.mem_cons_self, ?_⟩
  rintro ⟨price, hprice, hpos⟩
  obtain rfl : (0 : ℚ) = price := by simpa [zeroBar, JsNumber.zero] using hprice
  exact lt_irrefl _ hpos

end Result

end BarNormalization

end Aiphabee.MarketData
