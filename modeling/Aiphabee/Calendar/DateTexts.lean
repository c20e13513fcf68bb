import Aiphabee.Calendar.IsoText
import Aiphabee.Text.JsString

/-!
# Days as texts

The text of a day is the first ten characters of an ISO text.  In the years from 0 to
9999 these are the whole date: the text is read back as the day (`midnightOf_dayText`),
and the order of the texts is that of the days (`dayText_le_iff`).  Outside these years
the ten characters end with the month, so that all days of a month have one text.
-/

namespace Aiphabee.Calendar

open JsDate (padded yearText hasForm field civilOfDays)
open DigitOrder (number digitsOf SameShape length_padded isDigit_padded)

theorem charUnits_ascii {c : Char} (h : c.toNat < 0x10000) : JsString.charUnits c = [c.toNat] := by
  simp [JsString.charUnits, not_le.mpr h]

theorem map_toNat_lt_iff (left right : List Char) :
    left.map Char.toNat < right.map Char.toNat ↔ left < right := by
  induction left generalizing right with
  | nil => cases right <;> simp
  | cons c left ih =>
    cases right with
    | nil => simp
    | cons d right =>
      rw [List.map_cons, List.map_cons, List.cons_lt_cons_iff, List.cons_lt_cons_iff, ih,
        Char.toNat_inj]
      exact Iff.rfl

/-- Texts without surrogate pairs are compared character by character. -/
theorem sortsBefore_iff {left right : String} (hleft : ∀ c ∈ left.toList, c.toNat < 0x10000)
    (hright : ∀ c ∈ right.toList, c.toNat < 0x10000) :
    JsString.sortsBefore left right = true ↔ ¬right.toList < left.toList := by
  have hunits : ∀ text : String, (∀ c ∈ text.toList, c.toNat < 0x10000) →
      JsString.codeUnits text = text.toList.map Char.toNat := by
    intro text htext
    unfold JsString.codeUnits
    generalize text.toList = chars at htext ⊢
    induction chars with
    | nil => rfl
    | cons c chars ih =>
      rw [List.flatMap_cons, charUnits_ascii (htext c List.mem_cons_self),
        ih fun d hd => htext d (List.mem_cons_of_mem _ hd)]
      rfl
  rw [JsString.sortsBefore, decide_eq_true_iff, hunits left hleft, hunits right hright,
    ← map_toNat_lt_iff]
  exact not_lt.symm

section Texts

def dayText (day : Int) : String :=
  String.ofList ((isoText (day * 86400000)).toList.take 10)

def firstDay : Int := -719528

def lastDay : Int := 2932896

example : dayText firstDay = "0000-01-01" := by decide

example : dayText lastDay = "9999-12-31" := by decide

/-- The instant at the beginning of a date; the day may lie beyond the end of the month. -/
def midnight (year month day : Int) : Option Int :=
  if 1 ≤ month ∧ month ≤ 12 ∧ 1 ≤ day ∧ day ≤ 31 then
    JsDate.ofMilliseconds (dayNumber year month day * 86400000)
  else
    none

/-- `Date.parse` of a date with the time `T00:00:00Z`: a date with a year of four digits,
or a month with a signed year of six. -/
def midnightOf (date : String) : Option Int :=
  let text := date.toList
  if hasForm "0000-00-00".toList text then
    midnight (field text 0 4) (field text 5 2) (field text 8 2)
  else if hasForm "+000000-00".toList text then
    midnight (field text 1 6) (field text 8 2) 1
  else if hasForm "-000000-00".toList text && field text 1 6 != 0 then
    midnight (-(field text 1 6 : Int)) (field text 8 2) 1
  else
    none

example : midnightOf "-000001-12" = some (-62169897600000) := by decide

variable {day : Int}

theorem yearOf_midnight (day : Int) :
    yearOf (day * 86400000) = (civilOfDays day).1 := by
  rw [yearOf, Int.mul_ediv_cancel _ (by decide)]

theorem monthOf_midnight (day : Int) :
    monthOf (day * 86400000) = (civilOfDays day).2.1 := by
  rw [monthOf, Int.mul_ediv_cancel _ (by decide)]

theorem dayOf_midnight (day : Int) :
    dayOf (day * 86400000) = (civilOfDays day).2.2 := by
  rw [dayOf, Int.mul_ediv_cancel _ (by decide)]

def InShortYears (day : Int) : Prop :=
  firstDay ≤ day ∧ day ≤ lastDay

theorem le_year_iff (day year : Int) :
    year ≤ (civilOfDays day).1 ↔ dayNumber year 1 1 ≤ day := by
  obtain ⟨hdate, hnumber⟩ := civilOfDays_spec day
  obtain ⟨hfirst, hlast⟩ := dayOfYear_bounds hdate
  have hnext := daysBeforeYear_succ (civilOfDays day).1
  have hjanuary : daysBeforeMonth year 1 = 0 := rfl
  unfold dayNumber at hnumber ⊢
  rw [hjanuary]
  constructor
  · intro hle
    have hmono := daysBeforeYear_mono hle
    omega
  · intro hle
    by_contra hlt
    push Not at hlt
    have hmono := daysBeforeYear_mono (Int.add_one_le_of_lt hlt)
    omega

theorem isShortYear_iff (day : Int) :
    IsShortYear (civilOfDays day).1 ↔ InShortYears day := by
  have hzero := le_year_iff day 0
  have hten := le_year_iff day 10000
  have hzeroDay : dayNumber 0 1 1 = firstDay := by decide
  have htenDay : dayNumber 10000 1 1 = lastDay + 1 := by decide
  rw [hzeroDay] at hzero
  rw [htenDay] at hten
  unfold IsShortYear InShortYears
  omega

theorem dayText_toList (h : InShortYears day) :
    (dayText day).toList =
      dateChars (civilOfDays day).1 (civilOfDays day).2.1
        (civilOfDays day).2.2 := by
  have hyear := (isShortYear_iff day).mpr h
  obtain ⟨⟨hmonth, hmonthLast⟩, hday, hdayLast⟩ := (civilOfDays_spec day).1
  have hlength := monthLength_le (civilOfDays day).1 (civilOfDays day).2.1
  have hlast := hyear.2
  have hcount : (dateChars (civilOfDays day).1 (civilOfDays day).2.1
      (civilOfDays day).2.2).length = 10 := by
    simp only [dateChars, yearText_short hyear, List.length_append, List.length_cons]
    rw [length_padded (by decide) (by norm_num; omega),
      length_padded (by decide) (by norm_num; omega),
      length_padded (by decide) (by norm_num; omega)]
  rw [dayText, String.toList_ofList, isoText_toList, yearOf_midnight, monthOf_midnight,
    dayOf_midnight, List.take_left' hcount]

theorem dayText_ascii (h : InShortYears day) : ∀ c ∈ (dayText day).toList, c.toNat < 0x10000 := by
  have hdigit : ∀ width n, ∀ c ∈ (padded width n).toList, c.toNat < 0x10000 := by
    intro width n c hc
    have hbounds := Char.isDigit_iff_toNat.mp (isDigit_padded width n c hc)
    have hnine : '9'.toNat = 57 := rfl
    omega
  have hdash : '-'.toNat < 0x10000 := by decide
  intro c hc
  rw [dayText_toList h, dateChars, yearText_short ((isShortYear_iff day).mpr h)] at hc
  simp only [List.mem_append, List.mem_cons] at hc
  rcases hc with hc | (rfl | hc) | rfl | hc
  · exact hdigit _ _ c hc
  · exact hdash
  · exact hdigit _ _ c hc
  · exact hdash
  · exact hdigit _ _ c hc

variable {other : Int}

theorem SameShape.dayText (h : InShortYears day) (hother : InShortYears other) :
    SameShape (dayText day).toList (dayText other).toList := by
  have hyear := (isShortYear_iff day).mpr h
  have hyear' := (isShortYear_iff other).mpr hother
  have hshort : ∀ d, (civilOfDays d).2.1.toNat < 100 ∧
      (civilOfDays d).2.2.toNat < 100 := by
    intro d
    obtain ⟨⟨hmonth, hmonthLast⟩, hday, hdayLast⟩ := (civilOfDays_spec d).1
    have hlength := monthLength_le (civilOfDays d).1 (civilOfDays d).2.1
    omega
  have hfirst := hyear.1
  have hlast := hyear.2
  have hfirst' := hyear'.1
  have hlast' := hyear'.2
  rw [dayText_toList h, dayText_toList hother]
  refine .append (SameShape.yearText (by norm_num; omega) (by norm_num; omega)
    (iff_of_true hyear hyear') (by omega)) (.append (.cons _ ?_) (.cons _ ?_))
  · exact .padded (by decide) (hshort day).1 (hshort other).1
  · exact .padded (by decide) (hshort day).2 (hshort other).2

theorem dateStamp_strictMono (h : InShortYears day) (hlt : day < other) :
    dateStamp (civilOfDays day).1 (civilOfDays day).2.1
        (civilOfDays day).2.2 <
      dateStamp (civilOfDays other).1 (civilOfDays other).2.1
        (civilOfDays other).2.2 :=
  dateStamp_lt (civilOfDays_spec day).1 (civilOfDays_spec other).1
    ((isShortYear_iff day).mpr h).1 (civilOfDays_before hlt)

theorem number_dayText (h : InShortYears day) :
    number (digitsOf (dayText day).toList) =
      dateStamp (civilOfDays day).1 (civilOfDays day).2.1
        (civilOfDays day).2.2 := by
  have hyear := (isShortYear_iff day).mpr h
  have hfirst := hyear.1
  have hlast := hyear.2
  rw [dayText_toList h]
  exact number_dateChars (civilOfDays_spec day).1 (by norm_num; omega)

theorem dayText_lt_iff (h : InShortYears day) (hother : InShortYears other) :
    (dayText day).toList < (dayText other).toList ↔ day < other := by
  rw [DigitOrder.lt_iff_of_sameShape (SameShape.dayText h hother), number_dayText h,
    number_dayText hother]
  constructor
  · intro hstamp
    rcases lt_trichotomy day other with hlt | rfl | hgt
    · exact hlt
    · exact absurd hstamp (lt_irrefl _)
    · exact absurd (dateStamp_strictMono hother hgt) (lt_asymm hstamp)
  · exact dateStamp_strictMono h

theorem dayText_le_iff (h : InShortYears day) (hother : InShortYears other) :
    JsString.sortsBefore (dayText day) (dayText other) = true ↔ day ≤ other := by
  rw [sortsBefore_iff (dayText_ascii h) (dayText_ascii hother), dayText_lt_iff hother h, not_lt]

end Texts

theorem hasForm_append {pattern text : List Char} (h : hasForm pattern text = true)
    (pattern' text' : List Char) :
    hasForm (pattern ++ pattern') (text ++ text') = hasForm pattern' text' := by
  induction pattern generalizing text with
  | nil =>
    cases text with
    | nil => rfl
    | cons c text => simp [hasForm] at h
  | cons p pattern ih =>
    cases text with
    | nil => simp [hasForm] at h
    | cons c text =>
      simp only [hasForm, Bool.and_eq_true] at h
      simp only [List.cons_append, hasForm, h.1, Bool.true_and]
      exact ih h.2

theorem hasForm_dash (pattern text : List Char) :
    hasForm ('-' :: pattern) ('-' :: text) = hasForm pattern text := by
  simp [hasForm]

theorem hasForm_digits {digits : List Char} (h : ∀ c ∈ digits, c.isDigit = true) :
    hasForm (List.replicate digits.length '0') digits = true := by
  induction digits with
  | nil => rfl
  | cons c digits ih =>
    have hdigit := h c List.mem_cons_self
    have htail := ih fun d hd => h d (List.mem_cons_of_mem _ hd)
    rw [List.length_cons, List.replicate_succ, hasForm, htail]
    simp [hdigit]

theorem hasForm_padded {width n : Nat} (hwidth : 0 < width) (h : n < 10 ^ width) :
    hasForm (List.replicate width '0') (padded width n).toList = true := by
  have hform := hasForm_digits (isDigit_padded width n)
  rwa [length_padded hwidth h] at hform

theorem field_padded {width n : Nat} (hwidth : 0 < width) (h : n < 10 ^ width)
    (before after : List Char) :
    field (before ++ ((padded width n).toList ++ after)) before.length width = n := by
  have hlength := length_padded hwidth h
  rw [field, List.drop_left, List.take_left' hlength, ← Nat.ofDigitChars_eq_foldl,
    DigitOrder.ofDigitChars_padded hwidth h, Nat.mul_zero, Nat.zero_add]

theorem midnightOf_dayText (h : InShortYears day) :
    midnightOf (dayText day) = some (day * 86400000) := by
  have hyear := (isShortYear_iff day).mpr h
  obtain ⟨hdate, hnumber⟩ := civilOfDays_spec day
  obtain ⟨⟨hmonth, hmonthLast⟩, hday, hdayLast⟩ := hdate
  have hlength := monthLength_le (civilOfDays day).1 (civilOfDays day).2.1
  have hchars := dayText_toList h
  generalize (civilOfDays day).1 = year at *
  generalize (civilOfDays day).2.1 = month at *
  generalize (civilOfDays day).2.2 = inMonth at *
  obtain ⟨hyearFirst, hyearLast⟩ := hyear
  have hyearWidth : year.toNat < 10 ^ 4 := by norm_num; omega
  have hmonthWidth : month.toNat < 10 ^ 2 := by norm_num; omega
  have hdayWidth : inMonth.toNat < 10 ^ 2 := by norm_num; omega
  rw [dateChars, yearText_short ⟨hyearFirst, hyearLast⟩] at hchars
  have hyearLength := length_padded (by decide) hyearWidth
  have hmonthLength := length_padded (by decide) hmonthWidth
  have hform : hasForm "0000-00-00".toList (dayText day).toList = true := by
    rw [hchars]
    refine (hasForm_append (hasForm_padded (by decide) hyearWidth) "-00-00".toList _).trans ?_
    refine (hasForm_dash "00-00".toList _).trans ?_
    refine (hasForm_append (hasForm_padded (by decide) hmonthWidth) "-00".toList _).trans ?_
    refine (hasForm_dash "00".toList _).trans ?_
    exact hasForm_padded (by decide) hdayWidth
  have hyearField : field (dayText day).toList 0 4 = year.toNat := by
    rw [hchars]
    exact field_padded (by decide) hyearWidth [] _
  have hmonthField : field (dayText day).toList 5 2 = month.toNat := by
    have hfield := field_padded (by decide) hmonthWidth ((padded 4 year.toNat).toList ++ ['-'])
      ('-' :: (padded 2 inMonth.toNat).toList)
    rw [List.length_append, hyearLength] at hfield
    rw [hchars]
    simpa using hfield
  have hdayField : field (dayText day).toList 8 2 = inMonth.toNat := by
    have hfield := field_padded (by decide) hdayWidth
      ((padded 4 year.toNat).toList ++ '-' :: ((padded 2 month.toNat).toList ++ ['-'])) []
    rw [List.length_append, hyearLength, List.length_cons, List.length_append,
      hmonthLength] at hfield
    rw [hchars]
    simpa using hfield
  have hrange : -8640000000000000 ≤ day * 86400000 ∧ day * 86400000 ≤ 8640000000000000 := by
    unfold InShortYears firstDay lastDay at h
    omega
  unfold midnightOf
  dsimp only
  rw [if_pos hform, hyearField, hmonthField, hdayField, Int.toNat_of_nonneg hyearFirst,
    Int.toNat_of_nonneg (by omega), Int.toNat_of_nonneg (by omega), midnight,
    if_pos ⟨hmonth, hmonthLast, hday, by omega⟩, hnumber, JsDate.ofMilliseconds, if_pos hrange]

end Aiphabee.Calendar
