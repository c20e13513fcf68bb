import Mathlib.Tactic.IntervalCases
import Aiphabee.Text.JsDate

/-!
# Days of the civil calendar

The number of a day is counted from the first of January 1970.  The year, month
and day that the calendar computes of a number are a real date with that number
(`civilOfDays_spec`), and the numbers of real dates are ordered as the dates are
(`dayNumber_lt_iff`), so that the two are inverse to each other.
-/

namespace Aiphabee.Calendar

open JsDate (civilOfDays)

variable (year : Int)

def isLeapYear : Bool :=
  (year % 4 = 0 && year % 100 ≠ 0) || year % 400 = 0

def leapDay : Int :=
  if isLeapYear year then 1 else 0

def monthLength (year month : Int) : Int :=
  if month = 2 then 28 + leapDay year
  else if month = 4 ∨ month = 6 ∨ month = 9 ∨ month = 11 then 30
  else 31

def daysBeforeMonth (year month : Int) : Int :=
  if month ≤ 2 then 31 * (month - 1) else (153 * month - 457) / 5 + 59 + leapDay year

def daysBeforeYear : Int :=
  365 * (year - 1) + (year - 1) / 4 - (year - 1) / 100 + (year - 1) / 400

def dayNumber (year month day : Int) : Int :=
  daysBeforeYear year + daysBeforeMonth year month + day - 719163

example : dayNumber 1970 1 1 = 0 := by decide

structure IsDate (year month day : Int) : Prop where
  monthInYear : 1 ≤ month ∧ month ≤ 12
  dayInMonth : 1 ≤ day ∧ day ≤ monthLength year month

section Order

theorem leapDay_eq :
    leapDay year = (year / 4 - year / 100 + year / 400) -
      ((year - 1) / 4 - (year - 1) / 100 + (year - 1) / 400) := by
  unfold leapDay isLeapYear
  split
  · next h =>
      simp only [Bool.or_eq_true, Bool.and_eq_true, decide_eq_true_eq] at h
      omega
  · next h =>
      simp only [Bool.or_eq_true, Bool.and_eq_true, decide_eq_true_eq, not_or, not_and,
        not_not] at h
      omega

theorem leapDay_bounds :
    0 ≤ leapDay year ∧ leapDay year ≤ 1 := by
  unfold leapDay
  split <;> omega

theorem daysBeforeYear_succ :
    daysBeforeYear (year + 1) = daysBeforeYear year + 365 + leapDay year := by
  rw [leapDay_eq, daysBeforeYear, daysBeforeYear, add_sub_cancel_right]
  omega

theorem daysBeforeYear_mono {year other : Int} (h : year ≤ other) :
    daysBeforeYear year ≤ daysBeforeYear other := by
  unfold daysBeforeYear
  omega

theorem daysBeforeMonth_succ {month : Int} (hlow : 1 ≤ month) (hhigh : month ≤ 12) :
    daysBeforeMonth year month + monthLength year month =
      if month = 12 then 365 + leapDay year else daysBeforeMonth year (month + 1) := by
  unfold daysBeforeMonth monthLength
  interval_cases month <;> norm_num
  all_goals omega

theorem daysBeforeMonth_mono {month other : Int} (hlow : 1 ≤ month) (h : month ≤ other) :
    daysBeforeMonth year month ≤ daysBeforeMonth year other := by
  have hleap := leapDay_bounds year
  unfold daysBeforeMonth
  split <;> split <;> omega

theorem daysBeforeMonth_lt {year month day other : Int} (h : IsDate year month day)
    (hother : other ≤ 12) (hlt : month < other) :
    daysBeforeMonth year month + day ≤ daysBeforeMonth year other := by
  obtain ⟨⟨hlow, hhigh⟩, ⟨-, hday⟩⟩ := h
  have hnext := daysBeforeMonth_succ year hlow hhigh
  rw [if_neg (by omega)] at hnext
  have hmono := daysBeforeMonth_mono year (by omega) (Int.add_one_le_of_lt hlt)
  omega

theorem dayOfYear_bounds {year month day : Int} (h : IsDate year month day) :
    1 ≤ daysBeforeMonth year month + day ∧
      daysBeforeMonth year month + day ≤ 365 + leapDay year := by
  obtain ⟨⟨hlow, hhigh⟩, ⟨hfirst, hday⟩⟩ := h
  have hjanuary : daysBeforeMonth year 1 = 0 := rfl
  have hmono := daysBeforeMonth_mono year le_rfl hlow
  have hnext := daysBeforeMonth_succ year hlow hhigh
  have hdecember : daysBeforeMonth year 12 + 31 = 365 + leapDay year := by
    unfold daysBeforeMonth
    norm_num
    omega
  refine ⟨by omega, ?_⟩
  split at hnext
  · omega
  · have hlater := daysBeforeMonth_mono year (by omega) (show month + 1 ≤ 12 by omega)
    omega

/-- One date comes before another. -/
def Before (year month day year' month' day' : Int) : Prop :=
  year < year' ∨ (year = year' ∧ (month < month' ∨ (month = month' ∧ day < day')))

variable {year month day year' month' day' : Int}

theorem dayNumber_lt_of_before (h : IsDate year month day) (h' : IsDate year' month' day')
    (hbefore : Before year month day year' month' day') :
    dayNumber year month day < dayNumber year' month' day' := by
  obtain ⟨hlow, -⟩ := dayOfYear_bounds h'
  obtain ⟨-, hhigh⟩ := dayOfYear_bounds h
  unfold dayNumber
  rcases hbefore with hyear | ⟨rfl, hmonth | ⟨rfl, hday⟩⟩
  · have hnext := daysBeforeYear_succ year
    have hmono := daysBeforeYear_mono (Int.add_one_le_of_lt hyear)
    omega
  · have hstep := daysBeforeMonth_lt h h'.monthInYear.2 hmonth
    have hfirst := h'.dayInMonth.1
    omega
  · omega

theorem before_trichotomy (year month day year' month' day' : Int) :
    Before year month day year' month' day' ∨
      (year = year' ∧ month = month' ∧ day = day') ∨
        Before year' month' day' year month day := by
  unfold Before
  omega

theorem dayNumber_lt_iff (h : IsDate year month day) (h' : IsDate year' month' day') :
    dayNumber year month day < dayNumber year' month' day' ↔
      Before year month day year' month' day' := by
  constructor
  · intro hlt
    rcases before_trichotomy year month day year' month' day' with
        hbefore | ⟨rfl, rfl, rfl⟩ | hafter
    · exact hbefore
    · exact absurd hlt (lt_irrefl _)
    · exact absurd (dayNumber_lt_of_before h' h hafter) (lt_asymm hlt)
  · exact dayNumber_lt_of_before h h'

theorem dayNumber_injective (h : IsDate year month day) (h' : IsDate year' month' day')
    (hsame : dayNumber year month day = dayNumber year' month' day') :
    year = year' ∧ month = month' ∧ day = day' := by
  rcases before_trichotomy year month day year' month' day' with hbefore | heq | hafter
  · exact absurd hsame (dayNumber_lt_of_before h h' hbefore).ne
  · exact heq
  · exact absurd hsame (dayNumber_lt_of_before h' h hafter).ne'

end Order

def yearOfEra (day : Int) : Int :=
  (day - day / 1460 + day / 36524 - day / 146096) / 365

/-- The first day of a year of an era. -/
def startOfYear : Int :=
  365 * year + year / 4 - year / 100

theorem yearOfEra_mono {day other : Int} (h : day ≤ other) : yearOfEra day ≤ yearOfEra other := by
  have hcenturies : day / 36524 / 4 = day / 146096 := by
    rw [Int.ediv_ediv_of_nonneg (by decide)]
    rfl
  have hotherCenturies : other / 36524 / 4 = other / 146096 := by
    rw [Int.ediv_ediv_of_nonneg (by decide)]
    rfl
  have hsum : day - day / 1460 + day / 36524 - day / 146096 ≤
      other - other / 1460 + other / 36524 - other / 146096 := by
    omega
  exact Int.ediv_le_ediv (by decide) hsum

theorem yearOfEra_table :
    ∀ year : Fin 400, yearOfEra (startOfYear (year.val : Int)) = year.val ∧
      yearOfEra (startOfYear ((year.val : Int) + 1) - 1) = year.val := by
  decide +kernel

theorem yearOfEra_spec {day : Int} (hlow : 0 ≤ day) (hhigh : day ≤ 146096) :
    0 ≤ yearOfEra day ∧ yearOfEra day ≤ 399 ∧ startOfYear (yearOfEra day) ≤ day ∧
      day ≤ startOfYear (yearOfEra day + 1) - if yearOfEra day = 399 then 0 else 1 := by
  have hfirst : 0 ≤ yearOfEra day := yearOfEra_mono hlow
  have hlast : yearOfEra day ≤ 399 := yearOfEra_mono hhigh
  have htable : ∀ year : Int, 0 ≤ year → year ≤ 399 →
      yearOfEra (startOfYear year) = year ∧ yearOfEra (startOfYear (year + 1) - 1) = year := by
    intro year h0 h1
    have hyear : ((⟨year.toNat, by omega⟩ : Fin 400).val : Int) = year := Int.toNat_of_nonneg h0
    have hrow := yearOfEra_table ⟨year.toNat, by omega⟩
    rwa [hyear] at hrow
  refine ⟨hfirst, hlast, ?_, ?_⟩
  · by_contra hbefore
    push Not at hbefore
    by_cases hzero : yearOfEra day = 0
    · rw [hzero] at hbefore
      exact absurd hlow (not_le.mpr hbefore)
    · have hprevious := (htable (yearOfEra day - 1) (by omega) (by omega)).2
      rw [sub_add_cancel] at hprevious
      have hmono := yearOfEra_mono (Int.le_sub_one_of_lt hbefore)
      omega
  · split
    · next h =>
        rw [h]
        exact hhigh
    · next h =>
        by_contra hafter
        push Not at hafter
        have hnext := (htable (yearOfEra day + 1) (by omega) (by omega)).1
        have hmono := yearOfEra_mono (show startOfYear (yearOfEra day + 1) ≤ day by omega)
        omega

theorem month_of_march {dayOfYear shiftedMonth : Int} (hlow : 0 ≤ dayOfYear)
    (hhigh : dayOfYear ≤ 365) (hmonth : shiftedMonth = (5 * dayOfYear + 2) / 153) :
    0 ≤ shiftedMonth ∧ shiftedMonth ≤ 11 ∧ (153 * shiftedMonth + 2) / 5 ≤ dayOfYear ∧
      (shiftedMonth < 11 → dayOfYear < (153 * (shiftedMonth + 1) + 2) / 5) := by
  omega

theorem isDate_of_march {year shiftedMonth day : Int} (hlow : 0 ≤ shiftedMonth)
    (hhigh : shiftedMonth ≤ 9) (hday : 1 ≤ day)
    (hlast : day ≤ (153 * (shiftedMonth + 1) + 2) / 5 - (153 * shiftedMonth + 2) / 5) :
    IsDate year (shiftedMonth + 3) day := by
  refine ⟨⟨by omega, by omega⟩, hday, hlast.trans ?_⟩
  unfold monthLength
  interval_cases shiftedMonth <;> norm_num

theorem daysBeforeMonth_march {shiftedMonth : Int} (hlow : 0 ≤ shiftedMonth) :
    daysBeforeMonth year (shiftedMonth + 3) =
      (153 * shiftedMonth + 2) / 5 + 59 + leapDay year := by
  have hshift : 153 * (shiftedMonth + 3) - 457 = 153 * shiftedMonth + 2 := by omega
  rw [daysBeforeMonth, if_neg (by omega), hshift]

def marchDate (era year dayOfYear : Int) : Int × Int × Int :=
  let shiftedMonth := (5 * dayOfYear + 2) / 153
  let day := dayOfYear - (153 * shiftedMonth + 2) / 5 + 1
  let month := if shiftedMonth < 10 then shiftedMonth + 3 else shiftedMonth - 9
  (year + era * 400 + if month ≤ 2 then 1 else 0, month, day)

theorem civilOfDays_eq (days : Int) :
    civilOfDays days =
      marchDate ((days + 719468) / 146097) (yearOfEra ((days + 719468) % 146097))
        ((days + 719468) % 146097 - startOfYear (yearOfEra ((days + 719468) % 146097))) :=
  rfl

theorem leapDay_of_long (era : Int) {year : Int}
    (hlong : year = 399 ∨ startOfYear (year + 1) - startOfYear year = 366) :
    leapDay (year + era * 400 + 1) = 1 := by
  unfold startOfYear at hlong
  unfold leapDay isLeapYear
  refine if_pos ?_
  simp only [Bool.or_eq_true, Bool.and_eq_true, decide_eq_true_eq]
  omega

theorem marchDate_spec (era : Int) {year dayOfYear : Int} (hyear : 0 ≤ year)
    (hyearLast : year ≤ 399) (hday : 0 ≤ dayOfYear)
    (hdayLast : dayOfYear ≤ 364 ∨ (dayOfYear = 365 ∧
      (year = 399 ∨ startOfYear (year + 1) - startOfYear year = 366))) :
    IsDate (marchDate era year dayOfYear).1 (marchDate era year dayOfYear).2.1
        (marchDate era year dayOfYear).2.2 ∧
      dayNumber (marchDate era year dayOfYear).1 (marchDate era year dayOfYear).2.1
        (marchDate era year dayOfYear).2.2 =
          146097 * era + startOfYear year + dayOfYear - 719468 := by
  have hlast : dayOfYear ≤ 365 := by omega
  obtain ⟨hmonth, hmonthLast, hbegun, hended⟩ := month_of_march hday hlast rfl
  unfold marchDate
  dsimp only
  generalize (5 * dayOfYear + 2) / 153 = shiftedMonth at hmonth hmonthLast hbegun hended ⊢
  by_cases hautumn : shiftedMonth < 10
  · -- From March to December the civil year is the same.
    rw [if_pos hautumn, if_neg (by omega), add_zero]
    have hbefore := hended (by omega)
    refine ⟨isDate_of_march hmonth (by omega) (by omega) (by omega), ?_⟩
    rw [dayNumber, daysBeforeMonth_march _ hmonth, leapDay_eq, daysBeforeYear, startOfYear]
    omega
  · rw [if_neg hautumn, if_pos (by omega)]
    have hjanuary : shiftedMonth = 10 ∨ shiftedMonth = 11 := by omega
    have hleap := leapDay_bounds (year + era * 400 + 1)
    constructor
    · rcases hjanuary with rfl | rfl
      · have hbefore := hended (by omega)
        refine ⟨⟨by omega, by omega⟩, by omega, ?_⟩
        rw [monthLength, if_neg (by omega), if_neg (by omega)]
        omega
      · refine ⟨⟨by omega, by omega⟩, by omega, ?_⟩
        rw [monthLength, if_pos (by omega)]
        rcases hdayLast with hshort | ⟨rfl, hlong⟩
        · omega
        · rw [leapDay_of_long era hlong]
          omega
    · rw [dayNumber, daysBeforeMonth, if_pos (by omega), daysBeforeYear, startOfYear]
      rcases hjanuary with rfl | rfl <;> omega

theorem civilOfDays_spec (days : Int) :
    IsDate (civilOfDays days).1 (civilOfDays days).2.1 (civilOfDays days).2.2 ∧
      dayNumber (civilOfDays days).1 (civilOfDays days).2.1 (civilOfDays days).2.2 = days := by
  have hera : 0 ≤ (days + 719468) % 146097 := Int.emod_nonneg _ (by decide)
  have heraLast : (days + 719468) % 146097 ≤ 146096 := by omega
  have hdays : 146097 * ((days + 719468) / 146097) + (days + 719468) % 146097 = days + 719468 :=
    Int.mul_ediv_add_emod ..
  obtain ⟨hyear, hyearLast, hstart, hend⟩ := yearOfEra_spec hera heraLast
  rw [civilOfDays_eq]
  generalize (days + 719468) / 146097 = era at hdays ⊢
  generalize (days + 719468) % 146097 =
    dayOfEra at hera heraLast hdays hyear hyearLast hstart hend ⊢
  generalize yearOfEra dayOfEra = year at hyear hyearLast hstart hend ⊢
  have hlength : startOfYear (year + 1) - startOfYear year = 365 ∨
      startOfYear (year + 1) - startOfYear year = 366 := by
    unfold startOfYear
    omega
  have hdayLast : dayOfEra - startOfYear year ≤ 364 ∨ (dayOfEra - startOfYear year = 365 ∧
      (year = 399 ∨ startOfYear (year + 1) - startOfYear year = 366)) := by
    split at hend
    · next hlast =>
        subst hlast
        have hfirst : startOfYear 399 = 145731 := by decide
        omega
    · omega
  obtain ⟨hdate, hnumber⟩ := marchDate_spec era hyear hyearLast (by omega) hdayLast
  refine ⟨hdate, hnumber.trans ?_⟩
  omega

theorem civilOfDays_dayNumber {year month day : Int} (h : IsDate year month day) :
    civilOfDays (dayNumber year month day) = (year, month, day) := by
  obtain ⟨hdate, hnumber⟩ := civilOfDays_spec (dayNumber year month day)
  obtain ⟨hyear, hmonth, hday⟩ := dayNumber_injective hdate h hnumber
  exact Prod.ext hyear (Prod.ext hmonth hday)

theorem civilOfDays_before {days other : Int} (h : days < other) :
    Before (civilOfDays days).1 (civilOfDays days).2.1 (civilOfDays days).2.2
      (civilOfDays other).1 (civilOfDays other).2.1 (civilOfDays other).2.2 := by
  obtain ⟨hdate, hnumber⟩ := civilOfDays_spec days
  obtain ⟨hotherDate, hotherNumber⟩ := civilOfDays_spec other
  rw [← hnumber, ← hotherNumber] at h
  rwa [dayNumber_lt_iff hdate hotherDate] at h

end Aiphabee.Calendar
