import Aiphabee.Calendar.CivilDays
import Aiphabee.Text.DigitOrder

/-!
# The order of ISO texts

The text of an instant has its year, month, day and time of day as digits of fixed
widths.  Two instants have different texts (`isoText_injective`), and the texts of
years from 0 to 9999, which have no sign, are ordered as the instants are
(`isoText_lt_iff`); so are those of the years after 9999, among themselves.
-/

namespace Aiphabee.Calendar

open JsDate (civilOfDays padded yearText toISOString)
open DigitOrder (number digitsOf SameShape digitsOf_padded ofDigitChars_padded)

/-- The texts of the years from 0 to 9999 have no sign. -/
def IsShortYear (year : Int) : Prop :=
  0 ≤ year ∧ year ≤ 9999

def dateChars (year month day : Int) : List Char :=
  (yearText year).toList ++
    ('-' :: (padded 2 month.toNat).toList ++ ('-' :: (padded 2 day.toNat).toList))

/-- The characters of a time of day, given in milliseconds. -/
def clockChars (inDay : Nat) : List Char :=
  'T' :: (padded 2 (inDay / 3600000)).toList ++
    (':' :: (padded 2 (inDay / 60000 % 60)).toList ++
      (':' :: (padded 2 (inDay / 1000 % 60)).toList ++
        ('.' :: (padded 3 (inDay % 1000)).toList ++ ['Z'])))

def yearOf (time : Int) : Int :=
  (civilOfDays (time / 86400000)).1

def monthOf (time : Int) : Int :=
  (civilOfDays (time / 86400000)).2.1

def dayOf (time : Int) : Int :=
  (civilOfDays (time / 86400000)).2.2

def inDayOf (time : Int) : Nat :=
  (time % 86400000).toNat

def isoText (time : Int) : String :=
  String.ofList (dateChars (yearOf time) (monthOf time) (dayOf time) ++ clockChars (inDayOf time))

@[simp] theorem isoText_toList (time : Int) :
    (isoText time).toList =
      dateChars (yearOf time) (monthOf time) (dayOf time) ++ clockChars (inDayOf time) :=
  String.toList_ofList

theorem inDayOf_lt (time : Int) : inDayOf time < 86400000 := by
  unfold inDayOf
  omega

theorem isDate_of_instant (time : Int) :
    IsDate (yearOf time) (monthOf time) (dayOf time) :=
  (civilOfDays_spec _).1

theorem dayNumber_of_instant (time : Int) :
    dayNumber (yearOf time) (monthOf time) (dayOf time) = time / 86400000 :=
  (civilOfDays_spec _).2

theorem instant_eq (time : Int) :
    time = dayNumber (yearOf time) (monthOf time) (dayOf time) * 86400000 + inDayOf time := by
  rw [dayNumber_of_instant, inDayOf]
  omega

theorem natAbs_yearOf_lt {time : Int} (hlow : -8640000000000000 ≤ time)
    (hhigh : time ≤ 8640000000000000) : (yearOf time).natAbs < 10 ^ 6 := by
  have hday := dayNumber_of_instant time
  obtain ⟨hfirst, hlast⟩ := dayOfYear_bounds (isDate_of_instant time)
  have hleap := leapDay_bounds (yearOf time)
  unfold dayNumber daysBeforeYear at hday
  norm_num
  omega

section Numbers

variable {year : Int}

theorem yearText_short (h : IsShortYear year) : yearText year = padded 4 year.toNat :=
  if_pos h

theorem yearText_long (h : ¬IsShortYear year) :
    (yearText year).toList =
      (if year < 0 then '-' else '+') :: (padded 6 year.natAbs).toList := by
  have htext : yearText year = (if year < 0 then "-" else "+") ++ padded 6 year.natAbs :=
    if_neg h
  rw [htext, String.toList_append]
  split <;> rfl

theorem ofDigitChars_yearText (h : year.natAbs < 10 ^ 6) :
    number (digitsOf (yearText year).toList) = year.natAbs := by
  by_cases hshort : IsShortYear year
  · have hyear : year.toNat < 10 ^ 4 := by
      have := hshort.2
      norm_num
      omega
    have habs : year.natAbs = year.toNat := by
      have := hshort.1
      omega
    rw [yearText_short hshort, digitsOf_padded, number,
      ofDigitChars_padded (by decide) hyear, habs, Nat.mul_zero, Nat.zero_add]
  · have hsign : ((if year < 0 then '-' else '+') : Char).isDigit = false := by
      split <;> rfl
    rw [yearText_long hshort, digitsOf, List.filter_cons_of_neg (by simp [hsign]), ← digitsOf,
      digitsOf_padded, number, ofDigitChars_padded (by decide) h,
      Nat.mul_zero, Nat.zero_add]

def dateStamp (year month day : Int) : Nat :=
  100 * (100 * year.natAbs + month.toNat) + day.toNat

/-- The number of the digits of a time of day. -/
def clockStamp (inDay : Nat) : Nat :=
  1000 * (100 * (100 * (inDay / 3600000) + inDay / 60000 % 60) + inDay / 1000 % 60) + inDay % 1000

theorem number_dateChars {year month day : Int} (h : IsDate year month day)
    (hyear : year.natAbs < 10 ^ 6) :
    number (digitsOf (dateChars year month day)) = dateStamp year month day := by
  have hmonth : month.toNat < 10 ^ 2 := by
    have := h.monthInYear.2
    norm_num
    omega
  have hday : day.toNat < 10 ^ 2 := by
    have := h.dayInMonth.2
    have hlength : monthLength year month ≤ 31 := by
      have := leapDay_bounds year
      unfold monthLength
      split
      · omega
      · split <;> omega
    norm_num
    omega
  have hdigits : digitsOf (dateChars year month day) =
      digitsOf (yearText year).toList ++
        ((padded 2 month.toNat).toList ++ (padded 2 day.toNat).toList) := by
    rw [← digitsOf_padded 2 month.toNat, ← digitsOf_padded 2 day.toNat]
    simp [dateChars, digitsOf]
  rw [hdigits, number, Nat.ofDigitChars_append, ← number, ofDigitChars_yearText hyear,
    Nat.ofDigitChars_append, ofDigitChars_padded (by decide) hmonth,
    ofDigitChars_padded (by decide) hday]
  rfl

theorem ofDigitChars_clockChars {inDay : Nat} (h : inDay < 86400000) (start : Nat) :
    Nat.ofDigitChars 10 (digitsOf (clockChars inDay)) start =
      1000000000 * start + clockStamp inDay := by
  have hdigits : digitsOf (clockChars inDay) =
      (padded 2 (inDay / 3600000)).toList ++ ((padded 2 (inDay / 60000 % 60)).toList ++
        ((padded 2 (inDay / 1000 % 60)).toList ++ (padded 3 (inDay % 1000)).toList)) := by
    rw [← digitsOf_padded 2 (inDay / 3600000),
      ← digitsOf_padded 2 (inDay / 60000 % 60),
      ← digitsOf_padded 2 (inDay / 1000 % 60),
      ← digitsOf_padded 3 (inDay % 1000)]
    simp [clockChars, digitsOf]
  rw [hdigits, Nat.ofDigitChars_append, ofDigitChars_padded (by decide) (by omega),
    Nat.ofDigitChars_append, ofDigitChars_padded (by decide) (by omega),
    Nat.ofDigitChars_append, ofDigitChars_padded (by decide) (by omega),
    ofDigitChars_padded (by decide) (by omega), clockStamp]
  omega

/-- The number of the digits of an instant. -/
def stamp (time : Int) : Nat :=
  1000000000 * dateStamp (yearOf time) (monthOf time) (dayOf time) + clockStamp (inDayOf time)

theorem number_isoText {time : Int} (hyear : (yearOf time).natAbs < 10 ^ 6) :
    number (digitsOf (isoText time).toList) = stamp time := by
  have hdate := number_dateChars (isDate_of_instant time) hyear
  rw [isoText_toList, digitsOf, List.filter_append, ← digitsOf, ← digitsOf, number,
    Nat.ofDigitChars_append, ← number, hdate, ofDigitChars_clockChars (inDayOf_lt time)]
  rfl

theorem clockStamp_lt {inDay other : Nat} (hlt : inDay < other) :
    clockStamp inDay < clockStamp other := by
  have hhours : ∀ n, n / 60000 / 60 = n / 3600000 := fun n => Nat.div_div_eq_div_mul n 60000 60
  have hminutes : ∀ n, n / 1000 / 60 = n / 60000 := fun n => Nat.div_div_eq_div_mul n 1000 60
  have hhoursOf := hhours inDay
  have hhoursOther := hhours other
  have hminutesOf := hminutes inDay
  have hminutesOther := hminutes other
  unfold clockStamp
  omega

theorem clockStamp_lt_day {inDay : Nat} (h : inDay < 86400000) : clockStamp inDay < 1000000000 := by
  unfold clockStamp
  omega

theorem monthLength_le (year month : Int) :
    monthLength year month ≤ 31 := by
  have hleap := leapDay_bounds year
  unfold monthLength
  split
  · omega
  · split <;> omega

theorem dateStamp_lt {year month day year' month' day' : Int} (h : IsDate year month day)
    (h' : IsDate year' month' day') (hyear : 0 ≤ year)
    (hbefore : Before year month day year' month' day') :
    dateStamp year month day < dateStamp year' month' day' := by
  obtain ⟨⟨hmonth, hmonthLast⟩, hday, hdayLast⟩ := h
  obtain ⟨⟨hmonth', hmonthLast'⟩, hday', hdayLast'⟩ := h'
  have hlength := monthLength_le year month
  unfold dateStamp
  rcases hbefore with hlt | ⟨rfl, hlt | ⟨rfl, hlt⟩⟩
  · omega
  · omega
  · omega

theorem stamp_lt {time other : Int} (hyear : 0 ≤ yearOf time) (hlt : time < other) :
    stamp time < stamp other := by
  have hclock := clockStamp_lt_day (inDayOf_lt time)
  rcases lt_or_ge (time / 86400000) (other / 86400000) with hday | hday
  · have hdate := dateStamp_lt (isDate_of_instant time) (isDate_of_instant other) hyear
      (civilOfDays_before hday)
    unfold stamp
    omega
  · have hsame : time / 86400000 = other / 86400000 :=
      le_antisymm (Int.ediv_le_ediv (by decide) hlt.le) hday
    have htime : inDayOf time < inDayOf other := by
      unfold inDayOf
      omega
    have hstamp := clockStamp_lt htime
    unfold stamp yearOf monthOf dayOf
    rw [hsame]
    omega

end Numbers

section Order

theorem SameShape.yearText {year other : Int} (hyear : year.natAbs < 10 ^ 6)
    (hother : other.natAbs < 10 ^ 6) (hkind : IsShortYear year ↔ IsShortYear other)
    (hsign : year < 0 ↔ other < 0) : SameShape (yearText year).toList (yearText other).toList := by
  by_cases hshort : IsShortYear year
  · have hshort' := hkind.mp hshort
    rw [yearText_short hshort, yearText_short hshort']
    have hlast := hshort.2
    have hlast' := hshort'.2
    exact .padded (by decide) (by norm_num; omega) (by norm_num; omega)
  · rw [yearText_long hshort, yearText_long fun h => hshort (hkind.mpr h)]
    simp only [hsign]
    exact .cons _ (.padded (by decide) hyear hother)

variable {time other : Int}

theorem SameShape.isoText (hyear : (yearOf time).natAbs < 10 ^ 6)
    (hother : (yearOf other).natAbs < 10 ^ 6)
    (hkind : IsShortYear (yearOf time) ↔ IsShortYear (yearOf other))
    (hsign : yearOf time < 0 ↔ yearOf other < 0) :
    SameShape (isoText time).toList (isoText other).toList := by
  have hpadded : ∀ {n m : Nat}, n < 100 → m < 100 →
      SameShape (padded 2 n).toList (padded 2 m).toList :=
    fun hn hm => .padded (by decide) hn hm
  have hdate : ∀ t, (monthOf t).toNat < 100 ∧ (dayOf t).toNat < 100 := by
    intro t
    obtain ⟨⟨hmonth, hmonthLast⟩, hday, hdayLast⟩ := isDate_of_instant t
    have hlength := monthLength_le (yearOf t) (monthOf t)
    omega
  have htime := inDayOf_lt time
  have htime' := inDayOf_lt other
  rw [isoText_toList, isoText_toList]
  refine .append (.append (SameShape.yearText hyear hother hkind hsign)
    (.append (.cons _ (hpadded (hdate time).1 (hdate other).1))
      (.cons _ (hpadded (hdate time).2 (hdate other).2)))) ?_
  refine .append (.cons _ (hpadded (by omega) (by omega))) ?_
  refine .append (.cons _ (hpadded (by omega) (by omega))) ?_
  refine .append (.cons _ (hpadded (by omega) (by omega))) ?_
  exact .append (.cons _ (.padded (by decide) (by omega) (by omega))) (.refl _)

theorem isoText_lt_iff (hyear : (yearOf time).natAbs < 10 ^ 6)
    (hother : (yearOf other).natAbs < 10 ^ 6) (hnonneg : 0 ≤ yearOf time)
    (hnonneg' : 0 ≤ yearOf other) (hkind : IsShortYear (yearOf time) ↔ IsShortYear (yearOf other)) :
    (isoText time).toList < (isoText other).toList ↔ time < other := by
  have hshape := SameShape.isoText hyear hother hkind (by omega)
  rw [DigitOrder.lt_iff_of_sameShape hshape, number_isoText hyear, number_isoText hother]
  constructor
  · intro hstamp
    rcases lt_trichotomy time other with hlt | rfl | hgt
    · exact hlt
    · exact absurd hstamp (lt_irrefl _)
    · exact absurd (stamp_lt hnonneg' hgt) (lt_asymm hstamp)
  · exact stamp_lt hnonneg

/-- The first character of a text tells whether its year has a sign, and which. -/
theorem head_isoText (time : Int) :
    IsShortYear (yearOf time) ∧ (isoText time).toList.head?.any Char.isDigit = true ∨
      ¬IsShortYear (yearOf time) ∧
        (isoText time).toList.head? = some (if yearOf time < 0 then '-' else '+') := by
  by_cases hshort : IsShortYear (yearOf time)
  · refine .inl ⟨hshort, ?_⟩
    have hyear : (yearOf time).toNat < 10 ^ 4 := by
      have hlast := hshort.2
      norm_num
      omega
    have hlength := DigitOrder.length_padded (by decide) hyear
    have hdigits := DigitOrder.isDigit_padded 4 (yearOf time).toNat
    rw [isoText_toList, dateChars, yearText_short hshort]
    cases hchars : (padded 4 (yearOf time).toNat).toList with
    | nil => simp [hchars] at hlength
    | cons c rest =>
      rw [hchars] at hdigits
      simpa using hdigits c List.mem_cons_self
  · refine .inr ⟨hshort, ?_⟩
    rw [isoText_toList, dateChars, yearText_long hshort]
    rfl

theorem yearKind_of_isoText (h : isoText time = isoText other) :
    (IsShortYear (yearOf time) ↔ IsShortYear (yearOf other)) ∧
      (yearOf time < 0 ↔ yearOf other < 0) := by
  have hsigned : ∀ year : Int, ((if year < 0 then '-' else '+') : Char).isDigit = false := by
    intro year
    split <;> rfl
  have hhead : (isoText time).toList.head? = (isoText other).toList.head? := by rw [h]
  rcases head_isoText time with ⟨hshort, hdigit⟩ | ⟨hlong, hsign⟩
  · rcases head_isoText other with ⟨hshort', -⟩ | ⟨-, hsign'⟩
    · have hpos := hshort.1
      have hpos' := hshort'.1
      exact ⟨iff_of_true hshort hshort', by omega⟩
    · rw [hhead, hsign', Option.any_some, hsigned] at hdigit
      exact absurd hdigit Bool.false_ne_true
  · rcases head_isoText other with ⟨-, hdigit'⟩ | ⟨hlong', hsign'⟩
    · rw [← hhead, hsign, Option.any_some, hsigned] at hdigit'
      exact absurd hdigit' Bool.false_ne_true
    · rw [hsign, hsign', Option.some.injEq] at hhead
      refine ⟨iff_of_false hlong hlong', ?_⟩
      split at hhead <;> split at hhead
      · next h1 h2 => exact iff_of_true h1 h2
      · exact absurd hhead (by decide)
      · exact absurd hhead (by decide)
      · next h1 h2 => exact iff_of_false h1 h2

theorem eq_of_clockStamp {inDay other : Nat} (h : clockStamp inDay = clockStamp other) :
    inDay = other := by
  rcases lt_trichotomy inDay other with hlt | heq | hgt
  · exact absurd h (clockStamp_lt hlt).ne
  · exact heq
  · exact absurd h (clockStamp_lt hgt).ne'

theorem isoText_injective (hyear : (yearOf time).natAbs < 10 ^ 6)
    (hother : (yearOf other).natAbs < 10 ^ 6) (h : isoText time = isoText other) :
    time = other := by
  have hsign := (yearKind_of_isoText h).2
  have hstamp : stamp time = stamp other := by
    rw [← number_isoText hyear, ← number_isoText hother, h]
  have hclock := clockStamp_lt_day (inDayOf_lt time)
  have hclock' := clockStamp_lt_day (inDayOf_lt other)
  unfold stamp at hstamp
  have hinDay : inDayOf time = inDayOf other := eq_of_clockStamp (by omega)
  have hdate : dateStamp (yearOf time) (monthOf time) (dayOf time) =
      dateStamp (yearOf other) (monthOf other) (dayOf other) := by omega
  obtain ⟨⟨hmonth, hmonthLast⟩, hday, hdayLast⟩ := isDate_of_instant time
  obtain ⟨⟨hmonth', hmonthLast'⟩, hday', hdayLast'⟩ := isDate_of_instant other
  have hlength := monthLength_le (yearOf time) (monthOf time)
  have hlength' := monthLength_le (yearOf other) (monthOf other)
  unfold dateStamp at hdate
  have hsameMonth : monthOf time = monthOf other := by omega
  have hsameDay : dayOf time = dayOf other := by omega
  have hsameYear : yearOf time = yearOf other := by omega
  rw [instant_eq time, instant_eq other, hsameYear, hsameMonth, hsameDay, hinDay]

end Order

end Aiphabee.Calendar
