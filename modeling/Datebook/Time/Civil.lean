/-!
Civil dates.

A date of the proleptic Gregorian calendar and its day number, counted from 1970-01-01. Inside the
conversions years begin in March, so that the leap day is the last day of its year. Main statements:
`CivilDate.ofDayNumber_dayNumber` and `CivilDate.dayNumber_ofDayNumber`.
-/

set_option autoImplicit false

namespace Datebook

structure CivilDate where
  year : Int
  month : Nat
  day : Nat
  deriving DecidableEq, Repr

namespace CivilDate

def isLeapYear (year : Int) : Bool :=
  year % 4 = 0 && (year % 100 ≠ 0 || year % 400 = 0)

def daysInMonth (year : Int) (month : Nat) : Nat :=
  if month = 2 then (if isLeapYear year then 29 else 28)
  else if month = 4 ∨ month = 6 ∨ month = 9 ∨ month = 11 then 30
  else 31

/-- Whether the month and the day exist in the year. -/
def Valid (date : CivilDate) : Prop :=
  1 ≤ date.month ∧ date.month ≤ 12 ∧ 1 ≤ date.day ∧ date.day ≤ daysInMonth date.year date.month

instance (date : CivilDate) : Decidable date.Valid :=
  inferInstanceAs (Decidable (_ ∧ _))

/-- The days from 0000-03-01 to the first day of March of a year. -/
def yearStart (year : Int) : Int :=
  365 * year + year / 4 - year / 100 + year / 400

/-- The days from the first day of March to the first day of a month, March being month 0. -/
def monthStart (month : Nat) : Nat :=
  (153 * month + 2) / 5

/-- The year, begun in March, that a day lies in, counted from 0000-03-01. -/
def yearAt (day : Int) : Int :=
  let dayOfEra := day % 146097
  let century := min 3 (dayOfEra / 36524)
  let dayOfCentury := dayOfEra - century * 36524
  let dayOfQuad := dayOfCentury % 1461
  day / 146097 * 400 + century * 100 + dayOfCentury / 1461 * 4 + min 3 (dayOfQuad / 365)

/-- The month that a day of a year lies in, both counted from March. -/
def monthAt (dayOfYear : Nat) : Nat :=
  (5 * dayOfYear + 2) / 153

/-- The days from 0000-03-01 to 1970-01-01. -/
def epoch : Int := 719468

/-- The year that a date lies in, begun in March. -/
def marchYear (date : CivilDate) : Int :=
  if date.month ≤ 2 then date.year - 1 else date.year

/-- The days of that year before a date. -/
def dayOfYear (date : CivilDate) : Nat :=
  monthStart ((date.month + 9) % 12) + date.day - 1

/-- The number of days from 1970-01-01 to a date. -/
def dayNumber (date : CivilDate) : Int :=
  yearStart date.marchYear + date.dayOfYear - epoch

/-- The date at a day of a year that begins in March. -/
def ofMarch (year : Int) (dayOfYear : Nat) : CivilDate :=
  let marchMonth := monthAt dayOfYear
  let month := if marchMonth < 10 then marchMonth + 3 else marchMonth - 9
  { year := if month ≤ 2 then year + 1 else year
    month
    day := dayOfYear - monthStart marchMonth + 1 }

/-- The date that is a number of days after 1970-01-01. -/
def ofDayNumber (number : Int) : CivilDate :=
  let day := number + epoch
  let year := yearAt day
  ofMarch year (day - yearStart year).toNat

theorem yearStart_succ (year : Int) :
    yearStart (year + 1) = yearStart year + (if isLeapYear (year + 1) then 366 else 365) := by
  simp only [yearStart, isLeapYear, Bool.and_eq_true, Bool.or_eq_true, decide_eq_true_eq]
  split <;> omega

/-- The first day of a year given by its place in the cycle of 400 years. -/
theorem yearStart_cycle {era century quad year : Int} (centuries : 0 ≤ century ∧ century ≤ 3)
    (quads : 0 ≤ quad ∧ quad ≤ 24) (years : 0 ≤ year ∧ year ≤ 3) :
    yearStart (era * 400 + century * 100 + quad * 4 + year) =
      146097 * era + 36524 * century + 1461 * quad + 365 * year := by
  simp only [yearStart]
  omega

/-- The last day of a year given by its place in the cycle of 400 years. -/
theorem yearStart_cycle_succ {era century quad year : Int} (centuries : 0 ≤ century ∧ century ≤ 3)
    (quads : 0 ≤ quad ∧ quad ≤ 24) (years : 0 ≤ year ∧ year ≤ 3) :
    yearStart (era * 400 + century * 100 + quad * 4 + year + 1) =
      146097 * era + 36524 * century + 1461 * quad + 365 * year + 365
        + (if year = 3 ∧ (quad = 24 → century = 3) then 1 else 0) := by
  simp only [yearStart]
  split <;> omega

theorem yearStart_yearAt (day : Int) :
    yearStart (yearAt day) ≤ day ∧ day < yearStart (yearAt day + 1) := by
  have split := Int.emod_add_mul_ediv day 146097
  have lower := Int.emod_nonneg day (show (146097 : Int) ≠ 0 by decide)
  have upper := Int.emod_lt_of_pos day (show (0 : Int) < 146097 by decide)
  simp only [yearAt]
  generalize day / 146097 = era at *
  generalize day % 146097 = dayOfEra at *
  generalize atCentury : min 3 (dayOfEra / 36524) = century
  have centuries : 0 ≤ century ∧ century ≤ 3 := by omega
  generalize atRest : dayOfEra - century * 36524 = dayOfCentury
  have rest : 0 ≤ dayOfCentury ∧ dayOfCentury ≤ 36524 ∧ (century < 3 → dayOfCentury < 36524) := by
    omega
  have quads : 0 ≤ dayOfCentury / 1461 ∧ dayOfCentury / 1461 ≤ 24 := by omega
  generalize atYear : min 3 (dayOfCentury % 1461 / 365) = year
  have years : 0 ≤ year ∧ year ≤ 3 := by omega
  rw [yearStart_cycle centuries quads years, yearStart_cycle_succ centuries quads years]
  constructor
  · omega
  · split <;> omega

theorem yearStart_mono {first second : Int} (ordered : first ≤ second) :
    yearStart first ≤ yearStart second := by
  simp only [yearStart]
  omega

/-- A day lies in one year only. -/
theorem yearAt_eq {day year : Int} (begun : yearStart year ≤ day)
    (notOver : day < yearStart (year + 1)) : yearAt day = year := by
  have found := yearStart_yearAt day
  rcases Int.lt_trichotomy (yearAt day) year with less | same | more
  · have := yearStart_mono (show yearAt day + 1 ≤ year by omega)
    omega
  · exact same
  · have := yearStart_mono (show year + 1 ≤ yearAt day by omega)
    omega

theorem monthStart_monthAt {day : Nat} (inYear : day ≤ 365) :
    monthStart (monthAt day) ≤ day ∧ monthAt day ≤ 11 := by
  simp only [monthStart, monthAt]
  omega

theorem monthAt_monthStart {month day : Nat}
    (within : monthStart month + day < monthStart (month + 1)) :
    monthAt (monthStart month + day) = month := by
  simp only [monthStart, monthAt] at *
  omega

theorem dayNumber_ofMarch (year : Int) {day : Nat} (inYear : day ≤ 365) :
    (ofMarch year day).dayNumber = yearStart year + day - epoch := by
  obtain ⟨start, months⟩ := monthStart_monthAt inYear
  by_cases early : monthAt day < 10
  · have same : (monthAt day + 3 + 9) % 12 = monthAt day := by omega
    have late : ¬ monthAt day + 3 ≤ 2 := by omega
    simp only [dayNumber, marchYear, dayOfYear, ofMarch, if_pos early, if_neg late, same]
    omega
  · have same : (monthAt day - 9 + 9) % 12 = monthAt day := by omega
    have spring : monthAt day - 9 ≤ 2 := by omega
    simp only [dayNumber, marchYear, dayOfYear, ofMarch, if_neg early, if_pos spring, same,
      Int.add_sub_cancel]
    omega

/-- The days of the year before a day of it. -/
theorem dayOfYear_le (day : Int) : (day - yearStart (yearAt day)).toNat ≤ 365 := by
  have found := yearStart_yearAt day
  rw [yearStart_succ] at found
  split at found <;> omega

theorem dayNumber_ofDayNumber (number : Int) : (ofDayNumber number).dayNumber = number := by
  have found := yearStart_yearAt (number + epoch)
  rw [ofDayNumber, dayNumber_ofMarch _ (dayOfYear_le _)]
  omega

/-- A date lies in its month, and in its year begun in March. -/
theorem dayOfYear_lt {date : CivilDate} (valid : date.Valid) :
    date.dayOfYear < monthStart ((date.month + 9) % 12 + 1) ∧
      date.dayOfYear < (if isLeapYear (date.marchYear + 1) then 366 else 365) := by
  obtain ⟨year, month, day⟩ := date
  obtain ⟨lower, upper, first, last⟩ := valid
  simp only at lower upper first last
  have months : month = 1 ∨ month = 2 ∨ month = 3 ∨ month = 4 ∨ month = 5 ∨ month = 6 ∨ month = 7 ∨
      month = 8 ∨ month = 9 ∨ month = 10 ∨ month = 11 ∨ month = 12 := by omega
  rcases months with rfl | rfl | rfl | rfl | rfl | rfl | rfl | rfl | rfl | rfl | rfl | rfl <;>
    simp [dayOfYear, marchYear, monthStart, daysInMonth] at * <;> grind

theorem ofDayNumber_dayNumber {date : CivilDate} (valid : date.Valid) :
    ofDayNumber date.dayNumber = date := by
  obtain ⟨inMonth, inYear⟩ := dayOfYear_lt valid
  obtain ⟨lower, upper, first, last⟩ := valid
  have day : date.dayNumber + epoch = yearStart date.marchYear + date.dayOfYear := by
    simp only [dayNumber]
    omega
  have year : yearAt (date.dayNumber + epoch) = date.marchYear := by
    apply yearAt_eq
    · omega
    · rw [yearStart_succ]
      split <;> simp_all only [if_true, if_false, Bool.false_eq_true] <;> omega
  have parts : date.dayOfYear = monthStart ((date.month + 9) % 12) + (date.day - 1) := by
    simp only [dayOfYear]
    omega
  have month : monthAt date.dayOfYear = (date.month + 9) % 12 := by
    rw [parts]
    exact monthAt_monthStart (by omega)
  have rest : (date.dayNumber + epoch - yearStart date.marchYear).toNat = date.dayOfYear := by omega
  have before : date.dayOfYear - monthStart ((date.month + 9) % 12) + 1 = date.day := by omega
  simp only [ofDayNumber, year, rest, ofMarch, month, before]
  obtain ⟨givenYear, givenMonth, givenDay⟩ := date
  simp only at lower upper
  by_cases early : givenMonth ≤ 2
  · have late : ¬ (givenMonth + 9) % 12 < 10 := by omega
    have same : (givenMonth + 9) % 12 - 9 = givenMonth := by omega
    simp [marchYear, if_neg late, same, if_pos early]
  · have spring : (givenMonth + 9) % 12 < 10 := by omega
    have same : (givenMonth + 9) % 12 + 3 = givenMonth := by omega
    simp [marchYear, if_pos spring, same, if_neg early]

end CivilDate

end Datebook
