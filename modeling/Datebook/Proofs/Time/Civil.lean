import Datebook.Time.Instant

/-!
The dates of instants.

Every day number is that of a date that exists, and the dates of instants lie in the years from
-262143 to 262142.
-/

set_option autoImplicit false

namespace Datebook

namespace CivilDate

/-- Only February, the last month of a year begun in March, depends on the year. -/
theorem monthStart_succ_le (year : Int) {month : Nat} (early : month < 11) :
    monthStart (month + 1) ≤
      monthStart month + daysInMonth year (if month < 10 then month + 3 else month - 9) := by
  simp only [monthStart, daysInMonth]
  split
  · rw [if_neg (by omega)]
    split <;> omega
  · rw [if_neg (by omega)]
    split <;> omega

/-- The days of a year begun in March fall into months that are long enough. -/
theorem ofMarch_valid {year : Int} {day : Nat}
    (inYear : day < if isLeapYear (year + 1) then 366 else 365) : (ofMarch year day).Valid := by
  have months : monthAt day ≤ 11 := by
    simp only [monthAt]
    split at inYear <;> omega
  have begun : monthStart (monthAt day) ≤ day := by
    simp only [monthStart, monthAt]
    omega
  have notOver : day < monthStart (monthAt day + 1) := by
    simp only [monthStart, monthAt]
    omega
  simp only [Valid, ofMarch]
  generalize monthAt day = month at months begun notOver
  by_cases february : month = 11
  · subst february
    have start : monthStart 11 = 337 := rfl
    rw [start] at begun ⊢
    refine ⟨by decide, by decide, by omega, ?_⟩
    show day - 337 + 1 ≤ if isLeapYear (year + 1) then 29 else 28
    split at inYear
    · rename_i leap
      rw [if_pos leap]
      omega
    · rename_i plain
      rw [if_neg plain]
      omega
  · have early : month < 11 := by omega
    have length := monthStart_succ_le
      (if (if month < 10 then month + 3 else month - 9) ≤ 2 then year + 1 else year) early
    refine ⟨?_, ?_, by omega, by omega⟩
    · split <;> omega
    · split <;> omega

theorem ofDayNumber_valid (number : Int) : (ofDayNumber number).Valid := by
  have found := yearStart_yearAt (number + epoch)
  rw [yearStart_succ] at found
  apply ofMarch_valid
  split at found
  · rename_i leap
    rw [if_pos leap]
    omega
  · rename_i plain
    rw [if_neg plain]
    omega

/-- January and February belong to the year that began in the March before. -/
theorem monthStart_bounds {date : CivilDate} (valid : date.Valid) :
    (date.month ≤ 2 → 306 ≤ date.dayOfYear ∧ date.dayOfYear ≤ 365) ∧
      (2 < date.month → date.dayOfYear ≤ 305) := by
  have inYear := dayOfYear_lt valid
  obtain ⟨lower, upper, first, _⟩ := valid
  constructor
  · intro early
    constructor
    · simp only [dayOfYear, monthStart]
      omega
    · have := inYear.2
      split at this <;> omega
  · intro late
    have := inYear.1
    simp only [monthStart] at this
    omega

/-- The days between two dates are those of no year outside. -/
theorem year_mem_of_dayNumber {date : CivilDate} (valid : date.Valid) {low high : Int}
    (lower : yearStart (low - 1) + 306 - epoch ≤ date.dayNumber)
    (upper : date.dayNumber ≤ yearStart high + 305 - epoch) :
    low ≤ date.year ∧ date.year ≤ high := by
  obtain ⟨winter, summer⟩ := monthStart_bounds valid
  simp only [dayNumber, marchYear] at lower upper
  constructor
  · apply Int.not_lt.mp
    intro below
    split at lower
    · rename_i early
      have := winter early
      have := yearStart_mono (show date.year - 1 ≤ low - 2 by omega)
      have := yearStart_succ (low - 2)
      rw [show low - 2 + 1 = low - 1 by omega] at this
      split at this <;> omega
    · rename_i late
      have := summer (by omega)
      have := yearStart_mono (show date.year ≤ low - 1 by omega)
      omega
  · apply Int.not_lt.mp
    intro above
    split at upper
    · rename_i early
      have := winter early
      have := yearStart_mono (show high ≤ date.year - 1 by omega)
      omega
    · rename_i late
      have := yearStart_mono (show high + 1 ≤ date.year by omega)
      have := yearStart_succ high
      split at this <;> omega

end CivilDate

namespace Instant

theorem date_valid (t : Instant) : t.date.Valid :=
  CivilDate.ofDayNumber_valid _

theorem date_year_mem (t : Instant) : -262143 ≤ t.date.year ∧ t.date.year ≤ 262142 := by
  have lower := t.firstSecond_le
  have upper := t.le_lastSecond
  have number : t.date.dayNumber = t.second / 86400 := CivilDate.dayNumber_ofDayNumber _
  simp only [firstSecond, lastSecond] at lower upper
  apply CivilDate.year_mem_of_dayNumber t.date_valid
  · rw [number]
    simp only [CivilDate.yearStart, CivilDate.epoch]
    omega
  · rw [number]
    simp only [CivilDate.yearStart, CivilDate.epoch]
    omega

theorem secondOfDay_lt (t : Instant) : t.secondOfDay < 86400 := by
  simp only [secondOfDay]
  omega

/-- An instant is the one at its date, its second of the day and its nanoseconds. -/
theorem ofCivil?_date (t : Instant) : ofCivil? t.date t.secondOfDay t.nano = some t := by
  have number : t.date.dayNumber = t.second / 86400 := CivilDate.dayNumber_ofDayNumber _
  have second : t.date.dayNumber * 86400 + (t.secondOfDay : Int) = t.second := by
    rw [number, secondOfDay]
    omega
  simp only [ofCivil?, second, t.firstSecond_le, t.le_lastSecond, t.nano_lt, true_and]
  rfl

end Instant

end Datebook
