import Datebook.Sql.Interval

/-!
Intervals and durations.

An interval is read as the duration of exactly its length, or not at all: every sum on the way is
exact, and one that leaves the 64 bits gives none. So an interval whose length is negative or too
long has no duration: `toDuration?_eq_some_iff`, `toDuration?_eq_none`. A duration in whole
microseconds that fit 64 bits is written as an interval that is read as the same duration:
`ofDuration?_of_fits`.
-/

set_option autoImplicit false

namespace Datebook.Sql

/-- A number that 64 bits hold. -/
def Fits (n : Int) : Prop :=
  -0x8000_0000_0000_0000 ≤ n ∧ n < 0x8000_0000_0000_0000

theorem checked_of_fits {n : Int} (fits : Fits n) : checked n = some n :=
  if_pos fits

theorem checked_eq_some_iff (n m : Int) : checked n = some m ↔ Fits n ∧ n = m := by
  constructor
  · intro found
    rw [checked] at found
    split at found
    · exact ⟨‹_›, Option.some.inj found⟩
    · cases found
  · rintro ⟨fits, rfl⟩
    exact checked_of_fits fits

namespace Interval

/-- The months and the days fit 64 bits in microseconds, and so do their sum and the whole. -/
structure Summable (interval : Interval) : Prop where
  months : Fits (interval.months.toInt * (30 * microsPerDay))
  days : Fits (interval.days.toInt * microsPerDay)
  both : Fits
    (interval.months.toInt * (30 * microsPerDay) + interval.days.toInt * microsPerDay)
  total : Fits interval.total

theorem toDuration?_eq_some_iff (interval : Interval) (d : Duration) :
    interval.toDuration? = some d ↔
      interval.Summable ∧ (d.nanos : Int) = interval.total * 1000 := by
  simp only [toDuration?, Option.bind_eq_bind, Option.bind_eq_some_iff, checked_eq_some_iff]
  constructor
  · rintro ⟨_, ⟨months, rfl⟩, _, ⟨days, rfl⟩, _, ⟨both, rfl⟩, _, ⟨total, rfl⟩, found⟩
    refine ⟨⟨months, days, both, total⟩, ?_⟩
    split at found
    · rw [Duration.ofNanos?] at found
      split at found
      · cases found
        dsimp only [Interval.total]
        omega
      · cases found
    · cases found
  · rintro ⟨summable, length⟩
    refine ⟨_, ⟨summable.months, rfl⟩, _, ⟨summable.days, rfl⟩, _, ⟨summable.both, rfl⟩,
      _, ⟨summable.total, rfl⟩, ?_⟩
    have whole : interval.total.toNat * 1000 = d.nanos := by omega
    have positive : 0 ≤ interval.total := by omega
    show (if 0 ≤ interval.total then Duration.ofNanos? (interval.total.toNat * 1000) else none) = _
    rw [if_pos positive, whole, Duration.ofNanos?, dif_pos d.secs_lt]

section

variable {interval : Interval} (months : interval.months.toInt = 0)
  (days : interval.days.toInt = 0)

include months days

theorem total_of_micros : interval.total = interval.micros.toInt := by
  rw [total, months, days, Int.zero_mul, Int.zero_mul, Int.zero_add, Int.zero_add]

theorem summable_of_micros : interval.Summable := by
  have zero : Fits 0 := ⟨by omega, by omega⟩
  constructor
  · rwa [months, Int.zero_mul]
  · rwa [days, Int.zero_mul]
  · rwa [months, days, Int.zero_mul, Int.zero_mul, Int.add_zero]
  · rw [total_of_micros months days]
    exact ⟨interval.micros.le_toInt, interval.micros.toInt_lt⟩

end

/-- An interval of microseconds only is read back as the duration that it was written for. -/
theorem ofDuration?_of_fits {d : Duration} (whole : d.nanos % 1000 = 0)
    (fits : d.micros < 0x8000_0000_0000_0000) :
    ∃ interval, ofDuration? d = some interval ∧ interval.total = d.micros ∧
      interval.toDuration? = some d := by
  have micros : (Int64.ofNat d.micros).toInt = d.micros := Int64.toInt_ofNat_of_lt fits
  have none : (0 : Int32).toInt = 0 := rfl
  have length : Interval.total ⟨0, 0, Int64.ofNat d.micros⟩ = d.micros :=
    (total_of_micros none none).trans micros
  refine ⟨⟨0, 0, Int64.ofNat d.micros⟩, if_pos ⟨whole, fits⟩, length, ?_⟩
  rw [toDuration?_eq_some_iff]
  refine ⟨summable_of_micros none none, ?_⟩
  rw [length, Duration.micros]
  omega

theorem ofDuration?_eq_none {d : Duration} (long : 0x8000_0000_0000_0000 ≤ d.micros) :
    ofDuration? d = none := by
  rw [ofDuration?, if_neg]
  omega

end Interval

end Datebook.Sql
