import Datebook.Time.Duration

/-!
Calendar intervals of a database: months, days and microseconds. A month counts as thirty days.
Lead times are written as microseconds only; any interval is read, as long as it is not negative
and every sum on the way fits 64 bits.
-/

set_option autoImplicit false

namespace Datebook.Sql

structure Interval where
  months : Int32
  days : Int32
  micros : Int64
  deriving DecidableEq, Repr

def microsPerDay : Int := 86400000000

/-- A number that fits 64 bits. -/
def checked (n : Int) : Option Int :=
  if -0x8000_0000_0000_0000 ≤ n ∧ n < 0x8000_0000_0000_0000 then some n else none

namespace Interval

/-- The interval of whole microseconds, unless they do not fit 64 bits or are not whole. -/
def ofDuration? (d : Duration) : Option Interval :=
  if d.nanos % 1000 = 0 ∧ d.micros < 0x8000_0000_0000_0000 then
    some { months := 0, days := 0, micros := Int64.ofNat d.micros }
  else none

/-- The length of an interval in microseconds. -/
def total (interval : Interval) : Int :=
  interval.months.toInt * (30 * microsPerDay) + interval.days.toInt * microsPerDay
    + interval.micros.toInt

/-- The duration of an interval, unless it is negative or one of the sums does not fit. -/
def toDuration? (interval : Interval) : Option Duration := do
  let months ← checked (interval.months.toInt * (30 * microsPerDay))
  let days ← checked (interval.days.toInt * microsPerDay)
  let whole ← checked (months + days)
  let total ← checked (whole + interval.micros.toInt)
  if 0 ≤ total then Duration.ofNanos? (total.toNat * 1000) else none

end Interval

end Datebook.Sql
