import Datebook.Time.Duration

/-!
Timers.

Time is counted from an origin. Moments count from an hour before it, in seconds that fit 63 bits,
and timers end on whole milliseconds: a deadline between two of them is met at the later one. A call
that is bounded by a timeout is given up at its `Duration.deadline`. A `Ticker` keeps one deadline.
When it is met within five milliseconds the next one is a period after it, and when it is met later,
a period after that moment.
-/

set_option autoImplicit false

namespace Datebook

/-- The nanoseconds from the origin to the last moment there is. -/
def timerRange : Nat := (0x8000_0000_0000_0000 - 3600) * 1000000000

/-- The last millisecond of a timer: two more numbers of 64 bits have other uses. -/
def lastTick : Nat := 0x1_0000_0000_0000_0000 - 3

namespace Duration

/-- The millisecond at which a call is given up that began at this one and may take so long. If
there is no such moment, it is the one thirty years later. -/
def deadline (begun : Nat) (d : Duration) : Nat :=
  min lastTick
    (begun + if 1000000 * begun + d.nanos < timerRange then d.millisUp else longestPause)

/-- The milliseconds that a call may take that began at this one. -/
def patience (begun : Nat) (d : Duration) : Nat :=
  d.deadline begun - begun

end Duration

structure Ticker where
  /-- Nanoseconds from one deadline to the next. -/
  period : Nat
  /-- Nanoseconds from the origin to the next deadline. -/
  deadline : Nat
  deriving DecidableEq, Repr

namespace Ticker

/-- How late a deadline may be met without moving the later ones: five milliseconds. -/
def slack : Nat := 5000000

/-- A ticker started at a millisecond, unless its first deadline is beyond the range of timers. -/
def start? (now : Nat) (period : Duration) : Option Ticker :=
  let deadline := 1000000 * now + period.nanos
  if deadline < timerRange then some { period := period.nanos, deadline } else none

/-- The millisecond at which the deadline is met. -/
def due (ticker : Ticker) : Nat :=
  (ticker.deadline + 999999) / 1000000

/-- The ticker after its deadline was met at a millisecond. -/
def fire (ticker : Ticker) (now : Nat) : Ticker :=
  if ticker.deadline + slack < 1000000 * now then
    { ticker with deadline := 1000000 * now + ticker.period }
  else { ticker with deadline := ticker.deadline + ticker.period }

end Ticker

end Datebook
