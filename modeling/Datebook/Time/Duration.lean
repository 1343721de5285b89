import Datebook.Text.Decimal

/-!
Lengths of time.

A `Duration` is a whole number of nanoseconds whose seconds fit 64 bits. `Duration.text` writes it
in the largest unit of `s`, `ms`, `µs` and `ns` that is not longer than the duration, with the
fewest places that are exact.
-/

set_option autoImplicit false

namespace Datebook

structure Duration where
  nanos : Nat
  secs_lt : nanos < 0x1_0000_0000_0000_0000 * 1000000000 := by decide
  deriving DecidableEq, Repr

namespace Duration

theorem eq_of_nanos {a b : Duration} (same : a.nanos = b.nanos) : a = b := by
  cases a
  cases b
  cases same
  rfl

/-- The duration of so many nanoseconds, unless it is too long. -/
def ofNanos? (nanos : Nat) : Option Duration :=
  if lower : nanos < 0x1_0000_0000_0000_0000 * 1000000000 then some ⟨nanos, lower⟩ else none

/-- The duration of so many nanoseconds, or the longest one. -/
def clamp (nanos : Nat) : Duration :=
  ⟨min nanos (0x1_0000_0000_0000_0000 * 1000000000 - 1), by omega⟩

/-- The duration of so many seconds and nanoseconds, unless it is too long. -/
def ofParts? (secs nanos : Nat) : Option Duration :=
  ofNanos? (secs * 1000000000 + nanos)

/-- Whole milliseconds are a duration when they fit 64 bits. -/
def ofMillis (millis : UInt64) : Duration :=
  ⟨millis.toNat * 1000000, by have := millis.toNat_lt; omega⟩

/-- Whole seconds are a duration when they fit 64 bits. -/
def ofSecs (secs : UInt64) : Duration :=
  ⟨secs.toNat * 1000000000, by have := secs.toNat_lt; omega⟩

def secs (d : Duration) : Nat :=
  d.nanos / 1000000000

/-- The nanoseconds beyond the whole seconds. -/
def subsecNanos (d : Duration) : Nat :=
  d.nanos % 1000000000

/-- The whole milliseconds, rounded down. -/
def millis (d : Duration) : Nat :=
  d.nanos / 1000000

/-- The whole microseconds, rounded down. -/
def micros (d : Duration) : Nat :=
  d.nanos / 1000

/-- The whole milliseconds, rounded up. -/
def millisUp (d : Duration) : Nat :=
  (d.nanos + 999999) / 1000000

/-- The longest pause, in milliseconds: thirty years of 365 days. -/
def longestPause : Nat := 30 * 365 * 86400 * 1000

/-- The milliseconds that a pause takes. It ends on a whole millisecond. -/
def pauseMillis (d : Duration) : Nat :=
  min d.millisUp longestPause

instance : Min Duration :=
  ⟨fun a b => if a.nanos ≤ b.nanos then a else b⟩

theorem nanos_min (a b : Duration) : (min a b).nanos = min a.nanos b.nanos := by
  show (if a.nanos ≤ b.nanos then a else b).nanos = _
  split <;> omega

/-- Truncation to whole microseconds, at most the longest count that fits 64 bits. -/
def truncated (d : Duration) : Duration :=
  ⟨min d.micros (0x1_0000_0000_0000_0000 - 1) * 1000, by omega⟩

/-- A number of `10 ^ -places` units, without trailing zeros after the point. -/
def fractionText (whole places part : Nat) : List Char :=
  let shown := ((Text.padded places part).reverse.dropWhile (· = '0')).reverse
  Text.digits whole ++ (if shown = [] then [] else '.' :: shown)

/-- The text of a duration for diagnostics. -/
def text (d : Duration) : String :=
  String.ofList <|
    if 1000000000 ≤ d.nanos then fractionText d.secs 9 d.subsecNanos ++ ['s']
    else if 1000000 ≤ d.nanos then fractionText d.millis 6 (d.nanos % 1000000) ++ ['m', 's']
    else if 1000 ≤ d.nanos then fractionText d.micros 3 (d.nanos % 1000) ++ ['µ', 's']
    else fractionText d.nanos 0 0 ++ ['n', 's']

end Duration

end Datebook
