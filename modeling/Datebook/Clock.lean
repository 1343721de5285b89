import Datebook.Time.Instant

/-!
Clocks. A manual clock stands still until it is moved; a running clock shows a base instant moved by
the time that has passed.
-/

set_option autoImplicit false

namespace Datebook

inductive Clock where
  | manual (time : Instant)
  | running (base : Instant)
  deriving DecidableEq, Repr

namespace Clock

/-- The reading after so many milliseconds, unless it is out of range. -/
def now? (clock : Clock) (elapsed : Nat) : Option Instant :=
  match clock with
  | manual time => some time
  | running base => base.add? (1000000 * elapsed)

/-- A manual clock set to a time; a running clock cannot be set. -/
def set? (clock : Clock) (time : Instant) : Option Clock :=
  match clock with
  | manual _ => some (manual time)
  | running _ => none

/-- A manual clock moved by a span of nanoseconds, unless the result is out of range. -/
def advance? (clock : Clock) (span : Int) : Option Clock :=
  match clock with
  | manual time => (time.add? span).map manual
  | running _ => none

end Clock

end Datebook
