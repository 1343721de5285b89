import Datebook.Text.Quoted
import Datebook.Time.Duration

/-!
How the reminder loop runs: its period and the bounds on the calls that a tick makes.

A period is given in minutes. Builds of the program differ in what they make of one whose seconds do
not fit 64 bits: `SchedulerConfig.ofMinutesBy`.
-/

set_option autoImplicit false

namespace Datebook

/-- How the reminder loop runs. -/
structure SchedulerConfig where
  /-- The time between ticks, and the length of each window. -/
  period : Duration
  publishTimeout : Duration := .ofSecs 1
  /-- The bound on the listing and on each look-up of an owner. -/
  listTimeout : Duration := .ofSecs 1
  resolveOwnerEmail : Bool := true
  deriving DecidableEq, Repr

/-- How a build takes products of 64-bit numbers. -/
inductive Arithmetic where
  /-- It breaks off at a product that does not fit. -/
  | checked
  /-- It drops what is above 64 bits. -/
  | wrapping
  deriving DecidableEq, Repr

namespace SchedulerConfig

/-- A period of so many minutes, unless its seconds do not fit 64 bits. -/
def ofMinutes? (minutes : Nat) : Option SchedulerConfig :=
  (Duration.ofParts? (minutes * 60) 0).map fun period => { period }

/-- A period of so many minutes, unless the build breaks off. -/
def ofMinutesBy (arithmetic : Arithmetic) (minutes : Nat) : Option SchedulerConfig :=
  match arithmetic with
  | .checked => ofMinutes? minutes
  | .wrapping => some { period := .ofSecs (.ofNat (minutes * 60)) }

/-- A period of one minute. -/
def standard : SchedulerConfig :=
  { period := .ofSecs 60 }

def describe (config : SchedulerConfig) : String :=
  Text.record "SchedulerConfig"
    [("period", config.period.text), ("publish_timeout", config.publishTimeout.text),
      ("list_timeout", config.listTimeout.text),
      ("resolve_owner_email", toString config.resolveOwnerEmail)]

end SchedulerConfig

end Datebook
