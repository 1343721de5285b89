import Datebook.Scheduler.Tick

/-!
Faults of the calls that ticks make. A `Plan` gives every call its behaviour, by the number of calls
begun before it and by what it asks for; `FaultModes` are plans that look at the kind of call only.
-/

set_option autoImplicit false

namespace Datebook

/-- How a call behaves. -/
inductive Mode where
  | ok
  | fail
  /-- The call never answers. -/
  | hang
  /-- The call pauses for so many milliseconds before it is made. -/
  | stall (millis : Nat)
  deriving DecidableEq, Repr

/-- How a call ends that may take so many milliseconds, and how many it takes. -/
def Mode.settlement (limit : Nat) : Mode → Verdict × Nat
  | .ok => (.answered, 0)
  | .fail => (.failed, 0)
  | .hang => (.late, limit)
  | .stall millis => if millis ≤ limit then (.answered, millis) else (.late, limit)

abbrev Plan := Nat → Request → Mode

/-- A mode for each kind of call. -/
structure FaultModes where
  list : Mode := .ok
  lookup : Mode := .ok
  publish : Mode := .ok
  deriving DecidableEq, Repr

def FaultModes.plan (modes : FaultModes) : Plan :=
  fun _ request =>
    match request with
    | .list .. => modes.list
    | .lookup _ => modes.lookup
    | .publish .. => modes.publish

theorem Mode.settlement_le (limit : Nat) (mode : Mode) : (mode.settlement limit).2 ≤ limit := by
  cases mode <;> simp only [settlement] <;> grind

end Datebook
