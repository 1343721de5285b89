/-!
States of the reminder loop. A scheduler is idle until its loop runs, then waits for a tick or works
on one, and once stopped stays so.
-/

set_option autoImplicit false

namespace Datebook

inductive SchedulerState where
  | idle
  | waitingForTick
  | processing
  | stopped
  deriving DecidableEq, Repr

namespace SchedulerState

/-- The name of a state in diagnostics. -/
def describe : SchedulerState → String
  | .idle => "Idle"
  | .waitingForTick => "WaitingForTick"
  | .processing => "Processing"
  | .stopped => "Stopped"

/-- All states, in the order of a life. -/
def all : List SchedulerState :=
  [.idle, .waitingForTick, .processing, .stopped]

end SchedulerState

/-- Why the loop does not run. -/
inductive SchedulerError where
  /-- Another run is under way. -/
  | alreadyStarted
  | stopped
  /-- A period of zero would tick without end. -/
  | invalidPeriod
  deriving DecidableEq, Repr

def SchedulerError.message : SchedulerError → String
  | .alreadyStarted => "Scheduler is already running"
  | .stopped => "Scheduler has stopped"
  | .invalidPeriod => "Scheduler period must be greater than zero"

end Datebook
