import Datebook.Queue.Recording
import Datebook.Scheduler.Config
import Datebook.Scheduler.Timer
import Datebook.Store

/-!
Ticks.

A tick lists the events whose reminder is due in the period that begins now, and publishes the
reminder of each, in turn, after looking up the address of its owner. `Tick` is a tick in progress:
what it has found so far and the call that it makes next. `Tick.settle` takes a tick past that
call. A call that fails or takes too long costs its own event at most; only the listing costs the
whole tick.
-/

set_option autoImplicit false

namespace Datebook

structure TickReport where
  windowStart : Instant
  /-- The end of the window, which is not part of it. -/
  windowEnd : Instant
  found : Nat := 0
  /-- Reminders that the queue accepted. -/
  published : Nat := 0
  failed : Nat := 0
  listFailed : Bool := false
  deriving DecidableEq, Repr

/-- A call that a tick makes. -/
inductive Request where
  | list (start stop : Instant)
  | lookup (owner : String)
  | publish (key : String) (payload : Bytes)
  deriving DecidableEq, Repr

/-- How a call ends. -/
inductive Verdict where
  /-- The call reaches what it is made to. -/
  | answered
  /-- It fails on the way. -/
  | failed
  /-- It is given up, as its time is over. -/
  | late
  deriving DecidableEq, Repr

/-- What ticks have counted. -/
structure Tally where
  ticks : Nat := 0
  published : Nat := 0
  failed : Nat := 0
  deriving DecidableEq, Repr

/-- What ticks work with. -/
structure Services where
  store : Store
  queue : RecordingQueue
  tally : Tally := {}

/-- The call that a tick makes next. -/
inductive Stage where
  | listing
  /-- The owner of an event, which other events follow. -/
  | lookup (event : Event) (rest : List Event)
  /-- The reminder of an event, which other events follow. -/
  | publish (event : Event) (email : Option String) (rest : List Event)
  | finished
  deriving DecidableEq, Repr

structure Tick where
  report : TickReport
  stage : Stage
  deriving DecidableEq, Repr

/-- The configured bound on a call. -/
def Request.timeout (config : SchedulerConfig) : Request → Duration
  | .list .. | .lookup _ => config.listTimeout
  | .publish .. => config.publishTimeout

namespace Tick

/-- A new tick, whose window begins now. -/
def opening (config : SchedulerConfig) (now : Instant) : Tick :=
  { report := { windowStart := now, windowEnd := now.addClamped config.period }, stage := .listing }

/-- The stage that begins the work on events. -/
def stageOf (config : SchedulerConfig) : List Event → Stage
  | [] => .finished
  | event :: rest =>
    if config.resolveOwnerEmail then .lookup event rest else .publish event none rest

/-- The call that a tick makes next, unless it is finished. -/
def request? (tick : Tick) : Option Request :=
  match tick.stage with
  | .listing => some (.list tick.report.windowStart tick.report.windowEnd)
  | .lookup event _ => some (.lookup event.owner)
  | .publish event email _ => some (.publish event.id.text (Alert.ofEvent event email).encode)
  | .finished => none

/-- The tick after its listing. -/
def afterListing (config : SchedulerConfig) (report : TickReport) : Option (List Event) → Tick
  | none => { report := { report with listFailed := true }, stage := .finished }
  | some events =>
    { report := { report with found := events.length }, stage := stageOf config events }

/-- The report with one more reminder. -/
def counted (report : TickReport) (accepted : Bool) : TickReport :=
  if accepted then { report with published := report.published + 1 }
  else { report with failed := report.failed + 1 }

/-- The calls that remain after the listing. -/
def callsLeft (config : SchedulerConfig) (tick : Tick) : Nat :=
  let each := if config.resolveOwnerEmail then 2 else 1
  match tick.stage with
  | .listing | .finished => 0
  | .lookup _ rest => 2 + each * rest.length
  | .publish _ _ rest => 1 + each * rest.length

end Tick

namespace Services

/-- Another tick. -/
def countTick (services : Services) : Services :=
  { services with tally := { services.tally with ticks := services.tally.ticks + 1 } }

/-- Another reminder. -/
def countReminder (services : Services) (accepted : Bool) : Services :=
  let tally := services.tally
  { services with
    tally :=
      if accepted then { tally with published := tally.published + 1 }
      else { tally with failed := tally.failed + 1 } }

/-- The outcome of a publish call: whether it was accepted. -/
def publish (services : Services) (verdict : Verdict) (key : String) (payload : Bytes) :
    Bool × Services :=
  match verdict with
  | .answered =>
    let (outcome, queue) := services.queue.publish key payload
    (outcome.isOk, { services with queue })
  | .failed | .late => (false, services)

/-- The address of an owner, if the call reaches the store and finds it. -/
def lookup (services : Services) (verdict : Verdict) (owner : String) : Option String :=
  match verdict with
  | .answered => (services.store.users.get? owner).map (·.email)
  | .failed | .late => none

/-- The events that are due, if the call reaches the store. -/
def list (services : Services) (verdict : Verdict) (start stop : Instant) : Option (List Event) :=
  match verdict with
  | .answered => some (services.store.listDue start stop)
  | .failed | .late => none

end Services

/-- A tick after its next call ended, and what the call did. -/
def Tick.settle (config : SchedulerConfig) (verdict : Verdict) (tick : Tick) (services : Services) :
    Tick × Services :=
  match tick.stage with
  | .listing =>
    (afterListing config tick.report
      (services.list verdict tick.report.windowStart tick.report.windowEnd), services)
  | .lookup event rest =>
    ({ tick with stage := .publish event (services.lookup verdict event.owner) rest }, services)
  | .publish event email rest =>
    let (accepted, services) :=
      services.publish verdict event.id.text (Alert.ofEvent event email).encode
    ({ report := counted tick.report accepted, stage := stageOf config rest },
      services.countReminder accepted)
  | .finished => (tick, services)

end Datebook
