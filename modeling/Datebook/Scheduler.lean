import Datebook.Clock
import Datebook.Scheduler.Fault
import Datebook.Scheduler.State
import Datebook.Scheduler.Timer

/-!
The scheduler.

A `Scheduler` is the reminder loop under a virtual time in whole milliseconds, together with all
that it works with. `loopStep` does what is due: it notices a shutdown, begins a tick or ends a
call of the tick in progress. `advanceTo` lets time pass, and `tick` is a tick of its own, outside
the loop, during which the loop goes on.

The loop runs once. Its first tick is a period after its start. A shutdown is noticed between
ticks, before a tick that is due at the same moment; a tick in progress is finished first. A tick
whose clock is out of range breaks off, and the loop with it.
-/

set_option autoImplicit false

namespace Datebook

/-- A tick with a call under way. -/
structure Pending where
  tick : Tick
  verdict : Verdict
  /-- The millisecond at which the call ends. -/
  due : Nat
  deriving DecidableEq, Repr

/-- The loop while it runs. -/
structure Loop where
  ticker : Ticker
  /-- Whether a shutdown has come in. -/
  shutdown : Bool
  /-- The tick in progress. -/
  pending : Option Pending := none
  deriving DecidableEq, Repr

/-- Why a run does not come to a proper end. -/
inductive RunError where
  | refused (cause : SchedulerError)
  /-- The first deadline is beyond the range of timers. -/
  | timerOverflow
  /-- A tick broke off. -/
  | clockOverflow
  deriving DecidableEq, Repr

structure Scheduler where
  config : SchedulerConfig
  clock : Clock
  services : Services
  plan : Plan := fun _ _ => .ok
  /-- Milliseconds since the beginning. -/
  now : Nat := 0
  /-- The calls of ticks with the milliseconds at which they began, the latest first. -/
  journal : List (Nat × Request) := []
  /-- The states entered after the idle one, the latest first. -/
  entered : List SchedulerState := []
  /-- Whether a run was ever accepted. -/
  started : Bool := false
  loop : Option Loop := none
  /-- Whether the loop broke off. -/
  broken : Bool := false

namespace Scheduler

def state (s : Scheduler) : SchedulerState :=
  s.entered.head?.getD .idle

def enter (s : Scheduler) (next : SchedulerState) : Scheduler :=
  { s with entered := next :: s.entered }

/-- Begins a call of a tick. -/
def dispatch (s : Scheduler) (tick : Tick) (request : Request) : Pending × Scheduler :=
  let (verdict, delay) := (s.plan s.journal.length request).settlement
    ((request.timeout s.config).patience s.now)
  ({ tick, verdict, due := s.now + delay }, { s with journal := (s.now, request) :: s.journal })

/-- Begins a tick, which is counted even if the clock is out of range. -/
def openTick (s : Scheduler) : Option Tick × Scheduler :=
  ((s.clock.now? s.now).map (.opening s.config), { s with services := s.services.countTick })

/-- Ends the call of a tick. -/
def settle (s : Scheduler) (pending : Pending) : Tick × Scheduler :=
  let (tick, services) := pending.tick.settle s.config pending.verdict s.services
  (tick, { s with services })

/-- Goes on with the tick of the loop, or waits for the next one. -/
def resume (s : Scheduler) (loop : Loop) (tick : Tick) : Scheduler :=
  match tick.request? with
  | some request =>
    let (pending, s) := s.dispatch tick request
    { s with loop := some { loop with pending := some pending } }
  | none => { s.enter .waitingForTick with loop := some { loop with pending := none } }

/-- Does what the loop has to do at the present millisecond. -/
def loopStep (s : Scheduler) : Scheduler :=
  match s.loop with
  | none => s
  | some loop =>
    match loop.pending with
    | some pending =>
      if pending.due ≤ s.now then
        let (tick, s) := s.settle pending
        s.resume loop tick
      else s
    | none =>
      if loop.shutdown then { s.enter .stopped with loop := none }
      else if loop.ticker.due ≤ s.now then
        match (s.enter .processing).openTick with
        | (some tick, s) => s.resume { loop with ticker := loop.ticker.fire s.now } tick
        | (none, s) => { s with loop := none, broken := true }
      else s

/-- The millisecond at which the loop has something to do. -/
def nextDue? (s : Scheduler) : Option Nat :=
  s.loop.map fun loop =>
    match loop.pending with
    | some pending => max s.now pending.due
    | none => if loop.shutdown then s.now else max s.now loop.ticker.due

/-- Lets time pass up to a millisecond, at most so many steps of the loop. What is due at that very
millisecond is left. -/
def advanceWithin (target : Nat) : Nat → Scheduler → Scheduler
  | 0, s => { s with now := max s.now target }
  | steps + 1, s =>
    match s.nextDue? with
    | none => { s with now := max s.now target }
    | some due =>
      if due < target then advanceWithin target steps ({ s with now := due }.loopStep)
      else { s with now := max s.now target }

/-- The steps that end the tick in progress, with room for a listing that is under way. -/
def stepsLeft (s : Scheduler) : Nat :=
  match s.loop.bind (·.pending) with
  | none => 2
  | some pending => pending.tick.callsLeft s.config + 2 * s.services.store.eventCount + 4

/-- A bound on the steps of the loop up to a millisecond. -/
def stepBound (s : Scheduler) (target : Nat) : Nat :=
  let ticks := 1000000 * target / s.config.period.nanos + 2
  s.stepsLeft + ticks * (2 * s.services.store.eventCount + 4)

/-- Lets time pass up to a millisecond. -/
def advanceTo (s : Scheduler) (target : Nat) : Scheduler :=
  s.advanceWithin target (s.stepBound target)

/-- Pauses for so many milliseconds. -/
def sleep (s : Scheduler) (millis : Nat) : Scheduler :=
  s.advanceTo (s.now + min millis Duration.longestPause)

/-- Makes the next call of a tick outside the loop and waits for it to end. -/
def callStep (s : Scheduler) (tick : Tick) : Tick × Scheduler :=
  match tick.request? with
  | none => (tick, s)
  | some request =>
    let (pending, s) := s.dispatch tick request
    (s.advanceTo pending.due).settle pending

/-- Makes so many calls of a tick outside the loop. -/
def callSteps : Nat → Scheduler → Tick → Tick × Scheduler
  | 0, s, tick => (tick, s)
  | calls + 1, s, tick =>
    let (tick, s) := s.callStep tick
    s.callSteps calls tick

/-- A tick outside the loop, unless the clock is out of range. -/
def tick (s : Scheduler) : Option TickReport × Scheduler :=
  match s.openTick with
  | (none, s) => (none, s)
  | (some tick, s) =>
    let (tick, s) := s.callStep tick
    let (tick, s) := s.callSteps (tick.callsLeft s.config) tick
    (some tick.report, s)

/-- Accepts a run, unless there was one already or the period is zero. -/
def accept (s : Scheduler) (shutdown : Bool) : Except RunError Unit × Scheduler :=
  if s.config.period.nanos = 0 then (.error (.refused .invalidPeriod), s)
  else if s.started then
    (.error (.refused (if s.state = .stopped then .stopped else .alreadyStarted)), s)
  else
    match Ticker.start? s.now s.config.period with
    | none => (.error .timerOverflow, { s with started := true })
    | some ticker =>
      (.ok (), { s.enter .waitingForTick with started := true, loop := some { ticker, shutdown } })

/-- A run whose shutdown came in before it began. -/
def runShutDown (s : Scheduler) : Except RunError Unit × Scheduler :=
  match s.accept true with
  | (.ok (), s) => (.ok (), s.loopStep)
  | refused => refused

/-- Sends a shutdown to the loop, or drops the means to send one, which amounts to the same. -/
def shutDown (s : Scheduler) : Scheduler :=
  { s with loop := s.loop.map fun loop => { loop with shutdown := true } }

/-- A run that goes on in the background. The means to shut down an earlier one is dropped first. -/
def start (s : Scheduler) : Except RunError Unit × Scheduler :=
  s.shutDown.loopStep.accept false

/-- Lets so many steps of the loop happen, each at its time. -/
def joinWithin : Nat → Scheduler → Scheduler
  | 0, s => s
  | steps + 1, s =>
    match s.nextDue? with
    | none => s
    | some due => joinWithin steps ({ s with now := due }.loopStep)

/-- A bound on the steps until the loop ends, by a shutdown or because the clock leaves its
range. -/
def joinBound (s : Scheduler) : Nat :=
  match s.clock with
  | .manual _ => s.stepsLeft
  | .running base => s.stepBound (((Instant.last.nanos - base.nanos) / 1000000).toNat + 1)

/-- Waits for the loop to end. -/
def join (s : Scheduler) : Except RunError Unit × Scheduler :=
  let s := s.joinWithin s.joinBound
  (if s.broken then .error .clockOverflow else .ok (), s)

end Scheduler

end Datebook
