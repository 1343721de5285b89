import Datebook.Proofs.Scheduler.Frame

/-!
What can happen to a scheduler.

A `Move` is one thing that happens: a run is called, time passes, the loop does what is due, others
write to the store. Moves come in any order, so that a list of them is any history of a scheduler,
and `Scheduler.after` is where it leads. A run is called in two moves, as other calls may come
between its taking the flag and its first wait. `loopStep_stepped` says all that the loop can do in
one move, and `moved_advanced` all that any move can do. A history is `Prompt` when the loop never
lags: time passes no further than to what is due.
-/

set_option autoImplicit false

namespace Datebook

namespace Tick

/-- The event whose publish call comes next. -/
def publishing? (tick : Tick) : Option Event :=
  match tick.stage with
  | .publish event _ _ => some event
  | .listing | .lookup _ _ | .finished => none

/-- The events whose publish calls come later, once they are listed. -/
def ahead? (tick : Tick) : Option (List Event) :=
  match tick.stage with
  | .listing => none
  | .lookup event rest => some (event :: rest)
  | .publish _ _ rest => some rest
  | .finished => some []

/-- The events that remain when the call under way ends so. -/
def remaining (verdict : Verdict) (services : Services) (tick : Tick) : List Event :=
  tick.ahead?.getD
    ((services.list verdict tick.report.windowStart tick.report.windowEnd).getD [])

theorem offers?_request? (tick : Tick) :
    tick.request?.bind Request.offers? = tick.publishing?.map (·.id.text) := by
  obtain ⟨report, stage⟩ := tick
  cases stage <;> rfl

/-- The call that a tick makes next is no listing, once its listing has ended. -/
theorem request?_ne_list {tick : Tick} {left : List Event}
    (ahead : tick.ahead? = some left) (start stop : Instant) :
    tick.request? ≠ some (.list start stop) := by
  obtain ⟨report, stage⟩ := tick
  cases stage with
  | listing => cases ahead
  | _ => exact nofun

theorem ahead?_stageOf (config : SchedulerConfig) (report : TickReport) (events : List Event) :
    ∃ left, (Tick.mk report (stageOf config events)).ahead? = some left ∧
      events = (Tick.mk report (stageOf config events)).publishing?.toList ++ left := by
  cases events with
  | nil => exact ⟨[], rfl, rfl⟩
  | cons event rest =>
    rw [stageOf]
    split
    · exact ⟨event :: rest, rfl, rfl⟩
    · exact ⟨rest, rfl, rfl⟩

/-- A call that ends takes a tick to the next publish call or closer to it, and passes no event
over. -/
theorem settle_remaining (config : SchedulerConfig) (verdict : Verdict) (tick : Tick)
    (services : Services) :
    let next := (tick.settle config verdict services).1
    ∃ left, next.ahead? = some left ∧
      tick.remaining verdict services = next.publishing?.toList ++ left := by
  obtain ⟨report, stage⟩ := tick
  cases stage with
  | listing =>
    simp only [settle, remaining, ahead?, Option.getD_none]
    cases services.list verdict report.windowStart report.windowEnd with
    | none => exact ⟨[], rfl, rfl⟩
    | some events => exact ahead?_stageOf config _ events
  | lookup event rest => exact ⟨rest, rfl, rfl⟩
  | publish event email rest => exact ahead?_stageOf config _ rest
  | finished => exact ⟨[], rfl, rfl⟩

theorem ahead?_of_finished {tick : Tick} (finished : tick.request? = none) :
    tick.ahead? = some [] := by
  obtain ⟨report, stage⟩ := tick
  cases stage with
  | finished => rfl
  | _ => cases finished

/-- In terms of keys: those that remain are that of the next call, if it offers one, and the
rest. -/
theorem settle_keys {config : SchedulerConfig} {verdict : Verdict} {tick next : Tick}
    {services others : Services}
    (settled : tick.settle config verdict services = (next, others)) :
    ∃ left, next.ahead? = some left ∧
      (tick.remaining verdict services).map (·.id.text) =
        next.request?.toList.filterMap Request.offers? ++ left.map (·.id.text) := by
  obtain ⟨left, ahead, split⟩ := tick.settle_remaining config verdict services
  rw [settled] at ahead split
  refine ⟨left, ahead, ?_⟩
  have offered := next.offers?_request?
  rw [split, List.map_append]
  congr 1
  cases call : next.request? with
  | none =>
    rw [call] at offered
    cases publishing : next.publishing? with
    | none => rfl
    | some event =>
      rw [publishing] at offered
      cases offered
  | some request =>
    rw [call, Option.bind_some] at offered
    rw [Option.toList_some, List.filterMap_cons, offered]
    cases next.publishing? <;> rfl

theorem settle_window (config : SchedulerConfig) (verdict : Verdict) (tick : Tick)
    (services : Services) :
    (tick.settle config verdict services).1.report.windowStart = tick.report.windowStart ∧
      (tick.settle config verdict services).1.report.windowEnd = tick.report.windowEnd := by
  obtain ⟨report, stage⟩ := tick
  cases stage with
  | listing =>
    simp only [settle]
    cases services.list verdict report.windowStart report.windowEnd <;> exact ⟨rfl, rfl⟩
  | publish event email rest =>
    simp only [settle, counted]
    split <;> exact ⟨rfl, rfl⟩
  | _ => exact ⟨rfl, rfl⟩

end Tick

/-- What happens to a scheduler at a moment. -/
inductive Move where
  /-- A run is called and let in or refused. -/
  | call
  /-- A run that was let in goes on to its first wait, a shutdown at hand already or not. -/
  | launch (shutdown : Bool)
  /-- A shutdown is sent, its last sender goes or the receiver has missed one. -/
  | shutDown
  /-- The loop does what is due. -/
  | poll
  | pass (millis : Nat)
  | setClock (time : Instant)
  /-- Others change the store or the queue. -/
  | write (store : Store) (queue : RecordingQueue)

/-- The milliseconds that pass. -/
def Move.span : Move → Nat
  | .pass millis => millis
  | .call | .launch _ | .shutDown | .poll | .setClock _ | .write _ _ => 0

namespace Scheduler

/-- A run up to where it is let in or refused. -/
def letIn (s : Scheduler) : Except RunError Unit × Scheduler :=
  if s.config.period.nanos = 0 then (.error (.refused .invalidPeriod), s)
  else if s.started then
    (.error (.refused (if s.state = .stopped then .stopped else .alreadyStarted)), s)
  else (.ok (), { s with started := true })

/-- A run that was let in, up to its first wait. -/
def launch (s : Scheduler) (shutdown : Bool) : Except RunError Unit × Scheduler :=
  match Ticker.start? s.now s.config.period with
  | none => (.error .timerOverflow, s)
  | some ticker => (.ok (), { s.enter .waitingForTick with loop := some { ticker, shutdown } })

/-- Accepting a run is letting it in and launching it at once. -/
theorem accept_eq (s : Scheduler) (shutdown : Bool) :
    s.accept shutdown =
      match s.letIn with
      | (.ok (), t) => t.launch shutdown
      | (.error cause, t) => (.error cause, t) := by
  unfold accept letIn launch
  by_cases zero : s.config.period.nanos = 0
  · simp only [zero, ↓reduceIte]
  · by_cases started : s.started = true
    · simp only [zero, started, ↓reduceIte]
    · simp only [zero, started, ↓reduceIte, Bool.false_eq_true]
      cases Ticker.start? s.now s.config.period <;> rfl

theorem accept_fresh {s : Scheduler} {timer : Ticker} (positive : 0 < s.config.period.nanos)
    (fresh : s.started = false) (starts : Ticker.start? s.now s.config.period = some timer)
    (shutdown : Bool) :
    s.accept shutdown =
      (.ok (),
        { s.enter .waitingForTick with
          started := true, loop := some { ticker := timer, shutdown } }) := by
  rw [accept, if_neg (Nat.ne_of_gt positive), fresh, if_neg Bool.false_ne_true, starts]

/-- A run that is accepted waits for its first deadline, a period from now. -/
theorem accept_ok {s t : Scheduler} {shutdown : Bool}
    (accepted : s.accept shutdown = (.ok (), t)) :
    ∃ timer, Ticker.start? s.now s.config.period = some timer ∧
      t = { s.enter .waitingForTick with
        started := true, loop := some { ticker := timer, shutdown } } := by
  rw [accept] at accepted
  split at accepted
  · cases accepted
  · split at accepted
    · cases accepted
    · split at accepted
      · cases accepted
      · rename_i timer started
        cases accepted
        exact ⟨timer, started, rfl⟩

def moved (s : Scheduler) : Move → Scheduler
  | .call => s.letIn.2
  | .launch shutdown => if s.started ∧ s.entered = [] then (s.launch shutdown).2 else s
  | .shutDown => s.shutDown
  | .poll => s.loopStep
  | .pass millis => { s with now := s.now + millis }
  | .setClock time => { s with clock := (s.clock.set? time).getD s.clock }
  | .write store queue => { s with services := { s.services with store, queue } }

theorem letIn_cases (s : Scheduler) :
    s.letIn.2 = s ∨ s.started = false ∧ s.letIn.2 = { s with started := true } := by
  rw [letIn]
  split
  · exact Or.inl rfl
  · split
    · exact Or.inl rfl
    · rename_i fresh
      exact Or.inr ⟨Bool.eq_false_iff.mpr fresh, rfl⟩

theorem launch_cases (s : Scheduler) (shutdown : Bool) :
    (s.launch shutdown).2 = s ∨
      ∃ ticker, Ticker.start? s.now s.config.period = some ticker ∧
        s.launch shutdown =
          (.ok (), { s.enter .waitingForTick with loop := some { ticker, shutdown } }) := by
  rw [launch]
  cases first : Ticker.start? s.now s.config.period with
  | none => exact Or.inl rfl
  | some ticker => exact Or.inr ⟨ticker, rfl, rfl⟩

/-- The scheduler after a history. -/
def after (s : Scheduler) (moves : List Move) : Scheduler :=
  moves.foldl moved s

/-- Every move of a history is one that is allowed where it is made. -/
def Along (allowed : Scheduler → Move → Prop) (s : Scheduler) : List Move → Prop
  | [] => True
  | move :: rest => allowed s move ∧ (s.moved move).Along allowed rest

instance decidableAlong {allowed : Scheduler → Move → Prop} [∀ s move, Decidable (allowed s move)] :
    ∀ (s : Scheduler) (moves : List Move), Decidable (s.Along allowed moves)
  | _, [] => isTrue trivial
  | s, move :: rest =>
    have : Decidable ((s.moved move).Along allowed rest) := decidableAlong (s.moved move) rest
    inferInstanceAs (Decidable (allowed s move ∧ (s.moved move).Along allowed rest))

/-- Time passes no further than to what is due. -/
def Waits (s : Scheduler) : Move → Prop
  | .pass millis => ∀ due ∈ s.nextDue?, s.now + millis ≤ due
  | .call | .launch _ | .shutDown | .poll | .setClock _ | .write _ _ => True

instance decidableWaits (s : Scheduler) : (move : Move) → Decidable (s.Waits move)
  | .pass millis => inferInstanceAs (Decidable (∀ due ∈ s.nextDue?, s.now + millis ≤ due))
  | .call | .launch _ | .shutDown | .poll | .setClock _ | .write _ _ => isTrue trivial

/-- The loop never lags behind. -/
def Prompt (s : Scheduler) (moves : List Move) : Prop :=
  s.Along Waits moves

instance (s : Scheduler) (moves : List Move) : Decidable (s.Prompt moves) :=
  inferInstanceAs (Decidable (s.Along Waits moves))

/-- All that one step of the loop can do. -/
inductive Stepped (s : Scheduler) : Scheduler → Prop
  | rest (quiet : ∀ due ∈ s.nextDue?, s.now < due) : Stepped s s
  | stop {loop : Loop} (running : s.loop = some loop) (free : loop.pending = none)
    (shutdown : loop.shutdown = true) :
    Stepped s { s with entered := .stopped :: s.entered, loop := none }
  | begin {loop : Loop} {start : Instant} (running : s.loop = some loop)
    (free : loop.pending = none) (goesOn : loop.shutdown = false)
    (due : loop.ticker.due ≤ s.now) (reading : s.clock.now? s.now = some start) :
    Stepped s
      { s with
        services := s.services.countTick
        journal := (s.now, .list start (start.addClamped s.config.period)) :: s.journal
        entered := .processing :: s.entered
        loop := some
          { ticker := loop.ticker.fire s.now
            shutdown := false
            pending := some
              (s.dispatch (.opening s.config start)
                (.list start (start.addClamped s.config.period))).1 } }
  | breakOff {loop : Loop} (running : s.loop = some loop) (free : loop.pending = none)
    (goesOn : loop.shutdown = false) (due : loop.ticker.due ≤ s.now)
    (unread : s.clock.now? s.now = none) :
    Stepped s
      { s with
        services := s.services.countTick
        entered := .processing :: s.entered
        loop := none
        broken := true }
  | goOn {loop : Loop} {pending : Pending} {tick : Tick} {services : Services} {request : Request}
    (running : s.loop = some loop) (busy : loop.pending = some pending)
    (due : pending.due ≤ s.now)
    (settled : pending.tick.settle s.config pending.verdict s.services = (tick, services))
    (next : tick.request? = some request) :
    Stepped s
      { s with
        services
        journal := (s.now, request) :: s.journal
        loop := some { loop with pending := some (s.dispatch tick request).1 } }
  | finish {loop : Loop} {pending : Pending} {tick : Tick} {services : Services}
    (running : s.loop = some loop) (busy : loop.pending = some pending)
    (due : pending.due ≤ s.now)
    (settled : pending.tick.settle s.config pending.verdict s.services = (tick, services))
    (next : tick.request? = none) :
    Stepped s
      { s with
        services
        entered := .waitingForTick :: s.entered
        loop := some { loop with pending := none } }

theorem Stepped.config {s t : Scheduler} (step : s.Stepped t) : t.config = s.config := by
  cases step <;> rfl

theorem Stepped.store {s t : Scheduler} (step : s.Stepped t) :
    t.services.store = s.services.store := by
  cases step with
  | @goOn loop pending tick services request running busy due settled next
  | @finish loop pending tick services running busy due settled next =>
    have kept := pending.tick.settle_store s.config pending.verdict s.services
    rwa [settled] at kept
  | _ => rfl

theorem loopStep_stepped (s : Scheduler) : s.Stepped s.loopStep := by
  cases running : s.loop with
  | none =>
    have step : s.loopStep = s := by rw [loopStep, running]
    rw [step]
    refine .rest ?_
    intro due member
    rw [nextDue?, running] at member
    cases member
  | some loop =>
    cases busy : loop.pending with
    | some pending =>
      by_cases due : pending.due ≤ s.now
      · cases settled : pending.tick.settle s.config pending.verdict s.services with
        | mk tick services =>
          have step : s.loopStep = { s with services }.resume loop tick := by
            simp only [loopStep, running, busy, if_pos due, settle, settled]
          rw [step]
          cases next : tick.request? with
          | some request =>
            simp only [resume, next]
            exact .goOn running busy due settled next
          | none =>
            simp only [resume, next]
            exact .finish running busy due settled next
      · have step : s.loopStep = s := by
          simp only [loopStep, running, busy, if_neg due]
        rw [step]
        refine .rest ?_
        intro later member
        simp only [nextDue?, running, busy, Option.map_some, Option.mem_some_iff] at member
        omega
    | none =>
      cases shutdown : loop.shutdown with
      | true =>
        have step : s.loopStep = { s.enter .stopped with loop := none } := by
          simp only [loopStep, running, busy, shutdown, ↓reduceIte]
        rw [step]
        exact .stop running busy shutdown
      | false =>
        by_cases due : loop.ticker.due ≤ s.now
        · cases reading : s.clock.now? s.now with
          | some start =>
            have opened : (s.enter .processing).openTick =
                (some (.opening s.config start),
                  { s.enter .processing with services := s.services.countTick }) := by
              simp only [openTick, enter, reading, Option.map_some]
            simp only [loopStep, running, busy, shutdown, Bool.false_eq_true, ↓reduceIte, due,
              opened]
            exact .begin running busy shutdown due reading
          | none =>
            have opened : (s.enter .processing).openTick =
                (none, { s.enter .processing with services := s.services.countTick }) := by
              simp only [openTick, enter, reading, Option.map_none]
            simp only [loopStep, running, busy, shutdown, Bool.false_eq_true, ↓reduceIte, due,
              opened]
            exact .breakOff running busy shutdown due reading
        · have step : s.loopStep = s := by
            simp only [loopStep, running, busy, shutdown, Bool.false_eq_true, ↓reduceIte, due]
          rw [step]
          refine .rest ?_
          intro later member
          simp only [nextDue?, running, busy, shutdown, Bool.false_eq_true, ↓reduceIte,
            Option.map_some, Option.mem_some_iff] at member
          omega

/-- Nothing has happened to the run, other than that it may have been told to shut down. -/
structure Undisturbed (s t : Scheduler) : Prop where
  config : t.config = s.config
  clock : ∀ base, s.clock = .running base → t.clock = s.clock
  started : s.started = true → t.started = true
  entered : t.entered = s.entered
  journal : t.journal = s.journal
  broken : t.broken = s.broken
  ticker : t.loop.map (·.ticker) = s.loop.map (·.ticker)
  pending : t.loop.map (·.pending) = s.loop.map (·.pending)
  shutdown : s.loop.map (·.shutdown) = some true → t.loop.map (·.shutdown) = some true

theorem Undisturbed.at_moment (s : Scheduler) (now : Nat) : Undisturbed s { s with now } :=
  ⟨rfl, fun _ _ => rfl, id, rfl, rfl, rfl, rfl, rfl, id⟩

theorem Undisturbed.refl (s : Scheduler) : Undisturbed s s :=
  .at_moment s s.now

theorem Undisturbed.of_shutDown (s : Scheduler) : Undisturbed s s.shutDown where
  config := rfl
  clock _ _ := rfl
  started := id
  entered := rfl
  journal := rfl
  broken := rfl
  ticker := Option.map_map _ _ _
  pending := Option.map_map _ _ _
  shutdown running := by
    obtain ⟨loop, found, _⟩ := Option.map_eq_some_iff.mp running
    rw [Scheduler.shutDown, found]
    rfl

theorem Undisturbed.loop_none {s t : Scheduler} (same : Undisturbed s t) :
    t.loop = none ↔ s.loop = none := by
  rw [← Option.map_eq_none_iff, same.pending, Option.map_eq_none_iff]

theorem Undisturbed.bind_pending {s t : Scheduler} (same : Undisturbed s t) :
    t.loop.bind (·.pending) = s.loop.bind (·.pending) := by
  have calls := congrArg (Option.bind · id) same.pending
  rw [Option.bind_map, Option.bind_map] at calls
  exact calls

/-- All that one move can do. -/
inductive Advanced (s : Scheduler) (move : Move) (t : Scheduler) : Prop
  | aside (same : Undisturbed s t) (now : t.now = s.now + move.span)
  | launch (started : s.started = true) (fresh : s.entered = []) {ticker : Ticker}
    {shutdown : Bool}
    (launched : t = { s.enter .waitingForTick with loop := some { ticker, shutdown } })
  | step (polled : move = .poll) (step : s.Stepped t)

theorem moved_advanced (s : Scheduler) (move : Move) : s.Advanced move (s.moved move) := by
  cases move with
  | call =>
    rw [moved]
    rcases s.letIn_cases with same | ⟨_, begun⟩
    · rw [same]
      exact .aside (.refl s) rfl
    · rw [begun]
      exact .aside ⟨rfl, fun _ _ => rfl, fun _ => rfl, rfl, rfl, rfl, rfl, rfl, id⟩ rfl
  | launch shutdown =>
    rw [moved]
    split
    · rename_i ready
      rcases s.launch_cases shutdown with same | ⟨ticker, _, launched⟩
      · rw [same]
        exact .aside (.refl s) rfl
      · exact .launch ready.1 ready.2 (congrArg Prod.snd launched)
    · exact .aside (.refl s) rfl
  | shutDown => exact .aside (.of_shutDown s) rfl
  | poll => exact .step rfl s.loopStep_stepped
  | pass millis => exact .aside (.at_moment s _) rfl
  | setClock time =>
    refine .aside ⟨rfl, ?_, id, rfl, rfl, rfl, rfl, rfl, id⟩ rfl
    intro base running
    rw [moved, running]
    rfl
  | write store queue =>
    exact .aside ⟨rfl, fun _ _ => rfl, id, rfl, rfl, rfl, rfl, rfl, id⟩ rfl

theorem moved_config (s : Scheduler) (move : Move) : (s.moved move).config = s.config := by
  cases s.moved_advanced move with
  | aside same _ => exact same.config
  | launch _ _ launched =>
    rw [launched]
    rfl
  | step _ step => exact step.config

theorem after_config (s : Scheduler) (moves : List Move) : (s.after moves).config = s.config := by
  induction moves generalizing s with
  | nil => rfl
  | cons move rest ih => exact (ih (s.moved move)).trans (s.moved_config move)

end Scheduler

end Datebook
