import Datebook.Proofs.Scheduler.Phase
import Datebook.Proofs.Scheduler.Progress

/-!
The life of the reminder loop.

One run is let in, the first. Once a shutdown is in, the loop only winds up: it begins no tick, and
a tick in progress goes through all its events first. A stopped loop stays so.
Main statement: `Scheduler.run_lifecycle`.
-/

set_option autoImplicit false

namespace Datebook

namespace Scheduler

open SchedulerState (waits life)

variable {s t u : Scheduler}

/-- A shutdown is in, or the loop has stopped. -/
def ShutDown (s : Scheduler) : Prop :=
  s.state = .stopped ∨ ∃ loop, s.loop = some loop ∧ loop.shutdown = true

/-- The events that the tick in progress has yet to offer, once they are listed. -/
def ahead? (s : Scheduler) : Option (List Event) :=
  match s.loop.bind (·.pending) with
  | none => some []
  | some pending => pending.tick.ahead?

/-- The events that the tick in progress has yet to offer, if nobody changes the store. -/
def remaining (s : Scheduler) : List Event :=
  match s.loop.bind (·.pending) with
  | none => []
  | some pending => pending.tick.remaining pending.verdict s.services

theorem ShutDown.of_running (shutDown : s.ShutDown) (phase : s.Phase) {loop : Loop}
    (running : s.loop = some loop) : loop.shutdown = true := by
  rcases shutDown with stopped | ⟨other, same, shutdown⟩
  · exact absurd stopped (phase.state_ne_stopped running)
  · rw [running] at same
    cases same
    exact shutdown

theorem ShutDown.entered_ne_nil (shutDown : s.ShutDown) (phase : s.Phase) : s.entered ≠ [] := by
  rcases shutDown with stopped | ⟨loop, running, _⟩
  · intro fresh
    rw [state, fresh] at stopped
    cases stopped
  · exact phase.entered_ne_nil running

/-- From one moment to a later one a scheduler makes these calls and enters these states, the latest
first, and begins no tick. The tick in progress goes on to its next events. -/
structure WindsUp (s t : Scheduler) (calls : List Request) (states : List SchedulerState) :
    Prop where
  asked : t.asked = s.asked ++ calls
  entered : t.entered = states ++ s.entered
  noListing : ∀ start stop, .list start stop ∉ calls
  noTick : .processing ∉ states
  ahead : ∀ left, s.ahead? = some left → ∃ rest, t.ahead? = some rest ∧
    left.map (·.id.text) = calls.filterMap Request.offers? ++ rest.map (·.id.text)

theorem ShutDown.undisturbed (shutDown : s.ShutDown) (same : Undisturbed s t) : t.ShutDown := by
  rcases shutDown with stopped | ⟨loop, running, shutdown⟩
  · rw [state] at stopped
    exact Or.inl (by rw [state, same.entered]; exact stopped)
  · have flag : s.loop.map (·.shutdown) = some true := by
      rw [running, Option.map_some, shutdown]
    exact Or.inr (Option.map_eq_some_iff.mp (same.shutdown flag))

theorem WindsUp.of_undisturbed (same : Undisturbed s t) : WindsUp s t [] [] where
  asked := by rw [Scheduler.asked, Scheduler.asked, same.journal, List.append_nil]
  entered := same.entered
  noListing _ _ member := nomatch member
  noTick member := nomatch member
  ahead left found := by
    refine ⟨left, ?_, rfl⟩
    rw [ahead?, same.bind_pending]
    exact found

theorem WindsUp.trans {calls more : List Request} {states later : List SchedulerState}
    (first : WindsUp s t calls states) (second : WindsUp t u more later) :
    WindsUp s u (calls ++ more) (later ++ states) where
  asked := by rw [second.asked, first.asked, List.append_assoc]
  entered := by rw [second.entered, first.entered, List.append_assoc]
  noListing start stop member := by
    rcases List.mem_append.mp member with before | after
    · exact first.noListing start stop before
    · exact second.noListing start stop after
  noTick member := by
    rcases List.mem_append.mp member with after | before
    · exact second.noTick after
    · exact first.noTick before
  ahead left found := by
    obtain ⟨rest, foundToo, split⟩ := first.ahead left found
    obtain ⟨last, foundLast, splitToo⟩ := second.ahead rest foundToo
    refine ⟨last, foundLast, ?_⟩
    rw [split, splitToo, List.filterMap_append, List.append_assoc]

theorem asked_cons (s : Scheduler) (ms : Nat) (request : Request) :
    { s with journal := (ms, request) :: s.journal }.asked = s.asked ++ [request] := by
  simp only [asked, List.reverse_cons, List.map_append, List.map_cons, List.map_nil]

/-- A step of a loop that winds up: what it offers are the first of the reminders that remain. -/
theorem ShutDown.stepped (shutDown : s.ShutDown) (phase : s.Phase) (step : s.Stepped t) :
    t.ShutDown ∧ ∃ calls states, WindsUp s t calls states ∧
      s.remaining.map (·.id.text) =
        calls.filterMap Request.offers? ++ t.remaining.map (·.id.text) := by
  cases step with
  | rest quiet => exact ⟨shutDown, [], [], .of_undisturbed (.refl s), rfl⟩
  | stop running free shutdown =>
    refine ⟨Or.inl rfl, [], [.stopped], ?_, ?_⟩
    · constructor
      · exact (List.append_nil _).symm
      · rfl
      · exact fun _ _ member => nomatch member
      · simp
      · intro left found
        simp only [ahead?, running, free, Option.bind_some] at found
        exact ⟨left, found, rfl⟩
    · simp only [remaining, running, free, Option.bind_some]
      rfl
  | begin running free goesOn due reading | breakOff running free goesOn due unread =>
    cases goesOn.symm.trans (shutDown.of_running phase running)
  | @goOn loop pending tick services request running busy due settled next =>
    have ready := shutDown.of_running phase running
    refine ⟨Or.inr ⟨_, rfl, ready⟩, [request], [], ?_⟩
    obtain ⟨rest, ahead, keys⟩ := Tick.settle_keys settled
    rw [next] at keys
    refine ⟨?_, ?_⟩
    · constructor
      · exact s.asked_cons s.now request
      · rfl
      · intro start stop member
        rw [← List.mem_singleton.mp member] at next
        exact Tick.request?_ne_list ahead start stop next
      · exact fun member => nomatch member
      · intro left found
        simp only [ahead?, running, busy, Option.bind_some] at found
        rw [Tick.remaining, found, Option.getD_some] at keys
        exact ⟨rest, ahead, keys⟩
    · simp only [remaining, running, busy, Option.bind_some]
      rw [keys, Tick.remaining]
      simp only [dispatch, ahead, Option.getD_some]
      rfl
  | @finish loop pending tick services running busy due settled next =>
    have ready := shutDown.of_running phase running
    refine ⟨Or.inr ⟨_, rfl, ready⟩, [], [.waitingForTick], ?_⟩
    obtain ⟨rest, ahead, keys⟩ := Tick.settle_keys settled
    rw [Tick.ahead?_of_finished next] at ahead
    cases ahead
    rw [next] at keys
    refine ⟨?_, ?_⟩
    · constructor
      · exact (List.append_nil _).symm
      · rfl
      · exact fun _ _ member => nomatch member
      · simp
      · intro left found
        simp only [ahead?, running, busy, Option.bind_some] at found
        rw [Tick.remaining, found, Option.getD_some] at keys
        exact ⟨[], rfl, keys⟩
    · simp only [remaining, running, busy, Option.bind_some]
      exact keys

theorem ShutDown.moved (shutDown : s.ShutDown) (phase : s.Phase) (move : Move) :
    (s.moved move).ShutDown ∧ ∃ calls states, WindsUp s (s.moved move) calls states := by
  cases s.moved_advanced move with
  | aside same _ => exact ⟨shutDown.undisturbed same, [], [], .of_undisturbed same⟩
  | launch _ fresh _ => exact absurd fresh (shutDown.entered_ne_nil phase)
  | step _ step =>
    obtain ⟨still, calls, states, windsUp, _⟩ := shutDown.stepped phase step
    exact ⟨still, calls, states, windsUp⟩

/-- Once a shutdown is in, the loop winds up, whatever else happens. -/
theorem ShutDown.after (shutDown : s.ShutDown) (phase : s.Phase) (moves : List Move) :
    (s.after moves).ShutDown ∧ ∃ calls states, WindsUp s (s.after moves) calls states := by
  induction moves generalizing s with
  | nil => exact ⟨shutDown, [], [], .of_undisturbed (.refl s)⟩
  | cons move rest ih =>
    obtain ⟨still, calls, states, first⟩ := shutDown.moved phase move
    obtain ⟨last, more, later, second⟩ := ih still (phase.moved move)
    exact ⟨last, calls ++ more, later ++ states, first.trans second⟩

theorem stepsLeft_le_joinBound (s : Scheduler) : s.stepsLeft ≤ s.joinBound := by
  rw [joinBound]
  split
  · exact Nat.le_refl _
  · exact Nat.le_add_right _ _

/-- A step of a loop that winds up brings its end closer, if anything is due. -/
theorem ShutDown.settles (shutDown : s.ShutDown) (phase : s.Phase) (step : s.Stepped t)
    {due : Nat} (next : s.nextDue? = some due) (reached : due ≤ s.now) :
    t.settlementsLeft < s.settlementsLeft := by
  rcases step.progress next reached with ⟨closer, _⟩ | ⟨loop, running, goesOn, _⟩
  · exact closer
  · cases goesOn.symm.trans (shutDown.of_running phase running)

/-- Given enough steps, a loop that winds up offers the reminders that remain and stops. -/
theorem ShutDown.joins (steps : Nat) (shutDown : s.ShutDown) (phase : s.Phase)
    (enough : s.settlementsLeft ≤ steps) :
    (s.joinWithin steps).ShutDown ∧ (s.joinWithin steps).Phase ∧
      (s.joinWithin steps).loop = none ∧
      ∃ calls states, WindsUp s (s.joinWithin steps) calls states ∧
        calls.filterMap Request.offers? = s.remaining.map (·.id.text) := by
  have atRest {u : Scheduler} (ended : u.loop = none) :
      ∃ calls states, WindsUp u u calls states ∧
        calls.filterMap Request.offers? = u.remaining.map (·.id.text) := by
    refine ⟨[], [], .of_undisturbed (.refl u), ?_⟩
    rw [remaining, ended]
    rfl
  induction steps generalizing s with
  | zero =>
    have ended : s.loop = none := by
      cases running : s.loop with
      | none => rfl
      | some loop =>
        rw [settlementsLeft, running] at enough
        cases busy : loop.pending <;> simp only [busy] at enough <;> omega
    exact ⟨shutDown, phase, ended, atRest ended⟩
  | succ steps ih =>
    rw [joinWithin]
    split
    · rename_i next
      have ended : s.loop = none := Option.map_eq_none_iff.mp next
      exact ⟨shutDown, phase, ended, atRest ended⟩
    · rename_i due next
      -- The moment changes first, which neither the phase nor the shutdown depends on.
      have later := Undisturbed.at_moment s due
      have phased := phase.undisturbed later
      have still := shutDown.undisturbed later
      have step := { s with now := due }.loopStep_stepped
      have fewer := still.settles phased step (nextDue?_met next) (Nat.le_refl _)
      obtain ⟨last, calls, states, first, offered⟩ := still.stepped phased step
      have begun := (WindsUp.of_undisturbed later).trans first
      rw [List.nil_append, List.append_nil] at begun
      obtain ⟨shut, wound, ended, more, later, second, offeredToo⟩ :=
        ih last (phased.stepped step) (Nat.le_of_lt_succ (Nat.lt_of_lt_of_le fewer enough))
      refine ⟨shut, wound, ended, calls ++ more, later ++ states, begun.trans second, ?_⟩
      rw [List.filterMap_append, offeredToo]
      exact offered.symm

/-- Waiting for a loop that winds up ends, and properly. -/
theorem ShutDown.join (shutDown : s.ShutDown) (phase : s.Phase) :
    s.join.1 = .ok () ∧ s.join.2.state = .stopped ∧
      ∃ calls states, WindsUp s s.join.2 calls states ∧
        calls.filterMap Request.offers? = s.remaining.map (·.id.text) := by
  obtain ⟨still, phased, ended, works⟩ := shutDown.joins s.joinBound phase
    (Nat.le_trans s.settlementsLeft_le_stepsLeft s.stepsLeft_le_joinBound)
  have stopped : (s.joinWithin s.joinBound).state = .stopped := by
    rcases still with stopped | ⟨loop, running, _⟩
    · exact stopped
    · cases ended.symm.trans running
  have whole : (s.joinWithin s.joinBound).broken = false := by
    cases phased with
    | broken ticks entered =>
      rw [state, entered] at stopped
      cases stopped
    | idle _ _ whole | waiting _ _ _ _ whole | stopped _ _ _ _ whole => exact whole
    | processing _ _ _ _ _ whole => exact whole
  refine ⟨?_, stopped, works⟩
  simp only [Scheduler.join, whole]
  rfl

theorem Phase.loop_none (phase : s.Phase) (stopped : s.state = .stopped) :
    s.loop = none ∧ s.entered ≠ [] := by
  constructor
  · cases running : s.loop with
    | none => rfl
    | some loop => exact absurd stopped (phase.state_ne_stopped running)
  · intro fresh
    rw [state, fresh] at stopped
    cases stopped

/-- A loop that is over stays so, and makes no call. -/
theorem ended_moved (ended : s.loop = none) (begun : s.entered ≠ []) (move : Move) :
    (s.moved move).loop = none ∧ (s.moved move).journal = s.journal ∧
      (s.moved move).entered = s.entered := by
  cases s.moved_advanced move with
  | aside same _ => exact ⟨same.loop_none.mpr ended, same.journal, same.entered⟩
  | launch _ fresh _ => exact absurd fresh begun
  | step polled _ =>
    have rests : s.loopStep = s := by rw [loopStep, ended]
    rw [polled, Scheduler.moved, rests]
    exact ⟨ended, rfl, rfl⟩

theorem ended_after (ended : s.loop = none) (begun : s.entered ≠ []) (moves : List Move) :
    (s.after moves).journal = s.journal ∧ (s.after moves).entered = s.entered := by
  induction moves generalizing s with
  | nil => exact ⟨rfl, rfl⟩
  | cons move rest ih =>
    obtain ⟨still, journal, entered⟩ := ended_moved ended begun move
    obtain ⟨journalToo, enteredToo⟩ := ih still (by rw [entered]; exact begun)
    exact ⟨journalToo.trans journal, enteredToo.trans entered⟩

theorem Stepped.started (step : s.Stepped t) : t.started = s.started := by
  cases step <;> rfl

/-- With a positive period, the first call of a run is let in. -/
theorem moved_started (s : Scheduler) (move : Move) :
    (s.moved move).started = true ↔
      s.started = true ∨ 0 < s.config.period.nanos ∧ .call = move := by
  cases move with
  | call =>
    rw [Scheduler.moved, letIn]
    by_cases zero : s.config.period.nanos = 0
    · simp [zero]
    · rw [if_neg zero]
      cases started : s.started <;> simp [started, Nat.pos_of_ne_zero zero]
  | launch shutdown =>
    rw [Scheduler.moved]
    split
    · rcases s.launch_cases shutdown with same | ⟨ticker, _, launched⟩
      · rw [same]
        simp
      · rw [launched]
        simp [enter]
    · simp
  | poll =>
    rw [Scheduler.moved, s.loopStep_stepped.started]
    simp
  | shutDown | pass _ | setClock _ | write _ _ => simp [Scheduler.moved, Scheduler.shutDown]

theorem after_started (s : Scheduler) (moves : List Move) :
    (s.after moves).started = true ↔
      s.started = true ∨ 0 < s.config.period.nanos ∧ .call ∈ moves := by
  induction moves generalizing s with
  | nil => simp [Scheduler.after]
  | cons move rest ih =>
    rw [show s.after (move :: rest) = (s.moved move).after rest from rfl, ih, s.moved_config move,
      s.moved_started move, List.mem_cons, or_assoc, ← and_or_left]

theorem Phase.fresh (phase : s.Phase) (fresh : s.started = false) :
    s.entered = [] ∧ s.loop = none := by
  have contrary (started : s.started = true) : False := by
    rw [fresh] at started
    cases started
  cases phase with
  | idle entered quiet => exact ⟨entered, Option.map_eq_none_iff.mp quiet⟩
  | waiting _ _ started | stopped _ _ started | broken _ _ started => exact (contrary started).elim
  | processing _ _ _ started => exact (contrary started).elim

/-- Whatever has happened to a scheduler, the states that it has set begin a life. The first call of
a run is let in and no other is, and one that is refused leaves everything as it is. Once a shutdown
is in, no tick begins, and the events that the tick in progress has yet to offer are all offered
before the loop stops. After that it makes no call and sets no state. With a period of zero no run
is let in. -/
theorem run_lifecycle (config : SchedulerConfig) (clock : Clock) (services : Services)
    (plan : Plan) (now : Nat) (journal : List (Nat × Request)) (past : List Move) :
    let t := ({ config, clock, services, plan, now, journal } : Scheduler).after past
    (∃ ticks, t.states <+: life ticks) ∧
      (config.period.nanos = 0 →
        t.states = [.idle] ∧
          ∀ shutdown, t.accept shutdown = (.error (.refused .invalidPeriod), t)) ∧
      (0 < config.period.nanos →
        (.call ∉ past → ∀ shutdown ticker, Ticker.start? t.now config.period = some ticker →
          t.accept shutdown =
            (.ok (),
              { t with
                started := true
                entered := [.waitingForTick]
                loop := some { ticker, shutdown } })) ∧
          (.call ∈ past → ∀ shutdown, t.accept shutdown =
            (.error (.refused (if t.state = .stopped then .stopped else .alreadyStarted)), t))) ∧
      (t.ShutDown →
        (∀ future, ∃ calls states, WindsUp t (t.after future) calls states) ∧
          t.join.1 = .ok () ∧ t.join.2.state = .stopped ∧
          ∃ calls states, WindsUp t t.join.2 calls states ∧
            calls.filterMap Request.offers? = t.remaining.map (·.id.text)) ∧
      (t.state = .stopped → ∀ future,
        (t.after future).asked = t.asked ∧ (t.after future).states = t.states) := by
  intro t
  have phase : t.Phase := (Phase.idle rfl rfl rfl).after past
  have same : t.config = config := after_config _ past
  have begun : t.started = true ↔ 0 < config.period.nanos ∧ .call ∈ past :=
    (after_started _ past).trans (or_iff_right Bool.false_ne_true)
  refine ⟨phase.states, ?_, ?_, ?_, ?_⟩
  · intro zero
    have fresh : t.started = false := by
      rw [Bool.eq_false_iff]
      intro started
      exact Nat.ne_of_gt (begun.mp started).1 zero
    refine ⟨by rw [Scheduler.states, (phase.fresh fresh).1]; rfl, fun shutdown => ?_⟩
    rw [accept, if_pos (by rw [same]; exact zero)]
  · intro positive
    have nonzero : ¬t.config.period.nanos = 0 := by
      rw [same]
      exact Nat.ne_of_gt positive
    constructor
    · intro first shutdown ticker starts
      have fresh : t.started = false := by
        rw [Bool.eq_false_iff]
        exact fun started => first (begun.mp started).2
      have accepts := accept_fresh (by rw [same]; exact positive) fresh
        (by rw [same]; exact starts) shutdown
      rw [accepts]
      simp only [enter, (phase.fresh fresh).1]
    · intro called shutdown
      have started : t.started = true := begun.mpr ⟨positive, called⟩
      rw [accept, if_neg nonzero, if_pos started]
  · intro shutDown
    exact ⟨fun future => (shutDown.after phase future).2, shutDown.join phase⟩
  · intro stopped future
    obtain ⟨ended, begun⟩ := phase.loop_none stopped
    obtain ⟨journal, entered⟩ := ended_after ended begun future
    exact ⟨by rw [asked, asked, journal], by rw [Scheduler.states, Scheduler.states, entered]⟩

end Scheduler

end Datebook
