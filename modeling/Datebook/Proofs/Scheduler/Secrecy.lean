import Datebook.Fixture
import Datebook.Proofs.Scheduler.Course
import Datebook.Proofs.Store.Redaction
import Mathlib.Data.List.Forall2

/-!
Password hashes stay where they are.

Of a store the scheduler sees only the events and the addresses of users. A change that leaves these
alone, `Unseen`, can be made before or after anything that the scheduler does: `tick_mapStore`,
`moved_mapStore`. Taking the password hashes away is such a change, and calls do not see it either.
Main statement: two histories that differ in password hashes alone show the same, but for the hashes
of the users that are asked for, `System.play_hides_passwords`.
-/

set_option autoImplicit false

namespace Datebook

/-- A change of stores that leaves events and addresses alone. -/
structure Unseen (f : Store → Store) : Prop where
  events : ∀ store, (f store).events = store.events
  emails : ∀ store owner, ((f store).users.get? owner).map (·.email) =
    (store.users.get? owner).map (·.email)

theorem unseen_redacted : Unseen Store.redacted where
  events _ := rfl
  emails store owner := by
    rw [Store.get?_users_redacted, Option.map_map]
    rfl

variable {f : Store → Store}

namespace Services

variable (services : Services)

/-- Services with another store. -/
def mapStore (f : Store → Store) : Services :=
  { services with store := f services.store }

theorem lookup_mapStore (unseen : Unseen f) (verdict : Verdict) (owner : String) :
    (services.mapStore f).lookup verdict owner = services.lookup verdict owner := by
  cases verdict with
  | answered => exact unseen.emails services.store owner
  | failed | late => rfl

theorem list_mapStore (unseen : Unseen f) (verdict : Verdict) (start stop : Instant) :
    (services.mapStore f).list verdict start stop = services.list verdict start stop := by
  cases verdict with
  | answered =>
    simp only [list, mapStore, Store.listDue, unseen.events]
  | failed | late => rfl

end Services

theorem Tick.settle_mapStore (unseen : Unseen f) (config : SchedulerConfig) (verdict : Verdict)
    (tick : Tick) (services : Services) :
    tick.settle config verdict (services.mapStore f) =
      ((tick.settle config verdict services).1,
        (tick.settle config verdict services).2.mapStore f) := by
  obtain ⟨report, stage⟩ := tick
  cases stage with
  | listing =>
    simp only [settle, services.list_mapStore unseen]
  | lookup event rest =>
    simp only [settle, services.lookup_mapStore unseen]
  | publish event email rest => cases verdict <;> rfl
  | finished => rfl

namespace Scheduler

variable (s : Scheduler)

/-- A scheduler with another store. -/
def mapStore (f : Store → Store) : Scheduler :=
  { s with services := s.services.mapStore f }

theorem now_mapStore : (s.mapStore f).now = s.now :=
  rfl

theorem loop_mapStore : (s.mapStore f).loop = s.loop :=
  rfl

theorem openTick_mapStore : (s.mapStore f).openTick = (s.openTick.1, s.openTick.2.mapStore f) :=
  rfl

theorem dispatch_mapStore (tick : Tick) (request : Request) :
    (s.mapStore f).dispatch tick request =
      ((s.dispatch tick request).1, (s.dispatch tick request).2.mapStore f) :=
  rfl

theorem settle_mapStore (unseen : Unseen f) (pending : Pending) :
    (s.mapStore f).settle pending = ((s.settle pending).1, (s.settle pending).2.mapStore f) := by
  have same := pending.tick.settle_mapStore unseen s.config pending.verdict s.services
  simp only [settle, mapStore, same]

theorem resume_mapStore (loop : Loop) (tick : Tick) :
    (s.mapStore f).resume loop tick = (s.resume loop tick).mapStore f := by
  rw [resume, resume]
  cases tick.request? <;> rfl

theorem loopStep_mapStore (unseen : Unseen f) :
    (s.mapStore f).loopStep = s.loopStep.mapStore f := by
  cases running : s.loop with
  | none => simp only [loopStep, loop_mapStore, running]
  | some loop =>
    cases busy : loop.pending with
    | some pending =>
      simp only [loopStep, loop_mapStore, now_mapStore, running, busy, settle_mapStore s unseen,
        resume_mapStore]
      split <;> rfl
    | none =>
      simp only [loopStep, loop_mapStore, now_mapStore, running, busy]
      split
      · rfl
      · split
        · have opened : ((s.mapStore f).enter .processing).openTick =
            ((s.enter .processing).openTick.1, (s.enter .processing).openTick.2.mapStore f) := rfl
          rw [opened]
          cases (s.enter .processing).openTick with
          | mk tick next =>
            cases tick with
            | some tick => exact resume_mapStore next _ tick
            | none => rfl
        · rfl

theorem advanceWithin_mapStore (unseen : Unseen f) (target steps : Nat) :
    (s.mapStore f).advanceWithin target steps = (s.advanceWithin target steps).mapStore f := by
  induction steps generalizing s with
  | zero => rfl
  | succ steps ih =>
    have next : (s.mapStore f).nextDue? = s.nextDue? := rfl
    rw [advanceWithin, advanceWithin, next]
    cases s.nextDue? with
    | none => rfl
    | some due =>
      dsimp only
      split
      · have moment : ({ s.mapStore f with now := due } : Scheduler) =
          ({ s with now := due } : Scheduler).mapStore f := rfl
        rw [moment, loopStep_mapStore _ unseen, ih]
      · rfl

theorem advanceTo_mapStore (unseen : Unseen f) (target : Nat) :
    (s.mapStore f).advanceTo target = (s.advanceTo target).mapStore f := by
  have bound : (s.mapStore f).stepBound target = s.stepBound target := by
    simp only [stepBound, stepsLeft, mapStore, Services.mapStore, Store.eventCount, unseen.events]
  rw [advanceTo, advanceTo, bound, advanceWithin_mapStore s unseen]

theorem callStep_mapStore (unseen : Unseen f) (tick : Tick) :
    (s.mapStore f).callStep tick = ((s.callStep tick).1, (s.callStep tick).2.mapStore f) := by
  rw [callStep, callStep]
  cases tick.request? with
  | none => rfl
  | some request =>
    simp only [dispatch_mapStore, advanceTo_mapStore _ unseen, settle_mapStore _ unseen]

theorem callSteps_mapStore (unseen : Unseen f) (calls : Nat) (tick : Tick) :
    (s.mapStore f).callSteps calls tick =
      ((s.callSteps calls tick).1, (s.callSteps calls tick).2.mapStore f) := by
  induction calls generalizing s tick with
  | zero => rfl
  | succ calls ih => simp only [callSteps, callStep_mapStore _ unseen, ih]

/-- A tick outside the loop does not see such a change, nor does what happens meanwhile. -/
theorem tick_mapStore (unseen : Unseen f) :
    (s.mapStore f).tick = (s.tick.1, s.tick.2.mapStore f) := by
  rw [tick, tick, openTick_mapStore]
  cases s.openTick with
  | mk opened next =>
    cases opened with
    | none => rfl
    | some tick =>
      simp only [callStep_mapStore _ unseen, callSteps_mapStore _ unseen]
      rfl

end Scheduler

/-- The answer to a move that is a call. -/
def Scheduler.moveAnswer (s : Scheduler) : Move → Except RunError Unit
  | .call => s.letIn.1
  | .launch shutdown => (s.launch shutdown).1
  | .shutDown | .poll | .pass _ | .setClock _ | .write _ _ => .ok ()

/-- A move with no password hash in it. -/
def Move.redacted : Move → Move
  | .write store queue => .write store.redacted queue
  | move => move

namespace Scheduler

variable (s : Scheduler)

def redacted : Scheduler :=
  s.mapStore Store.redacted

theorem letIn_mapStore :
    (s.mapStore f).letIn = (s.letIn.1, s.letIn.2.mapStore f) := by
  have state : (s.mapStore f).state = s.state := rfl
  rw [letIn, letIn, state]
  show (if s.config.period.nanos = 0 then _ else if s.started then _ else _) = _
  split
  · rfl
  · split <;> rfl

theorem launch_mapStore (shutdown : Bool) :
    (s.mapStore f).launch shutdown =
      ((s.launch shutdown).1, (s.launch shutdown).2.mapStore f) := by
  have config : (s.mapStore f).config = s.config := rfl
  rw [launch, launch, now_mapStore, config]
  cases Ticker.start? s.now s.config.period <;> rfl

theorem moveAnswer_redacted (move : Move) :
    s.redacted.moveAnswer move.redacted = s.moveAnswer move := by
  cases move with
  | call =>
    show s.redacted.letIn.1 = s.letIn.1
    rw [redacted, letIn_mapStore]
  | launch shutdown =>
    show (s.redacted.launch shutdown).1 = (s.launch shutdown).1
    rw [redacted, launch_mapStore]
  | _ => rfl

theorem moved_redacted (move : Move) :
    s.redacted.moved move.redacted = (s.moved move).redacted := by
  cases move with
  | call => exact congrArg Prod.snd s.letIn_mapStore
  | launch shutdown =>
    show (if s.started ∧ s.entered = [] then (s.redacted.launch shutdown).2 else s.redacted) =
      (if s.started ∧ s.entered = [] then (s.launch shutdown).2 else s).redacted
    split
    · exact congrArg Prod.snd (s.launch_mapStore shutdown)
    · rfl
  | poll => exact s.loopStep_mapStore unseen_redacted
  | _ => rfl

end Scheduler

/-- A scheduler and its store, with ticks outside the loop that wait for a call to end. -/
structure System where
  scheduler : Scheduler
  outside : Nat → Option Pending := fun _ => none

/-- What is done to a system. -/
inductive Deed where
  /-- A call of the store, with the identifier for the event that it may create. -/
  | perform (fresh : EventId) (call : Call)
  | move (move : Move)
  /-- A tick outside the loop that nobody else interrupts. -/
  | tick
  /-- A tick outside the loop begins. -/
  | openTick (number : Nat)
  /-- A call of a tick outside the loop ends. -/
  | endCall (number : Nat)

/-- What a deed shows. -/
inductive Sight where
  | answer (outcome : Except StorageError Answer)
  | run (outcome : Except RunError Unit)
  | report (report : Option TickReport)
  /-- A tick goes on. -/
  | pending

/-- A deed with no password hash in it. -/
def Deed.redacted : Deed → Deed
  | .perform fresh call => .perform fresh call.redacted
  | .move made => .move made.redacted
  | deed => deed

namespace Sight

/-- What a deed shows, with no password hash in it. -/
def redacted : Sight → Sight
  | .answer outcome => .answer (outcome.map Answer.redacted)
  | sight => sight

/-- The same sight, but for the password hash of a user. -/
inductive Alike : Sight → Sight → Prop
  | same (sight : Sight) : Alike sight sight
  | user {user other : User} (name : user.name = other.name) (email : user.email = other.email)
    (role : user.role = other.role) (describe : user.describe = other.describe) :
    Alike (.answer (.ok (.user user))) (.answer (.ok (.user other)))

end Sight

namespace System

def redacted (system : System) : System :=
  { system with scheduler := system.scheduler.redacted }

/-- A tick outside the loop makes its next call or is over. -/
def goOn (system : System) (number : Nat) (tick : Tick) : Sight × System :=
  let wait (pending : Option Pending) (scheduler : Scheduler) : System :=
    { scheduler
      outside := fun other => if other = number then pending else system.outside other }
  match tick.request? with
  | some request =>
    let (pending, scheduler) := system.scheduler.dispatch tick request
    (.pending, wait (some pending) scheduler)
  | none => (.report (some tick.report), wait none system.scheduler)

def act (system : System) : Deed → Sight × System
  | .perform fresh call =>
    let s := system.scheduler
    let (answer, store) := Store.storage.perform fresh call s.services.store
    (.answer answer,
      { system with scheduler := { s with services := { s.services with store } } })
  | .move move =>
    (.run (system.scheduler.moveAnswer move),
      { system with scheduler := system.scheduler.moved move })
  | .tick =>
    let (report, scheduler) := system.scheduler.tick
    (.report report, { system with scheduler })
  | .openTick number =>
    match system.scheduler.openTick with
    | (some tick, scheduler) => ({ system with scheduler } : System).goOn number tick
    | (none, scheduler) => (.report none, { system with scheduler })
  | .endCall number =>
    match system.outside number with
    | some pending =>
      let (tick, scheduler) := system.scheduler.settle pending
      ({ system with scheduler } : System).goOn number tick
    | none => (.report none, system)

/-- Deeds in order. -/
def play (system : System) : List Deed → List Sight × System
  | [] => ([], system)
  | deed :: rest =>
    let (sight, system) := system.act deed
    let (sights, system) := system.play rest
    (sight :: sights, system)

theorem goOn_redacted (system : System) (number : Nat) (tick : Tick) :
    system.redacted.goOn number tick =
      ((system.goOn number tick).1.redacted, (system.goOn number tick).2.redacted) := by
  rw [goOn, goOn]
  cases tick.request? <;> rfl

/-- What is done without password hashes shows the same without them. -/
theorem act_redacted (system : System) (deed : Deed) :
    system.redacted.act deed.redacted =
      ((system.act deed).1.redacted, (system.act deed).2.redacted) := by
  obtain ⟨s, outside⟩ := system
  cases deed with
  | perform fresh call =>
    have performed : Store.storage.perform fresh call.redacted s.redacted.services.store = _ :=
      s.services.store.perform_redacted fresh call
    simp only [act, redacted, Deed.redacted, performed]
    rfl
  | move move =>
    simp only [act, redacted, Deed.redacted, s.moveAnswer_redacted, s.moved_redacted]
    rfl
  | tick =>
    have ticked : s.redacted.tick = _ := s.tick_mapStore unseen_redacted
    simp only [act, redacted, Deed.redacted, ticked]
    rfl
  | openTick number =>
    have opened : s.redacted.openTick = (s.openTick.1, s.openTick.2.redacted) := rfl
    simp only [act, redacted, Deed.redacted, opened]
    cases s.openTick with
    | mk tick next =>
      cases tick with
      | none => rfl
      | some tick => exact goOn_redacted ⟨next, outside⟩ number tick
  | endCall number =>
    simp only [act, redacted, Deed.redacted]
    cases outside number with
    | none => rfl
    | some pending =>
      have settled : s.redacted.settle pending = _ := s.settle_mapStore unseen_redacted pending
      simp only [settled]
      exact goOn_redacted ⟨(s.settle pending).2, outside⟩ number _

theorem play_redacted (system : System) (deeds : List Deed) :
    system.redacted.play (deeds.map Deed.redacted) =
      ((system.play deeds).1.map Sight.redacted, (system.play deeds).2.redacted) := by
  induction deeds generalizing system with
  | nil => rfl
  | cons deed rest ih => simp only [List.map_cons, play, act_redacted, ih]

end System

/-- Sights that are the same without password hashes differ in those of users at most. -/
theorem Sight.alike_of_redacted {sight other : Sight} (same : sight.redacted = other.redacted) :
    Alike sight other := by
  cases sight with
  | answer outcome =>
    cases other with
    | answer outcomeToo =>
      rcases Answer.eq_or_users (Sight.answer.inj same) with rfl | ⟨user, another, rfl, rfl, alike⟩
      · exact .same _
      · have name := congrArg User.name alike
        have email := congrArg User.email alike
        have role := congrArg User.role alike
        have describe : user.describe = another.describe := by
          rw [← user.describe_redacted, alike, another.describe_redacted]
        exact .user name email role describe
    | _ => cases same
  | run | report | pending =>
    cases other <;> cases same
    exact .same _

/-- Two systems that differ in password hashes alone, to which the same is done but for password
hashes, show the same but for the hashes of the users that are asked for, and describe these users
alike. They publish the same, make the same calls, go through the same states and come to the same
tick of the loop. -/
theorem System.play_hides_passwords {system other : System} {deeds others : List Deed}
    (alike : system.redacted = other.redacted)
    (same : deeds.map Deed.redacted = others.map Deed.redacted) :
    List.Forall₂ Sight.Alike (system.play deeds).1 (other.play others).1 ∧
      let s := (system.play deeds).2.scheduler
      let t := (other.play others).2.scheduler
      s.services.queue = t.services.queue ∧ s.services.tally = t.services.tally ∧
        s.journal = t.journal ∧ s.entered = t.entered ∧ s.loop = t.loop := by
  have played := system.play_redacted deeds
  rw [alike, same, other.play_redacted others] at played
  obtain ⟨sights, systems⟩ := Prod.mk.inj played
  have schedulers := congrArg System.scheduler systems
  refine ⟨?_, ?_, ?_, ?_, ?_, ?_⟩
  · have pairwise : List.Forall₂ (· = ·) ((system.play deeds).1.map Sight.redacted)
        ((other.play others).1.map Sight.redacted) :=
      List.forall₂_eq_eq_eq ▸ sights.symm
    exact (List.forall₂_map_right_iff.mp (List.forall₂_map_left_iff.mp pairwise)).imp
      fun _ _ => Sight.alike_of_redacted
  · exact (congrArg (·.services.queue) schedulers).symm
  · exact (congrArg (·.services.tally) schedulers).symm
  · exact (congrArg (·.journal) schedulers).symm
  · exact (congrArg (·.entered) schedulers).symm
  · exact (congrArg (·.loop) schedulers).symm

/-- Alice has one password hash or another, is asked for, and is reminded of her call. -/
theorem System.play_hides_passwords_reminded :
    let system : System :=
      { scheduler :=
          { config := .standard
            clock := .manual (Fixture.moment 8 45)
            services := { store := .empty, queue := { topic := "reminders" } } } }
    let deeds (hash : String) : List Deed :=
      [.perform (.ofNat 0) (.createUser { Fixture.user "alice" with hashedPassword := hash }),
        .perform (.ofNat 1) (.createEvent "alice" ⟨"call", none, Fixture.moment 9 0,
          Fixture.moment 10 0, Duration.ofNanos? 900000000000⟩),
        .perform (.ofNat 2) (.getUser "alice"), .tick]
    (deeds "one").map Deed.redacted = (deeds "other").map Deed.redacted ∧
      List.Forall₂ Sight.Alike (system.play (deeds "one")).1 (system.play (deeds "other")).1 ∧
      (system.play (deeds "one")).2.scheduler.services.queue =
        (system.play (deeds "other")).2.scheduler.services.queue ∧
      (system.play (deeds "one")).2.scheduler.services.queue.size = 1 := by
  intro system deeds
  have same : (deeds "one").map Deed.redacted = (deeds "other").map Deed.redacted := rfl
  have reminded : (system.play (deeds "one")).2.scheduler.services.queue.size = 1 := by
    decide +kernel
  obtain ⟨sights, queue, -⟩ := System.play_hides_passwords (rfl : system.redacted = _) same
  exact ⟨same, sights, queue, reminded⟩

end Datebook
