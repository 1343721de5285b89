import Datebook.Fixture
import Datebook.Store.Storage

/-!
The storage contract.

A check exercises a backend and fails at the first expectation that does not hold; what it has done
to the backend until then stays done. Every check works on users of its own, named after
identifiers drawn from a supply, and removes them at its end. `Contract.all` runs the thirteen
checks in sequence.
-/

set_option autoImplicit false

namespace Datebook

/-- Why a check failed. -/
inductive Violation where
  /-- A call that should succeed failed. -/
  | refused (cause : StorageError)
  /-- An expectation did not hold. -/
  | unmet (expectation : String)
  deriving DecidableEq, Repr

/-- What checks run against: a backend and a supply of identifiers. -/
structure Bench (σ : Type) where
  storage : Storage σ
  draw : Nat → EventId

/-- The state of the backend, and how many identifiers have been drawn. -/
structure Progress (σ : Type) where
  state : σ
  drawn : Nat := 0

/-- A step of a check. -/
abbrev Check (σ α : Type) := ExceptT Violation (StateM (Progress σ)) α

namespace Check

variable {σ α : Type}

def expect (expectation : String) (holds : Bool) : Check σ Unit :=
  if holds then pure () else throw (.unmet expectation)

/-- The outcome of an operation, whatever it is. -/
def attempt (operation : σ → Except StorageError α × σ) : Check σ (Except StorageError α) := do
  let progress ← get
  let (outcome, next) := operation progress.state
  set { progress with state := next }
  pure outcome

/-- The result of an operation that must succeed. -/
def demand (operation : σ → Except StorageError α × σ) : Check σ α := do
  match ← attempt operation with
  | .ok result => pure result
  | .error cause => throw (.refused cause)

/-- An operation that must fail in a certain way. -/
def refuse (expectation : String) (cause : StorageError)
    (operation : σ → Except StorageError α × σ) : Check σ Unit := do
  match ← attempt operation with
  | .ok _ => throw (.unmet expectation)
  | .error found => expect expectation (found = cause)

end Check

namespace Bench

variable {σ : Type}

def drawId (bench : Bench σ) : Check σ EventId := do
  let progress ← get
  set { progress with drawn := progress.drawn + 1 }
  pure (bench.draw progress.drawn)

def drawName (bench : Bench σ) (label : String) : Check σ String := do
  pure (Fixture.uniqueName label (← bench.drawId))

/-- A new user of a drawn name; gives the name. -/
def enrol (bench : Bench σ) (label : String) : Check σ String := do
  let name ← bench.drawName label
  Check.demand (bench.storage.createUser (Fixture.user name))
  pure name

def create (bench : Bench σ) (owner : String) (fields : EventFields) :
    Check σ (Except StorageError EventId) := do
  let fresh ← bench.drawId
  Check.attempt (bench.storage.createEvent fresh owner fields)

def book (bench : Bench σ) (owner : String) (fields : EventFields) : Check σ EventId := do
  let fresh ← bench.drawId
  Check.demand (bench.storage.createEvent fresh owner fields)

def fetch (bench : Bench σ) (owner : String) (id : EventId) : Check σ Event :=
  Check.demand (bench.storage.getEvent owner id)

def list (bench : Bench σ) (owner : String) (start stop : Instant) : Check σ (List Event) :=
  Check.demand (bench.storage.listEvents owner start stop)

def listWholeDay (bench : Bench σ) (owner : String) : Check σ (List Event) :=
  bench.list owner (Fixture.moment 0 0) (Fixture.moment 23 59)

def dismiss (bench : Bench σ) (name : String) : Check σ Unit :=
  Check.demand (bench.storage.deleteUser name)

end Bench

namespace Contract

open Check Fixture

variable {σ : Type} (bench : Bench σ)

/-- Creates, reads, duplicates, deletes and deletes again a user. -/
def userLifecycle : Check σ Unit := do
  let name ← bench.drawName "carol"
  let carol := Fixture.user name
  demand (bench.storage.createUser carol)
  let found ← demand (bench.storage.getUser name)
  expect "a stored user is returned" (found = carol)
  refuse "a name is given once" (.userExists name) (bench.storage.createUser carol)
  demand (bench.storage.deleteUser name)
  refuse "a deleted user is gone" (.userNotFound name) (bench.storage.getUser name)
  refuse "a user is deleted once" (.userNotFound name) (bench.storage.deleteUser name)

/-- Creates, reads, updates and deletes one event. -/
def eventLifecycle : Check σ Unit := do
  let owner ← bench.enrol "dave"
  let fields : EventFields :=
    { slot "planning" (moment 9 0) 60 with
      description := some "quarterly"
      lead := some (Duration.ofSecs 900) }
  let id ← bench.book owner fields
  let stored ← bench.fetch owner id
  expect "an event keeps its identifier" (stored.id = id)
  expect "an event keeps its owner" (stored.owner = owner)
  expect "an event keeps its fields" (stored.fields = fields)
  demand (bench.storage.updateEvent owner id (slot "planning (moved)" (moment 14 0) 30))
  let moved ← bench.fetch owner id
  expect "an update replaces the title" (moved.fields.title = "planning (moved)")
  expect "an update moves the start" (moved.start = moment 14 0)
  expect "an update removes the description" (moved.fields.description = none)
  expect "an update removes the lead time" (moved.fields.lead = none)
  demand (bench.storage.deleteEvent owner id)
  refuse "a deleted event is gone" (.eventNotFound id) (bench.storage.getEvent owner id)
  refuse "an event is deleted once" (.eventNotFound id) (bench.storage.deleteEvent owner id)
  refuse "a deleted event is not updated" (.eventNotFound id)
    (bench.storage.updateEvent owner id (slot "ghost" (moment 16 0) 30))
  bench.dismiss owner

/-- Overlap is refused per owner, and touching intervals are accepted. -/
def overlappingCreateIsRejected : Check σ Unit := do
  let alice ← bench.enrol "alice"
  let bob ← bench.enrol "bob"
  let _ ← bench.book alice (slot "standup" (moment 10 0) 60)
  match ← bench.create alice (slot "clash" (moment 10 30) 60) with
  | .error .dateBusy => pure ()
  | _ => throw (.unmet "an overlapping event is refused")
  let _ ← bench.book alice (slot "after" (moment 11 0) 60)
  let _ ← bench.book bob (slot "same slot, other owner" (moment 10 0) 60)
  let events ← bench.listWholeDay alice
  expect "two events are stored" (events.length = 2)
  expect "the refused event is not stored" (events.all fun event => event.fields.title ≠ "clash")
  bench.dismiss alice
  bench.dismiss bob

/-- An updated event may overlap its own former interval, but no other event of its owner. -/
def updateChecksOnlyOtherEvents : Check σ Unit := do
  let owner ← bench.enrol "erin"
  let first ← bench.book owner (slot "first" (moment 9 0) 60)
  let second ← bench.book owner (slot "second" (moment 11 0) 60)
  demand (bench.storage.updateEvent owner first (slot "first (longer)" (moment 9 0) 90))
  refuse "a colliding update is refused" .dateBusy
    (bench.storage.updateEvent owner first (slot "first (collides)" (moment 10 30) 60))
  let unchanged ← bench.fetch owner first
  expect "a refused update keeps the title" (unchanged.fields.title = "first (longer)")
  expect "a refused update keeps the stop" (unchanged.fields.stop = moment 10 30)
  let untouched ← bench.fetch owner second
  expect "the other event is kept" (untouched.fields.title = "second")
  bench.dismiss owner

/-- An event of another user behaves like a missing one. -/
def foreignEventsAreInvisible : Check σ Unit := do
  let alice ← bench.enrol "alice"
  let mallory ← bench.enrol "mallory"
  let id ← bench.book alice (slot "private" (moment 13 0) 60)
  refuse "a foreign event is not read" (.eventNotFound id) (bench.storage.getEvent mallory id)
  refuse "a foreign event is not updated" (.eventNotFound id)
    (bench.storage.updateEvent mallory id (slot "hijack" (moment 13 0) 60))
  refuse "a foreign event is not deleted" (.eventNotFound id)
    (bench.storage.deleteEvent mallory id)
  let event ← bench.fetch alice id
  expect "the owner still has the event" (event.fields.title = "private")
  bench.dismiss alice
  bench.dismiss mallory

/-- An event needs an existing owner. -/
def createForUnknownOwnerFails : Check σ Unit := do
  let ghost ← bench.drawName "ghost"
  match ← bench.create ghost (slot "nobody home" (moment 8 0) 30) with
  | .ok _ => throw (.unmet "an event needs an owner")
  | .error cause => expect "an event needs an owner" (cause = .userNotFound ghost)
  let listed ← bench.listWholeDay ghost
  expect "an unknown owner has no events" listed.isEmpty
  let missing ← bench.drawId
  refuse "an unknown event is not found" (.eventNotFound missing)
    (bench.storage.getEvent ghost missing)

/-- A listing keeps the events that overlap its window, the latest start first. -/
def listFiltersAndOrders : Check σ Unit := do
  let owner ← bench.enrol "frank"
  for (title, hour) in [("early", 7), ("morning", 9), ("noon", 12), ("evening", 18)] do
    let _ ← bench.book owner (slot title (moment hour 0) 60)
  let listed ← bench.list owner (moment 9 30) (moment 12 30)
  expect "the overlapping events are listed, the latest first"
    (listed.map (·.fields.title) = ["noon", "morning"])
  let touching ← bench.list owner (moment 10 0) (moment 12 0)
  expect "touching events are not listed" touching.isEmpty
  bench.dismiss owner

/-- Whether the starts of events never fall. -/
def startsAscend : List Event → Bool
  | first :: second :: rest => first.start ≤ second.start && startsAscend (second :: rest)
  | _ => true

/-- The reminder window covers all owners and honours lead times. -/
def notifyWindowSpansOwners : Check σ Unit := do
  let grace ← bench.enrol "grace"
  let heidi ← bench.enrol "heidi"
  let heidiTen ← bench.book heidi (slot "heidi 10:00" (moment 10 0) 30)
  let graceTen ← bench.book grace (slot "grace 10:05" (moment 10 5) 30)
  let graceLead ← bench.book grace
    { slot "grace lead" (moment 10 40) 20 with lead := some (Duration.ofSecs 2100) }
  let _ ← bench.book heidi
    { slot "heidi late" (moment 10 40) 10 with lead := some (Duration.ofSecs 1800) }
  let _ ← bench.book heidi (slot "heidi 09:59" (moment 9 59) 1)
  let due ← demand (bench.storage.listDue (moment 10 0) (moment 10 10))
  let ours := due.filter fun event => event.owner = grace || event.owner = heidi
  expect "the due reminders are listed, the earliest first"
    (ours.map (·.id) = [heidiTen, graceTen, graceLead])
  expect "starts ascend" (startsAscend due)
  bench.dismiss grace
  bench.dismiss heidi

/-- A deleted user takes its events along. -/
def deleteUserCascades : Check σ Unit := do
  let owner ← bench.enrol "ivan"
  let first ← bench.book owner (slot "a" (moment 15 0) 30)
  let second ← bench.book owner (slot "b" (moment 16 0) 30)
  bench.dismiss owner
  for id in [first, second] do
    refuse "the events of a deleted user are gone" (.eventNotFound id)
      (bench.storage.getEvent owner id)
  let due ← demand (bench.storage.listDue (moment 15 0) (moment 16 30))
  expect "no reminder of a deleted user is due" (due.all fun event => event.owner ≠ owner)
  demand (bench.storage.createUser (Fixture.user owner))
  let listed ← bench.listWholeDay owner
  expect "a new account starts empty" listed.isEmpty
  bench.dismiss owner

/-- The outcomes of several creates for one owner, in order. -/
def createAll (owner : String) : List EventFields → Check σ (List (Except StorageError EventId))
  | [] => pure []
  | fields :: rest => do
    let outcome ← bench.create owner fields
    let outcomes ← createAll owner rest
    pure (outcome :: outcomes)

def isBusy : Except StorageError EventId → Bool
  | .error .dateBusy => true
  | _ => false

/-- Of several events that all overlap, one is stored. -/
def concurrentOverlappingCreatesAdmitOne : Check σ Unit := do
  let owner ← bench.enrol "judy"
  let requests := (List.range 8).map fun (i : Nat) =>
    { title := "racer " ++ toString i
      start := (slot "" (moment 11 0) i).stop
      stop := (slot "" (moment 12 1) i).stop : EventFields }
  let outcomes ← createAll bench owner requests
  expect "one create succeeds" ((outcomes.filter Except.isOk).length = 1)
  expect "the other creates find the date busy"
    ((outcomes.filter isBusy).length + 1 = outcomes.length)
  let stored ← bench.listWholeDay owner
  expect "one event is stored" (stored.length = 1)
  bench.dismiss owner

/-- Whether no identifier was given twice. -/
def allDistinct : List EventId → Bool
  | [] => true
  | id :: rest => !rest.contains id && allDistinct rest

/-- Several events that do not overlap are all stored. -/
def concurrentDisjointCreatesAllSucceed : Check σ Unit := do
  let owner ← bench.enrol "kim"
  let requests := (List.range 16).map fun (i : Nat) =>
    slot ("slot " ++ toString i) (slot "" (moment 8 0) (30 * i)).stop 30
  let outcomes ← createAll bench owner requests
  expect "every create succeeds" (outcomes.all Except.isOk)
  expect "identifiers are given once" (allDistinct (outcomes.filterMap Except.toOption))
  let stored ← bench.listWholeDay owner
  expect "every event is stored" (stored.length = 16)
  bench.dismiss owner

/-- One round of an event being moved into an interval that another create claims. -/
def moveAgainstClaim : Check σ Unit := do
  let owner ← bench.enrol "leo"
  let id ← bench.book owner (slot "movable" (moment 9 0) 30)
  let moved ← attempt (bench.storage.updateEvent owner id (slot "moved" (moment 14 0) 60))
  let created ← bench.create owner (slot "claim" (moment 14 30) 60)
  match moved, created with
  | .ok _, .error .dateBusy | .error .dateBusy, .ok _ => pure ()
  | _, _ => throw (.unmet "one of two clashing writes succeeds")
  let afternoon ← bench.list owner (moment 13 0) (moment 17 0)
  expect "one event holds the afternoon" (afternoon.length = 1)
  bench.dismiss owner

/-- Of an update and a create for one interval, one succeeds. -/
def concurrentUpdateAndCreateAdmitOne : Check σ Unit := do
  for _ in List.range 8 do
    moveAgainstClaim bench

/-- Instants and lead times keep whole microseconds only. -/
def subMicrosecondPrecisionIsTruncated : Check σ Unit := do
  let owner ← bench.enrol "mia"
  let later (start : Instant) (nanos : Int) : Instant := (start.add? nanos).getD start
  let id ← bench.book owner
    { title := "precise"
      start := later (moment 10 0) 1500
      stop := moment 11 0
      lead := some (.clamp 90000000500) }
  let event ← bench.fetch owner id
  expect "a start keeps whole microseconds" (event.start = later (moment 10 0) 1000)
  expect "a lead time keeps whole microseconds" (event.fields.lead = some (Duration.ofSecs 90))
  demand (bench.storage.updateEvent owner id
    { title := "precise", start := later (moment 12 0) 999, stop := moment 13 0 })
  let event ← bench.fetch owner id
  expect "an updated start keeps whole microseconds" (event.start = moment 12 0)
  expect "an update removes the lead time" (event.fields.lead = none)
  bench.dismiss owner

/-- The thirteen checks under their names, in the order in which they run. -/
def checks : List (String × (Bench σ → Check σ Unit)) :=
  [("user_lifecycle", userLifecycle),
    ("event_lifecycle", eventLifecycle),
    ("overlapping_create_is_rejected", overlappingCreateIsRejected),
    ("update_checks_only_other_events", updateChecksOnlyOtherEvents),
    ("foreign_events_are_invisible", foreignEventsAreInvisible),
    ("create_for_unknown_owner_fails", createForUnknownOwnerFails),
    ("list_filters_and_orders", listFiltersAndOrders),
    ("notify_window_spans_owners", notifyWindowSpansOwners),
    ("delete_user_cascades", deleteUserCascades),
    ("concurrent_overlapping_creates_admit_one", concurrentOverlappingCreatesAdmitOne),
    ("concurrent_disjoint_creates_all_succeed", concurrentDisjointCreatesAllSucceed),
    ("concurrent_update_and_create_admit_one", concurrentUpdateAndCreateAdmitOne),
    ("sub_microsecond_precision_is_truncated", subMicrosecondPrecisionIsTruncated)]

/-- Runs every check in sequence. -/
def all : Check σ Unit :=
  (checks (σ := σ)).forM fun check => check.2 bench

/-- The check of a name; `run_all` is all of them in sequence. -/
def named? (name : String) : Option (Bench σ → Check σ Unit) :=
  if name = "run_all" then some fun bench => all bench
  else (checks.find? fun check => check.1 = name).map (·.2)

end Contract

/-- The outcome of a check from a state of the backend, and the state that it leaves. -/
def Bench.run {σ : Type} (bench : Bench σ) (check : Bench σ → Check σ Unit) (state : σ) :
    Except Violation Unit × Progress σ :=
  (check bench).run.run { state }

end Datebook
