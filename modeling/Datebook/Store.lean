import Datebook.Event
import Datebook.Failure
import Datebook.Table
import Datebook.User

/-!
The calendar store.

A `Store` holds users by name and events by identifier. Each operation answers and gives the next
store; one that fails leaves the store as it was. Events are kept in whole microseconds. No two
events of an owner overlap, every event has an owner among the users, and a user leaves with its
events.
-/

set_option autoImplicit false

namespace Datebook

structure Store where
  users : Table String User
  events : Table EventId Event

namespace Store

def empty : Store :=
  ⟨.empty, .empty⟩

def createUser (store : Store) (user : User) : Except StorageError Unit × Store :=
  if store.users.contains user.name then (.error (.userExists user.name), store)
  else (.ok (), { store with users := store.users.insert user.name user })

def getUser (store : Store) (name : String) : Except StorageError User :=
  match store.users.get? name with
  | some user => .ok user
  | none => .error (.userNotFound name)

/-- Removes a user together with the events it owns. -/
def deleteUser (store : Store) (name : String) : Except StorageError Unit × Store :=
  if store.users.contains name then
    (.ok (),
      { users := store.users.erase name
        events := store.events.filter fun _ event => event.owner ≠ name })
  else (.error (.userNotFound name), store)

/-- The event with an identifier, if it belongs to the owner. -/
def owned? (store : Store) (owner : String) (id : EventId) : Option Event :=
  (store.events.get? id).filter fun event => event.owner = owner

/-- Whether an event of the owner, other than those passed over, overlaps an interval. -/
def isBusy (store : Store) (owner : String) (passOver : Event → Bool) (start stop : Instant) :
    Bool :=
  store.events.values.any fun event =>
    !passOver event && event.owner = owner && event.overlaps start stop

/-- Why an event cannot be added, if it cannot. -/
def refusal? (store : Store) (owner : String) (kept : EventFields) : Option StorageError :=
  if !store.users.contains owner then some (.userNotFound owner)
  else if store.isBusy owner (fun _ => false) kept.start kept.stop then some .dateBusy
  else none

def addEvent (store : Store) (id : EventId) (owner : String) (kept : EventFields) : Store :=
  { store with events := store.events.insert id ⟨id, owner, kept⟩ }

/-- The first of the identifiers drawn that no event has. -/
def firstUnused? (store : Store) (drawn : List EventId) : Option EventId :=
  drawn.find? fun id => !store.events.contains id

/-- Adds an event under the first identifier drawn that no event has. While each of them is that of
an event, drawing goes on and there is no outcome yet. -/
def createEvent? (store : Store) (drawn : List EventId) (owner : String) (fields : EventFields) :
    Option (Except StorageError EventId × Store) :=
  let kept := fields.truncated
  match store.refusal? owner kept with
  | some cause => some (.error cause, store)
  | none => (store.firstUnused? drawn).map fun id => (.ok id, store.addEvent id owner kept)

/-- Adds an event under an identifier that no event has yet. -/
def createEvent (store : Store) (fresh : EventId) (owner : String) (fields : EventFields) :
    Except StorageError EventId × Store :=
  let kept := fields.truncated
  match store.refusal? owner kept with
  | some cause => (.error cause, store)
  | none => (.ok fresh, store.addEvent fresh owner kept)

theorem createEvent_eq (store : Store) (fresh : EventId) (owner : String) (fields : EventFields) :
    store.createEvent fresh owner fields =
      if !store.users.contains owner then (.error (.userNotFound owner), store)
      else if store.isBusy owner (fun _ => false) fields.truncated.start fields.truncated.stop then
        (.error .dateBusy, store)
      else (.ok fresh, store.addEvent fresh owner fields.truncated) := by
  rw [createEvent, refusal?]
  by_cases unknown : (!store.users.contains owner) = true
  · rw [if_pos unknown, if_pos unknown]
  · rw [if_neg unknown, if_neg unknown]
    by_cases busy : store.isBusy owner (fun _ => false) fields.truncated.start
        fields.truncated.stop = true
    · rw [if_pos busy, if_pos busy]
    · rw [if_neg busy, if_neg busy]

def getEvent (store : Store) (owner : String) (id : EventId) : Except StorageError Event :=
  match store.owned? owner id with
  | some event => .ok event
  | none => .error (.eventNotFound id)

/-- Replaces the fields of an event; it may overlap its own former interval. -/
def updateEvent (store : Store) (owner : String) (id : EventId) (fields : EventFields) :
    Except StorageError Unit × Store :=
  let kept := fields.truncated
  match store.owned? owner id with
  | none => (.error (.eventNotFound id), store)
  | some event =>
    if store.isBusy owner (fun other => other.id = id) kept.start kept.stop then
      (.error .dateBusy, store)
    else (.ok (), { store with events := store.events.insert id (event.apply kept) })

def deleteEvent (store : Store) (owner : String) (id : EventId) :
    Except StorageError Unit × Store :=
  match store.owned? owner id with
  | none => (.error (.eventNotFound id), store)
  | some _ => (.ok (), { store with events := store.events.erase id })

/-- The events of an owner that overlap a window, the latest start first. -/
def listEvents (store : Store) (owner : String) (start stop : Instant) : List Event :=
  let found :=
    store.events.values.filter fun event => event.owner = owner && event.overlaps start stop
  found.mergeSort fun a b => b.start ≤ a.start

/-- The events of all owners whose reminder is due in a window, the earliest start first. -/
def listDue (store : Store) (start stop : Instant) : List Event :=
  let found := store.events.values.filter fun event => event.dueWithin start stop
  found.mergeSort fun a b => a.start ≤ b.start

def eventCount (store : Store) : Nat :=
  store.events.size

end Store

end Datebook
