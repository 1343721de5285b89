import Datebook.Store

/-!
Storage backends.

A `Storage` is what every backend offers over its own state: nine operations that answer and give
the next state. `Call` and `Answer` name the operations and their results, so that a history of
calls is a list; `Storage.perform` carries out one call and `Storage.run` a history.
`Store.storage` is the backend that keeps everything in a `Store`; `Store.perform?` also draws the
identifiers of its events.
-/

set_option autoImplicit false

namespace Datebook

structure Storage (σ : Type) where
  name : String
  createUser : User → σ → Except StorageError Unit × σ
  getUser : String → σ → Except StorageError User × σ
  deleteUser : String → σ → Except StorageError Unit × σ
  /-- Creates an event; the identifier is one that no event has yet. -/
  createEvent : EventId → String → EventFields → σ → Except StorageError EventId × σ
  getEvent : String → EventId → σ → Except StorageError Event × σ
  updateEvent : String → EventId → EventFields → σ → Except StorageError Unit × σ
  deleteEvent : String → EventId → σ → Except StorageError Unit × σ
  listEvents : String → Instant → Instant → σ → Except StorageError (List Event) × σ
  listDue : Instant → Instant → σ → Except StorageError (List Event) × σ
  /-- Closes the backend; what it kept in memory is gone. -/
  close : σ → σ

/-- The backend that keeps everything in memory. -/
def Store.storage : Storage Store where
  name := "memory"
  createUser user store := store.createUser user
  getUser name store := (store.getUser name, store)
  deleteUser name store := store.deleteUser name
  createEvent fresh owner fields store := store.createEvent fresh owner fields
  getEvent owner id store := (store.getEvent owner id, store)
  updateEvent owner id fields store := store.updateEvent owner id fields
  deleteEvent owner id store := store.deleteEvent owner id
  listEvents owner start stop store := (.ok (store.listEvents owner start stop), store)
  listDue start stop store := (.ok (store.listDue start stop), store)
  close _ := .empty

inductive Call where
  | createUser (user : User)
  | getUser (name : String)
  | deleteUser (name : String)
  | createEvent (owner : String) (fields : EventFields)
  | getEvent (owner : String) (id : EventId)
  | updateEvent (owner : String) (id : EventId) (fields : EventFields)
  | deleteEvent (owner : String) (id : EventId)
  | listEvents (owner : String) (start stop : Instant)
  | listDue (start stop : Instant)
  | close
  deriving DecidableEq, Repr

inductive Answer where
  | nothing
  | user (user : User)
  | created (id : EventId)
  | event (event : Event)
  | events (events : List Event)
  deriving DecidableEq, Repr

namespace Storage

variable {σ : Type}

/-- The outcome of an operation as that of a call. -/
def answerWith {α : Type} (wrap : α → Answer) (outcome : Except StorageError α × σ) :
    Except StorageError Answer × σ :=
  (outcome.1.map wrap, outcome.2)

/-- Carries out a call; an event is created under the given identifier. -/
def perform (storage : Storage σ) (fresh : EventId) (call : Call) (state : σ) :
    Except StorageError Answer × σ :=
  match call with
  | .createUser user => answerWith (fun _ => .nothing) (storage.createUser user state)
  | .getUser name => answerWith .user (storage.getUser name state)
  | .deleteUser name => answerWith (fun _ => .nothing) (storage.deleteUser name state)
  | .createEvent owner fields =>
    answerWith .created (storage.createEvent fresh owner fields state)
  | .getEvent owner id => answerWith .event (storage.getEvent owner id state)
  | .updateEvent owner id fields =>
    answerWith (fun _ => .nothing) (storage.updateEvent owner id fields state)
  | .deleteEvent owner id => answerWith (fun _ => .nothing) (storage.deleteEvent owner id state)
  | .listEvents owner start stop =>
    answerWith .events (storage.listEvents owner start stop state)
  | .listDue start stop => answerWith .events (storage.listDue start stop state)
  | .close => (.ok .nothing, storage.close state)

/-- Carries out calls in order, each with the identifier for the event that it may create. -/
def run (storage : Storage σ) :
    List (EventId × Call) → σ → List (Except StorageError Answer) × σ
  | [], state => ([], state)
  | (fresh, call) :: rest, state =>
    let (answer, next) := storage.perform fresh call state
    let (answers, final) := storage.run rest next
    (answer :: answers, final)

end Storage

/-- Carries out a call on a store. An event is created under the first identifier drawn that no event
has; while there is none among them, drawing goes on and there is no outcome yet. -/
def Store.perform? (store : Store) (drawn : List EventId) :
    Call → Option (Except StorageError Answer × Store)
  | .createEvent owner fields =>
    (store.createEvent? drawn owner fields).map (Storage.answerWith .created)
  -- no other call takes an identifier
  | call => some (storage.perform (.ofNat 0) call store)

end Datebook
