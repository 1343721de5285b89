import Datebook.Contract

/-!
Defective backends.

Each `Defect` breaks one promise of the storage contract on top of the sound in-memory backend, so
that the checks can be seen to notice it. `Defect.storage` works on a `Faulty` state: the store and
the names of all users whose creation was ever asked for.
-/

set_option autoImplicit false

namespace Datebook

inductive Defect where
  | none
  | duplicateUserOk
  | loseEmail
  | deleteUserNoop
  | deleteMissingUserOk
  | deleteMissingEventOk
  | closedIntervals
  | globalOverlap
  | dropLead
  | roundUpMicros
  | unknownOwnerOk
  | busyAsBackend
  | busyAsOk
  | foreignReadable
  | foreignWritable
  | updateConflictsWithSelf
  | updateKeepsDescription
  | updateNoop
  | listAscending
  | listContainedOnly
  | listUnknownOwnerError
  | notifyDescending
  | notifySingleOwner
  | notifyOpenStart
  deriving DecidableEq, Repr

/-- A store and the names of the users that were ever to be created. -/
structure Faulty where
  store : Store
  names : List String

namespace Faulty

def empty : Faulty :=
  ⟨.empty, []⟩

/-- The outcome of an operation on the store as one on the state around it. -/
def withStore {α : Type} (state : Faulty) (outcome : α × Store) : α × Faulty :=
  (outcome.1, { state with store := outcome.2 })

/-- The sound backend, which only notes the names of users. -/
def sound : Storage Faulty where
  name := Store.storage.name
  createUser user state :=
    let (outcome, next) := state.store.createUser user
    (outcome, ⟨next, user.name :: state.names⟩)
  getUser name state := (state.store.getUser name, state)
  deleteUser name state := withStore state (state.store.deleteUser name)
  createEvent fresh owner fields state :=
    withStore state (state.store.createEvent fresh owner fields)
  getEvent owner id state := (state.store.getEvent owner id, state)
  updateEvent owner id fields state :=
    withStore state (state.store.updateEvent owner id fields)
  deleteEvent owner id state := withStore state (state.store.deleteEvent owner id)
  listEvents owner start stop state := (.ok (state.store.listEvents owner start stop), state)
  listDue start stop state := (.ok (state.store.listDue start stop), state)
  close state := { state with store := .empty }

/-- The owner of a stored event, or the caller when there is no such event. -/
def ownerOf (state : Faulty) (caller : String) (id : EventId) : String :=
  ((state.store.events.get? id).map (·.owner)).getD caller

/-- An interval widened by a microsecond at both ends. -/
def widened (fields : EventFields) : Instant × Instant :=
  (fields.start.subClamped ⟨1000, by decide⟩, fields.stop.addClamped ⟨1000, by decide⟩)

end Faulty

namespace Defect

open Faulty

/-- Changes the result of an operation. -/
def mapResult {α : Type} (change : α → α) (outcome : Except StorageError α × Faulty) :
    Except StorageError α × Faulty :=
  (outcome.1.map change, outcome.2)

/-- Changes the failures of an operation. -/
def onError {α : Type} (change : StorageError → Except StorageError α)
    (outcome : Except StorageError α × Faulty) : Except StorageError α × Faulty :=
  match outcome with
  | (.error cause, next) => (change cause, next)
  | done => done

/-- Refuses a write when a listing that it should not look at has events. -/
def refuseIf {α : Type} (blocked : Bool) (write : Faulty → Except StorageError α × Faulty)
    (state : Faulty) : Except StorageError α × Faulty :=
  if blocked then (.error .dateBusy, state) else write state

/-- The backend with a defect. -/
def storage : Defect → Storage Faulty
  | .none => sound
  | .duplicateUserOk =>
    { sound with
      createUser := fun user state =>
        onError (fun | .userExists _ => .ok () | cause => .error cause)
          (sound.createUser user state) }
  | .loseEmail =>
    { sound with
      getUser := fun name state =>
        mapResult (fun user => { user with email := "" }) (sound.getUser name state) }
  | .deleteUserNoop =>
    { sound with
      deleteUser := fun name state => ((state.store.getUser name).map fun _ => (), state) }
  | .deleteMissingUserOk =>
    { sound with
      deleteUser := fun name state =>
        onError (fun | .userNotFound _ => .ok () | cause => .error cause)
          (sound.deleteUser name state) }
  | .deleteMissingEventOk =>
    { sound with
      deleteEvent := fun owner id state =>
        onError (fun | .eventNotFound _ => .ok () | cause => .error cause)
          (sound.deleteEvent owner id state) }
  | .closedIntervals =>
    { sound with
      createEvent := fun fresh owner fields state =>
        let (start, stop) := widened fields
        refuseIf (!(state.store.listEvents owner start stop).isEmpty)
          (sound.createEvent fresh owner fields) state }
  | .globalOverlap =>
    { sound with
      createEvent := fun fresh owner fields state =>
        refuseIf
          (state.names.any fun name =>
            !(state.store.listEvents name fields.start fields.stop).isEmpty)
          (sound.createEvent fresh owner fields) state }
  | .dropLead =>
    { sound with
      createEvent := fun fresh owner fields =>
        sound.createEvent fresh owner { fields with lead := Option.none } }
  | .roundUpMicros =>
    { sound with
      createEvent := fun fresh owner fields =>
        sound.createEvent fresh owner
          { fields with start := fields.start.addClamped ⟨999, by decide⟩ } }
  | .unknownOwnerOk =>
    { sound with
      createEvent := fun fresh owner fields state =>
        sound.createEvent fresh owner fields (sound.createUser (Fixture.user owner) state).2 }
  | .busyAsBackend =>
    { sound with
      createEvent := fun fresh owner fields state =>
        onError (fun | .dateBusy => .error (.backend "date already busy") | cause => .error cause)
          (sound.createEvent fresh owner fields state) }
  | .busyAsOk =>
    { sound with
      createEvent := fun fresh owner fields state =>
        onError (fun | .dateBusy => .ok fresh | cause => .error cause)
          (sound.createEvent fresh owner fields state) }
  | .foreignReadable =>
    { sound with
      getEvent := fun owner id state => sound.getEvent (state.ownerOf owner id) id state }
  | .foreignWritable =>
    { sound with
      updateEvent := fun owner id fields state =>
        sound.updateEvent (state.ownerOf owner id) id fields state
      deleteEvent := fun owner id state => sound.deleteEvent (state.ownerOf owner id) id state }
  | .updateConflictsWithSelf =>
    { sound with
      updateEvent := fun owner id fields state =>
        refuseIf (!(state.store.listEvents owner fields.start fields.stop).isEmpty)
          (sound.updateEvent owner id fields) state }
  | .updateKeepsDescription =>
    { sound with
      updateEvent := fun owner id fields state =>
        let description :=
          match state.store.owned? owner id with
          | some event => event.fields.description
          | Option.none => fields.description
        sound.updateEvent owner id { fields with description } state }
  | .updateNoop =>
    { sound with
      updateEvent := fun owner id _ state =>
        ((state.store.getEvent owner id).map fun _ => (), state) }
  | .listAscending =>
    { sound with
      listEvents := fun owner start stop state =>
        mapResult List.reverse (sound.listEvents owner start stop state) }
  | .listContainedOnly =>
    { sound with
      listEvents := fun owner start stop state =>
        mapResult
          (·.filter fun event => start ≤ event.fields.start && event.fields.stop ≤ stop)
          (sound.listEvents owner start stop state) }
  | .listUnknownOwnerError =>
    { sound with
      listEvents := fun owner start stop state =>
        match state.store.getUser owner with
        | .ok _ => sound.listEvents owner start stop state
        | .error cause => (.error cause, state) }
  | .notifyDescending =>
    { sound with
      listDue := fun start stop state => mapResult List.reverse (sound.listDue start stop state) }
  | .notifySingleOwner =>
    { sound with
      listDue := fun start stop state =>
        mapResult
          (fun
            | [] => []
            | first :: rest => first :: rest.filter fun event => event.owner = first.owner)
          (sound.listDue start stop state) }
  | .notifyOpenStart =>
    { sound with
      listDue := fun start stop state =>
        mapResult (·.filter fun event => event.reminderAt ≠ start)
          (sound.listDue start stop state) }

/-- The defects under their names. -/
def names : List (String × Defect) :=
  [("none", .none), ("duplicate_user_ok", .duplicateUserOk), ("lose_email", .loseEmail),
    ("delete_user_noop", .deleteUserNoop), ("delete_missing_user_ok", .deleteMissingUserOk),
    ("delete_missing_event_ok", .deleteMissingEventOk), ("closed_intervals", .closedIntervals),
    ("global_overlap", .globalOverlap), ("drop_lead", .dropLead),
    ("round_up_micros", .roundUpMicros), ("unknown_owner_ok", .unknownOwnerOk),
    ("busy_as_backend", .busyAsBackend), ("busy_as_ok", .busyAsOk),
    ("foreign_readable", .foreignReadable), ("foreign_writable", .foreignWritable),
    ("update_conflicts_with_self", .updateConflictsWithSelf),
    ("update_keeps_description", .updateKeepsDescription), ("update_noop", .updateNoop),
    ("list_ascending", .listAscending), ("list_contained_only", .listContainedOnly),
    ("list_unknown_owner_error", .listUnknownOwnerError),
    ("notify_descending", .notifyDescending), ("notify_single_owner", .notifySingleOwner),
    ("notify_open_start", .notifyOpenStart)]

def named? (name : String) : Option Defect :=
  (names.find? fun entry => entry.1 = name).map (·.2)

end Defect

end Datebook
