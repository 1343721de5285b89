import Datebook.Store.Storage

/-!
Stores without password hashes.

A redacted user has no password hash, and nothing else of it is changed. Whatever a store does, a
redacted store does alike: `Store.perform_redacted`.
-/

set_option autoImplicit false

namespace Datebook

/-- A user without the password hash. -/
def User.redacted (user : User) : User :=
  { user with hashedPassword := "" }

theorem User.describe_redacted (user : User) : user.redacted.describe = user.describe :=
  rfl

/-- A call with no password hash in it. -/
def Call.redacted : Call → Call
  | .createUser user => .createUser user.redacted
  | call => call

/-- An answer with no password hash in it. -/
def Answer.redacted : Answer → Answer
  | .user found => .user found.redacted
  | answer => answer

/-- Outcomes that are the same without password hashes are the same or show users that are. -/
theorem Answer.eq_or_users {outcome other : Except StorageError Answer}
    (same : outcome.map redacted = other.map redacted) :
    outcome = other ∨ ∃ found another : User, outcome = .ok (.user found) ∧
      other = .ok (.user another) ∧ found.redacted = another.redacted := by
  cases outcome with
  | error cause =>
    cases other with
    | error => exact .inl same
    | ok => cases same
  | ok answer =>
    cases other with
    | error => cases same
    | ok another =>
      replace same := Except.ok.inj same
      cases answer <;> cases another <;> simp_all [redacted]

namespace Store

/-- A store of redacted users. -/
def redacted (store : Store) : Store :=
  { store with users := store.users.map User.redacted }

section

variable (store : Store) (owner : String)

theorem get?_users_redacted :
    store.redacted.users.get? owner = (store.users.get? owner).map User.redacted :=
  store.users.get?_map _ owner

theorem contains_users_redacted :
    store.redacted.users.contains owner = store.users.contains owner := by
  rw [Table.contains, get?_users_redacted, Option.isSome_map, Table.contains]

theorem createUser_redacted (user : User) :
    store.redacted.createUser user.redacted =
      ((store.createUser user).1, (store.createUser user).2.redacted) := by
  have known : store.redacted.users.contains user.redacted.name = store.users.contains user.name :=
    store.contains_users_redacted user.name
  rw [createUser, createUser, known]
  split
  · rfl
  · rw [redacted, redacted, Table.map_insert]
    rfl

theorem getUser_redacted :
    store.redacted.getUser owner = (store.getUser owner).map User.redacted := by
  rw [getUser, getUser, get?_users_redacted]
  cases store.users.get? owner <;> rfl

theorem deleteUser_redacted :
    store.redacted.deleteUser owner =
      ((store.deleteUser owner).1, (store.deleteUser owner).2.redacted) := by
  rw [deleteUser, deleteUser, contains_users_redacted]
  split
  · rw [redacted, redacted, Table.map_erase]
  · rfl

theorem createEvent_redacted (fresh : EventId) (fields : EventFields) :
    store.redacted.createEvent fresh owner fields =
      ((store.createEvent fresh owner fields).1,
        (store.createEvent fresh owner fields).2.redacted) := by
  rw [createEvent_eq, createEvent_eq, contains_users_redacted]
  split
  · rfl
  · show (if store.isBusy .. then _ else _) = _
    split <;> rfl

theorem updateEvent_redacted (id : EventId) (fields : EventFields) :
    store.redacted.updateEvent owner id fields =
      ((store.updateEvent owner id fields).1, (store.updateEvent owner id fields).2.redacted) := by
  have held : store.redacted.owned? owner id = store.owned? owner id := rfl
  rw [updateEvent, updateEvent, held]
  cases store.owned? owner id with
  | none => rfl
  | some event =>
    show (if store.isBusy .. then _ else _) = _
    split <;> rfl

theorem deleteEvent_redacted (id : EventId) :
    store.redacted.deleteEvent owner id =
      ((store.deleteEvent owner id).1, (store.deleteEvent owner id).2.redacted) := by
  have held : store.redacted.owned? owner id = store.owned? owner id := rfl
  rw [deleteEvent, deleteEvent, held]
  cases store.owned? owner id <;> rfl

end

/-- An answer that shows no user stays what it is. -/
theorem answerWith_redacted {α : Type} (wrap : α → Answer)
    (plain : ∀ result, (wrap result).redacted = wrap result)
    (outcome : Except StorageError α × Store) :
    Storage.answerWith wrap (outcome.1, outcome.2.redacted) =
      ((Storage.answerWith wrap outcome).1.map Answer.redacted,
        (Storage.answerWith wrap outcome).2.redacted) := by
  obtain ⟨result, after⟩ := outcome
  cases result with
  | error cause => rfl
  | ok result => rw [Storage.answerWith, Storage.answerWith, Except.map, Except.map, plain]

/-- A redacted store does what the store does, and shows as much of it but for password hashes. -/
theorem perform_redacted (store : Store) (fresh : EventId) (call : Call) :
    storage.perform fresh call.redacted store.redacted =
      ((storage.perform fresh call store).1.map Answer.redacted,
        (storage.perform fresh call store).2.redacted) := by
  have quiet := answerWith_redacted (fun _ : Unit => .nothing) fun _ => rfl
  cases call with
  | createUser user =>
    show Storage.answerWith _ (store.redacted.createUser user.redacted) = _
    rw [createUser_redacted]
    exact quiet _
  | getUser name =>
    show ((store.redacted.getUser name).map Answer.user, store.redacted) =
      (((store.getUser name).map Answer.user).map Answer.redacted, store.redacted)
    rw [getUser_redacted]
    cases store.getUser name <;> rfl
  | deleteUser name =>
    show Storage.answerWith _ (store.redacted.deleteUser name) = _
    rw [deleteUser_redacted]
    exact quiet _
  | createEvent owner fields =>
    show Storage.answerWith _ (store.redacted.createEvent fresh owner fields) = _
    rw [createEvent_redacted]
    exact answerWith_redacted .created (fun _ => rfl) _
  | updateEvent owner id fields =>
    show Storage.answerWith _ (store.redacted.updateEvent owner id fields) = _
    rw [updateEvent_redacted]
    exact quiet _
  | deleteEvent owner id =>
    show Storage.answerWith _ (store.redacted.deleteEvent owner id) = _
    rw [deleteEvent_redacted]
    exact quiet _
  | getEvent owner id =>
    exact answerWith_redacted .event (fun _ => rfl) (store.getEvent owner id, store)
  | listEvents owner start stop =>
    exact answerWith_redacted .events (fun _ => rfl)
      (.ok (store.listEvents owner start stop), store)
  | listDue start stop =>
    exact answerWith_redacted .events (fun _ => rfl) (.ok (store.listDue start stop), store)
  | close => rfl

end Store

end Datebook
