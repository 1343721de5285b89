import Datebook.Failure
import Datebook.Retry
import Datebook.Sql.Dialogue
import Datebook.Store.Storage
import Datebook.Text.Numeral

/-!
The calendar over a database.

Each operation of a storage backend is a `Dialogue`. A create or an update is one conditional
statement. One that loses a race for locks is sent again, twice at most, and counts as busy if it
keeps losing. An update that affects nothing asks whether the event exists, to tell a conflict from
a missing event.
-/

set_option autoImplicit false

namespace Datebook.Sql

/-- Codes by which a database tells why it refused a statement. -/
def uniqueViolation : String := "23505"
def foreignKeyViolation : String := "23503"
def exclusionViolation : String := "23P01"
def serializationFailure : String := "40001"
def deadlockDetected : String := "40P01"

namespace Failure

def hasCode (code : String) : Failure → Bool
  | .database found _ => found = code
  | _ => false

/-- Whether another writer won a race for locks. -/
def isContended (failure : Failure) : Bool :=
  failure.hasCode deadlockDetected || failure.hasCode serializationFailure

/-- Whether a write clashed with another event. -/
def isConflict (failure : Failure) : Bool :=
  failure.hasCode exclusionViolation || failure.isContended

end Failure

namespace Calendar

def backendName : String := "postgres"

/-- Ends an operation with a failure of the database. -/
def failed {α : Type} (operation : String) (failure : Failure) :
    Dialogue (Except StorageError α) := do
  .tally .errors operation
  return .error (.backend (operation ++ ": " ++ failure.message))

def busy {α : Type} (operation : String) : Dialogue (Except StorageError α) := do
  .tally .conflicts operation
  return .error .dateBusy

/-- The pauses before a write that lost a race for locks is sent again. -/
def contentionPolicy : RetryPolicy :=
  { maxRetries := 2
    initialDelay := .ofMillis 5
    maxDelay := .ofMillis 100
    multiplier := 4.0 }

/-- Sends a write again while it loses races for locks. -/
def sendWrite (statement : Statement) : Dialogue Reply :=
  retryIf Dialogue.sleep contentionPolicy Failure.isContended (Dialogue.query statement)

def malformed (column : String) : StorageError :=
  .backend ("Malformed row, column " ++ column)

/-- The value of a column that a row must have. -/
def column {α : Type} (read : Value → Option α) (row : Row) (name : String) :
    Except StorageError α :=
  match row.column? read name with
  | some value => .ok value
  | none => .error (malformed name)

/-- The lead time as an interval. -/
def writeLead : Option Duration → Except StorageError (Option Interval)
  | none => .ok none
  | some lead =>
    match Interval.ofDuration? lead with
    | some interval => .ok (some interval)
    | none =>
      .error (.backend ("notify_before out of range: " ++ Text.NumeralError.tooLarge.message))

def readLead : Option Interval → Except StorageError (Option Duration)
  | none => .ok none
  | some interval =>
    match interval.toDuration? with
    | some lead => .ok (some lead)
    | none => .error (.backend "notify_before is negative or too large")

/-- The fields in whole microseconds, as they are bound to a statement. -/
def bindFields (fields : EventFields) : Except StorageError BoundFields := do
  let kept := fields.truncated
  let lead ← writeLead kept.lead
  return { title := kept.title, description := kept.description, start := kept.start,
           stop := kept.stop, lead }

def readUser (row : Row) : Except StorageError User := do
  let role ← column Value.toText? row "role"
  let name ← column Value.toText? row "name"
  let hashedPassword ← column Value.toText? row "hashed_password"
  let email ← column Value.toText? row "email"
  return { name, hashedPassword, email, role := ← Role.stored role }

def readEvent (row : Row) : Except StorageError Event := do
  let id ← column Value.toId? row "id"
  let interval ← column (Value.orNull Value.toInterval?) row "notify_before"
  let title ← column Value.toText? row "title"
  let description ← column (Value.orNull Value.toText?) row "description"
  let start ← column Value.toTime? row "start_time"
  let stop ← column Value.toTime? row "end_time"
  let lead ← readLead interval
  let owner ← column Value.toText? row "owner"
  return { id, owner, fields := { title, description, start, stop, lead } }

/-- Asks whether the database answers at all. -/
def ping : Dialogue (Except StorageError Unit) := do
  match ← Dialogue.query .ping with
  | .ok _ => return .ok ()
  | .error failure => return .error (.backend ("Ping failed: " ++ failure.message))

/-- Pings until the database answers, with so many retries and a pause before each. -/
def connect (retries : Nat) (pause : Duration) : Dialogue (Except StorageError Unit) :=
  retry Dialogue.sleep (.fixed retries pause) ping

/-- Asks for the name of the database, before its tables are brought up to date. -/
def prepare : Dialogue (Except StorageError Unit) := do
  match ← Dialogue.query .currentDatabase with
  | .ok _ => return .ok ()
  | .error failure =>
    return .error (.backend ("Migration failed: while executing migrations: " ++ failure.message))

def createUser (user : User) : Dialogue (Except StorageError Unit) := do
  .tally .queries "create_user"
  match ← Dialogue.query (.insertUser user) with
  | .ok _ => return .ok ()
  | .error failure =>
    if failure.hasCode uniqueViolation then return .error (.userExists user.name)
    else failed "create_user" failure

def getUser (name : String) : Dialogue (Except StorageError User) := do
  .tally .queries "get_user"
  match ← Dialogue.query (.selectUser name) with
  | .ok result =>
    match result.rows with
    | row :: _ => return readUser row
    | [] => return .error (.userNotFound name)
  | .error failure => failed "get_user" failure

def deleteUser (name : String) : Dialogue (Except StorageError Unit) := do
  .tally .queries "delete_user"
  match ← Dialogue.query (.deleteUser name) with
  | .ok result => return if result.affected = 0 then .error (.userNotFound name) else .ok ()
  | .error failure => failed "delete_user" failure

/-- The answer to a create, from the last reply. -/
def created (owner : String) : Reply → Dialogue (Except StorageError EventId)
  | .ok result =>
    match result.rows with
    | row :: _ => return column Value.toId? row "id"
    | [] => busy "create_event"
  | .error failure =>
    if failure.isConflict then busy "create_event"
    else if failure.hasCode foreignKeyViolation then return .error (.userNotFound owner)
    else failed "create_event" failure

def createEvent (owner : String) (fields : EventFields) :
    Dialogue (Except StorageError EventId) := do
  .tally .queries "create_event"
  match bindFields fields with
  | .error cause => return .error cause
  | .ok bound => created owner (← sendWrite (.insertEvent owner bound))

def getEvent (owner : String) (id : EventId) : Dialogue (Except StorageError Event) := do
  .tally .queries "get_event"
  match ← Dialogue.query (.selectEvent owner id) with
  | .ok result =>
    match result.rows with
    | row :: _ => return readEvent row
    | [] => return .error (.eventNotFound id)
  | .error failure => failed "get_event" failure

/-- Why an update affected nothing. -/
def whyUnchanged (owner : String) (id : EventId) : Dialogue (Except StorageError Unit) := do
  match ← Dialogue.query (.eventExists owner id) with
  | .ok result =>
    if result.rows.isEmpty then return .error (.eventNotFound id) else busy "update_event"
  | .error failure => failed "update_event" failure

/-- The answer to an update, from the last reply to it. -/
def updated (owner : String) (id : EventId) : Reply → Dialogue (Except StorageError Unit)
  | .ok result => if 0 < result.affected then return .ok () else whyUnchanged owner id
  | .error failure =>
    if failure.isConflict then busy "update_event" else failed "update_event" failure

def updateEvent (owner : String) (id : EventId) (fields : EventFields) :
    Dialogue (Except StorageError Unit) := do
  .tally .queries "update_event"
  match bindFields fields with
  | .error cause => return .error cause
  | .ok bound => updated owner id (← sendWrite (.updateEvent owner id bound))

def deleteEvent (owner : String) (id : EventId) : Dialogue (Except StorageError Unit) := do
  .tally .queries "delete_event"
  match ← Dialogue.query (.deleteEvent owner id) with
  | .ok result => return if result.affected = 0 then .error (.eventNotFound id) else .ok ()
  | .error failure => failed "delete_event" failure

def listEvents (owner : String) (start stop : Instant) :
    Dialogue (Except StorageError (List Event)) := do
  .tally .queries "list_events"
  match ← Dialogue.query (.selectWindow owner start stop) with
  | .ok result => return result.rows.mapM readEvent
  | .error failure => failed "list_events" failure

def listDue (start stop : Instant) : Dialogue (Except StorageError (List Event)) := do
  .tally .queries "list_events_to_notify"
  match ← Dialogue.query (.selectDue start stop) with
  | .ok result => return result.rows.mapM readEvent
  | .error failure => failed "list_events_to_notify" failure

/-- Wraps the result of an operation as the answer to a call. -/
def answerWith {α : Type} (wrap : α → Answer) (outcome : Dialogue (Except StorageError α)) :
    Dialogue (Except StorageError Answer) :=
  outcome.bind fun result => .done (result.map wrap)

/-- The dialogue of a call. -/
def perform : Call → Dialogue (Except StorageError Answer)
  | .createUser user => answerWith (fun _ => .nothing) (createUser user)
  | .getUser name => answerWith .user (getUser name)
  | .deleteUser name => answerWith (fun _ => .nothing) (deleteUser name)
  | .createEvent owner fields => answerWith .created (createEvent owner fields)
  | .getEvent owner id => answerWith .event (getEvent owner id)
  | .updateEvent owner id fields => answerWith (fun _ => .nothing) (updateEvent owner id fields)
  | .deleteEvent owner id => answerWith (fun _ => .nothing) (deleteEvent owner id)
  | .listEvents owner start stop => answerWith .events (listEvents owner start stop)
  | .listDue start stop => answerWith .events (listDue start stop)
  | .close => return .ok .nothing

end Calendar

end Datebook.Sql
