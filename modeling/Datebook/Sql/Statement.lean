import Datebook.Event
import Datebook.Sql.Interval
import Datebook.User

/-!
The statements sent to a database, with the values bound to them, and what a database replies.

A time crosses the wire as a count of microseconds. A count knows no leap seconds, so one of those
is counted on into the next second.
-/

set_option autoImplicit false

namespace Datebook.Sql

/-- The nanoseconds from 1970 to 2000-01-01T00:00:00, from where times are counted. -/
def epoch : Int := 946684800000000000

/-- A value bound to a statement or found in a row. -/
inductive Value where
  | null
  | integer (n : Int)
  | text (text : String)
  | id (id : EventId)
  /-- A time in microseconds from the epoch. -/
  | time (micros : Int64)
  | interval (interval : Interval)
  deriving DecidableEq, Repr

/-- Fields of an event with the lead time as an interval. -/
structure BoundFields where
  title : String
  description : Option String
  start : Instant
  stop : Instant
  lead : Option Interval
  deriving DecidableEq, Repr

inductive Statement where
  | ping
  | currentDatabase
  | insertUser (user : User)
  | selectUser (name : String)
  | deleteUser (name : String)
  | insertEvent (owner : String) (fields : BoundFields)
  | selectEvent (owner : String) (id : EventId)
  | updateEvent (owner : String) (id : EventId) (fields : BoundFields)
  | eventExists (owner : String) (id : EventId)
  | deleteEvent (owner : String) (id : EventId)
  | selectWindow (owner : String) (start stop : Instant)
  | selectDue (start stop : Instant)
  deriving DecidableEq, Repr

namespace Value

def ofOption {α : Type} (bind : α → Value) : Option α → Value
  | some value => bind value
  | none => .null

/-- The value of an instant, cut towards the epoch to whole microseconds. -/
def ofTime (t : Instant) : Value :=
  .time (Int64.ofInt ((t.nanos - epoch).tdiv 1000))

end Value

/-- The bound values of fields, in the order title, description, start, stop, lead time. -/
def BoundFields.values (fields : BoundFields) : List Value :=
  [.text fields.title, .ofOption .text fields.description, .ofTime fields.start,
    .ofTime fields.stop, .ofOption .interval fields.lead]

namespace Statement

def eventColumns : String :=
  "id, title, description, start_time, end_time, notify_before, owner"

/-- The text of a statement. -/
def sql : Statement → String
  | .ping => "SELECT 1"
  | .currentDatabase => "SELECT current_database()"
  | .insertUser _ =>
    "INSERT INTO users (name, hashed_password, email, role) VALUES ($1, $2, $3, $4)"
  | .selectUser _ => "SELECT name, hashed_password, email, role FROM users WHERE name = $1"
  | .deleteUser _ => "DELETE FROM users WHERE name = $1"
  | .insertEvent .. =>
    "INSERT INTO events (title, description, start_time, end_time, notify_before, owner)" ++
      " SELECT $1, $2, $3, $4, $5, $6 WHERE NOT EXISTS ( SELECT 1 FROM events" ++
      " WHERE owner = $6 AND start_time < $4 AND $3 < end_time ) RETURNING id"
  | .selectEvent .. => "SELECT " ++ eventColumns ++ " FROM events WHERE id = $1 AND owner = $2"
  | .updateEvent .. =>
    "UPDATE events SET title = $3, description = $4, start_time = $5, end_time = $6," ++
      " notify_before = $7 WHERE id = $1 AND owner = $2 AND NOT EXISTS (" ++
      " SELECT 1 FROM events other WHERE other.owner = $2 AND other.id <> $1" ++
      " AND other.start_time < $6 AND $5 < other.end_time )"
  | .eventExists .. => "SELECT 1 FROM events WHERE id = $1 AND owner = $2"
  | .deleteEvent .. => "DELETE FROM events WHERE id = $1 AND owner = $2"
  | .selectWindow .. =>
    "SELECT " ++ eventColumns ++
      " FROM events WHERE owner = $1 AND start_time < $3 AND $2 < end_time ORDER BY start_time DESC"
  | .selectDue .. =>
    "SELECT " ++ eventColumns ++
      " FROM events WHERE start_time - COALESCE(notify_before, INTERVAL '0') >= $1" ++
      " AND start_time - COALESCE(notify_before, INTERVAL '0') < $2 ORDER BY start_time ASC"

/-- The values bound to a statement, in the order of their numbers. -/
def values : Statement → List Value
  | .ping | .currentDatabase => []
  | .insertUser user =>
    [.text user.name, .text user.hashedPassword, .text user.email, .text user.role.text]
  | .selectUser name | .deleteUser name => [.text name]
  | .insertEvent owner fields => fields.values ++ [.text owner]
  | .selectEvent owner id | .eventExists owner id | .deleteEvent owner id => [.id id, .text owner]
  | .updateEvent owner id fields => .id id :: .text owner :: fields.values
  | .selectWindow owner start stop => [.text owner, .ofTime start, .ofTime stop]
  | .selectDue start stop => [.ofTime start, .ofTime stop]

end Statement

/-- The columns of a row; a column whose type is not one of those of `Value` has no value. -/
abbrev Row := List (String × Option Value)

/-- Why a statement had no result. -/
inductive Failure where
  /-- The database refused the statement, with its code for the cause. -/
  | database (code message : String)
  | transport (reason : String)
  | closed
  deriving DecidableEq, Repr

def Failure.message : Failure → String
  | .database _ message => "error returned from database: " ++ message
  | .transport reason => "error communicating with database: " ++ reason
  | .closed => "attempted to acquire a connection on a closed pool"

/-- What a statement returned: rows, and the number of rows it affected. -/
structure Result where
  rows : List Row := []
  affected : Nat := 0
  deriving DecidableEq, Repr

abbrev Reply := Except Failure Result

namespace Row

/-- The value of a column, if it has one of the wanted kind. -/
def column? {α : Type} (read : Value → Option α) (name : String) (row : Row) : Option α :=
  (row.lookup name).bind fun value => value.bind read

end Row

namespace Value

def toText? : Value → Option String
  | .text found => some found
  | _ => none

def toId? : Value → Option EventId
  | .id found => some found
  | _ => none

/-- The instant of a count, unless it is out of range. -/
def toTime? : Value → Option Instant
  | .time micros => Instant.ofNanos? (epoch + micros.toInt * 1000)
  | _ => none

def toInterval? : Value → Option Interval
  | .interval found => some found
  | _ => none

/-- A value that may be null. -/
def orNull {α : Type} (read : Value → Option α) : Value → Option (Option α)
  | .null => some none
  | value => (read value).map some

end Value

end Datebook.Sql
