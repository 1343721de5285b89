import Datebook.Proofs.Store.Agenda
import Datebook.Sql.Statement

/-!
What a database does with statements.

`Tables` are the two tables of a calendar: users under their names and events under their
identifiers, each event with an owner among the users. `Tables.Executes` says what a statement
replies and leaves behind when nothing else runs at the same time. It leaves open which of several
broken constraints is reported, the order of events that start together, and all that no reader of a
reply looks at. `Faithful` is what is assumed of a database: that it executes every statement whose
times it can keep, those in whole microseconds outside leap seconds.
-/

set_option autoImplicit false

namespace Datebook

namespace Instant

/-- Microseconds since 1970-01-01T00:00:00, rounded down. -/
def micros (t : Instant) : Int :=
  t.nanos / 1000

/-- An instant that a count of microseconds keeps. -/
structure Exact (t : Instant) : Prop where
  whole : t.nano % 1000 = 0
  regular : t.nano < 1000000000

theorem Exact.nanos_eq {t : Instant} (exact : t.Exact) : t.nanos = t.micros * 1000 := by
  have := exact.whole
  rw [micros, nanos]
  omega

theorem exact_of_nanos {t : Instant} (regular : t.nano < 1000000000) {count : Int}
    (whole : t.nanos = count * 1000) : t.Exact := by
  rw [nanos] at whole
  exact ⟨by omega, regular⟩

theorem Exact.micros_lt_iff {a b : Instant} (exact : a.Exact) (exactToo : b.Exact) :
    a.micros < b.micros ↔ a < b := by
  have := exact.whole
  have := exact.regular
  have := exactToo.whole
  have := exactToo.regular
  rw [lt_iff, micros, micros, nanos, nanos]
  omega

theorem Exact.micros_le_iff {a b : Instant} (exact : a.Exact) (exactToo : b.Exact) :
    a.micros ≤ b.micros ↔ a ≤ b := by
  have := exact.whole
  have := exact.regular
  have := exactToo.whole
  have := exactToo.regular
  rw [le_iff, micros, micros, nanos, nanos]
  omega

end Instant

namespace Sql

/-- A user without the name, which is the key. -/
structure UserRow where
  hashedPassword : String
  email : String
  role : String

/-- An event without the identifier, which is the key. -/
structure EventRow where
  owner : String
  fields : BoundFields

/-- The columns of a user. -/
def UserRow.cells (row : UserRow) (name : String) : Row :=
  [("name", some (.text name)), ("hashed_password", some (.text row.hashedPassword)),
    ("email", some (.text row.email)), ("role", some (.text row.role))]

namespace EventRow

/-- The columns of an event. -/
def cells (row : EventRow) (id : EventId) : Row :=
  [("id", some (.id id)), ("title", some (.text row.fields.title)),
    ("description", some (.ofOption .text row.fields.description)),
    ("start_time", some (.ofTime row.fields.start)), ("end_time", some (.ofTime row.fields.stop)),
    ("notify_before", some (.ofOption .interval row.fields.lead)),
    ("owner", some (.text row.owner))]

/-- The start less the lead time, in microseconds. -/
def due (row : EventRow) : Int :=
  row.fields.start.micros - (row.fields.lead.map Interval.total).getD 0

/-- Whether the start is before a time and the stop after another. -/
def Meets (row : EventRow) (start stop : Instant) : Prop :=
  row.fields.start.micros < stop.micros ∧ start.micros < row.fields.stop.micros

/-- Whether the half-open ranges of two events have an instant in common. -/
def Overlaps (row other : EventRow) : Prop :=
  max row.fields.start.micros other.fields.start.micros <
    min row.fields.stop.micros other.fields.stop.micros

end EventRow

/-- The earliest time that a database can tell, 4713 BC, in microseconds since 1970. -/
def earliest : Int := -210866803200000000

structure Tables where
  users : FiniteMap String UserRow
  events : FiniteMap EventId EventRow

namespace Tables

def empty : Tables :=
  ⟨.empty, .empty⟩

def Holds (tables : Tables) (owner : String) (id : EventId) (row : EventRow) : Prop :=
  tables.events.lookup id = some row ∧ row.owner = owner

/-- Whether an event of the owner, other than the one to pass over, meets an interval. -/
def Clashes (tables : Tables) (owner : String) (passOver : Option EventId)
    (start stop : Instant) : Prop :=
  ∃ id row, tables.Holds owner id row ∧ passOver ≠ some id ∧ row.Meets start stop

/-- Why a row cannot stand under an identifier, with the code for it. -/
inductive Breaks (tables : Tables) (id : EventId) (row : EventRow) : String → Prop
  | unknownOwner (unknown : tables.users.lookup row.owner = none) : Breaks tables id row "23503"
  | overlap {other : EventId} {old : EventRow} (held : tables.Holds row.owner other old)
    (differ : other ≠ id) (overlaps : row.Overlaps old) : Breaks tables id row "23P01"
  | inverted (backwards : row.fields.stop.micros < row.fields.start.micros) :
    Breaks tables id row "22000"

/-- The wanted events, each once, with starts in order. -/
structure Selects (tables : Tables) (wanted : EventRow → Prop) (order : Int → Int → Prop)
    (found : List (EventId × EventRow)) : Prop where
  once : found.Nodup
  mem_iff : ∀ entry, entry ∈ found ↔ tables.events.lookup entry.1 = some entry.2 ∧ wanted entry.2
  ordered : found.Pairwise fun a b => order a.2.fields.start.micros b.2.fields.start.micros

/-- What a statement replies and leaves behind, with an identifier drawn for a new event. -/
inductive Executes (before : Tables) (drawn : EventId) : Statement → Reply → Tables → Prop
  | pinged {result : Result} : Executes before drawn .ping (.ok result) before
  | databaseTold {result : Result} : Executes before drawn .currentDatabase (.ok result) before
  | nameTaken {user : User} {row : UserRow} {message : String}
    (known : before.users.lookup user.name = some row) :
    Executes before drawn (.insertUser user) (.error (.database "23505" message)) before
  | userInserted {user : User} {result : Result}
    (unknown : before.users.lookup user.name = none) :
    Executes before drawn (.insertUser user) (.ok result)
      { before with
        users := before.users.set user.name ⟨user.hashedPassword, user.email, user.role.text⟩ }
  | userSelected {name : String} {row : UserRow} {result : Result}
    (found : before.users.lookup name = some row) (rows : result.rows = [row.cells name]) :
    Executes before drawn (.selectUser name) (.ok result) before
  | nobodySelected {name : String} {result : Result} (missing : before.users.lookup name = none)
    (rows : result.rows = []) :
    Executes before drawn (.selectUser name) (.ok result) before
  | userDeleted {name : String} {row : UserRow} {result : Result}
    (found : before.users.lookup name = some row) (affected : result.affected = 1) :
    Executes before drawn (.deleteUser name) (.ok result)
      { users := before.users.erase name
        events := before.events.keep fun _ row => row.owner ≠ name }
  | nobodyDeleted {name : String} {result : Result} (missing : before.users.lookup name = none)
    (affected : result.affected = 0) :
    Executes before drawn (.deleteUser name) (.ok result) before
  | insertSkipped {owner : String} {fields : BoundFields} {result : Result}
    (clash : before.Clashes owner none fields.start fields.stop) (rows : result.rows = []) :
    Executes before drawn (.insertEvent owner fields) (.ok result) before
  | idTaken {owner : String} {fields : BoundFields} {old : EventRow} {message : String}
    (clear : ¬before.Clashes owner none fields.start fields.stop)
    (taken : before.events.lookup drawn = some old) :
    Executes before drawn (.insertEvent owner fields) (.error (.database "23505" message)) before
  | insertRefused {owner : String} {fields : BoundFields} {code message : String}
    (clear : ¬before.Clashes owner none fields.start fields.stop)
    (breaks : before.Breaks drawn ⟨owner, fields⟩ code) :
    Executes before drawn (.insertEvent owner fields) (.error (.database code message)) before
  | eventInserted {owner : String} {fields : BoundFields} {result : Result}
    (clear : ¬before.Clashes owner none fields.start fields.stop)
    (unused : before.events.lookup drawn = none)
    (valid : ∀ code, ¬before.Breaks drawn ⟨owner, fields⟩ code)
    (rows : result.rows = [[("id", some (.id drawn))]]) :
    Executes before drawn (.insertEvent owner fields) (.ok result)
      { before with events := before.events.set drawn ⟨owner, fields⟩ }
  | eventSelected {owner : String} {id : EventId} {row : EventRow} {result : Result}
    (held : before.Holds owner id row) (rows : result.rows = [row.cells id]) :
    Executes before drawn (.selectEvent owner id) (.ok result) before
  | noEventSelected {owner : String} {id : EventId} {result : Result}
    (missing : ¬∃ row, before.Holds owner id row) (rows : result.rows = []) :
    Executes before drawn (.selectEvent owner id) (.ok result) before
  | updateSkipped {owner : String} {id : EventId} {fields : BoundFields} {result : Result}
    (unmatched : (∃ row, before.Holds owner id row) →
      before.Clashes owner (some id) fields.start fields.stop)
    (affected : result.affected = 0) :
    Executes before drawn (.updateEvent owner id fields) (.ok result) before
  | updateRefused {owner : String} {id : EventId} {fields : BoundFields} {old : EventRow}
    {code message : String} (held : before.Holds owner id old)
    (clear : ¬before.Clashes owner (some id) fields.start fields.stop)
    (breaks : before.Breaks id ⟨owner, fields⟩ code) :
    Executes before drawn (.updateEvent owner id fields) (.error (.database code message)) before
  | eventUpdated {owner : String} {id : EventId} {fields : BoundFields} {old : EventRow}
    {result : Result} (held : before.Holds owner id old)
    (clear : ¬before.Clashes owner (some id) fields.start fields.stop)
    (valid : ∀ code, ¬before.Breaks id ⟨owner, fields⟩ code) (affected : result.affected = 1) :
    Executes before drawn (.updateEvent owner id fields) (.ok result)
      { before with events := before.events.set id ⟨owner, fields⟩ }
  | eventExists {owner : String} {id : EventId} {row : EventRow} {result : Result}
    (held : before.Holds owner id row)
    (rows : result.rows = [[("?column?", some (.integer 1))]]) :
    Executes before drawn (.eventExists owner id) (.ok result) before
  | noEventExists {owner : String} {id : EventId} {result : Result}
    (missing : ¬∃ row, before.Holds owner id row) (rows : result.rows = []) :
    Executes before drawn (.eventExists owner id) (.ok result) before
  | eventDeleted {owner : String} {id : EventId} {row : EventRow} {result : Result}
    (held : before.Holds owner id row) (affected : result.affected = 1) :
    Executes before drawn (.deleteEvent owner id) (.ok result)
      { before with events := before.events.erase id }
  | noEventDeleted {owner : String} {id : EventId} {result : Result}
    (missing : ¬∃ row, before.Holds owner id row) (affected : result.affected = 0) :
    Executes before drawn (.deleteEvent owner id) (.ok result) before
  | windowSelected {owner : String} {start stop : Instant} {found : List (EventId × EventRow)}
    {result : Result}
    (selects : before.Selects (fun row => row.owner = owner ∧ row.Meets start stop)
      (fun first later => later ≤ first) found)
    (rows : result.rows = found.map fun entry => entry.2.cells entry.1) :
    Executes before drawn (.selectWindow owner start stop) (.ok result) before
  | dueOutOfRange {start stop : Instant} {id : EventId} {row : EventRow} {message : String}
    (stored : before.events.lookup id = some row) (early : row.due < earliest) :
    Executes before drawn (.selectDue start stop) (.error (.database "22008" message)) before
  | dueSelected {start stop : Instant} {found : List (EventId × EventRow)} {result : Result}
    (inRange : ∀ id row, before.events.lookup id = some row → earliest ≤ row.due)
    (selects : before.Selects (fun row => start.micros ≤ row.due ∧ row.due < stop.micros)
      (fun first later => first ≤ later) found)
    (rows : result.rows = found.map fun entry => entry.2.cells entry.1) :
    Executes before drawn (.selectDue start stop) (.ok result) before

end Tables

/-- The instants bound to a statement. -/
def Statement.times : Statement → List Instant
  | .insertEvent _ fields | .updateEvent _ _ fields => [fields.start, fields.stop]
  | .selectWindow _ start stop | .selectDue start stop => [start, stop]
  | .ping | .currentDatabase | .insertUser _ | .selectUser _ | .deleteUser _ | .selectEvent _ _
  | .eventExists _ _ | .deleteEvent _ _ => []

/-- A statement whose bound times a database keeps. -/
def Statement.Exact (statement : Statement) : Prop :=
  ∀ t ∈ statement.times, t.Exact

/-- What is assumed of a database with certain tables in each of its states. -/
def Faithful {σ : Type} (answer : EventId → Statement → σ → Reply × σ) (tables : σ → Tables) :
    Prop :=
  ∀ drawn statement state, statement.Exact →
    (tables state).Executes drawn statement (answer drawn statement state).1
      (tables (answer drawn statement state).2)

end Sql

end Datebook
