import Datebook.Proofs.Sql.Tables
import Datebook.Proofs.Store.Outcome

/-!
A database for a calendar.

`Database.execute` carries out statements on two tables, so that what is assumed of databases holds
of one: `Database.faithful`.
-/

set_option autoImplicit false

namespace Datebook.Sql

instance (row : EventRow) (start stop : Instant) : Decidable (row.Meets start stop) :=
  inferInstanceAs (Decidable (_ ∧ _))

instance (row other : EventRow) : Decidable (row.Overlaps other) :=
  inferInstanceAs (Decidable (_ < _))

structure Database where
  users : Table String UserRow
  events : Table EventId EventRow

namespace Database

def empty : Database :=
  ⟨.empty, .empty⟩

def tables (database : Database) : Tables :=
  ⟨database.users.toMap, database.events.toMap⟩

def held? (database : Database) (owner : String) (id : EventId) : Option EventRow :=
  (database.events.get? id).filter fun row => row.owner = owner

def clashes (database : Database) (owner : String) (passOver : Option EventId)
    (start stop : Instant) : Bool :=
  database.events.entries.any fun entry =>
    entry.2.owner = owner && passOver ≠ some entry.1 && decide (entry.2.Meets start stop)

/-- The first constraint that a row would break. -/
def broken? (database : Database) (id : EventId) (row : EventRow) : Option Failure :=
  if database.users.get? row.owner = none then
    some (.database "23503" "violates foreign key constraint events_owner_fkey")
  else if database.events.entries.any fun entry =>
      entry.2.owner = row.owner && entry.1 ≠ id && decide (row.Overlaps entry.2) then
    some (.database "23P01" "violates exclusion constraint events_no_overlap")
  else if row.fields.stop.micros < row.fields.start.micros then
    some (.database "22000" "range lower bound must be less than or equal to range upper bound")
  else none

/-- The wanted events in order. -/
def select (database : Database) (wanted : EventRow → Bool) (before : Int → Int → Bool) :
    List (EventId × EventRow) :=
  (database.events.entries.filter fun entry => wanted entry.2).mergeSort fun a b =>
    before a.2.fields.start.micros b.2.fields.start.micros

/-- A result that returns events. -/
def listing (found : List (EventId × EventRow)) : Result where
  rows := found.map fun entry => entry.2.cells entry.1
  affected := found.length

/-- Carries out a statement; a new event gets the identifier that is drawn. -/
def execute (drawn : EventId) (statement : Statement) (database : Database) :
    Reply × Database :=
  match statement with
  | .ping | .currentDatabase => (.ok {}, database)
  | .insertUser user =>
    if (database.users.get? user.name).isSome then
      (.error (.database "23505" "violates unique constraint users_pkey"), database)
    else
      (.ok { affected := 1 },
        { database with
          users := database.users.insert user.name
            ⟨user.hashedPassword, user.email, user.role.text⟩ })
  | .selectUser name =>
    (.ok { rows := ((database.users.get? name).map fun row => row.cells name).toList }, database)
  | .deleteUser name =>
    if (database.users.get? name).isSome then
      (.ok { affected := 1 },
        { users := database.users.erase name
          events := database.events.filter fun _ row => row.owner ≠ name })
    else (.ok {}, database)
  | .insertEvent owner fields =>
    if database.clashes owner none fields.start fields.stop then (.ok {}, database)
    else if (database.events.get? drawn).isSome then
      (.error (.database "23505" "violates unique constraint events_pkey"), database)
    else
      match database.broken? drawn ⟨owner, fields⟩ with
      | some failure => (.error failure, database)
      | none =>
        (.ok { rows := [[("id", some (.id drawn))]], affected := 1 },
          { database with events := database.events.insert drawn ⟨owner, fields⟩ })
  | .selectEvent owner id =>
    (.ok { rows := ((database.held? owner id).map fun row => row.cells id).toList }, database)
  | .updateEvent owner id fields =>
    if (database.held? owner id).isNone || database.clashes owner (some id) fields.start fields.stop
    then (.ok {}, database)
    else
      match database.broken? id ⟨owner, fields⟩ with
      | some failure => (.error failure, database)
      | none =>
        (.ok { affected := 1 },
          { database with events := database.events.insert id ⟨owner, fields⟩ })
  | .eventExists owner id =>
    (.ok { rows := ((database.held? owner id).map fun _ =>
      [("?column?", some (.integer 1))]).toList }, database)
  | .deleteEvent owner id =>
    if (database.held? owner id).isSome then
      (.ok { affected := 1 }, { database with events := database.events.erase id })
    else (.ok {}, database)
  | .selectWindow owner start stop =>
    (.ok (listing (database.select (fun row => row.owner = owner && decide (row.Meets start stop))
      fun first later => later ≤ first)), database)
  | .selectDue start stop =>
    if database.events.values.any fun row => decide (row.due < earliest) then
      (.error (.database "22008" "timestamp out of range"), database)
    else
      (.ok (listing (database.select
        (fun row => decide (start.micros ≤ row.due) && decide (row.due < stop.micros))
        fun first later => first ≤ later)), database)

theorem held?_eq_some_iff (database : Database) (owner : String) (id : EventId) (row : EventRow) :
    database.held? owner id = some row ↔ database.tables.Holds owner id row := by
  simp only [held?, Option.filter_eq_some_iff, decide_eq_true_eq]
  rfl

theorem held?_eq_none_iff (database : Database) (owner : String) (id : EventId) :
    database.held? owner id = none ↔ ¬∃ row, database.tables.Holds owner id row := by
  simp only [← held?_eq_some_iff]
  cases database.held? owner id <;> simp

theorem clashes_iff (database : Database) (owner : String) (passOver : Option EventId)
    (start stop : Instant) :
    database.clashes owner passOver start stop = true ↔
      database.tables.Clashes owner passOver start stop := by
  simp only [clashes, List.any_eq_true, Bool.and_eq_true, decide_eq_true_eq, Prod.exists,
    ← Table.get?_eq_some_iff]
  constructor
  · rintro ⟨id, row, stored, ⟨own, counted⟩, meets⟩
    exact ⟨id, row, ⟨stored, own⟩, counted, meets⟩
  · rintro ⟨id, row, ⟨stored, own⟩, counted, meets⟩
    exact ⟨id, row, stored, ⟨own, counted⟩, meets⟩

theorem breaks_of_broken? {database : Database} {id : EventId} {row : EventRow} {failure : Failure}
    (broken : database.broken? id row = some failure) :
    ∃ code message, failure = .database code message ∧ database.tables.Breaks id row code := by
  unfold broken? at broken
  split at broken
  · rename_i unknown
    cases broken
    exact ⟨_, _, rfl, .unknownOwner unknown⟩
  · split at broken
    · rename_i overlap
      cases broken
      simp only [List.any_eq_true, Bool.and_eq_true, decide_eq_true_eq, Prod.exists,
        ← Table.get?_eq_some_iff] at overlap
      obtain ⟨other, old, stored, ⟨own, differ⟩, overlaps⟩ := overlap
      exact ⟨_, _, rfl, .overlap ⟨stored, own⟩ differ overlaps⟩
    · split at broken
      · cases broken
        exact ⟨_, _, rfl, .inverted ‹_›⟩
      · cases broken

theorem not_breaks_of_broken? {database : Database} {id : EventId} {row : EventRow}
    (sane : database.broken? id row = none) (code : String) :
    ¬database.tables.Breaks id row code := by
  unfold broken? at sane
  split at sane
  · cases sane
  · rename_i known
    split at sane
    · cases sane
    · rename_i apart
      split at sane
      · cases sane
      · rename_i ordered
        intro breaks
        cases breaks with
        | unknownOwner unknown => exact known unknown
        | overlap held differ overlaps =>
          apply apart
          simp only [List.any_eq_true, Bool.and_eq_true, decide_eq_true_eq, Prod.exists,
            ← Table.get?_eq_some_iff]
          exact ⟨_, _, held.1, ⟨held.2, differ⟩, overlaps⟩
        | inverted backwards => exact ordered backwards

/-- Filtering and sorting the rows selects the wanted ones. -/
theorem selects (database : Database) {wanted : EventRow → Bool} {before : Int → Int → Bool}
    {wantedRow : EventRow → Prop} {order : Int → Int → Prop}
    (agree : ∀ row, wanted row = true ↔ wantedRow row)
    (ordered : ∀ a b, before a b = true ↔ order a b)
    (trans : ∀ a b c, order a b → order b c → order a c) (total : ∀ a b, order a b ∨ order b a) :
    database.tables.Selects wantedRow order (database.select wanted before) where
  once := by
    have distinct : database.events.entries.Nodup := List.Pairwise.of_map Prod.fst
      (fun _ _ differ same => differ (congrArg Prod.fst same)) database.events.distinct
    exact (List.mergeSort_perm _ _).nodup_iff.mpr (distinct.filter _)
  mem_iff entry := by
    rw [select, List.mem_mergeSort, List.mem_filter, agree, ← Table.get?_eq_some_iff]
    rfl
  ordered := by
    refine (List.pairwise_mergeSort ?_ ?_ _).imp fun before => (ordered _ _).mp before
    · intro a b c first second
      exact (ordered _ _).mpr (trans _ _ _ ((ordered _ _).mp first) ((ordered _ _).mp second))
    · intro a b
      rw [Bool.or_eq_true, ordered, ordered]
      exact total _ _

theorem insertUser_executes (drawn : EventId) (user : User) (database : Database) :
    database.tables.Executes drawn (.insertUser user)
      (database.execute drawn (.insertUser user)).1
      (database.execute drawn (.insertUser user)).2.tables := by
  simp only [execute]
  cases found : database.users.get? user.name with
  | some row => exact .nameTaken found
  | none =>
    simp only [Option.isSome_none, Bool.false_eq_true, if_false, tables, Table.toMap_insert]
    exact .userInserted found

theorem deleteUser_executes (drawn : EventId) (name : String) (database : Database) :
    database.tables.Executes drawn (.deleteUser name)
      (database.execute drawn (.deleteUser name)).1
      (database.execute drawn (.deleteUser name)).2.tables := by
  simp only [execute]
  cases found : database.users.get? name with
  | some row =>
    simp only [Option.isSome_some, if_true, tables, Table.toMap_erase, Table.toMap_filter]
    exact .userDeleted found rfl
  | none => exact .nobodyDeleted found rfl

theorem insertEvent_executes (drawn : EventId) (owner : String) (fields : BoundFields)
    (database : Database) :
    database.tables.Executes drawn (.insertEvent owner fields)
      (database.execute drawn (.insertEvent owner fields)).1
      (database.execute drawn (.insertEvent owner fields)).2.tables := by
  simp only [execute]
  have clashes := database.clashes_iff owner none fields.start fields.stop
  cases clash : database.clashes owner none fields.start fields.stop with
  | true => exact .insertSkipped (clashes.mp clash) rfl
  | false =>
    have clear : ¬database.tables.Clashes owner none fields.start fields.stop := by
      rw [← clashes, clash]
      exact Bool.false_ne_true
    cases found : database.events.get? drawn with
    | some row => exact .idTaken clear found
    | none =>
      cases broken : database.broken? drawn ⟨owner, fields⟩ with
      | some failure =>
        obtain ⟨code, message, rfl, breaks⟩ := breaks_of_broken? broken
        exact .insertRefused clear breaks
      | none =>
        simp only [Bool.false_eq_true, if_false, Option.isSome_none, tables, Table.toMap_insert]
        exact .eventInserted clear found (not_breaks_of_broken? broken) rfl

theorem updateEvent_executes (drawn : EventId) (owner : String) (id : EventId)
    (fields : BoundFields) (database : Database) :
    database.tables.Executes drawn (.updateEvent owner id fields)
      (database.execute drawn (.updateEvent owner id fields)).1
      (database.execute drawn (.updateEvent owner id fields)).2.tables := by
  simp only [execute]
  have clashes := database.clashes_iff owner (some id) fields.start fields.stop
  cases held : database.held? owner id with
  | none =>
    have missing := (database.held?_eq_none_iff owner id).mp held
    exact .updateSkipped (fun present => absurd present missing) rfl
  | some row =>
    have held := (database.held?_eq_some_iff owner id row).mp held
    cases clash : database.clashes owner (some id) fields.start fields.stop with
    | true => exact .updateSkipped (fun _ => clashes.mp clash) rfl
    | false =>
      have clear : ¬database.tables.Clashes owner (some id) fields.start fields.stop := by
        rw [← clashes, clash]
        exact Bool.false_ne_true
      cases broken : database.broken? id ⟨owner, fields⟩ with
      | some failure =>
        obtain ⟨code, message, rfl, breaks⟩ := breaks_of_broken? broken
        exact .updateRefused held clear breaks
      | none =>
        simp only [Option.isNone_some, Bool.or_false, Bool.false_eq_true, if_false, tables,
          Table.toMap_insert]
        exact .eventUpdated held clear (not_breaks_of_broken? broken) rfl

theorem deleteEvent_executes (drawn : EventId) (owner : String) (id : EventId)
    (database : Database) :
    database.tables.Executes drawn (.deleteEvent owner id)
      (database.execute drawn (.deleteEvent owner id)).1
      (database.execute drawn (.deleteEvent owner id)).2.tables := by
  simp only [execute]
  cases held : database.held? owner id with
  | some row =>
    simp only [Option.isSome_some, if_true, tables, Table.toMap_erase]
    exact .eventDeleted ((database.held?_eq_some_iff owner id row).mp held) rfl
  | none => exact .noEventDeleted ((database.held?_eq_none_iff owner id).mp held) rfl

theorem selectWindow_executes (drawn : EventId) (owner : String) (start stop : Instant)
    (database : Database) :
    database.tables.Executes drawn (.selectWindow owner start stop)
      (database.execute drawn (.selectWindow owner start stop)).1
      (database.execute drawn (.selectWindow owner start stop)).2.tables := by
  refine .windowSelected (database.selects ?_ ?_ ?_ ?_) rfl
  · intro row
    rw [Bool.and_eq_true, decide_eq_true_eq, decide_eq_true_eq]
  · exact fun a b => decide_eq_true_iff
  · exact fun a b c second first => Int.le_trans first second
  · exact fun a b => Int.le_total b a

theorem selectDue_executes (drawn : EventId) (start stop : Instant) (database : Database) :
    database.tables.Executes drawn (.selectDue start stop)
      (database.execute drawn (.selectDue start stop)).1
      (database.execute drawn (.selectDue start stop)).2.tables := by
  simp only [execute]
  split
  · rename_i early
    obtain ⟨row, among, before⟩ := List.any_eq_true.mp early
    obtain ⟨id, stored⟩ := (Table.mem_values_iff _ _).mp among
    exact .dueOutOfRange stored (of_decide_eq_true before)
  · rename_i inRange
    refine .dueSelected ?_ (database.selects ?_ ?_ ?_ ?_) rfl
    · intro id row stored
      have among := (Table.mem_values_iff database.events row).mpr ⟨id, stored⟩
      apply Int.not_lt.mp
      intro early
      exact inRange (List.any_eq_true.mpr ⟨row, among, decide_eq_true early⟩)
    · intro row
      rw [Bool.and_eq_true, decide_eq_true_eq, decide_eq_true_eq]
    · exact fun a b => decide_eq_true_iff
    · exact fun a b c => Int.le_trans
    · exact Int.le_total

/-- The database does what is assumed of databases. -/
theorem faithful : Faithful execute tables := by
  intro drawn statement database _
  cases statement with
  | ping => exact .pinged
  | currentDatabase => exact .databaseTold
  | insertUser user => exact insertUser_executes drawn user database
  | selectUser name =>
    cases found : database.users.get? name with
    | some row => exact .userSelected found (by simp only [found]; rfl)
    | none => exact .nobodySelected found (by simp only [found]; rfl)
  | deleteUser name => exact deleteUser_executes drawn name database
  | insertEvent owner fields => exact insertEvent_executes drawn owner fields database
  | selectEvent owner id =>
    cases held : database.held? owner id with
    | some row =>
      exact .eventSelected ((database.held?_eq_some_iff owner id row).mp held)
        (by simp only [held]; rfl)
    | none =>
      exact .noEventSelected ((database.held?_eq_none_iff owner id).mp held)
        (by simp only [held]; rfl)
  | updateEvent owner id fields => exact updateEvent_executes drawn owner id fields database
  | eventExists owner id =>
    cases held : database.held? owner id with
    | some row =>
      exact .eventExists ((database.held?_eq_some_iff owner id row).mp held)
        (by simp only [held]; rfl)
    | none =>
      exact .noEventExists ((database.held?_eq_none_iff owner id).mp held)
        (by simp only [held]; rfl)
  | deleteEvent owner id => exact deleteEvent_executes drawn owner id database
  | selectWindow owner start stop => exact selectWindow_executes drawn owner start stop database
  | selectDue start stop => exact selectDue_executes drawn start stop database

end Database

end Datebook.Sql
