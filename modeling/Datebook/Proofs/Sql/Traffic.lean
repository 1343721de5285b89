import Datebook.Proofs.Sql.Tables
import Datebook.Sql.Calendar

/-!
Clients of one database.

Any number of clients make calls at once. Each statement takes effect by itself, and between two
statements of a call those of other clients may come: `Traffic.Step` is one statement, or the
beginning or the end of a call, and `Traffic.Reached` any number of them in any order. The database
never draws an identifier twice, and a call names only identifiers that were drawn before it.

`Tables.Changes` says all that one statement can do to the tables. From it follows what no statement
does: it makes no two events of an owner meet, `Changes.apart`, brings no event back,
`Changes.has_before`, and takes one away only to delete it, `Changes.deletes`.
-/

set_option autoImplicit false

namespace Datebook

/-- The identifier that a call names. -/
def Call.named? : Call → Option EventId
  | .getEvent _ id | .updateEvent _ id _ | .deleteEvent _ id => some id
  | .createUser _ | .getUser _ | .deleteUser _ | .createEvent _ _ | .listEvents _ _ _ | .listDue _ _
  | .close => none

namespace Sql

namespace Dialogue

variable {α β : Type}

/-- What a dialogue comes to before the next reply, its pauses and counts passed over: a result, or
a statement and how to go on from the reply to it. -/
def ahead : Dialogue α → α ⊕ Statement × (Reply → Dialogue α)
  | .done result => .inl result
  | .ask statement next => .inr (statement, next)
  | .pause _ next | .count _ next => next.ahead

theorem ahead_bind (dialogue : Dialogue α) (f : α → Dialogue β) :
    (dialogue.bind f).ahead =
      match dialogue.ahead with
      | .inl result => (f result).ahead
      | .inr (statement, next) => .inr (statement, fun reply => (next reply).bind f) := by
  induction dialogue with
  | done result => rfl
  | ask statement next => rfl
  | pause length next ih => exact ih
  | count counter next ih => exact ih

end Dialogue

/-- Whether a statement takes a new identifier. -/
def Statement.draws : Statement → Bool
  | .insertEvent .. => true
  | _ => false

/-- Whether a statement deletes an event of an owner, by itself or with the owner. -/
def Statement.Deletes (owner : String) (id : EventId) (statement : Statement) : Prop :=
  statement = .deleteEvent owner id ∨ statement = .deleteUser owner

namespace Tables

variable {before after : Tables} {drawn : EventId} {statement : Statement} {reply : Reply}

def Has (tables : Tables) (owner : String) (id : EventId) : Prop :=
  ∃ row, tables.Holds owner id row

/-- No two events of an owner meet. -/
def Apart (tables : Tables) : Prop :=
  ∀ owner id other row old, tables.Holds owner id row → tables.Holds owner other old → id ≠ other →
    ¬row.Meets old.fields.start old.fields.stop

/-- What a statement may come to where statements take effect one at a time: it is executed, or it
fails for a cause of the database's own, neither a clash nor another writer, and nothing happens. -/
inductive Serves (before : Tables) (drawn : EventId) (statement : Statement) :
    Reply → Tables → Prop
  | executed {reply : Reply} {after : Tables}
    (executes : before.Executes drawn statement reply after) :
    Serves before drawn statement reply after
  | failed {failure : Failure} (cause : failure.isConflict = false) :
    Serves before drawn statement (.error failure) before

/-- All that a statement can do to the tables. -/
inductive Changes (before : Tables) (drawn : EventId) : Statement → Tables → Prop
  | nothing {statement : Statement} : Changes before drawn statement before
  | userAdded {user : User} {users : FiniteMap String UserRow} :
    Changes before drawn (.insertUser user) { before with users }
  | userRemoved {name : String} {users : FiniteMap String UserRow} :
    Changes before drawn (.deleteUser name)
      { users, events := before.events.keep fun _ row => row.owner ≠ name }
  | eventAdded {owner : String} {fields : BoundFields}
    (unused : before.events.lookup drawn = none)
    (clear : ¬before.Clashes owner none fields.start fields.stop) :
    Changes before drawn (.insertEvent owner fields)
      { before with events := before.events.set drawn ⟨owner, fields⟩ }
  | eventReplaced {owner : String} {id : EventId} {fields : BoundFields}
    (held : before.Has owner id)
    (clear : ¬before.Clashes owner (some id) fields.start fields.stop) :
    Changes before drawn (.updateEvent owner id fields)
      { before with events := before.events.set id ⟨owner, fields⟩ }
  | eventRemoved {owner : String} {id : EventId} (held : before.Has owner id) :
    Changes before drawn (.deleteEvent owner id) { before with events := before.events.erase id }

theorem Serves.changes (served : before.Serves drawn statement reply after) :
    before.Changes drawn statement after := by
  cases served with
  | failed => exact .nothing
  | executed executes =>
    cases executes with
    | userInserted => exact .userAdded
    | userDeleted => exact .userRemoved
    | eventInserted clear unused => exact .eventAdded unused clear
    | eventUpdated held clear => exact .eventReplaced ⟨_, held⟩ clear
    | eventDeleted held => exact .eventRemoved ⟨_, held⟩
    | _ => exact .nothing

/-- Fewer events are apart if they all were. -/
theorem Apart.of_fewer (apart : before.Apart)
    (fewer : ∀ id row, after.events.lookup id = some row → before.events.lookup id = some row) :
    after.Apart := by
  intro owner id other row old held heldToo differ
  exact apart owner id other row old ⟨fewer id row held.1, held.2⟩
    ⟨fewer other old heldToo.1, heldToo.2⟩ differ

/-- An event that clashes with no other may be put in place. -/
theorem Apart.put (apart : before.Apart) {owner : String} {id : EventId} {fields : BoundFields}
    (clear : ¬before.Clashes owner (some id) fields.start fields.stop) :
    Apart { before with events := before.events.set id ⟨owner, fields⟩ } := by
  have held_of (other : EventId) (old : EventRow) (differ : id ≠ other)
      (held : Holds { before with events := before.events.set id ⟨owner, fields⟩ } owner other
        old) :
      before.Holds owner other old :=
    ⟨(if_neg differ.symm).symm.trans held.1, held.2⟩
  intro someone first second row old held heldToo differ meets
  obtain ⟨found, own⟩ := held
  obtain ⟨foundToo, ownToo⟩ := heldToo
  simp only [FiniteMap.set] at found foundToo
  by_cases same : first = id
  · rw [if_pos same] at found
    rw [if_neg (same ▸ differ.symm)] at foundToo
    cases found
    cases own
    exact clear ⟨second, old, ⟨foundToo, ownToo⟩, fun e => differ (same.trans (Option.some.inj e)),
      meets.2, meets.1⟩
  · rw [if_neg same] at found
    by_cases sameToo : second = id
    · rw [if_pos sameToo] at foundToo
      cases foundToo
      cases ownToo
      exact clear ⟨first, row, ⟨found, own⟩, fun e => same (Option.some.inj e).symm, meets⟩
    · rw [if_neg sameToo] at foundToo
      exact apart someone first second row old ⟨found, own⟩ ⟨foundToo, ownToo⟩ differ meets

/-- Statements keep the events of each owner apart. -/
theorem Changes.apart (changes : before.Changes drawn statement after) (apart : before.Apart) :
    after.Apart := by
  cases changes with
  | nothing | userAdded => exact apart
  | userRemoved | eventRemoved =>
    exact apart.of_fewer fun _ _ found => (Option.filter_eq_some_iff.mp found).1
  | eventAdded _ clear =>
    exact apart.put fun ⟨id, row, held, _, meets⟩ => clear ⟨id, row, held, nofun, meets⟩
  | eventReplaced _ clear => exact apart.put clear

/-- An owner has no event after a statement that it had not before, unless a new one was drawn. -/
theorem Changes.has_before (changes : before.Changes drawn statement after) {owner : String}
    {id : EventId} (old : statement.draws = true → drawn ≠ id) (has : after.Has owner id) :
    before.Has owner id := by
  obtain ⟨row, found, own⟩ := has
  cases changes with
  | nothing | userAdded => exact ⟨row, found, own⟩
  | userRemoved | eventRemoved => exact ⟨row, (Option.filter_eq_some_iff.mp found).1, own⟩
  | eventAdded =>
    simp only [FiniteMap.set, if_neg (old rfl).symm] at found
    exact ⟨row, found, own⟩
  | @eventReplaced someone replaced fields held =>
    simp only [FiniteMap.set] at found
    split at found
    · rename_i same
      cases found
      cases own
      rwa [same]
    · exact ⟨row, found, own⟩

/-- An event that goes was deleted. -/
theorem Changes.deletes (changes : before.Changes drawn statement after) {owner : String}
    {id : EventId} (has : before.Has owner id) (gone : ¬after.Has owner id) :
    statement.Deletes owner id := by
  obtain ⟨row, found, own⟩ := has
  cases changes with
  | nothing | userAdded => exact absurd ⟨row, found, own⟩ gone
  | @userRemoved name =>
    by_cases same : row.owner = name
    · exact .inr (by rw [← same, own])
    · exact absurd ⟨row, Option.filter_eq_some_iff.mpr ⟨found, decide_eq_true same⟩, own⟩ gone
  | @eventRemoved someone removed held =>
    by_cases same : id = removed
    · obtain ⟨old, foundToo, ownToo⟩ := held
      rw [← same, found] at foundToo
      cases foundToo
      exact .inl (by rw [← ownToo, own, same])
    · exact absurd ⟨row, Option.filter_eq_some_iff.mpr ⟨found, decide_eq_true same⟩, own⟩ gone
  | @eventAdded someone fields unused =>
    have other : id ≠ drawn := by
      rintro rfl
      rw [unused] at found
      cases found
    exact absurd ⟨row, (if_neg other).trans found, own⟩ gone
  | @eventReplaced someone replaced fields held =>
    by_cases same : id = replaced
    · obtain ⟨old, foundToo, ownToo⟩ := held
      rw [← same, found] at foundToo
      cases foundToo
      exact absurd ⟨⟨someone, fields⟩, if_pos same, ownToo.symm.trans own⟩ gone
    · exact absurd ⟨row, (if_neg same).trans found, own⟩ gone

end Tables

/-- A statement as it took effect. -/
structure Exchange where
  /-- How many statements took effect before it. -/
  moment : Nat
  statement : Statement
  reply : Reply
  before : Tables
  after : Tables

/-- A call in progress. -/
structure Session where
  call : Call
  /-- What is left of its dialogue. -/
  rest : Dialogue (Except StorageError Answer)
  /-- Its statements so far, in order. -/
  said : List Exchange := []

/-- A call that has come to its end. -/
structure Closing where
  call : Call
  said : List Exchange
  answer : Except StorageError Answer

/-- A database with its clients. -/
structure Traffic where
  tables : Tables
  /-- The identifiers that were drawn. -/
  ids : List EventId
  /-- What each client is in the middle of. -/
  sessions : Nat → Option Session := fun _ => none
  /-- The statements that took effect, the latest first. -/
  exchanges : List Exchange := []
  closed : List Closing := []

namespace Traffic

variable {t u : Traffic}

/-- A client takes up a session or is free again. -/
def seat (t : Traffic) (client : Nat) (session : Option Session) : Traffic :=
  { t with sessions := fun other => if other = client then session else t.sessions other }

/-- The statement of a session as it takes effect now. -/
def exchange (t : Traffic) (statement : Statement) (reply : Reply) (after : Tables) : Exchange where
  moment := t.exchanges.length
  statement := statement
  reply := reply
  before := t.tables
  after := after

/-- What one client or the database does next. -/
inductive Step (t : Traffic) : Traffic → Prop
  | begins {client : Nat} {call : Call} (free : t.sessions client = none)
    (known : ∀ id ∈ call.named?, id ∈ t.ids) :
    Step t (t.seat client (some { call, rest := Calendar.perform call }))
  | asks {client : Nat} {session : Session} {drawn : EventId} {statement : Statement}
    {next : Reply → Dialogue (Except StorageError Answer)} {reply : Reply} {after : Tables}
    (busy : t.sessions client = some session)
    (ahead : session.rest.ahead = .inr (statement, next))
    (fresh : statement.draws = true → drawn ∉ t.ids)
    (served : t.tables.Serves drawn statement reply after) :
    Step t
      { t.seat client (some
          { session with
            rest := next reply
            said := session.said ++ [t.exchange statement reply after] }) with
        tables := after
        ids := if statement.draws then drawn :: t.ids else t.ids
        exchanges := t.exchange statement reply after :: t.exchanges }
  | ends {client : Nat} {session : Session} {answer : Except StorageError Answer}
    (busy : t.sessions client = some session) (ahead : session.rest.ahead = .inl answer) :
    Step t
      { t.seat client none with closed := ⟨session.call, session.said, answer⟩ :: t.closed }

/-- Any number of steps of any clients in any order. -/
inductive Reached (start : Traffic) : Traffic → Prop
  | start : Reached start start
  | step {t u : Traffic} (reached : Reached start t) (step : t.Step u) : Reached start u

theorem Step.apart (step : t.Step u) (apart : t.tables.Apart) : u.tables.Apart := by
  cases step with
  | begins | ends => exact apart
  | asks _ _ _ served => exact served.changes.apart apart

theorem Reached.apart (reached : t.Reached u) (apart : t.tables.Apart) : u.tables.Apart := by
  induction reached with
  | start => exact apart
  | step _ step ih => exact step.apart ih

end Traffic

end Sql

end Datebook
