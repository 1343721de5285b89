import Datebook.Proofs.Sql.Interval
import Datebook.Proofs.Sql.Tables
import Datebook.Proofs.Store.Invariant
import Datebook.Proofs.Store.Renaming
import Datebook.Proofs.Time.Span
import Datebook.Sql.Calendar

/-!
Calendars as rows.

What is written to a row is read back from it: `readUser_cells` and `readEvents_cells`. That needs
times which a database keeps and a lead time in whole microseconds that fit 64 bits, and these are
what storable fields are truncated to: `bindFields_of_storable`. Other times in whole microseconds
are read as they are counted, `Instant.asCounted?`. Only the lead time can keep fields from being
bound: `bindFields_of_fits` and `bindFields_of_leadTooLong`.

`Agenda.tables` are the rows of a whole calendar. What a statement asks of them is what the rules
ask of the calendar, as long as the calendar is `Sound`.
-/

set_option autoImplicit false

namespace Datebook

namespace Instant

/-- The instant that a count stands for, unless it is out of range: a leap second is counted on into
the next second. -/
def asCounted? (t : Instant) : Option Instant :=
  ofNanos? t.nanos

theorem asCounted?_of_regular {t : Instant} (regular : t.nano < 1000000000) :
    t.asCounted? = some t := by
  rw [asCounted?, ← Int.add_zero t.nanos, ← add?_regular regular, add?_zero]

theorem asCounted?_eq_self_iff {t : Instant} : t.asCounted? = some t ↔ t.nano < 1000000000 :=
  ⟨nano_ofNanos?, asCounted?_of_regular⟩

end Instant

namespace EventFields

/-- The fields with their times as they are counted. -/
def asCounted? (fields : EventFields) : Option EventFields := do
  let start ← fields.start.asCounted?
  let stop ← fields.stop.asCounted?
  return { fields with start, stop }

theorem asCounted?_eq_some_iff {fields counted : EventFields} :
    fields.asCounted? = some counted ↔ ∃ start stop, fields.start.asCounted? = some start ∧
      fields.stop.asCounted? = some stop ∧ counted = { fields with start, stop } := by
  simp only [asCounted?, Option.bind_eq_bind, Option.bind_eq_some_iff, Option.pure_def,
    Option.some.injEq]
  constructor
  · rintro ⟨start, first, stop, second, rfl⟩
    exact ⟨start, stop, first, second, rfl⟩
  · rintro ⟨start, stop, first, second, rfl⟩
    exact ⟨start, first, stop, second, rfl⟩

theorem asCounted?_eq_self_iff {fields : EventFields} :
    fields.asCounted? = some fields ↔
      fields.start.nano < 1000000000 ∧ fields.stop.nano < 1000000000 := by
  rw [← Instant.asCounted?_eq_self_iff, ← Instant.asCounted?_eq_self_iff, asCounted?_eq_some_iff]
  constructor
  · rintro ⟨start, stop, first, second, same⟩
    have sameStart : fields.start = start := congrArg EventFields.start same
    have sameStop : fields.stop = stop := congrArg EventFields.stop same
    exact ⟨sameStart ▸ first, sameStop ▸ second⟩
  · rintro ⟨first, second⟩
    exact ⟨fields.start, fields.stop, first, second, rfl⟩

/-- Fields that a row keeps. -/
structure Kept (fields : EventFields) : Prop where
  start : fields.start.Exact
  stop : fields.stop.Exact
  ordered : fields.start ≤ fields.stop
  lead : ∀ lead, fields.lead = some lead →
    lead.nanos % 1000 = 0 ∧ lead.micros < 0x8000_0000_0000_0000

theorem Kept.wholeMicros {fields : EventFields} (kept : fields.Kept) : fields.WholeMicros where
  start := kept.start.whole
  stop := kept.stop.whole
  lead span given := (kept.lead span given).1

/-- Fields that a database stores: outside leap seconds, in order in whole microseconds, and with a
lead time that fits 64 bits. -/
structure Storable (fields : EventFields) : Prop where
  start : fields.start.nano < 1000000000
  stop : fields.stop.nano < 1000000000
  ordered : fields.truncated.start < fields.truncated.stop
  lead : ∀ lead, fields.lead = some lead → lead.micros < 0x8000_0000_0000_0000

/-- The lead time has more microseconds than an interval holds. -/
def LeadTooLong (fields : EventFields) : Prop :=
  ∃ lead, fields.lead = some lead ∧ 0x8000_0000_0000_0000 ≤ lead.micros

/-- The fields as they are bound to a statement. -/
def bound (fields : EventFields) : Sql.BoundFields where
  title := fields.title
  description := fields.description
  start := fields.start
  stop := fields.stop
  lead := fields.lead.bind Sql.Interval.ofDuration?

theorem Storable.kept {fields : EventFields} (storable : fields.Storable) :
    fields.truncated.Kept where
  start := by
    have := storable.start
    constructor <;> simp only [truncated, Instant.truncated] <;> omega
  stop := by
    have := storable.stop
    constructor <;> simp only [truncated, Instant.truncated] <;> omega
  ordered := Int.le_of_lt storable.ordered
  lead lead kept := by
    obtain ⟨given, found, rfl⟩ := Option.map_eq_some_iff.mp kept
    have fits := storable.lead given found
    simp only [Duration.truncated, Duration.micros] at fits ⊢
    omega

end EventFields

/-- The row of a user. -/
def User.row (user : User) : Sql.UserRow :=
  ⟨user.hashedPassword, user.email, user.role.text⟩

/-- The row of an event. -/
def Event.row (event : Event) : Sql.EventRow :=
  ⟨event.owner, event.fields.bound⟩

namespace Sql

/-- An instant in whole microseconds is read from its value as it is counted. -/
theorem Value.toTime?_ofTime {t : Instant} (whole : t.nano % 1000 = 0) :
    toTime? (ofTime t) = t.asCounted? := by
  have early := t.firstSecond_le
  have late := t.le_lastSecond
  have below := t.nano_lt
  obtain ⟨count, exact⟩ : ∃ count, t.nanos - epoch = 1000 * count :=
    ⟨(t.nanos - epoch) / 1000, by rw [Instant.nanos, epoch]; omega⟩
  -- even the ends of the calendar fit 64 bits
  have fits : -2 ^ 63 ≤ count ∧ count < 2 ^ 63 := by
    rw [Instant.nanos, epoch] at exact
    rw [firstSecond] at early
    rw [lastSecond] at late
    omega
  rw [ofTime, exact, Int.mul_tdiv_cancel_left count (by decide), toTime?,
    Int64.toInt_ofInt_of_le fits.1 fits.2, Instant.asCounted?]
  congr 1
  omega

theorem Value.orNull_text (value : Option String) :
    orNull toText? (ofOption .text value) = some value := by
  cases value <;> rfl

theorem Value.orNull_interval (value : Option Interval) :
    orNull toInterval? (ofOption .interval value) = some value := by
  cases value <;> rfl

namespace Calendar

section

variable {lead : Option Duration} (fits : ∀ span, lead = some span →
  span.nanos % 1000 = 0 ∧ span.micros < 0x8000_0000_0000_0000)

include fits

theorem writeLead_of_fits : writeLead lead = .ok (lead.bind Interval.ofDuration?) := by
  cases lead with
  | none => rfl
  | some span =>
    obtain ⟨whole, small⟩ := fits span rfl
    obtain ⟨interval, written, _⟩ := Interval.ofDuration?_of_fits whole small
    rw [Option.bind_some, written, writeLead, written]

/-- A lead time that fits is read back from its interval. -/
theorem readLead_of_fits : readLead (lead.bind Interval.ofDuration?) = .ok lead := by
  cases lead with
  | none => rfl
  | some span =>
    obtain ⟨whole, small⟩ := fits span rfl
    obtain ⟨interval, written, _, read⟩ := Interval.ofDuration?_of_fits whole small
    rw [Option.bind_some, written, readLead, read]

end

theorem truncated_lead_fits {fields : EventFields} (fits : ¬fields.truncated.LeadTooLong)
    (span : Duration) (lead : fields.truncated.lead = some span) :
    span.nanos % 1000 = 0 ∧ span.micros < 0x8000_0000_0000_0000 := by
  refine ⟨fields.truncated_wholeMicros.lead span lead, ?_⟩
  by_cases large : 0x8000_0000_0000_0000 ≤ span.micros
  · exact absurd ⟨span, lead, large⟩ fits
  · omega

/-- What is truncated is bound to a statement as it is, if the lead time fits. -/
theorem bindFields_of_fits {fields : EventFields} (fits : ¬fields.truncated.LeadTooLong) :
    bindFields fields = .ok fields.truncated.bound := by
  rw [bindFields, writeLead_of_fits (truncated_lead_fits fits)]
  rfl

/-- Why a lead time cannot be written. -/
def leadOutOfRange : StorageError :=
  .backend "notify_before out of range: number too large to fit in target type"

theorem writeLead_of_leadTooLong {fields : EventFields} (long : fields.LeadTooLong) :
    writeLead fields.lead = .error leadOutOfRange := by
  obtain ⟨span, lead, large⟩ := long
  rw [lead, writeLead, Interval.ofDuration?_eq_none large]
  rfl

theorem bindFields_of_long {fields : EventFields} (long : fields.truncated.LeadTooLong) :
    bindFields fields = .error leadOutOfRange := by
  rw [bindFields, writeLead_of_leadTooLong long]
  rfl

theorem bindFields_of_leadTooLong {fields : EventFields}
    (long : fields.truncated.LeadTooLong) :
    ∃ reason, bindFields fields = .error (.backend reason) :=
  ⟨_, bindFields_of_long long⟩

theorem bindFields_of_storable {fields : EventFields} (storable : fields.Storable) :
    bindFields fields = .ok fields.truncated.bound := by
  apply bindFields_of_fits
  rintro ⟨span, lead, large⟩
  have small := (storable.kept.lead span lead).2
  omega

theorem readUser_cells (user : User) : readUser (user.row.cells user.name) = .ok user := by
  have role : Role.stored user.role.text = .ok user.role := by
    rw [Role.stored, Role.ofText?_text]
  simp [readUser, User.row, UserRow.cells, column, Row.column?, List.lookup_cons, bind, Except.bind,
    pure, Except.pure, Value.toText?, role]

section

variable (event : Event) (whole : event.fields.WholeMicros)
  (fits : ∀ span, event.fields.lead = some span → span.micros < 0x8000_0000_0000_0000)

include whole fits

/-- An event in whole microseconds whose lead time fits is read from its row with its times as they
are counted. -/
theorem readEvent_cells_iff (read : Event) :
    readEvent (event.row.cells event.id) = .ok read ↔
      ∃ fields, event.fields.asCounted? = some fields ∧ read = { event with fields } := by
  obtain ⟨id, owner, title, description, start, stop, lead⟩ := event
  have leadRead : readLead (lead.bind Interval.ofDuration?) = .ok lead :=
    readLead_of_fits fun span given => ⟨whole.lead span given, fits span given⟩
  have startRead : (Value.ofTime start).toTime? = start.asCounted? :=
    Value.toTime?_ofTime whole.start
  have stopRead : (Value.ofTime stop).toTime? = stop.asCounted? := Value.toTime?_ofTime whole.stop
  cases first : start.asCounted? <;> cases second : stop.asCounted? <;>
    simp [readEvent, Event.row, EventFields.bound, EventRow.cells, column, Row.column?,
      List.lookup_cons, bind, Except.bind, pure, Except.pure, Value.toId?, Value.toText?, startRead,
      stopRead, Value.orNull_text, Value.orNull_interval, leadRead, EventFields.asCounted?, first,
      second, eq_comm]

end

theorem readEvent_cells {event : Event} (kept : event.fields.Kept) :
    readEvent (event.row.cells event.id) = .ok event := by
  have counted : event.fields.asCounted? = some event.fields :=
    EventFields.asCounted?_eq_self_iff.mpr ⟨kept.start.regular, kept.stop.regular⟩
  apply (readEvent_cells_iff event kept.wholeMicros _ event).mpr
  · exact ⟨event.fields, counted, rfl⟩
  · exact fun span given => (kept.lead span given).2

theorem readEvents_cells {listed : List Event} (kept : ∀ event ∈ listed, event.fields.Kept) :
    (listed.map fun event => event.row.cells event.id).mapM readEvent = .ok listed := by
  induction listed with
  | nil => rfl
  | cons event rest ih =>
    rw [List.map_cons, List.mapM_cons, readEvent_cells (kept event List.mem_cons_self),
      ih fun other member => kept other (List.mem_cons_of_mem _ member)]
    rfl

end Calendar

end Sql

namespace Agenda

/-- A calendar that can be kept in rows: users and events under their own names, every event with
an owner among the users and with fields that a row keeps. -/
structure Sound (agenda : Agenda) : Prop where
  ownName : ∀ {name : String} {user : User}, agenda.users.lookup name = some user →
    user.name = name
  ownId : ∀ {id : EventId} {event : Event}, agenda.events.lookup id = some event → event.id = id
  enrolled : ∀ {id : EventId} {event : Event}, agenda.events.lookup id = some event →
    agenda.Known event.owner
  kept : ∀ {id : EventId} {event : Event}, agenda.events.lookup id = some event →
    event.fields.Kept

/-- The rows of a calendar. -/
def tables (agenda : Agenda) : Sql.Tables where
  users := agenda.users.rekey (Equiv.refl _) User.row
  events := agenda.events.rekey (Equiv.refl _) Event.row

theorem lookup_users_tables (agenda : Agenda) (name : String) :
    agenda.tables.users.lookup name = (agenda.users.lookup name).map User.row :=
  rfl

theorem lookup_events_tables (agenda : Agenda) (id : EventId) :
    agenda.tables.events.lookup id = (agenda.events.lookup id).map Event.row :=
  rfl

theorem unknown_tables_iff (agenda : Agenda) (name : String) :
    agenda.tables.users.lookup name = none ↔ ¬agenda.Known name := by
  rw [lookup_users_tables, Option.map_eq_none_iff, Known, Option.eq_none_iff_forall_ne_some]
  exact not_exists.symm

theorem holds_tables_iff (agenda : Agenda) (owner : String) (id : EventId) (row : Sql.EventRow) :
    agenda.tables.Holds owner id row ↔ ∃ event, agenda.Owns owner id event ∧ event.row = row := by
  rw [Sql.Tables.Holds, lookup_events_tables, Option.map_eq_some_iff]
  constructor
  · rintro ⟨⟨event, found, rfl⟩, own⟩
    exact ⟨event, ⟨found, own⟩, rfl⟩
  · rintro ⟨event, ⟨found, own⟩, rfl⟩
    exact ⟨⟨event, found, rfl⟩, own⟩

theorem held_tables_iff (agenda : Agenda) (owner : String) (id : EventId) :
    (∃ row, agenda.tables.Holds owner id row) ↔ ∃ event, agenda.Owns owner id event := by
  simp only [holds_tables_iff]
  constructor
  · rintro ⟨_, event, owned, _⟩
    exact ⟨event, owned⟩
  · rintro ⟨event, owned⟩
    exact ⟨_, event, owned, rfl⟩

/-- Counts of microseconds compare like the times of events. -/
theorem meets_row_iff {event : Event} (kept : event.fields.Kept) {start stop : Instant}
    (startExact : start.Exact) (stopExact : stop.Exact) :
    event.row.Meets start stop ↔ event.fields.start < stop ∧ start < event.fields.stop := by
  show event.fields.start.micros < stop.micros ∧ start.micros < event.fields.stop.micros ↔ _
  rw [kept.start.micros_lt_iff stopExact, startExact.micros_lt_iff kept.stop]

theorem Sound.clashes_tables_iff {agenda : Agenda} (sound : agenda.Sound) (owner : String)
    (passOver : Option EventId) {start stop : Instant} (startExact : start.Exact)
    (stopExact : stop.Exact) :
    agenda.tables.Clashes owner passOver start stop ↔ agenda.Busy owner passOver start stop := by
  constructor
  · rintro ⟨id, row, held, counted, meets⟩
    obtain ⟨event, owned, rfl⟩ := (holds_tables_iff _ _ _ _).mp held
    exact ⟨id, event, owned, counted,
      (meets_row_iff (sound.kept owned.1) startExact stopExact).mp meets⟩
  · rintro ⟨id, event, owned, counted, meets⟩
    exact ⟨id, event.row, (holds_tables_iff _ _ _ _).mpr ⟨event, owned, rfl⟩, counted,
      (meets_row_iff (sound.kept owned.1) startExact stopExact).mpr meets⟩

/-- Selected rows are those of events. -/
theorem Sound.exists_selected {agenda : Agenda} (sound : agenda.Sound)
    {found : List (EventId × Sql.EventRow)}
    (stored : ∀ entry ∈ found, agenda.tables.events.lookup entry.1 = some entry.2) :
    ∃ listed : List Event, (listed.map fun event => (event.id, event.row)) = found ∧
      ∀ event ∈ listed, agenda.events.lookup event.id = some event := by
  induction found with
  | nil => exact ⟨[], rfl, fun _ member => by cases member⟩
  | cons entry rest ih =>
    obtain ⟨listed, same, present⟩ :=
      ih fun other member => stored other (List.mem_cons_of_mem _ member)
    obtain ⟨event, lookedUp, row⟩ : ∃ event, agenda.events.lookup entry.1 = some event ∧
        event.row = entry.2 := Option.map_eq_some_iff.mp (stored entry List.mem_cons_self)
    have ownId := sound.ownId lookedUp
    refine ⟨event :: listed, ?_, ?_⟩
    · rw [List.map_cons, same, ownId, row]
    · intro other member
      rcases List.mem_cons.mp member with rfl | later
      · rw [ownId, lookedUp]
      · exact present other later

/-- The rows that a statement selects are a list of the wanted events. -/
theorem Sound.lists {agenda : Agenda} (sound : agenda.Sound) {wantedRow : Sql.EventRow → Prop}
    {wanted : Event → Prop} {orderRow : Int → Int → Prop} {order : Instant → Instant → Prop}
    {found : List (EventId × Sql.EventRow)}
    (selects : agenda.tables.Selects wantedRow orderRow found)
    (agree : ∀ id event, agenda.events.lookup id = some event →
      (wantedRow event.row ↔ wanted event))
    (ordered : ∀ a b : Instant, a.Exact → b.Exact → orderRow a.micros b.micros → order a b) :
    ∃ listed : List Event, agenda.Lists wanted order listed ∧
      (∀ event ∈ listed, event.fields.Kept) ∧
      (found.map fun entry => entry.2.cells entry.1) =
        listed.map fun event => event.row.cells event.id := by
  obtain ⟨listed, rfl, present⟩ := sound.exists_selected
    fun entry member => ((selects.mem_iff entry).mp member).1
  have kept : ∀ event ∈ listed, event.fields.Kept :=
    fun event member => sound.kept (present event member)
  refine ⟨listed, ⟨?_, ?_, ?_⟩, kept, ?_⟩
  · exact selects.once.of_map _
  · intro event
    constructor
    · intro member
      have chosen := (selects.mem_iff _).mp (List.mem_map.mpr ⟨event, member, rfl⟩)
      have found := present event member
      exact ⟨⟨event.id, found⟩, (agree _ event found).mp chosen.2⟩
    · rintro ⟨⟨id, lookedUp⟩, fits⟩
      obtain rfl := sound.ownId lookedUp
      have row : agenda.tables.events.lookup event.id = some event.row := by
        rw [lookup_events_tables, lookedUp, Option.map_some]
      obtain ⟨other, member, same⟩ := List.mem_map.mp ((selects.mem_iff (event.id, event.row)).mpr
        ⟨row, (agree _ event lookedUp).mpr fits⟩)
      have sameId : other.id = event.id := congrArg Prod.fst same
      have found := present other member
      rw [sameId, lookedUp] at found
      rwa [Option.some.inj found]
  · refine List.Pairwise.imp_of_mem ?_ (List.pairwise_map.mp selects.ordered)
    intro first second member memberToo before
    exact ordered _ _ (kept first member).start (kept second memberToo).start before
  · rw [List.map_map]
    rfl

end Agenda

end Datebook
