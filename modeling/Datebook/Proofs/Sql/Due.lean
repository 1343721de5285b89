import Datebook.Proofs.Sql.Agreement
import Datebook.Proofs.Time.Span

/-!
Due reminders in a database.

A store takes a reminder before the first instant for one at the first instant. A database cannot
tell a time before 4713 BC and fails, so one event whose reminder is due before that takes the
listing from all others: `listDue_fails_for_all`. Without such an event the listing is that of a
store: `listDue_answers`.
-/

set_option autoImplicit false

namespace Datebook

/-- The reminder of an event in a row is due at the start less the lead time, or at the first
instant. -/
theorem Event.reminderAt_of_kept {event : Event} (kept : event.fields.Kept) :
    event.reminderAt.Exact ∧ event.reminderAt.micros = max event.row.due Instant.first.micros := by
  have start := kept.start
  have moment := start.nanos_eq
  have first : Instant.first.nanos = Instant.first.micros * 1000 := rfl
  rw [reminderAt, EventFields.reminderAt]
  cases given : event.fields.lead with
  | none =>
    have due : event.row.due = event.fields.start.micros := by
      simp [row, EventFields.bound, Sql.EventRow.due, given]
    have early := event.fields.start.first_nanos_le
    have later : event.fields.start.second * 1000000000 ≤ event.fields.start.nanos := by
      rw [Instant.nanos]
      omega
    refine ⟨start, ?_⟩
    dsimp only
    omega
  | some lead =>
    obtain ⟨whole, fits⟩ := kept.lead lead given
    obtain ⟨interval, written, total, _⟩ := Sql.Interval.ofDuration?_of_fits whole fits
    have due : event.row.due = event.fields.start.micros - lead.micros := by
      simp [row, EventFields.bound, Sql.EventRow.due, given, written, total]
    have length : (lead.nanos : Int) = lead.micros * 1000 := by
      rw [Duration.micros]
      omega
    have moved : (event.fields.start.subClamped lead).nanos =
        max event.row.due Instant.first.micros * 1000 := by
      rw [Instant.nanos_subClamped start.regular]
      omega
    refine ⟨Instant.exact_of_nanos (Instant.nano_subClamped start.regular lead) moved, ?_⟩
    dsimp only
    rw [Instant.micros, moved]
    omega

/-- A database can tell a reminder unless it is due before the earliest time that it knows. -/
theorem Event.early_iff {event : Event} (kept : event.fields.Kept) :
    event.row.due < Sql.earliest ↔ event.reminderAt.micros < Sql.earliest := by
  have bound : Instant.first.micros < Sql.earliest := by decide +kernel
  rw [(reminderAt_of_kept kept).2]
  omega

/-- A reminder that a database can tell is due in a window when the store says so. -/
theorem Event.due_iff {event : Event} (kept : event.fields.Kept)
    (told : Sql.earliest ≤ event.row.due) {start stop : Instant} (startExact : start.Exact)
    (stopExact : stop.Exact) :
    start.micros ≤ event.row.due ∧ event.row.due < stop.micros ↔
      event.dueWithin start stop = true := by
  obtain ⟨exact, micros⟩ := reminderAt_of_kept kept
  have bound : Instant.first.micros < Sql.earliest := by decide +kernel
  have same : event.reminderAt.micros = event.row.due := by omega
  rw [dueWithin_iff, ← startExact.micros_le_iff exact, ← exact.micros_lt_iff stopExact, same]

namespace Sql.Calendar

open Dialogue

variable {σ : Type} {answer : EventId → Statement → σ → Reply × σ} {tables : σ → Tables}
  {agenda : Agenda} {state : σ}

/-- A listing of due reminders changes nothing. It fails when the reminder of any event is due
before the earliest time that the database can tell. Otherwise it lists the events whose reminders
are due, the earliest start first, as a store does. -/
theorem listDue_answers (faithful : Faithful answer tables) (sound : agenda.Sound)
    (stands : tables state = agenda.tables) (drawn : EventId) {start stop : Instant}
    (startExact : start.Exact) (stopExact : stop.Exact) :
    let (answered, _, after) := (perform (.listDue start stop)).run (answer drawn) state
    tables after = agenda.tables ∧
    ((∃ id event, agenda.events.lookup id = some event ∧ event.reminderAt.micros < earliest) →
      ∃ reason, answered = .error (.backend ("list_events_to_notify: " ++ reason))) ∧
    ((∀ id event, agenda.events.lookup id = some event → earliest ≤ event.reminderAt.micros) →
      ∃ listed, answered = .ok (.events listed) ∧
        agenda.Lists (fun event => event.dueWithin start stop = true)
          (fun first later => first ≤ later) listed ∧
        ∀ store : Store, store.Invariant → store.view = agenda →
          Agenda.Alike (.ok (.events (store.listDue start stop))) answered) := by
  have exact : Statement.Exact (.selectDue start stop) :=
    exact_of_times rfl startExact stopExact
  obtain ⟨reply, after, _, replied, executed, left⟩ := reply_of_faithful faithful stands drawn exact
  show tables ((perform (.listDue start stop)).play (answer drawn) state).2 = _ ∧
    (_ → ∃ _, ((perform (.listDue start stop)).play (answer drawn) state).1 = _) ∧
    (_ → ∃ _, ((perform (.listDue start stop)).play (answer drawn) state).1 = _ ∧ _ ∧
      ∀ _, _ → _ → Agenda.Alike _ ((perform (.listDue start stop)).play (answer drawn) state).1)
  simp only [perform, play_answerWith, listDue, play_bind, play_tally, play_query, replied]
  cases executed with
  | dueOutOfRange stored early =>
    obtain ⟨event, found, rfl⟩ := Option.map_eq_some_iff.mp stored
    have before := (Event.early_iff (sound.kept found)).mp early
    refine ⟨left, fun _ => ⟨_, rfl⟩, fun inRange => ?_⟩
    exact absurd before (Int.not_lt.mpr (inRange _ event found))
  | dueSelected inRange selects rows =>
    have told (id : EventId) (event : Event) (found : agenda.events.lookup id = some event) :
        earliest ≤ event.row.due := by
      apply inRange id
      rw [Agenda.lookup_events_tables, found, Option.map_some]
    have due (id : EventId) (event : Event) (found : agenda.events.lookup id = some event) :
        start.micros ≤ event.row.due ∧ event.row.due < stop.micros ↔
          start ≤ event.reminderAt ∧ event.reminderAt < stop := by
      rw [Event.due_iff (sound.kept found) (told id event found) startExact stopExact,
        Event.dueWithin_iff]
    have ordered (a b : Instant) (aExact : a.Exact) (bExact : b.Exact)
        (before : a.micros ≤ b.micros) : a ≤ b :=
      (aExact.micros_le_iff bExact).mp before
    obtain ⟨listed, lists, kept, cells⟩ := sound.lists selects due ordered
    simp only [rows, cells, play_pure, readEvents_cells kept]
    refine ⟨left, ?_, fun _ => ⟨listed, rfl, ?_, ?_⟩⟩
    · rintro ⟨id, event, found, early⟩
      have before := (Event.early_iff (sound.kept found)).mpr early
      exact absurd before (Int.not_lt.mpr (told id event found))
    · simpa only [Event.dueWithin_iff] using lists
    · rintro store inv rfl
      exact ((Store.listDue_outcome store drawn inv start stop).unique (.dueListed lists)).1

/-- A database with one event, a quarter of an hour before the reminder of which nothing fails. -/
theorem listDue_answers_quarter :
    let user := Fixture.user "alice"
    let event := Event.mk (.ofNat 1) "alice" ⟨"call", none, Fixture.moment 11 0,
      Fixture.moment 12 0, Duration.ofNanos? 900000000000⟩
    let agenda :=
      Agenda.mk (FiniteMap.empty.set "alice" user) (FiniteMap.empty.set (.ofNat 1) event)
    let database := Database.mk (Table.empty.insert "alice" user.row)
      (Table.empty.insert (.ofNat 1) event.row)
    Faithful Database.execute Database.tables ∧ agenda.Sound ∧
      database.tables = agenda.tables ∧ (Fixture.moment 10 45).Exact ∧
      (Fixture.moment 10 46).Exact ∧
      ∃ listed, ((perform (.listDue (Fixture.moment 10 45) (Fixture.moment 10 46))).run
          (Database.execute (.ofNat 0)) database).1 = .ok (.events listed) ∧
        agenda.Lists
          (fun event => event.dueWithin (Fixture.moment 10 45) (Fixture.moment 10 46) = true)
          (fun first later => first ≤ later) listed := by
  intro user event agenda database
  have kept : event.fields.Kept := by
    refine ⟨⟨by decide +kernel, by decide +kernel⟩, ⟨by decide +kernel, by decide +kernel⟩,
      by decide +kernel, ?_⟩
    intro lead given
    cases given
    decide
  have sound : agenda.Sound := by
    have known : Agenda.Known ⟨FiniteMap.empty.set "alice" user, .empty⟩ "alice" := ⟨user, rfl⟩
    exact (Agenda.empty_sound.addUser user).putEvent rfl known kept
  have stands : database.tables = agenda.tables := by
    simp only [database, agenda, Database.tables, Agenda.tables, Table.toMap_insert,
      FiniteMap.rekey_set]
    rfl
  have start : (Fixture.moment 10 45).Exact := ⟨by decide +kernel, by decide +kernel⟩
  have stop : (Fixture.moment 10 46).Exact := ⟨by decide +kernel, by decide +kernel⟩
  refine ⟨Database.faithful, sound, stands, start, stop, ?_⟩
  obtain ⟨_, _, succeeds⟩ := listDue_answers Database.faithful sound stands (.ofNat 0) start stop
  obtain ⟨listed, answered, lists, _⟩ := succeeds (by
    intro id other stored
    simp only [agenda, FiniteMap.set] at stored
    split at stored
    · cases stored
      decide +kernel
    · cases stored)
  exact ⟨listed, answered, lists⟩

/-- One event with a lead time of 220 billion seconds, which a database takes, makes the listing
fail that would have had another event in it, as that of a store does. -/
theorem listDue_fails_for_all :
    let jubilee := EventFields.mk "jubilee" none (Fixture.moment 9 0) (Fixture.moment 10 0)
      (Duration.ofNanos? 220000000000000000000)
    let call := EventFields.mk "call" none (Fixture.moment 11 0) (Fixture.moment 12 0)
      (Duration.ofNanos? 900000000000)
    let history := [(EventId.ofNat 0, Call.createUser (Fixture.user "alice")),
      (.ofNat 1, .createEvent "alice" jubilee), (.ofNat 2, .createEvent "alice" call),
      (.ofNat 0, .listDue (Fixture.moment 10 45) (Fixture.moment 10 46))]
    answers Database.execute history .empty =
      [.ok .nothing, .ok (.created (.ofNat 1)), .ok (.created (.ofNat 2)),
        .error (.backend
          "list_events_to_notify: error returned from database: timestamp out of range")] ∧
    (Store.storage.run history .empty).1 =
      [.ok .nothing, .ok (.created (.ofNat 1)), .ok (.created (.ofNat 2)),
        .ok (.events [⟨.ofNat 2, "alice", call⟩])] := by
  decide +kernel

end Sql.Calendar

end Datebook
