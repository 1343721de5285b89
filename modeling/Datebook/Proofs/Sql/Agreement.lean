import Datebook.Proofs.Sql.Database
import Datebook.Proofs.Sql.Play
import Datebook.Proofs.Sql.Rows

/-!
A calendar in a database does what a store does.

The rows of a sound calendar simulate it: each call answers what the rules allow and leaves the rows
of what they leave, `perform_leads`. Since the rules leave nothing open but identifiers and the
order of events that start together, a store and a database answer the same: `backends_agree`.
-/

set_option autoImplicit false

namespace Datebook

/-- Whether a call is one that a database can answer as a store does: about users or about the
events of one owner, with fields that can be stored and windows in whole microseconds. -/
def Call.Storable : Call → Prop
  | .createEvent _ fields | .updateEvent _ _ fields => fields.Storable
  | .listEvents _ start stop => start.Exact ∧ stop.Exact
  | .createUser _ | .getUser _ | .deleteUser _ | .getEvent _ _ | .deleteEvent _ _ => True
  | .listDue _ _ | .close => False

namespace Agenda

theorem empty_sound : empty.Sound where
  ownName found := by cases found
  ownId found := by cases found
  enrolled found := by cases found
  kept found := by cases found

/-- An event in place, with fields that a row keeps. -/
theorem Sound.putEvent {agenda : Agenda} (sound : agenda.Sound) {id : EventId} {event : Event}
    (ownId : event.id = id) (known : agenda.Known event.owner) (kept : event.fields.Kept) :
    Sound { agenda with events := agenda.events.set id event } where
  ownName := sound.ownName
  ownId {other found} stored := by
    simp only [FiniteMap.set] at stored
    split at stored
    · rename_i same
      cases stored
      rw [ownId, same]
    · exact sound.ownId stored
  enrolled stored := by
    simp only [FiniteMap.set] at stored
    split at stored
    · cases stored
      exact known
    · exact sound.enrolled stored
  kept stored := by
    simp only [FiniteMap.set] at stored
    split at stored
    · cases stored
      exact kept
    · exact sound.kept stored

theorem Sound.addUser {agenda : Agenda} (sound : agenda.Sound) (user : User) :
    Sound { agenda with users := agenda.users.set user.name user } where
  ownName {name found} stored := by
    simp only [FiniteMap.set] at stored
    split at stored
    · rename_i same
      cases stored
      exact same.symm
    · exact sound.ownName stored
  ownId := sound.ownId
  enrolled {id event} stored := by
    obtain ⟨owner, found⟩ := sound.enrolled stored
    by_cases same : event.owner = user.name
    · exact ⟨user, if_pos same⟩
    · exact ⟨owner, (if_neg same).trans found⟩
  kept := sound.kept

theorem Sound.dropEvents {agenda : Agenda} (sound : agenda.Sound) (wanted : EventId → Event → Bool)
    {users : FiniteMap String User} (fewer : ∀ name user, users.lookup name = some user →
      agenda.users.lookup name = some user)
    (enrolled : ∀ id event, agenda.events.lookup id = some event → wanted id event = true →
      ∃ user, users.lookup event.owner = some user) :
    Sound ⟨users, agenda.events.keep wanted⟩ where
  ownName found := sound.ownName (fewer _ _ found)
  ownId stored := sound.ownId (Option.filter_eq_some_iff.mp stored).1
  enrolled {id event} stored := by
    obtain ⟨before, kept⟩ := Option.filter_eq_some_iff.mp stored
    exact enrolled id event before kept
  kept stored := sound.kept (Option.filter_eq_some_iff.mp stored).1

/-- Calls that a database can answer keep a calendar sound. -/
theorem Outcome.sound {before after : Agenda} {fresh : EventId} {call : Call}
    {answer : Except StorageError Answer} (outcome : Outcome before fresh call answer after)
    (sound : before.Sound) (storable : call.Storable) : after.Sound := by
  cases outcome with
  | userCreated unknown => exact sound.addUser _
  | userDeleted known =>
    apply sound.dropEvents
    · intro name user found
      exact (Option.filter_eq_some_iff.mp found).1
    · intro id event stored kept
      obtain ⟨user, found⟩ := sound.enrolled stored
      exact ⟨user, Option.filter_eq_some_iff.mpr ⟨found, kept⟩⟩
  | eventCreated known idle unused => exact sound.putEvent rfl known storable.kept
  | eventUpdated owned idle =>
    have ownId := sound.ownId owned.1
    have known := sound.enrolled owned.1
    exact sound.putEvent ownId known storable.kept
  | eventDeleted owned =>
    apply sound.dropEvents
    · intro name user found
      exact found
    · intro other event stored _
      exact sound.enrolled stored
  | closed => exact storable.elim
  | _ => exact sound

end Agenda

namespace Sql.Calendar

open Dialogue

/-- What a call comes to is an outcome of it, and the rows are those of what the outcome leaves. -/
def Leads {σ : Type} (tables : σ → Tables) (agenda : Agenda) (drawn : EventId) (call : Call)
    (played : Except StorageError Answer × σ) : Prop :=
  ∃ next, agenda.Outcome drawn call played.1 next ∧ tables played.2 = next.tables

theorem exact_of_timeless {statement : Statement} (timeless : statement.times = []) :
    statement.Exact := by
  intro t bound
  rw [timeless] at bound
  cases bound

theorem exact_of_times {statement : Statement} {start stop : Instant}
    (times : statement.times = [start, stop]) (startExact : start.Exact)
    (stopExact : stop.Exact) : statement.Exact := by
  intro t bound
  rw [times, List.mem_pair] at bound
  rcases bound with rfl | rfl
  · exact startExact
  · exact stopExact

section

variable {σ : Type} {answer : EventId → Statement → σ → Reply × σ} {tables : σ → Tables}
  {agenda : Agenda} {state : σ}

theorem reply_of_faithful (faithful : Faithful answer tables)
    (stands : tables state = agenda.tables) (drawn : EventId) {statement : Statement}
    (exact : statement.Exact) :
    ∃ reply after rows, answer drawn statement state = (reply, after) ∧
      agenda.tables.Executes drawn statement reply rows ∧ tables after = rows := by
  have executed := faithful drawn statement state exact
  rw [stands] at executed
  exact ⟨_, _, _, rfl, executed, rfl⟩

theorem createUser_leads (faithful : Faithful answer tables)
    (stands : tables state = agenda.tables) (drawn : EventId) (user : User) :
    Leads tables agenda drawn (.createUser user)
      ((perform (.createUser user)).play (answer drawn) state) := by
  have exact : Statement.Exact (.insertUser user) := exact_of_timeless rfl
  obtain ⟨reply, after, _, replied, executed, left⟩ := reply_of_faithful faithful stands drawn exact
  simp only [perform, play_answerWith, createUser, play_bind, play_tally, play_query, replied]
  cases executed with
  | nameTaken known =>
    obtain ⟨old, found, _⟩ := Option.map_eq_some_iff.mp known
    exact ⟨agenda, .nameTaken ⟨old, found⟩, left⟩
  | userInserted unknown =>
    refine ⟨_, .userCreated ((agenda.unknown_tables_iff _).mp unknown), left.trans ?_⟩
    simp only [Agenda.tables, FiniteMap.rekey_set]
    rfl

theorem getUser_leads (faithful : Faithful answer tables) (sound : agenda.Sound)
    (stands : tables state = agenda.tables) (drawn : EventId) (name : String) :
    Leads tables agenda drawn (.getUser name)
      ((perform (.getUser name)).play (answer drawn) state) := by
  have exact : Statement.Exact (.selectUser name) := exact_of_timeless rfl
  obtain ⟨reply, after, _, replied, executed, left⟩ := reply_of_faithful faithful stands drawn exact
  simp only [perform, play_answerWith, getUser, play_bind, play_tally, play_query, replied]
  cases executed with
  | userSelected found rows =>
    obtain ⟨user, present, rfl⟩ : ∃ user, agenda.users.lookup name = some user ∧ user.row = _ :=
      Option.map_eq_some_iff.mp found
    obtain rfl := sound.ownName present
    simp only [rows, play_pure, readUser_cells]
    exact ⟨agenda, .userFound present, left⟩
  | nobodySelected missing rows =>
    simp only [rows, play_pure]
    exact ⟨agenda, .userMissing ((agenda.unknown_tables_iff _).mp missing), left⟩

theorem deleteUser_leads (faithful : Faithful answer tables)
    (stands : tables state = agenda.tables) (drawn : EventId) (name : String) :
    Leads tables agenda drawn (.deleteUser name)
      ((perform (.deleteUser name)).play (answer drawn) state) := by
  have exact : Statement.Exact (.deleteUser name) := exact_of_timeless rfl
  obtain ⟨reply, after, _, replied, executed, left⟩ := reply_of_faithful faithful stands drawn exact
  simp only [perform, play_answerWith, deleteUser, play_bind, play_tally, play_query, replied]
  cases executed with
  | userDeleted found affected =>
    obtain ⟨user, present, _⟩ := Option.map_eq_some_iff.mp found
    simp only [affected, play_pure, Nat.one_ne_zero, if_false]
    refine ⟨_, .userDeleted ⟨user, present⟩, left.trans ?_⟩
    have events : (agenda.events.keep fun _ event => event.owner ≠ name).rekey (Equiv.refl _)
        Event.row = agenda.tables.events.keep fun _ row => row.owner ≠ name :=
      FiniteMap.rekey_keep _ _ _ _ _ fun _ _ => rfl
    simp only [Agenda.tables, FiniteMap.rekey_erase, events]
    rfl
  | nobodyDeleted missing affected =>
    simp only [affected, play_pure, if_true]
    exact ⟨agenda, .nobodyToDelete ((agenda.unknown_tables_iff _).mp missing), left⟩

theorem getEvent_leads (faithful : Faithful answer tables) (sound : agenda.Sound)
    (stands : tables state = agenda.tables) (drawn : EventId) (owner : String) (id : EventId) :
    Leads tables agenda drawn (.getEvent owner id)
      ((perform (.getEvent owner id)).play (answer drawn) state) := by
  have exact : Statement.Exact (.selectEvent owner id) := exact_of_timeless rfl
  obtain ⟨reply, after, _, replied, executed, left⟩ := reply_of_faithful faithful stands drawn exact
  simp only [perform, play_answerWith, getEvent, play_bind, play_tally, play_query, replied]
  cases executed with
  | eventSelected held rows =>
    obtain ⟨event, owned, rfl⟩ := (agenda.holds_tables_iff _ _ _).mp held
    obtain rfl := sound.ownId owned.1
    simp only [rows, play_pure, readEvent_cells (sound.kept owned.1)]
    exact ⟨agenda, .eventFound owned, left⟩
  | noEventSelected missing rows =>
    simp only [rows, play_pure]
    exact ⟨agenda, .eventMissing ((agenda.held_tables_iff _ _).not.mp missing), left⟩

theorem deleteEvent_leads (faithful : Faithful answer tables)
    (stands : tables state = agenda.tables) (drawn : EventId) (owner : String) (id : EventId) :
    Leads tables agenda drawn (.deleteEvent owner id)
      ((perform (.deleteEvent owner id)).play (answer drawn) state) := by
  have exact : Statement.Exact (.deleteEvent owner id) := exact_of_timeless rfl
  obtain ⟨reply, after, _, replied, executed, left⟩ := reply_of_faithful faithful stands drawn exact
  simp only [perform, play_answerWith, deleteEvent, play_bind, play_tally, play_query, replied]
  cases executed with
  | eventDeleted held affected =>
    obtain ⟨event, owned, rfl⟩ := (agenda.holds_tables_iff _ _ _).mp held
    simp only [affected, play_pure, Nat.one_ne_zero, if_false]
    refine ⟨_, .eventDeleted owned, left.trans ?_⟩
    simp only [Agenda.tables, FiniteMap.rekey_erase]
    rfl
  | noEventDeleted missing affected =>
    simp only [affected, play_pure, if_true]
    exact ⟨agenda, .nothingToDelete ((agenda.held_tables_iff _ _).not.mp missing), left⟩

theorem listEvents_leads (faithful : Faithful answer tables) (sound : agenda.Sound)
    (stands : tables state = agenda.tables) (drawn : EventId) (owner : String)
    {start stop : Instant} (startExact : start.Exact) (stopExact : stop.Exact) :
    Leads tables agenda drawn (.listEvents owner start stop)
      ((perform (.listEvents owner start stop)).play (answer drawn) state) := by
  have exact : Statement.Exact (.selectWindow owner start stop) :=
    exact_of_times rfl startExact stopExact
  obtain ⟨reply, after, _, replied, executed, left⟩ := reply_of_faithful faithful stands drawn exact
  simp only [perform, play_answerWith, listEvents, play_bind, play_tally, play_query, replied]
  cases executed with
  | windowSelected selects rows =>
    have meets (id : EventId) (event : Event) (stored : agenda.events.lookup id = some event) :
        event.row.owner = owner ∧ event.row.Meets start stop ↔
          event.owner = owner ∧ event.fields.start < stop ∧ start < event.fields.stop :=
      and_congr_right' (Agenda.meets_row_iff (sound.kept stored) startExact stopExact)
    have ordered (a b : Instant) (aExact : a.Exact) (bExact : b.Exact)
        (after : b.micros ≤ a.micros) : b ≤ a :=
      (bExact.micros_le_iff aExact).mp after
    obtain ⟨listed, lists, kept, cells⟩ := sound.lists selects meets ordered
    simp only [rows, cells, play_pure, readEvents_cells kept]
    exact ⟨agenda, .eventsListed lists, left⟩

/-- Fields in order in time that is free break nothing but the reference to the owner. -/
theorem unknown_of_breaks {owner : String} {id : EventId}
    {fields : EventFields} (kept : fields.Kept)
    (clear : ¬agenda.tables.Clashes owner (some id) fields.start fields.stop) {code : String}
    (breaks : agenda.tables.Breaks id ⟨owner, fields.bound⟩ code) :
    code = "23503" ∧ ¬agenda.Known owner := by
  cases breaks with
  | unknownOwner unknown => exact ⟨rfl, (agenda.unknown_tables_iff _).mp unknown⟩
  | overlap held differ overlaps =>
    have apart : max fields.start.micros _ < min fields.stop.micros _ := overlaps
    refine absurd ⟨_, _, held, fun same => differ (Option.some.inj same).symm, ?_⟩ clear
    exact ⟨by omega, by omega⟩
  | inverted backwards =>
    have ordered := (kept.start.micros_le_iff kept.stop).mpr kept.ordered
    have backwards : fields.stop.micros < fields.start.micros := backwards
    omega

theorem createEvent_leads (faithful : Faithful answer tables) (sound : agenda.Sound)
    (stands : tables state = agenda.tables) {drawn : EventId}
    (unused : agenda.events.lookup drawn = none) (owner : String) {fields : EventFields}
    (storable : fields.Storable) :
    Leads tables agenda drawn (.createEvent owner fields)
      ((perform (.createEvent owner fields)).play (answer drawn) state) := by
  have kept := storable.kept
  have exact : Statement.Exact (.insertEvent owner fields.truncated.bound) :=
    exact_of_times rfl kept.start kept.stop
  obtain ⟨reply, after, _, replied, executed, left⟩ := reply_of_faithful faithful stands drawn exact
  simp only [perform, play_answerWith, createEvent, bindFields_of_storable storable, play_bind,
    play_tally, play_sendWrite _ replied executed]
  have clashes := sound.clashes_tables_iff owner none kept.start kept.stop
  cases executed with
  | insertSkipped clash rows =>
    have busy := clashes.mp clash
    obtain ⟨id, event, ⟨stored, own⟩, _⟩ := id busy
    simp only [created, rows, play_busy]
    exact ⟨agenda, .slotTaken (own ▸ sound.enrolled stored) busy, left⟩
  | idTaken clear taken =>
    rw [Agenda.lookup_events_tables, unused] at taken
    cases taken
  | insertRefused clear breaks =>
    have clearToo : ¬agenda.tables.Clashes owner (some drawn) _ _ :=
      fun ⟨id, row, held, _, meets⟩ => clear ⟨id, row, held, nofun, meets⟩
    obtain ⟨rfl, unknown⟩ := unknown_of_breaks kept clearToo breaks
    exact ⟨agenda, .ownerMissing unknown, left⟩
  | eventInserted clear free valid rows =>
    have known : agenda.Known owner := by
      by_contra unknown
      exact valid _ (.unknownOwner ((agenda.unknown_tables_iff _).mpr unknown))
    simp only [created, rows, play_pure]
    refine ⟨_, .eventCreated known (fun busy => clear (clashes.mpr busy)) unused, left.trans ?_⟩
    simp only [Agenda.tables, FiniteMap.rekey_set]
    rfl

theorem updateEvent_leads (faithful : Faithful answer tables) (sound : agenda.Sound)
    (stands : tables state = agenda.tables) (drawn : EventId) (owner : String) (id : EventId)
    {fields : EventFields} (storable : fields.Storable) :
    Leads tables agenda drawn (.updateEvent owner id fields)
      ((perform (.updateEvent owner id fields)).play (answer drawn) state) := by
  have kept := storable.kept
  have exact : Statement.Exact (.updateEvent owner id fields.truncated.bound) :=
    exact_of_times rfl kept.start kept.stop
  obtain ⟨reply, after, _, replied, executed, left⟩ := reply_of_faithful faithful stands drawn exact
  simp only [perform, play_answerWith, updateEvent, bindFields_of_storable storable, play_bind,
    play_tally, play_sendWrite _ replied executed]
  have clashes := sound.clashes_tables_iff owner (some id) kept.start kept.stop
  cases executed with
  | updateSkipped unmatched affected =>
    -- Nothing was affected, so the dialogue asks why.
    have exactToo : Statement.Exact (.eventExists owner id) := exact_of_timeless rfl
    obtain ⟨second, final, _, repliedToo, executedToo, leftToo⟩ :=
      reply_of_faithful faithful left drawn exactToo
    simp only [updated, affected, Nat.lt_irrefl, if_false, whyUnchanged, play_bind, play_query,
      repliedToo]
    cases executedToo with
    | eventExists held rows =>
      obtain ⟨event, owned, _⟩ := (agenda.holds_tables_iff _ _ _).mp held
      simp only [rows, List.isEmpty_cons, Bool.false_eq_true, if_false, play_busy]
      exact ⟨agenda, .newSlotTaken owned (clashes.mp (unmatched ⟨_, held⟩)), leftToo⟩
    | noEventExists missing rows =>
      simp only [rows, List.isEmpty_nil, if_true, play_pure]
      exact ⟨agenda, .nothingToUpdate ((agenda.held_tables_iff _ _).not.mp missing), leftToo⟩
  | updateRefused held clear breaks =>
    obtain ⟨event, ⟨stored, own⟩, _⟩ := (agenda.holds_tables_iff _ _ _).mp held
    obtain ⟨_, unknown⟩ := unknown_of_breaks kept clear breaks
    exact absurd (own ▸ sound.enrolled stored) unknown
  | eventUpdated held clear valid affected =>
    obtain ⟨event, ⟨stored, own⟩, rfl⟩ := (agenda.holds_tables_iff _ _ _).mp held
    simp only [updated, affected, Nat.one_pos, if_true, play_pure]
    refine ⟨_, .eventUpdated ⟨stored, own⟩ (fun busy => clear (clashes.mpr busy)), left.trans ?_⟩
    simp only [Agenda.tables, FiniteMap.rekey_set, ← own]
    rfl

/-- Each call that a database can answer leads from the rows of a sound calendar to those of what
the rules leave of it, with an answer that they allow. -/
theorem perform_leads (faithful : Faithful answer tables) (sound : agenda.Sound)
    (stands : tables state = agenda.tables) {drawn : EventId} {call : Call}
    (storable : call.Storable)
    (unused : ∀ owner fields, call = .createEvent owner fields →
      agenda.events.lookup drawn = none) :
    Leads tables agenda drawn call ((perform call).play (answer drawn) state) := by
  cases call with
  | createUser user => exact createUser_leads faithful stands drawn user
  | getUser name => exact getUser_leads faithful sound stands drawn name
  | deleteUser name => exact deleteUser_leads faithful stands drawn name
  | createEvent owner fields =>
    exact createEvent_leads faithful sound stands (unused owner fields rfl) owner storable
  | getEvent owner id => exact getEvent_leads faithful sound stands drawn owner id
  | updateEvent owner id fields =>
    exact updateEvent_leads faithful sound stands drawn owner id storable
  | deleteEvent owner id => exact deleteEvent_leads faithful stands drawn owner id
  | listEvents owner start stop =>
    exact listEvents_leads faithful sound stands drawn owner storable.1 storable.2
  | listDue _ _ | close => exact storable.elim

/-- The answers of a calendar in a database to calls in order, each with the identifier that the
database draws in it. -/
def answers (answer : EventId → Statement → σ → Reply × σ) :
    List (EventId × Call) → σ → List (Except StorageError Answer)
  | [], _ => []
  | (drawn, call) :: rest, state =>
    let (answered, _, after) := (perform call).run (answer drawn) state
    answered :: answers answer rest after

theorem answers_cons (drawn : EventId) (call : Call) (rest : List (EventId × Call)) :
    answers answer ((drawn, call) :: rest) state =
      ((perform call).play (answer drawn) state).1 ::
        answers answer rest ((perform call).play (answer drawn) state).2 :=
  rfl

theorem storable_renamed {call : Call} (storable : call.Storable)
    (rename : Equiv.Perm EventId) : (call.renamed rename).Storable := by
  cases call <;> exact storable

/-- From the rows of a store under other identifiers, the answers are those of the store. -/
theorem answers_alike (faithful : Faithful answer tables) {rename : Equiv.Perm EventId}
    {store : Store} (inv : store.Invariant) (sound : (store.view.renamed rename).Sound)
    (stands : tables state = (store.view.renamed rename).tables)
    {history : List (EventId × Call)} (admitted : store.AdmitsAll history)
    (storable : ∀ entry ∈ history, entry.2.Storable) :
    List.Forall₂ Agenda.Alike
      ((Store.storage.run history store).1.map (renamedOutcome rename))
      (answers answer (history.map fun entry => (rename entry.1, entry.2.renamed rename))
        state) := by
  induction history generalizing store state with
  | nil => exact .nil
  | cons entry rest ih =>
    obtain ⟨fresh, call⟩ := entry
    obtain ⟨admits, later⟩ := admitted
    have storableToo := storable_renamed (storable _ List.mem_cons_self) rename
    have unused (owner : String) (fields : EventFields)
        (creates : call.renamed rename = .createEvent owner fields) :
        (store.view.renamed rename).events.lookup (rename fresh) = none := by
      cases call with
      | createEvent =>
        have absent : store.view.events.lookup fresh = none := admits
        rw [Agenda.lookup_renamed, absent, Option.map_none]
      | _ => cases creates
    have outcome : Agenda.Outcome (store.view.renamed rename) (rename fresh) _ _ _ :=
      (Store.perform_outcome inv fresh call fun _ => admits).renamed
    obtain ⟨next, outcomeToo, left⟩ := perform_leads faithful sound stands storableToo unused
    obtain ⟨alike, rfl⟩ := outcome.unique outcomeToo
    rw [List.map_cons, answers_cons]
    refine .cons alike ?_
    exact ih (Store.perform_invariant inv fresh call) (outcome.sound sound storableToo) left later
      fun other member => storable other (List.mem_cons_of_mem _ member)

/-- On empty tables and in an empty store, the same calls have the same answers but for the order of
listed events that start together, whatever identifiers the database draws where the store draws
its own; by `exists_renaming` these can be any. -/
theorem backends_agree (faithful : Faithful answer tables) (blank : tables state = .empty)
    {history : List (EventId × Call)} (admitted : Store.empty.AdmitsAll history)
    (storable : ∀ entry ∈ history, entry.2.Storable) (rename : Equiv.Perm EventId) :
    List.Forall₂ Agenda.Alike
      ((Store.storage.run history .empty).1.map (renamedOutcome rename))
      (answers answer (history.map fun entry => (rename entry.1, entry.2.renamed rename)) state) :=
  answers_alike faithful Store.empty_invariant Agenda.empty_sound blank admitted storable

end

/-- One booking is kept and one is refused, in a database that draws 7 where the store draws 1. -/
theorem backends_agree_double_booking :
    let call := EventFields.mk "call" none (Fixture.moment 9 0) (Fixture.moment 10 0)
      (Duration.ofNanos? 900000000001)
    let lunch := EventFields.mk "lunch" none (Fixture.moment 9 59) (Fixture.moment 11 0) none
    let history := [(EventId.ofNat 0, Call.createUser (Fixture.user "alice")),
      (.ofNat 1, .createEvent "alice" call), (.ofNat 2, .createEvent "alice" lunch),
      (.ofNat 0, .listEvents "alice" (Fixture.moment 0 0) (Fixture.moment 12 0))]
    let rename := Equiv.swap (EventId.ofNat 1) (.ofNat 7)
    Faithful Database.execute Database.tables ∧ Database.empty.tables = .empty ∧
      Store.empty.AdmitsAll history ∧ (∀ entry ∈ history, entry.2.Storable) ∧
      List.Forall₂ Agenda.Alike
        ((Store.storage.run history .empty).1.map (renamedOutcome rename))
        (answers Database.execute
          (history.map fun entry => (rename entry.1, entry.2.renamed rename)) .empty) := by
  intro call lunch history rename
  have admitted : Store.empty.AdmitsAll history := by
    have unused : (Store.storage.run (history.take 1) .empty).2.events.get? (.ofNat 1) = none := by
      decide +kernel
    have unusedToo :
        (Store.storage.run (history.take 2) .empty).2.events.get? (.ofNat 2) = none := by
      decide +kernel
    exact ⟨trivial, unused, unusedToo, trivial, trivial⟩
  have callStorable : call.Storable := by
    refine ⟨by decide +kernel, by decide +kernel, by decide +kernel, ?_⟩
    intro lead given
    cases given
    decide
  have lunchStorable : lunch.Storable :=
    ⟨by decide +kernel, by decide +kernel, by decide +kernel, fun _ given => by cases given⟩
  have storable : ∀ entry ∈ history, entry.2.Storable := by
    intro entry member
    simp only [history, List.mem_cons, List.not_mem_nil, or_false] at member
    rcases member with rfl | rfl | rfl | rfl
    · trivial
    · exact callStorable
    · exact lunchStorable
    · exact ⟨⟨by decide +kernel, by decide +kernel⟩, ⟨by decide +kernel, by decide +kernel⟩⟩
  exact ⟨Database.faithful, rfl, admitted, storable,
    backends_agree Database.faithful rfl admitted storable rename⟩

end Sql.Calendar

end Datebook
