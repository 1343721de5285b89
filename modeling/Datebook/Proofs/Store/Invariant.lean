import Datebook.Store.Storage

/-!
The invariant of stores.

An owner is never in two places: no two events of one owner overlap. Every event is kept under its
own identifier and every user under its own name, every event has an owner among the users, and
times are whole microseconds. Each call keeps this, so it holds after every history.
-/

set_option autoImplicit false

namespace Datebook

/-- An event occupies the instants from its start until before its stop. -/
def Event.Occupies (event : Event) (t : Instant) : Prop :=
  event.fields.start ≤ t ∧ t < event.fields.stop

theorem overlap_comm (start stop otherStart otherStop : Instant) :
    overlap start stop otherStart otherStop = overlap otherStart otherStop start stop :=
  Bool.and_comm _ _

/-- Events that share an instant overlap. -/
theorem overlap_of_occupies {first second : Event} {t : Instant} (inFirst : first.Occupies t)
    (inSecond : second.Occupies t) :
    overlap first.fields.start first.fields.stop second.fields.start second.fields.stop = true := by
  have before : first.fields.start < second.fields.stop := Int.lt_of_le_of_lt inFirst.1 inSecond.2
  have after : second.fields.start < first.fields.stop := Int.lt_of_le_of_lt inSecond.1 inFirst.2
  simp only [overlap, before, after, decide_true, Bool.and_self]

/-- Every time of an event is a whole number of microseconds. -/
structure EventFields.WholeMicros (fields : EventFields) : Prop where
  start : fields.start.nano % 1000 = 0
  stop : fields.stop.nano % 1000 = 0
  lead : ∀ lead, fields.lead = some lead → lead.nanos % 1000 = 0

theorem EventFields.truncated_wholeMicros (fields : EventFields) :
    fields.truncated.WholeMicros := by
  refine ⟨?_, ?_, ?_⟩
  · simp only [truncated, Instant.truncated]
    omega
  · simp only [truncated, Instant.truncated]
    omega
  · intro lead kept
    obtain ⟨given, _, rfl⟩ := Option.map_eq_some_iff.mp kept
    simp only [Duration.truncated]
    omega

namespace Store

/-- Whether a name is that of a user. -/
def Enrolled (store : Store) (name : String) : Prop :=
  ∃ user, store.users.get? name = some user

structure Invariant (store : Store) : Prop where
  apart : ∀ {first second : EventId} {a b : Event}, store.events.get? first = some a →
    store.events.get? second = some b → first ≠ second → a.owner = b.owner →
    a.overlaps b.fields.start b.fields.stop = false
  ownId : ∀ {id : EventId} {event : Event}, store.events.get? id = some event → event.id = id
  ownName : ∀ {name : String} {user : User}, store.users.get? name = some user → user.name = name
  enrolled : ∀ {id : EventId} {event : Event}, store.events.get? id = some event →
    store.Enrolled event.owner
  wholeMicros : ∀ {id : EventId} {event : Event}, store.events.get? id = some event →
    event.fields.WholeMicros

theorem contains_users_iff (store : Store) (name : String) :
    store.users.contains name = true ↔ store.Enrolled name :=
  Option.isSome_iff_exists

theorem isBusy_iff (store : Store) (owner : String) (passOver : Event → Bool)
    (start stop : Instant) :
    store.isBusy owner passOver start stop = true ↔
      ∃ id event, store.events.get? id = some event ∧ passOver event = false ∧
        event.owner = owner ∧ event.overlaps start stop = true := by
  simp only [isBusy, List.any_eq_true, Table.mem_values_iff, Bool.and_eq_true, Bool.not_eq_true',
    decide_eq_true_eq]
  constructor
  · rintro ⟨event, ⟨id, stored⟩, ⟨counted, owned⟩, overlapping⟩
    exact ⟨id, event, stored, counted, owned, overlapping⟩
  · rintro ⟨id, event, stored, counted, owned, overlapping⟩
    exact ⟨event, ⟨id, stored⟩, ⟨counted, owned⟩, overlapping⟩

theorem owned?_eq_some_iff (store : Store) (owner : String) (id : EventId) (event : Event) :
    store.owned? owner id = some event ↔
      store.events.get? id = some event ∧ event.owner = owner := by
  simp only [owned?, Option.filter_eq_some_iff, decide_eq_true_eq]

/-- Fewer events, whose owners all stay, and users under their own names. -/
theorem Invariant.restrict {store smaller : Store} (inv : store.Invariant)
    (events : ∀ id event, smaller.events.get? id = some event →
      store.events.get? id = some event ∧ smaller.Enrolled event.owner)
    (names : ∀ name user, smaller.users.get? name = some user → user.name = name) :
    smaller.Invariant where
  apart stored storedToo differ same :=
    inv.apart (events _ _ stored).1 (events _ _ storedToo).1 differ same
  ownId stored := inv.ownId (events _ _ stored).1
  ownName := names _ _
  enrolled stored := (events _ _ stored).2
  wholeMicros stored := inv.wholeMicros (events _ _ stored).1

/-- An event that is put in place overlaps no other event of its owner. -/
theorem Invariant.putEvent {store : Store} (inv : store.Invariant) {id : EventId} {event : Event}
    (ownId : event.id = id) (enrolled : store.Enrolled event.owner)
    (whole : event.fields.WholeMicros)
    (free : ∀ other kept, store.events.get? other = some kept → other ≠ id →
      kept.owner = event.owner → kept.overlaps event.fields.start event.fields.stop = false) :
    Invariant { store with events := store.events.insert id event } where
  apart {first second a b} stored storedToo differ same := by
    simp only [Table.get?_insert] at stored storedToo
    split at stored <;> split at storedToo
    · rename_i firstIsNew secondIsNew
      exact absurd (firstIsNew.symm.trans secondIsNew) differ
    · rename_i firstIsNew secondIsOld
      cases stored
      have := free second b storedToo (fun equal => secondIsOld equal.symm) same.symm
      rwa [Event.overlaps, EventFields.overlaps, overlap_comm]
    · rename_i firstIsOld secondIsNew
      cases storedToo
      exact free first a stored (fun equal => firstIsOld equal.symm) same
    · exact inv.apart stored storedToo differ same
  ownId stored := by
    simp only [Table.get?_insert] at stored
    split at stored
    · rename_i same
      cases stored
      exact ownId.trans same
    · exact inv.ownId stored
  ownName := inv.ownName
  enrolled stored := by
    simp only [Table.get?_insert] at stored
    split at stored
    · cases stored
      exact enrolled
    · exact inv.enrolled stored
  wholeMicros stored := by
    simp only [Table.get?_insert] at stored
    split at stored
    · cases stored
      exact whole
    · exact inv.wholeMicros stored

theorem empty_invariant : Invariant .empty where
  apart stored := by cases stored
  ownId stored := by cases stored
  ownName stored := by cases stored
  enrolled stored := by cases stored
  wholeMicros stored := by cases stored

theorem createUser_invariant {store : Store} (inv : store.Invariant) (user : User) :
    (store.createUser user).2.Invariant := by
  unfold createUser
  split
  · exact inv
  · apply inv.restrict
    · intro id event stored
      obtain ⟨known, found⟩ := inv.enrolled stored
      refine ⟨stored, ?_⟩
      simp only [Enrolled, Table.get?_insert]
      split
      · exact ⟨user, rfl⟩
      · exact ⟨known, found⟩
    · intro name found stored
      simp only [Table.get?_insert] at stored
      split at stored
      · rename_i same
        cases stored
        exact same
      · exact inv.ownName stored

/-- The events that stay have owners that stay. -/
theorem deleteUser_invariant {store : Store} (inv : store.Invariant) (name : String) :
    (store.deleteUser name).2.Invariant := by
  unfold deleteUser
  split
  · apply inv.restrict
    · intro id event stored
      simp only [Table.get?_filter, Option.filter_eq_some_iff, decide_eq_true_eq] at stored
      obtain ⟨stored, foreign⟩ := stored
      obtain ⟨owner, found⟩ := inv.enrolled stored
      refine ⟨stored, owner, ?_⟩
      rw [Table.get?_erase, if_neg (fun same => foreign same.symm)]
      exact found
    · intro other user stored
      rw [Table.get?_erase] at stored
      split at stored
      · cases stored
      · exact inv.ownName stored
  · exact inv

theorem createEvent_invariant {store : Store} (inv : store.Invariant) (fresh : EventId)
    (owner : String) (fields : EventFields) :
    (store.createEvent fresh owner fields).2.Invariant := by
  rw [createEvent_eq]
  split
  · exact inv
  · rename_i known
    split
    · exact inv
    · rename_i idle
      have enrolled : store.Enrolled owner := by
        rw [← contains_users_iff]
        simpa using known
      apply inv.putEvent
      · rfl
      · exact enrolled
      · exact fields.truncated_wholeMicros
      · intro other kept stored _ same
        rw [Bool.eq_false_iff]
        intro overlapping
        exact idle ((isBusy_iff _ _ _ _ _).mpr ⟨other, kept, stored, rfl, same, overlapping⟩)

theorem updateEvent_invariant {store : Store} (inv : store.Invariant) (owner : String)
    (id : EventId) (fields : EventFields) :
    (store.updateEvent owner id fields).2.Invariant := by
  unfold updateEvent
  dsimp only
  split
  · exact inv
  · rename_i event found
    obtain ⟨stored, owned⟩ := (owned?_eq_some_iff _ _ _ _).mp found
    split
    · exact inv
    · rename_i idle
      apply inv.putEvent
      · show event.id = id
        exact inv.ownId stored
      · show store.Enrolled event.owner
        exact inv.enrolled stored
      · exact fields.truncated_wholeMicros
      · intro other kept storedToo differ same
        rw [Bool.eq_false_iff]
        intro overlapping
        -- The check passes over events by the identifier they carry, not by their place.
        have counted : decide (kept.id = id) = false := by
          rw [inv.ownId storedToo]
          exact decide_eq_false differ
        exact idle ((isBusy_iff _ _ _ _ _).mpr
          ⟨other, kept, storedToo, counted, same.trans owned, overlapping⟩)

theorem deleteEvent_invariant {store : Store} (inv : store.Invariant) (owner : String)
    (id : EventId) : (store.deleteEvent owner id).2.Invariant := by
  unfold deleteEvent
  split
  · exact inv
  · apply inv.restrict
    · intro other event stored
      rw [Table.get?_erase] at stored
      split at stored
      · cases stored
      · exact ⟨stored, inv.enrolled stored⟩
    · exact fun _ _ => inv.ownName

theorem perform_invariant {store : Store} (inv : store.Invariant) (fresh : EventId) (call : Call) :
    (storage.perform fresh call store).2.Invariant := by
  cases call with
  | createUser user => exact createUser_invariant inv user
  | deleteUser name => exact deleteUser_invariant inv name
  | createEvent owner fields => exact createEvent_invariant inv fresh owner fields
  | updateEvent owner id fields => exact updateEvent_invariant inv owner id fields
  | deleteEvent owner id => exact deleteEvent_invariant inv owner id
  | close => exact empty_invariant
  | getUser _ | getEvent _ _ | listEvents _ _ _ | listDue _ _ => exact inv

/-- Histories need no assumption on the identifiers that their calls are given. -/
theorem run_invariant {store : Store} (inv : store.Invariant) (history : List (EventId × Call)) :
    (storage.run history store).2.Invariant := by
  induction history generalizing store with
  | nil => exact inv
  | cons first rest ih =>
    obtain ⟨fresh, call⟩ := first
    exact ih (perform_invariant inv fresh call)

/-- A store that some history leads to. -/
def Reachable (store : Store) : Prop :=
  ∃ history, (storage.run history .empty).2 = store

theorem Reachable.invariant {store : Store} (reachable : store.Reachable) : store.Invariant := by
  obtain ⟨history, rfl⟩ := reachable
  exact run_invariant empty_invariant history

/-- After every history, events of one owner exclude each other, every event is kept under its own
identifier for an owner who is a user, and in whole microseconds. -/
theorem run_keeps_owners_apart (history : List (EventId × Call)) :
    let store := (storage.run history .empty).2
    (∀ first second a b, store.events.get? first = some a → store.events.get? second = some b →
      first ≠ second → a.owner = b.owner →
        overlap a.fields.start a.fields.stop b.fields.start b.fields.stop = false ∧
        ∀ t, ¬(a.Occupies t ∧ b.Occupies t)) ∧
    ∀ id event, store.events.get? id = some event →
      event.id = id ∧ (∃ user, store.users.get? event.owner = some user ∧ user.name = event.owner) ∧
        event.fields.WholeMicros := by
  intro store
  have inv : store.Invariant := run_invariant empty_invariant history
  constructor
  · intro first second a b stored storedToo differ same
    have apart : overlap a.fields.start a.fields.stop b.fields.start b.fields.stop = false :=
      inv.apart stored storedToo differ same
    refine ⟨apart, ?_⟩
    rintro t ⟨inFirst, inSecond⟩
    rw [overlap_of_occupies inFirst inSecond] at apart
    cases apart
  · intro id event stored
    obtain ⟨user, found⟩ := inv.enrolled stored
    exact ⟨inv.ownId stored, ⟨user, found, inv.ownName found⟩, inv.wholeMicros stored⟩

end Store

end Datebook
