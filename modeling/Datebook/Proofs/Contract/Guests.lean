import Datebook.Contract
import Datebook.Proofs.Store.Agenda
import Datebook.Proofs.Store.Invariant
import Mathlib.Data.List.Nodup

/-!
A store with guests.

What a check adds to a store, its guests and their events, stands behind what the store held before.
The guests are strangers there, so that no operation on their behalf sees an event of anyone else,
and when they leave the store is what it was. The names and identifiers that a check has yet to
draw are a supply that it uses up: none of them is in the store.
-/

set_option autoImplicit false

namespace Datebook

namespace Contract

/-- What an identifier is drawn for. -/
inductive Drawing where
  /-- The name of a user, behind a label. -/
  | name (label : String)
  /-- An event, or one that is asked for in vain. -/
  | event
  /-- An event that is refused. -/
  | spare

namespace Drawing

variable (draw : Nat → EventId)

/-- The names made of the identifiers drawn from a place on. -/
def names : Nat → List Drawing → List String
  | _, [] => []
  | place, .name label :: rest => Fixture.uniqueName label (draw place) :: names (place + 1) rest
  | place, .event :: rest | place, .spare :: rest => names (place + 1) rest

/-- The identifiers of events among those drawn from a place on. -/
def events : Nat → List Drawing → List EventId
  | _, [] => []
  | place, .event :: rest => draw place :: events (place + 1) rest
  | place, .name _ :: rest | place, .spare :: rest => events (place + 1) rest

end Drawing

/-- Names and identifiers that are all different, and that a store does not have. -/
structure Unused (store : Store) (draw : Nat → EventId) (place : Nat) (supply : List Drawing) :
    Prop where
  names : ∀ name ∈ Drawing.names draw place supply, store.users.get? name = none
  namesOnce : (Drawing.names draw place supply).Nodup
  events : ∀ id ∈ Drawing.events draw place supply, store.events.get? id = none
  eventsOnce : (Drawing.events draw place supply).Nodup

namespace Unused

variable {store next : Store} {draw : Nat → EventId} {place : Nat} {supply : List Drawing}

theorem mono (unused : Unused store draw place supply)
    (users : ∀ name, store.users.get? name = none → next.users.get? name = none)
    (events : ∀ id, store.events.get? id = none → next.events.get? id = none) :
    Unused next draw place supply where
  names name member := users name (unused.names name member)
  namesOnce := unused.namesOnce
  events id member := events id (unused.events id member)
  eventsOnce := unused.eventsOnce

theorem spend {drawing : Drawing} (unused : Unused store draw place (drawing :: supply)) :
    Unused store draw (place + 1) supply := by
  obtain ⟨names, namesOnce, events, eventsOnce⟩ := unused
  cases drawing with
  | name label =>
    exact ⟨fun name member => names name (List.mem_cons_of_mem _ member), namesOnce.of_cons, events,
      eventsOnce⟩
  | event =>
    exact ⟨names, namesOnce, fun id member => events id (List.mem_cons_of_mem _ member),
      eventsOnce.of_cons⟩
  | spare => exact ⟨names, namesOnce, events, eventsOnce⟩

theorem enrol {name : String} (unused : Unused store draw place supply)
    (other : name ∉ Drawing.names draw place supply) (user : User) :
    Unused { store with users := store.users.insert name user } draw place supply where
  names later member := by
    rw [Table.get?_insert, if_neg]
    · exact unused.names later member
    · rintro rfl
      exact other member
  namesOnce := unused.namesOnce
  events := unused.events
  eventsOnce := unused.eventsOnce

theorem book {id : EventId} (unused : Unused store draw place supply)
    (other : id ∉ Drawing.events draw place supply) (event : Event) :
    Unused { store with events := store.events.insert id event } draw place supply where
  names := unused.names
  namesOnce := unused.namesOnce
  events later member := by
    rw [Table.get?_insert, if_neg]
    · exact unused.events later member
    · rintro rfl
      exact other member
  eventsOnce := unused.eventsOnce

end Unused

/-- What a check has added so far, how many identifiers it has drawn, and for what it draws more. -/
structure Scene where
  guests : List String
  events : List Event
  drawn : Nat
  supply : List Drawing

/-- A store holds what the base does and behind it a scene. -/
structure Hosts (draw : Nat → EventId) (base : Store) (scene : Scene) (store : Store) : Prop where
  users : store.users.entries =
    base.users.entries ++ scene.guests.map fun name => (name, Fixture.user name)
  events : store.events.entries =
    base.events.entries ++ scene.events.map fun event => (event.id, event)
  unused : Unused store draw scene.drawn scene.supply

/-- A name that no user has. -/
def Stranger (base : Store) (name : String) : Prop :=
  base.users.get? name = none

/-- What a scene has to be for a store to hold it behind the base. -/
structure Scene.Sound (scene : Scene) (draw : Nat → EventId) (base : Store) : Prop where
  guestsOnce : scene.guests.Nodup
  strangers : ∀ name ∈ scene.guests, Stranger base name
  names : ∀ name ∈ Drawing.names draw scene.drawn scene.supply,
    Stranger base name ∧ name ∉ scene.guests
  namesOnce : (Drawing.names draw scene.drawn scene.supply).Nodup
  events : ∀ id ∈ Drawing.events draw scene.drawn scene.supply,
    base.events.get? id = none ∧ ∀ event ∈ scene.events, event.id ≠ id
  idsOnce : (scene.events.map (·.id)).Nodup
  eventsOnce : (Drawing.events draw scene.drawn scene.supply).Nodup

/-- From every store with the scene an operation has the outcome, and leaves the later scene. -/
def Answers {α : Type} (draw : Nat → EventId) (base : Store)
    (operation : Store → Except StorageError α × Store) (scene : Scene)
    (outcome : Except StorageError α) (later : Scene) : Prop :=
  ∀ store, Hosts draw base scene store →
    ∃ next, operation store = (outcome, next) ∧ Hosts draw base later next

namespace Hosts

variable {draw : Nat → EventId} {base store : Store} {guests : List String} {events : List Event}
  {drawn : Nat} {supply : List Drawing}

theorem nobody (unused : Unused base draw drawn supply) :
    Hosts draw base ⟨[], [], drawn, supply⟩ base where
  users := (List.append_nil _).symm
  events := (List.append_nil _).symm
  unused := unused

theorem eq_base (hosts : Hosts draw base ⟨[], [], drawn, supply⟩ store) : store = base := by
  have users := Table.ext_entries (hosts.users.trans (List.append_nil _))
  have events := Table.ext_entries (hosts.events.trans (List.append_nil _))
  cases store
  cases base
  cases users
  cases events
  rfl

theorem get?_guest (hosts : Hosts draw base ⟨guests, events, drawn, supply⟩ store) {name : String}
    (guest : name ∈ guests) : store.users.get? name = some (Fixture.user name) := by
  rw [Table.get?_eq_some_iff, hosts.users]
  exact List.mem_append_right _ (List.mem_map_of_mem guest)

theorem get?_stranger (hosts : Hosts draw base ⟨guests, events, drawn, supply⟩ store)
    {name : String} (stranger : Stranger base name) (absent : name ∉ guests) :
    store.users.get? name = none := by
  unfold Table.get?
  rw [Entries.find?_eq_none, hosts.users, List.map_append, List.mem_append]
  rintro (known | guest)
  · exact (Entries.find?_eq_none name _).mp stranger known
  · simp only [List.map_map, List.mem_map, Function.comp_apply, exists_eq_right] at guest
    exact absent guest

theorem contains_guest (hosts : Hosts draw base ⟨guests, events, drawn, supply⟩ store)
    {name : String} (guest : name ∈ guests) : store.users.contains name = true := by
  rw [Table.contains, hosts.get?_guest guest, Option.isSome_some]

theorem contains_stranger (hosts : Hosts draw base ⟨guests, events, drawn, supply⟩ store)
    {name : String} (stranger : Stranger base name) (absent : name ∉ guests) :
    store.users.contains name = false := by
  rw [Table.contains, hosts.get?_stranger stranger absent, Option.isSome_none]

theorem stranger (hosts : Hosts draw base ⟨guests, events, drawn, supply⟩ store) {name : String}
    (guest : name ∈ guests) : Stranger base name := by
  have distinct := store.users.distinct
  rw [hosts.users, List.map_append, List.nodup_append] at distinct
  apply (Entries.find?_eq_none name _).mpr
  intro known
  refine distinct.2.2 name known name ?_ rfl
  simpa only [List.map_map, List.mem_map, Function.comp_apply, exists_eq_right] using guest

theorem guests_nodup (hosts : Hosts draw base ⟨guests, events, drawn, supply⟩ store) :
    guests.Nodup := by
  have distinct := store.users.distinct
  rw [hosts.users, List.map_append, List.nodup_append, List.map_map] at distinct
  exact distinct.2.1.of_map _

theorem mem_events_iff (hosts : Hosts draw base ⟨guests, events, drawn, supply⟩ store)
    (id : EventId) (event : Event) : store.events.get? id = some event ↔
      base.events.get? id = some event ∨ event ∈ events ∧ event.id = id := by
  rw [Table.get?_eq_some_iff, Table.get?_eq_some_iff, hosts.events, List.mem_append, List.mem_map]
  apply or_congr_right
  constructor
  · rintro ⟨_, member, same⟩
    cases same
    exact ⟨member, rfl⟩
  · rintro ⟨member, rfl⟩
    exact ⟨event, member, rfl⟩

theorem ids_nodup (hosts : Hosts draw base ⟨guests, events, drawn, supply⟩ store) :
    (events.map (·.id)).Nodup := by
  have distinct := store.events.distinct
  rw [hosts.events, List.map_append, List.nodup_append, List.map_map] at distinct
  exact distinct.2.1

theorem sound (hosts : Hosts draw base ⟨guests, events, drawn, supply⟩ store) :
    Scene.Sound ⟨guests, events, drawn, supply⟩ draw base where
  guestsOnce := hosts.guests_nodup
  strangers _ guest := hosts.stranger guest
  names name member := by
    have absent := hosts.unused.names name member
    constructor
    · apply (Entries.find?_eq_none name _).mpr
      intro known
      apply (Entries.find?_eq_none name _).mp absent
      rw [hosts.users, List.map_append]
      exact List.mem_append_left _ known
    · intro guest
      rw [hosts.get?_guest guest] at absent
      cases absent
  namesOnce := hosts.unused.namesOnce
  events id member := by
    have absent := hosts.unused.events id member
    constructor
    · rw [Option.eq_none_iff_forall_ne_some]
      intro event known
      rw [(hosts.mem_events_iff id event).mpr (.inl known)] at absent
      cases absent
    · rintro event present rfl
      rw [(hosts.mem_events_iff _ event).mpr (.inr ⟨present, rfl⟩)] at absent
      cases absent
  idsOnce := hosts.ids_nodup
  eventsOnce := hosts.unused.eventsOnce

theorem get?_unused (hosts : Hosts draw base ⟨guests, events, drawn, supply⟩ store) {id : EventId}
    (unused : base.events.get? id = none) (new : ∀ event ∈ events, event.id ≠ id) :
    store.events.get? id = none := by
  rw [Option.eq_none_iff_forall_ne_some]
  intro event stored
  rcases (hosts.mem_events_iff id event).mp stored with known | ⟨member, same⟩
  · rw [unused] at known
    cases known
  · exact new event member same

theorem id_new (hosts : Hosts draw base ⟨guests, events, drawn, supply⟩ store) {event : Event}
    (member : event ∈ events) : event.id ∉ base.events.entries.map (·.1) := by
  have distinct := store.events.distinct
  rw [hosts.events, List.map_append, List.nodup_append, List.map_map] at distinct
  intro known
  exact distinct.2.2 event.id known event.id (List.mem_map_of_mem member) rfl

theorem values (hosts : Hosts draw base ⟨guests, events, drawn, supply⟩ store) :
    store.events.values = base.events.values ++ events := by
  unfold Table.values
  rw [hosts.events, List.map_append, List.map_map]
  exact congrArg (_ ++ ·) (List.map_id events)

section

variable (inv : base.Invariant) {owner : String}

include inv

theorem owner_ne {id : EventId} {event : Event} (known : base.events.get? id = some event)
    (stranger : Stranger base owner) : event.owner ≠ owner := by
  rintro rfl
  obtain ⟨user, found⟩ := inv.enrolled known
  rw [stranger] at found
  cases found

theorem owner_ne_of_mem {event : Event} (member : event ∈ base.events.values)
    (stranger : Stranger base owner) : event.owner ≠ owner := by
  obtain ⟨id, known⟩ := (Table.mem_values_iff _ _).mp member
  exact owner_ne inv known stranger

theorem owned?_iff (hosts : Hosts draw base ⟨guests, events, drawn, supply⟩ store)
    (stranger : Stranger base owner) (id : EventId) (event : Event) :
    store.owned? owner id = some event ↔
      event ∈ events ∧ event.id = id ∧ event.owner = owner := by
  rw [Store.owned?_eq_some_iff, hosts.mem_events_iff]
  constructor
  · rintro ⟨known | ⟨member, same⟩, owned⟩
    · exact absurd owned (owner_ne inv known stranger)
    · exact ⟨member, same, owned⟩
  · rintro ⟨member, same, owned⟩
    exact ⟨.inr ⟨member, same⟩, owned⟩

theorem isBusy_iff (hosts : Hosts draw base ⟨guests, events, drawn, supply⟩ store)
    (stranger : Stranger base owner) (passOver : Event → Bool) (start stop : Instant) :
    store.isBusy owner passOver start stop = true ↔ ∃ event ∈ events, passOver event = false ∧
      event.owner = owner ∧ event.overlaps start stop = true := by
  rw [Store.isBusy_iff]
  constructor
  · rintro ⟨id, event, stored, counted, owned, overlapping⟩
    rcases (hosts.mem_events_iff id event).mp stored with known | ⟨member, _⟩
    · exact absurd owned (owner_ne inv known stranger)
    · exact ⟨event, member, counted, owned, overlapping⟩
  · rintro ⟨event, member, counted, owned, overlapping⟩
    exact ⟨event.id, event, (hosts.mem_events_iff _ _).mpr (.inr ⟨member, rfl⟩), counted, owned,
      overlapping⟩

end

end Hosts

section

variable {draw : Nat → EventId} {base : Store} {guests : List String} {events : List Event}
  {drawn : Nat} {supply : List Drawing} {name : String}

theorem createUser_answers (stranger : Stranger base name) (absent : name ∉ guests)
    (other : name ∉ Drawing.names draw drawn supply) :
    Answers draw base (Store.storage.createUser (Fixture.user name))
      ⟨guests, events, drawn, supply⟩ (.ok ()) ⟨guests ++ [name], events, drawn, supply⟩ := by
  intro store hosts
  have unknown := hosts.get?_stranger stranger absent
  have free := hosts.contains_stranger stranger absent
  refine ⟨{ store with users := store.users.insert name (Fixture.user name) }, ?_, ?_,
    hosts.events, hosts.unused.enrol other _⟩
  · dsimp only [Store.storage, Store.createUser, Fixture.user]
    rw [free]
    rfl
  dsimp only
  rw [Table.entries_insert_of_absent _ _ unknown, hosts.users, List.map_append, List.append_assoc]
  rfl

theorem createUser_twice (guest : name ∈ guests) :
    Answers draw base (Store.storage.createUser (Fixture.user name)) ⟨guests, events, drawn, supply⟩
      (.error (.userExists name)) ⟨guests, events, drawn, supply⟩ := by
  intro store hosts
  exact ⟨store, if_pos (hosts.contains_guest guest), hosts⟩

theorem getUser_answers (guest : name ∈ guests) :
    Answers draw base (Store.storage.getUser name) ⟨guests, events, drawn, supply⟩
      (.ok (Fixture.user name)) ⟨guests, events, drawn, supply⟩ := by
  intro store hosts
  refine ⟨store, ?_, hosts⟩
  dsimp only [Store.storage]
  rw [Store.getUser, hosts.get?_guest guest]

theorem getUser_missing (stranger : Stranger base name) (absent : name ∉ guests) :
    Answers draw base (Store.storage.getUser name) ⟨guests, events, drawn, supply⟩
      (.error (.userNotFound name)) ⟨guests, events, drawn, supply⟩ := by
  intro store hosts
  refine ⟨store, ?_, hosts⟩
  dsimp only [Store.storage]
  rw [Store.getUser, hosts.get?_stranger stranger absent]

theorem deleteUser_missing (stranger : Stranger base name) (absent : name ∉ guests) :
    Answers draw base (Store.storage.deleteUser name) ⟨guests, events, drawn, supply⟩
      (.error (.userNotFound name)) ⟨guests, events, drawn, supply⟩ := by
  intro store hosts
  have unknown := hosts.contains_stranger stranger absent
  exact ⟨store, if_neg (by rw [unknown]; decide), hosts⟩

/-- A guest leaves with its events, and the base keeps all it had. -/
theorem deleteUser_answers (inv : base.Invariant) (left : List String) (kept : List Event)
    (guest : name ∈ guests) (leaves : guests.filter (· ≠ name) = left)
    (keeps : events.filter (·.owner ≠ name) = kept) :
    Answers draw base (Store.storage.deleteUser name) ⟨guests, events, drawn, supply⟩ (.ok ())
      ⟨left, kept, drawn, supply⟩ := by
  subst leaves
  subst keeps
  intro store hosts
  have stranger := hosts.stranger guest
  refine ⟨_, if_pos (hosts.contains_guest guest), ?_, ?_, hosts.unused.mono ?_ ?_⟩
  · dsimp only [Table.erase, Table.filter]
    rw [hosts.users, List.filter_append, List.filter_map, List.filter_eq_self.mpr]
    · rfl
    · intro entry member
      apply decide_eq_true
      rintro rfl
      exact (Entries.find?_eq_none _ _).mp stranger (List.mem_map_of_mem member)
  · dsimp only [Table.filter]
    rw [hosts.events, List.filter_append, List.filter_map, List.filter_eq_self.mpr]
    · rfl
    · intro entry member
      apply decide_eq_true
      exact Hosts.owner_ne inv ((Table.get?_eq_some_iff _ entry.1 entry.2).mpr member) stranger
  · intro other absent
    rw [Table.get?_erase, absent, ite_self]
  · intro id absent
    rw [Table.get?_filter, absent, Option.filter_none]

end

section

variable {draw : Nat → EventId} {base : Store} {guests : List String} {events : List Event}
  {drawn : Nat} {supply : List Drawing}
  {owner : String} {id : EventId} {fields : EventFields}

theorem createEvent_ownerless (stranger : Stranger base owner) (absent : owner ∉ guests) :
    Answers draw base (Store.storage.createEvent id owner fields) ⟨guests, events, drawn, supply⟩
      (.error (.userNotFound owner)) ⟨guests, events, drawn, supply⟩ := by
  intro store hosts
  refine ⟨store, ?_, hosts⟩
  dsimp only [Store.storage]
  rw [Store.createEvent_eq, hosts.contains_stranger stranger absent]
  rfl

theorem createEvent_answers (inv : base.Invariant) (guest : owner ∈ guests)
    (unused : base.events.get? id = none) (new : ∀ event ∈ events, event.id ≠ id)
    (other : id ∉ Drawing.events draw drawn supply)
    (free : ∀ event ∈ events, event.owner = owner →
      event.overlaps fields.truncated.start fields.truncated.stop = false) :
    Answers draw base (Store.storage.createEvent id owner fields) ⟨guests, events, drawn, supply⟩
      (.ok id) ⟨guests, events ++ [⟨id, owner, fields.truncated⟩], drawn, supply⟩ := by
  intro store hosts
  have idle : ¬store.isBusy owner (fun _ => false) fields.truncated.start fields.truncated.stop =
      true := by
    rw [hosts.isBusy_iff inv (hosts.stranger guest)]
    rintro ⟨event, member, _, owned, overlapping⟩
    rw [free event member owned] at overlapping
    cases overlapping
  refine ⟨store.addEvent id owner fields.truncated, ?_, hosts.users, ?_,
    hosts.unused.book other _⟩
  · dsimp only [Store.storage]
    rw [Store.createEvent_eq, hosts.contains_guest guest, if_neg (by decide), if_neg idle]
  · dsimp only [Store.addEvent]
    rw [Table.entries_insert_of_absent _ _ (hosts.get?_unused unused new), hosts.events,
      List.map_append, List.append_assoc]
    rfl

theorem createEvent_busy (inv : base.Invariant) (guest : owner ∈ guests) {other : EventId}
    {kept : EventFields} (member : ⟨other, owner, kept⟩ ∈ events)
    (overlapping : kept.overlaps fields.truncated.start fields.truncated.stop = true) :
    Answers draw base (Store.storage.createEvent id owner fields) ⟨guests, events, drawn, supply⟩
      (.error .dateBusy) ⟨guests, events, drawn, supply⟩ := by
  intro store hosts
  have busy : store.isBusy owner (fun _ => false) fields.truncated.start fields.truncated.stop =
      true := by
    rw [hosts.isBusy_iff inv (hosts.stranger guest)]
    exact ⟨_, member, rfl, rfl, overlapping⟩
  refine ⟨store, ?_, hosts⟩
  dsimp only [Store.storage]
  rw [Store.createEvent_eq, hosts.contains_guest guest, if_neg (by decide), if_pos busy]

theorem getEvent_answers (inv : base.Invariant) (guest : owner ∈ guests)
    (member : ⟨id, owner, fields⟩ ∈ events) :
    Answers draw base (Store.storage.getEvent owner id) ⟨guests, events, drawn, supply⟩
      (.ok ⟨id, owner, fields⟩) ⟨guests, events, drawn, supply⟩ := by
  intro store hosts
  have owned := (hosts.owned?_iff inv (hosts.stranger guest) id _).mpr ⟨member, rfl, rfl⟩
  refine ⟨store, ?_, hosts⟩
  dsimp only [Store.storage]
  rw [Store.getEvent, owned]

theorem Hosts.owned?_missing {store : Store}
    (hosts : Hosts draw base ⟨guests, events, drawn, supply⟩ store) (inv : base.Invariant)
    (stranger : Stranger base owner)
    (missing : ∀ event ∈ events, event.id = id → event.owner ≠ owner) :
    store.owned? owner id = none := by
  rw [Option.eq_none_iff_forall_ne_some]
  intro event owned
  obtain ⟨member, same, ownedToo⟩ := (hosts.owned?_iff inv stranger id event).mp owned
  exact missing event member same ownedToo

theorem getEvent_missing (inv : base.Invariant) (stranger : Stranger base owner)
    (missing : ∀ event ∈ events, event.id = id → event.owner ≠ owner) :
    Answers draw base (Store.storage.getEvent owner id) ⟨guests, events, drawn, supply⟩
      (.error (.eventNotFound id)) ⟨guests, events, drawn, supply⟩ := by
  intro store hosts
  refine ⟨store, ?_, hosts⟩
  dsimp only [Store.storage]
  rw [Store.getEvent, hosts.owned?_missing inv stranger missing]

theorem updateEvent_missing (inv : base.Invariant) (stranger : Stranger base owner)
    (missing : ∀ event ∈ events, event.id = id → event.owner ≠ owner) :
    Answers draw base (Store.storage.updateEvent owner id fields) ⟨guests, events, drawn, supply⟩
      (.error (.eventNotFound id)) ⟨guests, events, drawn, supply⟩ := by
  intro store hosts
  refine ⟨store, ?_, hosts⟩
  dsimp only [Store.storage, Store.updateEvent]
  rw [hosts.owned?_missing inv stranger missing]

theorem deleteEvent_missing (inv : base.Invariant) (stranger : Stranger base owner)
    (missing : ∀ event ∈ events, event.id = id → event.owner ≠ owner) :
    Answers draw base (Store.storage.deleteEvent owner id) ⟨guests, events, drawn, supply⟩
      (.error (.eventNotFound id)) ⟨guests, events, drawn, supply⟩ := by
  intro store hosts
  refine ⟨store, ?_, hosts⟩
  dsimp only [Store.storage, Store.deleteEvent]
  rw [hosts.owned?_missing inv stranger missing]

/-!
The first event of a scene changes in its place. That it does not stand in its own way is because no
other event has its identifier.
-/

section

variable {old : EventFields} {others : List Event}

theorem Hosts.id_ne_of_other {store : Store}
    (hosts : Hosts draw base ⟨guests, ⟨id, owner, old⟩ :: others, drawn, supply⟩ store)
    {event : Event} (member : event ∈ others) : event.id ≠ id := by
  have once := (List.nodup_cons.mp hosts.ids_nodup).1
  intro same
  exact once (List.mem_map.mpr ⟨event, member, same⟩)

theorem updateEvent_answers (inv : base.Invariant) (guest : owner ∈ guests)
    (free : ∀ event ∈ others, event.owner = owner →
      event.overlaps fields.truncated.start fields.truncated.stop = false) :
    Answers draw base (Store.storage.updateEvent owner id fields)
      ⟨guests, ⟨id, owner, old⟩ :: others, drawn, supply⟩ (.ok ())
      ⟨guests, ⟨id, owner, fields.truncated⟩ :: others, drawn, supply⟩ := by
  intro store hosts
  have stranger := hosts.stranger guest
  have owned := (hosts.owned?_iff inv stranger id ⟨id, owner, old⟩).mpr
    ⟨List.mem_cons_self, rfl, rfl⟩
  have idle : ¬store.isBusy owner (fun other => other.id = id) fields.truncated.start
      fields.truncated.stop = true := by
    rw [hosts.isBusy_iff inv stranger]
    rintro ⟨event, member, counted, ownedToo, overlapping⟩
    rcases List.mem_cons.mp member with rfl | other
    · exact of_decide_eq_false counted rfl
    · rw [free event other ownedToo] at overlapping
      cases overlapping
  refine ⟨{ store with events := store.events.insert id ⟨id, owner, fields.truncated⟩ }, ?_,
    hosts.users, ?_, hosts.unused.mono (fun _ absent => absent) ?_⟩
  · dsimp only [Store.storage, Store.updateEvent]
    rw [owned]
    dsimp only
    rw [if_neg idle]
    rfl
  · dsimp only [Table.insert]
    rw [hosts.events,
      Entries.put_append_of_absent _ _ _ _ (hosts.id_new List.mem_cons_self), List.map_cons,
      List.map_cons, Entries.put, if_pos rfl]
  · intro later absent
    rw [Table.get?_insert, if_neg, absent]
    rintro rfl
    rw [((Store.owned?_eq_some_iff _ _ _ _).mp owned).1] at absent
    cases absent

theorem updateEvent_busy (inv : base.Invariant) (guest : owner ∈ guests) {other : EventId}
    {kept : EventFields} (member : ⟨other, owner, kept⟩ ∈ others)
    (overlapping : kept.overlaps fields.truncated.start fields.truncated.stop = true) :
    Answers draw base (Store.storage.updateEvent owner id fields)
      ⟨guests, ⟨id, owner, old⟩ :: others, drawn, supply⟩ (.error .dateBusy)
      ⟨guests, ⟨id, owner, old⟩ :: others, drawn, supply⟩ := by
  intro store hosts
  have stranger := hosts.stranger guest
  have found := (hosts.owned?_iff inv stranger id ⟨id, owner, old⟩).mpr
    ⟨List.mem_cons_self, rfl, rfl⟩
  have busy : store.isBusy owner (fun other => other.id = id) fields.truncated.start
      fields.truncated.stop = true := by
    rw [hosts.isBusy_iff inv stranger]
    exact ⟨_, List.mem_cons_of_mem _ member, decide_eq_false (hosts.id_ne_of_other member), rfl,
      overlapping⟩
  refine ⟨store, ?_, hosts⟩
  dsimp only [Store.storage, Store.updateEvent]
  rw [found]
  dsimp only
  rw [if_pos busy]

theorem deleteEvent_answers (inv : base.Invariant) (guest : owner ∈ guests) :
    Answers draw base (Store.storage.deleteEvent owner id)
      ⟨guests, ⟨id, owner, old⟩ :: others, drawn, supply⟩ (.ok ())
      ⟨guests, others, drawn, supply⟩ := by
  intro store hosts
  have found := (hosts.owned?_iff inv (hosts.stranger guest) id ⟨id, owner, old⟩).mpr
    ⟨List.mem_cons_self, rfl, rfl⟩
  refine ⟨{ store with events := store.events.erase id }, ?_, hosts.users, ?_,
    hosts.unused.mono (fun _ absent => absent) ?_⟩
  · dsimp only [Store.storage, Store.deleteEvent]
    rw [found]
  · dsimp only [Table.erase, Table.filter]
    have kept : others.filter (fun event => decide (event.id ≠ id)) = others := by
      rw [List.filter_eq_self]
      intro event member
      exact decide_eq_true (hosts.id_ne_of_other member)
    rw [hosts.events, List.filter_append, List.map_cons, List.filter_cons_of_neg (by simp),
      List.filter_map, List.filter_eq_self.mpr]
    · exact congrArg (base.events.entries ++ List.map _ ·) kept
    · intro entry member
      apply decide_eq_true
      rintro rfl
      exact hosts.id_new List.mem_cons_self (List.mem_map_of_mem member)
  · intro later absent
    rw [Table.get?_erase, absent, ite_self]

end

/-!
Listings.
-/

/-- Events in the order of their starts, no two of which start together, are in no other order. -/
theorem eq_of_rising {listed rising : List Event} (perm : listed.Perm rising)
    (ordered : listed.Pairwise fun a b => a.start ≤ b.start)
    (rises : rising.Pairwise fun a b => a.start < b.start) : listed = rising := by
  refine List.Perm.eq_of_pairwise ?_ ordered (rises.imp Int.le_of_lt) perm
  intro a b member memberToo before after
  have once : (rising.map Event.start).Nodup := by
    rw [List.Nodup, List.pairwise_map]
    refine rises.imp ?_
    intro a b earlier same
    rw [same] at earlier
    exact Int.lt_irrefl _ earlier
  exact List.inj_on_of_nodup_map once (perm.subset member) memberToo
    (Instant.le_antisymm before after)

/-- Events that were added in the order of their starts are listed in the opposite order. -/
theorem listEvents_answers (inv : base.Invariant) (stranger : Stranger base owner)
    {start stop : Instant} {found : List Event}
    (finds : events.filter (fun event => event.owner = owner && event.overlaps start stop) = found)
    (rises : found.Pairwise fun a b => a.start < b.start) :
    Answers draw base (Store.storage.listEvents owner start stop) ⟨guests, events, drawn, supply⟩
      (.ok found.reverse) ⟨guests, events, drawn, supply⟩ := by
  intro store hosts
  refine ⟨store, ?_, hosts⟩
  have nothing : base.events.values.filter
      (fun event => event.owner = owner && event.overlaps start stop) = [] := by
    rw [List.filter_eq_nil_iff]
    intro event member
    simp [Hosts.owner_ne_of_mem inv member stranger]
  dsimp only [Store.storage, Store.listEvents]
  rw [hosts.values, List.filter_append, nothing, List.nil_append, finds]
  apply congrArg (fun listed => (Except.ok listed, store))
  have falls := pairwise_sorted (R := fun a b => b ≤ a)
    (fun _ _ _ first second => Instant.le_trans second first) (fun a b => Instant.le_total b a)
    found
  apply List.reverse_eq_iff.mp
  exact eq_of_rising ((List.reverse_perm _).trans (List.mergeSort_perm found _))
    (List.pairwise_reverse.mpr falls) rises

/-- The events of the base are listed with those of the scene, each in its place by its start. -/
theorem listDue_finds (start stop : Instant) :
    ∃ due, due.Perm ((base.events.values ++ events).filter (·.dueWithin start stop)) ∧
      (due.Pairwise fun a b => a.start ≤ b.start) ∧
      Answers draw base (Store.storage.listDue start stop) ⟨guests, events, drawn, supply⟩
        (.ok due) ⟨guests, events, drawn, supply⟩ := by
  refine ⟨_, List.mergeSort_perm _ _,
    pairwise_sorted (R := (· ≤ ·)) (fun _ _ _ => Instant.le_trans) Instant.le_total _, ?_⟩
  intro store hosts
  refine ⟨store, ?_, hosts⟩
  dsimp only [Store.storage, Store.listDue]
  rw [hosts.values]

end

end Contract

end Datebook
