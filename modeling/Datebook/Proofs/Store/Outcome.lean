import Datebook.Fixture
import Datebook.Proofs.Store.Agenda
import Datebook.Proofs.Store.Invariant

/-!
Stores follow the rules of a calendar.

A store stands for the agenda of its two tables, its `view`. What a call does to a store is what
the rules allow, and a call that fails leaves the store itself as it was. A new event gets the first
identifier drawn that no event has, so that drawing goes on only while every one is in use. Main
statement: `perform_iff_outcome`.
-/

set_option autoImplicit false

namespace Datebook

namespace Table

variable {κ α : Type} [DecidableEq κ]

/-- A table without the order in which its keys came. -/
def toMap (table : Table κ α) : FiniteMap κ α where
  lookup := table.get?
  finite := by
    refine ⟨table.entries.map (·.1), ?_⟩
    intro key value found
    exact List.mem_map.mpr ⟨(key, value), (get?_eq_some_iff _ _ _).mp found, rfl⟩

theorem toMap_insert (table : Table κ α) (key : κ) (value : α) :
    (table.insert key value).toMap = table.toMap.set key value := by
  apply FiniteMap.ext_lookup
  funext other
  simp only [toMap, FiniteMap.set, get?_insert, eq_comm]

theorem toMap_filter (table : Table κ α) (wanted : κ → α → Bool) :
    (table.filter wanted).toMap = table.toMap.keep wanted := by
  apply FiniteMap.ext_lookup
  funext key
  exact get?_filter table wanted key

theorem toMap_erase (table : Table κ α) (key : κ) :
    (table.erase key).toMap = table.toMap.erase key :=
  toMap_filter table _

end Table

namespace Store

/-- The calendar that a store stands for. -/
def view (store : Store) : Agenda :=
  ⟨store.users.toMap, store.events.toMap⟩

theorem known_view_iff (store : Store) (name : String) :
    store.view.Known name ↔ store.users.contains name = true :=
  (contains_users_iff store name).symm

theorem not_known_view_iff (store : Store) (name : String) :
    ¬store.view.Known name ↔ (!store.users.contains name) = true := by
  rw [known_view_iff, Bool.not_eq_true, Bool.not_eq_true']

theorem owns_view_iff (store : Store) (owner : String) (id : EventId) (event : Event) :
    store.view.Owns owner id event ↔ store.owned? owner id = some event :=
  (owned?_eq_some_iff store owner id event).symm

theorem no_owner_view_iff (store : Store) (owner : String) (id : EventId) :
    (¬∃ event, store.view.Owns owner id event) ↔ store.owned? owner id = none := by
  simp only [owns_view_iff]
  cases store.owned? owner id <;> simp

theorem overlap_iff (start stop otherStart otherStop : Instant) :
    overlap start stop otherStart otherStop = true ↔ start < otherStop ∧ otherStart < stop := by
  simp only [overlap, Bool.and_eq_true, decide_eq_true_eq]

/-- The check of a store agrees with the rule when it passes over the events that the rule does. -/
theorem busy_view_iff (store : Store) (owner : String) (passOver : Event → Bool)
    (exempt : Option EventId) (start stop : Instant)
    (agree : ∀ id event, store.events.get? id = some event →
      (passOver event = false ↔ exempt ≠ some id)) :
    store.view.Busy owner exempt start stop ↔ store.isBusy owner passOver start stop = true := by
  rw [isBusy_iff]
  constructor
  · rintro ⟨id, event, ⟨stored, owned⟩, counted, before, after⟩
    exact ⟨id, event, stored, (agree id event stored).mpr counted, owned,
      (overlap_iff _ _ _ _).mpr ⟨before, after⟩⟩
  · rintro ⟨id, event, stored, counted, owned, overlapping⟩
    exact ⟨id, event, ⟨stored, owned⟩, (agree id event stored).mp counted,
      (overlap_iff _ _ _ _).mp overlapping⟩

theorem busy_view_any_iff (store : Store) (owner : String) (start stop : Instant) :
    store.view.Busy owner none start stop ↔
      store.isBusy owner (fun _ => false) start stop = true := by
  apply busy_view_iff
  intro id event _
  simp only [ne_eq, reduceCtorEq, not_false_eq_true]

theorem Invariant.busy_view_other_iff {store : Store} (inv : store.Invariant) (owner : String)
    (id : EventId) (start stop : Instant) :
    store.view.Busy owner (some id) start stop ↔
      store.isBusy owner (fun other => other.id = id) start stop = true := by
  apply busy_view_iff
  intro other event stored
  rw [inv.ownId stored, decide_eq_false_iff_not, ne_eq, Option.some.injEq, eq_comm]

/-- Events under their own identifiers are different values. -/
theorem Invariant.values_nodup {store : Store} (inv : store.Invariant) :
    store.events.values.Nodup := by
  have keys : store.events.values.map Event.id = store.events.entries.map (·.1) := by
    rw [Table.values, List.map_map]
    apply List.map_congr_left
    intro entry member
    exact inv.ownId ((Table.get?_eq_some_iff _ _ _).mpr member)
  have distinct := store.events.distinct
  rw [← keys] at distinct
  exact List.Pairwise.of_map Event.id
    (fun _ _ differ same => differ (congrArg Event.id same)) distinct

/-- Filtering and sorting the events of a store loses none and repeats none. -/
theorem Invariant.lists {store : Store} (inv : store.Invariant) {wanted : Event → Prop}
    {test : Event → Bool} (agree : ∀ event, test event = true ↔ wanted event)
    {before : Instant → Instant → Prop} [DecidableRel before]
    (trans : ∀ a b c, before a b → before b c → before a c)
    (total : ∀ a b, before a b ∨ before b a) :
    store.view.Lists wanted before
      ((store.events.values.filter test).mergeSort fun a b => before a.start b.start) where
  once := (List.mergeSort_perm _ _).nodup_iff.mpr (inv.values_nodup.filter _)
  mem_iff event := by
    rw [List.mem_mergeSort, List.mem_filter, Table.mem_values_iff, agree]
    rfl
  ordered := pairwise_sorted trans total _

theorem Invariant.listEvents_lists {store : Store} (inv : store.Invariant) (owner : String)
    (start stop : Instant) :
    store.view.Lists
      (fun event => event.owner = owner ∧ event.fields.start < stop ∧ start < event.fields.stop)
      (fun first later => later ≤ first) (store.listEvents owner start stop) := by
  apply inv.lists
  · intro event
    simp only [Bool.and_eq_true, decide_eq_true_eq, Event.overlaps, EventFields.overlaps,
      overlap_iff]
  · intro a b c second first
    exact Instant.le_trans first second
  · intro a b
    exact Instant.le_total b a

theorem Invariant.listDue_lists {store : Store} (inv : store.Invariant) (start stop : Instant) :
    store.view.Lists (fun event => start ≤ event.reminderAt ∧ event.reminderAt < stop)
      (fun first later => first ≤ later) (store.listDue start stop) := by
  apply inv.lists
  · intro event
    exact event.dueWithin_iff start stop
  · intro a b c first second
    exact Instant.le_trans first second
  · exact Instant.le_total

/-- The identifier given to a call that creates an event is one that no event has. -/
def Admits (store : Store) (fresh : EventId) : Call → Prop
  | .createEvent .. => store.events.get? fresh = none
  | _ => True

theorem firstUnused?_eq_none_iff (store : Store) (drawn : List EventId) :
    store.firstUnused? drawn = none ↔
      ∀ id ∈ drawn, ∃ event, store.view.events.lookup id = some event := by
  rw [firstUnused?, List.find?_eq_none]
  simp only [Table.contains, Bool.not_eq_true', Bool.not_eq_false, Option.isSome_iff_exists]
  rfl

/-- A drawn identifier is admitted: drawing goes on until no event has it. -/
theorem admits_of_firstUnused? {store : Store} {drawn : List EventId} {fresh : EventId}
    (found : store.firstUnused? drawn = some fresh) (call : Call) : store.Admits fresh call := by
  have unused : store.events.get? fresh = none := by
    simpa [Table.contains] using List.find?_some found
  cases call with
  | createEvent => exact unused
  | _ => trivial

/-- Each identifier of a history is admitted when its call takes effect. -/
def AdmitsAll : Store → List (EventId × Call) → Prop
  | _, [] => True
  | store, (fresh, call) :: rest =>
    store.Admits fresh call ∧ AdmitsAll (storage.perform fresh call store).2 rest

section

variable (store : Store) (fresh : EventId)

theorem createUser_outcome (user : User) :
    store.view.Outcome fresh (.createUser user)
      ((store.createUser user).1.map fun _ => .nothing) (store.createUser user).2.view := by
  unfold createUser
  split
  · rename_i known
    exact .nameTaken ((known_view_iff _ _).mpr known)
  · rename_i unknown
    simp only [view, Table.toMap_insert]
    exact .userCreated (fun known => unknown ((known_view_iff _ _).mp known))

theorem getUser_outcome (name : String) :
    store.view.Outcome fresh (.getUser name) ((store.getUser name).map .user) store.view := by
  unfold getUser
  cases found : store.users.get? name with
  | some user => exact .userFound found
  | none =>
    apply Agenda.Outcome.userMissing
    rintro ⟨user, foundToo⟩
    rw [show store.view.users.lookup name = none from found] at foundToo
    cases foundToo

theorem deleteUser_outcome (name : String) :
    store.view.Outcome fresh (.deleteUser name)
      ((store.deleteUser name).1.map fun _ => .nothing) (store.deleteUser name).2.view := by
  unfold deleteUser
  split
  · rename_i known
    simp only [view, Table.toMap_erase, Table.toMap_filter]
    exact .userDeleted ((known_view_iff _ _).mpr known)
  · rename_i unknown
    exact .nobodyToDelete (fun known => unknown ((known_view_iff _ _).mp known))

theorem refusal?_eq_none_iff (owner : String) (kept : EventFields) :
    store.refusal? owner kept = none ↔
      store.view.Known owner ∧ ¬store.view.Busy owner none kept.start kept.stop := by
  rw [refusal?, busy_view_any_iff]
  by_cases known : store.view.Known owner
  · rw [if_neg fun missing => (store.not_known_view_iff owner).mpr missing known]
    split
    · rename_i busy
      exact iff_of_false (Option.some_ne_none _) fun granted => granted.2 busy
    · rename_i idle
      exact iff_of_true rfl ⟨known, idle⟩
  · rw [if_pos ((store.not_known_view_iff owner).mp known)]
    exact iff_of_false (Option.some_ne_none _) fun granted => known granted.1

variable {owner : String} {fields : EventFields}

theorem createEvent_refused {cause : StorageError}
    (refused : store.refusal? owner fields.truncated = some cause) :
    store.view.Outcome fresh (.createEvent owner fields) (.error cause) store.view := by
  rw [refusal?] at refused
  by_cases known : store.view.Known owner
  · rw [if_neg fun missing => (store.not_known_view_iff owner).mpr missing known] at refused
    split at refused
    · rename_i busy
      cases refused
      exact .slotTaken known ((busy_view_any_iff _ _ _ _).mpr busy)
    · cases refused
  · rw [if_pos ((store.not_known_view_iff owner).mp known)] at refused
    cases refused
    exact .ownerMissing known

theorem createEvent_granted (granted : store.refusal? owner fields.truncated = none)
    (unused : store.events.get? fresh = none) :
    store.view.Outcome fresh (.createEvent owner fields) (.ok (.created fresh))
      (store.addEvent fresh owner fields.truncated).view := by
  obtain ⟨known, idle⟩ := (store.refusal?_eq_none_iff _ _).mp granted
  simp only [view, addEvent, Table.toMap_insert]
  exact .eventCreated known idle unused

theorem createEvent_outcome (owner : String) (fields : EventFields)
    (unused : store.refusal? owner fields.truncated = none → store.events.get? fresh = none) :
    store.view.Outcome fresh (.createEvent owner fields)
      ((store.createEvent fresh owner fields).1.map .created)
      (store.createEvent fresh owner fields).2.view := by
  rw [createEvent]
  cases refused : store.refusal? owner fields.truncated with
  | some cause => exact createEvent_refused store fresh refused
  | none => exact createEvent_granted store fresh refused (unused refused)

theorem getEvent_outcome (owner : String) (id : EventId) :
    store.view.Outcome fresh (.getEvent owner id) ((store.getEvent owner id).map .event)
      store.view := by
  unfold getEvent
  cases found : store.owned? owner id with
  | some event => exact .eventFound ((owns_view_iff _ _ _ _).mpr found)
  | none => exact .eventMissing ((no_owner_view_iff _ _ _).mpr found)

theorem updateEvent_outcome (inv : store.Invariant) (owner : String) (id : EventId)
    (fields : EventFields) :
    store.view.Outcome fresh (.updateEvent owner id fields)
      ((store.updateEvent owner id fields).1.map fun _ => .nothing)
      (store.updateEvent owner id fields).2.view := by
  unfold updateEvent
  dsimp only
  cases found : store.owned? owner id with
  | none => exact .nothingToUpdate ((no_owner_view_iff _ _ _).mpr found)
  | some event =>
    have owned := (owns_view_iff _ _ _ _).mpr found
    dsimp only
    split
    · rename_i busy
      exact .newSlotTaken owned ((inv.busy_view_other_iff _ _ _ _).mpr busy)
    · rename_i idle
      simp only [view, Table.toMap_insert]
      exact .eventUpdated owned (fun busy => idle ((inv.busy_view_other_iff _ _ _ _).mp busy))

theorem deleteEvent_outcome (owner : String) (id : EventId) :
    store.view.Outcome fresh (.deleteEvent owner id)
      ((store.deleteEvent owner id).1.map fun _ => .nothing)
      (store.deleteEvent owner id).2.view := by
  unfold deleteEvent
  cases found : store.owned? owner id with
  | none => exact .nothingToDelete ((no_owner_view_iff _ _ _).mpr found)
  | some event =>
    simp only [view, Table.toMap_erase]
    exact .eventDeleted ((owns_view_iff _ _ _ _).mpr found)

theorem listEvents_outcome (inv : store.Invariant) (owner : String) (start stop : Instant) :
    store.view.Outcome fresh (.listEvents owner start stop)
      (.ok (.events (store.listEvents owner start stop))) store.view :=
  .eventsListed (inv.listEvents_lists owner start stop)

theorem listDue_outcome (inv : store.Invariant) (start stop : Instant) :
    store.view.Outcome fresh (.listDue start stop) (.ok (.events (store.listDue start stop)))
      store.view :=
  .dueListed (inv.listDue_lists start stop)

end

theorem perform_outcome {store : Store} (inv : store.Invariant) (fresh : EventId) (call : Call)
    (admitted : store.view.Grants call → store.Admits fresh call) :
    store.view.Outcome fresh call (storage.perform fresh call store).1
      (storage.perform fresh call store).2.view := by
  cases call with
  | createUser user => exact createUser_outcome store fresh user
  | getUser name => exact getUser_outcome store fresh name
  | deleteUser name => exact deleteUser_outcome store fresh name
  | createEvent owner fields =>
    apply createEvent_outcome
    intro granted
    exact admitted ((store.refusal?_eq_none_iff _ _).mp granted)
  | getEvent owner id => exact getEvent_outcome store fresh owner id
  | updateEvent owner id fields => exact updateEvent_outcome store fresh inv owner id fields
  | deleteEvent owner id => exact deleteEvent_outcome store fresh owner id
  | listEvents owner start stop => exact listEvents_outcome store fresh inv owner start stop
  | listDue start stop => exact listDue_outcome store fresh inv start stop
  | close => exact .closed

theorem answerWith_error {α : Type} {wrap : α → Answer} {outcome : Except StorageError α × Store}
    {cause : StorageError} (failed : (Storage.answerWith wrap outcome).1 = .error cause) :
    outcome.1 = .error cause := by
  obtain ⟨result, after⟩ := outcome
  cases result with
  | ok value => cases failed
  | error reason =>
    cases failed
    rfl

/-- Every failure is found before anything is changed. -/
theorem perform_of_error {store : Store} {fresh : EventId} {call : Call} {cause : StorageError}
    (failed : (storage.perform fresh call store).1 = .error cause) :
    (storage.perform fresh call store).2 = store := by
  cases call with
  | createUser user =>
    have failed : (store.createUser user).1 = .error cause := answerWith_error failed
    show (store.createUser user).2 = store
    unfold createUser at failed ⊢
    split at failed
    · rw [if_pos ‹_›]
    · cases failed
  | deleteUser name =>
    have failed : (store.deleteUser name).1 = .error cause := answerWith_error failed
    show (store.deleteUser name).2 = store
    unfold deleteUser at failed ⊢
    split at failed
    · cases failed
    · rw [if_neg ‹_›]
  | createEvent owner fields =>
    have failed : (store.createEvent fresh owner fields).1 = .error cause := answerWith_error failed
    show (store.createEvent fresh owner fields).2 = store
    rw [createEvent] at failed ⊢
    cases refused : store.refusal? owner fields.truncated with
    | some cause => rfl
    | none =>
      rw [refused] at failed
      cases failed
  | updateEvent owner id fields =>
    have failed : (store.updateEvent owner id fields).1 = .error cause := answerWith_error failed
    show (store.updateEvent owner id fields).2 = store
    unfold updateEvent at failed ⊢
    dsimp only at failed ⊢
    split at failed
    · rfl
    · split at failed
      · rw [if_pos ‹_›]
      · cases failed
  | deleteEvent owner id =>
    have failed : (store.deleteEvent owner id).1 = .error cause := answerWith_error failed
    show (store.deleteEvent owner id).2 = store
    unfold deleteEvent at failed ⊢
    split at failed
    · rfl
    · cases failed
  | close => cases failed
  | getUser _ | getEvent _ _ | listEvents _ _ _ | listDue _ _ => rfl

/-- With the first identifier drawn that no event has, a call goes as with that one given. -/
theorem perform?_of_firstUnused? {store : Store} {drawn : List EventId} {fresh : EventId}
    (found : store.firstUnused? drawn = some fresh) (call : Call) :
    store.perform? drawn call = some (storage.perform fresh call store) := by
  cases call with
  | createEvent owner fields =>
    show (store.createEvent? drawn owner fields).map _ =
      some (Storage.answerWith .created (store.createEvent fresh owner fields))
    rw [createEvent?, createEvent, found]
    cases store.refusal? owner fields.truncated <;> rfl
  | _ => rfl

/-- What a call comes to with drawn identifiers is what it comes to with a given one. If it is to
create an event, that is one of those drawn, and no event has it. -/
theorem exists_perform_of_perform? {store after : Store} {drawn : List EventId} {call : Call}
    {given : Except StorageError Answer} (done : store.perform? drawn call = some (given, after)) :
    ∃ fresh, storage.perform fresh call store = (given, after) ∧
      (store.view.Grants call → fresh ∈ drawn ∧ store.Admits fresh call) := by
  cases found : store.firstUnused? drawn with
  | some fresh =>
    rw [perform?_of_firstUnused? found] at done
    exact ⟨fresh, Option.some.inj done,
      fun _ => ⟨List.mem_of_find?_eq_some found, admits_of_firstUnused? found call⟩⟩
  | none =>
    cases call with
    | createEvent owner fields =>
      change (store.createEvent? drawn owner fields).map _ = _ at done
      rw [createEvent?, found] at done
      cases refused : store.refusal? owner fields.truncated with
      | some cause =>
        rw [refused] at done
        refine ⟨.ofNat 0, ?_, fun granted => ?_⟩
        · show Storage.answerWith .created (store.createEvent _ owner fields) = _
          rw [createEvent, refused]
          exact Option.some.inj done
        · rw [(store.refusal?_eq_none_iff _ _).mpr granted] at refused
          cases refused
      | none =>
        rw [refused] at done
        cases done
    | _ => exact ⟨.ofNat 0, Option.some.inj done, False.elim⟩

/-- Drawing goes on as long as a new event is to be created and every identifier drawn is that of
another event. -/
theorem perform?_eq_none_iff (store : Store) (drawn : List EventId) (call : Call) :
    store.perform? drawn call = none ↔ store.view.Grants call ∧
      ∀ id ∈ drawn, ∃ event, store.view.events.lookup id = some event := by
  rw [← firstUnused?_eq_none_iff]
  cases call with
  | createEvent owner fields =>
    show (store.createEvent? drawn owner fields).map _ = none ↔ (_ ∧ _) ∧ _
    rw [Option.map_eq_none_iff, ← refusal?_eq_none_iff, createEvent?]
    cases refused : store.refusal? owner fields.truncated with
    | some cause => simp
    | none => simp
  | _ => exact iff_of_false (Option.some_ne_none _) fun granted => granted.1.elim

/-- A call has no outcome only while it is to create an event and all identifiers drawn for it are
in use. Otherwise what it answers and leaves behind is what the rules allow, up to the order of
listed events that start together; a new event has one of the identifiers drawn, which no other
event has, and a call that fails changes nothing. -/
theorem perform_iff_outcome {store : Store} (reachable : store.Reachable) (drawn : List EventId)
    (call : Call) :
    (store.perform? drawn call = none ↔ store.view.Grants call ∧
      ∀ id ∈ drawn, ∃ event, store.view.events.lookup id = some event) ∧
    ∀ given after, store.perform? drawn call = some (given, after) →
      (∃ fresh, ∀ answer next, store.view.Outcome fresh call answer next ↔
        Agenda.Alike given answer ∧ next = after.view) ∧
      (∀ id, given = .ok (.created id) →
        id ∈ drawn ∧ store.view.events.lookup id = none) ∧
      ∀ cause, given = .error cause → after = store := by
  refine ⟨perform?_eq_none_iff store drawn call, ?_⟩
  intro given after done
  obtain ⟨fresh, performed, drew⟩ := exists_perform_of_perform? done
  have outcome := perform_outcome reachable.invariant fresh call fun granted => (drew granted).2
  rw [performed] at outcome
  refine ⟨⟨fresh, fun answer next => ⟨outcome.unique, ?_⟩⟩, ?_, ?_⟩
  · rintro ⟨alike, rfl⟩
    exact outcome.reorder alike
  · rintro id rfl
    obtain ⟨granted, rfl, unused⟩ := outcome.of_created
    exact ⟨(drew granted).1, unused⟩
  · rintro cause rfl
    have unchanged := perform_of_error (congrArg Prod.fst performed)
    rwa [performed] at unchanged

/-- The identifier of the first event is drawn again for the second, which gets the one drawn
next. -/
theorem perform_iff_outcome_redraw :
    let dentist := EventFields.mk "dentist" none (Fixture.moment 9 0) (Fixture.moment 10 0) none
    let haircut := EventFields.mk "haircut" none (Fixture.moment 10 0) (Fixture.moment 11 0) none
    let store := (storage.run [(.ofNat 0, .createUser (Fixture.user "alice")),
      (.ofNat 1, .createEvent "alice" dentist)] .empty).2
    let call := Call.createEvent "alice" haircut
    store.Reachable ∧ store.view.Grants call ∧ store.perform? [.ofNat 1] call = none ∧
      ∃ after, store.perform? [.ofNat 1, .ofNat 2] call = some (.ok (.created (.ofNat 2)), after) ∧
        store.view.Outcome (.ofNat 2) call (.ok (.created (.ofNat 2))) after.view := by
  intro dentist haircut store call
  have reachable : store.Reachable := ⟨_, rfl⟩
  have pending : store.perform? [.ofNat 1] call = none :=
    Option.isNone_iff_eq_none.mp (by decide +kernel)
  have answered : (store.perform? [.ofNat 1, .ofNat 2] call).map (·.1.toOption) =
      some (some (.created (.ofNat 2))) := by decide +kernel
  clear_value store
  obtain ⟨granted, _⟩ := (perform_iff_outcome reachable [.ofNat 1] call).1.mp pending
  obtain ⟨⟨given, after⟩, done, created⟩ := Option.map_eq_some_iff.mp answered
  obtain rfl : given = .ok (.created (.ofNat 2)) := by
    cases given <;> cases created
    rfl
  obtain ⟨⟨fresh, allowed⟩, _⟩ := (perform_iff_outcome reachable _ call).2 _ _ done
  have outcome := (allowed _ _).mpr ⟨.same _, rfl⟩
  obtain ⟨_, rfl, _⟩ := outcome.of_created
  exact ⟨reachable, granted, pending, after, done, outcome⟩

end Store

end Datebook
