import Datebook.Proofs.Store.Extent

/-!
Owners do not notice each other.

`Store.only` is what a store holds for one owner. The calls of other owners leave it alone
(`perform_of_other`) and those of the owner depend on nothing else (`perform_only`), so that the
answers to an owner are the same when the others never call: `run_only`. An event of another owner
is as good as missing: `perform_of_foreign`. `owners_isolated` puts these together.
-/

set_option autoImplicit false

namespace Datebook

namespace Call

/-- The owner whom a call is about; a call for all owners has none. -/
def owner? : Call → Option String
  | .createUser user => some user.name
  | .getUser name | .deleteUser name => some name
  | .createEvent owner _ | .getEvent owner _ | .updateEvent owner _ _ | .deleteEvent owner _
  | .listEvents owner _ _ => some owner
  | .listDue _ _ | .close => none

/-- The owner and the event that a call names. -/
def target? : Call → Option (String × EventId)
  | .getEvent owner id | .updateEvent owner id _ | .deleteEvent owner id => some (owner, id)
  | _ => none

end Call

namespace Store

/-- What a store holds for one owner: its record and its events. -/
def only (store : Store) (owner : String) : Store where
  users := store.users.filter fun name _ => name = owner
  events := store.events.filter fun _ event => event.owner = owner

section

variable (store : Store) (owner : String)

theorem get?_users_only : (store.only owner).users.get? owner = store.users.get? owner := by
  rw [only, Table.get?_filter]
  cases store.users.get? owner <;> simp

theorem contains_users_only :
    (store.only owner).users.contains owner = store.users.contains owner := by
  rw [Table.contains, Table.contains, get?_users_only]

theorem owned?_only (id : EventId) :
    (store.only owner).owned? owner id = store.owned? owner id := by
  rw [owned?, owned?, only, Table.get?_filter, Option.filter_filter]
  simp only [Bool.and_self]

theorem values_only :
    (store.only owner).events.values = store.events.values.filter fun event =>
      event.owner = owner :=
  store.events.values_filter _

theorem isBusy_only (passOver : Event → Bool) (start stop : Instant) :
    (store.only owner).isBusy owner passOver start stop =
      store.isBusy owner passOver start stop := by
  rw [isBusy, isBusy, values_only, List.any_filter]
  congr 1
  funext event
  cases decide (event.owner = owner) <;> simp

theorem listEvents_only (start stop : Instant) :
    (store.only owner).listEvents owner start stop = store.listEvents owner start stop := by
  rw [listEvents, listEvents, values_only, List.filter_filter]
  congr 2
  funext event
  cases decide (event.owner = owner) <;> simp

variable {store owner}

theorem only_insertUser_of_other {name : String} {user : User} (differ : name ≠ owner) :
    only { store with users := store.users.insert name user } owner = store.only owner := by
  have foreign : decide (name = owner) = false := decide_eq_false differ
  have same : (store.users.insert name user).filter (fun key _ => key = owner) =
      store.users.filter fun key _ => key = owner :=
    Table.filter_insert_of_dropped foreign fun _ _ => foreign
  simp only [only, same]

theorem only_insertUser {user : User} :
    only { store with users := store.users.insert owner user } owner =
      { store.only owner with users := (store.only owner).users.insert owner user } := by
  have own : decide (owner = owner) = true := decide_eq_true rfl
  have same : (store.users.insert owner user).filter (fun key _ => key = owner) =
      (store.users.filter fun key _ => key = owner).insert owner user :=
    Table.filter_insert_of_kept own fun _ _ => own
  simp only [only, same]

theorem only_insertEvent_of_other {id : EventId} {event : Event} (differ : event.owner ≠ owner)
    (before : ∀ old, store.events.get? id = some old → old.owner ≠ owner) :
    only { store with events := store.events.insert id event } owner = store.only owner := by
  have same : (store.events.insert id event).filter (fun _ event => event.owner = owner) =
      store.events.filter fun _ event => event.owner = owner :=
    Table.filter_insert_of_dropped (decide_eq_false differ)
      fun old stored => decide_eq_false (before old stored)
  simp only [only, same]

theorem only_insertEvent {id : EventId} {event : Event} (own : event.owner = owner)
    (before : ∀ old, store.events.get? id = some old → old.owner = owner) :
    only { store with events := store.events.insert id event } owner =
      { store.only owner with events := (store.only owner).events.insert id event } := by
  have same : (store.events.insert id event).filter (fun _ event => event.owner = owner) =
      (store.events.filter fun _ event => event.owner = owner).insert id event :=
    Table.filter_insert_of_kept (decide_eq_true own)
      fun old stored => decide_eq_true (before old stored)
  simp only [only, same]

theorem only_eraseEvent_of_other {id : EventId} {event : Event}
    (stored : store.events.get? id = some event) (differ : event.owner ≠ owner) :
    only { store with events := store.events.erase id } owner = store.only owner := by
  simp only [only, Table.erase, Table.filter_filter]
  congr 1
  apply Table.filter_congr
  intro key old storedToo
  by_cases same : key = id
  · subst same
    cases stored.symm.trans storedToo
    simp [differ]
  · simp [same]

theorem only_eraseEvent (id : EventId) :
    only { store with events := store.events.erase id } owner =
      { store.only owner with events := (store.only owner).events.erase id } := by
  simp only [only, Table.erase, Table.filter_filter, Bool.and_comm]

/-- A store without a user and the user's events. -/
def without (store : Store) (name : String) : Store where
  users := store.users.erase name
  events := store.events.filter fun _ event => event.owner ≠ name

theorem only_without_of_other {name : String} (differ : name ≠ owner) :
    (store.without name).only owner = store.only owner := by
  simp only [only, without, Table.erase, Table.filter_filter]
  congr 1
  · apply Table.filter_congr
    intro key user _
    by_cases own : key = owner
    · simp [own, differ.symm]
    · simp [own]
  · apply Table.filter_congr
    intro id event _
    by_cases own : event.owner = owner
    · simp [own, differ.symm]
    · simp [own]

theorem only_without (name : String) :
    (store.without name).only owner = (store.only owner).without name := by
  simp only [only, without, Table.erase, Table.filter_filter, Bool.and_comm]

end

/-- What an owner has is not touched by a call of another one. -/
theorem perform_of_other {store : Store} {fresh : EventId} {call : Call} {owner other : String}
    (acts : call.owner? = some other) (differ : other ≠ owner) (admits : store.Admits fresh call) :
    (storage.perform fresh call store).2.only owner = store.only owner := by
  cases call with
  | createUser user =>
    obtain rfl : user.name = other := Option.some.inj acts
    show (store.createUser user).2.only owner = _
    unfold createUser
    split
    · rfl
    · exact only_insertUser_of_other differ
  | deleteUser name =>
    obtain rfl : name = other := Option.some.inj acts
    show (store.deleteUser name).2.only owner = _
    unfold deleteUser
    split
    · exact only_without_of_other differ
    · rfl
  | createEvent name fields =>
    obtain rfl : name = other := Option.some.inj acts
    show (store.createEvent fresh name fields).2.only owner = _
    rw [createEvent_eq]
    split
    · rfl
    · split
      · rfl
      · apply only_insertEvent_of_other differ
        intro old stored
        cases stored.symm.trans admits
  | updateEvent name id fields =>
    obtain rfl : name = other := Option.some.inj acts
    show (store.updateEvent name id fields).2.only owner = _
    unfold updateEvent
    dsimp only
    split
    · rfl
    · rename_i event found
      obtain ⟨stored, rfl⟩ := (owned?_eq_some_iff _ _ _ _).mp found
      split
      · rfl
      · have elsewhere : (event.apply fields.truncated).owner ≠ owner := differ
        refine only_insertEvent_of_other elsewhere fun old storedToo => ?_
        cases stored.symm.trans storedToo
        exact differ
  | deleteEvent name id =>
    obtain rfl : name = other := Option.some.inj acts
    show (store.deleteEvent name id).2.only owner = _
    unfold deleteEvent
    split
    · rfl
    · rename_i event found
      obtain ⟨stored, rfl⟩ := (owned?_eq_some_iff _ _ _ _).mp found
      exact only_eraseEvent_of_other stored differ
  | getUser _ | getEvent _ _ | listEvents _ _ _ => rfl
  | listDue _ _ | close => cases acts

/-- A call of an owner does with what the store holds for the owner what it does with the store. -/
theorem perform_only {store : Store} {fresh : EventId} {call : Call} {owner : String}
    (acts : call.owner? = some owner) (admits : store.Admits fresh call) :
    storage.perform fresh call (store.only owner) =
      ((storage.perform fresh call store).1, (storage.perform fresh call store).2.only owner) := by
  cases call with
  | createUser user =>
    obtain rfl : user.name = owner := Option.some.inj acts
    show Storage.answerWith _ ((store.only user.name).createUser user) =
      (((store.createUser user).1.map _), (store.createUser user).2.only user.name)
    unfold createUser
    rw [contains_users_only]
    split
    · rfl
    · rw [only_insertUser]
      rfl
  | getUser name =>
    obtain rfl : name = owner := Option.some.inj acts
    show (((store.only name).getUser name).map Answer.user, _) = ((store.getUser name).map _, _)
    rw [getUser, get?_users_only]
    rfl
  | deleteUser name =>
    obtain rfl : name = owner := Option.some.inj acts
    show Storage.answerWith _ ((store.only name).deleteUser name) =
      (((store.deleteUser name).1.map _), (store.deleteUser name).2.only name)
    unfold deleteUser
    rw [contains_users_only]
    split
    · exact congrArg (Prod.mk _) (only_without name).symm
    · rfl
  | createEvent name fields =>
    obtain rfl : name = owner := Option.some.inj acts
    show Storage.answerWith _ ((store.only name).createEvent fresh name fields) =
      (((store.createEvent fresh name fields).1.map _),
        (store.createEvent fresh name fields).2.only name)
    rw [createEvent_eq, createEvent_eq, contains_users_only, isBusy_only]
    split
    · rfl
    · split
      · rfl
      · unfold addEvent
        rw [only_insertEvent rfl fun old stored => by cases stored.symm.trans admits]
        rfl
  | getEvent name id =>
    obtain rfl : name = owner := Option.some.inj acts
    show (((store.only name).getEvent name id).map Answer.event, _) =
      ((store.getEvent name id).map _, _)
    rw [getEvent, owned?_only]
    rfl
  | updateEvent name id fields =>
    obtain rfl : name = owner := Option.some.inj acts
    show Storage.answerWith _ ((store.only name).updateEvent name id fields) =
      (((store.updateEvent name id fields).1.map _),
        (store.updateEvent name id fields).2.only name)
    unfold updateEvent
    dsimp only
    rw [owned?_only, isBusy_only]
    split
    · rfl
    · rename_i event found
      obtain ⟨stored, own⟩ := (owned?_eq_some_iff _ _ _ _).mp found
      split
      · rfl
      · have ownToo : (event.apply fields.truncated).owner = name := own
        rw [only_insertEvent ownToo fun old storedToo => by
          cases stored.symm.trans storedToo
          exact own]
        rfl
  | deleteEvent name id =>
    obtain rfl : name = owner := Option.some.inj acts
    show Storage.answerWith _ ((store.only name).deleteEvent name id) =
      (((store.deleteEvent name id).1.map _), (store.deleteEvent name id).2.only name)
    unfold deleteEvent
    rw [owned?_only]
    split
    · rfl
    · rw [only_eraseEvent]
      rfl
  | listEvents name start stop =>
    obtain rfl : name = owner := Option.some.inj acts
    show (Except.ok (Answer.events ((store.only name).listEvents name start stop)), _) =
      (.ok (.events (store.listEvents name start stop)), _)
    rw [listEvents_only]
    rfl
  | listDue _ _ | close => cases acts

/-- An event of another owner is as good as missing. -/
theorem perform_of_foreign {store : Store} {fresh : EventId} {call : Call} {owner : String}
    {id : EventId} (names : call.target? = some (owner, id))
    (foreign : store.owned? owner id = none) :
    storage.perform fresh call store = (.error (.eventNotFound id), store) := by
  cases call with
  | getEvent name key =>
    cases names
    show ((store.getEvent owner id).map Answer.event, _) = _
    rw [getEvent, foreign]
    rfl
  | updateEvent name key fields =>
    cases names
    show Storage.answerWith _ (store.updateEvent owner id fields) = _
    rw [updateEvent, foreign]
    rfl
  | deleteEvent name key =>
    cases names
    show Storage.answerWith _ (store.deleteEvent owner id) = _
    rw [deleteEvent, foreign]
    rfl
  | _ => cases names

/-- Stores that hold the same for an owner. -/
structure SameFor (owner : String) (first second : Store) : Prop where
  user : first.users.get? owner = second.users.get? owner
  events : ∀ id, first.owned? owner id = second.owned? owner id

theorem sameFor_iff (owner : String) (first second : Store) :
    SameFor owner first second ↔ (first.only owner).view = (second.only owner).view := by
  have users (store : Store) (name : String) : (store.only owner).view.users.lookup name =
      if name = owner then store.users.get? owner else none := by
    refine (Table.get?_filter _ _ name).trans ?_
    by_cases own : name = owner
    · subst own
      cases store.users.get? name <;> simp
    · cases store.users.get? name <;> simp [own]
  have events (store : Store) (id : EventId) :
      (store.only owner).view.events.lookup id = store.owned? owner id :=
    Table.get?_filter _ _ id
  constructor
  · intro same
    have usersSame : (first.only owner).view.users = (second.only owner).view.users := by
      apply FiniteMap.ext_lookup
      funext name
      rw [users, users, same.user]
    have eventsSame : (first.only owner).view.events = (second.only owner).view.events := by
      apply FiniteMap.ext_lookup
      funext id
      rw [events, events, same.events]
    exact (Agenda.mk.injEq ..).mpr ⟨usersSame, eventsSame⟩
  · intro same
    refine ⟨?_, fun id => ?_⟩
    · have found := congrArg (fun agenda => agenda.users.lookup owner) same
      simpa only [users, if_pos] using found
    · rw [← events, ← events, same]

theorem Invariant.only {store : Store} (inv : store.Invariant) (owner : String) :
    (store.only owner).Invariant := by
  apply inv.restrict
  · intro id event found
    have owned : store.owned? owner id = some event :=
      (Table.get?_filter _ _ id).symm.trans found
    obtain ⟨stored, rfl⟩ := (owned?_eq_some_iff _ _ _ _).mp owned
    obtain ⟨user, known⟩ := inv.enrolled stored
    exact ⟨stored, user, (get?_users_only store _).trans known⟩
  · intro name user found
    have kept : (store.users.get? name).filter (fun _ => name = owner) = some user :=
      (Table.get?_filter _ _ name).symm.trans found
    exact inv.ownName (Option.filter_eq_some_iff.mp kept).1

theorem Admits.only {store : Store} {fresh : EventId} {call : Call}
    (admits : store.Admits fresh call) (owner : String) :
    (store.only owner).Admits fresh call := by
  cases call with
  | createEvent name fields =>
    have unused : store.events.get? fresh = none := admits
    show (store.only owner).events.get? fresh = none
    rw [Store.only, Table.get?_filter, unused, Option.filter_none]
  | _ => trivial

/-- Events that take time and do not overlap start at different times. -/
theorem Invariant.starts_differ {store : Store} (inv : store.Invariant) {owner : String}
    (timed : ∀ id event, store.owned? owner id = some event → event.start < event.fields.stop)
    {first second : EventId} {a b : Event} (owned : store.owned? owner first = some a)
    (ownedToo : store.owned? owner second = some b) (same : a.start = b.start) : a = b := by
  obtain ⟨stored, own⟩ := (owned?_eq_some_iff _ _ _ _).mp owned
  obtain ⟨storedToo, ownToo⟩ := (owned?_eq_some_iff _ _ _ _).mp ownedToo
  by_cases differ : first = second
  · subst differ
    exact Option.some.inj (stored.symm.trans storedToo)
  · rcases inv.empty_of_same_start stored storedToo differ (own.trans ownToo.symm) same with
      empty | empty
    · exact absurd (timed first a owned) empty
    · exact absurd (timed second b ownedToo) empty

/-- Where an owner's events take time, the rules leave nothing open in the answers to the owner. -/
theorem Invariant.answer_unique {store : Store} (inv : store.Invariant) {owner : String}
    (timed : ∀ id event, store.owned? owner id = some event → event.start < event.fields.stop)
    {fresh : EventId} {call : Call} (acts : call.owner? = some owner)
    {answer other : Except StorageError Answer} {after next : Agenda}
    (outcome : (store.only owner).view.Outcome fresh call answer after)
    (outcomeToo : (store.only owner).view.Outcome fresh call other next) : answer = other := by
  obtain ⟨alike, _⟩ := outcome.unique outcomeToo
  cases alike with
  | same => rfl
  | reordered perm starts =>
    cases outcome with
    | dueListed => cases acts
    | eventsListed lists =>
      have antisymm : ∀ a b : Instant, b ≤ a → a ≤ b → a = b := fun _ _ after before =>
        Instant.le_antisymm before after
      rw [lists.unique antisymm (lists.reorder perm starts)]
      intro a member b memberToo together
      obtain ⟨⟨first, found⟩, _⟩ := (lists.mem_iff a).mp member
      obtain ⟨⟨second, foundToo⟩, _⟩ := (lists.mem_iff b).mp memberToo
      have owned : store.owned? owner first = some a :=
        (Table.get?_filter _ _ first).symm.trans found
      have ownedToo : store.owned? owner second = some b :=
        (Table.get?_filter _ _ second).symm.trans foundToo
      exact inv.starts_differ timed owned ownedToo together

/-- Stores that hold the same for an owner answer the owner alike and hold the same afterwards. -/
theorem perform_of_sameFor {first second : Store} {owner : String} (inv : first.Invariant)
    (invToo : second.Invariant) (same : SameFor owner first second) {fresh : EventId} {call : Call}
    (acts : call.owner? = some owner) (admits : first.Admits fresh call)
    (admitsToo : second.Admits fresh call) :
    let (answer, after) := storage.perform fresh call first
    let (answerToo, afterToo) := storage.perform fresh call second
    Agenda.Alike answer answerToo ∧
    ((∀ id event, first.owned? owner id = some event → event.start < event.fields.stop) →
      answer = answerToo) ∧
    SameFor owner after afterToo := by
  have outcome := perform_outcome (inv.only owner) fresh call fun _ => admits.only owner
  have outcomeToo := perform_outcome (invToo.only owner) fresh call fun _ => admitsToo.only owner
  rw [perform_only acts admits] at outcome
  rw [perform_only acts admitsToo, ← (sameFor_iff _ _ _).mp same] at outcomeToo
  obtain ⟨alike, views⟩ := outcome.unique outcomeToo
  exact ⟨alike, fun timed => inv.answer_unique timed acts outcome outcomeToo,
    (sameFor_iff _ _ _).mpr views.symm⟩

/-- A history without the calls of all owners but one. -/
def withoutOthers (owner : String) (history : List (EventId × Call)) : List (EventId × Call) :=
  history.filter fun entry => entry.2.owner?.all (· = owner)

theorem withoutOthers_cons (owner : String) (fresh : EventId) (call : Call)
    (rest : List (EventId × Call)) :
    withoutOthers owner ((fresh, call) :: rest) =
      if call.owner?.all (· = owner) then (fresh, call) :: withoutOthers owner rest
      else withoutOthers owner rest :=
  List.filter_cons

/-- The answers to the calls of an owner in a history. -/
def answersTo (store : Store) (owner : String) (history : List (EventId × Call)) :
    List (Except StorageError Answer) :=
  (history.zip (storage.run history store).1).filterMap fun (entry, answer) =>
    if entry.2.owner? = some owner then some answer else none

theorem answersTo_cons (store : Store) (owner : String) (fresh : EventId) (call : Call)
    (rest : List (EventId × Call)) :
    store.answersTo owner ((fresh, call) :: rest) =
      (if call.owner? = some owner then [(storage.perform fresh call store).1] else []) ++
        (storage.perform fresh call store).2.answersTo owner rest := by
  simp only [answersTo, Storage.run, List.zip_cons_cons, List.filterMap_cons]
  split <;> rename_i found <;> split at found <;> simp_all

/-- Calls of nobody find and leave for an owner what they would find and leave alone. -/
theorem perform_only_of_nobody {fresh : EventId} {call : Call} (nobody : call.owner? = none)
    (store : Store) (owner : String) :
    (storage.perform fresh call (store.only owner)).2 =
      (storage.perform fresh call store).2.only owner := by
  cases call with
  | listDue _ _ | close => rfl
  | _ => cases nobody

/-- A run without the others, on what the store holds for an owner, is one that can take place, with
the same answers to the owner. -/
theorem run_only {store : Store} {history : List (EventId × Call)}
    (admitted : store.AdmitsAll history) (owner : String) :
    (store.only owner).AdmitsAll (withoutOthers owner history) ∧
      (store.only owner).answersTo owner (withoutOthers owner history) =
        store.answersTo owner history := by
  induction history generalizing store with
  | nil => exact ⟨trivial, rfl⟩
  | cons entry rest ih =>
    obtain ⟨fresh, call⟩ := entry
    obtain ⟨admits, later⟩ := admitted
    obtain ⟨possible, same⟩ := ih later
    rw [answersTo_cons, withoutOthers_cons]
    cases acts : call.owner? with
    | none =>
      rw [Option.all_none, if_pos rfl, answersTo_cons, AdmitsAll, perform_only_of_nobody acts, acts]
      exact ⟨⟨admits.only owner, possible⟩, by rw [same]; rfl⟩
    | some name =>
      by_cases own : name = owner
      · subst own
        rw [Option.all_some, if_pos (decide_eq_true rfl), answersTo_cons, AdmitsAll,
          perform_only acts admits, acts]
        exact ⟨⟨admits.only name, possible⟩, by rw [same]⟩
      · rw [perform_of_other acts own admits] at possible same
        simp only [Option.all_some, own, decide_false, Bool.false_eq_true, if_false,
          Option.some.injEq, List.nil_append]
        exact ⟨possible, same⟩

/-- Owners are isolated: what an owner has is not changed by the calls of another; two stores that
hold the same for an owner answer the owner alike and hold the same for it afterwards; to another
owner its events are as good as missing; and the answers to it in a run are those of the run in
which the others never call. -/
theorem owners_isolated {owner other : String} (differ : other ≠ owner) {store : Store}
    (inv : store.Invariant) :
    (∀ fresh call, call.owner? = some other → store.Admits fresh call →
      SameFor owner store (storage.perform fresh call store).2) ∧
    (∀ second : Store, second.Invariant → SameFor owner store second →
      ∀ fresh call, call.owner? = some owner → store.Admits fresh call →
        second.Admits fresh call →
          let (answer, after) := storage.perform fresh call store
          let (answerToo, afterToo) := storage.perform fresh call second
          Agenda.Alike answer answerToo ∧
          ((∀ id event, store.owned? owner id = some event → event.start < event.fields.stop) →
            answer = answerToo) ∧
          SameFor owner after afterToo) ∧
    (∀ id event, store.events.get? id = some event → event.owner = owner →
      ∀ fresh call, call.target? = some (other, id) →
        let gone : Store := { store with events := store.events.erase id }
        storage.perform fresh call store = (.error (.eventNotFound id), store) ∧
        storage.perform fresh call gone = (.error (.eventNotFound id), gone)) ∧
    (∀ history, store.AdmitsAll history → store.AdmitsAll (withoutOthers owner history) →
      store.answersTo owner history = store.answersTo owner (withoutOthers owner history)) ∧
    (∀ history, empty.AdmitsAll history →
      empty.AdmitsAll (withoutOthers owner history) ∧
      empty.answersTo owner history = empty.answersTo owner (withoutOthers owner history)) := by
  refine ⟨?_, ?_, ?_, ?_, ?_⟩
  · intro fresh call acts admits
    rw [sameFor_iff, perform_of_other acts differ admits]
  · intro second invToo same fresh call acts admits admitsToo
    exact perform_of_sameFor inv invToo same acts admits admitsToo
  · intro id event stored own fresh call names gone
    have foreign : store.owned? other id = none := by
      rw [owned?, stored, Option.filter_some, if_neg]
      rw [own]
      simpa using differ.symm
    have missing : gone.owned? other id = none := by
      rw [owned?, Table.get?_erase, if_pos rfl, Option.filter_none]
    exact ⟨perform_of_foreign names foreign, perform_of_foreign names missing⟩
  · intro history admitted admittedToo
    have idempotent : withoutOthers owner (withoutOthers owner history) =
        withoutOthers owner history := by
      simp only [withoutOthers, List.filter_filter, Bool.and_self]
    have full := (run_only admitted owner).2
    have reduced := (run_only admittedToo owner).2
    rw [idempotent] at reduced
    exact full.symm.trans reduced
  · intro history admitted
    obtain ⟨possible, same⟩ := run_only admitted owner
    exact ⟨possible, same.symm⟩

/-- Bob means to delete the event of alice and to book the time of it for himself. -/
theorem owners_isolated_intruder :
    let call := EventFields.mk "call" none (Fixture.moment 9 0) (Fixture.moment 10 0) none
    let store := (storage.run [(.ofNat 0, .createUser (Fixture.user "alice")),
      (.ofNat 1, .createEvent "alice" call), (.ofNat 0, .createUser (Fixture.user "bob"))] .empty).2
    "bob" ≠ "alice" ∧ store.Invariant ∧
      storage.perform (.ofNat 0) (.deleteEvent "bob" (.ofNat 1)) store =
        (.error (.eventNotFound (.ofNat 1)), store) ∧
      SameFor "alice" store
        (storage.perform (.ofNat 2) (.createEvent "bob" call) store).2 := by
  intro call store
  have differ : "bob" ≠ "alice" := by decide
  have inv : store.Invariant := run_invariant empty_invariant _
  have stored : store.events.get? (.ofNat 1) = some ⟨.ofNat 1, "alice", call.truncated⟩ := by
    decide +kernel
  have unused : store.events.get? (.ofNat 2) = none := by decide +kernel
  obtain ⟨untouched, _, hidden, _⟩ := owners_isolated differ inv
  exact ⟨differ, inv, (hidden _ _ stored rfl _ _ rfl).1, untouched _ _ rfl unused⟩

end Store

end Datebook
