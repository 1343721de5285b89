import Datebook.Store.Storage

/-!
The rules of a calendar.

An `Agenda` is a calendar as two finite maps, of users by name and of events by identifier. The
rules of `Outcome` say what a call answers and what it leaves behind. They leave nothing open but
the order of listed events that start together: `Outcome.unique` and `Outcome.reorder`.
-/

set_option autoImplicit false

namespace Datebook

theorem Instant.le_antisymm {a b : Instant} (before : a ≤ b) (after : b ≤ a) : a = b := by
  rw [le_iff] at before after
  have second : a.second = b.second := by omega
  have nano : a.nano = b.nano := by omega
  cases a
  cases b
  cases second
  cases nano
  rfl

theorem Instant.le_trans {a b c : Instant} (first : a ≤ b) (second : b ≤ c) : a ≤ c :=
  Int.le_trans first second

theorem Instant.le_total (a b : Instant) : a ≤ b ∨ b ≤ a :=
  Int.le_total a.rank b.rank

theorem pairwise_sorted {R : Instant → Instant → Prop} [DecidableRel R]
    (trans : ∀ a b c, R a b → R b c → R a c) (total : ∀ a b, R a b ∨ R b a)
    (events : List Event) :
    (events.mergeSort fun a b => R a.start b.start).Pairwise fun a b => R a.start b.start := by
  refine (List.pairwise_mergeSort ?_ ?_ events).imp of_decide_eq_true
  · intro a b c first second
    exact decide_eq_true (trans _ _ _ (of_decide_eq_true first) (of_decide_eq_true second))
  · intro a b
    simpa only [Bool.or_eq_true, decide_eq_true_eq] using total a.start b.start

/-- A partial function with finitely many keys. -/
structure FiniteMap (κ α : Type) where
  lookup : κ → Option α
  finite : ∃ keys : List κ, ∀ key value, lookup key = some value → key ∈ keys

namespace FiniteMap

variable {κ α : Type}

theorem ext_lookup {first second : FiniteMap κ α} (same : first.lookup = second.lookup) :
    first = second := by
  cases first
  cases second
  cases same
  rfl

def empty : FiniteMap κ α where
  lookup _ := none
  finite := ⟨[], fun _ _ found => by cases found⟩

def keep (map : FiniteMap κ α) (wanted : κ → α → Bool) : FiniteMap κ α where
  lookup key := (map.lookup key).filter (wanted key)
  finite := by
    obtain ⟨keys, complete⟩ := map.finite
    exact ⟨keys, fun key value found =>
      complete key value (Option.filter_eq_some_iff.mp found).1⟩

variable [DecidableEq κ]

def set (map : FiniteMap κ α) (key : κ) (value : α) : FiniteMap κ α where
  lookup other := if other = key then some value else map.lookup other
  finite := by
    obtain ⟨keys, complete⟩ := map.finite
    refine ⟨key :: keys, ?_⟩
    intro other found present
    by_cases same : other = key
    · rw [same]
      exact List.mem_cons_self
    · rw [if_neg same] at present
      exact List.mem_cons_of_mem _ (complete other found present)

def erase (map : FiniteMap κ α) (key : κ) : FiniteMap κ α :=
  map.keep fun other _ => other ≠ key

end FiniteMap

/-- A calendar as two maps. -/
structure Agenda where
  users : FiniteMap String User
  events : FiniteMap EventId Event

namespace Agenda

def empty : Agenda :=
  ⟨.empty, .empty⟩

def Known (agenda : Agenda) (name : String) : Prop :=
  ∃ user, agenda.users.lookup name = some user

/-- An identifier is that of an event of an owner. -/
def Owns (agenda : Agenda) (owner : String) (id : EventId) (event : Event) : Prop :=
  agenda.events.lookup id = some event ∧ event.owner = owner

/-- An owner has an event during part of an interval, not counting the one to pass over. -/
def Busy (agenda : Agenda) (owner : String) (passOver : Option EventId) (start stop : Instant) :
    Prop :=
  ∃ id event, agenda.Owns owner id event ∧ passOver ≠ some id ∧
    event.fields.start < stop ∧ start < event.fields.stop

/-- The events that are wanted, each once, with starts in order. -/
structure Lists (agenda : Agenda) (wanted : Event → Prop) (order : Instant → Instant → Prop)
    (listed : List Event) : Prop where
  once : listed.Nodup
  mem_iff : ∀ event, event ∈ listed ↔
    (∃ id, agenda.events.lookup id = some event) ∧ wanted event
  ordered : listed.Pairwise fun a b => order a.start b.start

/-- What a call may answer and leave behind, with an identifier for the event that it may create. -/
inductive Outcome (before : Agenda) (fresh : EventId) :
    Call → Except StorageError Answer → Agenda → Prop
  | nameTaken {user : User} (known : before.Known user.name) :
    Outcome before fresh (.createUser user) (.error (.userExists user.name)) before
  | userCreated {user : User} (unknown : ¬before.Known user.name) :
    Outcome before fresh (.createUser user) (.ok .nothing)
      { before with users := before.users.set user.name user }
  | userFound {name : String} {user : User} (found : before.users.lookup name = some user) :
    Outcome before fresh (.getUser name) (.ok (.user user)) before
  | userMissing {name : String} (unknown : ¬before.Known name) :
    Outcome before fresh (.getUser name) (.error (.userNotFound name)) before
  | userDeleted {name : String} (known : before.Known name) :
    Outcome before fresh (.deleteUser name) (.ok .nothing)
      { users := before.users.erase name
        events := before.events.keep fun _ event => event.owner ≠ name }
  | nobodyToDelete {name : String} (unknown : ¬before.Known name) :
    Outcome before fresh (.deleteUser name) (.error (.userNotFound name)) before
  | ownerMissing {owner : String} {fields : EventFields} (unknown : ¬before.Known owner) :
    Outcome before fresh (.createEvent owner fields) (.error (.userNotFound owner)) before
  | slotTaken {owner : String} {fields : EventFields} (known : before.Known owner)
    (busy : before.Busy owner none fields.truncated.start fields.truncated.stop) :
    Outcome before fresh (.createEvent owner fields) (.error .dateBusy) before
  | eventCreated {owner : String} {fields : EventFields} (known : before.Known owner)
    (idle : ¬before.Busy owner none fields.truncated.start fields.truncated.stop)
    (unused : before.events.lookup fresh = none) :
    Outcome before fresh (.createEvent owner fields) (.ok (.created fresh))
      { before with events := before.events.set fresh ⟨fresh, owner, fields.truncated⟩ }
  | eventFound {owner : String} {id : EventId} {event : Event}
    (owned : before.Owns owner id event) :
    Outcome before fresh (.getEvent owner id) (.ok (.event event)) before
  | eventMissing {owner : String} {id : EventId} (missing : ¬∃ event, before.Owns owner id event) :
    Outcome before fresh (.getEvent owner id) (.error (.eventNotFound id)) before
  | nothingToUpdate {owner : String} {id : EventId} {fields : EventFields}
    (missing : ¬∃ event, before.Owns owner id event) :
    Outcome before fresh (.updateEvent owner id fields) (.error (.eventNotFound id)) before
  | newSlotTaken {owner : String} {id : EventId} {fields : EventFields} {event : Event}
    (owned : before.Owns owner id event)
    (busy : before.Busy owner (some id) fields.truncated.start fields.truncated.stop) :
    Outcome before fresh (.updateEvent owner id fields) (.error .dateBusy) before
  | eventUpdated {owner : String} {id : EventId} {fields : EventFields} {event : Event}
    (owned : before.Owns owner id event)
    (idle : ¬before.Busy owner (some id) fields.truncated.start fields.truncated.stop) :
    Outcome before fresh (.updateEvent owner id fields) (.ok .nothing)
      { before with events := before.events.set id ⟨event.id, event.owner, fields.truncated⟩ }
  | nothingToDelete {owner : String} {id : EventId}
    (missing : ¬∃ event, before.Owns owner id event) :
    Outcome before fresh (.deleteEvent owner id) (.error (.eventNotFound id)) before
  | eventDeleted {owner : String} {id : EventId} {event : Event}
    (owned : before.Owns owner id event) :
    Outcome before fresh (.deleteEvent owner id) (.ok .nothing)
      { before with events := before.events.erase id }
  | eventsListed {owner : String} {start stop : Instant} {listed : List Event}
    (lists : before.Lists
      (fun event => event.owner = owner ∧ event.fields.start < stop ∧ start < event.fields.stop)
      (fun first later => later ≤ first) listed) :
    Outcome before fresh (.listEvents owner start stop) (.ok (.events listed)) before
  | dueListed {start stop : Instant} {listed : List Event}
    (lists : before.Lists (fun event => start ≤ event.reminderAt ∧ event.reminderAt < stop)
      (fun first later => first ≤ later) listed) :
    Outcome before fresh (.listDue start stop) (.ok (.events listed)) before
  | closed : Outcome before fresh .close (.ok .nothing) .empty

/-- Whether a call is to create an event that nothing speaks against. -/
def Grants (agenda : Agenda) : Call → Prop
  | .createEvent owner fields =>
    agenda.Known owner ∧ ¬agenda.Busy owner none fields.truncated.start fields.truncated.stop
  | _ => False

/-- Answers that are the same but for the order of listed events that start together. -/
inductive Alike : Except StorageError Answer → Except StorageError Answer → Prop
  | same (answer : Except StorageError Answer) : Alike answer answer
  | reordered {first second : List Event} (perm : first.Perm second)
    (starts : first.map Event.start = second.map Event.start) :
    Alike (.ok (.events first)) (.ok (.events second))

/-- An event is created if nothing speaks against it, under an identifier that no event has. -/
theorem Outcome.of_created {before after : Agenda} {fresh id : EventId} {call : Call}
    (outcome : Outcome before fresh call (.ok (.created id)) after) :
    before.Grants call ∧ id = fresh ∧ before.events.lookup id = none := by
  cases outcome with
  | eventCreated known idle unused => exact ⟨⟨known, idle⟩, rfl, unused⟩

theorem Owns.unique {agenda : Agenda} {owner : String} {id : EventId} {first second : Event}
    (owned : agenda.Owns owner id first) (ownedToo : agenda.Owns owner id second) :
    first = second :=
  Option.some.inj (owned.1.symm.trans ownedToo.1)

theorem Lists.perm {agenda : Agenda} {wanted : Event → Prop} {order : Instant → Instant → Prop}
    {first second : List Event} (lists : agenda.Lists wanted order first)
    (listsToo : agenda.Lists wanted order second) : first.Perm second := by
  rw [List.perm_ext_iff_of_nodup lists.once listsToo.once]
  intro event
  rw [lists.mem_iff, listsToo.mem_iff]

/-- Two lists of the wanted events differ only among events that start together. -/
theorem Lists.alike {agenda : Agenda} {wanted : Event → Prop} {order : Instant → Instant → Prop}
    {first second : List Event} (antisymm : ∀ a b, order a b → order b a → a = b)
    (lists : agenda.Lists wanted order first) (listsToo : agenda.Lists wanted order second) :
    Alike (.ok (.events first)) (.ok (.events second)) := by
  have perm := lists.perm listsToo
  refine .reordered perm ?_
  apply List.Perm.eq_of_pairwise
  · intro a b _ _ before after
    exact antisymm a b before after
  · exact List.pairwise_map.mpr lists.ordered
  · exact List.pairwise_map.mpr listsToo.ordered
  · exact perm.map _

/-- Where no two events start together, there is one list of the wanted events. -/
theorem Lists.unique {agenda : Agenda} {wanted : Event → Prop} {order : Instant → Instant → Prop}
    {first second : List Event} (antisymm : ∀ a b, order a b → order b a → a = b)
    (lists : agenda.Lists wanted order first) (listsToo : agenda.Lists wanted order second)
    (starts : ∀ a ∈ first, ∀ b ∈ first, a.start = b.start → a = b) : first = second := by
  have perm := lists.perm listsToo
  apply List.Perm.eq_of_pairwise
  · intro a b member memberToo before after
    exact starts a member b (perm.mem_iff.mpr memberToo) (antisymm _ _ before after)
  · exact lists.ordered
  · exact listsToo.ordered
  · exact perm

theorem Lists.reorder {agenda : Agenda} {wanted : Event → Prop} {order : Instant → Instant → Prop}
    {first second : List Event} (lists : agenda.Lists wanted order first)
    (perm : first.Perm second) (starts : first.map Event.start = second.map Event.start) :
    agenda.Lists wanted order second where
  once := perm.nodup_iff.mp lists.once
  mem_iff event := by rw [← perm.mem_iff, lists.mem_iff]
  ordered := by
    have ordered := lists.ordered
    rw [← List.pairwise_map (f := Event.start) (R := order), starts, List.pairwise_map] at ordered
    exact ordered

/-- A call has one outcome, up to the order of listed events that start together. -/
theorem Outcome.unique {before after next : Agenda} {fresh : EventId} {call : Call}
    {answer other : Except StorageError Answer} (outcome : Outcome before fresh call answer after)
    (outcomeToo : Outcome before fresh call other next) : Alike answer other ∧ next = after := by
  cases outcome with
  | nameTaken known =>
    cases outcomeToo with
    | nameTaken => exact ⟨.same _, rfl⟩
    | userCreated unknown => exact absurd known unknown
  | userCreated unknown =>
    cases outcomeToo with
    | nameTaken known => exact absurd known unknown
    | userCreated => exact ⟨.same _, rfl⟩
  | userFound found =>
    cases outcomeToo with
    | userFound foundToo =>
      obtain rfl := Option.some.inj (found.symm.trans foundToo)
      exact ⟨.same _, rfl⟩
    | userMissing unknown => exact absurd ⟨_, found⟩ unknown
  | userMissing unknown =>
    cases outcomeToo with
    | userFound found => exact absurd ⟨_, found⟩ unknown
    | userMissing => exact ⟨.same _, rfl⟩
  | userDeleted known =>
    cases outcomeToo with
    | userDeleted => exact ⟨.same _, rfl⟩
    | nobodyToDelete unknown => exact absurd known unknown
  | nobodyToDelete unknown =>
    cases outcomeToo with
    | userDeleted known => exact absurd known unknown
    | nobodyToDelete => exact ⟨.same _, rfl⟩
  | ownerMissing unknown =>
    cases outcomeToo with
    | ownerMissing => exact ⟨.same _, rfl⟩
    | slotTaken known | eventCreated known => exact absurd known unknown
  | slotTaken known busy =>
    cases outcomeToo with
    | ownerMissing unknown => exact absurd known unknown
    | slotTaken => exact ⟨.same _, rfl⟩
    | eventCreated _ idle => exact absurd busy idle
  | eventCreated known idle =>
    cases outcomeToo with
    | ownerMissing unknown => exact absurd known unknown
    | slotTaken _ busy => exact absurd busy idle
    | eventCreated => exact ⟨.same _, rfl⟩
  | eventFound owned =>
    cases outcomeToo with
    | eventFound ownedToo =>
      obtain rfl := owned.unique ownedToo
      exact ⟨.same _, rfl⟩
    | eventMissing missing => exact absurd ⟨_, owned⟩ missing
  | eventMissing missing =>
    cases outcomeToo with
    | eventFound owned => exact absurd ⟨_, owned⟩ missing
    | eventMissing => exact ⟨.same _, rfl⟩
  | nothingToUpdate missing =>
    cases outcomeToo with
    | nothingToUpdate => exact ⟨.same _, rfl⟩
    | newSlotTaken owned | eventUpdated owned => exact absurd ⟨_, owned⟩ missing
  | newSlotTaken owned busy =>
    cases outcomeToo with
    | nothingToUpdate missing => exact absurd ⟨_, owned⟩ missing
    | newSlotTaken => exact ⟨.same _, rfl⟩
    | eventUpdated _ idle => exact absurd busy idle
  | eventUpdated owned idle =>
    cases outcomeToo with
    | nothingToUpdate missing => exact absurd ⟨_, owned⟩ missing
    | newSlotTaken _ busy => exact absurd busy idle
    | eventUpdated ownedToo =>
      obtain rfl := owned.unique ownedToo
      exact ⟨.same _, rfl⟩
  | nothingToDelete missing =>
    cases outcomeToo with
    | nothingToDelete => exact ⟨.same _, rfl⟩
    | eventDeleted owned => exact absurd ⟨_, owned⟩ missing
  | eventDeleted owned =>
    cases outcomeToo with
    | nothingToDelete missing => exact absurd ⟨_, owned⟩ missing
    | eventDeleted => exact ⟨.same _, rfl⟩
  | eventsListed lists =>
    cases outcomeToo with
    | eventsListed listsToo =>
      exact ⟨lists.alike (fun _ _ after before => Instant.le_antisymm before after) listsToo, rfl⟩
  | dueListed lists =>
    cases outcomeToo with
    | dueListed listsToo => exact ⟨lists.alike (fun _ _ => Instant.le_antisymm) listsToo, rfl⟩
  | closed =>
    cases outcomeToo
    exact ⟨.same _, rfl⟩

/-- Whatever is alike to an outcome is one. -/
theorem Outcome.reorder {before after : Agenda} {fresh : EventId} {call : Call}
    {answer other : Except StorageError Answer} (outcome : Outcome before fresh call answer after)
    (alike : Alike answer other) : Outcome before fresh call other after := by
  cases alike with
  | same => exact outcome
  | reordered perm starts =>
    cases outcome with
    | eventsListed lists => exact .eventsListed (lists.reorder perm starts)
    | dueListed lists => exact .dueListed (lists.reorder perm starts)

end Agenda

end Datebook
