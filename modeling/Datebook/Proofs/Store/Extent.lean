import Datebook.Proofs.Store.Outcome
import Mathlib.Data.List.Pairwise

/-!
How long stored events last.

Callers promise that what they ask for takes time, and nothing checks it. A store rounds both ends
of an interval down to whole microseconds, which never turns it around but empties it when both ends
lie within one microsecond. Where the times of an event come from is `run_requested`: each stored
event is what some call of the history asked for, rounded. Main statement: `run_keeps_extent`.
Without the exception it is not true: `run_empties_blink`.
-/

set_option autoImplicit false

namespace Datebook

namespace Instant

theorem lt_of_le_of_ne {a b : Instant} (ordered : a ≤ b) (differ : a ≠ b) : a < b := by
  by_cases before : a < b
  · exact before
  · exact absurd (le_antisymm ordered (Int.not_lt.mp before)) differ

/-- Rounding down keeps the order. -/
theorem truncated_mono {a b : Instant} (ordered : a ≤ b) : a.truncated ≤ b.truncated := by
  rw [le_iff] at ordered ⊢
  simp only [truncated]
  omega

end Instant

namespace EventFields

/-- The fields ask for an interval that takes time. -/
def Timed (fields : EventFields) : Prop :=
  fields.start < fields.stop

/-- Both ends lie within one microsecond. -/
def WithinMicro (fields : EventFields) : Prop :=
  fields.start.truncated = fields.stop.truncated

instance (fields : EventFields) : Decidable fields.Timed :=
  inferInstanceAs (Decidable (_ < _))

instance (fields : EventFields) : Decidable fields.WithinMicro :=
  inferInstanceAs (Decidable (_ = _))

variable {fields : EventFields}

theorem Timed.truncated_le (timed : fields.Timed) :
    fields.truncated.start ≤ fields.truncated.stop :=
  Instant.truncated_mono (Int.le_of_lt timed)

theorem Timed.truncated (timed : fields.Timed) (ample : ¬fields.WithinMicro) :
    fields.truncated.Timed :=
  Instant.lt_of_le_of_ne timed.truncated_le ample

end EventFields

/-- The fields that a call asks a store to keep. -/
def Call.asked? : Call → Option EventFields
  | .createEvent _ fields | .updateEvent _ _ fields => some fields
  | _ => none

/-- The event that a call asks a store to keep, with its times as the caller gave them. -/
def Call.request? (fresh : EventId) : Call → Option Event
  | .createEvent owner fields => some ⟨fresh, owner, fields⟩
  | .updateEvent owner id fields => some ⟨id, owner, fields⟩
  | _ => none

theorem Call.asked?_of_request? {fresh : EventId} {call : Call} {event : Event}
    (requested : call.request? fresh = some event) : call.asked? = some event.fields := by
  cases call <;> cases requested <;> rfl

namespace Store

/-- The history has a call that asks for the fields. -/
def Asks (history : List (EventId × Call)) (fields : EventFields) : Prop :=
  ∃ entry ∈ history, entry.2.asked? = some fields

/-- The history has a call that asks for the event. -/
def Requests (history : List (EventId × Call)) (event : Event) : Prop :=
  ∃ entry ∈ history, entry.2.request? entry.1 = some event

theorem Requests.asks {history : List (EventId × Call)} {event : Event}
    (requests : Requests history event) : Asks history event.fields := by
  obtain ⟨entry, member, requested⟩ := requests
  exact ⟨entry, member, Call.asked?_of_request? requested⟩

variable {store : Store} {id : EventId} {event : Event}

/-- What a call leaves in a store was there before, or is what the call asks for. -/
theorem perform_requested {fresh : EventId} {call : Call}
    (stored : (storage.perform fresh call store).2.events.get? id = some event) :
    store.events.get? id = some event ∨
      ∃ fields, call.request? fresh = some ⟨id, event.owner, fields⟩ ∧
        event.fields = fields.truncated := by
  cases call with
  | createUser user =>
    change (store.createUser user).2.events.get? id = some event at stored
    unfold createUser at stored
    split at stored <;> exact .inl stored
  | deleteUser name =>
    change (store.deleteUser name).2.events.get? id = some event at stored
    unfold deleteUser at stored
    split at stored
    · rw [Table.get?_filter] at stored
      exact .inl (Option.filter_eq_some_iff.mp stored).1
    · exact .inl stored
  | createEvent owner fields =>
    change (store.createEvent fresh owner fields).2.events.get? id = some event at stored
    rw [createEvent_eq, addEvent] at stored
    split at stored
    · exact .inl stored
    · split at stored
      · exact .inl stored
      · rw [Table.get?_insert] at stored
        split at stored
        · rename_i same
          cases same
          cases stored
          exact .inr ⟨fields, rfl, rfl⟩
        · exact .inl stored
  | updateEvent owner other fields =>
    change (store.updateEvent owner other fields).2.events.get? id = some event at stored
    unfold updateEvent at stored
    dsimp only at stored
    split at stored
    · exact .inl stored
    · rename_i former found
      split at stored
      · exact .inl stored
      · rw [Table.get?_insert] at stored
        split at stored
        · rename_i same
          cases same
          cases stored
          obtain rfl : former.owner = owner := ((store.owned?_eq_some_iff _ _ _).mp found).2
          exact .inr ⟨fields, rfl, rfl⟩
        · exact .inl stored
  | deleteEvent owner other =>
    change (store.deleteEvent owner other).2.events.get? id = some event at stored
    unfold deleteEvent at stored
    split at stored
    · exact .inl stored
    · rw [Table.get?_erase] at stored
      split at stored
      · cases stored
      · exact .inl stored
  | close => cases stored
  | getUser _ | getEvent _ _ | listEvents _ _ _ | listDue _ _ => exact .inl stored

theorem run_requested {history : List (EventId × Call)}
    (stored : (storage.run history store).2.events.get? id = some event) :
    store.events.get? id = some event ∨
      ∃ fields, Requests history ⟨id, event.owner, fields⟩ ∧ event.fields = fields.truncated := by
  induction history generalizing store with
  | nil => exact .inl stored
  | cons first rest ih =>
    obtain ⟨fresh, call⟩ := first
    rcases ih stored with before | ⟨fields, ⟨entry, member, requested⟩, kept⟩
    · rcases perform_requested before with earlier | ⟨fields, requested, kept⟩
      · exact .inl earlier
      · exact .inr ⟨fields, ⟨_, List.mem_cons_self, requested⟩, kept⟩
    · exact .inr ⟨fields, ⟨entry, List.mem_cons_of_mem _ member, requested⟩, kept⟩

theorem run_asked {history : List (EventId × Call)}
    (stored : (storage.run history store).2.events.get? id = some event) :
    store.events.get? id = some event ∨
      ∃ fields, Asks history fields ∧ event.fields = fields.truncated := by
  rcases run_requested stored with before | ⟨fields, requests, kept⟩
  · exact .inl before
  · exact .inr ⟨fields, requests.asks, kept⟩

/-- Two events of an owner that start together cannot both take time. -/
theorem Invariant.empty_of_same_start (inv : store.Invariant) {first second : EventId}
    {a b : Event} (stored : store.events.get? first = some a)
    (storedToo : store.events.get? second = some b) (differ : first ≠ second)
    (same : a.owner = b.owner) (together : a.start = b.start) :
    ¬a.fields.Timed ∨ ¬b.fields.Timed := by
  by_cases long : a.fields.Timed
  · refine .inr fun longToo => ?_
    have before : a.fields.start < b.fields.stop := by
      rw [show a.fields.start = b.fields.start from together]
      exact longToo
    have after : b.fields.start < a.fields.stop := by
      rw [← show a.fields.start = b.fields.start from together]
      exact long
    have clash : a.overlaps b.fields.start b.fields.stop = true :=
      (overlap_iff _ _ _ _).mpr ⟨before, after⟩
    rw [inv.apart stored storedToo differ same] at clash
    cases clash
  · exact .inl long

/-- A listing falls from start to start, but for events that do not both take time. -/
theorem Invariant.listEvents_falls (inv : store.Invariant) (owner : String)
    (start stop : Instant) :
    (store.listEvents owner start stop).Pairwise fun a b =>
      b.start < a.start ∨ b.start = a.start ∧ (¬a.fields.Timed ∨ ¬b.fields.Timed) := by
  have lists := inv.listEvents_lists owner start stop
  refine (lists.once.and lists.ordered).imp_of_mem ?_
  rintro a b member memberToo ⟨differ, ordered⟩
  by_cases together : b.start = a.start
  · obtain ⟨⟨first, stored⟩, own, _⟩ := (lists.mem_iff a).mp member
    obtain ⟨⟨second, storedToo⟩, ownToo, _⟩ := (lists.mem_iff b).mp memberToo
    have apart : first ≠ second := by
      rintro rfl
      exact differ (Option.some.inj (stored.symm.trans storedToo))
    exact .inr ⟨together, inv.empty_of_same_start stored storedToo apart
      (own.trans ownToo.symm) together.symm⟩
  · exact .inl (Instant.lt_of_le_of_ne ordered together)

/-- Where every call asks for an interval that takes time, no stored interval is turned around, and
one is empty only if a call asked for both its ends within one microsecond. Events of one owner
start together, and follow each other in a listing without a fall of the start, only if one of them
is empty. -/
theorem run_keeps_extent {history : List (EventId × Call)}
    (timed : ∀ fields, Asks history fields → fields.Timed) :
    let store := (storage.run history .empty).2
    (∀ id event, store.events.get? id = some event → event.start ≤ event.fields.stop ∧
      (event.fields.Timed ∨
        ∃ fields, Asks history fields ∧ fields.WithinMicro ∧ event.fields = fields.truncated)) ∧
    (∀ first second a b, store.events.get? first = some a → store.events.get? second = some b →
      first ≠ second → a.owner = b.owner → a.start = b.start →
        ¬a.fields.Timed ∨ ¬b.fields.Timed) ∧
    (∀ owner start stop, (store.listEvents owner start stop).Pairwise fun a b =>
      b.start < a.start ∨ b.start = a.start ∧ (¬a.fields.Timed ∨ ¬b.fields.Timed)) ∧
    ((∀ fields, Asks history fields → ¬fields.WithinMicro) →
      (∀ id event, store.events.get? id = some event → event.fields.Timed) ∧
      (∀ first second a b, store.events.get? first = some a → store.events.get? second = some b →
        first ≠ second → a.owner = b.owner → a.start ≠ b.start) ∧
      ∀ owner start stop, (store.listEvents owner start stop).Pairwise fun a b =>
        b.start < a.start) := by
  intro store
  have inv : store.Invariant := run_invariant empty_invariant history
  have source (id : EventId) (event : Event) (stored : store.events.get? id = some event) :
      ∃ fields, Asks history fields ∧ event.fields = fields.truncated := by
    rcases run_asked stored with before | asked
    · cases before
    · exact asked
  have falls (owner : String) (start stop : Instant) := inv.listEvents_falls owner start stop
  refine ⟨?_, fun _ _ _ _ => inv.empty_of_same_start, falls, ?_⟩
  · intro id event stored
    obtain ⟨fields, asked, kept⟩ := source id event stored
    rw [Event.start, kept]
    refine ⟨(timed fields asked).truncated_le, ?_⟩
    by_cases short : fields.WithinMicro
    · exact .inr ⟨fields, asked, short, rfl⟩
    · exact .inl ((timed fields asked).truncated short)
  · intro ample
    have long (id : EventId) (event : Event) (stored : store.events.get? id = some event) :
        event.fields.Timed := by
      obtain ⟨fields, asked, kept⟩ := source id event stored
      rw [kept]
      exact (timed fields asked).truncated (ample fields asked)
    refine ⟨long, ?_, ?_⟩
    · intro first second a b stored storedToo differ same together
      rcases inv.empty_of_same_start stored storedToo differ same together with empty | empty
      · exact empty (long first a stored)
      · exact empty (long second b storedToo)
    · intro owner start stop
      have lists := inv.listEvents_lists owner start stop
      refine (falls owner start stop).imp_of_mem ?_
      rintro a b member memberToo (before | ⟨_, empty | empty⟩)
      · exact before
      · obtain ⟨⟨id, stored⟩, _⟩ := (lists.mem_iff a).mp member
        exact absurd (long id a stored) empty
      · obtain ⟨⟨id, stored⟩, _⟩ := (lists.mem_iff b).mp memberToo
        exact absurd (long id b stored) empty

/-- A nanosecond that ends with a microsecond is kept as that microsecond. -/
theorem run_keeps_extent_crossing :
    let crossing : EventFields :=
      { title := "crossing"
        start := { second := 1906711200, nano := 999 }
        stop := { second := 1906711200, nano := 1000 } }
    let history := [(.ofNat 0, .createUser (Fixture.user "alice")),
      (.ofNat 1, .createEvent "alice" crossing)]
    (∀ fields, Asks history fields → fields.Timed) ∧
      (∀ fields, Asks history fields → ¬fields.WithinMicro) ∧
      ∀ id event, (storage.run history .empty).2.events.get? id = some event →
        event.fields.Timed := by
  intro crossing history
  have only (fields : EventFields) (asks : Asks history fields) : crossing = fields := by
    simpa [Asks, history, Call.asked?] using asks
  have timed (fields : EventFields) (asks : Asks history fields) : fields.Timed := by
    rw [← only fields asks]
    decide
  have ample (fields : EventFields) (asks : Asks history fields) : ¬fields.WithinMicro := by
    rw [← only fields asks]
    decide
  exact ⟨timed, ample, ((run_keeps_extent timed).2.2.2 ample).1⟩

/-- Eight hundred nanoseconds that begin and end within one microsecond. -/
def blink : EventFields where
  title := "blink"
  start := { second := 1906711200, nano := 100 }
  stop := { second := 1906711200, nano := 900 }

/-- Calls that all ask for an interval that takes time can leave two events of one owner that start
together and take none, and a listing whose starts do not fall. -/
theorem run_empties_blink :
    let history := [(.ofNat 0, .createUser (Fixture.user "alice")),
      (.ofNat 1, .createEvent "alice" blink), (.ofNat 2, .createEvent "alice" blink)]
    let store := (storage.run history .empty).2
    (∀ fields, Asks history fields → fields.Timed) ∧
    ∃ a b, store.events.get? (.ofNat 1) = some a ∧ store.events.get? (.ofNat 2) = some b ∧
      a.owner = b.owner ∧ a.start = b.start ∧ ¬a.fields.Timed ∧
      ¬(store.listEvents "alice" (Fixture.moment 9 0) (Fixture.moment 11 0)).Pairwise
        fun first later => later.start < first.start := by
  intro history store
  have inv : store.Invariant := run_invariant empty_invariant history
  have timed (fields : EventFields) (asks : Asks history fields) : fields.Timed := by
    have same : blink = fields := by simpa [Asks, history, Call.asked?] using asks
    rw [← same]
    decide
  let first : Event := ⟨.ofNat 1, "alice", blink.truncated⟩
  let second : Event := ⟨.ofNat 2, "alice", blink.truncated⟩
  have stored : store.events.get? (.ofNat 1) = some first := by decide +kernel
  have storedToo : store.events.get? (.ofNat 2) = some second := by decide +kernel
  have during : blink.truncated.start < Fixture.moment 11 0 ∧
      Fixture.moment 9 0 < blink.truncated.stop := by
    decide +kernel
  have lists := inv.listEvents_lists "alice" (Fixture.moment 9 0) (Fixture.moment 11 0)
  have listed := (lists.mem_iff first).mpr ⟨⟨.ofNat 1, stored⟩, rfl, during⟩
  have listedToo := (lists.mem_iff second).mpr ⟨⟨.ofNat 2, storedToo⟩, rfl, during⟩
  refine ⟨timed, first, second, stored, storedToo, rfl, rfl, by decide, fun falls => ?_⟩
  have symm : Std.Symm fun a b : Event => a.start ≠ b.start := ⟨fun _ _ differ => differ.symm⟩
  have apart := falls.imp fun {a b} before (same : a.start = b.start) =>
    Int.lt_irrefl b.start.rank (show b.start < b.start from same ▸ before)
  exact apart.forall listed listedToo (by decide) rfl

end Store

end Datebook
