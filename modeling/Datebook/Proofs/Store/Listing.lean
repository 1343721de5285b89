import Datebook.Proofs.Store.Outcome

/-!
What listings hold.

A listing holds every event that it is asked for, once and in the order of the starts. A table may
keep its entries in any order: stores with the same entries have the same view, so their listings
differ only among events that start together. Two windows of reminders end to end share none and
hold between them what the window that they make up does. Main statement: `listings_exact`.
-/

set_option autoImplicit false

namespace Datebook

theorem Table.get?_of_perm {κ α : Type} [DecidableEq κ] {table other : Table κ α}
    (perm : other.entries.Perm table.entries) (key : κ) : other.get? key = table.get? key := by
  apply Option.ext
  intro value
  rw [get?_eq_some_iff, get?_eq_some_iff, perm.mem_iff]

/-- Two windows end to end hold between them the events of the window that they make up. -/
theorem filter_dueWithin_append (events : List Event) {start middle stop : Instant}
    (before : start ≤ middle) (after : middle ≤ stop) :
    (events.filter (·.dueWithin start middle) ++ events.filter (·.dueWithin middle stop)).Perm
      (events.filter (·.dueWithin start stop)) := by
  have early : events.filter (·.dueWithin start middle) =
      (events.filter (·.dueWithin start stop)).filter (·.reminderAt < middle) := by
    rw [List.filter_filter]
    apply List.filter_congr
    intro event _
    rw [Bool.eq_iff_iff, Bool.and_eq_true, event.dueWithin_iff, event.dueWithin_iff,
      decide_eq_true_eq]
    exact ⟨fun ⟨from_, until_⟩ => ⟨until_, from_, Int.lt_of_lt_of_le until_ after⟩,
      fun ⟨until_, from_, _⟩ => ⟨from_, until_⟩⟩
  have late : events.filter (·.dueWithin middle stop) =
      (events.filter (·.dueWithin start stop)).filter fun event =>
        !decide (event.reminderAt < middle) := by
    rw [List.filter_filter]
    apply List.filter_congr
    intro event _
    rw [Bool.eq_iff_iff, Bool.and_eq_true, event.dueWithin_iff, event.dueWithin_iff,
      Bool.not_eq_true', decide_eq_false_iff_not]
    exact ⟨fun ⟨from_, until_⟩ => ⟨Int.not_lt.mpr from_, Int.le_trans before from_, until_⟩,
      fun ⟨from_, _, until_⟩ => ⟨Int.not_lt.mp from_, until_⟩⟩
  rw [early, late]
  exact List.filter_append_perm _ _

namespace Store

theorem listDue_perm (store : Store) (start stop : Instant) :
    (store.listDue start stop).Perm (store.events.values.filter (·.dueWithin start stop)) :=
  List.mergeSort_perm _ _

theorem listDue_append_perm (store : Store) {start middle stop : Instant}
    (before : start ≤ middle) (after : middle ≤ stop) :
    (store.listDue start middle ++ store.listDue middle stop).Perm (store.listDue start stop) := by
  have parts := (store.listDue_perm start middle).append (store.listDue_perm middle stop)
  have whole := filter_dueWithin_append store.events.values before after
  exact (parts.trans whole).trans (store.listDue_perm start stop).symm

section

variable {store : Store} {table : Table EventId Event}

theorem view_shuffled (perm : table.entries.Perm store.events.entries) :
    view { store with events := table } = store.view := by
  have same : table.toMap = store.events.toMap :=
    FiniteMap.ext_lookup (funext (Table.get?_of_perm perm))
  rw [view, same]
  rfl

/-- The invariant does not look at the order of the entries. -/
theorem Invariant.shuffled (inv : store.Invariant)
    (perm : table.entries.Perm store.events.entries) :
    Invariant { store with events := table } where
  apart stored storedToo differ same := by
    rw [Table.get?_of_perm perm] at stored storedToo
    exact inv.apart stored storedToo differ same
  ownId stored := by
    rw [Table.get?_of_perm perm] at stored
    exact inv.ownId stored
  ownName := inv.ownName
  enrolled stored := by
    rw [Table.get?_of_perm perm] at stored
    exact inv.enrolled stored
  wholeMicros stored := by
    rw [Table.get?_of_perm perm] at stored
    exact inv.wholeMicros stored

end

/-- A listing holds the events of an owner that overlap the window, or the events of all owners
whose reminder is due in it, each once, the latest or the earliest start first. In whatever order
the store keeps its events, only events that start together can change places. The reminders due in
a window are those of its two parts, which have none in common. -/
theorem listings_exact {store : Store} (reachable : store.Reachable) {table : Table EventId Event}
    (perm : table.entries.Perm store.events.entries) (owner : String) (start stop : Instant)
    {first middle last : Instant} (before : first ≤ middle) (after : middle ≤ last) :
    let shuffled : Store := { store with events := table }
    store.view.Lists
      (fun event => event.owner = owner ∧
        overlap event.fields.start event.fields.stop start stop = true)
      (fun first later => later ≤ first) (store.listEvents owner start stop) ∧
    store.view.Lists (fun event => start ≤ event.reminderAt ∧ event.reminderAt < stop)
      (fun first later => first ≤ later) (store.listDue start stop) ∧
    Agenda.Alike (.ok (.events (store.listEvents owner start stop)))
      (.ok (.events (shuffled.listEvents owner start stop))) ∧
    Agenda.Alike (.ok (.events (store.listDue start stop)))
      (.ok (.events (shuffled.listDue start stop))) ∧
    (∀ event ∈ store.listDue first middle, event ∉ store.listDue middle last) ∧
    (store.listDue first middle ++ store.listDue middle last).Perm (store.listDue first last) := by
  intro shuffled
  have inv := reachable.invariant
  have same : shuffled.view = store.view := view_shuffled perm
  have events := inv.listEvents_lists owner start stop
  have due := inv.listDue_lists start stop
  have eventsToo := (inv.shuffled perm).listEvents_lists owner start stop
  have dueToo := (inv.shuffled perm).listDue_lists start stop
  rw [same] at eventsToo dueToo
  refine ⟨?_, due, ?_, ?_, ?_, store.listDue_append_perm before after⟩
  · simpa only [overlap_iff] using events
  · exact events.alike (fun _ _ after before => Instant.le_antisymm before after) eventsToo
  · exact due.alike (fun _ _ => Instant.le_antisymm) dueToo
  · intro event early late
    have ahead := (((inv.listDue_lists first middle).mem_iff event).mp early).2.2
    have behind := (((inv.listDue_lists middle last).mem_iff event).mp late).2.1
    exact Int.not_lt.mpr behind ahead

/-- Two events that touch, kept in the other order: the window over both lists them all the same,
and each of their reminders is due in one half of the morning. -/
theorem listings_exact_touching :
    let dentist := EventFields.mk "dentist" none (Fixture.moment 9 0) (Fixture.moment 10 0) none
    let haircut := EventFields.mk "haircut" none (Fixture.moment 10 0) (Fixture.moment 11 0) none
    let store := (storage.run [(.ofNat 0, .createUser (Fixture.user "alice")),
      (.ofNat 1, .createEvent "alice" dentist), (.ofNat 2, .createEvent "alice" haircut)] .empty).2
    let table := (Table.empty.insert (EventId.ofNat 2) (Event.mk (.ofNat 2) "alice" haircut)).insert
      (.ofNat 1) ⟨.ofNat 1, "alice", dentist⟩
    store.Reachable ∧ table.entries.Perm store.events.entries ∧
      Fixture.moment 9 0 ≤ Fixture.moment 10 0 ∧ Fixture.moment 10 0 ≤ Fixture.moment 11 0 ∧
      Agenda.Alike
        (.ok (.events (store.listEvents "alice" (Fixture.moment 9 30) (Fixture.moment 10 30))))
        (.ok (.events (Store.listEvents { store with events := table } "alice"
          (Fixture.moment 9 30) (Fixture.moment 10 30)))) ∧
      (store.listDue (Fixture.moment 9 0) (Fixture.moment 10 0) ++
        store.listDue (Fixture.moment 10 0) (Fixture.moment 11 0)).Perm
          (store.listDue (Fixture.moment 9 0) (Fixture.moment 11 0)) := by
  intro dentist haircut store table
  have reachable : store.Reachable := ⟨_, rfl⟩
  have perm : table.entries.Perm store.events.entries := by decide +kernel
  have before : Fixture.moment 9 0 ≤ Fixture.moment 10 0 := by decide +kernel
  have after : Fixture.moment 10 0 ≤ Fixture.moment 11 0 := by decide +kernel
  obtain ⟨_, _, alike, _, _, whole⟩ := listings_exact reachable perm "alice"
    (Fixture.moment 9 30) (Fixture.moment 10 30) before after
  exact ⟨reachable, perm, before, after, alike, whole⟩

end Store

end Datebook
