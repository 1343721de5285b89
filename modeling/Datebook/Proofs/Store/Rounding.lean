import Datebook.Proofs.Event.Reminder
import Datebook.Proofs.Store.Extent

/-!
What rounding down to whole microseconds costs.

A store rounds down what it is asked to keep before it looks for events in the way. Each instant
moves back by less than a microsecond, in its own second, so instants keep their order, and only
intervals that overlap still do when they are rounded. Outside leap seconds the reminder moves by
less than a microsecond too: a lead time that is too long for its count of microseconds leads to the
first instant from anywhere, rounded or not. Main statement: `Store.rounding_harmless`.
-/

set_option autoImplicit false

namespace Datebook

namespace Instant

/-- An instant is moved back to a whole microsecond of its second, by a checked subtraction that
does not fail. -/
structure CutTo (t whole : Instant) : Prop where
  checked : t.add? (-(t.nano % 1000 : Nat)) = some whole
  second : whole.second = t.second
  back : whole ≤ t
  near : t.nanos - whole.nanos < 1000

theorem add?_cut (t : Instant) : t.add? (-(t.nano % 1000 : Nat)) = some t.truncated := by
  have kept : t.truncated.nano = t.nano - t.nano % 1000 := rfl
  by_cases regular : t.nano < 1000000000
  · have early := t.firstSecond_le
    have late := t.le_lastSecond
    have moment : t.nanos = t.second * 1000000000 + t.nano := rfl
    rw [add?_regular regular, ofNanos?, dif_pos (by omega)]
    refine congrArg some (eq_of_parts ?_ ?_)
    · show _ = t.second
      dsimp only
      omega
    · rw [kept]
      dsimp only
      omega
  · have backward : -((t.nano % 1000 : Nat) : Int) ≤ 0 := by omega
    obtain ⟨u, moved, second, nano⟩ := add?_back_within (t := t) (by omega) backward (by omega)
    rw [moved]
    exact congrArg some (eq_of_parts second (by omega))

theorem truncated_le (t : Instant) : t.truncated ≤ t := by
  have kept : t.truncated.nano = t.nano - t.nano % 1000 := rfl
  exact (le_iff _ _).mpr (.inr ⟨rfl, by omega⟩)

theorem nanos_truncated (t : Instant) : t.truncated.nanos = t.nanos - (t.nano % 1000 : Nat) := by
  have kept : t.truncated.nano = t.nano - t.nano % 1000 := rfl
  have same : t.truncated.second = t.second := rfl
  rw [Instant.nanos, Instant.nanos, kept, same]
  omega

theorem cutTo_truncated (t : Instant) : t.CutTo t.truncated where
  checked := t.add?_cut
  second := rfl
  back := t.truncated_le
  near := by
    rw [nanos_truncated]
    omega

theorem truncated_truncated (t : Instant) : t.truncated.truncated = t.truncated := by
  have kept : t.truncated.nano = t.nano - t.nano % 1000 := rfl
  refine eq_of_parts rfl ?_
  show t.truncated.nano - t.truncated.nano % 1000 = t.truncated.nano
  omega

/-- What comes before a rounded instant when rounded comes before the instant itself. -/
theorem lt_of_truncated_lt {a b : Instant} (before : a.truncated < b.truncated) : a < b := by
  by_contra late
  exact absurd before (Int.not_lt.mpr (truncated_mono (Int.not_lt.mp late)))

/-- A way back as long as the range of instants leads to the first one from anywhere. -/
theorem max_first_of_long {t : Instant} (regular : t.nano < 1000000000) {nanos : Nat}
    (long : (0x1_0000_0000_0000_0000 - 1) * 1000 ≤ nanos) :
    max (t.nanos - nanos) first.nanos = first.nanos := by
  have lower : first.nanos = firstSecond * 1000000000 := rfl
  have late := t.le_lastSecond
  have moment : t.nanos = t.second * 1000000000 + t.nano := rfl
  simp only [firstSecond, lastSecond] at lower late
  omega

end Instant

theorem Duration.truncated_truncated (d : Duration) : d.truncated.truncated = d.truncated := by
  simp only [truncated, micros, Duration.mk.injEq]
  omega

namespace EventFields

variable {fields : EventFields}

theorem truncated_truncated (fields : EventFields) :
    fields.truncated.truncated = fields.truncated := by
  obtain ⟨title, description, start, stop, lead⟩ := fields
  cases lead <;>
    simp only [truncated, Instant.truncated_truncated, Option.map_none, Option.map_some,
      Duration.truncated_truncated]

/-- Rounding never makes intervals overlap. -/
theorem overlaps_of_truncated {other : EventFields}
    (clash : fields.truncated.overlaps other.truncated.start other.truncated.stop = true) :
    fields.overlaps other.start other.stop = true := by
  obtain ⟨before, after⟩ := (Store.overlap_iff _ _ _ _).mp clash
  exact (Store.overlap_iff _ _ _ _).mpr
    ⟨Instant.lt_of_truncated_lt before, Instant.lt_of_truncated_lt after⟩

theorem leadOrZero_truncated (fields : EventFields) :
    fields.truncated.leadOrZero = fields.leadOrZero.truncated := by
  rw [leadOrZero, leadOrZero, truncated]
  cases fields.lead <;> rfl

theorem nano_truncated_start (regular : fields.start.nano < 1000000000) :
    fields.truncated.start.nano < 1000000000 :=
  Nat.lt_of_le_of_lt (Nat.sub_le _ _) regular

/-- Rounding moves the reminder by less than a microsecond, either way. -/
theorem nanos_reminderAt_truncated (regular : fields.start.nano < 1000000000) :
    (fields.truncated.reminderAt.nanos - fields.reminderAt.nanos).natAbs < 1000 := by
  have regularToo := nano_truncated_start regular
  rw [nanos_reminderAt regular, nanos_reminderAt regularToo, dueNanos, dueNanos,
    leadOrZero_truncated]
  have start : fields.truncated.start.nanos =
      fields.start.nanos - (fields.start.nano % 1000 : Nat) :=
    fields.start.nanos_truncated
  generalize fields.leadOrZero = lead
  have cut : lead.truncated.nanos = min (lead.nanos / 1000) (0x1_0000_0000_0000_0000 - 1) * 1000 :=
    rfl
  by_cases fits : lead.nanos / 1000 ≤ 0x1_0000_0000_0000_0000 - 1
  · omega
  · have long : (0x1_0000_0000_0000_0000 - 1) * 1000 ≤ lead.truncated.nanos := by omega
    have longToo : (0x1_0000_0000_0000_0000 - 1) * 1000 ≤ lead.nanos := by omega
    rw [Instant.max_first_of_long regularToo long, Instant.max_first_of_long regular longToo]
    omega

end EventFields

namespace Store

/-- What the store is busy with in the way of a request was itself requested, with times that
overlap those of the request as both were given. -/
theorem busy_requested {history : List (EventId × Call)} {owner : String}
    {exempt : Option EventId} {fields : EventFields}
    (busy : (storage.run history .empty).2.view.Busy owner exempt fields.truncated.start
      fields.truncated.stop) :
    ∃ id event asked, (storage.run history .empty).2.events.get? id = some event ∧
      exempt ≠ some id ∧ Requests history ⟨id, owner, asked⟩ ∧ event.fields = asked.truncated ∧
      fields.overlaps asked.start asked.stop = true := by
  obtain ⟨id, event, ⟨stored, owned⟩, counted, before, after⟩ := busy
  rcases run_requested stored with earlier | ⟨asked, requests, kept⟩
  · cases earlier
  · rw [owned] at requests
    rw [kept] at before after
    refine ⟨id, event, asked, stored, counted, requests, kept, ?_⟩
    exact EventFields.overlaps_of_truncated ((overlap_iff _ _ _ _).mpr ⟨after, before⟩)

/-- A call answered that the date is taken asks for times that overlap those of an event that is
stored for the same owner, as that event was itself asked for. -/
theorem dateBusy_requested {history : List (EventId × Call)} {fresh : EventId} {call : Call}
    (admitted : (storage.run history .empty).2.Admits fresh call)
    (refused : (storage.perform fresh call (storage.run history .empty).2).1 = .error .dateBusy) :
    ∃ asked earlier, call.request? fresh = some asked ∧ Requests history earlier ∧
      earlier.id ≠ asked.id ∧ earlier.owner = asked.owner ∧
      (∃ event, (storage.run history .empty).2.events.get? earlier.id = some event ∧
        event.fields = earlier.fields.truncated) ∧
      asked.overlaps earlier.fields.start earlier.fields.stop = true := by
  have inv : (storage.run history .empty).2.Invariant := run_invariant empty_invariant history
  have outcome := perform_outcome inv fresh call fun _ => admitted
  rw [refused] at outcome
  generalize (storage.perform fresh call (storage.run history .empty).2).2.view = after at outcome
  cases outcome with
  | slotTaken known busy =>
    rename_i owner fields
    obtain ⟨id, event, asked, stored, _, requests, kept, overlapping⟩ := busy_requested busy
    refine ⟨⟨fresh, owner, fields⟩, ⟨id, owner, asked⟩, rfl, requests, ?_, rfl,
      ⟨event, stored, kept⟩, overlapping⟩
    rintro rfl
    rw [admitted] at stored
    cases stored
  | newSlotTaken owned busy =>
    rename_i owner id fields event
    obtain ⟨other, kept, asked, stored, apart, requests, rounded, overlapping⟩ :=
      busy_requested busy
    refine ⟨⟨id, owner, fields⟩, ⟨other, owner, asked⟩, rfl, requests, ?_, rfl,
      ⟨kept, stored, rounded⟩, overlapping⟩
    rintro rfl
    exact apart rfl

/-- Rounding fields down to whole microseconds always succeeds, and a second time changes nothing.
Instants keep their order, intervals that overlap overlapped before, and the reminder moves by less
than a microsecond. So a request is refused only for one that it overlaps as both were given. -/
theorem rounding_harmless (fields : EventFields) :
    fields.start.CutTo fields.truncated.start ∧ fields.stop.CutTo fields.truncated.stop ∧
    fields.truncated.truncated = fields.truncated ∧
    (∀ earlier later : Instant, earlier ≤ later → earlier.truncated ≤ later.truncated) ∧
    (∀ other : EventFields,
      fields.truncated.overlaps other.truncated.start other.truncated.stop = true →
        fields.overlaps other.start other.stop = true) ∧
    (fields.start.nano < 1000000000 →
      fields.reminderAt.nano < 1000000000 ∧ fields.truncated.reminderAt.nano < 1000000000 ∧
      (fields.truncated.reminderAt.nanos - fields.reminderAt.nanos).natAbs < 1000) ∧
    ∀ (history : List (EventId × Call)) (fresh : EventId) (call : Call),
      let store := (storage.run history .empty).2
      store.Admits fresh call → (storage.perform fresh call store).1 = .error .dateBusy →
        ∃ asked earlier, call.request? fresh = some asked ∧ Requests history earlier ∧
          earlier.id ≠ asked.id ∧ earlier.owner = asked.owner ∧
          (∃ event, store.events.get? earlier.id = some event ∧
            event.fields = earlier.fields.truncated) ∧
          asked.overlaps earlier.fields.start earlier.fields.stop = true := by
  refine ⟨fields.start.cutTo_truncated, fields.stop.cutTo_truncated, fields.truncated_truncated,
    fun _ _ => Instant.truncated_mono, fun _ => EventFields.overlaps_of_truncated, ?_, ?_⟩
  · intro regular
    exact ⟨EventFields.nano_reminderAt regular,
      EventFields.nano_reminderAt (EventFields.nano_truncated_start regular),
      EventFields.nanos_reminderAt_truncated regular⟩
  · intro history fresh call store admitted refused
    exact dateBusy_requested admitted refused

/-- An interval that begins with the last nanosecond of another is refused. -/
theorem rounding_harmless_nanosecond :
    let first : EventFields :=
      { title := "first"
        start := { second := 1906711200, nano := 0 }
        stop := { second := 1906711200, nano := 2999 } }
    let next : EventFields :=
      { title := "next"
        start := { second := 1906711200, nano := 1998 }
        stop := { second := 1906711200, nano := 5000 } }
    let history := [(.ofNat 0, .createUser (Fixture.user "alice")),
      (.ofNat 1, .createEvent "alice" first)]
    let store := (storage.run history .empty).2
    store.Admits (.ofNat 2) (.createEvent "alice" next) ∧
      (storage.perform (.ofNat 2) (.createEvent "alice" next) store).1 = .error .dateBusy ∧
      ∃ earlier, Requests history earlier ∧ earlier.owner = "alice" ∧
        next.overlaps earlier.fields.start earlier.fields.stop = true := by
  intro first next history store
  have admitted : store.Admits (.ofNat 2) (.createEvent "alice" next) := by
    show store.events.get? (.ofNat 2) = none
    decide +kernel
  have known : store.users.contains "alice" = true := by decide +kernel
  have busy : store.isBusy "alice" (fun _ => false) next.truncated.start next.truncated.stop =
      true := by
    decide +kernel
  have refused :
      (storage.perform (.ofNat 2) (.createEvent "alice" next) store).1 = .error .dateBusy := by
    show (store.createEvent (.ofNat 2) "alice" next).1.map Answer.created = .error .dateBusy
    rw [createEvent_eq, known, busy]
    rfl
  obtain ⟨asked, earlier, requested, requests, _, owner, _, overlapping⟩ :=
    (rounding_harmless next).2.2.2.2.2.2 history (.ofNat 2) _ admitted refused
  cases requested
  exact ⟨admitted, refused, earlier, requests, owner, overlapping⟩

end Store

end Datebook
