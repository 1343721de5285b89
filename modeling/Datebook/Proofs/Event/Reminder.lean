import Datebook.Event
import Datebook.Proofs.Store.Agenda
import Datebook.Proofs.Time.Span

/-!
When reminders are due.

A reminder is due its lead time before the start, in whole nanoseconds, and never before the first
instant. From inside a leap second the same subtraction holds of the count of nanoseconds, but the
count no longer tells the instant: `Instant.subClamped_within` says which one it is. So a longer
lead time never makes a reminder later. Main statement: `Event.reminders_exact`.
-/

set_option autoImplicit false

namespace Datebook

namespace Instant

/-- Moving an instant backwards takes from its nanoseconds, down to those of the first instant. It
never leads into a later second, nor into the leap second of another. -/
theorem subClamped_within (t : Instant) (d : Duration) :
    (t.subClamped d).nanos = max (t.nanos - d.nanos) first.nanos ∧
      (t.subClamped d).second ≤ t.second ∧
      ((t.subClamped d).nano < 1000000000 ∨ (t.subClamped d).second = t.second) := by
  have early := t.first_nanos_le
  have late := t.le_lastSecond
  have short := t.nano_lt
  have upper : last.nanos = lastSecond * 1000000000 + 999999999 := rfl
  have moment : t.nanos = t.second * 1000000000 + t.nano := rfl
  by_cases regular : t.nano < 1000000000
  · have nanos := nanos_subClamped regular d
    have nano := nano_subClamped regular d
    refine ⟨nanos, ?_, Or.inl nano⟩
    rw [Instant.nanos] at nanos
    omega
  · rw [subClamped_eq]
    by_cases inside : d.nanos < 1000000000
    · have backward : -(d.nanos : Int) ≤ 0 := by omega
      obtain ⟨u, moved, second, nano⟩ := add?_back_within (t := t) (by omega) backward (by omega)
      rw [moved, Option.getD_some]
      refine ⟨?_, Int.le_of_eq second, Or.inr second⟩
      rw [Instant.nanos, second]
      omega
    · rw [add?_back_past (by omega) (by omega)]
      have nano := nano_getD_first (t.nanos + -d.nanos)
      have nanos := nanos_getD_first (show t.nanos + -d.nanos ≤ last.nanos by omega)
      refine ⟨nanos, ?_, Or.inl nano⟩
      rw [Instant.nanos] at nanos
      omega

/-- The longer the way back, the earlier the end of it. -/
theorem subClamped_antitone (t : Instant) {d longer : Duration} (ordered : d.nanos ≤ longer.nanos) :
    t.subClamped longer ≤ t.subClamped d := by
  obtain ⟨nanos, second, regular⟩ := t.subClamped_within d
  obtain ⟨nanosToo, secondToo, regularToo⟩ := t.subClamped_within longer
  rw [le_iff]
  rw [Instant.nanos] at nanos nanosToo
  omega

theorem subClamped_zero (t : Instant) : t.subClamped ⟨0, by decide⟩ = t := by
  rw [subClamped_eq]
  show (t.add? 0).getD first = t
  rw [add?_zero, Option.getD_some]

end Instant

namespace EventFields

/-- How long before the start the reminder is due; without a lead time, no time at all. -/
def leadOrZero (fields : EventFields) : Duration :=
  fields.lead.getD ⟨0, by decide⟩

/-- The nanoseconds of the start less those of the lead time, which may lie before the first
instant. -/
def dueNanos (fields : EventFields) : Int :=
  fields.start.nanos - fields.leadOrZero.nanos

theorem reminderAt_eq (fields : EventFields) :
    fields.reminderAt = fields.start.subClamped fields.leadOrZero := by
  rw [reminderAt, leadOrZero]
  cases fields.lead with
  | none => exact fields.start.subClamped_zero.symm
  | some lead => rfl

/-- A longer lead time never makes the reminder later. -/
theorem reminderAt_antitone {fields other : EventFields} (start : other.start = fields.start)
    (longer : fields.leadOrZero.nanos ≤ other.leadOrZero.nanos) :
    other.reminderAt ≤ fields.reminderAt := by
  rw [reminderAt_eq, reminderAt_eq, start]
  exact fields.start.subClamped_antitone longer

theorem reminderAt_le_start (fields : EventFields) : fields.reminderAt ≤ fields.start := by
  let unled : EventFields := { fields with lead := none }
  have shorter : unled.leadOrZero.nanos ≤ fields.leadOrZero.nanos := Nat.zero_le _
  exact reminderAt_antitone (show fields.start = unled.start from rfl) shorter

variable {fields : EventFields}

theorem nano_reminderAt (regular : fields.start.nano < 1000000000) :
    fields.reminderAt.nano < 1000000000 := by
  rw [reminderAt_eq]
  exact Instant.nano_subClamped regular _

theorem nanos_reminderAt (regular : fields.start.nano < 1000000000) :
    fields.reminderAt.nanos = max fields.dueNanos Instant.first.nanos := by
  rw [reminderAt_eq]
  exact Instant.nanos_subClamped regular _

/-- In a window that begins after the first instant, a reminder is due by its nanoseconds alone. -/
theorem dueWithin_iff_dueNanos (regular : fields.start.nano < 1000000000) {start stop : Instant}
    (later : Instant.first < start) (startRegular : start.nano < 1000000000)
    (stopRegular : stop.nano < 1000000000) :
    fields.dueWithin start stop = true ↔
      start.nanos ≤ fields.dueNanos ∧ fields.dueNanos < stop.nanos := by
  have nano := nano_reminderAt regular
  rw [Instant.lt_iff_nanos (by decide) startRegular] at later
  rw [dueWithin, Bool.and_eq_true, decide_eq_true_eq, decide_eq_true_eq,
    Instant.le_iff_nanos startRegular nano, Instant.lt_iff_nanos nano stopRegular,
    nanos_reminderAt regular]
  omega

end EventFields

namespace Event

/-- Outside leap seconds a reminder is due exactly its lead time before the start, or at the first
instant if that would be earlier, and a window holds it by the count of nanoseconds. Whatever the
start, it is never due after the start, and with a longer lead time never later. -/
theorem reminders_exact (event : Event) :
    (event.start.nano < 1000000000 →
      event.reminderAt.nano < 1000000000 ∧
      (Instant.first.nanos ≤ event.fields.dueNanos →
        event.reminderAt.nanos = event.fields.dueNanos) ∧
      (event.fields.dueNanos < Instant.first.nanos → event.reminderAt = Instant.first) ∧
      ∀ start stop : Instant, Instant.first < start → start.nano < 1000000000 →
        stop.nano < 1000000000 → (event.dueWithin start stop = true ↔
          start.nanos ≤ event.fields.dueNanos ∧ event.fields.dueNanos < stop.nanos)) ∧
    event.reminderAt ≤ event.start ∧
    ∀ lead longer : Duration, lead.nanos ≤ longer.nanos →
      (event.apply { event.fields with lead := some longer }).reminderAt ≤
        (event.apply { event.fields with lead := some lead }).reminderAt := by
  refine ⟨fun regular => ?_, event.fields.reminderAt_le_start,
    fun lead longer ordered => EventFields.reminderAt_antitone rfl ordered⟩
  have nano : event.reminderAt.nano < 1000000000 := EventFields.nano_reminderAt regular
  have nanos : event.reminderAt.nanos = max event.fields.dueNanos Instant.first.nanos :=
    EventFields.nanos_reminderAt regular
  refine ⟨nano, ?_, ?_, ?_⟩
  · intro inRange
    omega
  · intro early
    have same : event.reminderAt.nanos = Instant.first.nanos := by omega
    have regularFirst : Instant.first.nano < 1000000000 := by decide
    apply Instant.le_antisymm
    · exact (Instant.le_iff_nanos nano regularFirst).mpr (Int.le_of_eq same)
    · exact (Instant.le_iff_nanos regularFirst nano).mpr (Int.le_of_eq same.symm)
  · intro start stop later startRegular stopRegular
    exact EventFields.dueWithin_iff_dueNanos regular later startRegular stopRegular

/-- Half an hour into the range of instants, two hours earlier is the first instant. -/
theorem reminders_exact_early :
    let event : Event :=
      { id := .ofNat 1
        owner := "alice"
        fields :=
          { title := "dawn"
            start := { second := firstSecond + 1800, nano := 5 }
            stop := .last
            lead := some ⟨7200000000000, by decide⟩ } }
    event.start.nano < 1000000000 ∧ event.fields.dueNanos < Instant.first.nanos ∧
      event.reminderAt = Instant.first := by
  intro event
  have regular : event.start.nano < 1000000000 := by decide
  have early : event.fields.dueNanos < Instant.first.nanos := by decide
  exact ⟨regular, early, ((reminders_exact event).1 regular).2.2.1 early⟩

end Event

end Datebook
