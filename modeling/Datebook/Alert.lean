import Datebook.Event

/-!
Reminders. A reminder carries all that is needed to notify the owner of an event.
-/

set_option autoImplicit false

namespace Datebook

structure Alert where
  eventId : EventId
  title : String
  description : Option String
  start : Instant
  stop : Instant
  owner : String
  ownerEmail : Option String
  deriving DecidableEq, Repr

namespace Alert

/-- The reminder of an event, with its owner's address when that is known. -/
def ofEvent (event : Event) (ownerEmail : Option String) : Alert :=
  { eventId := event.id
    title := event.fields.title
    description := event.fields.description
    start := event.fields.start
    stop := event.fields.stop
    owner := event.owner
    ownerEmail }

/-- The reminder with each time as its written form denotes it. -/
def asWritten (alert : Alert) : Alert :=
  { alert with start := alert.start.asWritten, stop := alert.stop.asWritten }

theorem asWritten_eq_self_iff {alert : Alert} :
    alert.asWritten = alert ↔ alert.start.EndsMinute ∧ alert.stop.EndsMinute := by
  rw [← Instant.asWritten_eq_self_iff, ← Instant.asWritten_eq_self_iff]
  constructor
  · intro same
    exact ⟨congrArg Alert.start same, congrArg Alert.stop same⟩
  · rintro ⟨start, stop⟩
    rw [asWritten, start, stop]

def describe (alert : Alert) : String :=
  Text.record "AlertEvent"
    [("event_id", alert.eventId.describe), ("title", Text.quoted alert.title),
      ("description", Text.optional Text.quoted alert.description),
      ("start_time", alert.start.text), ("end_time", alert.stop.text),
      ("owner", Text.quoted alert.owner),
      ("owner_email", Text.optional Text.quoted alert.ownerEmail)]

end Alert

end Datebook
