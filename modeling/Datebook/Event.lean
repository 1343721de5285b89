import Datebook.EventId
import Datebook.Text.Quoted
import Datebook.Time.Stamp

/-!
Calendar events.

An event occupies the half-open interval from its start to its stop. Two intervals overlap when
each starts before the other stops, so that neighbours which touch do not. A reminder is due its
lead time before the start.
-/

set_option autoImplicit false

namespace Datebook

/-- What a caller says about an event, to create it or to change it. -/
structure EventFields where
  title : String
  description : Option String := none
  start : Instant
  stop : Instant
  /-- How long before the start the reminder is due. -/
  lead : Option Duration := none
  deriving DecidableEq, Repr

/-- A stored event. -/
structure Event where
  id : EventId
  owner : String
  fields : EventFields
  deriving DecidableEq, Repr

/-- Whether two half-open intervals overlap. -/
def overlap (start stop otherStart otherStop : Instant) : Bool :=
  start < otherStop && otherStart < stop

namespace EventFields

/-- The fields in whole microseconds, the finest unit that stores keep. -/
def truncated (fields : EventFields) : EventFields :=
  { fields with
    start := fields.start.truncated
    stop := fields.stop.truncated
    lead := fields.lead.map Duration.truncated }

/-- The fields with each time as its written form denotes it. -/
def asWritten (fields : EventFields) : EventFields :=
  { fields with start := fields.start.asWritten, stop := fields.stop.asWritten }

theorem asWritten_eq_self_iff {fields : EventFields} :
    fields.asWritten = fields ↔ fields.start.EndsMinute ∧ fields.stop.EndsMinute := by
  rw [← Instant.asWritten_eq_self_iff, ← Instant.asWritten_eq_self_iff]
  constructor
  · intro same
    exact ⟨congrArg EventFields.start same, congrArg EventFields.stop same⟩
  · rintro ⟨start, stop⟩
    rw [asWritten, start, stop]

def overlaps (fields : EventFields) (start stop : Instant) : Bool :=
  overlap fields.start fields.stop start stop

/-- The instant at which the reminder is due. -/
def reminderAt (fields : EventFields) : Instant :=
  match fields.lead with
  | none => fields.start
  | some lead => fields.start.subClamped lead

/-- Whether the reminder is due in a half-open window. -/
def dueWithin (fields : EventFields) (start stop : Instant) : Bool :=
  start ≤ fields.reminderAt && fields.reminderAt < stop

/-- The labelled fields for diagnostics. -/
def describeParts (fields : EventFields) : List (String × String) :=
  [("title", Text.quoted fields.title),
    ("description", Text.optional Text.quoted fields.description),
    ("start_time", fields.start.text), ("end_time", fields.stop.text),
    ("notify_before", Text.optional Duration.text fields.lead)]

def describe (fields : EventFields) : String :=
  Text.record "EventFields" fields.describeParts

end EventFields

def EventId.describe (id : EventId) : String :=
  "EventId(" ++ id.text ++ ")"

namespace Event

/-- The event with other fields and the same identifier and owner. -/
def apply (event : Event) (fields : EventFields) : Event :=
  { event with fields }

def start (event : Event) : Instant :=
  event.fields.start

def overlaps (event : Event) (start stop : Instant) : Bool :=
  event.fields.overlaps start stop

def reminderAt (event : Event) : Instant :=
  event.fields.reminderAt

def dueWithin (event : Event) (start stop : Instant) : Bool :=
  event.fields.dueWithin start stop

theorem dueWithin_iff (event : Event) (start stop : Instant) :
    event.dueWithin start stop = true ↔ start ≤ event.reminderAt ∧ event.reminderAt < stop := by
  simp only [dueWithin, EventFields.dueWithin, Bool.and_eq_true, decide_eq_true_eq]
  rfl

def describe (event : Event) : String :=
  Text.record "Event"
    (("id", event.id.describe) :: event.fields.describeParts
      ++ [("owner", Text.quoted event.owner)])

end Event

end Datebook
