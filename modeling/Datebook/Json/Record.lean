import Datebook.Alert
import Datebook.Json.Reader
import Datebook.Role
import Datebook.Time.Stamp.Reader

/-!
The JSON forms of roles, identifiers, instants, durations, fields, events and reminders.

A record is an object of its fields or the array of their values in order. An object must give each
known field at most once; other fields are passed over, and an optional field that is absent is
null. The owner of an event is not part of its form. Each `ofJson?` reads what the `toJson` beside
it writes, an instant as its written form denotes it.
-/

set_option autoImplicit false

namespace Datebook

namespace Json

/-- The values of an object under a name. -/
def underName (name : String) (fields : List (Option (List Char) × Json)) : List Json :=
  (fields.filter fun field => field.1 = some name.toList).map (·.2)

/-- The value of an object under a name, if there is one; an object with two is refused. -/
def field? (fields : List (Option (List Char) × Json)) (name : String) : Option (Option Json) :=
  match underName name fields with
  | [] => some none
  | [value] => some (some value)
  | _ => none

/-- The values of a record in the order of its field names; a missing one is `none`. -/
def gather? (names : List String) : Json → Option (List (Option Json))
  | .array items => if items.length = names.length then some (items.map some) else none
  | .object fields =>
    if fields.all fun field => field.1.isSome then names.mapM (field? fields) else none
  | _ => none

/-- The value of a field that must be there. -/
def required? {α : Type} (decode : Json → Option α) (value : Option Json) : Option α :=
  value.bind decode

/-- The value of a field that may be missing or null. -/
def optional? {α : Type} (decode : Json → Option α) : Option Json → Option (Option α)
  | none | some .null => some none
  | some value => (decode value).map some

def toText? : Json → Option String
  | .string (some text) => some (String.ofList text)
  | _ => none

/-- The number below a limit that digits denote. -/
def toNat? (limit : Nat) : Json → Option Nat
  | .number token =>
    let value := Text.ofDigits token
    if token.all Text.isDigit ∧ value < limit then some value else none
  | _ => none

end Json

open Json

namespace Role

def toJson (role : Role) : Json :=
  .ofString role.text

/-- A role is its name, or an object with null under its name. -/
def ofJson? : Json → Option Role
  | .string (some text) => ofText? (String.ofList text)
  | .object [(some name, .null)] => ofText? (String.ofList name)
  | _ => none

end Role

namespace EventId

def toJson (id : EventId) : Json :=
  .string (some id.chars)

def ofJson? : Json → Option EventId
  | .string (some text) => read? text
  | _ => none

end EventId

namespace Instant

def toJson (t : Instant) : Json :=
  .string (some t.chars)

def ofJson? : Json → Option Instant
  | .string (some text) => (read text).toOption
  | _ => none

end Instant

namespace Duration

def fieldNames : List String :=
  ["secs", "nanos"]

def toJson (d : Duration) : Json :=
  .record [("secs", .ofNat d.secs), ("nanos", .ofNat d.subsecNanos)]

/-- Whether an object has no fields but those of a duration. -/
def hasOnlyFields : Json → Bool
  | .object fields => fields.all fun field =>
    fieldNames.any fun name => field.1 = some name.toList
  | _ => true

/-- Nanoseconds may exceed a second, as long as the sum is a duration. -/
def ofJson? (json : Json) : Option Duration :=
  if hasOnlyFields json then
    match gather? fieldNames json with
    | some [secs, nanos] => do
      ofParts? (← required? (toNat? 0x1_0000_0000_0000_0000) secs)
        (← required? (toNat? 0x1_0000_0000) nanos)
    | _ => none
  else none

end Duration

namespace EventFields

def fieldNames : List String :=
  ["title", "description", "start_time", "end_time", "notify_before"]

/-- The values in the order of the field names. -/
def jsonFields (fields : EventFields) : List (String × Json) :=
  [("title", .ofString fields.title), ("description", .ofOption .ofString fields.description),
    ("start_time", fields.start.toJson), ("end_time", fields.stop.toJson),
    ("notify_before", .ofOption Duration.toJson fields.lead)]

def toJson (fields : EventFields) : Json :=
  .record fields.jsonFields

/-- The fields from the values in the order of the field names. -/
def ofValues? : List (Option Json) → Option EventFields
  | [title, description, start, stop, lead] => do
    some
      { title := ← required? toText? title
        description := ← optional? toText? description
        start := ← required? Instant.ofJson? start
        stop := ← required? Instant.ofJson? stop
        lead := ← optional? Duration.ofJson? lead }
  | _ => none

def ofJson? (json : Json) : Option EventFields :=
  (gather? fieldNames json).bind ofValues?

end EventFields

namespace Event

def toJson (event : Event) : Json :=
  .record (("id", event.id.toJson) :: event.fields.jsonFields)

/-- The event of a JSON form, with an empty owner. -/
def ofJson? (json : Json) : Option Event :=
  match gather? ("id" :: EventFields.fieldNames) json with
  | some (id :: values) => do
    some ⟨← required? EventId.ofJson? id, "", ← EventFields.ofValues? values⟩
  | _ => none

end Event

namespace Alert

def fieldNames : List String :=
  ["event_id", "title", "description", "start_time", "end_time", "owner", "owner_email"]

def toJson (alert : Alert) : Json :=
  .record
    [("event_id", alert.eventId.toJson), ("title", .ofString alert.title),
      ("description", .ofOption .ofString alert.description),
      ("start_time", alert.start.toJson), ("end_time", alert.stop.toJson),
      ("owner", .ofString alert.owner), ("owner_email", .ofOption .ofString alert.ownerEmail)]

def ofJson? (json : Json) : Option Alert :=
  match gather? fieldNames json with
  | some [eventId, title, description, start, stop, owner, ownerEmail] => do
    some
      { eventId := ← required? EventId.ofJson? eventId
        title := ← required? toText? title
        description := ← optional? toText? description
        start := ← required? Instant.ofJson? start
        stop := ← required? Instant.ofJson? stop
        owner := ← required? toText? owner
        ownerEmail := ← optional? toText? ownerEmail }
  | _ => none

end Alert

end Datebook
