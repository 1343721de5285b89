import Datebook.Alert
import Datebook.Failure
import Datebook.Time.Stamp.Reader

/-!
The wire format of reminders.

A payload is a version octet and the fields in order. Lengths are 64-bit little-endian numbers. An
identifier is its sixteen octets behind their length, a text its UTF-8 octets behind their length,
an optional text one octet, 0 or 1, and for 1 the text, and an instant its written form as a text,
which a leap second inside a minute shares with an instant of the next second. What follows the last
field is not looked at.
-/

set_option autoImplicit false

namespace Datebook

/-- Why a payload is no reminder. -/
inductive WireError where
  | empty
  | version (found : UInt8)
  /-- The payload ends inside a length or before a tag. -/
  | cutOff
  /-- A length exceeds what is left. -/
  | tooLong
  | tag (found : UInt8)
  | text (cause : Text.Utf8Error)
  | idLength (found : Nat)
  | stamp (cause : StampError)
  deriving DecidableEq, Repr

def WireError.message : WireError → String
  | .empty => "empty payload"
  | .version found => "unsupported format version " ++ toString found.toNat
  | .cutOff => "io error: unexpected end of file"
  | .tooLong => "io error: "
  | .tag found => "tag for enum is not valid, found " ++ toString found.toNat
  | .text cause => "string is not valid utf8: " ++ cause.message
  | .idLength found =>
    "UUID parsing failed: invalid length: expected 16 bytes, found " ++ toString found
  | .stamp cause => cause.message

namespace Wire

/-- The version octet of every payload. -/
def formatVersion : UInt8 := 1

/-- The last `width` octets of a number, the least significant first. -/
def littleEndian : Nat → Nat → Bytes
  | 0, _ => []
  | width + 1, n => UInt8.ofNat n :: littleEndian width (n / 256)

/-- The number that octets denote, the least significant first. -/
def ofLittleEndian : Bytes → Nat
  | [] => 0
  | b :: rest => b.toNat + 256 * ofLittleEndian rest

/-- Octets behind their length. -/
def sized (bytes : Bytes) : Bytes :=
  littleEndian 8 bytes.length ++ bytes

def textBytes (text : String) : Bytes :=
  sized (Text.utf8Encode text.toList)

def optionalBytes : Option String → Bytes
  | none => [0]
  | some text => 1 :: textBytes text

def instantBytes (t : Instant) : Bytes :=
  sized (Text.utf8Encode t.chars)

/-!
Each reader returns what it has read and the octets that follow it.
-/

def readLength (bytes : Bytes) : Except WireError (Nat × Bytes) :=
  if bytes.length < 8 then .error .cutOff
  else .ok (ofLittleEndian (bytes.take 8), bytes.drop 8)

def readSized (bytes : Bytes) : Except WireError (Bytes × Bytes) := do
  let (length, rest) ← readLength bytes
  if rest.length < length then .error .tooLong else .ok (rest.take length, rest.drop length)

def readChars (bytes : Bytes) : Except WireError (List Char × Bytes) := do
  let (body, rest) ← readSized bytes
  match Text.utf8Decode body with
  | .ok chars => .ok (chars, rest)
  | .error cause => .error (.text cause)

def readText (bytes : Bytes) : Except WireError (String × Bytes) := do
  let (chars, rest) ← readChars bytes
  .ok (String.ofList chars, rest)

def readOptional : Bytes → Except WireError (Option String × Bytes)
  | [] => .error .cutOff
  | tag :: rest =>
    if tag = 0 then .ok (none, rest)
    else if tag = 1 then do
      let (text, rest) ← readText rest
      .ok (some text, rest)
    else .error (.tag tag)

def readId (bytes : Bytes) : Except WireError (EventId × Bytes) := do
  let (body, rest) ← readSized bytes
  match EventId.ofBytes? body with
  | some id => .ok (id, rest)
  | none => .error (.idLength body.length)

def readInstant (bytes : Bytes) : Except WireError (Instant × Bytes) := do
  let (chars, rest) ← readChars bytes
  match Instant.read chars with
  | .ok t => .ok (t, rest)
  | .error cause => .error (.stamp cause)

/-- The fields of a reminder and the octets that follow them. -/
def readFields (bytes : Bytes) : Except WireError (Alert × Bytes) := do
  let (eventId, bytes) ← readId bytes
  let (title, bytes) ← readText bytes
  let (description, bytes) ← readOptional bytes
  let (start, bytes) ← readInstant bytes
  let (stop, bytes) ← readInstant bytes
  let (owner, bytes) ← readText bytes
  let (ownerEmail, bytes) ← readOptional bytes
  .ok ({ eventId, title, description, start, stop, owner, ownerEmail }, bytes)

end Wire

namespace Alert

/-- The payload of a reminder. -/
def encode (alert : Alert) : Bytes :=
  Wire.formatVersion :: Wire.sized alert.eventId.bytes ++ Wire.textBytes alert.title
    ++ Wire.optionalBytes alert.description ++ Wire.instantBytes alert.start
    ++ Wire.instantBytes alert.stop ++ Wire.textBytes alert.owner
    ++ Wire.optionalBytes alert.ownerEmail

/-- The reminder of a payload. -/
def decode : Bytes → Except WireError Alert
  | [] => .error .empty
  | version :: body =>
    if version = Wire.formatVersion then (Wire.readFields body).map (·.1)
    else .error (.version version)

/-- The reminder of a payload, as a queue reports it. -/
def receive (payload : Bytes) : Except QueueError Alert :=
  (decode payload).mapError fun cause => .decode cause.message

end Alert

end Datebook
