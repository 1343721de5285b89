import Datebook.Proofs.Alert.Wire

/-!
Which octets are payloads.

A payload is described as data: the kinds of its fields in order, the octets that spell a value in a
field of each kind, and what can be wrong with a field. Every octet sequence either begins with a
field that is spelled correctly or is at fault there, and never both, so that each reader accepts
exactly the first and fails exactly on the second. Fields in sequence inherit this:
`Alert.receive_exact`.
-/

set_option autoImplicit false

namespace Datebook

namespace Wire

/-- The kinds of fields. -/
inductive Field where
  | id
  | text
  | optional
  | stamp
  deriving DecidableEq, Repr

namespace Field

abbrev Value : Field → Type
  | id => EventId
  | text => String
  | optional => Option String
  | stamp => Instant

def read : (field : Field) → Bytes → Except WireError (field.Value × Bytes)
  | id => readId
  | text => readText
  | optional => readOptional
  | stamp => readInstant

/-- The octets that spell a value in a field. An instant can be spelled in many ways. -/
def Spells : (field : Field) → Bytes → field.Value → Prop
  | id, octets, value => octets = sized value.bytes
  | text, octets, value => Fits value.toList ∧ octets = textBytes value
  | optional, octets, value =>
    (∀ present, value = some present → Fits present.toList) ∧ octets = optionalBytes value
  | stamp, octets, value => ∃ chars, Fits chars ∧ Instant.read chars = .ok value ∧
    octets = sized (Text.utf8Encode chars)

end Field

/-- Octets that do not begin with a length and as many octets as it says. -/
inductive Short : Bytes → Prop where
  | cutOff {bytes : Bytes} (few : bytes.length < 8) : Short bytes
  | tooLong {length : Nat} {rest : Bytes} (counted : length < 0x1_0000_0000_0000_0000)
    (few : rest.length < length) : Short (littleEndian 8 length ++ rest)

/-- Octets that do not begin with a length and the UTF-8 octets of a text. -/
inductive Unreadable : Bytes → Prop where
  | short {bytes : Bytes} (short : Short bytes) : Unreadable bytes
  | malformed {body : Bytes} (counted : body.length < 0x1_0000_0000_0000_0000)
    (malformed : ∀ chars, body ≠ Text.utf8Encode chars) (rest : Bytes) :
    Unreadable (sized body ++ rest)

/-- What is wrong with the octets at a field, whatever follows them. -/
inductive Field.Fault : Field → Bytes → Prop where
  | idShort {bytes : Bytes} (short : Short bytes) : Fault id bytes
  | idLength {body : Bytes} (counted : body.length < 0x1_0000_0000_0000_0000)
    (other : body.length ≠ 16) (rest : Bytes) : Fault id (sized body ++ rest)
  | text {bytes : Bytes} (unreadable : Unreadable bytes) : Fault text bytes
  | untagged : Fault optional []
  | tag {tag : UInt8} (absent : tag ≠ 0) (present : tag ≠ 1) (rest : Bytes) :
    Fault optional (tag :: rest)
  | present {bytes : Bytes} (faulty : Fault Field.text bytes) : Fault optional (1 :: bytes)
  | stamp {bytes : Bytes} (unreadable : Unreadable bytes) : Fault stamp bytes
  | noStamp {chars : List Char} {cause : StampError} (fits : Fits chars)
    (refused : Instant.read chars = .error cause) (rest : Bytes) :
    Fault stamp (sized (Text.utf8Encode chars) ++ rest)

/-- A reader takes the octets of a form for their value, whatever follows them, fails where there is
a fault, and there is no third case. -/
structure Recognises {α : Type} (read : Bytes → Except WireError (α × Bytes))
    (form : Bytes → α → Prop) (fault : Bytes → Prop) : Prop where
  whole : ∀ {octets value}, form octets value → ∀ rest, read (octets ++ rest) = .ok (value, rest)
  fails : ∀ {bytes}, fault bytes → ∃ reason, read bytes = .error reason
  covers : ∀ bytes, (∃ octets value rest, form octets value ∧ bytes = octets ++ rest) ∨ fault bytes

namespace Recognises

variable {α β : Type} {read : Bytes → Except WireError (α × Bytes)} {form : Bytes → α → Prop}
  {fault : Bytes → Prop}

theorem ok_iff (recognises : Recognises read form fault) {bytes rest : Bytes} {value : α} :
    read bytes = .ok (value, rest) ↔ ∃ octets, form octets value ∧ bytes = octets ++ rest := by
  constructor
  · intro accepted
    rcases recognises.covers bytes with ⟨octets, other, tail, spelled, rfl⟩ | faulty
    · rw [recognises.whole spelled] at accepted
      cases accepted
      exact ⟨octets, spelled, rfl⟩
    · obtain ⟨reason, failed⟩ := recognises.fails faulty
      rw [failed] at accepted
      cases accepted
  · rintro ⟨octets, spelled, rfl⟩
    exact recognises.whole spelled rest

theorem error_iff (recognises : Recognises read form fault) {bytes : Bytes} :
    (∃ reason, read bytes = .error reason) ↔ fault bytes := by
  constructor
  · rintro ⟨reason, failed⟩
    rcases recognises.covers bytes with ⟨octets, value, rest, spelled, rfl⟩ | faulty
    · rw [recognises.whole spelled] at failed
      cases failed
    · exact faulty
  · exact recognises.fails

end Recognises

theorem readSized_recognises :
    Recognises readSized
      (fun octets body => body.length < 0x1_0000_0000_0000_0000 ∧ octets = sized body) Short where
  whole := by
    rintro octets body ⟨counted, rfl⟩
    exact (readSized_delimits counted).whole
  fails := by
    rintro bytes (few | ⟨counted, few⟩)
    · refine ⟨.cutOff, ?_⟩
      rw [readSized, readLength, if_pos few]
      rfl
    · refine ⟨.tooLong, ?_⟩
      rw [readSized, bind_of_ok ((readLength_delimits counted).whole _)]
      exact if_pos few
  covers bytes := by
    by_cases few : bytes.length < 8
    · exact .inr (.cutOff few)
    have front : (bytes.take 8).length = 8 := List.length_take_of_le (by omega)
    have counted := ofLittleEndian_lt (bytes.take 8)
    have same := littleEndian_ofLittleEndian (bytes.take 8)
    rw [front] at counted same
    have split : bytes = littleEndian 8 (ofLittleEndian (bytes.take 8)) ++ bytes.drop 8 := by
      rw [same, List.take_append_drop]
    generalize ofLittleEndian (bytes.take 8) = length at counted split
    generalize bytes.drop 8 = rest at split
    subst split
    by_cases enough : rest.length < length
    · exact .inr (.tooLong counted enough)
    · have body : (rest.take length).length = length := List.length_take_of_le (by omega)
      refine .inl ⟨sized (rest.take length), rest.take length, rest.drop length, ⟨?_, rfl⟩, ?_⟩
      · rw [body]
        exact counted
      · rw [sized, body, List.append_assoc, List.take_append_drop]

theorem readChars_recognises :
    Recognises readChars
      (fun octets chars => Fits chars ∧ octets = sized (Text.utf8Encode chars)) Unreadable where
  whole := by
    rintro octets chars ⟨fits, rfl⟩
    exact (readChars_delimits fits).whole
  fails := by
    rintro bytes (short | ⟨counted, malformed, rest⟩)
    · obtain ⟨reason, failed⟩ := readSized_recognises.fails short
      refine ⟨reason, ?_⟩
      rw [readChars, failed]
      rfl
    · rw [readChars, bind_of_ok ((readSized_delimits counted).whole rest)]
      dsimp only
      split
      · rename_i chars decoded
        exact absurd (Text.utf8Decode_eq_ok_iff.mp decoded) (malformed chars)
      · exact ⟨_, rfl⟩
  covers bytes := by
    rcases readSized_recognises.covers bytes with ⟨_, body, rest, ⟨counted, rfl⟩, rfl⟩ | short
    · by_cases decodes : ∃ chars, body = Text.utf8Encode chars
      · obtain ⟨chars, rfl⟩ := decodes
        exact .inl ⟨_, chars, rest, ⟨counted, rfl⟩, rfl⟩
      · exact .inr (.malformed counted (fun chars same => decodes ⟨chars, same⟩) rest)
    · exact .inr (.short short)

namespace Field

theorem id_recognises : Recognises readId id.Spells id.Fault where
  whole := by
    rintro octets value rfl
    exact (readId_delimits value).whole
  fails := by
    intro bytes faulty
    cases faulty with
    | idShort short =>
      obtain ⟨reason, failed⟩ := readSized_recognises.fails short
      refine ⟨reason, ?_⟩
      rw [readId, failed]
      rfl
    | idLength counted other rest =>
      rw [readId, bind_of_ok ((readSized_delimits counted).whole rest)]
      dsimp only
      rw [EventId.ofBytes?, if_neg other]
      exact ⟨_, rfl⟩
  covers bytes := by
    rcases readSized_recognises.covers bytes with ⟨_, body, rest, ⟨counted, rfl⟩, rfl⟩ | short
    · by_cases length : body.length = 16
      · obtain ⟨value, rfl⟩ := EventId.eq_bytes_of_length length
        exact .inl ⟨_, value, rest, rfl, rfl⟩
      · exact .inr (.idLength counted length rest)
    · exact .inr (.idShort short)

theorem text_recognises : Recognises readText text.Spells text.Fault where
  whole := by
    rintro octets value ⟨fits, rfl⟩
    exact (readText_delimits fits).whole
  fails := by
    intro bytes faulty
    cases faulty with | text unreadable =>
    obtain ⟨reason, failed⟩ := readChars_recognises.fails unreadable
    refine ⟨reason, ?_⟩
    rw [readText, failed]
    rfl
  covers bytes := by
    rcases readChars_recognises.covers bytes with ⟨_, chars, rest, ⟨fits, rfl⟩, rfl⟩ | unreadable
    · rw [← String.toList_ofList (l := chars)] at fits ⊢
      exact .inl ⟨_, String.ofList chars, rest, ⟨fits, rfl⟩, rfl⟩
    · exact .inr (.text unreadable)

theorem optional_recognises : Recognises readOptional optional.Spells optional.Fault where
  whole := by
    rintro octets value ⟨fits, rfl⟩
    exact (readOptional_delimits fits).whole
  fails := by
    intro bytes faulty
    cases faulty with
    | untagged => exact ⟨.cutOff, rfl⟩
    | tag absent present rest =>
      rw [readOptional, if_neg absent, if_neg present]
      exact ⟨_, rfl⟩
    | present faulty =>
      obtain ⟨reason, failed⟩ := text_recognises.fails faulty
      refine ⟨reason, ?_⟩
      show (readText _ >>= _) = _
      rw [failed]
      rfl
  covers bytes := by
    cases bytes with
    | nil => exact .inr .untagged
    | cons tag rest =>
      by_cases absent : tag = 0
      · subst absent
        refine .inl ⟨[0], none, rest, ⟨?_, rfl⟩, rfl⟩
        intro text same
        cases same
      by_cases present : tag = 1
      · subst present
        rcases text_recognises.covers rest with ⟨_, value, rest, ⟨fits, rfl⟩, rfl⟩ | faulty
        · refine .inl ⟨1 :: textBytes value, some value, rest, ⟨?_, rfl⟩, rfl⟩
          intro text same
          cases same
          exact fits
        · exact .inr (.present faulty)
      · exact .inr (.tag absent present rest)

theorem stamp_recognises : Recognises readInstant stamp.Spells stamp.Fault where
  whole := by
    rintro octets value ⟨chars, fits, readable, rfl⟩ rest
    rw [readInstant, bind_of_ok ((readChars_delimits fits).whole rest)]
    dsimp only
    rw [readable]
  fails := by
    intro bytes faulty
    cases faulty with
    | stamp unreadable =>
      obtain ⟨reason, failed⟩ := readChars_recognises.fails unreadable
      refine ⟨reason, ?_⟩
      rw [readInstant, failed]
      rfl
    | noStamp fits refused rest =>
      rw [readInstant, bind_of_ok ((readChars_delimits fits).whole rest)]
      dsimp only
      rw [refused]
      exact ⟨_, rfl⟩
  covers bytes := by
    rcases readChars_recognises.covers bytes with ⟨_, chars, rest, ⟨fits, rfl⟩, rfl⟩ | unreadable
    · cases read : Instant.read chars with
      | ok t => exact .inl ⟨_, t, rest, ⟨chars, fits, read, rfl⟩, rfl⟩
      | error cause => exact .inr (.noStamp fits read rest)
    · exact .inr (.stamp unreadable)

theorem recognises (field : Field) : Recognises field.read field.Spells field.Fault := by
  cases field with
  | id => exact id_recognises
  | text => exact text_recognises
  | optional => exact optional_recognises
  | stamp => exact stamp_recognises

end Field

/-- Octets that are at fault in one field of a layout, after fields that are spelled correctly. -/
inductive Broken : List Field → Bytes → Prop where
  | here {field : Field} {fields : List Field} {bytes : Bytes} (faulty : field.Fault bytes) :
    Broken (field :: fields) bytes
  | later {field : Field} {fields : List Field} {head rest : Bytes} {value : field.Value}
    (spelled : field.Spells head value) (broken : Broken fields rest) :
    Broken (field :: fields) (head ++ rest)

namespace Recognises

variable {β : Type}

theorem of_form_iff {read : Bytes → Except WireError (β × Bytes)} {form other : Bytes → β → Prop}
    {fault : Bytes → Prop} (recognises : Recognises read form fault)
    (same : ∀ octets value, other octets value ↔ form octets value) :
    Recognises read other fault where
  whole spelled := recognises.whole ((same _ _).mp spelled)
  fails := recognises.fails
  covers bytes := by
    rcases recognises.covers bytes with ⟨octets, value, rest, spelled, split⟩ | faulty
    · exact .inl ⟨octets, value, rest, (same octets value).mpr spelled, split⟩
    · exact .inr faulty

theorem done (value : β) : Recognises (fun rest => .ok (value, rest))
    (fun octets result => octets = [] ∧ result = value) (Broken []) where
  whole := by
    rintro octets result ⟨rfl, rfl⟩ rest
    rfl
  fails := by
    intro bytes broken
    cases broken
  covers bytes := .inl ⟨[], value, bytes, ⟨rfl, rfl⟩, rfl⟩

/-- A layout is read field by field, and what follows a field may depend on its value. -/
theorem sequence (field : Field) {fields : List Field}
    {next : field.Value × Bytes → Except WireError (β × Bytes)}
    {form : field.Value → Bytes → β → Prop}
    (back : ∀ value, Recognises (fun rest => next (value, rest)) (form value) (Broken fields)) :
    Recognises (fun bytes => field.read bytes >>= next)
      (fun octets result => ∃ head value tail, field.Spells head value ∧ octets = head ++ tail ∧
        form value tail result) (Broken (field :: fields)) where
  whole := by
    rintro _ result ⟨head, value, tail, spelled, rfl, spelledTail⟩ rest
    rw [List.append_assoc, bind_of_ok (field.recognises.whole spelled _)]
    exact (back value).whole spelledTail rest
  fails := by
    intro bytes broken
    cases broken with
    | here faulty =>
      obtain ⟨reason, failed⟩ := field.recognises.fails faulty
      refine ⟨reason, ?_⟩
      rw [failed]
      rfl
    | later spelled broken =>
      rw [bind_of_ok (field.recognises.whole spelled _)]
      exact (back _).fails broken
  covers bytes := by
    rcases field.recognises.covers bytes with ⟨head, value, rest, spelled, rfl⟩ | faulty
    · rcases (back value).covers rest with ⟨tail, result, rest, spelledTail, rfl⟩ | broken
      · refine .inl ⟨head ++ tail, result, rest, ⟨head, value, tail, spelled, rfl, spelledTail⟩, ?_⟩
        rw [List.append_assoc]
      · exact .inr (.later spelled broken)
    · exact .inr (.here faulty)

end Recognises

end Wire

namespace Alert

open Wire

/-- The kinds of the fields of a reminder, in order. -/
def layout : List Field :=
  [.id, .text, .optional, .stamp, .stamp, .text, .optional]

/-- The payload of a reminder whose two instants are written as given. -/
def spelling (alert : Alert) (start stop : List Char) : Bytes :=
  formatVersion :: sized alert.eventId.bytes ++ textBytes alert.title
    ++ optionalBytes alert.description ++ sized (Text.utf8Encode start)
    ++ sized (Text.utf8Encode stop) ++ textBytes alert.owner ++ optionalBytes alert.ownerEmail

theorem spelling_chars (alert : Alert) :
    alert.spelling alert.start.chars alert.stop.chars = alert.encode :=
  rfl

theorem spelling_eq (alert : Alert) (start stop : List Char) :
    alert.spelling start stop = formatVersion :: (sized alert.eventId.bytes ++
      (textBytes alert.title ++ (optionalBytes alert.description ++
        (sized (Text.utf8Encode start) ++ (sized (Text.utf8Encode stop) ++
          (textBytes alert.owner ++ optionalBytes alert.ownerEmail)))))) := by
  simp only [spelling, List.cons_append, List.append_assoc]

/-- Octets that are no payload. -/
inductive Malformed : Bytes → Prop where
  | empty : Malformed []
  | version {found : UInt8} (other : found ≠ formatVersion) (body : Bytes) :
    Malformed (found :: body)
  | fields {body : Bytes} (broken : Broken layout body) : Malformed (formatVersion :: body)

theorem readFields_recognises : Recognises readFields
    (fun octets alert => ∃ start stop, alert.Fits ∧ Wire.Fits start ∧ Wire.Fits stop ∧
      Instant.read start = .ok alert.start ∧ Instant.read stop = .ok alert.stop ∧
      formatVersion :: octets = alert.spelling start stop) (Broken layout) := by
  apply Recognises.of_form_iff
  · apply Recognises.sequence .id
    intro eventId
    apply Recognises.sequence .text
    intro title
    apply Recognises.sequence .optional
    intro description
    apply Recognises.sequence .stamp
    intro start
    apply Recognises.sequence .stamp
    intro stop
    apply Recognises.sequence .text
    intro owner
    apply Recognises.sequence .optional
    intro ownerEmail
    exact .done _
  · intro octets alert
    constructor
    · rintro ⟨start, stop, fits, startFits, stopFits, startRead, stopRead, spelled⟩
      rw [spelling_eq] at spelled
      exact ⟨_, alert.eventId, _, rfl, (List.cons.inj spelled).2,
        _, alert.title, _, ⟨fits.title, rfl⟩, rfl,
        _, alert.description, _, ⟨fits.description, rfl⟩, rfl,
        _, alert.start, _, ⟨start, startFits, startRead, rfl⟩, rfl,
        _, alert.stop, _, ⟨stop, stopFits, stopRead, rfl⟩, rfl,
        _, alert.owner, _, ⟨fits.owner, rfl⟩, rfl,
        _, alert.ownerEmail, _, ⟨fits.ownerEmail, rfl⟩, (List.append_nil _).symm, rfl, rfl⟩
    · rintro ⟨_, eventId, _, rfl, rfl, _, title, _, ⟨titleFits, rfl⟩, rfl,
        _, description, _, ⟨descriptionFits, rfl⟩, rfl,
        _, _, _, ⟨start, startFits, startRead, rfl⟩, rfl,
        _, _, _, ⟨stop, stopFits, stopRead, rfl⟩, rfl, _, owner, _, ⟨ownerFits, rfl⟩, rfl,
        _, ownerEmail, _, ⟨ownerEmailFits, rfl⟩, rfl, rfl, rfl⟩
      refine ⟨start, stop, ⟨titleFits, descriptionFits, ownerFits, ownerEmailFits⟩, startFits,
        stopFits, startRead, stopRead, ?_⟩
      rw [spelling_eq, List.append_nil]

theorem decode_eq_ok_iff {payload : Bytes} {alert : Alert} :
    decode payload = .ok alert ↔ ∃ start stop trailing, alert.Fits ∧ Wire.Fits start ∧
      Wire.Fits stop ∧ Instant.read start = .ok alert.start ∧
      Instant.read stop = .ok alert.stop ∧ payload = alert.spelling start stop ++ trailing := by
  constructor
  · intro decoded
    cases payload with
    | nil => cases decoded
    | cons version body =>
      rw [decode] at decoded
      split at decoded
      · rename_i known
        subst known
        obtain ⟨⟨_, trailing⟩, read, rfl⟩ := Text.eq_of_map_ok decoded
        obtain ⟨octets, ⟨start, stop, fits, startFits, stopFits, startRead, stopRead, spelled⟩,
          rfl⟩ := readFields_recognises.ok_iff.mp read
        refine ⟨start, stop, trailing, fits, startFits, stopFits, startRead, stopRead, ?_⟩
        rw [← spelled, List.cons_append]
      · cases decoded
  · rintro ⟨start, stop, trailing, fits, startFits, stopFits, startRead, stopRead, rfl⟩
    rw [spelling_eq, List.cons_append, decode, if_pos rfl, readFields_recognises.whole
      ⟨start, stop, fits, startFits, stopFits, startRead, stopRead, (spelling_eq ..).symm⟩]
    rfl

theorem decode_eq_error_iff {payload : Bytes} :
    (∃ reason, decode payload = .error reason) ↔ Malformed payload := by
  constructor
  · rintro ⟨reason, refused⟩
    cases payload with
    | nil => exact .empty
    | cons version body =>
      by_cases known : version = formatVersion
      · subst known
        apply Malformed.fields
        apply readFields_recognises.error_iff.mp
        cases read : readFields body with
        | ok result =>
          rw [decode, if_pos rfl, read] at refused
          cases refused
        | error cause => exact ⟨cause, rfl⟩
      · exact .version known body
  · intro malformed
    cases malformed with
    | empty => exact ⟨.empty, rfl⟩
    | version other body =>
      rw [decode, if_neg other]
      exact ⟨_, rfl⟩
    | fields broken =>
      obtain ⟨reason, failed⟩ := readFields_recognises.fails broken
      refine ⟨reason, ?_⟩
      rw [decode, if_pos rfl, failed]
      rfl

theorem receive_of_ok {payload : Bytes} {alert : Alert} (decoded : decode payload = .ok alert) :
    receive payload = .ok alert := by
  rw [receive, decoded]
  rfl

theorem receive_of_error {payload : Bytes} {cause : WireError}
    (refused : decode payload = .error cause) :
    receive payload = .error (.decode cause.message) := by
  rw [receive, refused]
  rfl

/-- A payload is read as a reminder or refused, it is read as this one exactly if it spells it in
front of any octets, and it is refused exactly if it is malformed. -/
theorem receive_exact (payload : Bytes) :
    ((∃ alert, receive payload = .ok alert) ∨
      ∃ reason, receive payload = .error (.decode reason)) ∧
      (∀ alert, receive payload = .ok alert ↔ ∃ start stop trailing, alert.Fits ∧
        Wire.Fits start ∧ Wire.Fits stop ∧ Instant.read start = .ok alert.start ∧
        Instant.read stop = .ok alert.stop ∧ payload = alert.spelling start stop ++ trailing) ∧
      ((∃ reason, receive payload = .error (.decode reason)) ↔ Malformed payload) := by
  rw [← decode_eq_error_iff]
  simp only [← decode_eq_ok_iff]
  cases decoded : decode payload with
  | ok alert =>
    have received := receive_of_ok decoded
    simp only [received, Except.ok.injEq, exists_eq', true_or, implies_true, reduceCtorEq,
      exists_false, and_self]
  | error cause =>
    have received := receive_of_error decoded
    simp only [received, reduceCtorEq, exists_false, false_or, Except.error.injEq,
      QueueError.decode.injEq, exists_eq', implies_true, and_self]

end Alert

end Datebook
