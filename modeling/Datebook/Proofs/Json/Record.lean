import Datebook.Json.Record
import Datebook.Proofs.Json.Reader

/-!
What goes over the wire as JSON comes back.

A record is gathered from its own form, `gather?_record`, and each of its fields is read as it was
written. So a role and an identifier are read back from their text, the fields of an event and a
reminder with their times as written, and an event so but for its owner. What is read from any text
has times that are read back. Main statement: `Json.wire_forms_read_back`.
-/

set_option autoImplicit false

namespace Datebook

namespace Json

/-- What a text denotes, as far as it can be decoded. -/
def parse? {α : Type} (decode : Json → Option α) (text : String) : Option α :=
  (read? text.toList).bind decode

theorem parse?_text {α : Type} {value : Json} (plain : value.Plain) (decode : Json → Option α) :
    parse? decode value.text = decode value := by
  rw [parse?, text, String.toList_ofList, read?_chars plain, Option.bind_some]

/-- A form that is plain and never null, and from which a value is read as what it denotes. -/
structure Denotes {α : Type} (encode : α → Json) (decode : Json → Option α) (denoted : α → α) :
    Prop where
  plain : ∀ value, (encode value).Plain
  shown : ∀ value, encode value ≠ .null
  reads : ∀ value, decode (encode value) = some (denoted value)

namespace Denotes

variable {α : Type} {encode : α → Json} {decode : Json → Option α} {denoted : α → α}

theorem parse?_text (denotes : Denotes encode decode denoted) (value : α) :
    parse? decode (encode value).text = some (denoted value) := by
  rw [Json.parse?_text (denotes.plain value), denotes.reads]

theorem required? (denotes : Denotes encode decode denoted) (value : α) :
    required? decode (some (encode value)) = some (denoted value) :=
  denotes.reads value

theorem plain_ofOption (denotes : Denotes encode decode denoted) (value : Option α) :
    (Json.ofOption encode value).Plain := by
  cases value with
  | none => exact .null
  | some value => exact denotes.plain value

end Denotes

/-- A form from which every value is read back. -/
abbrev Faithful {α : Type} (encode : α → Json) (decode : Json → Option α) : Prop :=
  Denotes encode decode fun value => value

namespace Faithful

variable {α : Type} {encode : α → Json} {decode : Json → Option α}

/-- An optional field is read back, as what it may hold is never null. -/
theorem optional? (faithful : Faithful encode decode) (value : Option α) :
    optional? decode (some (.ofOption encode value)) = some value := by
  cases value with
  | none => rfl
  | some value =>
    rw [ofOption, Json.optional?, faithful.reads]
    · rfl
    · exact faithful.shown value

end Faithful

theorem faithful_ofString : Faithful .ofString toText? where
  plain text := .string text.toList
  shown _ := nofun
  reads text := by rw [ofString, toText?, String.ofList_toList]

theorem toNat?_ofNat {limit n : Nat} (below : n < limit) : toNat? limit (.ofNat n) = some n := by
  rw [ofNat, toNat?]
  simp only [Text.ofDigits_digits]
  exact if_pos ⟨List.all_eq_true.mpr (Text.digits_digits n), below⟩

theorem Plain.record {fields : List (String × Json)} (plain : ∀ field ∈ fields, field.2.Plain) :
    (Json.record fields).Plain := by
  refine .object (fun field mem => ?_) fun field mem => ?_
  all_goals obtain ⟨original, known, rfl⟩ := List.mem_map.mp mem
  · exact ⟨_, rfl⟩
  · exact plain original known

theorem underName_cons (name : String) (first : String × Json)
    (fields : List (Option (List Char) × Json)) :
    underName name ((some first.1.toList, first.2) :: fields) =
      if first.1 = name then first.2 :: underName name fields else underName name fields := by
  by_cases same : first.1 = name
  · simp [underName, same]
  · simp [underName, same, String.toList_inj]

/-- A record has nothing under other names. -/
theorem underName_absent {name : String} {fields : List (String × Json)}
    (absent : name ∉ fields.map (·.1)) :
    underName name (fields.map fun field => (some field.1.toList, field.2)) = [] := by
  induction fields with
  | nil => rfl
  | cons first rest ih =>
    obtain ⟨other, elsewhere⟩ := not_or.mp (mt List.mem_cons.mpr absent)
    rw [List.map_cons, underName_cons, if_neg (Ne.symm other), ih elsewhere]

/-- A record has one value under each of its names. -/
theorem underName_record {fields : List (String × Json)} (distinct : (fields.map (·.1)).Nodup)
    {field : String × Json} (mem : field ∈ fields) :
    underName field.1 (fields.map fun field => (some field.1.toList, field.2)) = [field.2] := by
  induction fields with
  | nil => cases mem
  | cons first rest ih =>
    obtain ⟨absent, later⟩ := List.nodup_cons.mp distinct
    rw [List.map_cons, underName_cons]
    rcases List.mem_cons.mp mem with rfl | mem
    · rw [if_pos rfl, underName_absent absent]
    · have other : first.1 ≠ field.1 := fun same =>
        absent (List.mem_map.mpr ⟨field, mem, same.symm⟩)
      rw [if_neg other, ih later mem]

theorem mapM_eq_some {β γ : Type} {g : β → Option γ} {h : β → γ} {list : List β}
    (all : ∀ a ∈ list, g a = some (h a)) : list.mapM g = some (list.map h) := by
  induction list with
  | nil => rfl
  | cons a list ih =>
    rw [List.mapM_cons, all a (.head _), ih fun b mem => all b (.tail _ mem)]
    rfl

/-- A record is gathered from its own form, if its names are distinct. -/
theorem gather?_record {fields : List (String × Json)} (distinct : (fields.map (·.1)).Nodup) :
    gather? (fields.map (·.1)) (.record fields) = some (fields.map fun field => some field.2) := by
  have named : (fields.map fun field => (some field.1.toList, field.2)).all
      (fun field => field.1.isSome) = true := by
    simp
  have found (field : String × Json) (mem : field ∈ fields) :
      field? (fields.map fun field => (some field.1.toList, field.2)) field.1 =
        some (some field.2) := by
    rw [field?, underName_record distinct mem]
  rw [record, gather?, if_pos named, List.mapM_map]
  exact mapM_eq_some found

end Json

open Json

theorem Role.faithful_toJson : Faithful Role.toJson Role.ofJson? where
  plain role := .string role.text.toList
  shown _ := nofun
  reads role := by rw [toJson, ofString, ofJson?, String.ofList_toList, ofText?_text]

theorem EventId.faithful_toJson : Faithful EventId.toJson EventId.ofJson? where
  plain id := .string id.chars
  shown _ := nofun
  reads := read?_chars

theorem Instant.denotes_toJson : Denotes Instant.toJson Instant.ofJson? Instant.asWritten where
  plain t := .string t.chars
  shown _ := nofun
  reads t := by
    rw [toJson, ofJson?, t.read_chars]
    rfl

theorem Instant.endsMinute_of_ofJson? {json : Json} {t : Instant} (read : ofJson? json = some t) :
    t.EndsMinute := by
  unfold ofJson? at read
  split at read
  · rename_i text
    cases taken : Instant.read text with
    | ok found =>
      rw [taken] at read
      cases read
      exact endsMinute_of_read taken
    | error cause =>
      rw [taken] at read
      cases read
  · cases read

namespace Duration

/-- A duration is the sum of its seconds and the nanoseconds beyond them. -/
theorem ofParts?_parts (d : Duration) : ofParts? d.secs d.subsecNanos = some d := by
  have sum : d.secs * 1000000000 + d.subsecNanos = d.nanos := Nat.div_add_mod' d.nanos 1000000000
  rw [ofParts?, sum, ofNanos?, dif_pos d.secs_lt]

theorem hasOnlyFields_toJson (d : Duration) : hasOnlyFields d.toJson = true := by
  simp [toJson, record, hasOnlyFields, fieldNames]

theorem secs_lt_limit (d : Duration) : d.secs < 0x1_0000_0000_0000_0000 := by
  refine Nat.div_lt_of_lt_mul ?_
  rw [Nat.mul_comm]
  exact d.secs_lt

theorem subsecNanos_lt_limit (d : Duration) : d.subsecNanos < 0x1_0000_0000 :=
  Nat.lt_trans (Nat.mod_lt d.nanos (by decide)) (by decide)

theorem gather?_toJson (d : Duration) :
    gather? fieldNames d.toJson = some [some (.ofNat d.secs), some (.ofNat d.subsecNanos)] := by
  have distinct : fieldNames.Nodup := by decide
  exact gather?_record distinct

/-- A duration is read from its two numbers. -/
theorem ofJson?_numbers {json secs nanos : Json} {s n : Nat} (only : hasOnlyFields json = true)
    (gathered : gather? fieldNames json = some [some secs, some nanos])
    (readSecs : toNat? 0x1_0000_0000_0000_0000 secs = some s)
    (readNanos : toNat? 0x1_0000_0000 nanos = some n) : ofJson? json = ofParts? s n := by
  have first : required? (toNat? 0x1_0000_0000_0000_0000) (some secs) = some s := readSecs
  have second : required? (toNat? 0x1_0000_0000) (some nanos) = some n := readNanos
  rw [ofJson?, if_pos only, gathered]
  simp only [Option.bind_eq_bind]
  -- By rewriting, since `simp` would leave the kernel to compute with the bounds.
  rw [first, Option.bind_some, second, Option.bind_some]

theorem faithful_toJson : Faithful toJson ofJson? where
  plain d := by
    refine .record fun field mem => ?_
    simp only [List.mem_cons, List.not_mem_nil, or_false] at mem
    rcases mem with rfl | rfl <;> exact .number _
  shown _ := nofun
  reads d := by
    rw [ofJson?_numbers d.hasOnlyFields_toJson d.gather?_toJson (toNat?_ofNat d.secs_lt_limit)
      (toNat?_ofNat d.subsecNanos_lt_limit), ofParts?_parts]

end Duration

namespace EventFields

/-- Fields are read back from their values, the times as written. -/
theorem ofValues?_jsonFields (fields : EventFields) :
    ofValues? (fields.jsonFields.map fun field => some field.2) = some fields.asWritten := by
  simp only [jsonFields, List.map_cons, List.map_nil, ofValues?, faithful_ofString.required?,
    faithful_ofString.optional?, Instant.denotes_toJson.required?,
    Duration.faithful_toJson.optional?, Option.bind_eq_bind, Option.bind_some, asWritten]

theorem plain_jsonFields (fields : EventFields) :
    ∀ field ∈ fields.jsonFields, field.2.Plain := by
  simp only [jsonFields, List.forall_mem_cons]
  exact ⟨faithful_ofString.plain _, faithful_ofString.plain_ofOption _,
    Instant.denotes_toJson.plain _, Instant.denotes_toJson.plain _,
    Duration.faithful_toJson.plain_ofOption _, List.forall_mem_nil _⟩

theorem denotes_toJson : Denotes toJson ofJson? asWritten where
  plain fields := .record fields.plain_jsonFields
  shown _ := nofun
  reads fields := by
    have distinct : fieldNames.Nodup := by decide
    have gathered : gather? fieldNames fields.toJson = some _ := gather?_record distinct
    rw [ofJson?, gathered, Option.bind_some, ofValues?_jsonFields]

theorem endsMinute_of_ofValues? {values : List (Option Json)} {fields : EventFields}
    (read : ofValues? values = some fields) :
    fields.start.EndsMinute ∧ fields.stop.EndsMinute := by
  unfold ofValues? at read
  split at read
  · simp only [Option.bind_eq_bind, Option.bind_eq_some_iff, Option.some.injEq] at read
    obtain ⟨title, -, description, -, start, startRead, stop, stopRead, lead, -, rfl⟩ := read
    obtain ⟨_, -, startRead⟩ := Option.bind_eq_some_iff.mp startRead
    obtain ⟨_, -, stopRead⟩ := Option.bind_eq_some_iff.mp stopRead
    exact ⟨Instant.endsMinute_of_ofJson? startRead, Instant.endsMinute_of_ofJson? stopRead⟩
  · cases read

/-- Fields that have been read are read back from their own form. -/
theorem asWritten_of_ofJson? {json : Json} {fields : EventFields}
    (read : ofJson? json = some fields) : fields.asWritten = fields := by
  obtain ⟨values, -, read⟩ := Option.bind_eq_some_iff.mp read
  exact asWritten_eq_self_iff.mpr (endsMinute_of_ofValues? read)

end EventFields

namespace Event

theorem plain_toJson (event : Event) : event.toJson.Plain :=
  .record (List.forall_mem_cons.mpr
    ⟨EventId.faithful_toJson.plain event.id, event.fields.plain_jsonFields⟩)

/-- What the JSON form of an event denotes: no owner, and the times as written. -/
def denoted (event : Event) : Event :=
  { event with owner := "", fields := event.fields.asWritten }

theorem ofJson?_toJson (event : Event) : ofJson? event.toJson = some event.denoted := by
  have distinct : ("id" :: EventFields.fieldNames).Nodup := by decide
  have gathered : gather? ("id" :: EventFields.fieldNames) event.toJson = some _ :=
    gather?_record distinct
  rw [ofJson?, gathered]
  simp only [List.map_cons, EventId.faithful_toJson.required?,
    EventFields.ofValues?_jsonFields, Option.bind_eq_bind, Option.bind_some, denoted]

/-- An event that has been read is read back from its own form. -/
theorem denoted_of_ofJson? {json : Json} {event : Event} (read : ofJson? json = some event) :
    event.denoted = event := by
  unfold ofJson? at read
  split at read
  · simp only [Option.bind_eq_bind, Option.bind_eq_some_iff, Option.some.injEq] at read
    obtain ⟨id, -, fields, fieldsRead, rfl⟩ := read
    rw [denoted, EventFields.asWritten_eq_self_iff.mpr
      (EventFields.endsMinute_of_ofValues? fieldsRead)]
  · cases read

theorem parse?_text (event : Event) :
    parse? ofJson? event.toJson.text = some event.denoted := by
  rw [Json.parse?_text event.plain_toJson, ofJson?_toJson]

end Event

namespace Alert

theorem denotes_toJson : Denotes toJson ofJson? asWritten where
  plain alert := by
    refine .record ?_
    simp only [List.forall_mem_cons]
    exact ⟨EventId.faithful_toJson.plain _, faithful_ofString.plain _,
      faithful_ofString.plain_ofOption _, Instant.denotes_toJson.plain _,
      Instant.denotes_toJson.plain _, faithful_ofString.plain _,
      faithful_ofString.plain_ofOption _, List.forall_mem_nil _⟩
  shown _ := nofun
  reads alert := by
    have distinct : fieldNames.Nodup := by decide
    have gathered : gather? fieldNames alert.toJson = some _ := gather?_record distinct
    rw [ofJson?, gathered]
    simp only [List.map_cons, List.map_nil, faithful_ofString.required?,
      faithful_ofString.optional?, Instant.denotes_toJson.required?,
      EventId.faithful_toJson.required?, Option.bind_eq_bind, Option.bind_some, asWritten]

/-- A reminder that has been read is read back from its own form. -/
theorem asWritten_of_ofJson? {json : Json} {alert : Alert} (read : ofJson? json = some alert) :
    alert.asWritten = alert := by
  unfold ofJson? at read
  split at read
  · simp only [Option.bind_eq_bind, Option.bind_eq_some_iff, Option.some.injEq] at read
    obtain ⟨eventId, -, title, -, description, -, start, startRead, stop, stopRead, owner, -,
      ownerEmail, -, rfl⟩ := read
    obtain ⟨_, -, startRead⟩ := Option.bind_eq_some_iff.mp startRead
    obtain ⟨_, -, stopRead⟩ := Option.bind_eq_some_iff.mp stopRead
    exact asWritten_eq_self_iff.mpr
      ⟨Instant.endsMinute_of_ofJson? startRead, Instant.endsMinute_of_ofJson? stopRead⟩
  · cases read

end Alert

namespace Json

/-- What is read from a text is read from its own text too, if its form is read back. -/
theorem parse?_again {α : Type} {encode : α → Json} {decode : Json → Option α} {denoted : α → α}
    (denotes : ∀ value, parse? decode (encode value).text = some (denoted value))
    (settled : ∀ {json value}, decode json = some value → denoted value = value) {text : String}
    {value : α} (accepted : parse? decode text = some value) :
    parse? decode (encode value).text = some value := by
  obtain ⟨json, -, read⟩ := Option.bind_eq_some_iff.mp accepted
  rw [denotes, settled read]

/-- Identifiers and roles are read back from their text, fields and reminders with their times as
written, and an event so but for its owner, which its text does not show. That is what was written
exactly if no leap second of the times lies inside a minute; no text is read as a time in such a
leap second, so what is read from any text is read from its own text too. -/
theorem wire_forms_read_back :
    (∀ fields : EventFields,
      parse? EventFields.ofJson? fields.toJson.text = some fields.asWritten ∧
      (fields.asWritten = fields ↔ fields.start.EndsMinute ∧ fields.stop.EndsMinute)) ∧
    (∀ alert : Alert, parse? Alert.ofJson? alert.toJson.text = some alert.asWritten ∧
      (alert.asWritten = alert ↔ alert.start.EndsMinute ∧ alert.stop.EndsMinute)) ∧
    (∀ id : EventId, parse? EventId.ofJson? id.toJson.text = some id) ∧
    (∀ role : Role, parse? Role.ofJson? role.toJson.text = some role) ∧
    (∀ event : Event, (∀ owner, { event with owner }.toJson.text = event.toJson.text) ∧
      parse? Event.ofJson? event.toJson.text =
        some { event with owner := "", fields := event.fields.asWritten }) ∧
    ∀ text : String,
      (∀ fields, parse? EventFields.ofJson? text = some fields →
        parse? EventFields.ofJson? fields.toJson.text = some fields) ∧
      (∀ alert, parse? Alert.ofJson? text = some alert →
        parse? Alert.ofJson? alert.toJson.text = some alert) ∧
      (∀ id, parse? EventId.ofJson? text = some id →
        parse? EventId.ofJson? id.toJson.text = some id) ∧
      (∀ role, parse? Role.ofJson? text = some role →
        parse? Role.ofJson? role.toJson.text = some role) ∧
      ∀ event, parse? Event.ofJson? text = some event →
        parse? Event.ofJson? event.toJson.text = some event := by
  have idBack := EventId.faithful_toJson.parse?_text
  have roleBack := Role.faithful_toJson.parse?_text
  refine ⟨fun fields => ⟨EventFields.denotes_toJson.parse?_text fields,
      EventFields.asWritten_eq_self_iff⟩,
    fun alert => ⟨Alert.denotes_toJson.parse?_text alert, Alert.asWritten_eq_self_iff⟩,
    idBack, roleBack, fun event => ⟨fun owner => rfl, event.parse?_text⟩,
    fun text => ⟨fun fields => ?_, fun alert => ?_, fun id _ => idBack id,
      fun role _ => roleBack role, fun event => ?_⟩⟩
  · exact parse?_again EventFields.denotes_toJson.parse?_text EventFields.asWritten_of_ofJson?
  · exact parse?_again Alert.denotes_toJson.parse?_text Alert.asWritten_of_ofJson?
  · exact parse?_again Event.parse?_text Event.denoted_of_ofJson?

/-- A role whose name is read from blanks and escapes is written without them, and read again. -/
theorem wire_forms_read_back_escaped :
    parse? Role.ofJson? " \"\\u0061dmin\"" = some .admin ∧
      parse? Role.ofJson? Role.admin.toJson.text = some .admin := by
  have accepted : parse? Role.ofJson? " \"\\u0061dmin\"" = some .admin := rfl
  obtain ⟨-, -, -, -, -, again⟩ := wire_forms_read_back
  exact ⟨accepted, (again _).2.2.2.1 .admin accepted⟩

/-- A leap second after 9:00:04 is read back as far into 9:00:05. -/
theorem wire_forms_shift_inside_minute :
    let fields : EventFields :=
      { title := "standup"
        start := { second := 1906707604, nano := 1333333333 }
        stop := { second := 1906708200, nano := 0 } }
    parse? EventFields.ofJson? fields.toJson.text =
        some { fields with start := { second := 1906707605, nano := 333333333 } } ∧
      parse? EventFields.ofJson? fields.toJson.text ≠ some fields := by
  intro fields
  have shifted : fields.asWritten =
      { fields with start := { second := 1906707605, nano := 333333333 } } := by
    decide +kernel
  rw [EventFields.denotes_toJson.parse?_text, shifted]
  exact ⟨rfl, by decide⟩

end Json

end Datebook
