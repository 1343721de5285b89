import Datebook.Alert.Wire
import Datebook.Proofs.Text.Utf8
import Datebook.Proofs.Time.Stamp
import Mathlib.Data.List.Induction

/-!
Payloads delimit themselves.

A field's reader takes exactly the octets that were written, whatever follows them, and fails when
some of them are missing. Readers in sequence inherit both, so a payload is read back in front of
any octets, and none of its proper prefixes is a payload. Times come back as their written form
denotes them, which a leap second inside a minute does not survive. Main statement:
`Alert.receive_encode`.
-/

set_option autoImplicit false

namespace Datebook

namespace EventId

/-- The first octets of an identifier denote its leading digits to base 256. -/
theorem foldl_octets (n : BitVec 128) {count : Nat} (within : count ≤ 16) :
    ((List.range count).map fun i => UInt8.ofNat (n.toNat / Nat.pow 256 (15 - i))).foldl
      (fun total b => total * 256 + b.toNat) 0 = n.toNat / Nat.pow 256 (16 - count) := by
  induction count with
  | zero => exact (Nat.div_eq_of_lt n.isLt).symm
  | succ count ih =>
    have octet (m : Nat) : (UInt8.ofNat m).toNat = m % 256 := UInt8.toNat_ofNat'
    have width : 16 - count = 15 - count + 1 := by omega
    have shift :
        n.toNat / Nat.pow 256 (16 - count) = n.toNat / Nat.pow 256 (15 - count) / 256 := by
      rw [width, Nat.div_div_eq_div_mul]
      rfl
    rw [List.range_succ, List.map_append, List.foldl_append, ih (by omega), shift]
    simp only [List.map_cons, List.map_nil, List.foldl_cons, List.foldl_nil, octet]
    rw [Nat.div_add_mod', Nat.sub_add_eq, Nat.sub_right_comm]

theorem length_bytes (id : EventId) : id.bytes.length = 16 := by
  rw [bytes, List.length_map, List.length_range]

theorem ofBytes?_bytes (id : EventId) : ofBytes? id.bytes = some id := by
  rw [ofBytes?, if_pos id.length_bytes, bytes, foldl_octets id.value (Nat.le_refl 16), ofNat,
    Nat.sub_self, show Nat.pow 256 0 = 1 from rfl, Nat.div_one, BitVec.ofNat_toNat,
    BitVec.setWidth_eq]

/-- Octets are the digits to base 256 of the number they denote, the most significant first. -/
theorem digits_foldl (body : Bytes) :
    body.foldl (fun total b => total * 256 + b.toNat) 0 < Nat.pow 256 body.length ∧
      (List.range body.length).map (fun i => UInt8.ofNat
        (body.foldl (fun total b => total * 256 + b.toNat) 0 /
          Nat.pow 256 (body.length - 1 - i))) = body := by
  induction body using List.reverseRecOn with
  | nil => exact ⟨Nat.zero_lt_one, rfl⟩
  | append_singleton front last ih =>
    rw [List.foldl_append, List.length_append, List.length_singleton, List.foldl_cons,
      List.foldl_nil]
    generalize front.foldl (fun total b => total * 256 + b.toNat) 0 = total at ih ⊢
    obtain ⟨small, digits⟩ := ih
    have octet := last.toNat_lt
    constructor
    · have power : Nat.pow 256 (front.length + 1) = Nat.pow 256 front.length * 256 := rfl
      omega
    · rw [List.range_succ, List.map_append]
      congr 1
      · rw [← digits, List.length_map, List.length_range]
        apply List.map_congr_left
        intro i member
        have before := List.mem_range.mp member
        have width : front.length + 1 - 1 - i = 1 + (front.length - 1 - i) := by omega
        have shift : (total * 256 + last.toNat) / 256 = total := by omega
        rw [width, show Nat.pow 256 (1 + (front.length - 1 - i)) =
          256 * Nat.pow 256 (front.length - 1 - i) from Nat.pow_add .., ← Nat.div_div_eq_div_mul,
          shift]
      · rw [List.map_singleton, Nat.add_sub_cancel, Nat.sub_self,
          show Nat.pow 256 0 = 1 from rfl, Nat.div_one]
        congr 1
        apply UInt8.toNat_inj.mp
        rw [UInt8.toNat_ofNat']
        omega

theorem eq_bytes_of_length {body : Bytes} (length : body.length = 16) :
    ∃ id : EventId, body = id.bytes := by
  obtain ⟨small, digits⟩ := digits_foldl body
  rw [length] at small digits
  refine ⟨ofNat (body.foldl (fun total b => total * 256 + b.toNat) 0), ?_⟩
  rw [bytes, ofNat, BitVec.toNat_ofNat, Nat.mod_eq_of_lt small, digits]

end EventId

namespace Wire

theorem length_littleEndian (width n : Nat) : (littleEndian width n).length = width := by
  induction width generalizing n with
  | zero => rfl
  | succ width ih => rw [littleEndian, List.length_cons, ih]

theorem ofLittleEndian_littleEndian (width n : Nat) :
    ofLittleEndian (littleEndian width n) = n % Nat.pow 256 width := by
  induction width generalizing n with
  | zero => exact (Nat.mod_one n).symm
  | succ width ih =>
    have octet : (UInt8.ofNat n).toNat = n % 256 := UInt8.toNat_ofNat'
    have power : Nat.pow 256 (width + 1) = 256 * Nat.pow 256 width := Nat.mul_comm _ 256
    rw [littleEndian, ofLittleEndian, ih, octet, power, Nat.mod_mul]

theorem ofLittleEndian_lt (bytes : Bytes) :
    ofLittleEndian bytes < Nat.pow 256 bytes.length := by
  induction bytes with
  | nil => exact Nat.zero_lt_one
  | cons b rest ih =>
    have octet := b.toNat_lt
    have power : Nat.pow 256 (rest.length + 1) = Nat.pow 256 rest.length * 256 := rfl
    rw [ofLittleEndian, List.length_cons]
    omega

theorem littleEndian_ofLittleEndian (bytes : Bytes) :
    littleEndian bytes.length (ofLittleEndian bytes) = bytes := by
  induction bytes with
  | nil => rfl
  | cons b rest ih =>
    have octet := b.toNat_lt
    have shift : (b.toNat + 256 * ofLittleEndian rest) / 256 = ofLittleEndian rest := by omega
    have last : UInt8.ofNat (b.toNat + 256 * ofLittleEndian rest) = b := by
      apply UInt8.toNat_inj.mp
      rw [UInt8.toNat_ofNat']
      omega
    rw [List.length_cons, ofLittleEndian, littleEndian, shift, ih, last]

/-- A reader takes these octets for this value, whatever follows them, and nothing less. -/
structure Delimits {α : Type} (read : Bytes → Except WireError (α × Bytes)) (octets : Bytes)
    (value : α) : Prop where
  whole : ∀ rest, read (octets ++ rest) = .ok (value, rest)
  cut : ∀ {part missing}, octets = part ++ missing → missing ≠ [] →
    ∃ reason, read part = .error reason

namespace Delimits

variable {α β : Type}

theorem done (value : α) : Delimits (fun rest => .ok (value, rest)) [] value where
  whole _ := rfl
  cut split nonempty := absurd (List.append_eq_nil_iff.mp split.symm).2 nonempty

/-- A cut through a sequence is a cut through its first part or, after it, through the second. -/
theorem bind {first : Bytes → Except WireError (α × Bytes)}
    {next : α × Bytes → Except WireError (β × Bytes)} {head tail : Bytes} {value : α} {result : β}
    (front : Delimits first head value)
    (back : Delimits (fun rest => next (value, rest)) tail result) :
    Delimits (fun octets => first octets >>= next) (head ++ tail) result where
  whole rest := by
    rw [List.append_assoc, bind_of_ok (front.whole _)]
    exact back.whole rest
  cut := by
    intro part missing split nonempty
    rcases List.append_eq_append_iff.mp split with ⟨middle, rfl, inTail⟩ | ⟨middle, inHead, rfl⟩
    · rw [bind_of_ok (front.whole _)]
      exact back.cut inTail nonempty
    · by_cases all : middle = []
      · -- The cut falls between the two parts and leaves the second reader nothing.
        subst all
        rw [List.append_nil] at inHead
        have read := front.whole []
        rw [List.append_nil, inHead] at read
        rw [bind_of_ok read]
        exact back.cut (List.nil_append _) nonempty
      · obtain ⟨reason, failed⟩ := front.cut inHead all
        exact ⟨reason, by rw [failed]; rfl⟩

end Delimits

theorem readLength_delimits {n : Nat} (small : n < 0x1_0000_0000_0000_0000) :
    Delimits readLength (littleEndian 8 n) n where
  whole rest := by
    have length := length_littleEndian 8 n
    have number : ofLittleEndian (littleEndian 8 n) = n := by
      rw [ofLittleEndian_littleEndian]
      exact Nat.mod_eq_of_lt small
    rw [readLength, if_neg (by rw [List.length_append]; omega), List.take_left' length,
      List.drop_left' length, number]
  cut := by
    intro part missing split nonempty
    have length := congrArg List.length split
    have present := List.length_pos_iff.mpr nonempty
    rw [length_littleEndian, List.length_append] at length
    exact ⟨.cutOff, if_pos (by omega)⟩

theorem readSized_delimits {body : Bytes} (small : body.length < 0x1_0000_0000_0000_0000) :
    Delimits readSized (sized body) body := by
  apply (readLength_delimits small).bind
  constructor
  · intro rest
    dsimp only
    rw [if_neg (by rw [List.length_append]; omega), List.take_left, List.drop_left]
  · intro part missing split nonempty
    have length := congrArg List.length split
    have present := List.length_pos_iff.mpr nonempty
    rw [List.length_append] at length
    exact ⟨.tooLong, if_pos (by omega)⟩

/-- Whether the octets of a text can be counted in a length. -/
def Fits (text : List Char) : Prop :=
  (Text.utf8Encode text).length < 0x1_0000_0000_0000_0000

instance (text : List Char) : Decidable (Fits text) :=
  inferInstanceAs (Decidable (_ < _))

theorem readChars_delimits {text : List Char} (fits : Fits text) :
    Delimits readChars (sized (Text.utf8Encode text)) text := by
  rw [← List.append_nil (sized _)]
  apply (readSized_delimits fits).bind
  dsimp only
  rw [Text.utf8Decode_encode]
  exact .done text

theorem readText_delimits {text : String} (fits : Fits text.toList) :
    Delimits readText (textBytes text) text := by
  rw [textBytes, ← List.append_nil (sized _)]
  apply (readChars_delimits fits).bind
  dsimp only
  rw [String.ofList_toList]
  exact .done text

theorem readOptional_delimits {text : Option String}
    (fits : ∀ present, text = some present → Fits present.toList) :
    Delimits readOptional (optionalBytes text) text := by
  cases text with
  | none =>
    constructor
    · intro rest
      rfl
    · intro part missing split nonempty
      cases part with
      | nil => exact ⟨.cutOff, rfl⟩
      | cons tag part =>
        have none := (List.append_eq_nil_iff.mp (List.cons.inj split).2.symm).2
        exact absurd none nonempty
  | some present =>
    have body := readText_delimits (fits present rfl)
    constructor
    · intro rest
      show (readText (textBytes present ++ rest) >>= _) = _
      rw [bind_of_ok (body.whole rest)]
    · intro part missing split nonempty
      cases part with
      | nil => exact ⟨.cutOff, rfl⟩
      | cons tag part =>
        obtain ⟨rfl, inBody⟩ := List.cons.inj split
        obtain ⟨reason, failed⟩ := body.cut inBody nonempty
        refine ⟨reason, ?_⟩
        show (readText part >>= _) = _
        rw [failed]
        rfl

theorem readId_delimits (id : EventId) : Delimits readId (sized id.bytes) id := by
  have small : id.bytes.length < 0x1_0000_0000_0000_0000 := by
    rw [id.length_bytes]
    decide
  rw [← List.append_nil (sized _)]
  apply (readSized_delimits small).bind
  dsimp only
  rw [id.ofBytes?_bytes]
  exact .done id

theorem fits_chars (t : Instant) : Fits t.chars := by
  have octets := Text.length_utf8Encode_le t.chars
  have chars := t.length_chars_le
  rw [Fits]
  omega

theorem readInstant_delimits (t : Instant) :
    Delimits readInstant (instantBytes t) t.asWritten := by
  rw [instantBytes, ← List.append_nil (sized _)]
  apply (readChars_delimits (fits_chars t)).bind
  dsimp only
  rw [t.read_chars]
  exact .done t.asWritten

end Wire

namespace Alert

open Wire

/-- The octets of every text can be counted in a length. -/
structure Fits (alert : Alert) : Prop where
  title : Wire.Fits alert.title.toList
  description : ∀ text, alert.description = some text → Wire.Fits text.toList
  owner : Wire.Fits alert.owner.toList
  ownerEmail : ∀ text, alert.ownerEmail = some text → Wire.Fits text.toList

/-- The fields of a reminder, without the version. -/
def fieldBytes (alert : Alert) : Bytes :=
  sized alert.eventId.bytes ++ (textBytes alert.title ++ (optionalBytes alert.description ++
    (instantBytes alert.start ++ (instantBytes alert.stop ++ (textBytes alert.owner ++
      optionalBytes alert.ownerEmail)))))

theorem encode_eq (alert : Alert) : alert.encode = formatVersion :: alert.fieldBytes := by
  simp only [encode, fieldBytes, List.cons_append, List.append_assoc]

theorem encode_asWritten (alert : Alert) : alert.asWritten.encode = alert.encode := by
  simp only [encode, asWritten, instantBytes, Instant.chars_asWritten]

theorem readFields_delimits {alert : Alert} (fits : alert.Fits) :
    Delimits readFields alert.fieldBytes alert.asWritten := by
  apply (readId_delimits alert.eventId).bind
  apply (readText_delimits fits.title).bind
  apply (readOptional_delimits fits.description).bind
  apply (readInstant_delimits alert.start).bind
  apply (readInstant_delimits alert.stop).bind
  apply (readText_delimits fits.owner).bind
  rw [← List.append_nil (optionalBytes alert.ownerEmail)]
  apply (readOptional_delimits fits.ownerEmail).bind
  exact .done alert.asWritten

theorem decode_encode_append {alert : Alert} (fits : alert.Fits) (rest : Bytes) :
    decode (alert.encode ++ rest) = .ok alert.asWritten := by
  rw [encode_eq, List.cons_append, decode, if_pos rfl, (readFields_delimits fits).whole]
  rfl

theorem receive_encode_append {alert : Alert} (fits : alert.Fits) (rest : Bytes) :
    receive (alert.encode ++ rest) = .ok alert.asWritten := by
  rw [receive, decode_encode_append fits]
  rfl

theorem receive_of_encode {alert : Alert} (fits : alert.Fits) :
    receive alert.encode = .ok alert.asWritten := by
  rw [← List.append_nil alert.encode, receive_encode_append fits]

theorem decode_cut {alert : Alert} (fits : alert.Fits) {part missing : Bytes}
    (split : alert.encode = part ++ missing) (nonempty : missing ≠ []) :
    ∃ reason, decode part = .error reason := by
  cases part with
  | nil => exact ⟨.empty, rfl⟩
  | cons version body =>
    rw [encode_eq] at split
    obtain ⟨rfl, inFields⟩ := List.cons.inj split
    obtain ⟨reason, failed⟩ := (readFields_delimits fits).cut inFields nonempty
    refine ⟨reason, ?_⟩
    rw [decode, if_pos rfl, failed]
    rfl

/-- A payload is read back in front of any octets, as the reminder with its times as written, which
is the reminder itself exactly if no leap second of its times lies inside a minute. No proper prefix
of it is read as a reminder, and it begins the payload of those reminders that differ at most in how
such times are written. -/
theorem receive_encode {alert : Alert} (fits : alert.Fits) :
    (∀ rest, receive (alert.encode ++ rest) = .ok alert.asWritten) ∧
      (alert.asWritten = alert ↔ alert.start.EndsMinute ∧ alert.stop.EndsMinute) ∧
      (∀ part, part <+: alert.encode → part ≠ alert.encode →
        ∃ reason, receive part = .error (.decode reason)) ∧
      ∀ other : Alert, other.Fits →
        (alert.encode <+: other.encode ↔ alert.asWritten = other.asWritten) := by
  refine ⟨receive_encode_append fits, asWritten_eq_self_iff, ?_, ?_⟩
  · rintro part ⟨missing, split⟩ proper
    have nonempty : missing ≠ [] := by
      rintro rfl
      exact proper (by rw [← split, List.append_nil])
    obtain ⟨reason, failed⟩ := decode_cut fits split.symm nonempty
    refine ⟨reason.message, ?_⟩
    rw [receive, failed]
    rfl
  · intro other fitsToo
    constructor
    · rintro ⟨rest, same⟩
      have read := receive_encode_append fits rest
      rw [same, receive_of_encode fitsToo] at read
      exact (Except.ok.inj read).symm
    · intro same
      have equal : alert.encode = other.encode := by
        rw [← alert.encode_asWritten, same, other.encode_asWritten]
      exact equal ▸ List.prefix_rfl

/-- A leap second of the year 10000 and the last instant, with an owner's address. -/
theorem receive_encode_leap :
    let alert : Alert :=
      { eventId := .ofNat 0x8000_0000_0000_0000_0000_0000_0000_0001
        title := "Größe"
        description := none
        start := { second := 253402300859, nano := 1500000000 }
        stop := .last
        owner := ""
        ownerEmail := some "例@x" }
    alert.Fits ∧ receive (alert.encode ++ [0xff]) = .ok alert ∧
      ∀ part, part <+: alert.encode → part ≠ alert.encode →
        ∃ reason, receive part = .error (.decode reason) := by
  intro alert
  have fits : alert.Fits :=
    { title := by decide
      description := fun _ present => nomatch present
      owner := by decide
      ownerEmail := by
        intro text present
        cases present
        decide }
  obtain ⟨read, same, cut, -⟩ := receive_encode fits
  refine ⟨fits, ?_, cut⟩
  rw [read, same.mpr (by decide)]

/-- A leap second after 9:00:04 and the instant as far into 9:00:05 are one payload, which is read
as the latter. -/
theorem encode_merges_inside_minute :
    let alert : Alert :=
      { eventId := .ofNat 1
        title := "standup"
        description := none
        start := { second := 1906707604, nano := 1333333333 }
        stop := { second := 1906708200, nano := 0 }
        owner := "alice"
        ownerEmail := none }
    let other := { alert with start := { second := 1906707605, nano := 333333333 } }
    alert.Fits ∧ alert ≠ other ∧ alert.encode = other.encode ∧
      receive alert.encode = .ok other := by
  intro alert other
  have fits : alert.Fits :=
    { title := by decide
      description := fun _ present => nomatch present
      owner := by decide
      ownerEmail := fun _ present => nomatch present }
  have written : alert.asWritten = other := by decide +kernel
  refine ⟨fits, by decide, ?_, ?_⟩
  · rw [← alert.encode_asWritten, written]
  · rw [receive_of_encode fits, written]

end Alert

end Datebook
