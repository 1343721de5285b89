import Datebook.Text.Utf8

/-!
Encoding and decoding in UTF-8 invert each other.

The four rows of the decoder are stated by the range of the first octet; an encoded character always
meets the row of its own width, and what follows is decoded as it would be alone. Conversely the
character that a row yields has no other octets than those the row took, so that octets decode to a
text exactly if they are its encoding: `utf8Decode_eq_ok_iff`.
-/

set_option autoImplicit false

namespace Datebook.Text

section

variable (index : Nat) {a b c d : UInt8} (rest : Bytes)

theorem utf8DecodeFrom_one (ascii : a.toNat < 0x80) :
    utf8DecodeFrom index (a :: rest) =
      (utf8DecodeFrom (index + 1) rest).map (Char.ofNat a.toNat :: ·) := by
  have one : a < 0x80 := ascii
  rw [utf8DecodeFrom.eq_def]
  dsimp only
  rw [if_pos one]

theorem utf8DecodeFrom_two (lower : 0xc2 ≤ a.toNat) (upper : a.toNat ≤ 0xdf)
    (second : isContinuation b = true) :
    utf8DecodeFrom index (a :: b :: rest) = (utf8DecodeFrom (index + 2) rest).map
      (Char.ofNat ((a.toNat - 0xc0) * 64 + payload b) :: ·) := by
  have notOne : ¬a < 0x80 := fun one => Nat.not_lt.mpr lower (Nat.lt_of_lt_of_le one (by decide))
  have two : 0xc2 ≤ a ∧ a ≤ 0xdf := ⟨lower, upper⟩
  rw [utf8DecodeFrom.eq_def]
  dsimp only
  rw [if_neg notOne, if_pos two, second]
  rfl

theorem utf8DecodeFrom_three (lower : 0xe0 ≤ a.toNat) (upper : a.toNat ≤ 0xef)
    (second : isSecondOfThree a b = true) (third : isContinuation c = true) :
    utf8DecodeFrom index (a :: b :: c :: rest) = (utf8DecodeFrom (index + 3) rest).map
      (Char.ofNat ((a.toNat - 0xe0) * 4096 + payload b * 64 + payload c) :: ·) := by
  have notOne : ¬a < 0x80 := fun one => Nat.not_lt.mpr lower (Nat.lt_of_lt_of_le one (by decide))
  have notTwo : ¬(0xc2 ≤ a ∧ a ≤ 0xdf) := fun two =>
    Nat.not_lt.mpr lower (Nat.lt_of_le_of_lt two.2 (by decide))
  have three : 0xe0 ≤ a ∧ a ≤ 0xef := ⟨lower, upper⟩
  rw [utf8DecodeFrom.eq_def]
  dsimp only
  rw [if_neg notOne, if_neg notTwo, if_pos three, second, third]
  rfl

theorem utf8DecodeFrom_four (lower : 0xf0 ≤ a.toNat) (upper : a.toNat ≤ 0xf4)
    (second : isSecondOfFour a b = true) (third : isContinuation c = true)
    (fourth : isContinuation d = true) :
    utf8DecodeFrom index (a :: b :: c :: d :: rest) = (utf8DecodeFrom (index + 4) rest).map
      (Char.ofNat ((a.toNat - 0xf0) * 262144 + payload b * 4096 + payload c * 64 + payload d)
        :: ·) := by
  have notOne : ¬a < 0x80 := fun one => Nat.not_lt.mpr lower (Nat.lt_of_lt_of_le one (by decide))
  have notTwo : ¬(0xc2 ≤ a ∧ a ≤ 0xdf) := fun two =>
    Nat.not_lt.mpr lower (Nat.lt_of_le_of_lt two.2 (by decide))
  have notThree : ¬(0xe0 ≤ a ∧ a ≤ 0xef) := fun three =>
    Nat.not_lt.mpr lower (Nat.lt_of_le_of_lt three.2 (by decide))
  have four : 0xf0 ≤ a ∧ a ≤ 0xf4 := ⟨lower, upper⟩
  rw [utf8DecodeFrom.eq_def]
  dsimp only
  rw [if_neg notOne, if_neg notTwo, if_neg notThree, if_pos four, second, third, fourth]
  rfl

end

theorem toNat_ofNat_of_lt {n : Nat} (small : n < 256) : (UInt8.ofNat n).toNat = n := by
  rw [UInt8.toNat_ofNat']
  exact Nat.mod_eq_of_lt small

theorem continuation_toNat (bits : Nat) : (continuation bits).toNat = 0x80 + bits % 64 :=
  toNat_ofNat_of_lt (by omega)

theorem isContinuation_iff (b : UInt8) :
    isContinuation b = true ↔ 0x80 ≤ b.toNat ∧ b.toNat ≤ 0xbf := by
  simp only [isContinuation, Bool.and_eq_true, decide_eq_true_eq, UInt8.le_iff_toNat_le,
    UInt8.reduceToNat]

theorem isContinuation_continuation (bits : Nat) : isContinuation (continuation bits) = true := by
  rw [isContinuation_iff, continuation_toNat]
  omega

theorem payload_continuation (bits : Nat) : payload (continuation bits) = bits % 64 := by
  simp only [payload, continuation_toNat]
  omega

/-- Overlong forms and surrogates have second octets that are refused. -/
theorem isSecondOfThree_iff (a b : UInt8) :
    isSecondOfThree a b = true ↔ 0x80 ≤ b.toNat ∧ b.toNat ≤ 0xbf ∧
      (a.toNat = 0xe0 → 0xa0 ≤ b.toNat) ∧ (a.toNat = 0xed → b.toNat ≤ 0x9f) := by
  simp only [isSecondOfThree, ← UInt8.toNat_inj, UInt8.reduceToNat]
  split
  · simp only [Bool.and_eq_true, decide_eq_true_eq, UInt8.le_iff_toNat_le, UInt8.reduceToNat]
    omega
  · split
    · simp only [Bool.and_eq_true, decide_eq_true_eq, UInt8.le_iff_toNat_le, UInt8.reduceToNat]
      omega
    · rw [isContinuation_iff]
      omega

/-- Overlong forms and code points that are too large have second octets that are refused. -/
theorem isSecondOfFour_iff (a b : UInt8) :
    isSecondOfFour a b = true ↔ 0x80 ≤ b.toNat ∧ b.toNat ≤ 0xbf ∧
      (a.toNat = 0xf0 → 0x90 ≤ b.toNat) ∧ (a.toNat = 0xf4 → b.toNat ≤ 0x8f) := by
  simp only [isSecondOfFour, ← UInt8.toNat_inj, UInt8.reduceToNat]
  split
  · simp only [Bool.and_eq_true, decide_eq_true_eq, UInt8.le_iff_toNat_le, UInt8.reduceToNat]
    omega
  · split
    · simp only [Bool.and_eq_true, decide_eq_true_eq, UInt8.le_iff_toNat_le, UInt8.reduceToNat]
      omega
    · rw [isContinuation_iff]
      omega

theorem utf8DecodeFrom_encodeChar (index : Nat) (c : Char) (rest : Bytes) :
    utf8DecodeFrom index (utf8EncodeChar c ++ rest) =
      (utf8DecodeFrom (index + (utf8EncodeChar c).length) rest).map (c :: ·) := by
  have valid : c.toNat < 0xd800 ∨ 0xdfff < c.toNat ∧ c.toNat < 0x110000 := c.valid
  have code := Char.ofNat_toNat c
  unfold utf8EncodeChar
  dsimp only
  generalize c.toNat = n at valid code
  split
  · rename_i one
    have first : (UInt8.ofNat n).toNat = n := toNat_ofNat_of_lt (by omega)
    rw [List.singleton_append, utf8DecodeFrom_one _ _ (by omega), first, code]
    rfl
  · split
    · rename_i two
      have first : (UInt8.ofNat (0xc0 + n / 64)).toNat = 0xc0 + n / 64 :=
        toNat_ofNat_of_lt (by omega)
      have value : (0xc0 + n / 64 - 0xc0) * 64 + n % 64 = n := by omega
      dsimp only [List.cons_append, List.nil_append]
      rw [utf8DecodeFrom_two _ _ (by omega) (by omega) (isContinuation_continuation _), first,
        payload_continuation, value, code]
      rfl
    · split
      · rename_i three
        have first : (UInt8.ofNat (0xe0 + n / 4096)).toNat = 0xe0 + n / 4096 :=
          toNat_ofNat_of_lt (by omega)
        have second : isSecondOfThree (UInt8.ofNat (0xe0 + n / 4096)) (continuation (n / 64)) =
            true := by
          rw [isSecondOfThree_iff, first, continuation_toNat]
          omega
        have value : (0xe0 + n / 4096 - 0xe0) * 4096 + n / 64 % 64 * 64 + n % 64 = n := by omega
        dsimp only [List.cons_append, List.nil_append]
        rw [utf8DecodeFrom_three _ _ (by omega) (by omega) second (isContinuation_continuation _),
          first, payload_continuation, payload_continuation, value, code]
        rfl
      · rename_i four
        have first : (UInt8.ofNat (0xf0 + n / 262144)).toNat = 0xf0 + n / 262144 :=
          toNat_ofNat_of_lt (by omega)
        have second : isSecondOfFour (UInt8.ofNat (0xf0 + n / 262144)) (continuation (n / 4096)) =
            true := by
          rw [isSecondOfFour_iff, first, continuation_toNat]
          omega
        have value : (0xf0 + n / 262144 - 0xf0) * 262144 + n / 4096 % 64 * 4096 +
            n / 64 % 64 * 64 + n % 64 = n := by omega
        dsimp only [List.cons_append, List.nil_append]
        rw [utf8DecodeFrom_four _ _ (by omega) (by omega) second (isContinuation_continuation _)
          (isContinuation_continuation _), first, payload_continuation, payload_continuation,
          payload_continuation, value, code]
        rfl

theorem utf8DecodeFrom_encode (index : Nat) (text : List Char) :
    utf8DecodeFrom index (utf8Encode text) = .ok text := by
  induction text generalizing index with
  | nil => rfl
  | cons c rest ih =>
    rw [utf8Encode, List.flatMap_cons, utf8DecodeFrom_encodeChar, ← utf8Encode, ih]
    rfl

theorem utf8Decode_encode (text : List Char) : utf8Decode (utf8Encode text) = .ok text :=
  utf8DecodeFrom_encode 0 text

theorem toNat_ofNat_of_valid {n : Nat} (valid : n < 0xd800 ∨ 0xdfff < n ∧ n < 0x110000) :
    (Char.ofNat n).toNat = n := by
  rw [Char.ofNat, dif_pos valid]
  rfl
theorem eq_of_map_ok {ε α β : Type} {outcome : Except ε α} {f : α → β} {result : β}
    (succeeds : outcome.map f = .ok result) :
    ∃ value, outcome = .ok value ∧ f value = result := by
  cases outcome with
  | error => cases succeeds
  | ok value => exact ⟨value, rfl, Except.ok.inj succeeds⟩

section

variable {a b c d : UInt8}

theorem continuation_of_payload {bits : Nat} (wide : isContinuation b = true)
    (low : bits % 64 = payload b) : continuation bits = b := by
  rw [isContinuation_iff] at wide
  rw [payload] at low
  apply UInt8.toNat_inj.mp
  rw [continuation_toNat]
  omega

theorem utf8EncodeChar_one (ascii : a.toNat < 0x80) :
    utf8EncodeChar (Char.ofNat a.toNat) = [a] := by
  rw [utf8EncodeChar, toNat_ofNat_of_valid (by omega)]
  rw [if_pos ascii, UInt8.ofNat_toNat]

theorem utf8EncodeChar_two (lower : 0xc2 ≤ a.toNat) (upper : a.toNat ≤ 0xdf)
    (second : isContinuation b = true) :
    utf8EncodeChar (Char.ofNat ((a.toNat - 0xc0) * 64 + payload b)) = [a, b] := by
  have narrow : payload b < 64 := Nat.mod_lt _ (by decide)
  have last : ((a.toNat - 0xc0) * 64 + payload b) % 64 = payload b := by omega
  have first : 0xc0 + ((a.toNat - 0xc0) * 64 + payload b) / 64 = a.toNat := by omega
  rw [utf8EncodeChar, toNat_ofNat_of_valid (by omega)]
  rw [if_neg (by omega), if_pos (by omega), first, UInt8.ofNat_toNat,
    continuation_of_payload second last]

theorem utf8EncodeChar_three (lower : 0xe0 ≤ a.toNat) (upper : a.toNat ≤ 0xef)
    (second : isSecondOfThree a b = true) (third : isContinuation c = true) :
    utf8EncodeChar (Char.ofNat ((a.toNat - 0xe0) * 4096 + payload b * 64 + payload c)) =
      [a, b, c] := by
  obtain ⟨low, high, long, plane⟩ := (isSecondOfThree_iff a b).mp second
  have continues : isContinuation b = true := (isContinuation_iff b).mpr ⟨low, high⟩
  have bits : payload b = b.toNat - 0x80 := by
    rw [payload]
    omega
  have narrow : payload c < 64 := Nat.mod_lt _ (by decide)
  generalize code : (a.toNat - 0xe0) * 4096 + payload b * 64 + payload c = n
  have last : n % 64 = payload c := by omega
  have middle : n / 64 % 64 = payload b := by omega
  have first : 0xe0 + n / 4096 = a.toNat := by omega
  rw [utf8EncodeChar, toNat_ofNat_of_valid (by omega)]
  rw [if_neg (by omega), if_neg (by omega), if_pos (by omega), first, UInt8.ofNat_toNat,
    continuation_of_payload continues middle, continuation_of_payload third last]

theorem utf8EncodeChar_four (lower : 0xf0 ≤ a.toNat) (upper : a.toNat ≤ 0xf4)
    (second : isSecondOfFour a b = true) (third : isContinuation c = true)
    (fourth : isContinuation d = true) :
    utf8EncodeChar (Char.ofNat ((a.toNat - 0xf0) * 262144 + payload b * 4096 + payload c * 64 +
      payload d)) = [a, b, c, d] := by
  obtain ⟨low, high, long, plane⟩ := (isSecondOfFour_iff a b).mp second
  have continues : isContinuation b = true := (isContinuation_iff b).mpr ⟨low, high⟩
  have bits : payload b = b.toNat - 0x80 := by
    rw [payload]
    omega
  have narrow : payload c < 64 := Nat.mod_lt _ (by decide)
  have narrowToo : payload d < 64 := Nat.mod_lt _ (by decide)
  generalize code : (a.toNat - 0xf0) * 262144 + payload b * 4096 + payload c * 64 + payload d = n
  have last : n % 64 = payload d := by omega
  have middle : n / 64 % 64 = payload c := by omega
  have above : n / 4096 % 64 = payload b := by omega
  have first : 0xf0 + n / 262144 = a.toNat := by omega
  rw [utf8EncodeChar, toNat_ofNat_of_valid (by omega)]
  rw [if_neg (by omega), if_neg (by omega), if_neg (by omega), first, UInt8.ofNat_toNat,
    continuation_of_payload continues above, continuation_of_payload third middle,
    continuation_of_payload fourth last]

end

theorem eq_utf8Encode_cons {outcome : Except Utf8Error (List Char)} {octets rest : Bytes}
    {c : Char} {text : List Char} (front : utf8EncodeChar c = octets)
    (back : ∀ {tail}, outcome = .ok tail → rest = utf8Encode tail)
    (decoded : outcome.map (c :: ·) = .ok text) : octets ++ rest = utf8Encode text := by
  obtain ⟨tail, same, rfl⟩ := eq_of_map_ok decoded
  rw [utf8Encode, List.flatMap_cons, front, back same, utf8Encode]

theorem eq_utf8Encode_of_decodeFrom {index : Nat} {bytes : Bytes} {text : List Char}
    (decoded : utf8DecodeFrom index bytes = .ok text) : bytes = utf8Encode text := by
  fun_induction utf8DecodeFrom index bytes generalizing text
  case case1 =>
    cases decoded
    rfl
  case case2 one ih =>
    exact eq_utf8Encode_cons (utf8EncodeChar_one one) ih decoded
  case case5 two _ _ second ih =>
    simp only [Bool.not_eq_true', Bool.not_eq_false] at second
    exact eq_utf8Encode_cons (utf8EncodeChar_two two.1 two.2 second) ih decoded
  case case10 three _ second _ _ third ih =>
    simp only [Bool.not_eq_true', Bool.not_eq_false] at second third
    exact eq_utf8Encode_cons (utf8EncodeChar_three three.1 three.2 second third) ih decoded
  case case17 four _ second _ third _ _ fourth ih =>
    simp only [Bool.not_eq_true', Bool.not_eq_false] at second third fourth
    exact eq_utf8Encode_cons (utf8EncodeChar_four four.1 four.2 second third fourth) ih decoded
  all_goals cases decoded

theorem utf8Decode_eq_ok_iff {bytes : Bytes} {text : List Char} :
    utf8Decode bytes = .ok text ↔ bytes = utf8Encode text := by
  constructor
  · exact eq_utf8Encode_of_decodeFrom
  · rintro rfl
    exact utf8Decode_encode text

/-- A character takes at most four octets. -/
theorem length_utf8Encode_le (text : List Char) : (utf8Encode text).length ≤ 4 * text.length := by
  induction text with
  | nil => exact Nat.le_refl 0
  | cons c rest ih =>
    have octets : (utf8EncodeChar c).length ≤ 4 := by
      simp only [utf8EncodeChar]
      split
      · exact Nat.le_add_left 1 3
      · split
        · exact Nat.le_add_left 2 2
        · split
          · exact Nat.le_add_left 3 1
          · exact Nat.le_refl 4
    rw [utf8Encode, List.flatMap_cons, List.length_append, ← utf8Encode, List.length_cons]
    omega

end Datebook.Text
