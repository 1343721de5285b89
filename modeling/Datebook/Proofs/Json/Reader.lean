import Datebook.Json.Reader
import Datebook.Proofs.Time.Stamp

/-!
What is written as JSON is read back.

A value is `Plain` if its numbers are numerals and all of its texts denote characters. The text of
such a value is read as the value, whatever comes after it, unless that would go on with a number.
Main statement: `read?_chars`.
-/

set_option autoImplicit false

namespace Datebook

namespace Text

/-- No numeral has a zero in front and more digits after it. -/
theorem digits_leading_zero {n : Nat} {rest : List Char} (zero : digits n = '0' :: rest) :
    rest = [] := by
  induction n using digits.induct generalizing rest with
  | case1 n small =>
    rw [digits, if_pos small] at zero
    exact (List.cons.inj zero).2.symm
  | case2 n large ih =>
    rw [digits, if_neg large] at zero
    cases front : digits (n / 10) with
    | nil => exact absurd front (digits_ne_nil _)
    | cons c figures =>
      rw [front, List.cons_append] at zero
      obtain ⟨rfl, -⟩ := List.cons.inj zero
      have value := ofDigits_digits (n / 10)
      rw [front, ih front] at value
      have none_left : n / 10 = 0 := value.symm
      omega

end Text

namespace Json

theorem join?_char (c : Char) (pieces : List Piece) :
    join? (.char c :: pieces) = (join? pieces).map (c :: ·) := by
  rw [join?]

/-- A unit that is no half of a character stands for one. -/
theorem join?_unit {value : Nat} (small : value < 0xd800) (pieces : List Piece) :
    join? (.unit value :: pieces) = (join? pieces).map (Char.ofNat value :: ·) := by
  have high : isHighHalf value = false := by
    simp only [isHighHalf, Bool.and_eq_false_iff, decide_eq_false_iff_not]
    omega
  have low : isLowHalf value = false := by
    simp only [isLowHalf, Bool.and_eq_false_iff, decide_eq_false_iff_not]
    omega
  cases pieces with
  | nil => simp [join?, high, low]
  | cons piece rest => cases piece <;> simp [join?, high, low]

/-- A character is written with a mark of its own, with four digits, or as it is. -/
theorem escape_cases (c : Char) :
    (∃ mark, mark ≠ 'u' ∧ unescape? mark = some c ∧ escape c = ['\\', mark]) ∨
    (c.toNat < 32 ∧ escape c = '\\' :: 'u' :: Text.hexPadded 4 c.toNat) ∨
    (c ≠ '"' ∧ c ≠ '\\' ∧ 32 ≤ c.toNat ∧ escape c = [c]) := by
  by_cases marked : c ∈ ['"', '\\', '\x08', '\t', '\n', '\x0c', '\r']
  · left
    simp only [List.mem_cons, List.not_mem_nil, or_false] at marked
    rcases marked with rfl | rfl | rfl | rfl | rfl | rfl | rfl
    · exact ⟨'"', by decide, rfl, rfl⟩
    · exact ⟨'\\', by decide, rfl, rfl⟩
    · exact ⟨'b', by decide, rfl, rfl⟩
    · exact ⟨'t', by decide, rfl, rfl⟩
    · exact ⟨'n', by decide, rfl, rfl⟩
    · exact ⟨'f', by decide, rfl, rfl⟩
    · exact ⟨'r', by decide, rfl, rfl⟩
  · simp only [List.mem_cons, List.not_mem_nil, or_false, not_or] at marked
    obtain ⟨quote, slash, back, tab, line, form, carriage⟩ := marked
    right
    rw [escape, if_neg quote, if_neg slash, if_neg back, if_neg tab, if_neg line, if_neg form,
      if_neg carriage]
    by_cases low : c.toNat < 32
    · exact .inl ⟨low, if_pos low⟩
    · exact .inr ⟨quote, slash, Nat.le_of_not_lt low, if_neg low⟩

theorem readPieces?_mark {mark c : Char} (other : mark ≠ 'u') (found : unescape? mark = some c)
    (text : List Char) :
    readPieces? (['\\', mark] ++ text) =
      (readPieces? text).map fun found => (.char c :: found.1, found.2) := by
  rw [List.cons_append, List.cons_append, List.nil_append, readPieces?]
  · rw [found]
    cases readPieces? text <;> rfl
  · intro a b c d rest same
    exact absurd same other

theorem readPieces?_unit {value : Nat} (small : value < 32) (text : List Char) :
    readPieces? ('\\' :: 'u' :: Text.hexPadded 4 value ++ text) =
      (readPieces? text).map fun found => (.unit value :: found.1, found.2) := by
  have figures : Text.ofHexDigits? (Text.hexPadded 4 value) = some value := by
    rw [Text.ofHexDigits?_hexPadded, Nat.mod_eq_of_lt]
    exact Nat.lt_trans small (by decide)
  simp only [Text.hexPadded, List.nil_append, List.cons_append] at figures ⊢
  rw [readPieces?, figures]
  cases readPieces? text <;> rfl

theorem readPieces?_plain {c : Char} (quote : c ≠ '"') (slash : c ≠ '\\') (shown : 32 ≤ c.toNat)
    (text : List Char) :
    readPieces? (c :: text) =
      (readPieces? text).map fun found => (.char c :: found.1, found.2) := by
  rw [readPieces?]
  · rw [if_neg fun none => none.elim slash (Nat.not_lt.mpr shown)]
    cases readPieces? text <;> rfl
  · exact quote
  · exact fun _ _ _ _ _ same _ => slash same
  · exact fun _ _ same _ => slash same

/-- A character inside a text is read as one piece, which stands for the character. -/
theorem readPieces?_escape (c : Char) :
    ∃ piece, (∀ text, readPieces? (escape c ++ text) =
        (readPieces? text).map fun found => (piece :: found.1, found.2)) ∧
      ∀ pieces, join? (piece :: pieces) = (join? pieces).map (c :: ·) := by
  rcases escape_cases c with ⟨mark, other, found, written⟩ | ⟨low, written⟩ |
    ⟨quote, slash, shown, written⟩
  · exact ⟨.char c, written ▸ readPieces?_mark other found, join?_char c⟩
  · refine ⟨.unit c.toNat, written ▸ readPieces?_unit low, fun pieces => ?_⟩
    rw [join?_unit (Nat.lt_trans low (by decide)), Char.ofNat_toNat]
  · exact ⟨.char c, written ▸ readPieces?_plain quote slash shown, join?_char c⟩

/-- A text is read up to its closing quote. -/
theorem readText?_quoted (text rest : List Char) :
    readText? (text.flatMap escape ++ '"' :: rest) = some (some text, rest) := by
  have read : ∃ pieces, readPieces? (text.flatMap escape ++ '"' :: rest) = some (pieces, rest) ∧
      join? pieces = some text := by
    induction text with
    | nil => exact ⟨[], by rw [List.flatMap_nil, List.nil_append, readPieces?], by rw [join?]⟩
    | cons c text ih =>
      obtain ⟨pieces, reads, joins⟩ := ih
      obtain ⟨piece, front, stands⟩ := readPieces?_escape c
      refine ⟨piece :: pieces, ?_, ?_⟩
      · rw [List.flatMap_cons, List.append_assoc, front, reads]
        rfl
      · rw [stands, joins]
        rfl
  obtain ⟨pieces, reads, joins⟩ := read
  rw [readText?, reads]
  simp [joins]

theorem quote_append (text rest : List Char) :
    quote text ++ rest = '"' :: (text.flatMap escape ++ '"' :: rest) := by
  rw [quote, List.cons_append, List.cons_append, List.append_assoc]
  rfl

/-- What may follow a value: nothing, a comma or the end of an array or an object. -/
def Closes : List Char → Prop
  | [] => True
  | c :: _ => c = ',' ∨ c = ']' ∨ c = '\x7d'

namespace Closes

variable {rest : List Char}

theorem not_isDigit (closes : Closes rest) (c : Char) (first : rest.head? = some c) :
    Text.isDigit c = false := by
  cases rest with
  | nil => cases first
  | cons c rest =>
    cases first
    rcases closes with rfl | rfl | rfl <;> rfl

theorem readFraction? (closes : Closes rest) : readFraction? rest = some ([], rest) := by
  cases rest with
  | nil => rfl
  | cons c rest => rcases closes with rfl | rfl | rfl <;> rfl

theorem readExponent? (closes : Closes rest) : readExponent? rest = some ([], rest) := by
  cases rest with
  | nil => rfl
  | cons c rest => rcases closes with rfl | rfl | rfl <;> rfl

end Closes

/-- Digits are read up to where they end. -/
theorem readDigits?_append {figures rest : List Char} (nonempty : figures ≠ [])
    (digits : ∀ c ∈ figures, Text.isDigit c = true) (closes : Closes rest) :
    readDigits? (figures ++ rest) = some (figures, rest) := by
  have taken := Text.takeWhile_digits digits closes.not_isDigit
  have split := List.takeWhile_append_dropWhile (p := Text.isDigit) (l := figures ++ rest)
  rw [taken] at split
  rw [readDigits?, taken, List.append_cancel_left split]
  exact if_neg nonempty

/-- A numeral is read up to where it ends. -/
theorem readNumber?_digits (n : Nat) {rest : List Char} (closes : Closes rest) :
    readNumber? (Text.digits n ++ rest) = some (Text.digits n, rest) := by
  have digits := Text.digits_digits n
  have whole := readDigits?_append (Text.digits_ne_nil n) digits closes
  have leading (tail : List Char) (zero : Text.digits n = '0' :: tail) : tail = [] :=
    Text.digits_leading_zero zero
  cases front : Text.digits n with
  | nil => exact absurd front (Text.digits_ne_nil n)
  | cons c tail =>
    rw [front] at digits whole
    have unsigned : readSign (c :: tail ++ rest) = ([], c :: tail ++ rest) := by
      rw [List.cons_append, readSign]
      intro other same
      cases same
      exact absurd (digits '-' List.mem_cons_self) (by decide)
    have read : readWhole? (c :: tail ++ rest) = some (c :: tail, rest) := by
      by_cases zero : c = '0'
      · rw [zero, leading tail (zero ▸ front)]
        rfl
      · rw [List.cons_append, readWhole?, ← List.cons_append, whole]
        intro other same
        exact zero (List.cons.inj same).1
    rw [readNumber?, unsigned]
    simp only [read, closes.readFraction?, closes.readExponent?, Option.bind_eq_bind,
      Option.bind_some, List.nil_append, List.append_nil]

/-- A value whose numbers are numerals and whose texts all denote characters. -/
inductive Plain : Json → Prop
  | null : Plain .null
  | bool (value : Bool) : Plain (.bool value)
  | number (n : Nat) : Plain (.ofNat n)
  | string (text : List Char) : Plain (.string (some text))
  | array {items : List Json} (plain : ∀ item ∈ items, Plain item) : Plain (.array items)
  | object {fields : List (Option (List Char) × Json)}
    (named : ∀ field ∈ fields, ∃ name, field.1 = some name)
    (plain : ∀ field ∈ fields, Plain field.2) : Plain (.object fields)

/-- A digit is no blank and begins nothing but a number. -/
theorem not_mem_of_isDigit {c : Char} (digit : Text.isDigit c = true) :
    c ∉ [' ', '\n', '\r', '\t', 'n', 't', 'f', '"', '[', ']', '\x7b'] := by
  have others : [' ', '\n', '\r', '\t', 'n', 't', 'f', '"', '[', ']', '\x7b'].any Text.isDigit =
    false := rfl
  exact fun mem => List.any_eq_false.mp others c mem digit

theorem isBlank_of_isDigit {c : Char} (digit : Text.isDigit c = true) : isBlank c = false := by
  have others := not_mem_of_isDigit digit
  simp only [List.mem_cons, not_or] at others
  simp [isBlank, others]

/-- The text of a value begins with a character that is no blank and ends no array. -/
theorem Plain.begins {value : Json} (plain : value.Plain) :
    ∃ c tail, value.chars = c :: tail ∧ isBlank c = false ∧ c ≠ ']' := by
  cases plain with
  | null => exact ⟨'n', _, rfl, rfl, by decide⟩
  | bool value => cases value <;> exact ⟨_, _, rfl, rfl, by decide⟩
  | number n =>
    cases front : Text.digits n with
    | nil => exact absurd front (Text.digits_ne_nil n)
    | cons c tail =>
      have digit := Text.digits_digits n c (front ▸ List.mem_cons_self)
      refine ⟨c, tail, front, isBlank_of_isDigit digit, ?_⟩
      rintro rfl
      cases digit
  | string text => exact ⟨'"', _, rfl, rfl, by decide⟩
  | @array items => cases items <;> exact ⟨'[', _, rfl, rfl, by decide⟩
  | @object fields => cases fields <;> exact ⟨'\x7b', _, rfl, rfl, by decide⟩

theorem skipBlanks_cons {c : Char} (shown : isBlank c = false) (rest : List Char) :
    skipBlanks (c :: rest) = c :: rest :=
  List.dropWhile_cons_of_neg (Bool.eq_false_iff.mp shown)

/-- The text of a value is read as the value, whatever follows it, with two units of fuel for each
character. -/
def Reads (value : Json) : Prop :=
  ∀ fuel rest, 2 * value.chars.length ≤ fuel + 1 → Closes rest →
    readValue? (fuel + 1) (value.chars ++ rest) = some (value, rest)

theorem reads_number (n : Nat) : Reads (.ofNat n) := by
  intro fuel rest enough closes
  have number := readNumber?_digits n closes
  show readValue? (fuel + 1) (Text.digits n ++ rest) = some (.number (Text.digits n), rest)
  cases front : Text.digits n with
  | nil => exact absurd front (Text.digits_ne_nil n)
  | cons c tail =>
    have digit := Text.digits_digits n c (front ▸ List.mem_cons_self)
    have others := not_mem_of_isDigit digit
    rw [front] at number
    rw [readValue?, List.cons_append, skipBlanks_cons (isBlank_of_isDigit digit)]
    split
    case h_7 =>
      rw [← List.cons_append, number]
      rfl
    all_goals
      rename_i same
      obtain ⟨rfl, -⟩ := List.cons.inj same
      exact absurd (by decide) others

theorem reads_string (text : List Char) : Reads (.string (some text)) := by
  intro fuel rest enough closes
  have quoted := readText?_quoted text rest
  rw [chars, Option.getD_some, quote_append, readValue?, skipBlanks_cons rfl]
  simp only [quoted, Option.bind_eq_bind, Option.bind_some]

/-- What follows an item closes it. -/
theorem closes_itemChars (items : List Json) (rest : List Char) :
    0 < (itemChars items).length ∧ Closes (itemChars items ++ rest) := by
  cases items with
  | nil => exact ⟨Nat.one_pos, .inr (.inl rfl)⟩
  | cons item items =>
    rw [itemChars]
    exact ⟨Nat.succ_pos _, .inl rfl⟩

/-- What follows a field closes it. -/
theorem closes_fieldChars (fields : List (Option (List Char) × Json)) (rest : List Char) :
    0 < (fieldChars fields).length ∧ Closes (fieldChars fields ++ rest) := by
  cases fields with
  | nil => exact ⟨Nat.one_pos, .inr (.inr rfl)⟩
  | cons field fields =>
    rw [fieldChars]
    exact ⟨Nat.succ_pos _, .inl rfl⟩

/-- The items of an array are read up to its end. -/
theorem readItems?_itemChars {item : Json} {items : List Json}
    (reads : ∀ value ∈ item :: items, Reads value) {fuel : Nat} (rest : List Char)
    (enough : 2 * (item.chars.length + (itemChars items).length) ≤ fuel + 1) :
    readItems? (fuel + 1) (item.chars ++ (itemChars items ++ rest)) =
      some (item :: items, rest) := by
  induction items generalizing item fuel with
  | nil =>
    obtain ⟨positive, closes⟩ := closes_itemChars [] rest
    obtain ⟨less, rfl⟩ : ∃ less, fuel = less + 1 := ⟨fuel - 1, by omega⟩
    rw [readItems?, reads item (.head _) less _ (by omega) closes]
    rfl
  | cons next items ih =>
    obtain ⟨positive, closes⟩ := closes_itemChars (next :: items) rest
    obtain ⟨less, rfl⟩ : ∃ less, fuel = less + 1 := ⟨fuel - 1, by omega⟩
    have written : itemChars (next :: items) ++ rest =
        ',' :: (next.chars ++ (itemChars items ++ rest)) := by
      simp [itemChars]
    have shorter : (itemChars (next :: items)).length =
        next.chars.length + (itemChars items).length + 1 := by
      simp [itemChars]
    have later : readItems? (less + 1) (next.chars ++ (itemChars items ++ rest)) =
        some (next :: items, rest) :=
      ih (fun value mem => reads value (.tail _ mem)) (by omega)
    have comma : isBlank ',' = false := rfl
    rw [readItems?, reads item (.head _) less _ (by omega) closes, written]
    simp only [Option.bind_eq_bind, Option.bind_some, skipBlanks_cons comma, later]

/-- The fields of an object are read up to its end. -/
theorem readFields?_fieldChars {name : List Char} {value : Json}
    {fields : List (Option (List Char) × Json)}
    (named : ∀ field ∈ fields, ∃ name, field.1 = some name)
    (reads : ∀ field ∈ (some name, value) :: fields, Reads field.2) {fuel : Nat}
    (rest : List Char)
    (enough : 2 * ((quote name).length + value.chars.length + (fieldChars fields).length) ≤
      fuel + 1) :
    readFields? (fuel + 1) (quote name ++ ':' :: (value.chars ++ (fieldChars fields ++ rest))) =
      some ((some name, value) :: fields, rest) := by
  have colon : isBlank ':' = false := rfl
  induction fields generalizing name value fuel with
  | nil =>
    obtain ⟨positive, closes⟩ := closes_fieldChars [] rest
    obtain ⟨less, rfl⟩ : ∃ less, fuel = less + 1 := ⟨fuel - 1, by omega⟩
    have first : readValue? (less + 1) (value.chars ++ (fieldChars [] ++ rest)) =
        some (value, fieldChars [] ++ rest) :=
      reads _ (.head _) less _ (by dsimp only; omega) closes
    rw [readFields?, quote_append, skipBlanks_cons rfl]
    simp only [readText?_quoted, Option.bind_eq_bind, Option.bind_some, skipBlanks_cons colon,
      first]
    rfl
  | cons field fields ih =>
    obtain ⟨other, next⟩ := field
    obtain ⟨label, rfl⟩ := named _ (.head _)
    obtain ⟨positive, closes⟩ := closes_fieldChars ((some label, next) :: fields) rest
    obtain ⟨less, rfl⟩ : ∃ less, fuel = less + 1 := ⟨fuel - 1, by omega⟩
    have written : fieldChars ((some label, next) :: fields) ++ rest =
        ',' :: (quote label ++ ':' :: (next.chars ++ (fieldChars fields ++ rest))) := by
      simp [fieldChars]
    have shorter : (fieldChars ((some label, next) :: fields)).length =
        (quote label).length + next.chars.length + (fieldChars fields).length + 2 := by
      simp [fieldChars]
      omega
    rw [written] at closes
    have first : readValue? (less + 1) (value.chars ++ _) = some (value, _) :=
      reads _ (.head _) less _ (by dsimp only; omega) closes
    have later : readFields? (less + 1)
        (quote label ++ ':' :: (next.chars ++ (fieldChars fields ++ rest))) =
        some ((some label, next) :: fields, rest) :=
      ih (fun field mem => named field (.tail _ mem)) (fun field mem => reads field (.tail _ mem))
        (by omega)
    have comma : isBlank ',' = false := rfl
    rw [readFields?, written, quote_append, skipBlanks_cons rfl]
    simp only [readText?_quoted, Option.bind_eq_bind, Option.bind_some, skipBlanks_cons colon,
      first, skipBlanks_cons comma, later]

theorem reads_array {items : List Json} (plain : ∀ item ∈ items, item.Plain)
    (reads : ∀ item ∈ items, item.Reads) : Reads (.array items) := by
  intro fuel rest enough closes
  cases items with
  | nil => rfl
  | cons item items =>
    obtain ⟨c, tail, front, shown, open_⟩ := (plain item (.head _)).begins
    have written : (Json.array (item :: items)).chars ++ rest =
        '[' :: (item.chars ++ (itemChars items ++ rest)) := by
      simp [chars]
    have length : (Json.array (item :: items)).chars.length =
        item.chars.length + (itemChars items).length + 1 := by
      simp [chars]
    obtain ⟨less, rfl⟩ : ∃ less, fuel = less + 1 := ⟨fuel - 1, by omega⟩
    have inside : readItems? (less + 1) (item.chars ++ (itemChars items ++ rest)) =
        some (item :: items, rest) :=
      readItems?_itemChars reads rest (by omega)
    rw [front, List.cons_append] at inside
    rw [written, readValue?, skipBlanks_cons rfl, front, List.cons_append]
    simp only [skipBlanks_cons shown]
    split
    · rename_i same
      exact absurd (List.cons.inj same).1 open_
    · rw [inside]
      rfl

theorem reads_object {fields : List (Option (List Char) × Json)}
    (named : ∀ field ∈ fields, ∃ name, field.1 = some name)
    (reads : ∀ field ∈ fields, field.2.Reads) : Reads (.object fields) := by
  intro fuel rest enough closes
  cases fields with
  | nil => rfl
  | cons field fields =>
    obtain ⟨label, value⟩ := field
    obtain ⟨name, rfl⟩ := named _ (.head _)
    have written : (Json.object ((some name, value) :: fields)).chars ++ rest =
        '\x7b' :: (quote name ++ ':' :: (value.chars ++ (fieldChars fields ++ rest))) := by
      simp [chars]
    have length : (Json.object ((some name, value) :: fields)).chars.length =
        (quote name).length + value.chars.length + (fieldChars fields).length + 2 := by
      simp [chars]
      omega
    obtain ⟨less, rfl⟩ : ∃ less, fuel = less + 1 := ⟨fuel - 1, by omega⟩
    have inside : readFields? (less + 1)
        (quote name ++ ':' :: (value.chars ++ (fieldChars fields ++ rest))) =
        some ((some name, value) :: fields, rest) :=
      readFields?_fieldChars (fun field mem => named field (.tail _ mem)) reads rest (by omega)
    rw [quote_append] at inside
    rw [written, readValue?, skipBlanks_cons rfl, quote_append]
    have mark : isBlank '"' = false := rfl
    simp only [skipBlanks_cons mark]
    split
    · rename_i same
      cases (List.cons.inj same).1
    · rw [inside]
      rfl

/-- The text of a plain value is read as the value. -/
theorem Plain.reads {value : Json} (plain : value.Plain) : value.Reads := by
  induction plain with
  | null => exact fun fuel rest enough closes => rfl
  | bool value => cases value <;> exact fun fuel rest enough closes => rfl
  | number n => exact reads_number n
  | string text => exact reads_string text
  | array plain ih => exact reads_array plain ih
  | object named plain ih => exact reads_object named ih

/-- A text of one plain value is read as the value. -/
theorem read?_chars {value : Json} (plain : value.Plain) : read? value.chars = some value := by
  have reads := plain.reads (2 * value.chars.length + 1) [] (by omega) trivial
  rw [List.append_nil] at reads
  rw [read?, reads]
  rfl

end Json

end Datebook
