import Datebook.Proofs.Time.Civil
import Datebook.Time.Stamp.Reader

/-!
Reading a time stamp gives back the instant that was written.

Each reader takes exactly the text of its own field from the front of a longer text: a field ends
where its width is reached or where no digit follows. A leap second inside a minute shares its text
with an instant of the next second and is read as that. Main statements: `Instant.read_chars`, and
`Instant.endsMinute_of_read`, that nothing else is ever read.
-/

set_option autoImplicit false

namespace Datebook

theorem bind_of_ok {ε α β : Type} {first : Except ε α} {value : α} (done : first = .ok value)
    (next : α → Except ε β) : (first >>= next) = next value := by
  rw [done]
  rfl

theorem ok_of_bind {ε α β : Type} {first : Except ε α} {next : α → Except ε β} {result : β}
    (done : (first >>= next) = .ok result) :
    ∃ value, first = .ok value ∧ next value = .ok result := by
  cases first with
  | ok value => exact ⟨value, rfl, done⟩
  | error cause => cases done

namespace Text

theorem isDigit_iff (c : Char) : isDigit c = true ↔ 48 ≤ c.toNat ∧ c.toNat ≤ 57 := by
  simp only [isDigit, Bool.and_eq_true, decide_eq_true_eq, Char.le_def, UInt32.le_iff_toNat_le]
  exact Iff.rfl

theorem not_isBlank_of_isDigit {c : Char} (digit : isDigit c = true) : isBlank c = false := by
  rw [isDigit_iff] at digit
  simp only [isBlank, inRanges, blankRanges, List.any_cons, List.any_nil, Bool.or_false,
    Bool.or_eq_false_iff, Bool.and_eq_false_iff, decide_eq_false_iff_not]
  omega

theorem trimStart_digits {figures : List Char} (nonempty : figures ≠ [])
    (digits : ∀ c ∈ figures, isDigit c = true) (rest : List Char) :
    trimStart (figures ++ rest) = figures ++ rest := by
  cases figures with
  | nil => exact absurd rfl nonempty
  | cons c figures =>
    exact trimStart_cons_of_not_isBlank c _ (not_isBlank_of_isDigit (digits c List.mem_cons_self))

theorem padded_digits (width n : Nat) : ∀ c ∈ padded width n, isDigit c = true := by
  induction width generalizing n with
  | zero => intro c member; cases member
  | succ width ih =>
    intro c member
    rcases List.mem_append.mp member with front | last
    · exact ih (n / 10) c front
    · rw [List.mem_singleton.mp last]
      exact isDigit_digitChar n

theorem digits_digits (n : Nat) : ∀ c ∈ digits n, isDigit c = true := by
  induction n using digits.induct with
  | case1 n small =>
    intro c member
    rw [digits, if_pos small] at member
    rw [List.mem_singleton.mp member]
    exact isDigit_digitChar n
  | case2 n large ih =>
    intro c member
    rw [digits, if_neg large] at member
    rcases List.mem_append.mp member with front | last
    · exact ih c front
    · rw [List.mem_singleton.mp last]
      exact isDigit_digitChar n

theorem length_digits_le {width n : Nat} (small : n < Nat.pow 10 (width + 1)) :
    (digits n).length ≤ width + 1 := by
  induction width generalizing n with
  | zero =>
    have single : n < 10 := small
    rw [digits, if_pos single]
    exact Nat.le_refl 1
  | succ width ih =>
    rw [digits]
    split
    · exact Nat.le_add_left 1 (width + 1)
    · have short : n / 10 < Nat.pow 10 (width + 1) :=
        Nat.div_lt_of_lt_mul (Nat.lt_of_lt_of_eq small (Nat.mul_comm _ 10))
      have fewer := ih short
      rw [List.length_append, List.length_singleton]
      omega

theorem padded_ne_nil (width n : Nat) : padded (width + 1) n ≠ [] := by
  intro none
  have := congrArg List.length none
  rw [length_padded] at this
  cases this

theorem digits_ne_nil (n : Nat) : digits n ≠ [] := by
  rw [digits]
  split <;> simp

/-- A text that begins with digits, as far as a numeral goes. -/
theorem takeWhile_digits {figures rest : List Char} (digits : ∀ c ∈ figures, isDigit c = true)
    (ends : ∀ c, rest.head? = some c → isDigit c = false) :
    (figures ++ rest).takeWhile isDigit = figures := by
  rw [List.takeWhile_append_of_pos digits]
  cases rest with
  | nil => simp
  | cons c rest => simp [ends c rfl]

/-- Digits denote less than the next power of ten. -/
theorem ofDigits_lt {figures : List Char} (digits : ∀ c ∈ figures, isDigit c = true) :
    ofDigits figures < Nat.pow 10 figures.length := by
  have more (total : Nat) : figures.foldl (fun total c => total * 10 + digitValue c) total <
      (total + 1) * Nat.pow 10 figures.length := by
    induction figures generalizing total with
    | nil => exact Nat.lt_of_lt_of_eq (Nat.lt_succ_self total) (Nat.mul_one _).symm
    | cons c figures ih =>
      have digit := ((isDigit_iff c).mp (digits c List.mem_cons_self)).2
      have power : Nat.pow 10 (figures.length + 1) = 10 * Nat.pow 10 figures.length :=
        Nat.mul_comm _ 10
      have step : total * 10 + digitValue c + 1 ≤ (total + 1) * 10 := by
        rw [digitValue]
        omega
      rw [List.foldl_cons, List.length_cons, power, ← Nat.mul_assoc]
      exact Nat.lt_of_lt_of_le (ih (fun c mem => digits c (List.mem_cons_of_mem _ mem)) _)
        (Nat.mul_le_mul_right _ step)
  exact Nat.lt_of_lt_of_eq (more 0) (Nat.one_mul _)

end Text

namespace Stamp

open Text

/-- A number that has been read is kept when it lies in its range. The range is any predicate, so
that no bound of it is ever unfolded against a variable. -/
theorem read_within {α : Type} {p : α → Prop} [DecidablePred p] {value : α} {rest : List Char}
    {read : Except StampError (α × List Char)} (done : read = .ok (value, rest))
    (within : p value) :
    (do let (value, rest) ← read
        if p value then .ok (value, rest) else .error .outOfRange) = .ok (value, rest) := by
  rw [done]
  exact if_pos within

/-- A numeral is read to its end: where the limit is reached or no digit follows. -/
theorem readNumber_append (limit : Nat) {figures : List Char} (rest : List Char)
    (nonempty : figures ≠ []) (digits : ∀ c ∈ figures, isDigit c = true)
    (small : ofDigits figures < 0x8000_0000_0000_0000) (fits : figures.length ≤ limit)
    (ends : figures.length < limit → ∀ c, rest.head? = some c → isDigit c = false) :
    readNumber limit (figures ++ rest) = .ok (ofDigits figures, rest) := by
  have taken : ((figures ++ rest).take limit).takeWhile isDigit = figures := by
    rw [List.take_append, List.take_of_length_le fits]
    apply takeWhile_digits digits
    intro c first
    by_cases full : figures.length < limit
    · apply ends full c
      rw [List.head?_take, if_neg (by omega)] at first
      exact first
    · rw [show limit - figures.length = 0 by omega, List.take_zero] at first
      cases first
  have present : figures ++ rest ≠ [] := fun none => nonempty (List.append_eq_nil_iff.mp none).1
  simp only [readNumber, taken, if_neg present, if_neg nonempty, if_neg (Nat.not_le.mpr small),
    List.drop_left]

theorem readField_padded {low high value : Nat} (within : low ≤ value ∧ value ≤ high)
    (two : value < 100) (rest : List Char) :
    readField low high (padded 2 value ++ rest) = .ok (value, rest) := by
  have number : ofDigits (padded 2 value) = value := by
    rw [ofDigits_padded]
    exact Nat.mod_eq_of_lt two
  have read := readNumber_append 2 rest (padded_ne_nil 1 value)
    (padded_digits 2 value) (by rw [number]; omega) (Nat.le_of_eq (length_padded 2 value))
    (by rw [length_padded]; omega)
  rw [readField, trimStart_digits (padded_ne_nil 1 value) (padded_digits 2 value), read, number]
  exact read_within (p := fun value => low ≤ value ∧ value ≤ high) rfl within

theorem readMark_cons (mark : Char) (rest : List Char) :
    readMark mark (mark :: rest) = .ok ((), rest) :=
  if_pos rfl

/-- The years that a reader can hold. -/
def Holds (year : Int) : Prop :=
  -0x8000_0000 ≤ year ∧ year < 0x8000_0000

instance : DecidablePred Holds :=
  fun _ => inferInstanceAs (Decidable (_ ∧ _))

/-- Four digits are the whole of an unsigned year. -/
theorem readYear_padded {year : Nat} (short : year ≤ 9999) (rest : List Char) :
    readYear (padded 4 year ++ rest) = .ok ((year : Int), rest) := by
  have number : ofDigits (padded 4 year) = year := by
    rw [ofDigits_padded]
    exact Nat.mod_eq_of_lt (Nat.lt_succ_of_le short)
  have read := readNumber_append 4 rest (padded_ne_nil 3 year) (padded_digits 4 year)
    (by rw [number]; omega) (Nat.le_of_eq (length_padded 4 year)) (by rw [length_padded]; omega)
  have unsigned : ∀ c tail, padded 4 year ++ rest = c :: tail → isDigit c = true := by
    intro c tail starts
    apply padded_digits 4 year
    rw [← List.cons_head_tail (padded_ne_nil 3 year), List.cons_append] at starts
    exact (List.cons.inj starts).1 ▸ List.head_mem _
  rw [readYear, trimStart_digits (padded_ne_nil 3 year) (padded_digits 4 year)]
  split
  · rename_i starts
    cases unsigned _ _ starts
  · rename_i starts
    cases unsigned _ _ starts
  · rw [bind_of_ok read, number]
    have within : Holds year := ⟨by omega, by omega⟩
    exact read_within (p := Holds) rfl within

theorem atLeast_digits (width n : Nat) : ∀ c ∈ atLeast width n, isDigit c = true := by
  rw [atLeast]
  split
  · exact padded_digits width n
  · exact digits_digits n

theorem atLeast_ne_nil (width n : Nat) : atLeast (width + 1) n ≠ [] := by
  rw [atLeast]
  split
  · exact padded_ne_nil width n
  · exact digits_ne_nil n

theorem ofDigits_atLeast (width n : Nat) : ofDigits (atLeast width n) = n := by
  rw [atLeast]
  split
  · rename_i short
    rw [ofDigits_padded, Nat.mod_eq_of_lt short]
  · exact ofDigits_digits n

/-- A signed year ends at the hyphen that follows it. -/
theorem readNumber_atLeast {size : Nat} (small : size ≤ 0x8000_0000) (rest : List Char) :
    readNumber (atLeast 4 size ++ '-' :: rest).length (atLeast 4 size ++ '-' :: rest) =
      .ok (size, '-' :: rest) := by
  have fits : (atLeast 4 size).length ≤ (atLeast 4 size ++ '-' :: rest).length := by
    rw [List.length_append]
    exact Nat.le_add_right _ _
  have read := readNumber_append (atLeast 4 size ++ '-' :: rest).length ('-' :: rest)
    (atLeast_ne_nil 3 size) (atLeast_digits 4 size) (by rw [ofDigits_atLeast]; omega) fits
    (by intro _ c first; cases first; decide)
  rw [read, ofDigits_atLeast]

theorem readYear_minus {text rest : List Char} {size : Nat}
    (number : readNumber text.length text = .ok (size, rest))
    (within : Holds (-(size : Int))) :
    readYear ('-' :: text) = .ok (-(size : Int), rest) := by
  rw [readYear, trimStart_cons_of_not_isBlank _ _ (by decide)]
  split
  · rename_i starts
    rw [← (List.cons.inj starts).2, bind_of_ok number]
    exact read_within (p := Holds) rfl within
  · rename_i starts
    exact absurd (List.cons.inj starts).1 (by decide)
  · rename_i unsigned _
    exact absurd rfl (unsigned text)

theorem readYear_plus {text rest : List Char} {size : Nat}
    (number : readNumber text.length text = .ok (size, rest))
    (within : Holds size) :
    readYear ('+' :: text) = .ok ((size : Int), rest) := by
  rw [readYear, trimStart_cons_of_not_isBlank _ _ (by decide)]
  split
  · rename_i starts
    exact absurd (List.cons.inj starts).1 (by decide)
  · rename_i starts
    rw [← (List.cons.inj starts).2, bind_of_ok number]
    exact read_within (p := Holds) rfl within
  · rename_i unsigned
    exact absurd rfl (unsigned text)

theorem readYear_yearText {year : Int} (within : Holds year) (rest : List Char) :
    readYear (yearText year ++ '-' :: rest) = .ok (year, '-' :: rest) := by
  rw [yearText]
  split
  · rename_i short
    rw [readYear_padded (by omega), Int.toNat_of_nonneg short.1]
  · have small : year.natAbs ≤ 0x8000_0000 := by
      obtain ⟨lower, upper⟩ := within
      omega
    have number := readNumber_atLeast small rest
    split
    · rename_i below
      have same : -(year.natAbs : Int) = year := by omega
      rw [List.cons_append, readYear_minus number (by rw [same]; exact within), same]
    · rename_i above
      have same : (year.natAbs : Int) = year := by omega
      rw [List.cons_append, readYear_plus number (by rw [same]; exact within), same]

theorem readDate_dateText {date : CivilDate} (valid : date.Valid) (within : Holds date.year)
    (rest : List Char) :
    readDate (dateText date ++ rest) = .ok (date, rest) := by
  obtain ⟨firstMonth, lastMonth, firstDay, lastDay⟩ := valid
  have days : date.day ≤ 31 := by
    simp only [CivilDate.daysInMonth] at lastDay
    split at lastDay
    · split at lastDay <;> omega
    · split at lastDay <;> omega
  have year := readYear_yearText within
    (padded 2 date.month ++ '-' :: (padded 2 date.day ++ rest))
  have month := readField_padded ⟨firstMonth, lastMonth⟩ (by omega)
    ('-' :: (padded 2 date.day ++ rest))
  have day := readField_padded ⟨firstDay, days⟩ (by omega) rest
  have solid : isBlank '-' = false := by decide
  simp only [dateText, List.append_assoc, List.cons_append]
  simp only [readDate, bind_of_ok year, trimStart_cons_of_not_isBlank _ _ solid,
    bind_of_ok (readMark_cons _ _), bind_of_ok month, bind_of_ok day]
  rfl

/-- The three lengths of a fraction, and none, are told apart by where the digits end. -/
theorem readFraction_padded {places value : Nat} (shown : 0 < places ∧ places ≤ 9)
    (small : value < Nat.pow 10 places) {rest : List Char}
    (ends : ∀ c, rest.head? = some c → isDigit c = false) :
    readFraction ('.' :: padded places value ++ rest) =
      .ok (value * Nat.pow 10 (9 - places), rest) := by
  have number : ofDigits (padded places value) = value := by
    rw [ofDigits_padded, Nat.mod_eq_of_lt small]
  have nonempty : padded places value ≠ [] := by
    obtain ⟨fewer, rfl⟩ := Nat.exists_eq_add_of_lt shown.1
    rw [Nat.zero_add]
    exact padded_ne_nil fewer value
  have bound : value < 0x8000_0000_0000_0000 := by
    have most : Nat.pow 10 places ≤ 1000000000 := Nat.pow_le_pow_right (by decide) shown.2
    omega
  have read := readNumber_append 9 rest nonempty (padded_digits places value)
    (by rw [number]; exact bound) (by rw [length_padded]; exact shown.2) (fun _ => ends)
  have length : (padded places value ++ rest).length - rest.length = places := by
    rw [List.length_append, length_padded]
    omega
  have kept : rest.dropWhile isDigit = rest := by
    cases rest with
    | nil => rfl
    | cons c rest => simp [ends c rfl]
  simp only [List.cons_append, readFraction, bind_of_ok read, number, length, kept]

theorem readFraction_fractionText {nano : Nat} (below : nano < 1000000000) (rest : List Char) :
    readFraction (fractionText nano ++ 'Z' :: rest) = .ok (nano, 'Z' :: rest) := by
  have ends : ∀ c, ('Z' :: rest).head? = some c → isDigit c = false := by
    intro c first
    cases first
    decide
  rw [fractionText]
  split
  · rename_i none
    rw [none]
    rfl
  · split
    · rename_i millis
      have short : nano / 1000000 < Nat.pow 10 3 := Nat.div_lt_of_lt_mul below
      have whole : nano / 1000000 * Nat.pow 10 (9 - 3) = nano := by
        show nano / 1000000 * 1000000 = nano
        omega
      rw [readFraction_padded (by decide) short ends, whole]
    · split
      · rename_i micros
        have short : nano / 1000 < Nat.pow 10 6 := Nat.div_lt_of_lt_mul below
        have whole : nano / 1000 * Nat.pow 10 (9 - 6) = nano := by
          show nano / 1000 * 1000 = nano
          omega
        rw [readFraction_padded (by decide) short ends, whole]
      · have whole : nano * Nat.pow 10 (9 - 9) = nano := Nat.mul_one nano
        rw [readFraction_padded (by decide) below ends, whole]

/-- A leap second is written as second 60 and read back into the second before it. -/
theorem readTime_timeText {second nano : Nat} (inDay : second < 86400) (below : nano < 2000000000)
    (leap : 1000000000 ≤ nano → second % 60 = 59) (rest : List Char) :
    readTime (timeText second nano ++ 'Z' :: rest) = .ok ((second, nano), 'Z' :: rest) := by
  simp only [timeText, List.append_assoc, List.cons_append]
  generalize shifted : (if 1000000000 ≤ nano then 1 else 0) = shift
  have shifts : shift = 0 ∧ nano < 1000000000 ∨ shift = 1 ∧ 1000000000 ≤ nano := by
    split at shifted <;> omega
  have hours : 0 ≤ second / 3600 ∧ second / 3600 ≤ 23 := by omega
  have minutes : 0 ≤ second / 60 % 60 ∧ second / 60 % 60 ≤ 59 := by omega
  have seconds : 0 ≤ second % 60 + shift ∧ second % 60 + shift ≤ 60 := by omega
  have part : nano - shift * 1000000000 < 1000000000 := by omega
  have solid : isBlank ':' = false := by decide
  simp only [readTime, bind_of_ok (readField_padded hours (by omega) _),
    trimStart_cons_of_not_isBlank _ _ solid, bind_of_ok (readMark_cons _ _),
    bind_of_ok (readField_padded minutes (by omega) _),
    bind_of_ok (readField_padded seconds (by omega) _),
    bind_of_ok (readFraction_fractionText part _)]
  have whole : (second % 60 + shift) / 60 = shift := by omega
  have total : second / 3600 * 3600 + second / 60 % 60 * 60 + (second % 60 + shift) - shift =
      second := by omega
  have nanos : nano - shift * 1000000000 + shift * 1000000000 = nano := by omega
  rw [whole, total, nanos]
  rfl

/-- Inside a minute a leap second is written as the next second. -/
theorem timeText_succ {second nano : Nat} (leap : 1000000000 ≤ nano) (below : nano < 2000000000)
    (inside : second % 60 ≠ 59) :
    timeText (second + 1) (nano - 1000000000) = timeText second nano := by
  have regular : ¬ 1000000000 ≤ nano - 1000000000 := by omega
  have hour : (second + 1) / 3600 = second / 3600 := by omega
  have minute : (second + 1) / 60 = second / 60 := by omega
  have next : (second + 1) % 60 = second % 60 + 1 := by omega
  simp only [timeText, if_pos leap, if_neg regular, hour, minute, next, Nat.add_zero, Nat.zero_mul,
    Nat.one_mul, Nat.sub_zero]

/-- What has been read as a number are digits in front of the rest. -/
theorem figures_of_readNumber {limit value : Nat} {text rest : List Char}
    (read : readNumber limit text = .ok (value, rest)) :
    ∃ figures, (∀ c ∈ figures, isDigit c = true) ∧ figures.length ≤ limit ∧
      text = figures ++ rest ∧ value = ofDigits figures := by
  have digits (c : Char) (mem : c ∈ (text.take limit).takeWhile isDigit) : isDigit c = true :=
    List.all_eq_true.mp List.all_takeWhile c mem
  have front : (text.take limit).takeWhile isDigit <+: text :=
    (List.takeWhile_prefix _).trans (List.take_prefix _ _)
  have short := (List.takeWhile_prefix isDigit (l := text.take limit)).length_le
  have most := List.length_take_le limit text
  simp only [readNumber] at read
  generalize (text.take limit).takeWhile isDigit = figures at read digits front short
  repeat' split at read
  all_goals cases read
  exact ⟨figures, digits, Nat.le_trans short most, (List.prefix_iff_eq_append.mp front).symm, rfl⟩

theorem within_of_readField {low high value : Nat} {text rest : List Char}
    (read : readField low high text = .ok (value, rest)) : low ≤ value ∧ value ≤ high := by
  obtain ⟨⟨number, after⟩, -, held⟩ := ok_of_bind read
  dsimp only at held
  split at held
  · rename_i within
    cases held
    exact within
  · cases held

theorem lt_of_readFraction {nano : Nat} {text rest : List Char}
    (read : readFraction text = .ok (nano, rest)) : nano < 1000000000 := by
  unfold readFraction at read
  split at read
  · obtain ⟨⟨value, after⟩, number, scaled⟩ := ok_of_bind read
    cases scaled
    obtain ⟨figures, digits, short, rfl, rfl⟩ := figures_of_readNumber number
    have places : (figures ++ after).length - after.length = figures.length := by
      rw [List.length_append, Nat.add_sub_cancel]
    have power : Nat.pow 10 figures.length * Nat.pow 10 (9 - figures.length) = 1000000000 :=
      calc
        _ = Nat.pow 10 (figures.length + (9 - figures.length)) := (Nat.pow_add ..).symm
        _ = Nat.pow 10 9 := by rw [Nat.add_sub_cancel' short]
    rw [places, ← power]
    exact Nat.mul_lt_mul_of_pos_right (ofDigits_lt digits) (Nat.pow_pos (by decide))
  · cases read
    decide

/-- What is read as a leap second ends a minute. -/
theorem leap_of_readTime {second nano : Nat} {text rest : List Char}
    (read : readTime text = .ok ((second, nano), rest)) (leap : 1000000000 ≤ nano) :
    second % 60 = 59 := by
  obtain ⟨⟨hour, afterHour⟩, -, read⟩ := ok_of_bind read
  obtain ⟨⟨_, beforeMinute⟩, -, read⟩ := ok_of_bind read
  obtain ⟨⟨minute, afterMinute⟩, -, read⟩ := ok_of_bind read
  obtain ⟨⟨_, beforeSecond⟩, -, read⟩ := ok_of_bind read
  obtain ⟨⟨ofMinute, afterSecond⟩, seconds, read⟩ := ok_of_bind read
  obtain ⟨⟨part, afterPart⟩, fraction, read⟩ := ok_of_bind read
  cases read
  have most := (within_of_readField seconds).2
  have below := lt_of_readFraction fraction
  have sixty : ofMinute = 60 := by omega
  omega

/-- Zones are ahead or behind by whole minutes. -/
theorem minutes_of_readZone {ahead : Int} {text rest : List Char}
    (read : readZone text = .ok (ahead, rest)) : ahead % 60 = 0 := by
  unfold readZone at read
  split at read
  · cases read
  · split at read
    · cases read
      rfl
    split at read
    · cases read
      rfl
    split at read
    · obtain ⟨⟨⟨tens, units⟩, afterHours⟩, -, read⟩ := ok_of_bind read
      obtain ⟨⟨⟨tenMinutes, minutes⟩, afterMinutes⟩, -, read⟩ := ok_of_bind read
      dsimp only at read
      split at read
      · cases read
      · cases read
        split <;> omega
    · cases read

end Stamp

namespace Instant

open Text

theorem ofLocal_date (t : Instant) : ofLocal t.date t.secondOfDay t.nano 0 = .ok t := by
  have inCalendar : t.date.inCalendar = true := by
    simp only [CivilDate.inCalendar, Bool.and_eq_true, decide_eq_true_eq]
    exact ⟨t.date_year_mem, t.date_valid⟩
  rw [ofLocal, inCalendar, if_neg (by decide), if_neg (by decide), Int.sub_zero, ofCivil?_date]

/-- A sign and six digits of the year are the longest that a date can add. -/
theorem length_chars_le (t : Instant) : t.chars.length ≤ 40 := by
  have years := t.date_year_mem
  have year : (Stamp.yearText t.date.year).length ≤ 7 := by
    rw [Stamp.yearText]
    split
    · rw [length_padded]
      decide
    · rw [List.length_cons, atLeast]
      split
      · rw [length_padded]
        decide
      · have short : t.date.year.natAbs < Nat.pow 10 (5 + 1) :=
          show t.date.year.natAbs < 1000000 by omega
        have := length_digits_le short
        omega
  have fraction (nano : Nat) : (Stamp.fractionText nano).length ≤ 10 := by
    rw [Stamp.fractionText]
    split
    · decide
    · split
      · rw [List.length_cons, length_padded]
        decide
      · split <;> simp only [List.length_cons, length_padded] <;> decide
  simp only [chars, Stamp.dateText, Stamp.timeText, List.length_append, List.length_cons,
    List.length_nil, length_padded]
  have := fraction (t.nano - (if 1000000000 ≤ t.nano then 1 else 0) * 1000000000)
  omega

theorem read_chars_of_endsMinute {t : Instant} (ends : t.EndsMinute) :
    Instant.read t.chars = .ok t := by
  have years := t.date_year_mem
  have within : Stamp.Holds t.date.year := ⟨by omega, by omega⟩
  have date := Stamp.readDate_dateText t.date_valid within
    ('T' :: (Stamp.timeText t.secondOfDay t.nano ++ ['Z']))
  have leap : 1000000000 ≤ t.nano → t.secondOfDay % 60 = 59 := by
    intro inside
    have := ends inside
    simp only [secondOfDay]
    omega
  have time := Stamp.readTime_timeText t.secondOfDay_lt t.nano_lt leap []
  have divider : Stamp.readDivider ('T' :: (Stamp.timeText t.secondOfDay t.nano ++ ['Z'])) =
      .ok ((), Stamp.timeText t.secondOfDay t.nano ++ ['Z']) := rfl
  have zone : Stamp.readZone (trimStart ['Z']) = .ok (0, []) := rfl
  simp only [Instant.read, Instant.chars, List.append_assoc, List.cons_append, bind_of_ok date,
    bind_of_ok divider, bind_of_ok time, bind_of_ok zone]
  exact ofLocal_date t

/-- A leap second inside a minute has the text of the instant as far into the next second. -/
theorem chars_asWritten (t : Instant) : t.asWritten.chars = t.chars := by
  by_cases ends : t.EndsMinute
  · rw [asWritten_of_endsMinute ends]
  · obtain ⟨second, nano⟩ := asWritten_of_not_endsMinute ends
    obtain ⟨leap, inside⟩ := Classical.not_imp.mp ends
    have day : t.asWritten.date = t.date := by
      rw [date, date, second]
      congr 1
      omega
    have ofDay : t.asWritten.secondOfDay = t.secondOfDay + 1 := by
      rw [secondOfDay, secondOfDay, second]
      omega
    have early : t.secondOfDay % 60 ≠ 59 := by
      rw [secondOfDay]
      omega
    rw [chars, chars, day, ofDay, nano, Stamp.timeText_succ leap t.nano_lt early]

/-- Reading a time stamp gives back the instant that it denotes. -/
theorem read_chars (t : Instant) : Instant.read t.chars = .ok t.asWritten := by
  rw [← chars_asWritten]
  exact read_chars_of_endsMinute t.endsMinute_asWritten

/-- No leap second inside a minute is ever read. -/
theorem endsMinute_of_read {text : List Char} {t : Instant} (read : Instant.read text = .ok t) :
    t.EndsMinute := by
  obtain ⟨⟨date, afterDate⟩, -, read⟩ := ok_of_bind read
  obtain ⟨⟨_, afterDivider⟩, -, read⟩ := ok_of_bind read
  obtain ⟨⟨⟨second, nano⟩, afterTime⟩, time, read⟩ := ok_of_bind read
  obtain ⟨⟨ahead, afterZone⟩, zone, read⟩ := ok_of_bind read
  have whole := Stamp.minutes_of_readZone zone
  dsimp only at read
  split at read
  · unfold ofLocal at read
    repeat' split at read
    all_goals cases read
    rename_i found
    unfold ofCivil? at found
    dsimp only at found
    split at found
    · cases found
      intro leap
      have ends := Stamp.leap_of_readTime time leap
      dsimp only
      omega
    · cases found
  · cases read

end Instant

end Datebook
