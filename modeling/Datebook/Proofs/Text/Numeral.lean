import Datebook.Text.Blank
import Datebook.Text.Numeral

/-!
Numerals between blanks.

What trimming leaves is the word of a text, and a word is read as a number exactly when it is an
optional plus sign and digits whose number stays below the limit. A word that is not says where it
goes wrong: at the first character that is no digit or that makes the number too large. Main
statements: `trim_eq_iff`, `readUnsigned_eq_iff` and `denotes_iff`.
-/

set_option autoImplicit false

namespace Datebook.Text

/-- A text is a word with blanks around it, and the word neither begins nor ends with one. -/
structure IsWord (raw word : List Char) : Prop where
  framed : ∃ before after, raw = before ++ (word ++ after) ∧
    (∀ c ∈ before, isBlank c = true) ∧ ∀ c ∈ after, isBlank c = true
  first : ∀ c ∈ word.head?, isBlank c = false
  last : ∀ c ∈ word.getLast?, isBlank c = false

theorem trimStart_append {before : List Char} (blank : ∀ c ∈ before, isBlank c = true)
    (rest : List Char) : trimStart (before ++ rest) = trimStart rest := by
  rw [trimStart, trimStart, List.dropWhile_append_of_pos blank]

theorem trimStart_of_head {text : List Char} (solid : ∀ c ∈ text.head?, isBlank c = false) :
    trimStart text = text := by
  cases text with
  | nil => rfl
  | cons c rest => exact trimStart_cons_of_not_isBlank c rest (solid c rfl)

theorem trimStart_split (text : List Char) :
    ∃ before, text = before ++ trimStart text ∧ (∀ c ∈ before, isBlank c = true) ∧
      ∀ c ∈ (trimStart text).head?, isBlank c = false := by
  refine ⟨text.takeWhile isBlank, List.takeWhile_append_dropWhile.symm, ?_, ?_⟩
  · exact List.all_eq_true.mp List.all_takeWhile
  · intro c first
    have stops := List.head?_dropWhile_not isBlank text
    rw [trimStart] at first
    rw [Option.mem_def.mp first] at stops
    simpa using stops

/-- Trimming at the end is trimming at the beginning, read backwards. -/
theorem trimEnd_eq (text : List Char) : trimEnd text = (trimStart text.reverse).reverse := rfl

theorem trim_isWord (raw : List Char) : IsWord raw (trim raw) := by
  obtain ⟨before, split, blankBefore, first⟩ := trimStart_split raw
  obtain ⟨after, splitToo, blankAfter, last⟩ := trimStart_split (trimStart raw).reverse
  have whole : trimStart raw = trim raw ++ after.reverse := by
    rw [trim, trimEnd_eq, ← List.reverse_append, ← splitToo, List.reverse_reverse]
  refine ⟨⟨before, after.reverse, ?_, blankBefore, ?_⟩, ?_, ?_⟩
  · rw [← whole]
    exact split
  · exact fun c member => blankAfter c (List.mem_reverse.mp member)
  · intro c head
    apply first c
    rw [whole, List.head?_append, Option.mem_def.mp head]
    rfl
  · rw [trim, trimEnd_eq, List.getLast?_reverse]
    exact last

theorem IsWord.eq_trim {raw word : List Char} (isWord : IsWord raw word) : trim raw = word := by
  obtain ⟨⟨before, after, rfl, blankBefore, blankAfter⟩, first, last⟩ := isWord
  cases word with
  | nil =>
    have blank : ∀ c ∈ before ++ after, isBlank c = true := by
      intro c member
      exact (List.mem_append.mp member).elim (blankBefore c) (blankAfter c)
    have gone : trimStart (before ++ after ++ []) = trimStart [] := trimStart_append blank []
    rw [trim, List.nil_append, ← List.append_nil (before ++ after), gone]
    rfl
  | cons c rest =>
    have begins : trimStart (c :: rest ++ after) = c :: rest ++ after :=
      trimStart_cons_of_not_isBlank c (rest ++ after) (first c rfl)
    have blank : ∀ c ∈ after.reverse, isBlank c = true :=
      fun c member => blankAfter c (List.mem_reverse.mp member)
    rw [trim, trimStart_append blankBefore, begins, trimEnd_eq, List.reverse_append,
      trimStart_append blank, trimStart_of_head, List.reverse_reverse]
    rw [List.head?_reverse]
    exact last

/-- What is left between the blanks around a text is its word. -/
theorem trim_eq_iff (raw word : List Char) : trim raw = word ↔ IsWord raw word := by
  constructor
  · rintro rfl
    exact trim_isWord raw
  · exact IsWord.eq_trim

/-- How figures are read below a limit. -/
inductive FiguresRead (limit : Nat) : List Char → Except NumeralError Nat → Prop
  | number {figures : List Char} (digits : ∀ c ∈ figures, isDigit c = true)
      (below : ofDigits figures < limit) : FiguresRead limit figures (.ok (ofDigits figures))
  /-- The first character that is no digit comes before the number is too large. -/
  | stray {front : List Char} {c : Char} (rest : List Char)
      (digits : ∀ d ∈ front, isDigit d = true) (below : ofDigits front < limit)
      (stray : isDigit c = false) : FiguresRead limit (front ++ c :: rest) (.error .invalidDigit)
  /-- The first digit that makes the number too large comes before any other character. -/
  | large {front : List Char} {c : Char} (rest : List Char)
      (digits : ∀ d ∈ front, isDigit d = true) (below : ofDigits front < limit)
      (digit : isDigit c = true) (large : limit ≤ ofDigits (front ++ [c])) :
      FiguresRead limit (front ++ c :: rest) (.error .tooLarge)

/-- How a word is read below a limit. -/
inductive WordRead (limit : Nat) : List Char → Except NumeralError Nat → Prop
  | empty : WordRead limit [] (.error .empty)
  | bareSign : WordRead limit ['+'] (.error .invalidDigit)
  | signed {figures : List Char} {outcome : Except NumeralError Nat} (nonempty : figures ≠ [])
      (read : FiguresRead limit figures outcome) : WordRead limit ('+' :: figures) outcome
  | plain {figures : List Char} {outcome : Except NumeralError Nat} (nonempty : figures ≠ [])
      (unsigned : figures.head? ≠ some '+') (read : FiguresRead limit figures outcome) :
      WordRead limit figures outcome

/-- The numeral of a number below a limit: an optional plus sign, then digits. -/
def Denotes (limit : Nat) (word : List Char) (value : Nat) : Prop :=
  ∃ figures, (word = figures ∨ word = '+' :: figures) ∧ figures ≠ [] ∧
    (∀ c ∈ figures, isDigit c = true) ∧ ofDigits figures = value ∧ value < limit

theorem ofDigits_le_append (front rest : List Char) :
    ofDigits front ≤ ofDigits (front ++ rest) := by
  induction rest generalizing front with
  | nil => exact Nat.le_of_eq (by rw [List.append_nil])
  | cons c rest ih =>
    have more := ih (front ++ [c])
    rw [ofDigits_append_singleton, List.append_assoc, List.singleton_append] at more
    omega

/-- Digits that do not make the number too large are appended, and reading goes on after them. -/
theorem appendDigits_digits {limit : Nat} (done : List Char) {front : List Char}
    (digits : ∀ c ∈ front, isDigit c = true) (below : ofDigits (done ++ front) < limit)
    (rest : List Char) :
    appendDigits limit (ofDigits done) (front ++ rest) =
      appendDigits limit (ofDigits (done ++ front)) rest := by
  induction front generalizing done with
  | nil => rw [List.nil_append, List.append_nil]
  | cons c front ih =>
    have split : done ++ c :: front = (done ++ [c]) ++ front := by simp
    rw [split] at below ⊢
    have small := Nat.lt_of_le_of_lt (ofDigits_le_append (done ++ [c]) front) below
    have digit := digits c List.mem_cons_self
    rw [← ih (done ++ [c]) (fun d member => digits d (List.mem_cons_of_mem c member)) below,
      ofDigits_append_singleton]
    rw [ofDigits_append_singleton] at small
    rw [List.cons_append, appendDigits, digit, if_neg (by simp), if_neg (by omega)]

/-- Reading goes on from digits whose number is below the limit. -/
theorem appendDigits_read {limit : Nat} (done : List Char)
    (digits : ∀ c ∈ done, isDigit c = true) (below : ofDigits done < limit) (rest : List Char) :
    FiguresRead limit (done ++ rest) (appendDigits limit (ofDigits done) rest) := by
  induction rest generalizing done with
  | nil =>
    rw [List.append_nil]
    exact .number digits below
  | cons c rest ih =>
    rw [appendDigits]
    split
    · rename_i stray
      exact .stray rest digits below (by simpa using stray)
    · rename_i digit
      have digit : isDigit c = true := by simpa using digit
      rw [← ofDigits_append_singleton]
      split
      · rename_i large
        exact .large rest digits below digit large
      · rename_i small
        have extended : ∀ d ∈ done ++ [c], isDigit d = true := by
          intro d member
          rcases List.mem_append.mp member with front | last
          · exact digits d front
          · rwa [List.mem_singleton.mp last]
        have read := ih (done ++ [c]) extended (Nat.lt_of_not_le small)
        rwa [List.append_assoc, List.singleton_append] at read

theorem FiguresRead.eq_appendDigits {limit : Nat} {figures : List Char}
    {outcome : Except NumeralError Nat} (read : FiguresRead limit figures outcome) :
    appendDigits limit 0 figures = outcome := by
  cases read with
  | number digits below =>
    have reads := appendDigits_digits [] digits below []
    rwa [List.append_nil] at reads
  | stray rest digits below stray =>
    refine (appendDigits_digits [] digits below _).trans ?_
    rw [appendDigits, stray, if_pos (by simp)]
  | large rest digits below digit large =>
    refine (appendDigits_digits [] digits below _).trans ?_
    rw [ofDigits_append_singleton] at large
    rw [List.nil_append, appendDigits, digit, if_neg (by simp), if_pos large]

theorem WordRead.eq_readUnsigned {limit : Nat} {word : List Char}
    {outcome : Except NumeralError Nat} (read : WordRead limit word outcome) :
    readUnsigned limit word = outcome := by
  cases read with
  | empty => rfl
  | bareSign => rfl
  | signed nonempty read =>
    rw [readUnsigned]
    · exact read.eq_appendDigits
    · exact nonempty
  | plain nonempty unsigned read =>
    rw [readUnsigned]
    · exact read.eq_appendDigits
    · exact nonempty
    · rintro rfl
      exact unsigned rfl
    · rintro figures rfl
      exact unsigned rfl

/-- A word is read below a limit in one way, and in no other. -/
theorem readUnsigned_eq_iff {limit : Nat} (positive : 0 < limit) (word : List Char)
    (outcome : Except NumeralError Nat) :
    readUnsigned limit word = outcome ↔ WordRead limit word outcome := by
  refine ⟨?_, WordRead.eq_readUnsigned⟩
  have figures_read (figures : List Char) :
      FiguresRead limit figures (appendDigits limit 0 figures) :=
    appendDigits_read [] (fun _ member => nomatch member) positive figures
  rintro rfl
  unfold readUnsigned
  split
  · exact .empty
  · exact .bareSign
  · rename_i figures bare
    exact .signed bare (figures_read figures)
  · rename_i empty bare signed
    refine .plain empty ?_ (figures_read word)
    intro head
    obtain ⟨figures, rfl⟩ := List.head?_eq_some_iff.mp head
    exact signed figures rfl

/-- What is read as a number is a numeral of it. -/
theorem denotes_iff {limit : Nat} {word : List Char} {value : Nat} :
    Denotes limit word value ↔ WordRead limit word (.ok value) := by
  constructor
  · rintro ⟨figures, rfl | rfl, nonempty, digits, rfl, below⟩
    · refine .plain nonempty ?_ (.number digits below)
      intro head
      exact absurd (digits '+' (List.mem_of_head? head)) (by decide)
    · exact .signed nonempty (.number digits below)
  · intro read
    cases read with
    | @signed figures _ nonempty read =>
      cases read with
      | number digits below => exact ⟨figures, .inr rfl, nonempty, digits, rfl, below⟩
    | plain nonempty _ read =>
      cases read with
      | number digits below => exact ⟨word, .inl rfl, nonempty, digits, rfl, below⟩

end Datebook.Text
