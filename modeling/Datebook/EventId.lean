import Datebook.Text.Hexadecimal
import Datebook.Text.Utf8

/-!
Event identifiers.

An identifier is a 128-bit number, written as 32 hexadecimal digits in groups of 8, 4, 4, 4 and 12.
`EventId.read?` also takes the digits without hyphens, the hyphenated form in braces, and the
hyphenated form after `urn:uuid:`, digits and scheme in either case. An identifier is read back as
it is written, `read?_chars`, so that no two are written the same: `text_injective`.
-/

set_option autoImplicit false

namespace Datebook

structure EventId where
  value : BitVec 128
  deriving DecidableEq, Repr

namespace EventId

def ofNat (n : Nat) : EventId :=
  ⟨BitVec.ofNat 128 n⟩

/-- The 32 digits of an identifier, without hyphens. -/
def simpleChars (id : EventId) : List Char :=
  Text.hexPadded 32 id.value.toNat

/-- Puts hyphens between the groups of 8, 4, 4, 4 and 12 digits. -/
def hyphenate (text : List Char) : List Char :=
  text.take 8 ++ '-' :: (text.drop 8).take 4 ++ '-' :: (text.drop 12).take 4
    ++ '-' :: (text.drop 16).take 4 ++ '-' :: text.drop 20

def chars (id : EventId) : List Char :=
  hyphenate id.simpleChars

/-- The written form of an identifier. -/
def text (id : EventId) : String :=
  String.ofList id.chars

/-- Without its hyphens a text is what it was. -/
theorem filter_hyphenate {text : List Char} (plain : '-' ∉ text) :
    (hyphenate text).filter (· ≠ '-') = text := by
  have kept {part : List Char} (among : part.Sublist text) :
      part.filter (· ≠ '-') = part := by
    rw [List.filter_eq_self]
    intro c member
    exact decide_eq_true fun same => plain (same ▸ among.mem member)
  have group (start width : Nat) :
      ((text.drop start).take width).filter (· ≠ '-') = (text.drop start).take width :=
    kept ((List.take_sublist _ _).trans (List.drop_sublist _ _))
  have joined (start width : Nat) :
      (text.drop start).take width ++ text.drop (start + width) = text.drop start := by
    rw [← List.drop_drop, List.take_append_drop]
  simp only [hyphenate, List.filter_append, List.filter_cons, kept (List.take_sublist _ _), group,
    kept (List.drop_sublist _ _), ne_eq, not_true_eq_false, decide_false, Bool.false_eq_true,
    ↓reduceIte, List.append_assoc, joined 16 4, joined 12 4, joined 8 4, List.cons_append]
  exact List.take_append_drop 8 text

/-- The sixteen octets of an identifier, the most significant first. -/
def bytes (id : EventId) : Bytes :=
  (List.range 16).map fun i => UInt8.ofNat (id.value.toNat / Nat.pow 256 (15 - i))

/-- The identifier of sixteen octets, unless there are more or fewer. -/
def ofBytes? (bytes : Bytes) : Option EventId :=
  if bytes.length = 16 then
    some (ofNat (bytes.foldl (fun total b => total * 256 + b.toNat) 0))
  else none

def readSimple? (text : List Char) : Option EventId :=
  if text.length = 32 then (Text.ofHexDigits? text).map ofNat else none

def readHyphenated? (text : List Char) : Option EventId :=
  let figures := text.filter (· ≠ '-')
  if hyphenate figures = text then readSimple? figures else none

/-- Reads any of the four written forms. -/
def read? (text : List Char) : Option EventId :=
  if text.length = 32 then readSimple? text
  else if text.length = 36 then readHyphenated? text
  else if text.length = 38 ∧ text.head? = some '\x7b' ∧ text.getLast? = some '\x7d' then
    readHyphenated? (text.drop 1).dropLast
  else if text.length = 45 ∧ (text.take 9).map Char.toLower = "urn:uuid:".toList then
    readHyphenated? (text.drop 9)
  else none

theorem filter_chars (id : EventId) : id.chars.filter (· ≠ '-') = id.simpleChars := by
  refine filter_hyphenate fun member => ?_
  obtain ⟨d, value⟩ := Text.hexValue?_of_mem_hexPadded member
  cases value

theorem length_simpleChars (id : EventId) : id.simpleChars.length = 32 :=
  Text.length_hexPadded 32 _

theorem readSimple?_simpleChars (id : EventId) : readSimple? id.simpleChars = some id := by
  have whole : id.value.toNat % Nat.pow 16 32 = id.value.toNat := Nat.mod_eq_of_lt id.value.isLt
  rw [readSimple?, if_pos id.length_simpleChars, simpleChars, Text.ofHexDigits?_hexPadded,
    whole, Option.map_some, ofNat, BitVec.ofNat_toNat, BitVec.setWidth_eq]

/-- The written form of an identifier is read back. -/
theorem read?_chars (id : EventId) : read? id.chars = some id := by
  have length : id.chars.length = 36 := by
    simp only [chars, hyphenate, List.length_append, List.length_cons, List.length_take,
      List.length_drop, length_simpleChars]
    decide
  have hyphenated : hyphenate id.simpleChars = id.chars := rfl
  rw [read?, if_neg (by omega), if_pos length, readHyphenated?, filter_chars, if_pos hyphenated,
    readSimple?_simpleChars]

/-- Identifiers that are written the same are the same. -/
theorem text_injective {a b : EventId} (same : a.text = b.text) : a = b := by
  have read := a.read?_chars
  rw [String.ofList_inj.mp same, read?_chars] at read
  exact (Option.some.inj read).symm

end EventId

end Datebook
