/-!
Hexadecimal digits.

`hexDigits` writes a code point without leading zeros and `hexByte` writes one octet with two
digits; both use lower-case letters. `hexValue?` reads a digit of either case.
-/

set_option autoImplicit false

namespace Datebook.Text

/-- The lower-case character of a hexadecimal digit. -/
def hexChar (d : Nat) : Char :=
  if d % 16 < 10 then Char.ofNat (48 + d % 16) else Char.ofNat (87 + d % 16)

/-- The value of a hexadecimal digit of either case. -/
def hexValue? (c : Char) : Option Nat :=
  if '0' ≤ c ∧ c ≤ '9' then some (c.toNat - 48)
  else if 'a' ≤ c ∧ c ≤ 'f' then some (c.toNat - 87)
  else if 'A' ≤ c ∧ c ≤ 'F' then some (c.toNat - 55)
  else none

/-- The hexadecimal numeral of a number, without leading zeros. -/
def hexDigits (n : Nat) : List Char :=
  if n < 16 then [hexChar n] else hexDigits (n / 16) ++ [hexChar n]

/-- The last `width` hexadecimal digits of a number, with leading zeros. -/
def hexPadded : Nat → Nat → List Char
  | 0, _ => []
  | width + 1, n => hexPadded width (n / 16) ++ [hexChar n]

/-- The number that hexadecimal digits denote, unless one of them is no digit. -/
def ofHexDigits? (text : List Char) : Option Nat :=
  text.foldlM (fun total c => (hexValue? c).map (total * 16 + ·)) 0

theorem hexValue?_hexChar (d : Nat) : hexValue? (hexChar d) = some (d % 16) := by
  have bound : d % 16 < 16 := Nat.mod_lt _ (by decide)
  have same : hexChar d = hexChar (d % 16) := by simp [hexChar]
  have all : ∀ k, k < 16 → hexValue? (hexChar k) = some k := by decide
  rw [same, all _ bound]

theorem length_hexPadded (width n : Nat) : (hexPadded width n).length = width := by
  induction width generalizing n with
  | zero => rfl
  | succ width ih => simp [hexPadded, ih]

theorem hexValue?_of_mem_hexPadded {width n : Nat} {c : Char} (member : c ∈ hexPadded width n) :
    ∃ d, hexValue? c = some d := by
  induction width generalizing n with
  | zero => cases member
  | succ width ih =>
    rcases List.mem_append.mp member with front | back
    · exact ih front
    · rw [List.mem_singleton.mp back]
      exact ⟨n % 16, hexValue?_hexChar n⟩

theorem ofHexDigits?_hexPadded (width n : Nat) :
    ofHexDigits? (hexPadded width n) = some (n % Nat.pow 16 width) := by
  induction width generalizing n with
  | zero => simp [hexPadded, ofHexDigits?, Nat.mod_one]
  | succ width ih =>
    have inner := ih (n / 16)
    simp only [ofHexDigits?] at inner
    simp only [hexPadded, ofHexDigits?, List.foldlM_append, inner, List.foldlM_cons,
      List.foldlM_nil, hexValue?_hexChar]
    have power : Nat.pow 16 (width + 1) = 16 * Nat.pow 16 width := Nat.mul_comm _ 16
    simp only [power, Nat.mod_mul]
    simp
    omega

end Datebook.Text
