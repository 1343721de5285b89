/-!
Decimal numerals.

`digits` writes a natural number without leading zeros, `padded` writes its last digits in a field
of fixed width, and `ofDigits` reads a numeral back. Main statements: `ofDigits_digits` and
`ofDigits_padded`.
-/

set_option autoImplicit false

namespace Datebook.Text

/-- The ten ASCII digits, and no digit of another script. -/
def isDigit (c : Char) : Bool :=
  '0' ≤ c && c ≤ '9'

/-- The character of a digit below ten. -/
def digitChar (d : Nat) : Char :=
  Char.ofNat (48 + d % 10)

def digitValue (c : Char) : Nat :=
  c.toNat - 48

/-- The decimal numeral of a number, without leading zeros. -/
def digits (n : Nat) : List Char :=
  if n < 10 then [digitChar n] else digits (n / 10) ++ [digitChar n]

/-- The last `width` digits of a number, with leading zeros. -/
def padded : Nat → Nat → List Char
  | 0, _ => []
  | width + 1, n => padded width (n / 10) ++ [digitChar n]

/-- A numeral without leading zeros, padded to at least `width` digits. -/
def atLeast (width n : Nat) : List Char :=
  if n < Nat.pow 10 width then padded width n else digits n

/-- The number that a sequence of digits denotes. -/
def ofDigits (text : List Char) : Nat :=
  text.foldl (fun total c => total * 10 + digitValue c) 0

theorem digitChar_mod (n : Nat) : digitChar (n % 10) = digitChar n := by
  simp [digitChar]

theorem digitValue_digitChar (n : Nat) : digitValue (digitChar n) = n % 10 := by
  have bound : n % 10 < 10 := Nat.mod_lt _ (by decide)
  have all : ∀ d, d < 10 → digitValue (digitChar d) = d := by decide
  rw [← digitChar_mod, all _ bound]

theorem isDigit_digitChar (n : Nat) : isDigit (digitChar n) = true := by
  have bound : n % 10 < 10 := Nat.mod_lt _ (by decide)
  have all : ∀ d, d < 10 → isDigit (digitChar d) = true := by decide
  rw [← digitChar_mod, all _ bound]

theorem ofDigits_append_singleton (text : List Char) (c : Char) :
    ofDigits (text ++ [c]) = ofDigits text * 10 + digitValue c := by
  simp [ofDigits]

theorem ofDigits_digits (n : Nat) : ofDigits (digits n) = n := by
  induction n using digits.induct with
  | case1 n small =>
    rw [digits, if_pos small]
    have value := digitValue_digitChar n
    simp only [ofDigits, List.foldl_cons, List.foldl_nil, value]
    omega
  | case2 n large ih =>
    rw [digits, if_neg large, ofDigits_append_singleton, ih, digitValue_digitChar]
    omega

theorem length_padded (width n : Nat) : (padded width n).length = width := by
  induction width generalizing n with
  | zero => rfl
  | succ width ih => simp [padded, ih]

theorem ofDigits_padded (width n : Nat) :
    ofDigits (padded width n) = n % Nat.pow 10 width := by
  induction width generalizing n with
  | zero => simp [padded, ofDigits, Nat.mod_one]
  | succ width ih =>
    have power : Nat.pow 10 (width + 1) = 10 * Nat.pow 10 width := Nat.mul_comm _ 10
    rw [padded, ofDigits_append_singleton, ih, digitValue_digitChar, power, Nat.mod_mul]
    omega

end Datebook.Text
