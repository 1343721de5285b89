import Datebook.Text.Decimal

/-!
Unsigned numerals as callers write them: an optional plus sign, then digits, within a limit.
-/

set_option autoImplicit false

namespace Datebook.Text

/-- Why a text is no unsigned numeral within its limit. -/
inductive NumeralError where
  | empty
  | invalidDigit
  | tooLarge
  deriving DecidableEq, Repr

def NumeralError.message : NumeralError → String
  | .empty => "cannot parse integer from empty string"
  | .invalidDigit => "invalid digit found in string"
  | .tooLarge => "number too large to fit in target type"

/-- Appends digits to a number below a limit; the first thing wrong from the left is reported. -/
def appendDigits (limit : Nat) : Nat → List Char → Except NumeralError Nat
  | total, [] => .ok total
  | total, c :: rest =>
    if !isDigit c then .error .invalidDigit
    else if limit ≤ total * 10 + digitValue c then .error .tooLarge
    else appendDigits limit (total * 10 + digitValue c) rest

/-- The number below a limit that a numeral denotes. -/
def readUnsigned (limit : Nat) (text : List Char) : Except NumeralError Nat :=
  match text with
  | [] => .error .empty
  | '+' :: [] => .error .invalidDigit
  | '+' :: figures => appendDigits limit 0 figures
  | figures => appendDigits limit 0 figures

end Datebook.Text
