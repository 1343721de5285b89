import Datebook.Text.Blank
import Datebook.Text.Hexadecimal

/-!
Integers in front of texts.

`leadingInteger?` reads the integer that a text begins with, after blanks and a sign. A leading zero
makes it octal; with an `x` or a `b` after the zero, and a digit after that, it is hexadecimal or
binary. Whatever follows the last digit is left alone.
-/

set_option autoImplicit false

namespace Datebook.Text

/-- The value of a digit in a radix of at most sixteen. -/
def digitIn? (radix : Nat) (c : Char) : Option Nat :=
  (hexValue? c).filter (· < radix)

/-- The number that the digits in front of a text denote, unless it begins with none. -/
def leadingDigits? (radix : Nat) (text : List Char) : Option Nat :=
  match (text.map (digitIn? radix)).takeWhile (·.isSome) with
  | [] => none
  | values => some (values.foldl (fun total value => total * radix + value.getD 0) 0)

/-- The number that a text begins with, in the radix that it chooses itself. -/
def leadingMagnitude? : List Char → Option Nat
  | '0' :: mark :: rest =>
    if mark = 'x' ∨ mark = 'X' then some ((leadingDigits? 16 rest).getD 0)
    else if mark = 'b' ∨ mark = 'B' then some ((leadingDigits? 2 rest).getD 0)
    else leadingDigits? 8 ('0' :: mark :: rest)
  | text => leadingDigits? 10 text

def leadingInteger? (text : List Char) : Option Int :=
  match text.dropWhile isAsciiBlank with
  | '-' :: rest => (leadingMagnitude? rest).map fun n => -(n : Int)
  | '+' :: rest => (leadingMagnitude? rest).map fun n => (n : Int)
  | rest => (leadingMagnitude? rest).map fun n => (n : Int)

end Datebook.Text
