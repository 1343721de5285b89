import Datebook.Text.Hexadecimal
import Datebook.Text.Printable
import Datebook.Text.Combining

/-!
Quoted texts for diagnostics.

A text is written between double quotes. The quote and the backslash are escaped, as are tab, line
feed, carriage return and NUL; any other character that is not printable, or that would attach
itself to the character before it, is written by its code point in braces.
-/

set_option autoImplicit false

namespace Datebook.Text

/-- How one character is written inside a quoted text. -/
def escapeQuoted (c : Char) : List Char :=
  if c = '"' then ['\\', '"']
  else if c = '\\' then ['\\', '\\']
  else if c = '\n' then ['\\', 'n']
  else if c = '\r' then ['\\', 'r']
  else if c = '\t' then ['\\', 't']
  else if c.toNat = 0 then ['\\', '0']
  else if isPrintable c && !isCombining c then [c]
  else ['\\', 'u', '\x7b'] ++ hexDigits c.toNat ++ ['\x7d']

def quoted (text : String) : String :=
  String.ofList ('"' :: text.toList.flatMap escapeQuoted ++ ['"'])

/-- An optional value, in the form `Some(..)` or `None`. -/
def optional {α : Type} (write : α → String) : Option α → String
  | some value => "Some(" ++ write value ++ ")"
  | none => "None"

/-- A record, in the form of its name and its labelled fields between braces. -/
def record (name : String) (fields : List (String × String)) : String :=
  name ++ " \x7b " ++ String.intercalate ", " (fields.map fun field => field.1 ++ ": " ++ field.2)
    ++ " \x7d"

/-- What is written in place of a secret. -/
def redacted : String :=
  quoted "<redacted>"

end Datebook.Text
