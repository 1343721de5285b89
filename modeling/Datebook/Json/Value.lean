import Datebook.Text.Decimal
import Datebook.Text.Hexadecimal

/-!
JSON values and their compact text.

Numbers are kept as they are written. A text may hold escapes that denote no characters; such a text
is `none`, and only values without it are written as they were read.
-/

set_option autoImplicit false

namespace Datebook

inductive Json where
  | null
  | bool (value : Bool)
  /-- A number as it is written. -/
  | number (token : List Char)
  | string (text : Option (List Char))
  | array (items : List Json)
  | object (fields : List (Option (List Char) × Json))
  deriving Repr

namespace Json

def ofString (text : String) : Json :=
  .string (some text.toList)

def ofNat (n : Nat) : Json :=
  .number (Text.digits n)

def ofOption {α : Type} (encode : α → Json) : Option α → Json
  | some value => encode value
  | none => .null

/-- An object of named values. -/
def record (fields : List (String × Json)) : Json :=
  .object (fields.map fun field => (some field.1.toList, field.2))

/-- How one character is written inside a text. -/
def escape (c : Char) : List Char :=
  if c = '"' then ['\\', '"']
  else if c = '\\' then ['\\', '\\']
  else if c = '\x08' then ['\\', 'b']
  else if c = '\t' then ['\\', 't']
  else if c = '\n' then ['\\', 'n']
  else if c = '\x0c' then ['\\', 'f']
  else if c = '\r' then ['\\', 'r']
  else if c.toNat < 32 then ['\\', 'u'] ++ Text.hexPadded 4 c.toNat
  else [c]

def quote (text : List Char) : List Char :=
  '"' :: text.flatMap escape ++ ['"']

mutual

/-- The compact text of a value. -/
def chars : Json → List Char
  | .null => ['n', 'u', 'l', 'l']
  | .bool true => ['t', 'r', 'u', 'e']
  | .bool false => ['f', 'a', 'l', 's', 'e']
  | .number token => token
  | .string text => quote (text.getD [])
  | .array [] => ['[', ']']
  | .array (item :: items) => '[' :: item.chars ++ itemChars items
  | .object [] => ['\x7b', '\x7d']
  | .object ((name, value) :: fields) =>
    '\x7b' :: quote (name.getD []) ++ ':' :: value.chars ++ fieldChars fields

/-- The items after the first one and the end of the array. -/
def itemChars : List Json → List Char
  | [] => [']']
  | item :: items => ',' :: item.chars ++ itemChars items

/-- The fields after the first one and the end of the object. -/
def fieldChars : List (Option (List Char) × Json) → List Char
  | [] => ['\x7d']
  | (name, value) :: fields =>
    ',' :: quote (name.getD []) ++ ':' :: value.chars ++ fieldChars fields

end

def text (value : Json) : String :=
  String.ofList value.chars

end Json

end Datebook
