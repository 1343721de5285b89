import Datebook.Json.Value

/-!
Reading JSON.

`Json.read?` takes one value with blanks around it. Numbers follow the strict syntax, without
leading zeros or a leading point. Control characters stand in a text only as escapes. A pair of
escapes that denotes the two halves of one character is that character; a half on its own denotes
none.
-/

set_option autoImplicit false

namespace Datebook.Json

/-- Blank, line feed, carriage return and tab. -/
def isBlank (c : Char) : Bool :=
  c = ' ' || c = '\n' || c = '\r' || c = '\t'

def skipBlanks (text : List Char) : List Char :=
  text.dropWhile isBlank

/-- What a text is made of: characters, and 16-bit units from escapes. -/
inductive Piece where
  | char (c : Char)
  | unit (value : Nat)
  deriving DecidableEq, Repr

def isHighHalf (unit : Nat) : Bool :=
  0xd800 ≤ unit && unit < 0xdc00

def isLowHalf (unit : Nat) : Bool :=
  0xdc00 ≤ unit && unit < 0xe000

/-- The character of a high and a low half. -/
def joinHalves (high low : Nat) : Char :=
  Char.ofNat (0x10000 + (high - 0xd800) * 0x400 + (low - 0xdc00))

/-- The characters of pieces, unless a half stands on its own. -/
def join? : List Piece → Option (List Char)
  | [] => some []
  | .char c :: rest => (join? rest).map (c :: ·)
  | .unit high :: .unit low :: rest =>
    if isHighHalf high then
      if isLowHalf low then (join? rest).map (joinHalves high low :: ·) else none
    else if isLowHalf high then none
    else (join? (.unit low :: rest)).map (Char.ofNat high :: ·)
  | .unit value :: rest =>
    if isHighHalf value || isLowHalf value then none
    else (join? rest).map (Char.ofNat value :: ·)

/-- The character of an escape other than that of a unit. -/
def unescape? (c : Char) : Option Char :=
  if c = '"' ∨ c = '\\' ∨ c = '/' then some c
  else if c = 'b' then some '\x08'
  else if c = 'f' then some '\x0c'
  else if c = 'n' then some '\n'
  else if c = 'r' then some '\r'
  else if c = 't' then some '\t'
  else none

/-- The pieces of a text up to its closing quote, and what follows it. -/
def readPieces? : List Char → Option (List Piece × List Char)
  | [] => none
  | '"' :: rest => some ([], rest)
  | '\\' :: 'u' :: a :: b :: c :: d :: rest => do
    let value ← Text.ofHexDigits? [a, b, c, d]
    let (pieces, rest) ← readPieces? rest
    some (.unit value :: pieces, rest)
  | '\\' :: c :: rest => do
    let found ← unescape? c
    let (pieces, rest) ← readPieces? rest
    some (.char found :: pieces, rest)
  | c :: rest =>
    if c = '\\' ∨ c.toNat < 32 then none
    else do
      let (pieces, rest) ← readPieces? rest
      some (.char c :: pieces, rest)

/-- A text after its opening quote, and what follows it. -/
def readText? (text : List Char) : Option (Option (List Char) × List Char) := do
  let (pieces, rest) ← readPieces? text
  some (join? pieces, rest)

/-- One or more digits and what follows them. -/
def readDigits? (text : List Char) : Option (List Char × List Char) :=
  let figures := text.takeWhile Text.isDigit
  if figures = [] then none else some (figures, text.dropWhile Text.isDigit)

/-- The digits before the point, a leading zero only on its own. -/
def readWhole? : List Char → Option (List Char × List Char)
  | '0' :: rest => some (['0'], rest)
  | text => readDigits? text

/-- The point and the digits after it, if there is a point. -/
def readFraction? : List Char → Option (List Char × List Char)
  | '.' :: rest => do
    let (figures, rest) ← readDigits? rest
    some ('.' :: figures, rest)
  | text => some ([], text)

/-- The exponent, if there is one. -/
def readExponent? : List Char → Option (List Char × List Char)
  | mark :: rest =>
    if mark = 'e' ∨ mark = 'E' then
      match rest with
      | sign :: rest =>
        if sign = '+' ∨ sign = '-' then do
          let (figures, rest) ← readDigits? rest
          some (mark :: sign :: figures, rest)
        else do
          let (figures, rest) ← readDigits? (sign :: rest)
          some (mark :: figures, rest)
      | [] => none
    else some ([], mark :: rest)
  | [] => some ([], [])

/-- The sign of a number, if there is one. -/
def readSign : List Char → List Char × List Char
  | '-' :: rest => (['-'], rest)
  | text => ([], text)

/-- A number as it is written, and what follows it. -/
def readNumber? (text : List Char) : Option (List Char × List Char) := do
  let (sign, text) := readSign text
  let (whole, text) ← readWhole? text
  let (fraction, text) ← readFraction? text
  let (exponent, text) ← readExponent? text
  some (sign ++ whole ++ fraction ++ exponent, text)

mutual

/-- A value after blanks, and what follows it. Each value, item and field takes one unit of fuel. -/
def readValue? : Nat → List Char → Option (Json × List Char)
  | 0, _ => none
  | fuel + 1, text =>
    match skipBlanks text with
    | 'n' :: 'u' :: 'l' :: 'l' :: rest => some (.null, rest)
    | 't' :: 'r' :: 'u' :: 'e' :: rest => some (.bool true, rest)
    | 'f' :: 'a' :: 'l' :: 's' :: 'e' :: rest => some (.bool false, rest)
    | '"' :: rest => do
      let (text, rest) ← readText? rest
      some (.string text, rest)
    | '[' :: rest =>
      match skipBlanks rest with
      | ']' :: rest => some (.array [], rest)
      | rest => do
        let (items, rest) ← readItems? fuel rest
        some (.array items, rest)
    | '\x7b' :: rest =>
      match skipBlanks rest with
      | '\x7d' :: rest => some (.object [], rest)
      | rest => do
        let (fields, rest) ← readFields? fuel rest
        some (.object fields, rest)
    | text => do
      let (token, rest) ← readNumber? text
      some (.number token, rest)

/-- The items of an array up to its end. -/
def readItems? : Nat → List Char → Option (List Json × List Char)
  | 0, _ => none
  | fuel + 1, text => do
    let (item, rest) ← readValue? fuel text
    match skipBlanks rest with
    | ']' :: rest => some ([item], rest)
    | ',' :: rest => do
      let (items, rest) ← readItems? fuel rest
      some (item :: items, rest)
    | _ => none

/-- The fields of an object up to its end. -/
def readFields? : Nat → List Char → Option (List (Option (List Char) × Json) × List Char)
  | 0, _ => none
  | fuel + 1, text =>
    match skipBlanks text with
    | '"' :: rest => do
      let (name, rest) ← readText? rest
      match skipBlanks rest with
      | ':' :: rest => do
        let (value, rest) ← readValue? fuel rest
        match skipBlanks rest with
        | '\x7d' :: rest => some ([(name, value)], rest)
        | ',' :: rest => do
          let (fields, rest) ← readFields? fuel rest
          some ((name, value) :: fields, rest)
        | _ => none
      | _ => none
    | _ => none

end

/-- The one value that a text holds. -/
def read? (text : List Char) : Option Json := do
  let (value, rest) ← readValue? (2 * text.length + 2) text
  if skipBlanks rest = [] then some value else none

end Datebook.Json
