import Datebook.Time.Stamp
import Datebook.Text.Blank

/-!
Reading time stamps.

`Instant.read` accepts the written form and its relaxed relatives: blanks before each number and
each mark, numbers without leading zeros, a blank or a small letter in place of `T`, any number of
places, and a zone, which is `Z`, `UTC` or a signed offset of hours and minutes. The fields are
read from left to right, and each is held against its range as soon as it is read; the calendar,
the offset and the range of instants follow in this order.
-/

set_option autoImplicit false

namespace Datebook

/-- Why a text is no time stamp. -/
inductive StampError where
  /-- A field, the date, the offset or a numeral is out of its range. -/
  | outOfRange
  /-- The offset moves the time out of the range of instants. -/
  | impossible
  /-- A character stands where it must not. -/
  | invalid
  /-- The text ends too early. -/
  | tooShort
  /-- Something follows the time stamp. -/
  | tooLong
  deriving DecidableEq, Repr

def StampError.message : StampError → String
  | .outOfRange => "input is out of range"
  | .impossible => "no possible date and time matching input"
  | .invalid => "input contains invalid characters"
  | .tooShort => "premature end of input"
  | .tooLong => "trailing input"

namespace Stamp

/-!
Each reader returns what it has read and the text that follows it.
-/

/-- One to `limit` digits, whose value must fit 63 bits. -/
def readNumber (limit : Nat) (text : List Char) : Except StampError (Nat × List Char) :=
  let figures := (text.take limit).takeWhile Text.isDigit
  if text = [] then .error .tooShort
  else if figures = [] then .error .invalid
  else if 0x8000_0000_0000_0000 ≤ Text.ofDigits figures then .error .outOfRange
  else .ok (Text.ofDigits figures, text.drop figures.length)

/-- One given character. -/
def readMark (mark : Char) : List Char → Except StampError (Unit × List Char)
  | [] => .error .tooShort
  | c :: rest => if c = mark then .ok ((), rest) else .error .invalid

/-- A number of one or two digits after blanks, held against its range. -/
def readField (low high : Nat) (text : List Char) : Except StampError (Nat × List Char) := do
  let (value, rest) ← readNumber 2 (Text.trimStart text)
  if low ≤ value ∧ value ≤ high then .ok (value, rest) else .error .outOfRange

/-- A year after blanks: up to four digits, or a sign and any number of digits. -/
def readYear (text : List Char) : Except StampError (Int × List Char) := do
  let (year, rest) ← match Text.trimStart text with
    | '-' :: digits => do
      let (value, rest) ← readNumber digits.length digits
      pure (-(value : Int), rest)
    | '+' :: digits => do
      let (value, rest) ← readNumber digits.length digits
      pure ((value : Int), rest)
    | digits => do
      let (value, rest) ← readNumber 4 digits
      pure ((value : Int), rest)
  if -0x8000_0000 ≤ year ∧ year < 0x8000_0000 then .ok (year, rest) else .error .outOfRange

/-- The nanoseconds of an optional fraction; places after the ninth are dropped. -/
def readFraction : List Char → Except StampError (Nat × List Char)
  | '.' :: text => do
    let (value, rest) ← readNumber 9 text
    let places := text.length - rest.length
    .ok (value * Nat.pow 10 (9 - places), rest.dropWhile Text.isDigit)
  | text => .ok (0, text)

/-- Two digits; a last character of more than one octet is no early end. -/
def readPair : List Char → Except StampError ((Nat × Nat) × List Char)
  | first :: second :: rest =>
    if Text.isDigit first && Text.isDigit second then
      .ok ((Text.digitValue first, Text.digitValue second), rest)
    else .error .invalid
  | [last] => if last.utf8Size = 1 then .error .tooShort else .error .invalid
  | [] => .error .tooShort

/-- A zone: the seconds by which its clocks are ahead. -/
def readZone (text : List Char) : Except StampError (Int × List Char) :=
  match text with
  | [] => .error .tooShort
  | sign :: rest =>
    if (text.take 3).map Char.toUpper = ['U', 'T', 'C'] then .ok (0, text.drop 3)
    else if sign = 'Z' ∨ sign = 'z' then .ok (0, rest)
    else if sign = '+' ∨ sign = '-' ∨ sign = '\u2212' then do
      let ((tens, units), rest) ← readPair rest
      let ((tenMinutes, minutes), rest) ←
        readPair (rest.dropWhile fun c => c = ':' || Text.isBlank c)
      if 6 ≤ tenMinutes then throw .outOfRange
      let ahead : Int := ((tens * 10 + units) * 60 + tenMinutes * 10 + minutes) * 60
      pure (if sign = '+' then ahead else -ahead, rest)
    else .error .invalid

/-- The `T` between date and time. -/
def readDivider : List Char → Except StampError (Unit × List Char)
  | [] => .error .tooShort
  | c :: rest => if c = 'T' ∨ c = 't' ∨ c = ' ' then .ok ((), rest) else .error .invalid

def readDate (text : List Char) : Except StampError (CivilDate × List Char) := do
  let (year, text) ← readYear text
  let (_, text) ← readMark '-' (Text.trimStart text)
  let (month, text) ← readField 1 12 text
  let (_, text) ← readMark '-' (Text.trimStart text)
  let (day, text) ← readField 1 31 text
  pure ({ year, month, day }, text)

/-- A time of day as its second and its nanoseconds; second 60 is a leap second. -/
def readTime (text : List Char) : Except StampError ((Nat × Nat) × List Char) := do
  let (hour, text) ← readField 0 23 text
  let (_, text) ← readMark ':' (Text.trimStart text)
  let (minute, text) ← readField 0 59 text
  let (_, text) ← readMark ':' (Text.trimStart text)
  let (second, text) ← readField 0 60 text
  let (nano, text) ← readFraction text
  let leap := second / 60
  pure ((hour * 3600 + minute * 60 + second - leap, nano + leap * 1000000000), text)

end Stamp

/-- The years in which every date exists as an instant. -/
def CivilDate.inCalendar (date : CivilDate) : Bool :=
  -262143 ≤ date.year && date.year ≤ 262142 && decide date.Valid

/-- The instant of a local time, read off clocks that are `ahead` seconds ahead. -/
def Instant.ofLocal (date : CivilDate) (secondOfDay nano : Nat) (ahead : Int) :
    Except StampError Instant :=
  if !date.inCalendar then .error .outOfRange
  else if ahead ≤ -86400 ∨ 86400 ≤ ahead then .error .outOfRange
  else match Instant.ofCivil? date (secondOfDay - ahead) nano with
    | some instant => .ok instant
    | none => .error .impossible

/-- The instant that a time stamp denotes. -/
def Instant.read (text : List Char) : Except StampError Instant := do
  let (date, text) ← Stamp.readDate text
  let (_, text) ← Stamp.readDivider text
  let ((second, nano), text) ← Stamp.readTime text
  let (ahead, text) ← Stamp.readZone (Text.trimStart text)
  if Text.trimStart text = [] then Instant.ofLocal date second nano ahead else throw .tooLong

end Datebook
