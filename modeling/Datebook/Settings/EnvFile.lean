import Datebook.Settings

/-!
Environment files.

A file assigns values to names, one assignment a line: a name, `=`, and a value that may be quoted.
A number sign begins a comment at the start of a line and after a blank. A line whose quotes are
open continues on the next. Reading stops at the first malformed line; the assignments before it
count, and of two assignments to a name the first.
-/

set_option autoImplicit false

namespace Datebook.EnvFile

/-- The lines of a text, each with the line feed that ends it. -/
def splitLines : List Char → List (List Char)
  | [] => []
  | c :: rest =>
    if c = '\n' then ['\n'] :: splitLines rest
    else match splitLines rest with
      | [] => [[c]]
      | line :: lines => (c :: line) :: lines

/-- Where a line stands with regard to quotes and comments. -/
inductive Place where
  /-- Outside quotes. -/
  | plain
  /-- Outside quotes, after a blank. -/
  | blank
  /-- After a backslash outside quotes. -/
  | escaped
  | doubleQuoted
  | doubleEscaped
  | singleQuoted
  | singleEscaped
  deriving DecidableEq, Repr

/-- The place after a character that begins no comment. -/
def Place.after (place : Place) (c : Char) : Place :=
  match place with
  | .plain =>
    if Text.isBlank c && c ≠ '\n' && c ≠ '\r' then .blank
    else if c = '\\' then .escaped
    else if c = '"' then .doubleQuoted
    else if c = '\'' then .singleQuoted
    else .plain
  | .blank =>
    if c = '\\' then .escaped
    else if c = '"' then .doubleQuoted
    else if c = '\'' then .singleQuoted
    else .plain
  | .escaped => .plain
  | .doubleQuoted =>
    if c = '\\' then .doubleEscaped else if c = '"' then .plain else .doubleQuoted
  | .doubleEscaped => .doubleQuoted
  | .singleQuoted =>
    if c = '\\' then .singleEscaped else if c = '\'' then .plain else .singleQuoted
  | .singleEscaped => .singleQuoted

/-- The part of a line before its comment, if it has one, and the place at its end. -/
def beforeComment : Place → List Char → Option (List Char) × Place
  | place, [] => (none, place)
  | place, c :: rest =>
    if place = .blank ∧ c = '#' then (some [], .plain)
    else
      let (kept, final) := beforeComment (place.after c) rest
      (kept.map (c :: ·), final)

/-- A line without the line feed at its end, nor a carriage return before that. -/
def withoutLineEnd (line : List Char) : List Char :=
  match line.reverse with
  | '\n' :: '\r' :: rest => rest.reverse
  | '\n' :: rest => rest.reverse
  | _ => line

/-- Joins lines while quotes are open; ends in `none` when the text ends in the middle of a line. -/
def joinLines (pending : List Char) (place : Place) :
    List (List Char) → List (Option (List Char))
  | [] => if place = .plain then [] else [none]
  | line :: lines =>
    let whole := pending ++ line
    if (Text.trimStart whole).head? = some '#' then some [] :: joinLines [] .plain lines
    else match beforeComment place line with
      | (some kept, _) => some (pending ++ kept) :: joinLines [] .plain lines
      | (none, .plain) => some (withoutLineEnd whole) :: joinLines [] .plain lines
      | (none, final) => joinLines whole final lines

/-- The state of reading a value. -/
inductive ValuePlace where
  | plain
  | escaped (inQuotes : Bool)
  | singleQuoted
  | doubleQuoted
  /-- After the value, where only blanks and a comment may follow. -/
  | ended
  deriving DecidableEq, Repr

/-- The characters of a value, unless it is malformed. -/
def readValue? : ValuePlace → List Char → Option (List Char)
  | .plain, [] | .escaped false, [] | .ended, [] => some []
  | .escaped true, [] | .singleQuoted, [] | .doubleQuoted, [] => none
  | .ended, c :: rest =>
    if c = ' ' ∨ c = '\t' then readValue? .ended rest
    else if c = '#' then some []
    else none
  | .escaped inQuotes, c :: rest =>
    let next : ValuePlace := if inQuotes then .doubleQuoted else .plain
    if c = '\\' ∨ c = '\'' ∨ c = '"' ∨ c = '$' ∨ c = ' ' then (readValue? next rest).map (c :: ·)
    else if c = 'n' then (readValue? next rest).map ('\n' :: ·)
    else none
  | .singleQuoted, c :: rest =>
    if c = '\'' then readValue? .plain rest else (readValue? .singleQuoted rest).map (c :: ·)
  | .doubleQuoted, c :: rest =>
    if c = '"' then readValue? .plain rest
    else if c = '\\' then readValue? (.escaped true) rest
    else (readValue? .doubleQuoted rest).map (c :: ·)
  | .plain, c :: rest =>
    if c = '\'' then readValue? .singleQuoted rest
    else if c = '"' then readValue? .doubleQuoted rest
    else if c = '\\' then readValue? (.escaped false) rest
    else if c = ' ' ∨ c = '\t' then readValue? .ended rest
    else (readValue? .plain rest).map (c :: ·)

/-- A name and the text that follows it. -/
def readName? (text : List Char) : Option (List Char × List Char) :=
  match text with
  | c :: _ =>
    if c.isAlpha || c = '_' then
      some (text.span fun c => c.isAlphanum || c = '_' || c = '.')
    else none
  | [] => none

/-- The text after an equals sign, which blanks may precede. -/
def afterEquals? (text : List Char) : Option (List Char) :=
  match Text.trimStart text with
  | '=' :: rest => some (Text.trimStart rest)
  | _ => none

/-- The name and the written value of an assignment; `export` may precede the name. -/
def splitAssignment? (text : List Char) : Option (List Char × List Char) := do
  let (name, rest) ← readName? text
  match afterEquals? rest with
  | some value => some (name, value)
  | none =>
    if name = "export".toList then
      let (name, rest) ← readName? (Text.trimStart rest)
      let value ← afterEquals? rest
      some (name, value)
    else none

/-- What a line says: malformed is `none`, and nothing is `some none`. -/
def readLine? (line : List Char) : Option (Option (String × String)) :=
  let text := Text.trimStart (Text.trimEnd line)
  if text = [] ∨ text.head? = some '#' then some none
  else do
    let (name, written) ← splitAssignment? text
    let value ← if written.head? = some '#' then some [] else readValue? .plain written
    some (some (String.ofList name, String.ofList value))

/-- The assignments of lines up to the first malformed one. -/
def collect : List (Option (List Char)) → List (String × String)
  | [] | none :: _ => []
  | some line :: lines =>
    match readLine? line with
    | none => []
    | some none => collect lines
    | some (some assignment) => assignment :: collect lines

/-- The assignments of a file, a byte order mark at its start passed over. -/
def assignments (text : String) : List (String × String) :=
  let chars := text.toList
  let body := if chars.head? = some '\ufeff' then chars.tail else chars
  collect (joinLines [] .plain (splitLines body))

/-- A source of variables with the assignments of a file behind it. -/
def behind (lookup : Settings.Lookup) (file : List (String × String)) : Settings.Lookup :=
  fun name => lookup name <|> file.lookup name

end Datebook.EnvFile
