/-!
Bracket expressions of patterns.

A bracket expression lists characters one by one, as ranges, or by a name between brackets of its
own. `afterBracket?` gives what follows an expression, and nothing when the expression is malformed:
it has no end, a name is unknown, a range runs backwards, or a hyphen stands where no range can be.
Main statement: `length_afterBracket?`, by which readers of patterns come to an end.
-/

set_option autoImplicit false

namespace Datebook.Text.Pattern

/-- What a bracket expression is read in. -/
inductive Piece where
  | close
  | hyphen
  /-- The bracket before a name, with the mark that follows it and ends the name. -/
  | opening (mark : Char)
  | character (c : Char)
  deriving DecidableEq, Repr

/-- The first piece of a text and what follows it. -/
def piece? : List Char → Option (Piece × List Char)
  | [] => none
  | '[' :: '.' :: rest => some (.opening '.', rest)
  | '[' :: '=' :: rest => some (.opening '=', rest)
  | '[' :: ':' :: rest => some (.opening ':', rest)
  | '-' :: rest => some (.hyphen, rest)
  | ']' :: rest => some (.close, rest)
  | c :: rest => some (.character c, rest)

/-- Whether a text begins with the end of an expression. -/
def closes (text : List Char) : Bool :=
  text.head? = some ']'

/-- A name that ends with a mark and a bracket, and what follows. -/
def name? (mark : Char) : List Char → Option (List Char × List Char)
  | a :: b :: rest =>
    if a = mark ∧ b = ']' then some ([], rest)
    else (name? mark (b :: rest)).map fun found => (a :: found.1, found.2)
  | _ => none

/-- The names of the classes of characters. -/
def classNames : List (List Char) :=
  ["alnum", "alpha", "blank", "cntrl", "digit", "graph", "lower", "print", "punct", "space",
    "upper", "xdigit"].map String.toList

/-- What an expression lists. -/
inductive Item where
  /-- A character, with which a range may begin or end. -/
  | character (c : Char)
  | characters
  deriving DecidableEq, Repr

/-- What a name between marks stands for: a class between colons, a character otherwise. -/
def named? (mark : Char) (name : List Char) : Option Item :=
  if mark = ':' then if name ∈ classNames then some .characters else none
  else match name with
    | [c] => some (if mark = '.' then .character c else .characters)
    | _ => none

/-- The item that begins with a piece, and what follows. In front, a closing bracket and a hyphen
stand for themselves; elsewhere a hyphen does so only at the very end. -/
def item? (front : Bool) (piece : Piece) (text : List Char) : Option (Item × List Char) :=
  match piece with
  | .close => if front then some (.character ']', text) else none
  | .hyphen => if front || closes text then some (.character '-', text) else none
  | .character c => some (.character c, text)
  | .opening mark =>
    match name? mark text with
    | none => none
    | some (name, rest) => (named? mark name).map fun item => (item, rest)

/-- What follows the range that begins with a character, or the character alone. -/
def afterCharacter? (low : Char) (text : List Char) : Option (List Char) :=
  match piece? text with
  | none => none
  | some (.hyphen, rest) =>
    if closes rest then some text
    else match piece? rest with
      | none => none
      | some (piece, rest) =>
        match item? true piece rest with
        | some (.character high, rest) => if low ≤ high then some rest else none
        | _ => none
  | some _ => some text

theorem length_piece? {text rest : List Char} {piece : Piece}
    (found : piece? text = some (piece, rest)) : rest.length < text.length := by
  unfold piece? at found
  split at found <;> simp only [reduceCtorEq, Option.some.injEq, Prod.mk.injEq] at found <;>
    obtain ⟨_, rfl⟩ := found <;> simp only [List.length_cons] <;> omega

theorem length_name? {mark : Char} {text name rest : List Char}
    (found : name? mark text = some (name, rest)) : rest.length < text.length := by
  induction text generalizing name with
  | nil => simp [name?] at found
  | cons a tail ih =>
    cases tail with
    | nil => simp [name?] at found
    | cons b tail =>
      simp only [name?] at found
      split at found
      · simp only [Option.some.injEq, Prod.mk.injEq] at found
        obtain ⟨_, rfl⟩ := found
        simp only [List.length_cons]
        omega
      · simp only [Option.map_eq_some_iff, Prod.mk.injEq] at found
        obtain ⟨⟨inner, after⟩, read, _, rfl⟩ := found
        have shorter := ih read
        simp only [List.length_cons] at shorter ⊢
        omega

theorem length_item? {front : Bool} {piece : Piece} {text rest : List Char} {item : Item}
    (found : item? front piece text = some (item, rest)) : rest.length ≤ text.length := by
  unfold item? at found
  split at found
  · split at found <;> simp_all
  · split at found <;> simp_all
  · simp_all
  · split at found
    · simp at found
    · next read =>
      simp only [Option.map_eq_some_iff, Prod.mk.injEq] at found
      obtain ⟨_, _, _, rfl⟩ := found
      exact Nat.le_of_lt (length_name? read)

theorem length_afterCharacter? {low : Char} {text rest : List Char}
    (found : afterCharacter? low text = some rest) : rest.length ≤ text.length := by
  unfold afterCharacter? at found
  split at found
  · simp at found
  · next first =>
    split at found
    · simp_all
    · split at found
      · simp at found
      · next second =>
        split at found
        · next third =>
          split at found
          · simp only [Option.some.injEq] at found
            subst found
            have := length_piece? first
            have := length_piece? second
            have := length_item? third
            omega
          · simp at found
        · simp at found
  · simp_all

/-- What follows the items of an expression and its closing bracket. -/
def afterItems? (front : Bool) (text : List Char) : Option (List Char) :=
  match _ : piece? text with
  | none => none
  | some (piece, rest) =>
    if piece = .close && !front then some rest
    else match _ : item? front piece rest with
      | none => none
      | some (.characters, rest) => afterItems? false rest
      | some (.character c, rest) =>
        match _ : afterCharacter? c rest with
        | none => none
        | some rest => afterItems? false rest
termination_by text.length
decreasing_by
  · have := length_piece? ‹piece? text = _›
    have := length_item? ‹item? front piece _ = _›
    omega
  · have := length_piece? ‹piece? text = _›
    have := length_item? ‹item? front piece _ = _›
    have := length_afterCharacter? ‹afterCharacter? c _ = _›
    omega

/-- What follows a bracket expression whose opening bracket is already read. -/
def afterBracket? : List Char → Option (List Char)
  | '^' :: text => afterItems? true text
  | text => afterItems? true text

theorem length_afterItems? {front : Bool} {text rest : List Char}
    (found : afterItems? front text = some rest) : rest.length < text.length := by
  fun_induction afterItems? front text with
  | case1 => simp at found
  | case2 front text piece after first closed =>
    simp only [Option.some.injEq] at found
    subst found
    exact length_piece? first
  | case3 => simp at found
  | case4 front text piece after first item third second ih =>
    have := length_piece? first
    have := length_item? second
    have := ih found
    omega
  | case5 => simp at found
  | case6 front text piece after first item c rest' second next third ih =>
    have := length_piece? first
    have := length_item? second
    have := length_afterCharacter? third
    have := ih found
    omega

theorem length_afterBracket? {text rest : List Char} (found : afterBracket? text = some rest) :
    rest.length < text.length := by
  unfold afterBracket? at found
  split at found
  · have := length_afterItems? found
    simp only [List.length_cons]
    omega
  · exact length_afterItems? found

end Datebook.Text.Pattern
