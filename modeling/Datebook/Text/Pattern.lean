import Datebook.Text.Decimal
import Datebook.Text.Pattern.Bracket
import Datebook.Text.Utf8

/-!
Patterns.

A pattern is an extended regular expression over octets. `isPattern` says whether a text is one: it
falls into tokens, its groups are closed, a repetition follows what can be repeated, and a reference
names a group that is complete wherever the reference is reached.
-/

set_option autoImplicit false

namespace Datebook.Text.Pattern

/-- What a pattern is read in. -/
inductive Token where
  /-- A character or a set of characters. -/
  | atom
  /-- A place between characters. -/
  | anchor
  | repetition
  /-- What an earlier group matched. -/
  | reference (group : Nat)
  | opening
  | closing
  | bar
  deriving DecidableEq, Repr

/-- The token of a character on its own. -/
def plain (c : Char) : Token :=
  if c = '^' || c = '$' then .anchor
  else if c = '*' || c = '+' || c = '?' then .repetition
  else if c = '(' then .opening
  else if c = ')' then .closing
  else if c = '|' then .bar
  else .atom

/-- The token of a character after a backslash. -/
def escaped (c : Char) : Token :=
  if c ∈ "<>bB`'".toList then .anchor
  else if '1' ≤ c && c ≤ '9' then .reference (digitValue c)
  else .atom

/-- The largest number of repetitions that an interval may ask for. -/
def mostRepetitions : Nat := 32767

/-- The figures of a bound and what follows; a zero may be escaped. -/
def bound : List Char → List Char × List Char
  | '\\' :: '0' :: rest =>
    let found := bound rest
    ('0' :: found.1, found.2)
  | c :: rest =>
    if isDigit c then
      let found := bound rest
      (c :: found.1, found.2)
    else ([], c :: rest)
  | [] => ([], [])

/-- What follows a comma, which may be escaped. -/
def afterComma? : List Char → Option (List Char)
  | ',' :: rest => some rest
  | '\\' :: ',' :: rest => some rest
  | _ => none

/-- Whether an interval may have two bounds; one without figures is left out. -/
def admits (low high : List Char) : Bool :=
  if high = [] then ofDigits low ≤ mostRepetitions
  else ofDigits low ≤ ofDigits high && ofDigits high ≤ mostRepetitions

/-- What follows an interval whose brace is already read. It gives one bound, or two about a comma,
of which either may be left out. -/
def afterInterval? (text : List Char) : Option (List Char) :=
  match bound text with
  | (low, '\x7d' :: rest) => if low ≠ [] ∧ admits low low then some rest else none
  | (low, rest) =>
    match afterComma? rest with
    | none => none
    | some rest =>
      match bound rest with
      | (high, '\x7d' :: rest) => if admits low high then some rest else none
      | _ => none

theorem length_bound (text : List Char) : (bound text).2.length ≤ text.length := by
  fun_induction bound text with
  | case1 rest found ih => exact Nat.le_trans ih (by simp only [List.length_cons]; omega)
  | case2 c rest _ _ found ih => exact Nat.le_trans ih (by simp only [List.length_cons]; omega)
  | case3 => exact Nat.le_refl _
  | case4 => exact Nat.le_refl _

theorem length_afterComma? {text rest : List Char} (found : afterComma? text = some rest) :
    rest.length < text.length := by
  unfold afterComma? at found
  split at found <;> simp only [reduceCtorEq, Option.some.injEq] at found <;> subst found <;>
    simp only [List.length_cons] <;> omega

theorem length_afterInterval? {text rest : List Char} (found : afterInterval? text = some rest) :
    rest.length < text.length := by
  have low := length_bound text
  unfold afterInterval? at found
  split at found
  · next bounded =>
    rw [bounded, List.length_cons] at low
    split at found
    · simp only [Option.some.injEq] at found
      subst found
      omega
    · simp at found
  · next bounded =>
    simp only [bounded] at low
    split at found
    · simp at found
    · next tail comma =>
      have comma := length_afterComma? comma
      have high := length_bound tail
      split at found
      · next bounded =>
        rw [bounded, List.length_cons] at high
        split at found
        · simp only [Option.some.injEq] at found
          subst found
          omega
        · simp at found
      · simp at found

/-- The tokens of a text, unless it ends within one or one is malformed. -/
def tokens? (text : List Char) : Option (List Token) :=
  match text with
  | [] => some []
  | '\\' :: c :: rest => (tokens? rest).map (escaped c :: ·)
  | ['\\'] => none
  | '[' :: rest =>
    match _ : afterBracket? rest with
    | none => none
    | some rest => (tokens? rest).map (.atom :: ·)
  | '\x7b' :: rest =>
    match _ : afterInterval? rest with
    | none => none
    | some rest => (tokens? rest).map (.repetition :: ·)
  | c :: rest => (tokens? rest).map (plain c :: ·)
termination_by text.length
decreasing_by
  all_goals simp only [List.length_cons]
  · omega
  · have := length_afterBracket? ‹afterBracket? _ = _›
    omega
  · have := length_afterInterval? ‹afterInterval? _ = _›
    omega
  · omega

/-- An open group, or the pattern as a whole. Sets of groups are the bits of numbers. -/
structure Frame where
  number : Nat
  /-- The groups that were complete where it began. -/
  before : Nat
  /-- The groups that earlier alternatives completed. -/
  others : Nat := 0
  deriving DecidableEq, Repr

/-- How far a pattern has been read. -/
structure Progress where
  /-- Whether a repetition may follow. -/
  repeatable : Bool := false
  /-- How many groups were opened. -/
  opened : Nat := 0
  /-- The groups that are complete here. -/
  complete : Nat := 0
  /-- The innermost open group. -/
  inner : Frame := { number := 0, before := 0 }
  /-- The groups about it, the nearest first. -/
  outer : List Frame := []
  deriving DecidableEq, Repr

namespace Progress

/-- Goes on past a token, unless it cannot stand here. A closing parenthesis without an opening one
is a character. -/
def step? (p : Progress) : Token → Option Progress
  | .atom => some { p with repeatable := true }
  | .anchor => some { p with repeatable := false }
  | .repetition => if p.repeatable then some p else none
  | .reference group =>
    if p.complete.testBit group then some { p with repeatable := true } else none
  | .opening =>
    some
      { repeatable := false
        opened := p.opened + 1
        complete := p.complete
        inner := { number := p.opened + 1, before := p.complete }
        outer := p.inner :: p.outer }
  | .bar =>
    some
      { p with
        repeatable := false
        complete := p.inner.before
        inner := { p.inner with others := p.inner.others ||| p.complete } }
  | .closing =>
    match p.outer with
    | [] => some { p with repeatable := true }
    | inner :: outer =>
      some
        { p with
          repeatable := true
          complete := p.complete ||| p.inner.others ||| 1 <<< p.inner.number
          inner
          outer }

end Progress

/-- Whether tokens make up a pattern. -/
def balanced (tokens : List Token) : Bool :=
  match tokens.foldlM Progress.step? {} with
  | some progress => progress.outer.isEmpty
  | none => false

end Pattern

/-- Whether a text, taken octet by octet, is a pattern. -/
def isPattern (text : String) : Bool :=
  let octets := (utf8Encode text.toList).map fun b => Char.ofNat b.toNat
  (Pattern.tokens? octets).any Pattern.balanced

end Datebook.Text
