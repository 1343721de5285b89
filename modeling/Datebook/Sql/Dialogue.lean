import Datebook.Sql.Statement

/-!
Dialogues with a database.

A `Dialogue` is an operation as a database sees it: it asks for one statement after the other,
pauses and counts, each step depending on the replies so far, until it ends with a result.
`Dialogue.run` plays one against anything that answers statements.
-/

set_option autoImplicit false

namespace Datebook.Sql

/-- What is counted of each operation. -/
inductive CounterKind where
  | queries
  | errors
  | conflicts
  deriving DecidableEq, Repr

structure Counter where
  kind : CounterKind
  operation : String
  deriving DecidableEq, Repr

/-- The name under which a counter is reported. -/
def Counter.name (counter : Counter) : String :=
  let kind := match counter.kind with
    | .queries => "queries"
    | .errors => "errors"
    | .conflicts => "conflicts"
  "storage.postgres." ++ kind ++ "\x7bop=" ++ counter.operation ++ "\x7d"

inductive Dialogue (α : Type) where
  | done (result : α)
  | ask (statement : Statement) (next : Reply → Dialogue α)
  | pause (length : Duration) (next : Dialogue α)
  | count (counter : Counter) (next : Dialogue α)

namespace Dialogue

def bind {α β : Type} (dialogue : Dialogue α) (f : α → Dialogue β) : Dialogue β :=
  match dialogue with
  | .done result => f result
  | .ask statement next => .ask statement fun reply => (next reply).bind f
  | .pause length next => .pause length (next.bind f)
  | .count counter next => .count counter (next.bind f)

instance : Monad Dialogue where
  pure := .done
  bind := bind

theorem bind_assoc {α β γ : Type} (dialogue : Dialogue α) (f : α → Dialogue β)
    (g : β → Dialogue γ) : (dialogue.bind f).bind g = dialogue.bind fun a => (f a).bind g := by
  induction dialogue with
  | done result => rfl
  | ask statement next ih => simp [bind, ih]
  | pause length next ih => simp [bind, ih]
  | count counter next ih => simp [bind, ih]

/-- Asks for one statement. -/
def query (statement : Statement) : Dialogue Reply :=
  .ask statement .done

def sleep (length : Duration) : Dialogue Unit :=
  .pause length (.done ())

def tally (kind : CounterKind) (operation : String) : Dialogue Unit :=
  .count ⟨kind, operation⟩ (.done ())

/-- What a dialogue has done besides its statements: its pauses and counts, in order. -/
structure Trace where
  pauses : List Duration := []
  counters : List Counter := []
  deriving DecidableEq, Repr

/-- Plays a dialogue against what answers its statements. -/
def run {σ α : Type} (answer : Statement → σ → Reply × σ) (dialogue : Dialogue α) (state : σ) :
    α × Trace × σ :=
  match dialogue with
  | .done result => (result, {}, state)
  | .ask statement next =>
    let (reply, state) := answer statement state
    (next reply).run answer state
  | .pause length next =>
    let (result, trace, state) := next.run answer state
    (result, { trace with pauses := length :: trace.pauses }, state)
  | .count counter next =>
    let (result, trace, state) := next.run answer state
    (result, { trace with counters := counter :: trace.counters }, state)

end Dialogue

end Datebook.Sql
