import Datebook.Proofs.Sql.Tables
import Datebook.Sql.Calendar

/-!
Playing dialogues.

`Dialogue.play` forgets the pauses and counts of a run and keeps its result. A write that loses no
race for locks is sent once: `play_sendWrite`. A database that executes each statement by itself
loses none: `Tables.Executes.isContended_eq_false`.
-/

set_option autoImplicit false

namespace Datebook.Sql

namespace Dialogue

variable {σ α β : Type} (answer : Statement → σ → Reply × σ) (state : σ)

/-- The result of a dialogue and what it leaves of what answers its statements. -/
def play (dialogue : Dialogue α) : α × σ :=
  ((dialogue.run answer state).1, (dialogue.run answer state).2.2)

theorem play_pure (result : α) :
    (pure result : Dialogue α).play answer state = (result, state) :=
  rfl

theorem play_query (statement : Statement) :
    (query statement).play answer state = answer statement state :=
  rfl

theorem play_tally (kind : CounterKind) (operation : String) :
    (tally kind operation).play answer state = ((), state) :=
  rfl

theorem play_bind (dialogue : Dialogue α) (f : α → Dialogue β) :
    (dialogue >>= f).play answer state =
      (f (dialogue.play answer state).1).play answer (dialogue.play answer state).2 := by
  show (dialogue.bind f).play answer state = _
  induction dialogue generalizing state with
  | done result => rfl
  | ask statement next ih => exact ih _ _
  | pause length next ih => exact ih _
  | count counter next ih => exact ih _

end Dialogue

/-- No writer gets in the way of a database that executes statements one at a time. -/
theorem Tables.Executes.isContended_eq_false {before after : Tables} {drawn : EventId}
    {statement : Statement} {failure : Failure}
    (executed : before.Executes drawn statement (.error failure) after) :
    failure.isContended = false := by
  cases executed with
  | insertRefused _ breaks | updateRefused _ _ breaks => cases breaks <;> rfl
  | nameTaken | idTaken | dueOutOfRange => rfl

namespace Calendar

open Dialogue

variable {σ α : Type} (answer : Statement → σ → Reply × σ) (state : σ)

theorem play_answerWith (wrap : α → Answer) (outcome : Dialogue (Except StorageError α)) :
    (answerWith wrap outcome).play answer state =
      ((outcome.play answer state).1.map wrap, (outcome.play answer state).2) :=
  play_bind answer state outcome _

theorem play_busy (operation : String) :
    (busy operation : Dialogue (Except StorageError α)).play answer state =
      (.error .dateBusy, state) :=
  rfl

/-- A write that loses no race for locks is sent once. -/
theorem play_sendWrite {answer : EventId → Statement → σ → Reply × σ} {drawn : EventId}
    {statement : Statement} {reply : Reply} {after : σ} {before left : Tables}
    (replied : answer drawn statement state = (reply, after))
    (executed : before.Executes drawn statement reply left) :
    (sendWrite statement).play (answer drawn) state = (reply, after) := by
  have retries : contentionPolicy.maxRetries = 2 := rfl
  rw [sendWrite, retryIf, retries, retryWithin, play_bind, play_query, replied]
  cases reply with
  | ok result => rfl
  | error failure =>
    dsimp only
    rw [executed.isContended_eq_false]
    rfl

end Calendar

end Datebook.Sql
