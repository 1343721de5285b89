import Datebook.Proofs.Retry
import Datebook.Proofs.Sql.Rows
import Datebook.Proofs.Sql.Play

/-!
Writes that lose races for locks.

`Dialogue.course` is what a dialogue does in sight of the database when the replies are given
beforehand: what it sends, how long it pauses, how many replies it takes and how it ends. `Sends` is
the rule for a write: it is sent once, and once more after each lost race while a pause is left.
`Created`, `Updated` and `Checked` say what an operation answers to a reply. Main statement:
`Calendar.writes_contend`. That a run on scripted replies takes this course is `run_scripted`.
-/

set_option autoImplicit false

namespace Datebook.Sql

/-- What a database sees of a dialogue. -/
inductive Act where
  | sent (statement : Statement)
  | paused (length : Duration)
  deriving DecidableEq, Repr

namespace Act

def statement? : Act → Option Statement
  | sent statement => some statement
  | paused _ => none

def pause? : Act → Option Duration
  | sent _ => none
  | paused length => some length

end Act

/-- What a dialogue does, the number of the next reply that it would take, and its result. -/
structure Course (α : Type) where
  acts : List Act
  next : Nat
  result : α

namespace Dialogue

variable {α β : Type} (script : Nat → Reply)

/-- The course of a dialogue that takes the replies of a script from a number on. -/
def course : Dialogue α → Nat → Course α
  | .done result, n => ⟨[], n, result⟩
  | .ask statement next, n =>
    let rest := course (next (script n)) (n + 1)
    { rest with acts := .sent statement :: rest.acts }
  | .pause length next, n =>
    let rest := course next n
    { rest with acts := .paused length :: rest.acts }
  | .count _ next, n => course next n

/-- The second of two dialogues goes on where the first has ended. -/
theorem course_bind (dialogue : Dialogue α) (f : α → Dialogue β) (n : Nat) :
    (dialogue.bind f).course script n =
      { (f (dialogue.course script n).result).course script (dialogue.course script n).next with
        acts := (dialogue.course script n).acts ++
          ((f (dialogue.course script n).result).course script
            (dialogue.course script n).next).acts } := by
  induction dialogue generalizing n with
  | done result => rfl
  | ask statement next ih => simp only [bind, course, ih, List.cons_append]
  | pause length next ih => simp only [bind, course, ih, List.cons_append]
  | count counter next ih => exact ih n

/-- Dialogues on scripted replies are followed by the number of the next reply and by what they have
done. -/
def watch : Watch Dialogue (Nat × List Act) where
  play dialogue state :=
    let course := dialogue.course script state.1
    (course.result, (course.next, state.2 ++ course.acts))
  play_pure result state := by
    obtain ⟨n, acts⟩ := state
    show (result, (n, acts ++ [])) = _
    rw [List.append_nil]
  play_bind dialogue f state := by
    rw [show dialogue >>= f = dialogue.bind f from rfl]
    simp only [course_bind, List.append_assoc]

/-- A statement whose replies tell the outcomes of an operation is sent again until a reply ends the
retries, with the next delay between one sending and the next. -/
theorem retryIf_course {ε : Type} (policy : RetryPolicy) (retryable : ε → Bool)
    {operation : Dialogue (Except ε α)} {statement : Statement} {outcome : Nat → Except ε α}
    (sends : ∀ n, operation.course script n = ⟨[.sent statement], n + 1, outcome n⟩) :
    ∃ last, policy.EndsFrom retryable outcome 0 last ∧
      (retryIf sleep policy retryable operation).course script 0 =
        ⟨policy.ahead (.sent statement) .paused last ++ [.sent statement], last + 1,
          outcome last⟩ := by
  let before := policy.ahead (Act.sent statement) Act.paused
  have called (n : Nat) : (watch script).play operation (n, before n) =
      (outcome n, (n + 1, before n ++ [.sent statement])) := by
    simp only [watch, sends]
  have paused (n : Nat) :
      (watch script).play (sleep (policy.delay n)) (n + 1, before n ++ [.sent statement]) =
        ((), (n + 1, before (n + 1))) := by
    simp only [before, policy.ahead_succ]
    rfl
  obtain ⟨last, endsFrom, played⟩ := (watch script).play_retryIf retryable called paused
  refine ⟨last, endsFrom, ?_⟩
  generalize whole : (retryIf sleep policy retryable operation).course script 0 = course
  simp only [watch, whole, Prod.mk.injEq] at played
  obtain ⟨result, next, acts⟩ := played
  obtain ⟨_, _, _⟩ := course
  cases result
  cases next
  cases acts
  rfl

/-- A reply of a script, by its number, and the statements so far. -/
def scripted (statement : Statement) (state : Nat × List Statement) :
    Reply × (Nat × List Statement) :=
  (script state.1, (state.1 + 1, state.2 ++ [statement]))

/-- A run on scripted replies takes the course: the same result and pauses, and the statements are
those sent. -/
theorem run_scripted (dialogue : Dialogue α) (n : Nat) (log : List Statement) :
    let course := dialogue.course script n
    let run := dialogue.run (scripted script) (n, log)
    run.1 = course.result ∧ run.2.1.pauses = course.acts.filterMap Act.pause? ∧
      run.2.2 = (course.next, log ++ course.acts.filterMap Act.statement?) := by
  dsimp only
  induction dialogue generalizing n log with
  | done result => simp [run, course]
  | ask statement next ih =>
    obtain ⟨result, pauses, state⟩ := ih (script n) (n + 1) (log ++ [statement])
    refine ⟨result, pauses, state.trans ?_⟩
    simp [course, Act.statement?]
  | pause length next ih =>
    obtain ⟨result, pauses, state⟩ := ih n log
    refine ⟨result, ?_, state⟩
    simp only [run, course, List.filterMap_cons, Act.pause?, pauses]
  | count counter next ih => exact ih n log

end Dialogue

/-- The database refused a statement with one of some codes. -/
def RefusedWith (codes : List String) (reply : Reply) : Prop :=
  ∃ code message, reply = .error (.database code message) ∧ code ∈ codes

/-- Another writer won a race for locks. -/
def LostRace (reply : Reply) : Prop :=
  RefusedWith ["40P01", "40001"] reply

/-- A statement is sent and sent again after each lost race, while a pause is left, from one reply
to the last one that is waited for. -/
inductive Sends (statement : Statement) (script : Nat → Reply) :
    List Duration → Nat → Nat → List Act → Prop
  | settled {pauses : List Duration} {n : Nat} (settled : ¬LostRace (script n)) :
    Sends statement script pauses n n [.sent statement]
  | givenUp {n : Nat} (lost : LostRace (script n)) :
    Sends statement script [] n n [.sent statement]
  | again {pause : Duration} {pauses : List Duration} {n last : Nat} {acts : List Act}
    (lost : LostRace (script n)) (rest : Sends statement script pauses (n + 1) last acts) :
    Sends statement script (pause :: pauses) n last (.sent statement :: .paused pause :: acts)

/-- What a create answers to its last reply. -/
inductive Created (owner : String) : Reply → Except StorageError EventId → Prop
  | stored {result : Result} {row : Row} {rows : List Row} {id : EventId}
    (returned : result.rows = row :: rows) (read : row.column? Value.toId? "id" = some id) :
    Created owner (.ok result) (.ok id)
  | malformed {result : Result} {row : Row} {rows : List Row}
    (returned : result.rows = row :: rows) (unread : row.column? Value.toId? "id" = none) :
    Created owner (.ok result) (.error (.backend "Malformed row, column id"))
  | skipped {result : Result} (none : result.rows = []) :
    Created owner (.ok result) (.error .dateBusy)
  | clash {reply : Reply} (refused : RefusedWith ["23P01", "40P01", "40001"] reply) :
    Created owner reply (.error .dateBusy)
  | ownerMissing {reply : Reply} (refused : RefusedWith ["23503"] reply) :
    Created owner reply (.error (.userNotFound owner))
  | failed {failure : Failure}
    (other : ¬RefusedWith ["23P01", "40P01", "40001", "23503"] (.error failure)) :
    Created owner (.error failure) (.error (.backend ("create_event: " ++ failure.message)))

/-- What an update answers to its last reply, unless that affected no row. -/
inductive Updated : Reply → Except StorageError Unit → Prop
  | changed {result : Result} (affected : 0 < result.affected) : Updated (.ok result) (.ok ())
  | clash {reply : Reply} (refused : RefusedWith ["23P01", "40P01", "40001"] reply) :
    Updated reply (.error .dateBusy)
  | failed {failure : Failure} (other : ¬RefusedWith ["23P01", "40P01", "40001"] (.error failure)) :
    Updated (.error failure) (.error (.backend ("update_event: " ++ failure.message)))

/-- What an update that affected no row answers to the question whether the event exists. -/
inductive Checked (id : EventId) : Reply → Except StorageError Unit → Prop
  | found {result : Result} (row : result.rows ≠ []) : Checked id (.ok result) (.error .dateBusy)
  | missing {result : Result} (none : result.rows = []) :
    Checked id (.ok result) (.error (.eventNotFound id))
  | failed {failure : Failure} :
    Checked id (.error failure) (.error (.backend ("update_event: " ++ failure.message)))

namespace Failure

theorem hasCode_iff (failure : Failure) (code : String) :
    failure.hasCode code = true ↔ ∃ message, failure = .database code message := by
  cases failure with
  | database found message =>
    simp only [hasCode, decide_eq_true_eq, database.injEq, exists_and_left, exists_eq', and_true]
  | transport | closed => simp [hasCode]

theorem isContended_iff (failure : Failure) :
    failure.isContended = true ↔ LostRace (.error failure) := by
  simp only [isContended, deadlockDetected, serializationFailure, Bool.or_eq_true, hasCode_iff,
    LostRace, RefusedWith, Except.error.injEq, List.mem_cons, List.not_mem_nil, or_false]
  constructor
  · rintro (⟨message, same⟩ | ⟨message, same⟩)
    · exact ⟨_, message, same, .inl rfl⟩
    · exact ⟨_, message, same, .inr rfl⟩
  · rintro ⟨code, message, same, rfl | rfl⟩
    · exact .inl ⟨message, same⟩
    · exact .inr ⟨message, same⟩

theorem isConflict_iff (failure : Failure) :
    failure.isConflict = true ↔ RefusedWith ["23P01", "40P01", "40001"] (.error failure) := by
  simp only [isConflict, exclusionViolation, Bool.or_eq_true, isContended_iff, hasCode_iff,
    LostRace, RefusedWith, Except.error.injEq, List.mem_cons, List.not_mem_nil, or_false]
  constructor
  · rintro (⟨message, same⟩ | ⟨code, message, same, known⟩)
    · exact ⟨_, message, same, .inl rfl⟩
    · exact ⟨code, message, same, .inr known⟩
  · rintro ⟨code, message, same, rfl | known⟩
    · exact .inl ⟨message, same⟩
    · exact .inr ⟨code, message, same, known⟩

end Failure

namespace Calendar

variable (script : Nat → Reply)

theorem not_lostRace_ok (result : Result) : ¬LostRace (.ok result) := by
  rintro ⟨code, message, same, _⟩
  cases same

/-- A retried write follows the rule, with the delays of the policy as its pauses. -/
theorem retryWithin_sends (policy : RetryPolicy) (statement : Statement) {left : Nat}
    (allowed : left ≤ policy.maxRetries) (n : Nat) :
    ∃ last acts,
      Sends statement script
        ((List.range' (policy.maxRetries - left) left).map policy.delay) n last acts ∧
      (retryWithin Dialogue.sleep policy Failure.isContended (Dialogue.query statement)
        left).course script n = ⟨acts, last + 1, script last⟩ := by
  induction left generalizing n with
  | zero =>
    refine ⟨n, [.sent statement], ?_, rfl⟩
    by_cases lost : LostRace (script n)
    · exact .givenUp lost
    · exact .settled lost
  | succ left ih =>
    obtain ⟨last, acts, sends, course⟩ := ih (by omega) (n + 1)
    have next : policy.maxRetries - (left + 1) + 1 = policy.maxRetries - left := by omega
    rw [List.range'_succ, next, List.map_cons, retryWithin]
    cases replied : script n with
    | ok result =>
      have settled : ¬LostRace (script n) := replied ▸ not_lostRace_ok result
      refine ⟨n, [.sent statement], .settled settled, ?_⟩
      simp only [bind, Dialogue.query, Dialogue.bind, Dialogue.course, replied]
      rfl
    | error failure =>
      by_cases contended : failure.isContended = true
      · have lost : LostRace (script n) := replied ▸ failure.isContended_iff.mp contended
        refine ⟨last, _, .again lost sends, ?_⟩
        unfold Dialogue.query at course ⊢
        simp only [bind, Dialogue.sleep, Dialogue.bind, Dialogue.course, replied, contended,
          ↓reduceIte, course]
      · have settled : ¬LostRace (script n) := by
          rw [replied, ← failure.isContended_iff]
          exact contended
        refine ⟨n, [.sent statement], .settled settled, ?_⟩
        simp only [bind, Dialogue.query, Dialogue.bind, Dialogue.course, replied, contended]
        rfl

theorem contentionPolicy_delays :
    (List.range' 0 2).map contentionPolicy.delay = [.ofMillis 5, .ofMillis 20] := by
  decide +kernel

theorem sendWrite_sends (statement : Statement) (n : Nat) :
    ∃ last acts, Sends statement script [.ofMillis 5, .ofMillis 20] n last acts ∧
      (sendWrite statement).course script n = ⟨acts, last + 1, script last⟩ := by
  rw [← contentionPolicy_delays]
  exact retryWithin_sends script contentionPolicy statement (Nat.le_refl 2) n

theorem sendWrite_course (statement : Statement) :
    ∃ last, contentionPolicy.EndsFrom Failure.isContended script 0 last ∧
      (sendWrite statement).course script 0 =
        ⟨contentionPolicy.ahead (.sent statement) .paused last ++ [.sent statement], last + 1,
          script last⟩ :=
  Dialogue.retryIf_course script contentionPolicy Failure.isContended fun _ => rfl

/-- A dialogue that starts with a write sends that first, and goes on from the reply that ends the
retries. -/
theorem sendWrite_bind_course {α : Type} (statement : Statement) (f : Reply → Dialogue α) :
    ∃ last rest, contentionPolicy.EndsFrom Failure.isContended script 0 last ∧
      ((sendWrite statement).bind f).course script 0 =
        { (f (script last)).course script (last + 1) with acts := .sent statement :: rest } := by
  obtain ⟨last, endsFrom, course⟩ := sendWrite_course script statement
  obtain ⟨again, first⟩ := contentionPolicy.exists_ahead_append (Act.sent statement) Act.paused last
  refine ⟨last, again ++ ((f (script last)).course script (last + 1)).acts, endsFrom, ?_⟩
  rw [Dialogue.course_bind, course, first]
  rfl

section

variable (owner : String) (id : EventId) {fields : EventFields}

theorem createEvent_course_of_fits (fits : ¬fields.truncated.LeadTooLong) :
    ∃ last rest, contentionPolicy.EndsFrom Failure.isContended script 0 last ∧
      (createEvent owner fields).course script 0 =
        { (created owner (script last)).course script (last + 1) with
          acts := .sent (.insertEvent owner fields.truncated.bound) :: rest } := by
  rw [createEvent, bindFields_of_fits fits]
  exact sendWrite_bind_course script _ (created owner)

theorem updateEvent_course_of_fits (fits : ¬fields.truncated.LeadTooLong) :
    ∃ last rest, contentionPolicy.EndsFrom Failure.isContended script 0 last ∧
      (updateEvent owner id fields).course script 0 =
        { (updated owner id (script last)).course script (last + 1) with
          acts := .sent (.updateEvent owner id fields.truncated.bound) :: rest } := by
  rw [updateEvent, bindFields_of_fits fits]
  exact sendWrite_bind_course script _ (updated owner id)

theorem createEvent_course_of_long (long : fields.truncated.LeadTooLong) :
    (createEvent owner fields).course script 0 = ⟨[], 0, .error leadOutOfRange⟩ := by
  rw [createEvent, bindFields_of_long long]
  rfl

theorem updateEvent_course_of_long (long : fields.truncated.LeadTooLong) :
    (updateEvent owner id fields).course script 0 = ⟨[], 0, .error leadOutOfRange⟩ := by
  rw [updateEvent, bindFields_of_long long]
  rfl

end

theorem created_course (owner : String) (reply : Reply) (n : Nat) :
    ∃ answer, Created owner reply answer ∧
      (created owner reply).course script n = ⟨[], n, answer⟩ := by
  cases reply with
  | ok result =>
    cases rows : result.rows with
    | nil =>
      refine ⟨_, .skipped rows, ?_⟩
      rw [created, rows]
      rfl
    | cons row rest =>
      cases read : row.column? Value.toId? "id" with
      | some id =>
        refine ⟨_, .stored rows read, ?_⟩
        simp only [created, rows, column, read]
        rfl
      | none =>
        refine ⟨_, .malformed rows read, ?_⟩
        simp only [created, rows, column, read]
        rfl
  | error failure =>
    by_cases conflict : failure.isConflict = true
    · refine ⟨_, .clash (failure.isConflict_iff.mp conflict), ?_⟩
      rw [created, if_pos conflict]
      rfl
    · by_cases orphan : failure.hasCode foreignKeyViolation = true
      · obtain ⟨message, rfl⟩ := (failure.hasCode_iff _).mp orphan
        refine ⟨_, .ownerMissing ⟨_, message, rfl, List.mem_singleton.mpr rfl⟩, ?_⟩
        rw [created, if_neg conflict, if_pos orphan]
        rfl
      · refine ⟨_, .failed ?_, ?_⟩
        · rintro ⟨code, message, same, known⟩
          cases same
          rcases List.mem_append.mp (show code ∈ ["23P01", "40P01", "40001"] ++ ["23503"] from known)
            with clash | missing
          · exact conflict ((Failure.isConflict_iff _).mpr ⟨code, message, rfl, clash⟩)
          · rw [List.mem_singleton.mp missing] at orphan
            exact orphan ((Failure.hasCode_iff _ _).mpr ⟨message, rfl⟩)
        · rw [created, if_neg conflict, if_neg orphan]
          rfl

theorem whyUnchanged_course (owner : String) (id : EventId) (n : Nat) :
    ∃ answer, Checked id (script n) answer ∧
      (whyUnchanged owner id).course script n =
        ⟨[.sent (.eventExists owner id)], n + 1, answer⟩ := by
  cases replied : script n with
  | ok result =>
    cases rows : result.rows with
    | nil =>
      refine ⟨_, .missing rows, ?_⟩
      simp only [whyUnchanged, bind, Dialogue.query, Dialogue.bind, Dialogue.course, replied, rows]
      rfl
    | cons row rest =>
      refine ⟨_, .found (rows ▸ List.cons_ne_nil row rest), ?_⟩
      simp only [whyUnchanged, bind, Dialogue.query, Dialogue.bind, Dialogue.course, replied, rows]
      rfl
  | error failure =>
    refine ⟨_, .failed, ?_⟩
    simp only [whyUnchanged, bind, Dialogue.query, Dialogue.bind, Dialogue.course, replied]
    rfl

/-- An update answers to the reply to it, or to the question that it asks if nothing changed. -/
theorem updated_course (owner : String) (id : EventId) (reply : Reply) (n : Nat) :
    (∃ answer, Updated reply answer ∧
      (updated owner id reply).course script n = ⟨[], n, answer⟩) ∨
    ∃ result answer, reply = .ok result ∧ result.affected = 0 ∧ Checked id (script n) answer ∧
      (updated owner id reply).course script n =
        ⟨[.sent (.eventExists owner id)], n + 1, answer⟩ := by
  cases reply with
  | ok result =>
    by_cases changed : 0 < result.affected
    · refine .inl ⟨_, .changed changed, ?_⟩
      rw [updated, if_pos changed]
      rfl
    · obtain ⟨answer, checked, course⟩ := whyUnchanged_course script owner id n
      refine .inr ⟨result, answer, rfl, Nat.eq_zero_of_not_pos changed, checked, ?_⟩
      rw [updated, if_neg changed]
      exact course
  | error failure =>
    by_cases conflict : failure.isConflict = true
    · refine .inl ⟨_, .clash (failure.isConflict_iff.mp conflict), ?_⟩
      rw [updated, if_pos conflict]
      rfl
    · refine .inl ⟨_, .failed (mt failure.isConflict_iff.mpr conflict), ?_⟩
      rw [updated, if_neg conflict]
      rfl

/-- What follows a write starts with the last reply to it. -/
theorem course_after_sendWrite {α : Type} {statement : Statement} {f : Reply → Dialogue α}
    {last : Nat} {acts : List Act}
    (course : (sendWrite statement).course script 0 = ⟨acts, last + 1, script last⟩) :
    ((sendWrite statement).bind f).course script 0 =
      { (f (script last)).course script (last + 1) with
        acts := acts ++ ((f (script last)).course script (last + 1)).acts } := by
  rw [Dialogue.course_bind, course]

/-- A create or an update whose lead time does not fit an interval sends nothing. Any other is sent
once and once more after each of the first two replies that lost a race for locks, with pauses of 5
and 20 milliseconds; its answer is told by the last reply, and by the reply to one further question
when an update affected no row. -/
theorem writes_contend (owner : String) (id : EventId) (fields : EventFields) :
    let create := (createEvent owner fields).course script 0
    let update := (updateEvent owner id fields).course script 0
    let bound := fields.truncated.bound
    let pauses := [Duration.ofMillis 5, Duration.ofMillis 20]
    (fields.truncated.LeadTooLong ∧
      ∃ reason, create = ⟨[], 0, .error (.backend reason)⟩ ∧
        update = ⟨[], 0, .error (.backend reason)⟩) ∨
    (¬fields.truncated.LeadTooLong ∧
      (∃ last acts answer, Sends (.insertEvent owner bound) script pauses 0 last acts ∧
        Created owner (script last) answer ∧ create = ⟨acts, last + 1, answer⟩) ∧
      ∃ last acts, Sends (.updateEvent owner id bound) script pauses 0 last acts ∧
        ((∃ answer, Updated (script last) answer ∧ update = ⟨acts, last + 1, answer⟩) ∨
          ∃ result answer, script last = .ok result ∧ result.affected = 0 ∧
            Checked id (script (last + 1)) answer ∧
            update = ⟨acts ++ [.sent (.eventExists owner id)], last + 2, answer⟩)) := by
  intro create update bound pauses
  by_cases long : fields.truncated.LeadTooLong
  · obtain ⟨reason, unbound⟩ := bindFields_of_leadTooLong long
    refine .inl ⟨long, reason, ?_, ?_⟩
    · simp only [create, createEvent, unbound]
      rfl
    · simp only [update, updateEvent, unbound]
      rfl
  · have binds : bindFields fields = .ok bound := bindFields_of_fits long
    have createIs : create =
        ((sendWrite (.insertEvent owner bound)).bind (created owner)).course script 0 := by
      simp only [create, createEvent, binds]
      rfl
    have updateIs : update =
        ((sendWrite (.updateEvent owner id bound)).bind (updated owner id)).course script 0 := by
      simp only [update, updateEvent, binds]
      rfl
    refine .inr ⟨long, ?_, ?_⟩
    · obtain ⟨last, acts, sends, course⟩ := sendWrite_sends script (.insertEvent owner bound) 0
      obtain ⟨answer, told, ends⟩ := created_course script owner (script last) (last + 1)
      refine ⟨last, acts, answer, sends, told, ?_⟩
      rw [createIs, course_after_sendWrite script course, ends, List.append_nil]
    · obtain ⟨last, acts, sends, course⟩ := sendWrite_sends script (.updateEvent owner id bound) 0
      refine ⟨last, acts, sends, ?_⟩
      rw [updateIs, course_after_sendWrite script course]
      rcases updated_course script owner id (script last) (last + 1) with
        ⟨answer, told, ends⟩ | ⟨result, answer, replied, affected, checked, ends⟩
      · refine .inl ⟨answer, told, ?_⟩
        rw [ends, List.append_nil]
      · refine .inr ⟨result, answer, replied, affected, checked, ?_⟩
        rw [ends]

end Calendar

end Datebook.Sql
