import Datebook.Proofs.Sql.Contention

/-!
Waiting for a database.

A calendar that connects pings its database until the first reply that is no failure, a fixed number
of times at most: `connect_awaits`. Main statement: `retries_end_at_first`, for every operation that
is tried again, of which a ping is one.
-/

set_option autoImplicit false

namespace Datebook.Sql

/-- How pings fare on the replies of a script: the first reply that is no failure ends them, or as
many failures in a row as there are pings allowed. -/
inductive Awaits (policy : RetryPolicy) (script : Nat → Reply) :
    Course (Except StorageError Unit) → Prop
  | answered {last : Nat} {result : Result} (allowed : last ≤ policy.maxRetries)
    (failed : ∀ i < last, ∃ failure, script i = .error failure)
    (replied : script last = .ok result) :
    Awaits policy script
      ⟨policy.ahead (.sent .ping) .paused last ++ [.sent .ping], last + 1, .ok ()⟩
  | unanswered {failure : Failure}
    (failed : ∀ i < policy.maxRetries, ∃ failure, script i = .error failure)
    (replied : script policy.maxRetries = .error failure) :
    Awaits policy script
      ⟨policy.ahead (.sent .ping) .paused policy.maxRetries ++ [.sent .ping],
        policy.maxRetries + 1, .error (.backend ("Ping failed: " ++ failure.message))⟩

namespace Calendar

/-- What a ping makes of the reply to it. -/
def pinged : Reply → Except StorageError Unit
  | .ok _ => .ok ()
  | .error failure => .error (.backend ("Ping failed: " ++ failure.message))

theorem ping_course (script : Nat → Reply) (n : Nat) :
    ping.course script n = ⟨[.sent .ping], n + 1, pinged (script n)⟩ := by
  cases replied : script n with
  | ok result =>
    simp only [ping, bind, Dialogue.query, Dialogue.bind, Dialogue.course, replied]
    rfl
  | error failure =>
    simp only [ping, bind, Dialogue.query, Dialogue.bind, Dialogue.course, replied]
    rfl

theorem connect_awaits (retries : Nat) (pause : Duration) (script : Nat → Reply) :
    Awaits (.fixed retries pause) script ((connect retries pause).course script 0) := by
  obtain ⟨last, endsFrom, course⟩ :=
    Dialogue.retryIf_course script (.fixed retries pause) (fun _ => true) (ping_course script)
  have allowed : last ≤ retries := endsFrom.le_maxRetries (Nat.zero_le _)
  have failed (i : Nat) (early : i < last) : ∃ failure, script i = .error failure := by
    obtain ⟨cause, failed, _⟩ :=
      RetryPolicy.error_of_not_ends (endsFrom.goesOn i (Nat.zero_le i) early)
    cases replied : script i with
    | ok result =>
      rw [replied] at failed
      cases failed
    | error failure => exact ⟨failure, rfl⟩
  rw [connect, retry, course]
  cases replied : script last with
  | ok result => exact .answered allowed failed replied
  | error failure =>
    have spent : last = retries := by
      rcases endsFrom.ends with success | ⟨_, final⟩ | spent
      · rw [replied] at success
        cases success
      · cases final
      · exact spent
    subst spent
    exact .unanswered failed replied

/-- An operation that is tried again is called until the first call that succeeds, fails in a way
not worth a retry, or is the last one allowed, and results in what that call does. Between one call
and the next it pauses once, for the next delay of the policy, and no delay is longer than the
longest one. A calendar that connects tries its ping again whatever the failure. -/
theorem retries_end_at_first {ε α : Type} (policy : RetryPolicy) (retryable : ε → Bool)
    (outcome : Nat → Except ε α) (retries : Nat) (pause : Duration) (script : Nat → Reply) :
    (∃ last ≤ policy.maxRetries, policy.Ends retryable outcome last ∧
      (∀ i < last, ¬policy.Ends retryable outcome i) ∧
      (retryIf Journal.pause policy retryable (Journal.call outcome)).run [] =
        (outcome last, policy.ahead .call .pause last ++ [.call])) ∧
    (∀ attempt, (policy.delay attempt).nanos ≤ policy.maxDelay.nanos) ∧
    (∀ (m : Type → Type) [Monad m] (pause : Duration → m Unit) (operation : m (Except ε α)),
      retry pause policy operation = retryIf pause policy (fun _ => true) operation) ∧
    Awaits (.fixed retries pause) script ((connect retries pause).course script 0) := by
  obtain ⟨last, endsFrom, run⟩ := Journal.retryIf_run policy retryable outcome
  have allowed : last ≤ policy.maxRetries := endsFrom.le_maxRetries (Nat.zero_le _)
  have goesOn (i : Nat) (early : i < last) : ¬policy.Ends retryable outcome i :=
    endsFrom.goesOn i (Nat.zero_le i) early
  refine ⟨⟨last, allowed, endsFrom.ends, goesOn, run⟩, policy.delay_le_maxDelay, ?_,
    connect_awaits retries pause script⟩
  intro m _ pause operation
  rfl

end Calendar

end Datebook.Sql
