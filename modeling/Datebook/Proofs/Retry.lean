import Datebook.Retry

/-!
How retries end.

`RetryPolicy.Ends` says which call ends the retries of an operation and `RetryPolicy.ahead` what
comes before it: calls, with the next delay of the policy between one and the next. A `Watch` is a
way to follow programs of a monad through states. Whatever follows an operation and its pauses
follows its retries, up to the first call that ends them: `Watch.play_retryIf`. The `Journal` notes
every call and every pause.
-/

set_option autoImplicit false

namespace Datebook

namespace RetryPolicy

section

variable {ε α : Type}

/-- A call, counted from 0, that ends the retries: it succeeds, it fails in a way that is not worth
a retry, or it is the last one allowed. -/
inductive Ends (policy : RetryPolicy) (retryable : ε → Bool) (outcome : Nat → Except ε α)
    (n : Nat) : Prop
  | succeeded {result : α} (success : outcome n = .ok result)
  | refused {cause : ε} (failure : outcome n = .error cause) (final : retryable cause = false)
  | exhausted (spent : n = policy.maxRetries)

/-- From one call on, the first that ends the retries. -/
structure EndsFrom (policy : RetryPolicy) (retryable : ε → Bool) (outcome : Nat → Except ε α)
    (first last : Nat) : Prop where
  ends : policy.Ends retryable outcome last
  from_le : first ≤ last
  goesOn : ∀ i, first ≤ i → i < last → ¬policy.Ends retryable outcome i

variable {policy : RetryPolicy} {retryable : ε → Bool} {outcome : Nat → Except ε α}
  {first last other n : Nat}

/-- A call after which there is another one failed in a way that is worth it. -/
theorem error_of_not_ends (goesOn : ¬policy.Ends retryable outcome n) :
    ∃ cause, outcome n = .error cause ∧ retryable cause = true := by
  cases given : outcome n with
  | ok result => exact absurd (.succeeded given) goesOn
  | error cause =>
    refine ⟨cause, rfl, ?_⟩
    by_cases worth : retryable cause = true
    · exact worth
    · exact absurd (.refused given (Bool.eq_false_iff.mpr worth)) goesOn

theorem not_ends_of_error {cause : ε} (failure : outcome n = .error cause)
    (worth : retryable cause = true) (allowed : n ≠ policy.maxRetries) :
    ¬policy.Ends retryable outcome n := by
  rintro (success | ⟨failureToo, final⟩ | spent)
  · rw [failure] at success
    cases success
  · rw [failure] at failureToo
    cases failureToo
    rw [worth] at final
    cases final
  · exact allowed spent

theorem EndsFrom.here (ends : policy.Ends retryable outcome n) :
    policy.EndsFrom retryable outcome n n :=
  ⟨ends, Nat.le_refl n, fun _ late early => absurd early (Nat.not_lt.mpr late)⟩

theorem EndsFrom.later (goesOn : ¬policy.Ends retryable outcome n)
    (rest : policy.EndsFrom retryable outcome (n + 1) last) :
    policy.EndsFrom retryable outcome n last where
  ends := rest.ends
  from_le := Nat.le_of_succ_le rest.from_le
  goesOn i late early := by
    by_cases start : i = n
    · rw [start]
      exact goesOn
    · exact rest.goesOn i (by omega) early

theorem EndsFrom.le_maxRetries (within : first ≤ policy.maxRetries)
    (endsFrom : policy.EndsFrom retryable outcome first last) : last ≤ policy.maxRetries := by
  by_cases late : policy.maxRetries < last
  · exact absurd (.exhausted rfl) (endsFrom.goesOn _ within late)
  · omega

theorem EndsFrom.unique (endsFrom : policy.EndsFrom retryable outcome first last)
    (endsFromToo : policy.EndsFrom retryable outcome first other) : last = other := by
  rcases Nat.lt_trichotomy last other with before | same | after
  · exact absurd endsFrom.ends (endsFromToo.goesOn _ endsFrom.from_le before)
  · exact same
  · exact absurd endsFromToo.ends (endsFrom.goesOn _ endsFromToo.from_le after)

end

section

variable {β : Type} (policy : RetryPolicy) (call : β) (pause : Duration → β)

/-- What comes before a call: the calls with smaller numbers, each with a pause behind it. -/
def ahead (n : Nat) : List β :=
  (List.range n).flatMap fun i => [call, pause (policy.delay i)]

theorem ahead_succ (n : Nat) :
    policy.ahead call pause (n + 1) =
      policy.ahead call pause n ++ [call] ++ [pause (policy.delay n)] := by
  simp only [ahead, List.range_succ, List.flatMap_append, List.flatMap_singleton, List.append_assoc,
    List.singleton_append]

/-- The first of all is a call. -/
theorem exists_ahead_append (n : Nat) :
    ∃ rest, policy.ahead call pause n ++ [call] = call :: rest := by
  cases n with
  | zero => exact ⟨[], rfl⟩
  | succ n =>
    rw [ahead, List.range_succ_eq_map, List.flatMap_cons]
    exact ⟨_, rfl⟩

end

/-- No pause is longer than the longest delay, whatever the multiplier. -/
theorem delay_le_maxDelay (policy : RetryPolicy) (attempt : Nat) :
    (policy.delay attempt).nanos ≤ policy.maxDelay.nanos := by
  rw [delay]
  split
  · rw [Duration.nanos_min]
    exact Nat.min_le_right _ _
  · dsimp only
    rw [Duration.nanos_min]
    exact Nat.min_le_right _ _

end RetryPolicy

/-- A way to watch the programs of a monad: what each results in from a state on, and the state that
it leaves. -/
structure Watch (m : Type → Type) [Monad m] (σ : Type) where
  play : {β : Type} → m β → σ → β × σ
  play_pure : ∀ {β : Type} (result : β) (state : σ), play (pure result) state = (result, state)
  play_bind : ∀ {β γ : Type} (program : m β) (next : β → m γ) (state : σ),
    play (program >>= next) state = play (next (play program state).1) (play program state).2

namespace Watch

open RetryPolicy

variable {m : Type → Type} [Monad m] {σ ε α : Type} (watch : Watch m σ)
  {pause : Duration → m Unit} {policy : RetryPolicy} (retryable : ε → Bool)
  {operation : m (Except ε α)} {outcome : Nat → Except ε α} {before after : Nat → σ}

/-- With so many retries left, an operation is called until a call ends the retries. -/
theorem play_retryWithin
    (called : ∀ n, watch.play operation (before n) = (outcome n, after n))
    (paused : ∀ n, watch.play (pause (policy.delay n)) (after n) = ((), before (n + 1)))
    {left : Nat} (allowed : left ≤ policy.maxRetries) :
    ∃ last, policy.EndsFrom retryable outcome (policy.maxRetries - left) last ∧
      watch.play (retryWithin pause policy retryable operation left)
        (before (policy.maxRetries - left)) = (outcome last, after last) := by
  induction left with
  | zero => exact ⟨_, .here (.exhausted rfl), called _⟩
  | succ left ih =>
    obtain ⟨last, endsFrom, played⟩ := ih (by omega)
    have next : policy.maxRetries - left = policy.maxRetries - (left + 1) + 1 := by omega
    rw [next] at endsFrom played
    rw [retryWithin, watch.play_bind, called]
    cases given : outcome (policy.maxRetries - (left + 1)) with
    | ok result =>
      refine ⟨_, .here (.succeeded given), ?_⟩
      rw [given]
      exact watch.play_pure _ _
    | error cause =>
      dsimp only
      by_cases worth : retryable cause = true
      · refine ⟨last, endsFrom.later (not_ends_of_error given worth (by omega)), ?_⟩
        rw [if_pos worth, watch.play_bind, paused]
        exact played
      · refine ⟨_, .here (.refused given (Bool.eq_false_iff.mpr worth)), ?_⟩
        rw [given, if_neg worth]
        exact watch.play_pure _ _

/-- A retried operation results in what the first call that ends the retries does. -/
theorem play_retryIf
    (called : ∀ n, watch.play operation (before n) = (outcome n, after n))
    (paused : ∀ n, watch.play (pause (policy.delay n)) (after n) = ((), before (n + 1))) :
    ∃ last, policy.EndsFrom retryable outcome 0 last ∧
      watch.play (retryIf pause policy retryable operation) (before 0) =
        (outcome last, after last) := by
  have played := watch.play_retryWithin retryable called paused
    (Nat.le_refl policy.maxRetries)
  rw [Nat.sub_self] at played
  exact played

end Watch

/-- What a retried operation does in turn. -/
inductive Effort where
  | call
  | pause (length : Duration)
  deriving DecidableEq, Repr

/-- A monad that notes what is done, in order. -/
abbrev Journal := StateM (List Effort)

namespace Journal

/-- Notes a pause. -/
def pause (length : Duration) : Journal Unit :=
  modify fun efforts => efforts ++ [.pause length]

/-- Notes a call whose outcome is given by its number. -/
def call {ε α : Type} (outcome : Nat → Except ε α) : Journal (Except ε α) := do
  let efforts ← get
  set (efforts ++ [Effort.call])
  return outcome (efforts.count .call)

/-- A journal is followed by what it has noted. -/
def watch : Watch Journal (List Effort) where
  play program efforts := (program.run efforts).run
  play_pure _ _ := rfl
  play_bind _ _ _ := rfl

theorem count_ahead (policy : RetryPolicy) (n : Nat) :
    (policy.ahead Effort.call Effort.pause n).count .call = n := by
  induction n with
  | zero => rfl
  | succ n ih =>
    rw [policy.ahead_succ, List.count_append, List.count_append, ih, List.count_singleton_self,
      List.count_eq_zero.mpr (by simp)]

/-- A journal of retries: the calls up to the first one that ends them, with the next delay between
one and the next. -/
theorem retryIf_run {ε α : Type} (policy : RetryPolicy) (retryable : ε → Bool)
    (outcome : Nat → Except ε α) :
    ∃ last, policy.EndsFrom retryable outcome 0 last ∧
      (retryIf pause policy retryable (call outcome)).run [] =
        (outcome last, policy.ahead .call .pause last ++ [.call]) := by
  let before := policy.ahead Effort.call Effort.pause
  have called (n : Nat) :
      watch.play (call outcome) (before n) = (outcome n, before n ++ [.call]) := by
    show (outcome ((before n).count .call), _) = _
    rw [count_ahead]
  have paused (n : Nat) :
      watch.play (pause (policy.delay n)) (before n ++ [.call]) = ((), before (n + 1)) := by
    simp only [before, policy.ahead_succ]
    rfl
  exact watch.play_retryIf retryable called paused

end Journal

end Datebook
