import Datebook.Time.Duration

/-!
Bounded retry.

A policy allows a number of retries after the first attempt. The pause before retry `k` is the
initial delay times the multiplier to the power `k`, taken in whole milliseconds and never above
the longest delay; the pause before the first retry is not rounded. `retryIf` runs an operation in
any monad that can pause, and stops at the first outcome that is a success, a failure not worth a
retry, or the last one allowed.
-/

set_option autoImplicit false

namespace Datebook

structure RetryPolicy where
  /-- Retries after the first attempt. -/
  maxRetries : Nat
  initialDelay : Duration
  maxDelay : Duration
  /-- Growth of the pause from one retry to the next. -/
  multiplier : Float

namespace RetryPolicy

/-- A policy whose delays do not grow. -/
def fixed (maxRetries : Nat) (pause : Duration) : RetryPolicy :=
  { maxRetries, initialDelay := pause, maxDelay := pause, multiplier := 1.0 }

/-- Five retries, a second apart. -/
def standard : RetryPolicy :=
  fixed 5 (Duration.ofSecs 1)

/-- Repeated squaring over so many binary digits of the exponent, the lowest first. -/
def powerSteps : Nat → Float → Float → Nat → Float
  | 0, total, _, _ => total
  | steps + 1, total, base, exponent =>
    let total := if exponent % 2 = 1 then total * base else total
    if exponent / 2 = 0 then total else powerSteps steps total (base * base) (exponent / 2)

/-- A power with an exponent of 32 bits; a negative exponent takes the reciprocal at the end. -/
def power (base : Float) (exponent : Int) : Float :=
  let total := powerSteps 32 1.0 base exponent.natAbs
  if exponent < 0 then 1.0 / total else total

/-- The pause before a retry, counted from 0; the count wraps to 32 bits. -/
def delay (policy : RetryPolicy) (attempt : Nat) : Duration :=
  if attempt = 0 then min policy.initialDelay policy.maxDelay
  else
    let product :=
      Float.ofNat policy.initialDelay.millis *
        power policy.multiplier (Int.bmod attempt 0x1_0000_0000)
    min (Duration.ofMillis product.toUInt64) policy.maxDelay

end RetryPolicy

section

variable {m : Type → Type} [Monad m] {ε α : Type}

/-- Runs an operation with so many retries left. -/
def retryWithin (pause : Duration → m Unit) (policy : RetryPolicy) (retryable : ε → Bool)
    (operation : m (Except ε α)) : Nat → m (Except ε α)
  | 0 => operation
  | left + 1 => do
    match ← operation with
    | .ok result => pure (.ok result)
    | .error cause =>
      if retryable cause then do
        pause (policy.delay (policy.maxRetries - (left + 1)))
        retryWithin pause policy retryable operation left
      else pure (.error cause)

/-- Runs an operation again while it fails in a retryable way and the policy allows it. -/
def retryIf (pause : Duration → m Unit) (policy : RetryPolicy) (retryable : ε → Bool)
    (operation : m (Except ε α)) : m (Except ε α) :=
  retryWithin pause policy retryable operation policy.maxRetries

/-- Runs an operation again while it fails and the policy allows it. -/
def retry (pause : Duration → m Unit) (policy : RetryPolicy) (operation : m (Except ε α)) :
    m (Except ε α) :=
  retryIf pause policy (fun _ => true) operation

end

/-- The times at which an operation was called, the latest first, and the present time, in
milliseconds of a clock that only pauses move. -/
structure Timeline where
  now : Nat := 0
  calls : List Nat := []

namespace Timeline

/-- Pauses for a length of time. -/
def pause (length : Duration) : StateM Timeline Unit :=
  modify fun line => { line with now := line.now + length.pauseMillis }

/-- An operation whose outcomes are given by the number of the call. -/
def call {ε α : Type} (outcome : Nat → Except ε α) : StateM Timeline (Except ε α) := do
  let line ← get
  set { line with calls := line.now :: line.calls }
  pure (outcome line.calls.length)

/-- The outcome of a retried operation and the times of its calls. -/
def rehearse {ε α : Type} (policy : RetryPolicy) (retryable : ε → Bool)
    (outcome : Nat → Except ε α) : Except ε α × List Nat :=
  let (result, line) := (retryIf pause policy retryable (call outcome)).run {}
  (result, line.calls.reverse)

end Timeline

end Datebook
