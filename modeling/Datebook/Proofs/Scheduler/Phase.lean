import Datebook.Proofs.Scheduler.Course

/-!
The phases of the reminder loop.

Whatever happens and in whatever order, a scheduler is in one of five `Phase`s: idle, waiting,
working on a tick, stopped, or broken off with its clock out of range. `Phase.states` reads off that
the states that it enters begin a `life`: it idles, waits and works in turn, and ends in a wait and
a stop.
-/

set_option autoImplicit false

namespace Datebook

namespace SchedulerState

/-- The states of a loop that waits after so many ticks, the latest first. -/
def waits : Nat → List SchedulerState
  | 0 => [.waitingForTick]
  | ticks + 1 => .waitingForTick :: .processing :: waits ticks

/-- The states of a whole life with so many ticks. -/
def life (ticks : Nat) : List SchedulerState :=
  .idle :: ((List.replicate ticks [.waitingForTick, .processing]).flatten ++
    [.waitingForTick, .stopped])

theorem reverse_waits (ticks : Nat) :
    (waits ticks).reverse =
      (List.replicate ticks [waitingForTick, processing]).flatten ++ [waitingForTick] := by
  induction ticks with
  | zero => rfl
  | succ ticks ih =>
    simp only [waits, List.reverse_cons, ih, List.replicate_succ', List.flatten_append,
      List.flatten_singleton, List.append_assoc, List.cons_append, List.nil_append]

theorem waits_ne_nil (ticks : Nat) : waits ticks ≠ [] := by
  cases ticks <;> exact List.cons_ne_nil _ _

end SchedulerState

namespace Scheduler

open SchedulerState (waits life)

variable {s t u : Scheduler}

/-- Where a scheduler is in its life. -/
inductive Phase (s : Scheduler) : Prop
  | idle (entered : s.entered = []) (quiet : s.loop.map (·.pending) = none)
    (whole : s.broken = false)
  | waiting (ticks : Nat) (entered : s.entered = waits ticks) (started : s.started = true)
    (free : s.loop.map (·.pending) = some none) (whole : s.broken = false)
  | processing (ticks : Nat) (pending : Pending) (entered : s.entered = .processing :: waits ticks)
    (started : s.started = true) (busy : s.loop.map (·.pending) = some (some pending))
    (whole : s.broken = false)
  | stopped (ticks : Nat) (entered : s.entered = .stopped :: waits ticks)
    (started : s.started = true) (ended : s.loop.map (·.pending) = none) (whole : s.broken = false)
  | broken (ticks : Nat) (entered : s.entered = .processing :: waits ticks)
    (started : s.started = true) (ended : s.loop.map (·.pending) = none) (broken : s.broken = true)

/-- A phase lasts as long as nothing happens to the run. -/
theorem Phase.undisturbed (phase : s.Phase) (same : Undisturbed s t) : t.Phase := by
  cases phase with
  | idle fresh quiet whole =>
    exact .idle (same.entered.trans fresh) (same.pending.trans quiet) (same.broken.trans whole)
  | waiting ticks states begun free whole =>
    exact .waiting ticks (same.entered.trans states) (same.started begun) (same.pending.trans free)
      (same.broken.trans whole)
  | processing ticks pending states begun busy whole =>
    exact .processing ticks pending (same.entered.trans states) (same.started begun)
      (same.pending.trans busy) (same.broken.trans whole)
  | stopped ticks states begun ended whole =>
    exact .stopped ticks (same.entered.trans states) (same.started begun) (same.pending.trans ended)
      (same.broken.trans whole)
  | broken ticks states begun ended fault =>
    exact .broken ticks (same.entered.trans states) (same.started begun) (same.pending.trans ended)
      (same.broken.trans fault)

theorem Phase.when_free (phase : s.Phase) {loop : Loop} (running : s.loop = some loop)
    (free : loop.pending = none) :
    ∃ ticks, s.entered = waits ticks ∧ s.started = true ∧ s.broken = false := by
  have waiting : s.loop.map (·.pending) = some none := by
    rw [running, Option.map_some, free]
  cases phase with
  | waiting ticks entered started _ whole => exact ⟨ticks, entered, started, whole⟩
  | processing _ _ _ _ busy _ => cases busy.symm.trans waiting
  | idle _ ended _ | stopped _ _ _ ended _ | broken _ _ _ ended _ => cases ended.symm.trans waiting

theorem Phase.when_busy (phase : s.Phase) {loop : Loop} {pending : Pending}
    (running : s.loop = some loop) (busy : loop.pending = some pending) :
    ∃ ticks, s.entered = .processing :: waits ticks ∧ s.started = true ∧ s.broken = false := by
  have working : s.loop.map (·.pending) = some (some pending) := by
    rw [running, Option.map_some, busy]
  cases phase with
  | processing ticks _ entered started _ whole => exact ⟨ticks, entered, started, whole⟩
  | waiting _ _ _ free _ => cases free.symm.trans working
  | idle _ ended _ | stopped _ _ _ ended _ | broken _ _ _ ended _ => cases ended.symm.trans working

theorem Phase.stepped (phase : s.Phase) (step : s.Stepped t) : t.Phase := by
  cases step with
  | rest quiet => exact phase
  | stop running free shutdown =>
    obtain ⟨ticks, entered, started, whole⟩ := phase.when_free running free
    exact .stopped ticks (congrArg (SchedulerState.stopped :: ·) entered) started rfl whole
  | begin running free goesOn due reading =>
    obtain ⟨ticks, entered, started, whole⟩ := phase.when_free running free
    exact .processing ticks _ (congrArg (SchedulerState.processing :: ·) entered) started rfl whole
  | breakOff running free goesOn due unread =>
    obtain ⟨ticks, entered, started, _⟩ := phase.when_free running free
    exact .broken ticks (congrArg (SchedulerState.processing :: ·) entered) started rfl rfl
  | goOn running busy due settled next =>
    obtain ⟨ticks, entered, started, whole⟩ := phase.when_busy running busy
    exact .processing ticks _ entered started rfl whole
  | finish running busy due settled next =>
    obtain ⟨ticks, entered, started, whole⟩ := phase.when_busy running busy
    exact .waiting (ticks + 1) (congrArg (SchedulerState.waitingForTick :: ·) entered) started rfl
      whole

theorem Phase.moved (phase : s.Phase) (move : Move) : (s.moved move).Phase := by
  cases s.moved_advanced move with
  | aside same _ => exact phase.undisturbed same
  | launch started fresh launched =>
    have whole : s.broken = false := by
      cases phase with
      | idle _ _ whole | waiting _ _ _ _ whole | stopped _ _ _ _ whole => exact whole
      | processing _ _ _ _ _ whole => exact whole
      | broken _ entered _ _ _ => cases entered.symm.trans fresh
    rw [launched]
    exact .waiting 0 (congrArg (SchedulerState.waitingForTick :: ·) fresh) started rfl whole
  | step _ step => exact phase.stepped step

theorem Phase.after (phase : s.Phase) (moves : List Move) : (s.after moves).Phase := by
  induction moves generalizing s with
  | nil => exact phase
  | cons move rest ih => exact ih (phase.moved move)

/-- The states set so far, in order. -/
def states (s : Scheduler) : List SchedulerState :=
  .idle :: s.entered.reverse

theorem Phase.states (phase : s.Phase) : ∃ ticks, s.states <+: life ticks := by
  have working (ticks : Nat) (entered : s.entered = .processing :: waits ticks) :
      s.states <+: life (ticks + 1) := by
    rw [Scheduler.states, entered, life, List.reverse_cons, SchedulerState.reverse_waits,
      List.replicate_succ', List.flatten_append, List.flatten_singleton]
    exact ⟨[.waitingForTick, .stopped], by simp⟩
  cases phase with
  | idle entered =>
    refine ⟨0, ?_⟩
    rw [Scheduler.states, entered]
    exact ⟨[.waitingForTick, .stopped], rfl⟩
  | waiting ticks entered =>
    refine ⟨ticks, ?_⟩
    rw [Scheduler.states, entered, SchedulerState.reverse_waits]
    exact ⟨[.stopped], by simp [life]⟩
  | processing ticks _ entered => exact ⟨ticks + 1, working ticks entered⟩
  | stopped ticks entered =>
    refine ⟨ticks, ?_⟩
    rw [Scheduler.states, entered, List.reverse_cons, SchedulerState.reverse_waits]
    exact ⟨[], by simp [life]⟩
  | broken ticks entered => exact ⟨ticks + 1, working ticks entered⟩

theorem Phase.entered_ne_nil (phase : s.Phase) {loop : Loop} (running : s.loop = some loop) :
    s.entered ≠ [] := by
  cases busy : loop.pending with
  | none =>
    obtain ⟨ticks, entered, _⟩ := phase.when_free running busy
    rw [entered]
    exact SchedulerState.waits_ne_nil ticks
  | some pending =>
    obtain ⟨ticks, entered, _⟩ := phase.when_busy running busy
    rw [entered]
    exact List.cons_ne_nil _ _

theorem Phase.state_ne_stopped (phase : s.Phase) {loop : Loop} (running : s.loop = some loop) :
    s.state ≠ .stopped := by
  cases busy : loop.pending with
  | none =>
    obtain ⟨ticks, entered, _⟩ := phase.when_free running busy
    rw [state, entered]
    cases ticks <;> exact nofun
  | some pending =>
    obtain ⟨ticks, entered, _⟩ := phase.when_busy running busy
    rw [state, entered]
    exact nofun

end Scheduler

end Datebook
