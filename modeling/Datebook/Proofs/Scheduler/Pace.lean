import Datebook.Fixture
import Datebook.Proofs.Scheduler.Record

/-!
A run that keeps up.

When no tick takes longer than the period and the loop never lags behind, ticks begin whole periods
after the run, and their windows lie end to end. Main statement: `Scheduler.run_keeps_pace`.
-/

set_option autoImplicit false

namespace Datebook

namespace Scheduler

variable {timer : Ticker} {s t u : Scheduler} {ticks : List TickRecord} {base : Instant}
  {millis : Nat}

/-- A tick in progress began at most so many milliseconds ago. -/
def InTime (millis : Nat) (s : Scheduler) : Prop :=
  (s.loop.bind (·.pending)).isSome → ∀ tick ∈ s.ticks.head?, s.now ≤ tick.begun + millis

instance (millis : Nat) (s : Scheduler) : Decidable (s.InTime millis) :=
  inferInstanceAs (Decidable (_ → _))

/-- No tick takes longer than so many milliseconds. -/
def KeepsUp (millis : Nat) (s : Scheduler) (moves : List Move) : Prop :=
  s.Along (fun u move => (u.moved move).InTime millis) moves

instance (millis : Nat) (s : Scheduler) (moves : List Move) : Decidable (s.KeepsUp millis moves) :=
  inferInstanceAs (Decidable (s.Along _ moves))

/-- Each tick so far began exactly when it was due, and the next one is not overdue. -/
structure OnTime (timer : Ticker) (t u : Scheduler) (ticks : List TickRecord) : Prop where
  follows : Follows Eq (fun _ => True) timer t u ticks
  before : ∀ ticker ∈ u.loop.map (·.ticker), u.now ≤ ticker.due
  ended : u.loop = none → u.state = .stopped ∨ t.clock.now? (timer.after ticks).due = none

/-- A run that has just been accepted, with its first deadline to come. -/
theorem OnTime.of_accepted {shutdown : Bool} (accepted : s.accept shutdown = (.ok (), t))
    (loop : t.loop = some { ticker := timer, shutdown }) (toCome : t.now ≤ timer.due) :
    OnTime timer t t [] where
  follows := .of_accepted accepted loop
  before ticker member := by
    rw [loop] at member
    cases member
    exact toCome
  ended gone := by
    rw [loop] at gone
    cases gone

theorem OnTime.stepped (whole : timer.Whole millis) (onTime : OnTime timer t s ticks)
    (step : s.Stepped u) : ∃ more, OnTime timer t u more := by
  obtain ⟨follows, before, ended⟩ := onTime
  have met {loop : Loop} (running : s.loop = some loop) (due : loop.ticker.due ≤ s.now) :
      loop.ticker.due = s.now :=
    Nat.le_antisymm due (before loop.ticker (by rw [running]; rfl))
  obtain ⟨more, followsToo⟩ := follows.stepped (fun _ _ => trivial)
    (fun loop running _ due => met running due) step
  refine ⟨more, followsToo, ?_, ?_⟩
  · intro ticker member
    cases step with
    | rest quiet => exact before ticker member
    | stop running free shutdown | breakOff running free goesOn due unread => cases member
    | @begin loop start running free goesOn due reading =>
      cases member
      have wholeToo : loop.ticker.Whole millis := by
        rw [follows.ticker loop.ticker (by rw [running]; rfl)]
        exact whole.after ticks
      have exact := met running due
      rw [wholeToo.due_fire, if_neg (by omega)]
      dsimp only
      omega
    | goOn running _ _ _ _ | finish running _ _ _ _ =>
      cases member
      exact before _ (by rw [running]; rfl)
  · intro gone
    cases step with
    | rest quiet =>
      rw [follows.ticks_unique followsToo rfl]
      exact ended gone
    | stop running free shutdown => exact Or.inl rfl
    | @breakOff loop running free goesOn due unread =>
      right
      rw [follows.ticks_unique followsToo rfl, ← follows.ticker loop.ticker (by rw [running]; rfl),
        met running due, ← follows.clock]
      exact unread
    | begin running _ _ _ _ | goOn running _ _ _ _ | finish running _ _ _ _ => cases gone

/-- Ticks that begin when they are due begin a period apart. -/
theorem Regular.due_after (whole : timer.Whole millis)
    (regular : s.Regular Eq (fun _ => True) timer ticks) :
    (timer.after ticks).due = timer.due + ticks.length * millis := by
  induction ticks with
  | nil => exact (Nat.add_zero _).symm.trans (congrArg _ (Nat.zero_mul _).symm)
  | cons tick earlier ih =>
    have due := ih regular.2
    have met := regular.1.timely
    rw [Ticker.after, (whole.after earlier).due_fire, if_neg (by omega), due, List.length_cons,
      Nat.succ_mul, Nat.add_assoc]

/-- As long as the loop does not lag and its ticks take no longer than a period, time goes no
further than to the next deadline. -/
theorem OnTime.passed (whole : timer.Whole millis) (onTime : OnTime timer t s ticks) {span : Nat}
    (waits : s.Waits (.pass span)) (inTime : (s.moved (.pass span)).InTime millis) :
    ∀ ticker ∈ s.loop.map (·.ticker), s.now + span ≤ ticker.due := by
  obtain ⟨follows, before, _⟩ := onTime
  intro ticker member
  have reached := before ticker member
  obtain ⟨loop, running, rfl⟩ := Option.map_eq_some_iff.mp member
  cases busy : loop.pending with
  | none =>
    have limit := waits (if loop.shutdown then s.now else max s.now loop.ticker.due)
      (by rw [nextDue?, running, Option.map_some, busy]; rfl)
    split at limit <;> omega
  | some pending =>
    obtain ⟨tick, earlier, rfl, _⟩ :=
      follows.busy pending (by rw [running, Option.bind_some, busy]; rfl)
    have limit := inTime (by rw [moved, running, Option.bind_some, busy]; rfl) tick
      (by rw [show (s.moved (.pass span)).ticks = s.ticks from rfl, follows.records]; rfl)
    have exact := follows.regular.1.timely
    rw [follows.ticker loop.ticker member, Ticker.after, (whole.after earlier).due_fire,
      if_neg (by omega), exact]
    exact limit

theorem OnTime.moved (whole : timer.Whole millis) (onTime : OnTime timer t s ticks)
    (running : t.clock = .running base) {move : Move} (waits : s.Waits move)
    (inTime : (s.moved move).InTime millis) : ∃ more, OnTime timer t (s.moved move) more := by
  cases s.moved_advanced move with
  | aside same now =>
    refine ⟨ticks, onTime.follows.undisturbed running same, ?_, ?_⟩
    · rw [same.ticker, now]
      cases move with
      | pass span => exact onTime.passed whole waits inTime
      | _ => exact onTime.before
    · intro gone
      rw [state, same.entered]
      exact onTime.ended (same.loop_none.mp gone)
  | launch _ fresh _ => exact absurd fresh onTime.follows.launched
  | step _ step => exact onTime.stepped whole step

theorem OnTime.after (whole : timer.Whole millis) (onTime : OnTime timer t s ticks)
    (running : t.clock = .running base) {moves : List Move} (prompt : s.Prompt moves)
    (inTime : s.KeepsUp millis moves) :
    ∃ more, OnTime timer t (s.after moves) more := by
  induction moves generalizing s ticks with
  | nil => exact ⟨ticks, onTime⟩
  | cons move rest ih =>
    obtain ⟨more, still⟩ := onTime.moved whole running prompt.1 inTime.1
    exact ih still prompt.2 inTime.2

/-- In a run whose loop never lags and whose ticks take no longer than the period, the ticks begin
one, two, three periods after the run and so on, until it stops or the clock leaves its range. The
window of each is the period that begins then, and ends where the next one starts. -/
theorem run_keeps_pace {shutdown : Bool} {moves : List Move}
    (accepted : s.accept shutdown = (.ok (), t)) (running : s.clock = .running base)
    (whole : s.config.period.nanos = 1000000 * millis) (prompt : t.Prompt moves)
    (inTime : t.KeepsUp millis moves) :
    ∃ ticks, (t.after moves).ticks = ticks ++ s.ticks ∧
      (∀ later tick earlier, ticks = later ++ tick :: earlier →
        tick.begun = s.now + (earlier.length + 1) * millis ∧
          s.clock.now? tick.begun = some tick.start ∧
          tick.stop = (s.clock.now? (tick.begun + millis)).getD .last) ∧
      (∀ later second first earlier, ticks = later ++ second :: first :: earlier →
        first.stop = second.start) ∧
      ((t.after moves).state = .stopped ∨
        s.clock.now? (s.now + (ticks.length + 1) * millis) = none ∨
        (t.after moves).now ≤ s.now + (ticks.length + 1) * millis) := by
  obtain ⟨timer, started, launched⟩ := accept_ok accepted
  obtain ⟨wholeTimer, first⟩ := Ticker.start?_whole whole started
  have loop : t.loop = some { ticker := timer, shutdown } := by rw [launched]
  have clock : t.clock = s.clock := by rw [launched]; rfl
  have config : t.config = s.config := by rw [launched]; rfl
  have now : t.now = s.now := by rw [launched]; rfl
  have runningToo : t.clock = .running base := clock.trans running
  have onTime : OnTime timer t t [] := .of_accepted accepted loop (by omega)
  obtain ⟨ticks, follows, before, ended⟩ := onTime.after wholeTimer runningToo prompt inTime
  have due (earlier : List TickRecord)
      (regular : t.Regular Eq (fun _ => True) timer earlier) :
      (timer.after earlier).due = s.now + (earlier.length + 1) * millis := by
    rw [regular.due_after wholeTimer, first, Nat.succ_mul]
    omega
  have kept (later : List TickRecord) (tick : TickRecord) (earlier : List TickRecord)
      (split : ticks = later ++ tick :: earlier) :
      tick.begun = s.now + (earlier.length + 1) * millis ∧
        s.clock.now? tick.begun = some tick.start ∧
        tick.stop = (s.clock.now? (tick.begun + millis)).getD .last := by
    obtain ⟨kept, regular⟩ := (split ▸ follows.regular).kept
    have stop := kept.stop_eq runningToo (config ▸ whole)
    rw [clock] at stop
    exact ⟨kept.timely.symm.trans (due earlier regular), clock ▸ kept.reading, stop⟩
  refine ⟨ticks, ?_, kept, ?_, ?_⟩
  · rw [follows.records, launched]
    rfl
  · intro later second first earlier split
    obtain ⟨begun, _, stop⟩ := kept (later ++ [second]) first earlier (by rw [split]; simp)
    obtain ⟨begunNext, reading, _⟩ := kept later second (first :: earlier) split
    have next : first.begun + millis = second.begun := by
      rw [begun, begunNext, List.length_cons, Nat.succ_mul (earlier.length + 1)]
      omega
    rw [stop, next, reading]
    rfl
  · have deadline := due ticks follows.regular
    cases running : (t.after moves).loop with
    | none =>
      rcases ended running with stopped | gone
      · exact Or.inl stopped
      · rw [deadline, clock] at gone
        exact Or.inr (Or.inl gone)
    | some loop =>
      have member : loop.ticker ∈ (t.after moves).loop.map (·.ticker) := by
        rw [running]
        rfl
      have limit := before loop.ticker member
      rw [follows.ticker loop.ticker member, deadline] at limit
      exact Or.inr (Or.inr limit)

/-- Two ticks a tenth of a second apart. The first one takes all its time. -/
theorem run_keeps_pace_stalling :
    let s : Scheduler :=
      { config := { period := .ofMillis 100 }
        clock := .running (Fixture.moment 9 0)
        services := { store := .empty, queue := { topic := "reminders" } }
        plan := fun number _ => if number = 0 then .stall 100 else .ok }
    let t := (s.accept false).2
    let moves := [.pass 100, .poll, .pass 100, .poll, .poll, .poll, .pass 60]
    s.accept false = (.ok (), t) ∧ s.config.period.nanos = 1000000 * 100 ∧ t.Prompt moves ∧
      t.KeepsUp 100 moves ∧ ∃ second first, (t.after moves).ticks = [second, first] ∧
        first.begun = 100 ∧ second.begun = 200 ∧ first.stop = second.start := by
  intro s t moves
  have accepted : s.accept false = (.ok (), t) := by
    have starts : Ticker.start? s.now s.config.period =
        some { period := 100000000, deadline := 100000000 } := by decide +kernel
    show s.accept false = (.ok (), (s.accept false).2)
    rw [accept_fresh (by decide) rfl starts false]
  have whole : s.config.period.nanos = 1000000 * 100 := by decide
  have prompt : t.Prompt moves := by decide +kernel
  have inTime : t.KeepsUp 100 moves := by decide +kernel
  have running : s.clock = .running (Fixture.moment 9 0) := rfl
  obtain ⟨ticks, records, kept, touching, _⟩ := run_keeps_pace accepted running whole prompt inTime
  have begins : (t.after moves).ticks.map (·.begun) = [200, 100] := by decide +kernel
  have none : s.ticks = [] := rfl
  rw [none, List.append_nil] at records
  rw [records] at begins ⊢
  obtain ⟨second, rest, rfl, begunToo, others⟩ := List.map_eq_cons_iff.mp begins
  obtain ⟨first, none, rfl, begun, nothing⟩ := List.map_eq_cons_iff.mp others
  obtain rfl := List.map_eq_nil_iff.mp nothing
  exact ⟨accepted, whole, prompt, inTime, second, first, rfl, begun, begunToo,
    touching [] second first [] rfl⟩

end Scheduler

end Datebook
