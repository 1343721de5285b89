import Datebook.Proofs.Scheduler.Course
import Datebook.Proofs.Scheduler.Reminders

/-!
How far the loop is from its rest.

Every step of the loop at the moment when it is due brings the end of its tick closer, and there are
only so many ticks before any moment. So the steps that `advanceTo` allows are always enough: to let
time pass is a prompt history, in which nothing that is due is left behind.
Main statement: `Scheduler.advanceTo_prompt`.
-/

set_option autoImplicit false

namespace Datebook

namespace Tick

/-- A bound on the calls that end before a tick does, over a store of so many events. -/
def settlementsLeft (config : SchedulerConfig) (events : Nat) (tick : Tick) : Nat :=
  match tick.stage with
  | .listing => 1 + config.callsEach * events
  | .lookup _ _ | .publish _ _ _ => tick.callsLeft config
  | .finished => 1

theorem settlementsLeft_pos (config : SchedulerConfig) (events : Nat) (tick : Tick) :
    0 < tick.settlementsLeft config events := by
  obtain ⟨report, stage⟩ := tick
  cases stage <;> simp only [settlementsLeft, callsLeft] <;> omega

theorem settlementsLeft_stageOf {config : SchedulerConfig} {events : List Event}
    {report : TickReport} {request : Request}
    (next : (Tick.mk report (stageOf config events)).request? = some request) (count : Nat) :
    (Tick.mk report (stageOf config events)).settlementsLeft config count =
      config.callsEach * events.length := by
  rw [← callsLeft_stageOf config events report]
  cases events with
  | nil => cases next
  | cons event rest =>
    rw [stageOf]
    split <;> rfl

theorem callsLeft_lookup (config : SchedulerConfig) (report : TickReport) (event : Event)
    (email : Option String) (rest : List Event) :
    (Tick.mk report (.lookup event rest)).callsLeft config =
      (Tick.mk report (.publish event email rest)).callsLeft config + 1 := by
  simp only [callsLeft]
  omega

/-- A call that ends brings the end of its tick closer. -/
theorem settlementsLeft_settle {config : SchedulerConfig} {verdict : Verdict} {tick next : Tick}
    {services others : Services} {request : Request}
    (settled : tick.settle config verdict services = (next, others))
    (goesOn : next.request? = some request) :
    next.settlementsLeft config services.store.eventCount <
      tick.settlementsLeft config services.store.eventCount := by
  have result := congrArg Prod.fst settled
  obtain ⟨report, stage⟩ := tick
  cases stage with
  | listing =>
    cases verdict with
    | answered =>
      dsimp only [settle, Services.list, afterListing] at result
      subst result
      rw [settlementsLeft_stageOf goesOn]
      have listed : (services.store.listDue report.windowStart report.windowEnd).length ≤
          services.store.eventCount := by
        rw [Store.listDue, List.length_mergeSort, Store.eventCount, Table.size]
        exact Nat.le_trans (List.length_filter_le _ _) (Nat.le_of_eq (List.length_map _))
      have bound := Nat.mul_le_mul_left config.callsEach listed
      simp only [settlementsLeft]
      omega
    | failed | late =>
      dsimp only [settle, Services.list, afterListing] at result
      subst result
      cases goesOn
  | lookup event rest =>
    dsimp only [settle] at result
    subst result
    simp only [settlementsLeft]
    rw [callsLeft_lookup config report event]
    exact Nat.lt_succ_self _
  | publish event email rest =>
    dsimp only [settle] at result
    subst result
    rw [settlementsLeft_stageOf goesOn]
    simp only [settlementsLeft, callsLeft, SchedulerConfig.callsEach]
    omega
  | finished =>
    dsimp only [settle] at result
    subst result
    cases goesOn

end Tick

namespace Ticker

variable {ticker : Ticker} {now target : Nat}

/-- A bound on the deadlines that are met before a millisecond. -/
def countBefore (target : Nat) (ticker : Ticker) : Nat :=
  (1000000 * target - ticker.deadline + (ticker.period - 1)) / ticker.period

theorem countBefore_le (positive : 0 < ticker.period) (target : Nat) :
    ticker.countBefore target ≤ 1000000 * target / ticker.period + 1 := by
  rw [countBefore, ← Nat.add_div_right _ positive]
  exact Nat.div_le_div_right (by omega)

theorem fire_period (ticker : Ticker) (now : Nat) : (ticker.fire now).period = ticker.period := by
  rw [fire]
  split <;> rfl

/-- A deadline that is met leaves one less. -/
theorem countBefore_fire (positive : 0 < ticker.period) (due : ticker.due ≤ now)
    (before : now < target) :
    (ticker.fire now).countBefore target < ticker.countBefore target := by
  have met : ticker.deadline ≤ 1000000 * now := by
    rw [Ticker.due] at due
    omega
  have later : ticker.deadline + ticker.period ≤ (ticker.fire now).deadline := by
    rw [fire]
    split <;> dsimp only <;> omega
  rw [countBefore, countBefore, fire_period]
  generalize (ticker.fire now).deadline = next at later
  by_cases far : 1000000 * target < ticker.deadline + ticker.period
  · rw [Nat.div_eq_of_lt (by omega)]
    exact Nat.div_pos (by omega) positive
  · have shorter : 1000000 * target - next + (ticker.period - 1) + ticker.period ≤
        1000000 * target - ticker.deadline + (ticker.period - 1) := by omega
    have less := Nat.div_le_div_right (c := ticker.period) shorter
    rw [Nat.add_div_right _ positive] at less
    exact less

end Ticker

namespace Scheduler

variable {s t : Scheduler}

/-- A bound on the steps of the loop until it has ended, once a shutdown is in. -/
def settlementsLeft (s : Scheduler) : Nat :=
  match s.loop with
  | none => 0
  | some loop =>
    match loop.pending with
    | none => 1
    | some pending =>
      pending.tick.settlementsLeft s.config s.services.store.eventCount + 1

theorem settlementsLeft_pos {loop : Loop} (running : s.loop = some loop) :
    0 < s.settlementsLeft := by
  rw [settlementsLeft, running]
  dsimp only
  split <;> omega

theorem callsEach_mul_le (s : Scheduler) : s.config.callsEach * s.services.store.eventCount ≤
    2 * s.services.store.eventCount := by
  refine Nat.mul_le_mul_right _ ?_
  rcases s.config.callsEach_cases with one | two <;> omega

theorem settlementsLeft_le_stepsLeft (s : Scheduler) : s.settlementsLeft ≤ s.stepsLeft := by
  rw [settlementsLeft, stepsLeft]
  cases s.loop with
  | none => exact Nat.zero_le _
  | some loop =>
    cases busy : loop.pending with
    | none =>
      simp only [Option.bind_some, busy]
      omega
    | some pending =>
      obtain ⟨⟨report, stage⟩, verdict, due⟩ := pending
      simp only [Option.bind_some, busy]
      have each := s.callsEach_mul_le
      cases stage <;> simp only [Tick.settlementsLeft, Tick.callsLeft] <;> omega

theorem nextDue?_met {due : Nat} (next : s.nextDue? = some due) :
    { s with now := due }.nextDue? = some due := by
  have met (later : Nat) : max (max s.now later) later = max s.now later :=
    Nat.max_eq_left (Nat.le_max_right s.now later)
  rw [nextDue?] at next ⊢
  obtain ⟨loop, running, rfl⟩ := Option.map_eq_some_iff.mp next
  simp only [running, Option.map_some, Option.some_inj]
  cases loop.pending with
  | some pending => exact met pending.due
  | none =>
    cases loop.shutdown with
    | true => rfl
    | false => exact met loop.ticker.due

/-- A step of the loop that is due brings its rest closer, unless it begins a tick. -/
theorem Stepped.progress (step : s.Stepped t) {due : Nat} (next : s.nextDue? = some due)
    (reached : due ≤ s.now) :
    t.settlementsLeft < s.settlementsLeft ∧
        (∀ ticker ∈ t.loop.map (·.ticker), ticker ∈ s.loop.map (·.ticker)) ∨
      ∃ loop, s.loop = some loop ∧ loop.shutdown = false ∧ loop.ticker.due ≤ s.now ∧
        t.loop.map (·.ticker) = some (loop.ticker.fire s.now) ∧
        t.settlementsLeft ≤ 2 * s.services.store.eventCount + 2 := by
  have kept := step.store
  cases step with
  | rest quiet => exact absurd (quiet due next) (Nat.not_lt.mpr reached)
  | stop running free _ | breakOff running free _ _ _ =>
    refine Or.inl ⟨?_, fun _ member => nomatch member⟩
    simp only [settlementsLeft, running, free]
    exact Nat.zero_lt_one
  | @begin loop start running free goesOn due reading =>
    refine Or.inr ⟨loop, running, goesOn, due, rfl, ?_⟩
    have each := s.callsEach_mul_le
    simp only [settlementsLeft, dispatch, Tick.settlementsLeft, Tick.opening, Services.countTick]
    omega
  | @goOn loop pending tick services request running busy _ settled asks =>
    have store : services.store = s.services.store := kept
    refine Or.inl ⟨?_, by rw [running]; exact fun _ member => member⟩
    simp only [settlementsLeft, running, busy, dispatch, store]
    exact Nat.succ_lt_succ (Tick.settlementsLeft_settle settled asks)
  | @finish loop pending tick services running busy _ settled asks =>
    refine Or.inl ⟨?_, by rw [running]; exact fun _ member => member⟩
    simp only [settlementsLeft, running, busy]
    exact Nat.lt_add_of_pos_left (Tick.settlementsLeft_pos _ _ _)

/-- The timer of the loop runs by the configured period. -/
def Metered (s : Scheduler) : Prop :=
  ∀ ticker ∈ s.loop.map (·.ticker), ticker.period = s.config.period.nanos ∧ 0 < ticker.period

theorem Metered.of_accepted {shutdown : Bool} (accepted : s.accept shutdown = (.ok (), t)) :
    t.Metered := by
  have positive : 0 < s.config.period.nanos := by
    rw [Nat.pos_iff_ne_zero]
    intro zero
    rw [accept, if_pos zero] at accepted
    cases accepted
  obtain ⟨timer, started, rfl⟩ := accept_ok accepted
  intro ticker member
  cases member
  rw [Ticker.start?] at started
  split at started
  · cases started
    exact ⟨rfl, positive⟩
  · cases started

/-- A bound on the steps of the loop before a millisecond. -/
def stepsBefore (s : Scheduler) (target : Nat) : Nat :=
  match s.loop.map (·.ticker) with
  | none => 0
  | some ticker =>
    s.settlementsLeft + ticker.countBefore target * (2 * s.services.store.eventCount + 4)

theorem Metered.stepsBefore_le (metered : s.Metered) (target : Nat) :
    s.stepsBefore target ≤ s.stepBound target := by
  rw [stepsBefore]
  split
  · exact Nat.zero_le _
  · rename_i ticker running
    obtain ⟨period, positive⟩ := metered ticker running
    have count := ticker.countBefore_le positive target
    rw [stepBound, ← period]
    exact Nat.add_le_add s.settlementsLeft_le_stepsLeft
      (Nat.mul_le_mul_right _ (Nat.le_succ_of_le count))

/-- Each step before a millisecond leaves fewer. -/
theorem Metered.stepped (metered : s.Metered) (step : s.Stepped t) {due target : Nat}
    (next : s.nextDue? = some due) (reached : due ≤ s.now) (before : s.now < target) :
    t.Metered ∧ t.stepsBefore target < s.stepsBefore target := by
  have events : t.services.store.eventCount = s.services.store.eventCount := by rw [step.store]
  obtain ⟨loop, running, _⟩ := Option.map_eq_some_iff.mp next
  have ticking : s.loop.map (·.ticker) = some loop.ticker := by rw [running]; rfl
  obtain ⟨period, positive⟩ := metered loop.ticker ticking
  have bound : s.stepsBefore target = s.settlementsLeft +
      loop.ticker.countBefore target * (2 * s.services.store.eventCount + 4) := by
    rw [stepsBefore, ticking]
  rcases step.progress next reached with ⟨closer, same⟩ | ⟨other, goes, _, late, fired, few⟩
  · constructor
    · intro ticker member
      rw [step.config]
      exact metered ticker (same ticker member)
    · rw [bound, stepsBefore]
      split
      · omega
      · rename_i ticker goesOn
        obtain rfl : loop.ticker = ticker := by
          have member := same ticker goesOn
          rw [ticking] at member
          exact Option.some.inj member
        rw [events]
        omega
  · obtain rfl : other = loop := Option.some.inj (goes.symm.trans running)
    constructor
    · intro ticker member
      rw [fired] at member
      cases member
      rw [Ticker.fire_period, step.config]
      exact ⟨period, positive⟩
    · have fewer := Nat.mul_le_mul_right (2 * s.services.store.eventCount + 4)
        (Nat.succ_le_of_lt (Ticker.countBefore_fire positive late before))
      rw [Nat.succ_mul] at fewer
      rw [bound, stepsBefore, fired]
      dsimp only
      rw [events]
      omega

theorem now_le_nextDue {due : Nat} (next : s.nextDue? = some due) : s.now ≤ due := by
  obtain ⟨loop, running, rfl⟩ := Option.map_eq_some_iff.mp next
  cases loop.pending with
  | some pending => exact Nat.le_max_left _ _
  | none =>
    dsimp only
    split
    · exact Nat.le_refl _
    · exact Nat.le_max_left _ _

/-- Time passes up to a millisecond when nothing is due before it. -/
theorem passes_to {target : Nat} (quiet : ∀ due ∈ s.nextDue?, target ≤ due) :
    { s with now := max s.now target } = s.after [.pass (target - s.now)] ∧
      s.Prompt [.pass (target - s.now)] := by
  have reached : s.now + (target - s.now) = max s.now target := by omega
  constructor
  · rw [← reached]
    rfl
  · refine ⟨?_, trivial⟩
    intro due next
    rw [reached]
    exact Nat.max_le.mpr ⟨now_le_nextDue next, quiet due next⟩

theorem Metered.advanceWithin_prompt (steps target : Nat) (metered : s.Metered)
    (enough : s.stepsBefore target ≤ steps) :
    ∃ moves, s.advanceWithin target steps = s.after moves ∧ s.Prompt moves := by
  induction steps generalizing s with
  | zero =>
    refine ⟨_, passes_to ?_⟩
    intro due next
    have none_left := Nat.le_zero.mp enough
    obtain ⟨loop, running, _⟩ := Option.map_eq_some_iff.mp next
    have some_left := settlementsLeft_pos running
    rw [stepsBefore, running] at none_left
    dsimp only [Option.map_some] at none_left
    omega
  | succ steps ih =>
    rw [advanceWithin]
    cases next : s.nextDue? with
    | none =>
      refine ⟨_, passes_to ?_⟩
      intro due same
      rw [next] at same
      cases same
    | some due =>
      by_cases before : due < target
      · -- The loop is taken to the moment when it is due, which changes nothing else, and polled.
        have waited : s.moved (.pass (due - s.now)) = { s with now := due } := by
          rw [moved, Nat.add_sub_of_le (now_le_nextDue next)]
        have still : { s with now := due }.Metered := metered
        obtain ⟨meteredToo, fewer⟩ := still.stepped { s with now := due }.loopStep_stepped
          (nextDue?_met next) (Nat.le_refl due) before
        obtain ⟨moves, reached, prompt⟩ :=
          ih meteredToo (Nat.le_of_lt_succ (Nat.lt_of_lt_of_le fewer enough))
        refine ⟨.pass (due - s.now) :: .poll :: moves, ?_, ?_, trivial, ?_⟩
        · simp only [if_pos before]
          rw [reached, after, after, List.foldl_cons, List.foldl_cons, waited]
          rfl
        · intro other same
          rw [next] at same
          cases same
          exact Nat.le_of_eq (Nat.add_sub_of_le (now_le_nextDue next))
        · rw [waited]
          exact prompt
      · simp only [if_neg before]
        refine ⟨_, passes_to ?_⟩
        intro other same
        rw [next] at same
        cases same
        exact Nat.not_lt.mp before

/-- To let time pass is to wait for what is due and do it, again and again, until nothing is due
before the moment to reach. -/
theorem advanceTo_prompt (metered : s.Metered) (target : Nat) :
    ∃ moves, s.advanceTo target = s.after moves ∧ s.Prompt moves :=
  metered.advanceWithin_prompt _ target (metered.stepsBefore_le target)

end Scheduler

end Datebook
