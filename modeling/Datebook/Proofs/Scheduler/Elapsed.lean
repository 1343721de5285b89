import Datebook.Proofs.Scheduler.Progress
import Mathlib.Algebra.Ring.Nat
import Mathlib.Data.List.Basic

/-!
How long a tick takes.

Every call of a tick has a bound, so that none holds it for longer, whether it fails, stalls or
never answers. A tick takes the sum of what its calls take, one after the other, and the loop, which
goes on in the meantime, takes none of its time: `Spent`. Main statement: `Scheduler.tick_bounded`.
A timeout whose end is no moment counts as thirty years, so a call is given up long before it:
`Scheduler.tick_gives_up_early`.
-/

set_option autoImplicit false

namespace Datebook

/-- A whole number of milliseconds. -/
def Duration.WholeMillis (d : Duration) : Prop :=
  d.nanos % 1000000 = 0

instance (d : Duration) : Decidable d.WholeMillis :=
  inferInstanceAs (Decidable (_ = _))

namespace Duration

/-- A call may take its timeout, if timers count to the end of it. -/
theorem WholeMillis.patience_eq {d : Duration} (whole : d.WholeMillis) {begun : Nat}
    (counted : begun + d.millis ≤ lastTick) : d.patience begun = d.millis := by
  have last : lastTick = 0x1_0000_0000_0000_0000 - 3 := rfl
  have range : timerRange = (0x8000_0000_0000_0000 - 3600) * 1000000000 := rfl
  rw [WholeMillis] at whole
  rw [millis] at counted
  have within : 1000000 * begun + d.nanos < timerRange := by omega
  rw [patience, deadline, if_pos within, millisUp, millis]
  omega

/-- No call may take longer than its timeout. -/
theorem WholeMillis.patience_le {d : Duration} (whole : d.WholeMillis) (begun : Nat) :
    d.patience begun ≤ d.millis := by
  have last : lastTick = 0x1_0000_0000_0000_0000 - 3 := rfl
  have range : timerRange = (0x8000_0000_0000_0000 - 3600) * 1000000000 := rfl
  have years : longestPause = 946080000000 := rfl
  rw [WholeMillis] at whole
  rw [patience, deadline, millisUp, millis]
  split <;> omega

/-- Where the end of a timeout is no moment, a call may take thirty years. -/
theorem patience_of_beyond {d : Duration} {begun : Nat}
    (beyond : timerRange ≤ 1000000 * begun + d.nanos)
    (counted : begun + longestPause ≤ lastTick) : d.patience begun = longestPause := by
  rw [patience, deadline, if_neg (Nat.not_lt.mpr beyond), Nat.min_eq_right counted,
    Nat.add_sub_cancel_left]

end Duration

theorem Mode.settlement_late {limit : Nat} {mode : Mode}
    (late : (mode.settlement limit).1 = .late) : (mode.settlement limit).2 = limit := by
  cases mode with
  | ok | fail => cases late
  | hang => rfl
  | stall millis =>
    rw [settlement] at late ⊢
    split at late
    · cases late
    · rename_i long
      rw [if_neg long]

/-- Whether a call that ended so costs its event the reminder. -/
def Request.lost (refuses : String → Bool) (verdict : Verdict) : Request → Bool
  | .list .. | .lookup _ => false
  | .publish key _ => !decide (verdict = .answered ∧ !refuses key)

def TickCall.lost (refuses : String → Bool) (call : TickCall) : Bool :=
  call.request.lost refuses call.verdict

theorem Reminder.countP_lost (refuses : String → Bool) (store : Store) (reminder : Reminder) :
    (reminder.outcomes store).countP (fun outcome => outcome.1.lost refuses outcome.2) =
      if reminder.isAccepted refuses then 0 else 1 := by
  have publish : (Request.publish reminder.key (reminder.payload store)).lost refuses
      reminder.publish = !reminder.isAccepted refuses := rfl
  rw [outcomes]
  cases reminder.lookup <;>
    cases accepted : reminder.isAccepted refuses <;>
      simp [Request.lost, isAccepted] at publish accepted ⊢ <;> grind

theorem Reminder.outcomes_plain (store : Store) {reminder : Reminder}
    (plain : reminder.lookup.isSome = false) :
    reminder.outcomes store =
      [(.publish reminder.key (reminder.payload store), reminder.publish)] := by
  rw [outcomes, Option.not_isSome_iff_eq_none.mp (Bool.eq_false_iff.mp plain)]
  rfl

theorem Reminder.countP_lost_flatMap (refuses : String → Bool) (store : Store)
    (reminders : List Reminder) :
    (reminders.flatMap (Reminder.outcomes store)).countP
        (fun outcome => outcome.1.lost refuses outcome.2) =
      reminders.countP fun reminder => !reminder.isAccepted refuses := by
  induction reminders with
  | nil => rfl
  | cons reminder rest ih =>
    rw [List.flatMap_cons, List.countP_append, countP_lost, ih, List.countP_cons, Nat.add_comm]
    cases reminder.isAccepted refuses <;> rfl

/-- The most that the calls for an event take, in milliseconds. -/
def SchedulerConfig.millisEach (config : SchedulerConfig) : Nat :=
  (if config.resolveOwnerEmail then config.listTimeout.millis else 0) +
    config.publishTimeout.millis

theorem Reminder.sum_timeouts {config : SchedulerConfig} (store : Store) {reminder : Reminder}
    (lookups : reminder.lookup.isSome = config.resolveOwnerEmail) :
    ((reminder.outcomes store).map fun outcome => (outcome.1.timeout config).millis).sum =
      config.millisEach := by
  rw [SchedulerConfig.millisEach, ← lookups, outcomes]
  cases reminder.lookup with
  | none => exact Nat.add_comm _ 0
  | some verdict => rfl

theorem Reminder.sum_timeouts_flatMap {config : SchedulerConfig} (store : Store)
    {reminders : List Reminder}
    (lookups : ∀ reminder ∈ reminders, reminder.lookup.isSome = config.resolveOwnerEmail) :
    ((reminders.flatMap (Reminder.outcomes store)).map fun outcome =>
        (outcome.1.timeout config).millis).sum =
      reminders.length * config.millisEach := by
  induction reminders with
  | nil => exact (Nat.zero_mul _).symm
  | cons reminder rest ih =>
    have ⟨first, others⟩ := List.forall_mem_cons.mp lookups
    rw [List.flatMap_cons, List.map_append, List.sum_append, sum_timeouts store first, ih others,
      List.length_cons, Nat.succ_mul, Nat.add_comm]

namespace Scheduler

/-- The milliseconds that a call takes. -/
def takes (s : Scheduler) (call : TickCall) : Nat :=
  ((s.plan call.number call.request).settlement
    ((call.request.timeout s.config).patience call.begun)).2

/-- The first call begins at one millisecond, each other when the one before it ends, and the last
ends at another millisecond. -/
def InTurn (s : Scheduler) (first : Nat) : List TickCall → Nat → Prop
  | [], last => last = first
  | call :: rest, last => call.begun = first ∧ s.InTurn (first + s.takes call) rest last

variable {alone : Prop} {s t u : Scheduler}

theorem InTurn.append {calls more : List TickCall} {first middle last : Nat}
    (begun : s.InTurn first calls middle) (continued : s.InTurn middle more last) :
    s.InTurn first (calls ++ more) last := by
  induction calls generalizing first with
  | nil => exact begun ▸ continued
  | cons call rest ih => exact ⟨begun.1, ih begun.2⟩

/-- Calls in turn take the sum of what each takes. -/
theorem InTurn.last_eq {calls : List TickCall} {first last : Nat}
    (inTurn : s.InTurn first calls last) : last = first + (calls.map s.takes).sum := by
  induction calls generalizing first with
  | nil => exact inTurn
  | cons call rest ih => rw [ih inTurn.2, List.map_cons, List.sum_cons, Nat.add_assoc]

theorem Ran.takes_eq {asked : List Request} {accepted : List (String × Bytes)}
    (ran : Ran alone s t asked accepted) : t.takes = s.takes := by
  funext call
  rw [takes, takes, ran.config, ran.plan]

theorem Ran.inTurn_iff {asked : List Request} {accepted : List (String × Bytes)}
    (ran : Ran alone s t asked accepted) {calls : List TickCall} {first last : Nat} :
    t.InTurn first calls last ↔ s.InTurn first calls last := by
  induction calls generalizing first with
  | nil => exact Iff.rfl
  | cons call rest ih => rw [InTurn, InTurn, ih, ran.takes_eq]

/-- Between two moments these calls were made, one after the other and nothing in between, while
the loop may have made others. -/
structure Spent (alone : Prop) (s t : Scheduler) (calls : List TickCall) : Prop where
  inTurn : s.InTurn s.now calls t.now
  journal : Grown alone s.journal.reverse t.journal.reverse
    (calls.map fun call => (call.begun, call.request))

theorem Spent.refl (s : Scheduler) : Spent alone s s [] :=
  ⟨rfl, .same _⟩

theorem Spent.trans {calls more : List TickCall} {asked : List Request}
    {accepted : List (String × Bytes)} (first : Spent alone s t calls)
    (ran : Ran alone s t asked accepted) (second : Spent alone t u more) :
    Spent alone s u (calls ++ more) where
  inTurn := first.inTurn.append (ran.inTurn_iff.mp second.inTurn)
  journal := by
    rw [List.map_append]
    exact first.journal.trans second.journal

theorem Stepped.now (step : s.Stepped t) : t.now = s.now := by
  cases step <;> rfl

theorem Stepped.journal (step : s.Stepped t) : ∃ new, t.journal = new ++ s.journal := by
  cases step with
  | begin | goOn => exact ⟨[_], rfl⟩
  | rest | stop | breakOff | finish => exact ⟨[], rfl⟩

/-- Letting time pass ends at the moment to reach, whatever the loop does on the way. -/
theorem advanceWithin_now (target steps : Nat) :
    (s.advanceWithin target steps).now = max s.now target := by
  induction steps generalizing s with
  | zero => rfl
  | succ steps ih =>
    rw [advanceWithin]
    cases next : s.nextDue? with
    | none => rfl
    | some due =>
      by_cases before : due < target
      · have later := now_le_nextDue next
        simp only [if_pos before]
        rw [ih, (loopStep_stepped _).now]
        dsimp only
        omega
      · simp only [if_neg before]

theorem advanceWithin_journal (idle : alone → s.loop = none) (target steps : Nat) :
    Grown alone s.journal.reverse (s.advanceWithin target steps).journal.reverse [] := by
  induction steps generalizing s with
  | zero => exact .same _
  | succ steps ih =>
    rw [advanceWithin]
    cases next : s.nextDue? with
    | none => exact .same _
    | some due =>
      by_cases before : due < target
      · -- Something is due only while a loop runs, and then its own calls are no concern.
        have disturbed : ¬alone := by
          intro undisturbed
          rw [nextDue?, idle undisturbed] at next
          cases next
        simp only [if_pos before]
        obtain ⟨new, grown⟩ := (loopStep_stepped { s with now := due }).journal
        have stepped : Grown alone s.journal.reverse
            { s with now := due }.loopStep.journal.reverse [] := by
          rw [grown, List.reverse_append]
          exact ⟨_, rfl, List.nil_sublist _, fun undisturbed => absurd undisturbed disturbed⟩
        exact stepped.trans (ih fun undisturbed => absurd undisturbed disturbed)
      · simp only [if_neg before]
        exact .same _

/-- A call of a tick outside the loop takes as long as the plan says. -/
theorem callStep_spent (idle : alone → s.loop = none) {tick : Tick} {request : Request}
    (next : tick.request? = some request) :
    Spent alone s (s.callStep tick).2
      [⟨s.journal.length, s.now, request, s.verdictAt s.journal.length request⟩] := by
  rw [callStep_eq next]
  constructor
  · refine ⟨rfl, ?_⟩
    show ((s.dispatch tick request).2.advanceTo (s.dispatch tick request).1.due).now = _
    rw [advanceTo, advanceWithin_now]
    exact Nat.max_eq_right (Nat.le_add_right s.now _)
  · have begun : Grown alone s.journal.reverse (s.dispatch tick request).2.journal.reverse
        [(s.now, request)] := by
      show Grown alone s.journal.reverse ((s.now, request) :: s.journal).reverse _
      rw [List.reverse_cons]
      exact .by_entries _ _
    have waited := advanceWithin_journal (s := (s.dispatch tick request).2) idle
      (s.dispatch tick request).1.due
      ((s.dispatch tick request).2.stepBound (s.dispatch tick request).1.due)
    exact begun.trans waited

theorem callsWithin_spent (idle : alone → s.loop = none) (calls : Nat) (tick : Tick) :
    Spent alone s (s.callSteps calls tick).2 (s.callsWithin calls tick) := by
  induction calls generalizing s tick with
  | zero => exact .refl s
  | succ calls ih =>
    cases next : tick.request? with
    | none =>
      rw [callSteps_finished next, callsWithin_finished next]
      exact .refl s
    | some request =>
      have ran := (callStep_ran idle next).2
      rw [callSteps_succ, callsWithin_succ next]
      exact (callStep_spent idle next).trans ran (ih ran.idle (s.callStep tick).1)

/-- A tick outside the loop takes as long as its calls, which are made one after the other. -/
theorem tick_spent (s : Scheduler) : Spent (s.loop = none) s s.tick.2 s.tickCalls := by
  have opened : Ran (s.loop = none) s s.openTick.2 [] [] := openTick_ran id
  have began : Spent (s.loop = none) s s.openTick.2 [] := ⟨rfl, .same _⟩
  rw [tick, tickCalls]
  generalize s.openTick = result at opened began
  obtain ⟨_ | tick, t⟩ := result
  · exact began
  · obtain ⟨_, _, ran⟩ := callSteps_ran opened.idle 1 tick
    have listing := callsWithin_spent opened.idle 1 tick
    have events := callsWithin_spent ran.idle ((t.callStep tick).1.callsLeft
      (t.callStep tick).2.config) (t.callStep tick).1
    exact began.trans opened (listing.trans ran events)

/-- If no call takes longer than its timeout, all of them together do not either. -/
theorem sum_takes_le {calls : List TickCall}
    (each : ∀ call ∈ calls, s.takes call ≤ (call.request.timeout s.config).millis) :
    (calls.map s.takes).sum ≤
      (calls.map fun call => (call.request.timeout s.config).millis).sum := by
  induction calls with
  | nil => exact Nat.le_refl 0
  | cons call rest ih =>
    obtain ⟨first, others⟩ := List.forall_mem_cons.mp each
    rw [List.map_cons, List.sum_cons, List.map_cons, List.sum_cons]
    exact Nat.add_le_add first (ih others)

variable {report : TickReport} {reminders : List Reminder}

theorem Reminds.length (reminds : s.Reminds report reminders) :
    reminders.length = report.found := by
  rw [reminds.found, ← reminds.events, List.length_map]

/-- The timeouts of the calls of a tick add up by the number of its events. -/
theorem Reminds.sum_timeouts (reminds : s.Reminds report reminders) :
    (s.tickCalls.map fun call => (call.request.timeout s.config).millis).sum =
      s.config.listTimeout.millis + report.found * s.config.millisEach := by
  have outcomes :=
    congrArg (List.map fun outcome => (outcome.1.timeout s.config).millis) reminds.outcomes
  rw [List.map_map, List.map_cons] at outcomes
  have timeouts :
      (s.tickCalls.map fun call => (call.request.timeout s.config).millis) = _ := outcomes
  rw [timeouts, List.sum_cons, Reminder.sum_timeouts_flatMap _ reminds.lookups, reminds.length]
  rfl

/-- The failures that a tick reports are the publish calls that the queue did not accept. -/
theorem Reminds.failed_eq (reminds : s.Reminds report reminders) :
    report.failed = s.tickCalls.countP (TickCall.lost s.services.queue.refuses) := by
  let lost : Request × Verdict → Bool := fun outcome =>
    outcome.1.lost s.services.queue.refuses outcome.2
  have counted : s.tickCalls.countP (TickCall.lost s.services.queue.refuses) =
      reminders.countP fun reminder => !reminder.isAccepted s.services.queue.refuses := by
    rw [show TickCall.lost s.services.queue.refuses = lost ∘ TickCall.outcome from rfl,
      ← List.countP_map, reminds.outcomes, List.countP_cons_of_neg Bool.false_ne_true,
      Reminder.countP_lost_flatMap]
  have all := Reminder.countP_isAccepted_add s.services.queue.refuses reminders
  have total := reminds.total
  have published : report.published =
      reminders.countP fun reminder => reminder.isAccepted s.services.queue.refuses :=
    reminds.published
  rw [reminds.length] at all
  rw [counted]
  omega

/-- A call that answers in time is answered, and one that does not is given up when its time is
over. That is its timeout, if timers count to the end of it, and never more. -/
structure Bounded (s : Scheduler) (call : TickCall) : Prop where
  takes_le : s.takes call ≤ (call.request.timeout s.config).millis
  timely : call.begun + (call.request.timeout s.config).millis ≤ lastTick →
    (call.request.timeout s.config).patience call.begun = (call.request.timeout s.config).millis
  prompt : s.plan call.number call.request = .ok → call.verdict = .answered
  slow : ∀ millis, s.plan call.number call.request = .stall millis →
    (call.verdict = .answered ↔ millis ≤ (call.request.timeout s.config).patience call.begun)
  failing : s.plan call.number call.request = .fail → call.verdict = .failed
  hanging : s.plan call.number call.request = .hang → call.verdict = .late
  late : call.verdict = .late →
    s.takes call = (call.request.timeout s.config).patience call.begun

theorem bounded_of_verdict {call : TickCall}
    (whole : (call.request.timeout s.config).WholeMillis)
    (verdict : call.verdict = s.verdictFrom call.begun call.number call.request) :
    s.Bounded call where
  takes_le := Nat.le_trans (Mode.settlement_le _ _) (whole.patience_le _)
  timely := whole.patience_eq
  prompt ok := by
    rw [verdict, verdictFrom, ok]
    rfl
  slow millis stalls := by
    rw [verdict, verdictFrom, stalls, Mode.settlement]
    split
    · rename_i inTime
      exact iff_of_true rfl inTime
    · rename_i long
      exact iff_of_false (fun same => by cases same) long
  failing fails := by
    rw [verdict, verdictFrom, fails]
    rfl
  hanging hangs := by
    rw [verdict, verdictFrom, hangs]
    rfl
  late late := by
    rw [verdict, verdictFrom] at late
    exact Mode.settlement_late late

/-- A tick ends, whatever its calls do. If its listing is not answered it takes at most the time of
the listing, and if it is, at most that and the time of the calls for each event that it found. It
reports as failed the events whose publish call was not accepted, such as those that were given up.
Each call begins when the one before it ends. -/
theorem tick_bounded (s : Scheduler) {now : Instant} (reading : s.clock.now? s.now = some now)
    (wholeList : s.config.listTimeout.WholeMillis)
    (wholePublish : s.config.publishTimeout.WholeMillis) :
    ∃ report, s.tick.1 = some report ∧
      report.published + report.failed = report.found ∧
      report.failed = s.tickCalls.countP (TickCall.lost s.services.queue.refuses) ∧
      (s.verdictAt s.journal.length (s.listing now) ≠ .answered →
        report.listFailed = true ∧ s.tick.2.now ≤ s.now + s.config.listTimeout.millis) ∧
      (s.verdictAt s.journal.length (s.listing now) = .answered →
        report.listFailed = false ∧
          s.tick.2.now ≤ s.now + (s.config.listTimeout.millis + report.found *
            ((if s.config.resolveOwnerEmail then s.config.listTimeout.millis else 0) +
              s.config.publishTimeout.millis))) ∧
      s.InTurn s.now s.tickCalls s.tick.2.now ∧
      Grown (s.loop = none) s.journal.reverse s.tick.2.journal.reverse
        (s.tickCalls.map fun call => (call.begun, call.request)) ∧
      ∀ call ∈ s.tickCalls, s.Bounded call := by
  have spent := s.tick_spent
  have bounded : ∀ call ∈ s.tickCalls, s.Bounded call := by
    intro call member
    have whole : (call.request.timeout s.config).WholeMillis := by
      cases call.request
      · exact wholeList
      · exact wholeList
      · exact wholePublish
    exact bounded_of_verdict whole (tickCalls_verdict reading call member)
  have most := sum_takes_le fun call member => (bounded call member).takes_le
  by_cases answered : s.verdictAt s.journal.length (s.listing now) = .answered
  · obtain ⟨report, reminders, ticked, _, _, _, reminds, _⟩ := tick_answered reading answered
    refine ⟨report, ticked, reminds.total, reminds.failed_eq,
      fun unanswered => absurd answered unanswered, fun _ => ⟨reminds.listed, ?_⟩, spent.inTurn,
      spent.journal, bounded⟩
    rw [reminds.sum_timeouts] at most
    rw [spent.inTurn.last_eq]
    exact Nat.add_le_add_left most _
  · obtain ⟨ticked, calls, _, _⟩ := tick_unanswered reading answered
    have ⟨call, alone, request⟩ := List.map_eq_singleton_iff.mp calls
    refine ⟨_, ticked, rfl, ?_, fun _ => ⟨rfl, ?_⟩, fun holds => absurd holds answered,
      spent.inTurn, spent.journal, bounded⟩
    · rw [alone, List.countP_singleton, TickCall.lost, request]
      rfl
    · rw [alone, List.map_singleton, List.map_singleton, List.sum_singleton, List.sum_singleton,
        request] at most
      rw [spent.inTurn.last_eq, alone, List.map_singleton, List.sum_singleton]
      exact Nat.add_le_add_left most _

/-- Publish calls that never answer, for events that are due. -/
theorem tick_bounded_hanging :
    let slot := fun title minute =>
      EventFields.mk title none (Fixture.moment 9 minute) (Fixture.moment 9 (minute + 10)) none
    let s : Scheduler :=
      { config := .standard
        clock := .manual (Fixture.moment 9 0)
        services :=
          { store := (Store.storage.run
              [(.ofNat 0, .createUser (Fixture.user "alice")),
                (.ofNat 1, .createEvent "alice" (slot "dentist" 0))] .empty).2
            queue := { topic := "reminders" } }
        plan := FaultModes.plan { publish := .hang } }
    s.clock.now? s.now = some (Fixture.moment 9 0) ∧ s.config.listTimeout.WholeMillis ∧
      s.config.publishTimeout.WholeMillis ∧
      ∃ report, s.tick.1 = some report ∧ report.listFailed = false ∧
        s.tick.2.now ≤ 1000 + report.found * 2000 ∧ ∀ call ∈ s.tickCalls, s.Bounded call := by
  intro slot s
  have reading : s.clock.now? s.now = some (Fixture.moment 9 0) := rfl
  have wholeList : s.config.listTimeout.WholeMillis := by decide
  have wholePublish : s.config.publishTimeout.WholeMillis := by decide
  have answered :
      s.verdictAt s.journal.length (s.listing (Fixture.moment 9 0)) = .answered := rfl
  obtain ⟨report, ticked, _, _, _, listed, _, _, bounded⟩ :=
    tick_bounded s reading wholeList wholePublish
  obtain ⟨listed, within⟩ := listed answered
  have list : s.config.listTimeout.millis = 1000 := by decide
  have publish : s.config.publishTimeout.millis = 1000 := by decide
  rw [list, publish, show s.now = 0 from rfl, Nat.zero_add] at within
  exact ⟨reading, wholeList, wholePublish, report, ticked, listed, within, bounded⟩

/-- A publish call may take so long that the range of timers ends before it, and never answers: it
is given up after thirty years. -/
theorem tick_gives_up_early :
    let slot := fun title minute =>
      EventFields.mk title none (Fixture.moment 9 minute) (Fixture.moment 9 (minute + 10)) none
    let s : Scheduler :=
      { config :=
          { period := .ofSecs 3600
            publishTimeout := .ofSecs 0xFFFF_FFFF_FFFF_FFFF
            resolveOwnerEmail := false }
        clock := .manual (Fixture.moment 9 0)
        services :=
          { store := (Store.storage.run
              [(.ofNat 0, .createUser (Fixture.user "alice")),
                (.ofNat 1, .createEvent "alice" (slot "dentist" 0)),
                (.ofNat 2, .createEvent "alice" (slot "haircut" 20))] .empty).2
            queue := { topic := "reminders" } }
        plan := FaultModes.plan { publish := .hang } }
    s.config.listTimeout.WholeMillis ∧ s.config.publishTimeout.WholeMillis ∧
      0 < s.config.listTimeout.nanos ∧ 0 < s.config.publishTimeout.nanos ∧
      ∃ (report : TickReport) (first second : Reminder), s.tick.1 = some report ∧
        report.failed = 2 ∧
        s.tick.2.journal.reverse =
          [(0, s.listing (Fixture.moment 9 0)),
            (0, Request.publish first.key (first.payload s.services.store)),
            (Duration.longestPause, .publish second.key (second.payload s.services.store))] ∧
        s.tick.2.now = 2 * Duration.longestPause ∧
        Duration.longestPause < s.config.publishTimeout.millis := by
  intro slot s
  have reading : s.clock.now? s.now = some (Fixture.moment 9 0) := rfl
  have answered :
      s.verdictAt s.journal.length (s.listing (Fixture.moment 9 0)) = .answered := rfl
  have due : (s.services.store.listDue (Fixture.moment 9 0)
      ((Fixture.moment 9 0).addClamped s.config.period)).length = 2 := by
    rw [Store.listDue, List.length_mergeSort]
    decide +kernel
  obtain ⟨report, reminders, ticked, start, stop, _, reminds, _⟩ := tick_answered reading answered
  have found := reminds.found
  rw [start, stop, due] at found
  obtain ⟨first, second, rfl⟩ := List.length_eq_two.mp (reminds.length.trans found)
  -- The listing and two publish calls, whose numbers do not matter to the plan.
  have outcomes := reminds.outcomes
  have plain (reminder) (member : reminder ∈ [first, second]) :=
    Reminder.outcomes_plain s.services.store (reminds.lookups reminder member)
  rw [List.flatMap_cons, List.flatMap_singleton, plain first (by simp), plain second (by simp),
    List.singleton_append, start, stop] at outcomes
  obtain ⟨⟨number, listed, request, verdict⟩, _, calls, same, offers⟩ :=
    List.map_eq_cons_iff.mp outcomes
  cases same
  obtain ⟨⟨numberOne, one, request, verdictOne⟩, _, rfl, same, offer⟩ :=
    List.map_eq_cons_iff.mp offers
  obtain ⟨rfl, -⟩ := Prod.mk.inj same
  obtain ⟨⟨numberTwo, two, request, verdictTwo⟩, rfl, same⟩ := List.map_eq_singleton_iff.mp offer
  obtain ⟨rfl, -⟩ := Prod.mk.inj same
  have verdicts := tickCalls_verdict reading
  have failed := reminds.failed_eq
  have spent := s.tick_spent
  rw [calls] at verdicts failed spent
  obtain rfl : verdictOne = .late := verdicts _ (.tail _ (.head _))
  obtain rfl : verdictTwo = .late := verdicts _ (.tail _ (.tail _ (.head _)))
  obtain ⟨⟨began, beganOne, beganTwo, now⟩, _, journal, _, exact⟩ := spent
  rw [exact rfl] at journal
  have prompt (number begun : Nat) (start stop : Instant) (verdict : Verdict) :
      s.takes ⟨number, begun, .list start stop, verdict⟩ = 0 := rfl
  have givenUp (number begun : Nat) (key : String) (payload : Bytes) (verdict : Verdict)
      (early : begun ≤ Duration.longestPause) :
      s.takes ⟨number, begun, .publish key payload, verdict⟩ = Duration.longestPause := by
    have range : timerRange ≤ s.config.publishTimeout.nanos := by decide
    have last : Duration.longestPause + Duration.longestPause ≤ lastTick := by decide
    exact Duration.patience_of_beyond (Nat.le_trans range (Nat.le_add_left _ _))
      (Nat.le_trans (Nat.add_le_add_right early _) last)
  have start : s.now = 0 := rfl
  rw [start] at began
  rw [prompt, start] at beganOne
  rw [prompt, start, Nat.add_zero, Nat.zero_add] at beganTwo now
  subst began beganOne
  rw [givenUp _ _ _ _ _ (Nat.zero_le _)] at beganTwo now
  subst beganTwo
  rw [givenUp _ _ _ _ _ (Nat.le_refl _), ← Nat.two_mul] at now
  exact ⟨by decide, by decide, by decide, by decide, report, first, second, ticked, failed, journal,
    now, by decide⟩

end Scheduler

end Datebook
