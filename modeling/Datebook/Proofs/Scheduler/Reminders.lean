import Datebook.Fixture
import Datebook.Proofs.Alert.Wire
import Datebook.Proofs.Scheduler.Frame
import Datebook.Proofs.Store.Agenda
import Datebook.Proofs.Time.Span

/-!
What a tick does for each event.

A tick outside the loop lists what is due and then takes one event after the other: a look-up of the
owner, when addresses are resolved, and a publish call. However these calls end, the next event gets
its own. Main statement: `Scheduler.tick_reminds`.
-/

set_option autoImplicit false

namespace Datebook

/-- The calls that a tick makes for an event. -/
def SchedulerConfig.callsEach (config : SchedulerConfig) : Nat :=
  if config.resolveOwnerEmail then 2 else 1

theorem SchedulerConfig.callsEach_cases (config : SchedulerConfig) :
    config.callsEach = 1 ∨ config.callsEach = 2 := by
  rw [callsEach]
  split
  · exact Or.inr rfl
  · exact Or.inl rfl

/-- A call of a tick, numbered by the calls that had begun before it, with the millisecond at which
it began, and how it ended. -/
structure TickCall where
  number : Nat
  begun : Nat
  request : Request
  verdict : Verdict
  deriving DecidableEq, Repr

def TickCall.outcome (call : TickCall) : Request × Verdict :=
  (call.request, call.verdict)

/-- How the calls for an event ended: that for the address of its owner, if it was made, and the
publish call. -/
structure Reminder where
  event : Event
  lookup : Option Verdict
  publish : Verdict
  deriving DecidableEq, Repr

namespace Reminder

/-- The stored address of the owner, when it was looked up in time. -/
def email (store : Store) (reminder : Reminder) : Option String :=
  if reminder.lookup = some .answered then
    (store.users.get? reminder.event.owner).map (·.email)
  else none

def alert (store : Store) (reminder : Reminder) : Alert :=
  .ofEvent reminder.event (reminder.email store)

def key (reminder : Reminder) : String :=
  reminder.event.id.text

def payload (store : Store) (reminder : Reminder) : Bytes :=
  (reminder.alert store).encode

/-- The calls for an event in order, and how they ended. -/
def outcomes (store : Store) (reminder : Reminder) : List (Request × Verdict) :=
  reminder.lookup.toList.map (fun verdict => (.lookup reminder.event.owner, verdict)) ++
    [(.publish reminder.key (reminder.payload store), reminder.publish)]

def isAccepted (refuses : String → Bool) (reminder : Reminder) : Bool :=
  reminder.publish = .answered ∧ !refuses reminder.key

theorem countP_isAccepted_add (refuses : String → Bool) (reminders : List Reminder) :
    (reminders.countP fun reminder => reminder.isAccepted refuses) +
      (reminders.countP fun reminder => !reminder.isAccepted refuses) = reminders.length := by
  have length := List.length_eq_countP_add_countP (fun reminder => reminder.isAccepted refuses)
    (l := reminders)
  simp only [Bool.not_eq_true, Bool.decide_eq_false] at length
  exact length.symm

/-- What the reminder brings to the queue. -/
def accepted (store : Store) (refuses : String → Bool) (reminder : Reminder) :
    List (String × Bytes) :=
  (Request.publish reminder.key (reminder.payload store)).accepted refuses reminder.publish

end Reminder

namespace Tick

/-- The report with these reminders counted. -/
def reported (refuses : String → Bool) (report : TickReport) (reminders : List Reminder) :
    TickReport :=
  { report with
    published := report.published + reminders.countP fun reminder => reminder.isAccepted refuses
    failed := report.failed + reminders.countP fun reminder => !reminder.isAccepted refuses }

theorem reported_cons (refuses : String → Bool) (report : TickReport) (reminder : Reminder)
    (rest : List Reminder) :
    reported refuses (counted report (reminder.isAccepted refuses)) rest =
      reported refuses report (reminder :: rest) := by
  simp only [reported, counted, List.countP_cons]
  cases reminder.isAccepted refuses <;> simp [Nat.add_assoc, Nat.add_comm]

/-- Every event is counted once, as published or as failed. -/
theorem reported_total (refuses : String → Bool) (report : TickReport)
    (reminders : List Reminder) :
    (reported refuses report reminders).published + (reported refuses report reminders).failed =
      report.published + report.failed + reminders.length := by
  have all := Reminder.countP_isAccepted_add refuses reminders
  simp only [reported]
  omega

theorem callsLeft_stageOf (config : SchedulerConfig) (events : List Event) (report : TickReport) :
    (Tick.mk report (stageOf config events)).callsLeft config =
      config.callsEach * events.length := by
  cases events with
  | nil => rfl
  | cons event rest =>
    rw [SchedulerConfig.callsEach, stageOf]
    split
    · rename_i resolve
      simp only [callsLeft, if_pos resolve, List.length_cons]
      omega
    · rename_i plain
      simp only [callsLeft, if_neg plain, List.length_cons]
      omega

end Tick

namespace Scheduler

/-- The first calls of a tick outside the loop. -/
def callsWithin : Nat → Scheduler → Tick → List TickCall
  | 0, _, _ => []
  | calls + 1, s, tick =>
    match tick.request? with
    | none => []
    | some request =>
      ⟨s.journal.length, s.now, request, s.verdictAt s.journal.length request⟩ ::
        callsWithin calls (s.callStep tick).2 (s.callStep tick).1

/-- The calls of a tick outside the loop. -/
def tickCalls (s : Scheduler) : List TickCall :=
  match s.openTick with
  | (none, _) => []
  | (some tick, s) =>
    s.callsWithin 1 tick ++
      (s.callStep tick).2.callsWithin
        ((s.callStep tick).1.callsLeft (s.callStep tick).2.config) (s.callStep tick).1

variable {alone : Prop} {s : Scheduler}

theorem callSteps_succ (calls : Nat) (s : Scheduler) (tick : Tick) :
    s.callSteps (calls + 1) tick =
      (s.callStep tick).2.callSteps calls (s.callStep tick).1 :=
  rfl

theorem callsWithin_succ {tick : Tick} {request : Request} (next : tick.request? = some request)
    (calls : Nat) (s : Scheduler) : s.callsWithin (calls + 1) tick =
      ⟨s.journal.length, s.now, request, s.verdictAt s.journal.length request⟩ ::
        (s.callStep tick).2.callsWithin calls (s.callStep tick).1 := by
  rw [callsWithin, next]

theorem callSteps_finished {tick : Tick} (finished : tick.request? = none) (calls : Nat)
    (s : Scheduler) : s.callSteps calls tick = (tick, s) := by
  induction calls with
  | zero => rfl
  | succ calls ih =>
    have step : s.callStep tick = (tick, s) := by rw [callStep, finished]
    rw [callSteps, step]
    exact ih

theorem callsWithin_finished {tick : Tick} (finished : tick.request? = none) (calls : Nat)
    (s : Scheduler) : s.callsWithin calls tick = [] := by
  cases calls with
  | zero => rfl
  | succ calls => rw [callsWithin, finished]

theorem callSteps_add (calls more : Nat) (s : Scheduler) (tick : Tick) :
    s.callSteps (calls + more) tick =
      (s.callSteps calls tick).2.callSteps more (s.callSteps calls tick).1 := by
  induction calls generalizing s tick with
  | zero =>
    rw [Nat.zero_add]
    rfl
  | succ calls ih =>
    rw [Nat.succ_add]
    exact ih _ _

theorem callsWithin_add (calls more : Nat) (s : Scheduler) (tick : Tick) :
    s.callsWithin (calls + more) tick = s.callsWithin calls tick ++
      (s.callSteps calls tick).2.callsWithin more (s.callSteps calls tick).1 := by
  induction calls generalizing s tick with
  | zero =>
    rw [Nat.zero_add]
    rfl
  | succ calls ih =>
    cases next : tick.request? with
    | none =>
      rw [callSteps_finished next, callsWithin_finished next, callsWithin_finished next,
        callsWithin_finished next, List.append_nil]
    | some request =>
      rw [Nat.succ_add]
      simp only [callsWithin, next, callSteps, List.cons_append]
      rw [ih]

/-- The calls for an event end as the plan says, numbered in turn, each from when it began. -/
def Planned (s : Scheduler) (number : Nat) (reminder : Reminder) : Prop :=
  (∃ begun, reminder.lookup =
      if s.config.resolveOwnerEmail then
        some (s.verdictFrom begun number (.lookup reminder.event.owner))
      else none) ∧
    ∃ begun, reminder.publish = s.verdictFrom begun (number + s.config.callsEach - 1)
      (.publish reminder.key (reminder.payload s.services.store))

/-- So many calls of a tick are those for these reminders and take the tick this far. -/
structure Worked (alone : Prop) (s : Scheduler) (tick : Tick) (calls : Nat)
    (reminders : List Reminder) (after : Tick) : Prop where
  lookups : ∀ reminder ∈ reminders, reminder.lookup.isSome = s.config.resolveOwnerEmail
  outcomes : (s.callsWithin calls tick).map TickCall.outcome =
    reminders.flatMap (Reminder.outcomes s.services.store)
  planned : alone → ∀ index reminder, reminders[index]? = some reminder →
    s.Planned (s.journal.length + s.config.callsEach * index) reminder
  ran : Ran alone s (s.callSteps calls tick).2
    ((s.callsWithin calls tick).map (·.request))
    (reminders.flatMap (Reminder.accepted s.services.store s.services.queue.refuses))
  reached : (s.callSteps calls tick).1 = after

theorem Worked.nil (idle : alone → s.loop = none) (tick : Tick) :
    Worked alone s tick 0 [] tick where
  lookups _ member := nomatch member
  outcomes := rfl
  planned _ _ _ found := nomatch found
  ran := .refl idle
  reached := rfl

theorem Ran.verdictFrom_eq {t : Scheduler} {asked : List Request}
    {accepted : List (String × Bytes)} (ran : Ran alone s t asked accepted) (begun number : Nat)
    (request : Request) :
    t.verdictFrom begun number request = s.verdictFrom begun number request := by
  rw [verdictFrom, verdictFrom, ran.config, ran.plan]

theorem Ran.planned_iff {t : Scheduler} {asked : List Request} {accepted : List (String × Bytes)}
    (ran : Ran alone s t asked accepted) (number : Nat) (reminder : Reminder) :
    t.Planned number reminder ↔ s.Planned number reminder := by
  simp only [Planned, ran.verdictFrom_eq, ran.config, ran.store]

theorem Worked.length_calls {tick after : Tick} {calls : Nat} {reminders : List Reminder}
    (worked : Worked alone s tick calls reminders after) :
    (s.callsWithin calls tick).length = s.config.callsEach * reminders.length := by
  have each : ∀ reminder ∈ reminders,
      (reminder.outcomes s.services.store).length = s.config.callsEach := by
    intro reminder member
    have made := worked.lookups reminder member
    rw [SchedulerConfig.callsEach, ← made, Reminder.outcomes]
    cases reminder.lookup <;> rfl
  have total := congrArg List.length worked.outcomes
  rw [List.length_map, List.length_flatMap, List.map_congr_left each, List.map_const',
    List.sum_replicate_nat] at total
  rw [total, Nat.mul_comm]

theorem Worked.append {tick middle after : Tick} {calls more : Nat} {first second : List Reminder}
    (begun : Worked alone s tick calls first middle)
    (continued : Worked alone (s.callSteps calls tick).2 middle more second after) :
    Worked alone s tick (calls + more) (first ++ second) after := by
  have ran := begun.ran
  have reached := begun.reached
  constructor
  · intro reminder member
    rcases List.mem_append.mp member with front | back
    · exact begun.lookups reminder front
    · rw [← ran.config]
      exact continued.lookups reminder back
  · rw [callsWithin_add, reached, List.map_append, begun.outcomes, continued.outcomes, ran.store,
      List.flatMap_append]
  · intro undisturbed index reminder found
    by_cases front : index < first.length
    · rw [List.getElem?_append_left front] at found
      exact begun.planned undisturbed index reminder found
    · rw [List.getElem?_append_right (Nat.not_lt.mp front)] at found
      have planned := continued.planned undisturbed _ reminder found
      rw [ran.planned_iff, ran.length_journal undisturbed, List.length_map, begun.length_calls,
        ran.config, Nat.add_assoc, ← Nat.mul_add,
        Nat.add_sub_of_le (Nat.not_lt.mp front)] at planned
      exact planned
  · have both := ran.trans continued.ran
    rw [ran.store, ran.refuses] at both
    rw [callSteps_add, callsWithin_add, reached, List.map_append, List.flatMap_append]
    exact both
  · rw [callSteps_add, reached]
    exact continued.reached

theorem Worked.single {tick after : Tick} {calls : Nat} {reminder : Reminder}
    (lookups : reminder.lookup.isSome = s.config.resolveOwnerEmail)
    (outcomes : (s.callsWithin calls tick).map TickCall.outcome =
      reminder.outcomes s.services.store)
    (planned : alone → s.Planned s.journal.length reminder)
    (ran : Ran alone s (s.callSteps calls tick).2 ((s.callsWithin calls tick).map (·.request))
      (reminder.accepted s.services.store s.services.queue.refuses))
    (reached : (s.callSteps calls tick).1 = after) :
    Worked alone s tick calls [reminder] after := by
  constructor
  · intro other member
    rw [List.mem_singleton.mp member]
    exact lookups
  · rw [outcomes, List.flatMap_singleton]
  · intro undisturbed index other found
    cases index with
    | zero =>
      cases found
      exact planned undisturbed
    | succ index => cases found
  · rw [List.flatMap_singleton]
    exact ran
  · exact reached

/-- The publish call of an event ends its part of the tick, accepted or not. -/
theorem publish_step (idle : alone → s.loop = none) (event : Event) (email : Option String)
    (rest : List Event) (report : TickReport) :
    let tick : Tick := ⟨report, .publish event email rest⟩
    let request := Request.publish event.id.text (Alert.ofEvent event email).encode
    let verdict := s.verdictAt s.journal.length request
    (s.callStep tick).1 =
        ⟨Tick.counted report (verdict = .answered ∧ !s.services.queue.refuses event.id.text),
          Tick.stageOf s.config rest⟩ ∧
      Ran alone s (s.callStep tick).2 [request]
        (request.accepted s.services.queue.refuses verdict) := by
  intro tick request verdict
  obtain ⟨settled, ran⟩ := callStep_ran idle (show tick.request? = some request from rfl)
  refine ⟨?_, ran⟩
  rw [settled]
  simp only [tick, Tick.settle, Services.publish_accepts]
  rfl

/-- Without addresses the publish call is all there is to an event. -/
theorem publish_worked (idle : alone → s.loop = none) (plain : s.config.resolveOwnerEmail = false)
    (event : Event) (rest : List Event) (report : TickReport) :
    ∃ reminder : Reminder, reminder.event = event ∧
      Worked alone s ⟨report, .publish event none rest⟩ 1 [reminder]
        ⟨Tick.counted report (reminder.isAccepted s.services.queue.refuses),
          Tick.stageOf s.config rest⟩ := by
  have next : (Tick.mk report (.publish event none rest)).request? =
    some (.publish event.id.text (Alert.ofEvent event none).encode) := rfl
  obtain ⟨reached, ran⟩ := publish_step idle event none rest report
  have steps := callSteps_succ 0 s ⟨report, .publish event none rest⟩
  have calls := callsWithin_succ next 0 s
  generalize verdict : s.verdictAt s.journal.length _ = publish at reached ran calls
  generalize s.callStep _ = result at reached ran steps calls
  rw [callsWithin] at calls
  rw [callSteps] at steps
  refine ⟨⟨event, none, publish⟩, rfl, .single ?_ ?_ ?_ ?_ ?_⟩
  · exact plain.symm
  · rw [calls]
    rfl
  · intro _
    rw [Planned, SchedulerConfig.callsEach, plain]
    exact ⟨⟨s.now, rfl⟩, s.now, verdict.symm⟩
  · rw [steps, calls]
    exact ran
  · rw [steps]
    exact reached

/-- A look-up that is not answered costs the reminder its address and nothing else. -/
theorem lookup_worked (idle : alone → s.loop = none) (resolve : s.config.resolveOwnerEmail = true)
    (event : Event) (rest : List Event) (report : TickReport) :
    ∃ reminder : Reminder, reminder.event = event ∧
      Worked alone s ⟨report, .lookup event rest⟩ 2 [reminder]
        ⟨Tick.counted report (reminder.isAccepted s.services.queue.refuses),
          Tick.stageOf s.config rest⟩ := by
  have first : (Tick.mk report (.lookup event rest)).request? = some (.lookup event.owner) := rfl
  obtain ⟨found, looked⟩ := callStep_ran idle first
  -- From here on the state after the look-up is any that `callStep_ran` allows.
  have steps := callSteps_succ 1 s ⟨report, .lookup event rest⟩
  have calls := callsWithin_succ first 1 s
  generalize verdict : s.verdictAt s.journal.length (.lookup event.owner) = lookup
    at found looked calls
  generalize s.callStep _ = middle at found looked steps calls
  obtain ⟨tick, t⟩ := middle
  dsimp only at found looked steps calls
  generalize address : s.services.lookup lookup event.owner = email at found
  have middle : tick = ⟨report, .publish event email rest⟩ := by
    rw [found, ← address]
    rfl
  have second : tick.request? =
      some (.publish event.id.text (Alert.ofEvent event email).encode) := by
    rw [middle]
    rfl
  obtain ⟨reached, ran⟩ := publish_step looked.idle event email rest report
  rw [← middle] at reached ran
  rw [callSteps_succ 0 t tick] at steps
  rw [callsWithin_succ second 0 t] at calls
  generalize verdictToo : t.verdictAt t.journal.length _ = publish at reached ran calls
  generalize t.callStep tick = last at reached ran steps calls
  rw [callsWithin] at calls
  rw [callSteps] at steps
  have payload : (Alert.ofEvent event email).encode =
      Reminder.payload s.services.store ⟨event, some lookup, publish⟩ := by
    rw [Reminder.payload, Reminder.alert, Reminder.email, ← address]
    cases lookup <;> rfl
  refine ⟨⟨event, some lookup, publish⟩, rfl, .single ?_ ?_ ?_ ?_ ?_⟩
  · exact resolve.symm
  · rw [calls, payload]
    rfl
  · intro undisturbed
    rw [looked.length_journal undisturbed, verdictAt, looked.verdictFrom_eq] at verdictToo
    rw [Planned, SchedulerConfig.callsEach, resolve, ← payload]
    exact ⟨⟨s.now, congrArg some verdict.symm⟩, t.now, verdictToo.symm⟩
  · have both := looked.trans ran
    rw [looked.refuses, payload] at both
    rw [steps, calls, payload]
    exact both
  · rw [steps, reached, looked.refuses, looked.config]
    rfl

/-- The calls for one event, whatever comes of them, are followed by those for the next. -/
theorem event_worked (idle : alone → s.loop = none) (event : Event) (rest : List Event)
    (report : TickReport) :
    ∃ reminder : Reminder, reminder.event = event ∧
      Worked alone s ⟨report, Tick.stageOf s.config (event :: rest)⟩ s.config.callsEach [reminder]
        ⟨Tick.counted report (reminder.isAccepted s.services.queue.refuses),
          Tick.stageOf s.config rest⟩ := by
  rw [Tick.stageOf, SchedulerConfig.callsEach]
  split
  · rename_i resolve
    exact lookup_worked idle resolve event rest report
  · rename_i plain
    exact publish_worked idle (Bool.eq_false_iff.mpr plain) event rest report

/-- The events are taken one after the other, each with its own calls. -/
theorem events_worked (idle : alone → s.loop = none) (events : List Event) (report : TickReport) :
    ∃ reminders : List Reminder, reminders.map (·.event) = events ∧
      Worked alone s ⟨report, Tick.stageOf s.config events⟩ (s.config.callsEach * events.length)
        reminders ⟨Tick.reported s.services.queue.refuses report reminders, .finished⟩ := by
  induction events generalizing s report with
  | nil => exact ⟨[], rfl, .nil idle _⟩
  | cons event rest ih =>
    obtain ⟨reminder, rfl, worked⟩ := event_worked idle event rest report
    have ran := worked.ran
    obtain ⟨reminders, rfl, continued⟩ := ih ran.idle
      (Tick.counted report (reminder.isAccepted s.services.queue.refuses))
    rw [ran.config, ran.refuses, Tick.reported_cons] at continued
    refine ⟨reminder :: reminders, rfl, ?_⟩
    rw [List.length_cons, Nat.mul_succ, Nat.add_comm]
    exact worked.append continued

variable {now : Instant}

/-- The listing that a tick begins with. -/
def listing (s : Scheduler) (now : Instant) : Request :=
  .list now (now.addClamped s.config.period)

/-- The tick after its listing ended so. -/
def listed (s : Scheduler) (now : Instant) (verdict : Verdict) : Tick :=
  Tick.afterListing s.config (Tick.opening s.config now).report
    (s.services.list verdict now (now.addClamped s.config.period))

/-- A tick makes its listing first, and goes on by what that comes to. -/
theorem tick_begins (idle : alone → s.loop = none) (reading : s.clock.now? s.now = some now) :
    let verdict := s.verdictAt s.journal.length (s.listing now)
    let tick := s.listed now verdict
    ∃ t, Ran alone s t [s.listing now] [] ∧
      s.tickCalls = ⟨s.journal.length, s.now, s.listing now, verdict⟩ ::
        t.callsWithin (tick.callsLeft s.config) tick ∧
      s.tick = (some (t.callSteps (tick.callsLeft s.config) tick).1.report,
        (t.callSteps (tick.callsLeft s.config) tick).2) := by
  intro verdict tick
  have opened : s.openTick = (some (.opening s.config now), s.openTick.2) := by
    rw [openTick, reading]
    rfl
  have began := openTick_ran idle
  have next : (Tick.opening s.config now).request? = some (s.listing now) := rfl
  obtain ⟨found, called⟩ := callStep_ran began.idle next
  have ran := began.trans called
  have reached : (s.openTick.2.callStep (.opening s.config now)).1 = tick := found
  refine ⟨(s.openTick.2.callStep (.opening s.config now)).2, ran, ?_, ?_⟩
  · rw [tickCalls, opened]
    dsimp only
    rw [callsWithin_succ next, callsWithin, reached, ran.config]
    rfl
  · rw [Scheduler.tick, opened]
    dsimp only
    rw [reached, ran.config]

/-- Calls end as the plan says of their numbers. -/
theorem callsWithin_verdict (calls : Nat) (s : Scheduler) (tick : Tick) :
    ∀ call ∈ s.callsWithin calls tick,
      call.verdict = s.verdictFrom call.begun call.number call.request := by
  induction calls generalizing s tick with
  | zero =>
    intro call member
    cases member
  | succ calls ih =>
    intro call member
    rw [callsWithin] at member
    split at member
    · cases member
    · rename_i request next
      have ran := (callStep_ran (s := s) False.elim next).2
      rcases List.mem_cons.mp member with rfl | later
      · rfl
      · rw [← ran.verdictFrom_eq]
        exact ih _ _ call later

theorem tickCalls_verdict (reading : s.clock.now? s.now = some now) :
    ∀ call ∈ s.tickCalls,
      call.verdict = s.verdictFrom call.begun call.number call.request := by
  obtain ⟨t, ran, calls, _⟩ := tick_begins (s := s) False.elim reading
  intro call member
  rw [calls] at member
  rcases List.mem_cons.mp member with rfl | later
  · rfl
  · rw [← ran.verdictFrom_eq]
    exact callsWithin_verdict _ _ _ call later

/-- What a tick whose listing was answered did: one reminder for each event that is due, with its
own calls in turn, and a report that counts what the queue accepted. -/
structure Reminds (s : Scheduler) (report : TickReport) (reminders : List Reminder) : Prop where
  events : reminders.map (·.event) =
    s.services.store.listDue report.windowStart report.windowEnd
  lookups : ∀ reminder ∈ reminders, reminder.lookup.isSome = s.config.resolveOwnerEmail
  outcomes : s.tickCalls.map TickCall.outcome =
    (.list report.windowStart report.windowEnd, .answered) ::
      reminders.flatMap (Reminder.outcomes s.services.store)
  accepted : Grown (s.loop = none) s.services.queue.published s.tick.2.services.queue.published
    (reminders.flatMap (Reminder.accepted s.services.store s.services.queue.refuses))
  listed : report.listFailed = false
  found : report.found = (s.services.store.listDue report.windowStart report.windowEnd).length
  published : report.published = reminders.countP (Reminder.isAccepted s.services.queue.refuses)
  total : report.published + report.failed = report.found

theorem tick_answered (reading : s.clock.now? s.now = some now)
    (answered : s.verdictAt s.journal.length (s.listing now) = .answered) :
    ∃ report reminders, s.tick.1 = some report ∧ report.windowStart = now ∧
      report.windowEnd = now.addClamped s.config.period ∧
      Grown (s.loop = none) s.asked s.tick.2.asked (s.tickCalls.map (·.request)) ∧
      s.Reminds report reminders ∧
      (s.loop = none → ∀ index reminder, reminders[index]? = some reminder →
        s.Planned (s.journal.length + 1 + s.config.callsEach * index) reminder) := by
  have idle : s.loop = none → s.loop = none := id
  obtain ⟨t, ran, calls, result⟩ := tick_begins idle reading
  rw [answered] at calls result
  let stop := now.addClamped s.config.period
  let events := s.services.store.listDue now stop
  let report : TickReport :=
    { windowStart := now, windowEnd := stop, found := events.length }
  have listed : s.listed now .answered = ⟨report, Tick.stageOf s.config events⟩ := rfl
  obtain ⟨reminders, same, worked⟩ := events_worked ran.idle events report
  rw [ran.config, ran.refuses] at worked
  rw [listed, Tick.callsLeft_stageOf] at calls result
  have both := ran.trans worked.ran
  refine ⟨Tick.reported s.services.queue.refuses report reminders, reminders, ?_, rfl, rfl, ?_, ?_,
    ?_⟩
  · rw [result, worked.reached]
  · rw [result, calls]
    exact both.asked
  · constructor
    · exact same
    · rw [← ran.config]
      exact worked.lookups
    · rw [calls, List.map_cons, worked.outcomes, ran.store]
      rfl
    · have accepted := both.published
      rw [ran.store, ran.refuses] at accepted
      rw [result]
      exact accepted
    · rfl
    · rfl
    · exact Nat.zero_add _
    · rw [Tick.reported_total, ← List.length_map (f := (·.event)), same]
      exact Nat.zero_add _
  · intro undisturbed index reminder found
    have planned := worked.planned undisturbed index reminder found
    rw [ran.planned_iff, ran.length_journal undisturbed, ran.config] at planned
    exact planned

/-- A plan decides what becomes of an event by the outcomes of its own calls. -/
theorem Planned.unique {plan : Plan} {number : Nat} {first second : Reminder}
    (same : second.event = first.event) (planned : s.Planned number first)
    (plannedToo : { s with plan }.Planned number second)
    (agree : ∀ n request, number ≤ n → n < number + s.config.callsEach → ∀ begun later,
      { s with plan }.verdictFrom begun n request = s.verdictFrom later n request) :
    second = first := by
  obtain ⟨⟨asked, lookup⟩, offered, publish⟩ := planned
  obtain ⟨⟨askedToo, lookupToo⟩, offeredToo, publishToo⟩ := plannedToo
  have some := s.config.callsEach_cases
  have lookups : second.lookup = first.lookup := by
    rw [lookupToo, lookup, same, agree _ _ (Nat.le_refl _) (by omega)]
  have publishes : second.publish = first.publish := by
    rw [publishToo, publish, Reminder.key, Reminder.payload, Reminder.alert, Reminder.email,
      same, lookups]
    exact agree (number + s.config.callsEach - 1) _ (by omega) (by omega) _ _
  cases first
  cases second
  cases same
  cases lookups
  cases publishes
  rfl

/-- A tick that cannot list anything looks nothing up and publishes nothing. -/
theorem tick_unanswered (reading : s.clock.now? s.now = some now)
    (unanswered : s.verdictAt s.journal.length (s.listing now) ≠ .answered) :
    s.tick.1 =
        some
          { windowStart := now
            windowEnd := now.addClamped s.config.period
            listFailed := true } ∧
      s.tickCalls.map (·.request) = [s.listing now] ∧
      Grown (s.loop = none) s.asked s.tick.2.asked [s.listing now] ∧
      Grown (s.loop = none) s.services.queue.published s.tick.2.services.queue.published [] := by
  have idle : s.loop = none → s.loop = none := id
  obtain ⟨t, ran, calls, result⟩ := tick_begins idle reading
  have listed : s.listed now (s.verdictAt s.journal.length (s.listing now)) =
      { report :=
          { windowStart := now
            windowEnd := now.addClamped s.config.period
            listFailed := true }
        stage := .finished } := by
    rw [Scheduler.listed]
    cases verdict : s.verdictAt s.journal.length (s.listing now) with
    | answered => exact absurd verdict unanswered
    | failed => rfl
    | late => rfl
  rw [listed] at calls result
  rw [calls, result]
  exact ⟨rfl, rfl, ran.asked, ran.published⟩

end Scheduler

end Datebook
