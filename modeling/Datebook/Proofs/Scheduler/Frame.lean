import Datebook.Scheduler

/-!
What the scheduler leaves alone.

Whatever calls are made and whatever time passes, the configuration, the plan, the clock, the store
and the keys that the queue refuses stay as they are, and the records of calls and of accepted
payloads only grow. While no loop runs they grow by the calls of the tick outside it and by nothing
else. Main statement: `Scheduler.callStep_ran`.
-/

set_option autoImplicit false

namespace Datebook

/-- A record has grown, by these entries among others, and by no others if it was left alone. -/
def Grown {α : Type} (alone : Prop) (before after entries : List α) : Prop :=
  ∃ new, after = before ++ new ∧ entries.Sublist new ∧ (alone → new = entries)

namespace Grown

variable {α : Type} {alone : Prop}

theorem same (record : List α) : Grown alone record record [] :=
  ⟨[], (List.append_nil record).symm, List.Sublist.refl [], fun _ => rfl⟩

theorem by_entries (record entries : List α) : Grown alone record (record ++ entries) entries :=
  ⟨entries, rfl, List.Sublist.refl entries, fun _ => rfl⟩

theorem trans {first second third entries others : List α}
    (begun : Grown alone first second entries) (continued : Grown alone second third others) :
    Grown alone first third (entries ++ others) := by
  obtain ⟨new, rfl, among, exact⟩ := begun
  obtain ⟨newer, rfl, amongToo, exactToo⟩ := continued
  refine ⟨new ++ newer, List.append_assoc first new newer, among.append amongToo, ?_⟩
  intro undisturbed
  rw [exact undisturbed, exactToo undisturbed]

/-- Entries of others do not matter when the record was not left alone. -/
theorem forget {before after entries : List α} (grown : Grown False before after entries)
    (disturbed : ¬alone) : Grown alone before after [] := by
  obtain ⟨new, rfl, _, _⟩ := grown
  exact ⟨new, rfl, List.nil_sublist new, fun undisturbed => absurd undisturbed disturbed⟩

end Grown

/-- The key under which a call offers a reminder to the queue. -/
def Request.offers? : Request → Option String
  | .list .. | .lookup _ => none
  | .publish key _ => some key

/-- The payload that a publish call brings to the queue, with its key, unless it is refused. -/
def Request.accepted (refuses : String → Bool) (verdict : Verdict) :
    Request → List (String × Bytes)
  | .list .. | .lookup _ => []
  | .publish key payload => if verdict = .answered ∧ !refuses key then [(key, payload)] else []

namespace Services

theorem publish_store (services : Services) (verdict : Verdict) (key : String) (payload : Bytes) :
    (services.publish verdict key payload).2.store = services.store := by
  cases verdict <;> rfl

theorem publish_accepts (services : Services) (verdict : Verdict) (key : String)
    (payload : Bytes) :
    (services.publish verdict key payload).1 =
      decide (verdict = .answered ∧ !services.queue.refuses key) := by
  cases verdict with
  | answered =>
    cases refused : services.queue.refuses key <;>
      simp [publish, RecordingQueue.publish, refused, Except.isOk, Except.toBool]
  | failed => rfl
  | late => rfl

theorem publish_refuses (services : Services) (verdict : Verdict) (key : String)
    (payload : Bytes) :
    (services.publish verdict key payload).2.queue.refuses = services.queue.refuses := by
  cases verdict with
  | answered =>
    cases refused : services.queue.refuses key <;>
      simp [publish, RecordingQueue.publish, refused] <;> rfl
  | failed => rfl
  | late => rfl

theorem publish_published (services : Services) (verdict : Verdict) (key : String)
    (payload : Bytes) :
    (services.publish verdict key payload).2.queue.published = services.queue.published ++
      (Request.publish key payload).accepted services.queue.refuses verdict := by
  cases verdict with
  | answered =>
    cases refused : services.queue.refuses key <;>
      simp [publish, RecordingQueue.publish, RecordingQueue.published, Request.accepted, refused]
  | failed => exact (List.append_nil _).symm
  | late => exact (List.append_nil _).symm

end Services

namespace Tick

/-- What the call of a tick brings to the queue. -/
def accepted (refuses : String → Bool) (verdict : Verdict) (tick : Tick) :
    List (String × Bytes) :=
  match tick.request? with
  | some request => request.accepted refuses verdict
  | none => []

/-- How a tick goes on depends on the users, the events and the keys that are refused. -/
theorem settle_congr {config : SchedulerConfig} {verdict : Verdict} {tick : Tick}
    {services others : Services} (store : others.store = services.store)
    (refuses : others.queue.refuses = services.queue.refuses) :
    (tick.settle config verdict others).1 = (tick.settle config verdict services).1 := by
  obtain ⟨report, stage⟩ := tick
  cases stage with
  | listing => cases verdict <;> simp only [settle, Services.list, store]
  | lookup event rest => cases verdict <;> simp only [settle, Services.lookup, store]
  | publish event email rest => simp only [settle, Services.publish_accepts, refuses]
  | finished => rfl

theorem settle_store (config : SchedulerConfig) (verdict : Verdict) (tick : Tick)
    (services : Services) : (tick.settle config verdict services).2.store = services.store := by
  obtain ⟨report, stage⟩ := tick
  cases stage with
  | publish event email rest =>
    simp only [settle, Services.countReminder]
    exact services.publish_store verdict _ _
  | _ => rfl

theorem settle_refuses (config : SchedulerConfig) (verdict : Verdict) (tick : Tick)
    (services : Services) :
    (tick.settle config verdict services).2.queue.refuses = services.queue.refuses := by
  obtain ⟨report, stage⟩ := tick
  cases stage with
  | publish event email rest =>
    simp only [settle, Services.countReminder]
    exact services.publish_refuses verdict _ _
  | _ => rfl

theorem settle_published (config : SchedulerConfig) (verdict : Verdict) (tick : Tick)
    (services : Services) :
    (tick.settle config verdict services).2.queue.published =
      services.queue.published ++ tick.accepted services.queue.refuses verdict := by
  obtain ⟨report, stage⟩ := tick
  cases stage with
  | publish event email rest =>
    simp only [settle, Services.countReminder]
    exact services.publish_published verdict _ _
  | _ => exact (List.append_nil _).symm

end Tick

namespace Scheduler

/-- The calls of ticks in the order in which they began. -/
def asked (s : Scheduler) : List Request :=
  s.journal.reverse.map (·.2)

/-- Between two moments of a scheduler these calls were made and these payloads were accepted, among
others unless it was left alone. -/
structure Ran (alone : Prop) (s t : Scheduler) (asked : List Request)
    (accepted : List (String × Bytes)) : Prop where
  config : t.config = s.config
  plan : t.plan = s.plan
  clock : t.clock = s.clock
  store : t.services.store = s.services.store
  refuses : t.services.queue.refuses = s.services.queue.refuses
  idle : alone → t.loop = none
  asked : Grown alone s.asked t.asked asked
  published : Grown alone s.services.queue.published t.services.queue.published accepted

variable {alone : Prop} {s t u : Scheduler}

theorem Ran.refl (idle : alone → s.loop = none) : Ran alone s s [] [] :=
  ⟨rfl, rfl, rfl, rfl, rfl, idle, .same _, .same _⟩

theorem Ran.trans {asked others : List Request} {accepted more : List (String × Bytes)}
    (first : Ran alone s t asked accepted) (second : Ran alone t u others more) :
    Ran alone s u (asked ++ others) (accepted ++ more) where
  config := second.config.trans first.config
  plan := second.plan.trans first.plan
  clock := second.clock.trans first.clock
  store := second.store.trans first.store
  refuses := second.refuses.trans first.refuses
  idle := second.idle
  asked := first.asked.trans second.asked
  published := first.published.trans second.published

theorem Ran.forget {asked : List Request} {accepted : List (String × Bytes)}
    (ran : Ran False s t asked accepted) (disturbed : ¬alone) : Ran alone s t [] [] :=
  { ran with
    idle := fun undisturbed => absurd undisturbed disturbed
    asked := ran.asked.forget disturbed
    published := ran.published.forget disturbed }

/-- While a scheduler is left alone, the calls of the tick outside the loop are numbered in turn. -/
theorem Ran.length_journal {asked : List Request} {accepted : List (String × Bytes)}
    (ran : Ran alone s t asked accepted) (undisturbed : alone) :
    t.journal.length = s.journal.length + asked.length := by
  obtain ⟨new, grown, _, exact⟩ := ran.asked
  have length := congrArg List.length grown
  rw [exact undisturbed] at length
  simpa only [Scheduler.asked, List.length_append, List.length_map, List.length_reverse]
    using length

theorem dispatch_ran (idle : alone → s.loop = none) (tick : Tick) (request : Request) :
    Ran alone s (s.dispatch tick request).2 [request] [] where
  config := rfl
  plan := rfl
  clock := rfl
  store := rfl
  refuses := rfl
  idle := idle
  asked := by
    have grown : (s.dispatch tick request).2.asked = s.asked ++ [request] := by
      simp only [Scheduler.asked, dispatch, List.reverse_cons, List.map_append, List.map_cons,
        List.map_nil]
    rw [grown]
    exact .by_entries _ _
  published := .same _

theorem settle_ran (idle : alone → s.loop = none) (pending : Pending) :
    Ran alone s (s.settle pending).2 []
      (pending.tick.accepted s.services.queue.refuses pending.verdict) where
  config := rfl
  plan := rfl
  clock := rfl
  store := Tick.settle_store _ _ _ _
  refuses := Tick.settle_refuses _ _ _ _
  idle := idle
  asked := .same _
  published := by
    rw [settle, Tick.settle_published]
    exact .by_entries _ _

theorem openTick_ran (idle : alone → s.loop = none) : Ran alone s s.openTick.2 [] [] :=
  ⟨rfl, rfl, rfl, rfl, rfl, idle, .same _, .same _⟩

theorem ran_of_now (idle : alone → s.loop = none) (now : Nat) : Ran alone s { s with now } [] [] :=
  ⟨rfl, rfl, rfl, rfl, rfl, idle, .same _, .same _⟩

/-- The loop, the states it enters and the present time may change. -/
theorem ran_of_loop (s : Scheduler) (loop : Option Loop) (entered : List SchedulerState)
    (now : Nat) (broken : Bool) : Ran False s { s with loop, entered, now, broken } [] [] :=
  ⟨rfl, rfl, rfl, rfl, rfl, False.elim, .same _, .same _⟩

theorem resume_ran (loop : Loop) (tick : Tick) : Ran False s (s.resume loop tick) [] [] := by
  unfold resume
  split
  · rename_i request _
    have dispatched := (dispatch_ran (s := s) False.elim tick request).forget not_false
    exact dispatched.trans (ran_of_loop _ _ _ _ _)
  · exact ran_of_loop _ _ _ _ _

theorem loopStep_ran : Ran False s s.loopStep [] [] := by
  unfold loopStep
  split
  · exact .refl False.elim
  · rename_i loop _
    split
    · rename_i pending _
      split
      · exact ((settle_ran False.elim pending).forget not_false).trans (resume_ran loop _)
      · exact .refl False.elim
    · split
      · exact ran_of_loop _ _ _ _ _
      · split
        · have opened : Ran False s (s.enter .processing).openTick.2 [] [] :=
            (ran_of_loop s s.loop (.processing :: s.entered) s.now s.broken).trans
              (openTick_ran False.elim)
          split
          · rename_i result
            rw [result] at opened
            exact opened.trans (resume_ran _ _)
          · rename_i result
            rw [result] at opened
            exact opened.trans (ran_of_loop _ _ _ _ _)
        · exact .refl False.elim

/-- Letting time pass makes calls of the loop only, and none at all when no loop runs. -/
theorem advanceWithin_ran (idle : alone → s.loop = none) (target steps : Nat) :
    Ran alone s (s.advanceWithin target steps) [] [] := by
  induction steps generalizing s with
  | zero => exact ran_of_now idle _
  | succ steps ih =>
    rw [advanceWithin]
    split
    · exact ran_of_now idle _
    · rename_i due next
      split
      · -- Something is due only while a loop runs, and then nothing is claimed of the records.
        have disturbed : ¬alone := by
          intro undisturbed
          rw [nextDue?, idle undisturbed] at next
          cases next
        have stepped := (ran_of_loop s s.loop s.entered due s.broken).trans loopStep_ran
        exact (stepped.forget disturbed).trans (ih fun undisturbed => absurd undisturbed disturbed)
      · exact ran_of_now idle _

theorem advanceTo_ran (idle : alone → s.loop = none) (target : Nat) :
    Ran alone s (s.advanceTo target) [] [] :=
  advanceWithin_ran idle target _

/-- How a call ends, by the plan, that begins at this millisecond. -/
def verdictFrom (s : Scheduler) (begun number : Nat) (request : Request) : Verdict :=
  ((s.plan number request).settlement ((request.timeout s.config).patience begun)).1

/-- How a call ends, by the plan, that begins at the present millisecond. -/
def verdictAt (s : Scheduler) (number : Nat) (request : Request) : Verdict :=
  s.verdictFrom s.now number request

/-- A tick outside the loop begins a call, lets time pass until it ends, and ends it. -/
theorem callStep_eq {tick : Tick} {request : Request} (next : tick.request? = some request) :
    s.callStep tick =
      ((s.dispatch tick request).2.advanceTo (s.dispatch tick request).1.due).settle
        (s.dispatch tick request).1 := by
  rw [callStep]
  split
  · rename_i none
    rw [next] at none
    cases none
  · rename_i other same
    rw [next] at same
    cases same
    rfl

/-- A call of a tick outside the loop takes the tick on by its verdict, over the store and the
refusals of the beginning, whatever the loop does in the meantime. -/
theorem callStep_ran (idle : alone → s.loop = none) {tick : Tick} {request : Request}
    (next : tick.request? = some request) :
    let verdict := s.verdictAt s.journal.length request
    (s.callStep tick).1 = (tick.settle s.config verdict s.services).1 ∧
      Ran alone s (s.callStep tick).2 [request]
        (request.accepted s.services.queue.refuses verdict) := by
  intro verdict
  have dispatched := dispatch_ran idle tick request
  have waited := dispatched.trans
    (advanceTo_ran dispatched.idle (s.dispatch tick request).1.due)
  have settled := waited.trans (settle_ran waited.idle (s.dispatch tick request).1)
  have brought : (s.dispatch tick request).1.tick.accepted
      ((s.dispatch tick request).2.advanceTo
        (s.dispatch tick request).1.due).services.queue.refuses
      (s.dispatch tick request).1.verdict =
      request.accepted s.services.queue.refuses verdict := by
    rw [waited.refuses]
    show tick.accepted _ _ = _
    rw [Tick.accepted, next]
    rfl
  rw [brought] at settled
  rw [callStep_eq next]
  constructor
  · show (tick.settle _ _ _).1 = _
    rw [waited.config]
    exact Tick.settle_congr waited.store waited.refuses
  · exact settled

theorem callSteps_ran (idle : alone → s.loop = none) (calls : Nat) (tick : Tick) :
    ∃ asked accepted, Ran alone s (s.callSteps calls tick).2 asked accepted := by
  induction calls generalizing s tick with
  | zero => exact ⟨[], [], .refl idle⟩
  | succ calls ih =>
    cases next : tick.request? with
    | none =>
      have same : s.callStep tick = (tick, s) := by rw [callStep, next]
      obtain ⟨asked, accepted, rest⟩ := ih idle tick
      rw [callSteps, same]
      exact ⟨asked, accepted, rest⟩
    | some request =>
      have first := (callStep_ran idle next).2
      obtain ⟨asked, accepted, rest⟩ := ih first.idle (s.callStep tick).1
      exact ⟨_, _, first.trans rest⟩

/-- A tick outside the loop leaves the configuration, the plan, the clock and the store as they
are. -/
theorem tick_ran (s : Scheduler) : ∃ asked accepted, Ran False s s.tick.2 asked accepted := by
  have opened : Ran False s s.openTick.2 [] [] := openTick_ran False.elim
  rw [tick]
  split
  · rename_i result
    rw [result] at opened
    exact ⟨[], [], opened⟩
  · rename_i tick t result
    rw [result] at opened
    obtain ⟨asked, accepted, first⟩ := callSteps_ran opened.idle 1 tick
    obtain ⟨more, others, rest⟩ := callSteps_ran first.idle
      ((t.callStep tick).1.callsLeft (t.callStep tick).2.config) (t.callStep tick).1
    exact ⟨_, _, (opened.trans first).trans rest⟩

end Scheduler

end Datebook
