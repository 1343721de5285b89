import Datebook.Proofs.Scheduler.Course
import Datebook.Proofs.Time.Span

/-!
The ticks of a run.

The journal of calls tells when each tick began, which window it looked over and what it offered.
Whatever happens after a run was accepted, its ticks keep to the timer: each begins no earlier than
its deadline, which the earlier ones decide, with a window that begins then, and offers only events
that are due in that window. `Follows` is that invariant and `Follows.after` the run lemma.
-/

set_option autoImplicit false

namespace Datebook

namespace Clock

variable {base start late : Instant} {elapsed : Nat}

/-- A running clock showed no later an instant before. -/
theorem now?_mono {more : Nat} (shorter : elapsed ≤ more)
    (reading : (running base).now? more = some late) :
    ∃ early, (running base).now? elapsed = some early ∧ early ≤ late := by
  rw [now?] at reading ⊢
  exact Instant.add?_of_le (by omega) (by omega) reading

theorem addClamped_now? {millis : Nat} {period : Duration}
    (whole : period.nanos = 1000000 * millis) (reading : (running base).now? elapsed = some start) :
    start.addClamped period = ((running base).now? (elapsed + millis)).getD .last := by
  have further : 1000000 * ((elapsed + millis : Nat) : Int) =
      1000000 * (elapsed : Int) + (1000000 * millis : Nat) := by omega
  rw [now?] at reading ⊢
  rw [Instant.addClamped_eq, whole, further,
    Instant.add?_add? (by omega) (Int.natCast_nonneg _) reading]

end Clock

/-- A tick as the journal tells of it. -/
structure TickRecord where
  /-- The millisecond at which it began. -/
  begun : Nat
  start : Instant
  stop : Instant
  /-- The keys of its publish calls, the latest first. -/
  offered : List String := []
  deriving DecidableEq, Repr

namespace TickRecord

/-- An instant lies in the window of the tick. -/
def Covers (tick : TickRecord) (instant : Instant) : Prop :=
  tick.start ≤ instant ∧ instant < tick.stop

instance (tick : TickRecord) (instant : Instant) : Decidable (tick.Covers instant) :=
  inferInstanceAs (Decidable (_ ∧ _))

/-- What one more call tells, the latest tick first. -/
def note (call : Nat × Request) (ticks : List TickRecord) : List TickRecord :=
  match call.2, ticks with
  | .list start stop, ticks => { begun := call.1, start, stop } :: ticks
  | .publish key _, tick :: earlier => { tick with offered := key :: tick.offered } :: earlier
  | .publish _ _, [] => []
  | .lookup _, ticks => ticks

/-- A call that is no listing belongs to the latest tick. -/
theorem note_later {request : Request} (later : ∀ start stop, request ≠ .list start stop)
    (now : Nat) (tick : TickRecord) (earlier : List TickRecord) :
    note (now, request) (tick :: earlier) =
      { tick with offered := request.offers?.toList ++ tick.offered } :: earlier := by
  cases request with
  | list start stop => exact absurd rfl (later start stop)
  | lookup owner => rfl
  | publish key payload => rfl

end TickRecord

namespace Ticker

/-- A ticker in whole milliseconds, with so many from one deadline to the next. -/
structure Whole (millis : Nat) (ticker : Ticker) : Prop where
  period : ticker.period = 1000000 * millis
  deadline : ticker.deadline = 1000000 * ticker.due

variable {ticker : Ticker} {millis : Nat}

theorem start?_whole {now : Nat} {period : Duration} (whole : period.nanos = 1000000 * millis)
    (started : start? now period = some ticker) :
    ticker.Whole millis ∧ ticker.due = now + millis := by
  rw [start?] at started
  split at started
  · cases started
    refine ⟨⟨whole, ?_⟩, ?_⟩ <;> simp only [due, whole] <;> omega
  · cases started

/-- Within five milliseconds of a deadline the next one is a period after it, and beyond them a
period after the present moment. -/
theorem Whole.due_fire (whole : ticker.Whole millis) (now : Nat) :
    (ticker.fire now).due = if ticker.due + 5 < now then now + millis else ticker.due + millis := by
  have period := whole.period
  have deadline := whole.deadline
  generalize ticker.due = due at deadline ⊢
  rw [fire, slack]
  split <;> split <;> simp only [Ticker.due] <;> omega

theorem Whole.fire (whole : ticker.Whole millis) (now : Nat) : (ticker.fire now).Whole millis := by
  have next := whole.due_fire now
  have period := whole.period
  have deadline := whole.deadline
  constructor
  · rw [Ticker.fire]
    split <;> exact period
  · rw [next, Ticker.fire, slack]
    split <;> split <;> dsimp only <;> omega

/-- The ticker after these ticks, the latest first. -/
def after (timer : Ticker) : List TickRecord → Ticker
  | [] => timer
  | tick :: earlier => (timer.after earlier).fire tick.begun

theorem Whole.after (whole : ticker.Whole millis) (ticks : List TickRecord) :
    (ticker.after ticks).Whole millis := by
  induction ticks with
  | nil => exact whole
  | cons tick earlier ih => exact ih.fire tick.begun

end Ticker

namespace Tick

/-- The events whose publish calls are under way or come later. -/
def events (tick : Tick) : List Event :=
  tick.publishing?.toList ++ tick.ahead?.getD []

/-- An event that a call leaves to a tick was left to it before or has just been listed. -/
theorem settle_events {config : SchedulerConfig} {verdict : Verdict} {tick next : Tick}
    {services others : Services}
    (settled : tick.settle config verdict services = (next, others)) {event : Event}
    (member : event ∈ next.events) :
    event ∈ tick.events ∨
      event ∈ services.store.listDue tick.report.windowStart tick.report.windowEnd := by
  obtain ⟨left, ahead, remaining⟩ := tick.settle_remaining config verdict services
  rw [settled] at ahead remaining
  rw [events, ahead, Option.getD_some, ← remaining, Tick.remaining] at member
  cases known : tick.ahead? with
  | some rest =>
    rw [known] at member
    rw [events, known]
    exact Or.inl (List.mem_append_right _ member)
  | none =>
    rw [known] at member
    cases verdict with
    | answered => exact Or.inr member
    | failed | late => cases member

theorem mem_events_of_offers {tick : Tick} {request : Request} {key : String}
    (next : tick.request? = some request) (offers : key ∈ request.offers?) :
    ∃ event ∈ tick.events, event.id.text = key := by
  have offered := tick.offers?_request?
  rw [next, Option.bind_some, Option.mem_def.mp offers] at offered
  obtain ⟨event, publishing, same⟩ := Option.map_eq_some_iff.mp offered.symm
  refine ⟨event, ?_, same⟩
  rw [events, publishing]
  exact List.mem_append_left _ (List.mem_singleton.mpr rfl)

end Tick

namespace Scheduler

/-- The ticks that the journal tells of, the latest first. -/
def ticks (s : Scheduler) : List TickRecord :=
  s.journal.foldr TickRecord.note []

variable {timely : Nat → Nat → Prop} {known : Event → Prop} {timer : Ticker} {s t u : Scheduler}
  {ticks : List TickRecord}

/-- A tick began in time for its deadline, over the window that begins then, and offered events that
are known and due in that window. -/
structure Kept (timely : Nat → Nat → Prop) (known : Event → Prop) (s : Scheduler) (due : Nat)
    (tick : TickRecord) : Prop where
  timely : timely due tick.begun
  reading : s.clock.now? tick.begun = some tick.start
  stop : tick.stop = tick.start.addClamped s.config.period
  offers : ∀ key ∈ tick.offered, ∃ event, known event ∧ event.id.text = key ∧
    event.dueWithin tick.start tick.stop = true

/-- The window of a tick ends with the reading of the clock a period after its beginning. -/
theorem Kept.stop_eq {base : Instant} {due millis : Nat} {tick : TickRecord}
    (kept : s.Kept timely known due tick) (running : s.clock = .running base)
    (whole : s.config.period.nanos = 1000000 * millis) :
    tick.stop = (s.clock.now? (tick.begun + millis)).getD .last := by
  have reading := kept.reading
  rw [running] at reading
  rw [kept.stop, running]
  exact Clock.addClamped_now? whole reading

/-- Each tick, the latest first, keeps to the deadline that the earlier ones left. -/
def Regular (timely : Nat → Nat → Prop) (known : Event → Prop) (timer : Ticker) (s : Scheduler) :
    List TickRecord → Prop
  | [] => True
  | tick :: earlier =>
    s.Kept timely known (timer.after earlier).due tick ∧ s.Regular timely known timer earlier

theorem Regular.kept {later earlier : List TickRecord} {tick : TickRecord}
    (regular : s.Regular timely known timer (later ++ tick :: earlier)) :
    s.Kept timely known (timer.after earlier).due tick ∧
      s.Regular timely known timer earlier := by
  induction later with
  | nil => exact regular
  | cons _ later ih => exact ih regular.2

/-- What has happened since a run was accepted: these ticks began, the latest first, and kept to the
timer. -/
structure Follows (timely : Nat → Nat → Prop) (known : Event → Prop) (timer : Ticker)
    (t u : Scheduler) (ticks : List TickRecord) : Prop where
  config : u.config = t.config
  clock : u.clock = t.clock
  launched : u.entered ≠ []
  records : u.ticks = ticks ++ t.ticks
  regular : t.Regular timely known timer ticks
  ticker : ∀ ticker ∈ u.loop.map (·.ticker), ticker = timer.after ticks
  busy : ∀ pending ∈ u.loop.bind (·.pending), ∃ tick earlier, ticks = tick :: earlier ∧
    tick.start = pending.tick.report.windowStart ∧ tick.stop = pending.tick.report.windowEnd ∧
    ∀ event ∈ pending.tick.events, known event ∧ event.dueWithin tick.start tick.stop = true

theorem Follows.undisturbed {base : Instant} (follows : Follows timely known timer t s ticks)
    (running : t.clock = .running base) (same : Undisturbed s u) :
    Follows timely known timer t u ticks where
  config := same.config.trans follows.config
  clock := (same.clock base (follows.clock.trans running)).trans follows.clock
  launched := same.entered ▸ follows.launched
  records := (congrArg (List.foldr TickRecord.note []) same.journal).trans follows.records
  regular := follows.regular
  ticker := same.ticker ▸ follows.ticker
  busy := same.bind_pending ▸ follows.busy

theorem Follows.ticks_unique {more : List TickRecord}
    (follows : Follows timely known timer t s ticks)
    (followsToo : Follows timely known timer t u more) (same : u.journal = s.journal) :
    more = ticks := by
  have records : u.ticks = s.ticks := congrArg (List.foldr TickRecord.note []) same
  rw [follows.records, followsToo.records] at records
  exact List.append_cancel_right records

/-- A run that has just been accepted. -/
theorem Follows.of_accepted {shutdown : Bool} (accepted : s.accept shutdown = (.ok (), t))
    (loop : t.loop = some { ticker := timer, shutdown }) : Follows timely known timer t t [] where
  config := rfl
  clock := rfl
  launched := by
    obtain ⟨_, _, rfl⟩ := accept_ok accepted
    exact List.cons_ne_nil _ _
  records := rfl
  regular := trivial
  ticker ticker member := by
    rw [loop] at member
    cases member
    rfl
  busy pending member := by
    rw [loop] at member
    cases member

theorem Follows.stepped (follows : Follows timely known timer t s ticks)
    (stored : ∀ event ∈ s.services.store.events.values, known event)
    (inTime : ∀ loop, s.loop = some loop → loop.pending = none → loop.ticker.due ≤ s.now →
      timely loop.ticker.due s.now)
    (step : s.Stepped u) : ∃ more, Follows timely known timer t u more := by
  obtain ⟨config, clock, launched, records, regular, ticker, busy⟩ := follows
  cases step with
  | rest quiet => exact ⟨ticks, config, clock, launched, records, regular, ticker, busy⟩
  | stop running free shutdown | breakOff running free goesOn due unread =>
    refine ⟨ticks, config, clock, List.cons_ne_nil _ _, records, regular, ?_, ?_⟩ <;>
      exact fun _ member => nomatch member
  | @begin loop start running free goesOn due reading =>
    have current : loop.ticker = timer.after ticks := ticker _ (by rw [running]; rfl)
    let tick : TickRecord :=
      { begun := s.now, start, stop := start.addClamped s.config.period }
    refine ⟨tick :: ticks, config, clock, List.cons_ne_nil _ _, ?_, ⟨⟨?_, ?_, ?_, ?_⟩, regular⟩,
      ?_, ?_⟩
    · exact congrArg (tick :: ·) records
    · rw [← current]
      exact inTime loop running free due
    · rw [← clock]
      exact reading
    · rw [← config]
    · exact fun _ member => nomatch member
    · intro fired member
      cases member
      rw [current]
      rfl
    · intro pending member
      cases member
      exact ⟨tick, ticks, rfl, rfl, rfl, fun _ member => nomatch member⟩
  | @goOn loop pending next services request running pends due settled asks =>
    obtain ⟨tick, earlier, rfl, start, stop, events⟩ := busy pending (by rw [running]; exact pends)
    obtain ⟨kept, rest⟩ := regular
    have window := pending.tick.settle_window s.config pending.verdict s.services
    rw [settled] at window
    have left : ∀ event ∈ next.events,
        known event ∧ event.dueWithin tick.start tick.stop = true := by
      intro event member
      rcases Tick.settle_events settled member with before | listed
      · exact events event before
      · rw [Store.listDue, List.mem_mergeSort, List.mem_filter, ← start, ← stop] at listed
        exact ⟨stored event listed.1, listed.2⟩
    refine ⟨{ tick with offered := request.offers?.toList ++ tick.offered } :: earlier, config,
      clock, launched, ?_, ⟨⟨kept.timely, kept.reading, kept.stop, ?_⟩, rest⟩, ?_, ?_⟩
    · obtain ⟨_, ahead, _⟩ := Tick.settle_keys settled
      have noted := TickRecord.note_later
        (fun start stop same => Tick.request?_ne_list ahead start stop (same ▸ asks))
        s.now tick (earlier ++ t.ticks)
      exact (congrArg (TickRecord.note (s.now, request)) records).trans noted
    · intro key member
      rcases List.mem_append.mp member with new | old
      · obtain ⟨event, among, same⟩ :=
          Tick.mem_events_of_offers asks (Option.mem_toList.mp new)
        obtain ⟨isKnown, within⟩ := left event among
        exact ⟨event, isKnown, same, within⟩
      · exact kept.offers key old
    · intro same member
      cases member
      exact ticker _ (by rw [running]; rfl)
    · intro after member
      cases member
      exact ⟨_, earlier, rfl, start.trans window.1.symm, stop.trans window.2.symm, left⟩
  | @finish loop pending next services running pends due settled asks =>
    refine ⟨ticks, config, clock, List.cons_ne_nil _ _, records, regular, ?_, ?_⟩
    · intro same member
      cases member
      exact ticker _ (by rw [running]; rfl)
    · exact fun _ member => nomatch member

theorem Follows.moved {base : Instant} (follows : Follows timely known timer t s ticks)
    (running : t.clock = .running base)
    (stored : ∀ event ∈ s.services.store.events.values, known event)
    (inTime : ∀ loop, s.loop = some loop → loop.pending = none → loop.ticker.due ≤ s.now →
      timely loop.ticker.due s.now)
    (move : Move) : ∃ more, Follows timely known timer t (s.moved move) more := by
  cases s.moved_advanced move with
  | aside same _ => exact ⟨ticks, follows.undisturbed running same⟩
  | launch _ fresh _ => exact absurd fresh follows.launched
  | step _ step => exact follows.stepped stored inTime step

end Scheduler

end Datebook
