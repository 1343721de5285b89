import Datebook.Fixture
import Datebook.Proofs.Scheduler.Record
import Datebook.Store.Storage

/-!
A run that lags.

A tick may begin after its deadline, its window then begins with it, but the next deadline follows
the old one unless the tick is more than five milliseconds late. So the window of a tick that is a
little late may share its last milliseconds with those of later ticks, and a reminder that is due
then may be offered again: `run_windows_overlap`. That is all that windows can share.
Main statement: `Scheduler.run_windows_share_little`.
-/

set_option autoImplicit false

namespace Datebook

namespace Ticker

variable {timer : Ticker} {millis : Nat}

/-- Later deadlines are no earlier. -/
theorem Whole.due_le_after (whole : timer.Whole millis) (ticks earlier : List TickRecord) :
    (timer.after earlier).due ≤ (timer.after (ticks ++ earlier)).due := by
  induction ticks with
  | nil => exact Nat.le_refl _
  | cons tick rest ih =>
    refine Nat.le_trans ih ?_
    rw [List.cons_append, Ticker.after, (whole.after (rest ++ earlier)).due_fire]
    split <;> omega

end Ticker

namespace Scheduler

variable {known : Event → Prop} {timer : Ticker} {s t u : Scheduler} {ticks : List TickRecord}
  {base : Instant} {millis : Nat}

theorem Follows.after (follows : Follows (· ≤ ·) known timer t s ticks)
    (running : t.clock = .running base)
    (stored : ∀ event ∈ s.services.store.events.values, known event) {moves : List Move}
    (kept : s.Along
      (fun u move => ∀ event ∈ (u.moved move).services.store.events.values, known event) moves) :
    ∃ more, Follows (· ≤ ·) known timer t (s.after moves) more := by
  induction moves generalizing s ticks with
  | nil => exact ⟨ticks, follows⟩
  | cons move rest ih =>
    obtain ⟨more, still⟩ := follows.moved running stored (fun _ _ _ due => due) move
    exact ih still kept.1 kept.2

/-- Whatever is stored under the identifier of an event is that event. -/
def Keeps (event : Event) (s : Scheduler) : Prop :=
  ∀ other ∈ s.services.store.events.values, other.id = event.id → other = event

instance (event : Event) (s : Scheduler) : Decidable (s.Keeps event) :=
  inferInstanceAs (Decidable (∀ other ∈ _, _))

/-- Nobody changes an event. -/
def Unchanged (event : Event) (s : Scheduler) (moves : List Move) : Prop :=
  s.Keeps event ∧ s.Along (fun u move => (u.moved move).Keeps event) moves

instance (event : Event) (s : Scheduler) (moves : List Move) :
    Decidable (s.Unchanged event moves) :=
  inferInstanceAs (Decidable (_ ∧ _))

/-- A later tick begins with the next deadline at the earliest. -/
theorem Regular.later (whole : timer.Whole millis) {later between earlier : List TickRecord}
    {first second : TickRecord}
    (regular : s.Regular (· ≤ ·) known timer (later ++ second :: between ++ first :: earlier)) :
    (if (timer.after earlier).due + 5 < first.begun then first.begun + millis
      else (timer.after earlier).due + millis) ≤ second.begun := by
  rw [List.append_assoc, List.cons_append] at regular
  rw [← (whole.after earlier).due_fire]
  exact Nat.le_trans (whole.due_le_after between (first :: earlier)) regular.kept.1.timely

theorem Along.of_forall {allowed : Scheduler → Move → Prop} (always : ∀ u move, allowed u move)
    (s : Scheduler) (moves : List Move) : s.Along allowed moves := by
  induction moves generalizing s with
  | nil => trivial
  | cons move rest ih => exact ⟨always s move, ih _⟩

/-- What two windows share lies past the next deadline, and there is nothing of the kind when the
later tick begins a period after the earlier one. -/
theorem Kept.shares {timely : Nat → Nat → Prop} {first second : TickRecord} {due dueToo next : Nat}
    (running : s.clock = .running base) (whole : s.config.period.nanos = 1000000 * millis)
    (kept : s.Kept timely known due first) (keptToo : s.Kept timely known dueToo second)
    (after : next ≤ second.begun) {instant : Instant} (inFirst : first.Covers instant)
    (inSecond : second.Covers instant) :
    second.begun < first.begun + millis ∧
      ∃ reading, s.clock.now? next = some reading ∧ reading ≤ instant := by
  have ends := kept.stop_eq running whole
  have reading := keptToo.reading
  rw [running] at ends reading ⊢
  constructor
  · rw [← Nat.not_le]
    intro apart
    obtain ⟨stop, found, before⟩ := Clock.now?_mono apart reading
    rw [found, Option.getD_some] at ends
    have order : instant < second.start := Int.lt_of_lt_of_le (ends ▸ inFirst.2) before
    exact Int.not_le.mpr order inSecond.1
  · obtain ⟨shown, found, before⟩ := Clock.now?_mono after reading
    exact ⟨shown, found, Int.le_trans before inSecond.1⟩

/-- An event that nobody changes has its reminder in the window of a tick that offers it. -/
theorem Kept.covers {timely : Nat → Nat → Prop} {event : Event} {due : Nat} {tick : TickRecord}
    (kept : s.Kept timely (fun other => other.id = event.id → other = event) due tick)
    (offered : event.id.text ∈ tick.offered) : tick.Covers event.reminderAt := by
  obtain ⟨other, same, text, within⟩ := kept.offers _ offered
  obtain rfl := same (EventId.text_injective text)
  exact (other.dueWithin_iff _ _).mp within

namespace Lagging

/-- An event that starts 301 milliseconds past nine. -/
def call : Event where
  id := .ofNat 1
  owner := "alice"
  fields :=
    { title := "call"
      start := ((Fixture.moment 9 0).add? 301000000).getD .last
      stop := Fixture.moment 9 1 }

/-- A period of a tenth of a second and a first listing that takes 103 milliseconds. -/
def scheduler : Scheduler where
  config := { period := .ofMillis 100, resolveOwnerEmail := false }
  clock := .running (Fixture.moment 9 0)
  services :=
    { store := (Store.storage.run
        [(.ofNat 0, .createUser (Fixture.user call.owner)),
          (call.id, .createEvent call.owner call.fields)] .empty).2
      queue := { topic := "reminders" } }
  plan number _ := if number = 0 then .stall 103 else .ok

/-- Three ticks. The second is three milliseconds late and the third is on time. -/
def moves : List Move :=
  [.pass 100, .poll, .pass 103, .poll, .poll, .poll, .poll, .pass 97, .poll, .poll]

theorem accepted : scheduler.accept false = (.ok (), (scheduler.accept false).2) := by
  have starts : Ticker.start? scheduler.now scheduler.config.period =
      some { period := 100000000, deadline := 100000000 } := by decide +kernel
  rw [accept_fresh (by decide) rfl starts false]

end Lagging

/-- Two ticks of a run that lags may look at the same instant and offer the same reminder. -/
theorem run_windows_overlap :
    let t := (Lagging.scheduler.accept false).2
    Lagging.scheduler.accept false = (.ok (), t) ∧ t.Prompt Lagging.moves ∧
      t.Unchanged Lagging.call Lagging.moves ∧
      ∃ first ∈ (t.after Lagging.moves).ticks, ∃ second ∈ (t.after Lagging.moves).ticks,
        first.begun = 203 ∧ second.begun = 300 ∧
        first.Covers Lagging.call.reminderAt ∧ second.Covers Lagging.call.reminderAt ∧
        Lagging.call.id.text ∈ first.offered ∧ Lagging.call.id.text ∈ second.offered :=
  ⟨Lagging.accepted, by decide +kernel, by decide +kernel, by decide +kernel⟩

/-- Windows of two ticks of a run share nothing, unless the earlier tick began one to five
milliseconds after its deadline. They then share at most what lies past the next deadline. An event
that nobody changes and that both ticks offer has its reminder there. -/
theorem run_windows_share_little {shutdown : Bool} {moves : List Move}
    (accepted : s.accept shutdown = (.ok (), t)) (running : s.clock = .running base)
    (whole : s.config.period.nanos = 1000000 * millis) :
    ∃ timer ticks, Ticker.start? s.now s.config.period = some timer ∧
      (t.after moves).ticks = ticks ++ s.ticks ∧
      ∀ later second between first earlier,
        ticks = later ++ second :: between ++ first :: earlier →
          let due := (timer.after earlier).due
          due ≤ first.begun ∧
            (∀ instant, first.Covers instant → second.Covers instant →
              due + 1 ≤ first.begun ∧ first.begun ≤ due + 5 ∧
                ∃ reading, s.clock.now? (due + millis) = some reading ∧ reading ≤ instant) ∧
            ∀ event, t.Unchanged event moves → event.id.text ∈ first.offered →
              event.id.text ∈ second.offered →
                first.Covers event.reminderAt ∧ second.Covers event.reminderAt := by
  obtain ⟨timer, started, launched⟩ := accept_ok accepted
  have wholeTimer := (Ticker.start?_whole whole started).1
  have loop : t.loop = some { ticker := timer, shutdown } := by rw [launched]
  have clock : t.clock = s.clock := by rw [launched]; rfl
  have config : t.config = s.config := by rw [launched]; rfl
  have runningToo : t.clock = .running base := clock.trans running
  have begun (known : Event → Prop) : Follows (· ≤ ·) known timer t t [] :=
    .of_accepted accepted loop
  obtain ⟨ticks, follows⟩ := (begun fun _ => True).after runningToo (fun _ _ => trivial)
    (Along.of_forall (fun _ _ _ _ => trivial) t moves)
  refine ⟨timer, ticks, started, ?_, ?_⟩
  · rw [follows.records, launched]
    rfl
  · intro later second between first earlier split due
    have regular := follows.regular
    rw [split] at regular
    have next := regular.later wholeTimer
    rw [List.append_assoc, List.cons_append] at split regular
    have keptSecond := regular.kept.1
    have keptFirst := regular.kept.2.kept.1
    refine ⟨keptFirst.timely, ?_, ?_⟩
    · intro instant inFirst inSecond
      obtain ⟨close, shared⟩ := keptFirst.shares runningToo (config ▸ whole) keptSecond next inFirst
        inSecond
      split at next
      · omega
      · rename_i little
        rw [if_neg little, clock] at shared
        exact ⟨by omega, by omega, shared⟩
    · intro event unchanged inFirst inSecond
      obtain ⟨more, tells⟩ := (begun fun other => other.id = event.id → other = event).after
        runningToo unchanged.1 unchanged.2
      obtain rfl : more = ticks :=
        List.append_cancel_right (tells.records.symm.trans follows.records)
      have told := tells.regular
      rw [split] at told
      exact ⟨told.kept.2.kept.1.covers inFirst, told.kept.1.covers inSecond⟩

/-- In that run the first tick is on time, so that its window has nothing in common with the
next. -/
theorem run_windows_share_little_lagging :
    let t := (Lagging.scheduler.accept false).2
    Lagging.scheduler.accept false = (.ok (), t) ∧
      Lagging.scheduler.clock = .running (Fixture.moment 9 0) ∧
      Lagging.scheduler.config.period.nanos = 1000000 * 100 ∧
      ∃ third second first, (t.after Lagging.moves).ticks = [third, second, first] ∧
        first.begun = 100 ∧ ∀ instant, ¬(first.Covers instant ∧ second.Covers instant) := by
  intro t
  have running : Lagging.scheduler.clock = .running (Fixture.moment 9 0) := rfl
  have whole : Lagging.scheduler.config.period.nanos = 1000000 * 100 := by decide
  obtain ⟨timer, ticks, started, records, shares⟩ :=
    run_windows_share_little Lagging.accepted running whole
  have none : Lagging.scheduler.ticks = [] := rfl
  have begins : (t.after Lagging.moves).ticks.map (·.begun) = [300, 203, 100] := by decide +kernel
  rw [none, List.append_nil] at records
  rw [records] at begins ⊢
  obtain ⟨third, rest, rfl, _, others⟩ := List.map_eq_cons_iff.mp begins
  obtain ⟨second, last, rfl, _, others⟩ := List.map_eq_cons_iff.mp others
  obtain ⟨first, none, rfl, begun, nothing⟩ := List.map_eq_cons_iff.mp others
  obtain rfl := List.map_eq_nil_iff.mp nothing
  refine ⟨Lagging.accepted, running, whole, third, second, first, rfl, begun, ?_⟩
  rintro instant ⟨inFirst, inSecond⟩
  obtain ⟨late, _⟩ := (shares [third] second [] first [] rfl).2.1 instant inFirst inSecond
  have due := (Ticker.start?_whole whole started).2
  rw [Ticker.after, due, begun] at late
  exact absurd late (by decide)

end Scheduler

end Datebook
