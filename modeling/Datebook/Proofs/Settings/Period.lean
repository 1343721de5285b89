import Datebook.Proofs.Scheduler.Course
import Datebook.Proofs.Scheduler.Reminders
import Datebook.Proofs.Settings.Loading
import Datebook.Proofs.Time.Span

/-!
What becomes of the minutes of the period.

The minutes are turned into seconds, a run adds these to the present, and each tick adds them to the
clock. The product is exact as long as it fits 64 bits, a first run begins as long as its first
deadline is within the range of timers, and a window that would leave the range of instants ends
with it. Only the last of the three is so for all minutes that are accepted. Main statement:
`accepted_period_carries`.
-/

set_option autoImplicit false

namespace Datebook

namespace Scheduler

/-- How a first run begins when the period is so many seconds. -/
inductive Begins (s : Scheduler) (shutdown : Bool) (seconds : Nat) :
    Except RunError Unit × Scheduler → Prop
  | refused (zero : seconds = 0) :
      Begins s shutdown seconds (.error (.refused .invalidPeriod), s)
  | waits (positive : 0 < seconds)
      (within : 1000000 * s.now + seconds * 1000000000 < timerRange) :
      Begins s shutdown seconds
        (.ok (),
          { s.enter .waitingForTick with
            started := true
            loop := some
              { ticker :=
                  { period := seconds * 1000000000
                    deadline := 1000000 * s.now + seconds * 1000000000 }
                shutdown } })
  | breaksOff (beyond : timerRange ≤ 1000000 * s.now + seconds * 1000000000) :
      Begins s shutdown seconds (.error .timerOverflow, { s with started := true })

variable {s : Scheduler} {seconds : Nat}

theorem accept_begins (fresh : s.started = false)
    (period : s.config.period.nanos = seconds * 1000000000) (shutdown : Bool) :
    Begins s shutdown seconds (s.accept shutdown) := by
  by_cases zero : seconds = 0
  · have none : s.config.period.nanos = 0 := by omega
    rw [accept, if_pos none]
    exact .refused zero
  · have positive : 0 < seconds := Nat.pos_of_ne_zero zero
    by_cases within : 1000000 * s.now + seconds * 1000000000 < timerRange
    · have starts : Ticker.start? s.now s.config.period =
          some
            { period := seconds * 1000000000
              deadline := 1000000 * s.now + seconds * 1000000000 } := by
        rw [Ticker.start?, period, if_pos within]
      rw [accept_fresh (by omega) fresh starts]
      exact .waits positive within
    · have none : Ticker.start? s.now s.config.period = none := by
        rw [Ticker.start?, period, if_neg within]
      rw [accept, if_neg (by omega), fresh, if_neg Bool.false_ne_true, none]
      exact .breaksOff (Nat.le_of_not_lt within)

theorem tick_window {now : Instant} (reading : s.clock.now? s.now = some now) :
    ∃ report, s.tick.1 = some report ∧ report.windowStart = now ∧
      report.windowEnd = (now.add? s.config.period.nanos).getD .last := by
  rw [← Instant.addClamped_eq]
  by_cases answered : s.verdictAt s.journal.length (s.listing now) = .answered
  · obtain ⟨report, _, ticked, start, stop, _⟩ := tick_answered reading answered
    exact ⟨report, ticked, start, stop⟩
  · exact ⟨_, (tick_unanswered reading answered).1, rfl, rfl⟩

end Scheduler

namespace Settings

/-- What a build makes of the minutes of the period, when no variable is refused. -/
inductive Taken (arithmetic : Arithmetic) (minutes : Nat) : Except SettingsError Settings → Prop
  | exact {settings : Settings} (fits : minutes * 60 < 0x1_0000_0000_0000_0000)
      (period : settings.scheduler.period.nanos = minutes * 60 * 1000000000) :
      Taken arithmetic minutes (.ok settings)
  | brokenOff (checked : arithmetic = .checked)
      (long : 0x1_0000_0000_0000_0000 ≤ minutes * 60) :
      Taken arithmetic minutes (.error (.periodTooLong minutes))
  | cut {settings : Settings} (wrapping : arithmetic = .wrapping)
      (long : 0x1_0000_0000_0000_0000 ≤ minutes * 60)
      (period : settings.scheduler.period.nanos =
        minutes * 60 % 0x1_0000_0000_0000_0000 * 1000000000) :
      Taken arithmetic minutes (.ok settings)

theorem loadBy_taken (arithmetic : Arithmetic) {lookup : Lookup}
    (accepted : ∀ v : Variable, v.kind.Accepts (lookup v.name)) :
    ∃ minutes, HeldMinutes (lookup minutesName) minutes ∧ 0 < minutes ∧
      Taken arithmetic minutes (loadBy arithmetic lookup) := by
  have ends := loadBy_loaded arithmetic lookup
  generalize loadBy arithmetic lookup = outcome at ends ⊢
  cases ends with
  | refused first => exact absurd (accepted _) first.refused.not_accepts
  | @brokenOff minutes _ given off =>
    obtain ⟨checked, long⟩ := (SchedulerConfig.ofMinutesBy_eq_none_iff _ _).mp off
    obtain ⟨other, givenToo, positive⟩ := accepted .minutes
    rw [HeldMinutes.unique givenToo given] at positive
    exact ⟨minutes, given, positive, .brokenOff checked long⟩
  | @accepted minutes settings _ given positive made =>
    refine ⟨minutes, given, positive, ?_⟩
    obtain ⟨_, same, period⟩ := SchedulerConfig.ofMinutesBy_some made
    cases same
    by_cases fits : minutes * 60 < 0x1_0000_0000_0000_0000
    · rw [Nat.mod_eq_of_lt fits] at period
      exact .exact fits period
    · have long := Nat.le_of_not_lt fits
      cases arithmetic with
      | checked =>
        have off := (SchedulerConfig.ofMinutesBy_eq_none_iff .checked minutes).mpr ⟨rfl, long⟩
        cases off.symm.trans made
      | wrapping => exact .cut rfl long period

theorem Taken.period_nanos {arithmetic : Arithmetic} {minutes : Nat} {settings : Settings}
    (taken : Taken arithmetic minutes (.ok settings)) :
    settings.scheduler.period.nanos =
      minutes * 60 % 0x1_0000_0000_0000_0000 * 1000000000 := by
  cases taken with
  | exact fits period => rw [period, Nat.mod_eq_of_lt fits]
  | cut _ _ period => exact period

/-- Minutes that are accepted make an exact period as long as its seconds fit 64 bits; otherwise
loading breaks off, or the period is cut. With the seconds that it has, a first run begins unless
they are none or lead out of the range of timers, and every tick reports on a window that goes no
further than instants do. -/
theorem accepted_period_carries (arithmetic : Arithmetic) {lookup : Lookup}
    (accepted : ∀ v : Variable, v.kind.Accepts (lookup v.name)) :
    ∃ minutes, HeldMinutes (lookup minutesName) minutes ∧ 0 < minutes ∧
      Taken arithmetic minutes (loadBy arithmetic lookup) ∧
      ∀ settings, loadBy arithmetic lookup = .ok settings →
        let seconds := minutes * 60 % 0x1_0000_0000_0000_0000
        ∀ s : Scheduler, s.config = settings.scheduler →
          (s.started = false → ∀ shutdown, s.Begins shutdown seconds (s.accept shutdown)) ∧
          ∀ now, s.clock.now? s.now = some now →
            ∃ report, s.tick.1 = some report ∧ report.windowStart = now ∧
              report.windowEnd = (now.add? (seconds * 1000000000)).getD .last := by
  obtain ⟨minutes, given, positive, taken⟩ := loadBy_taken arithmetic accepted
  refine ⟨minutes, given, positive, taken, ?_⟩
  intro settings loaded seconds s config
  rw [loaded] at taken
  have period : s.config.period.nanos = seconds * 1000000000 := by
    rw [config]
    exact taken.period_nanos
  refine ⟨fun fresh shutdown => Scheduler.accept_begins fresh period shutdown, ?_⟩
  intro now reading
  obtain ⟨report, ticked, start, stop⟩ := Scheduler.tick_window reading
  rw [period] at stop
  exact ⟨report, ticked, start, stop⟩

/-- A quarter of an hour, from nine o'clock. -/
theorem accepted_period_carries_quarter :
    let lookup : Lookup := ([("SCHEDULE_PERIOD_MINUTES", "15")].lookup ·)
    let s : Scheduler :=
      { config := { period := .ofSecs 900 }
        clock := .manual (Fixture.moment 9 0)
        services := { store := .empty, queue := { topic := "reminders" } } }
    (∀ v : Variable, v.kind.Accepts (lookup v.name)) ∧
      (∃ settings, loadBy .checked lookup = .ok settings ∧ s.config = settings.scheduler) ∧
      (s.accept false).1 = .ok () ∧
      ∃ report, s.tick.1 = some report ∧ report.windowEnd = Fixture.moment 9 15 := by
  intro lookup s
  obtain ⟨settings, loaded, config⟩ :
      ∃ settings, loadBy .checked lookup = .ok settings ∧ s.config = settings.scheduler :=
    ⟨_, rfl, rfl⟩
  have accepted := accepts_of_loadBy loaded
  obtain ⟨minutes, given, _, _, carries⟩ := accepted_period_carries .checked accepted
  have read : Except.ok 15 = Except.ok minutes := Numeral.read given
  cases read
  obtain ⟨begins, windows⟩ := carries settings loaded s config
  obtain ⟨report, ticked, _, stop⟩ := windows (Fixture.moment 9 0) rfl
  refine ⟨accepted, ⟨settings, loaded, config⟩, ?_, report, ticked, ?_⟩
  · have begun := begins rfl false
    generalize s.accept false = outcome at begun ⊢
    cases begun with
    | refused zero => exact absurd zero (by decide)
    | waits => rfl
    | breaksOff beyond => exact absurd beyond (by decide)
  · rw [stop]
    decide +kernel

/-- Not all minutes that are accepted are of use: with the first ones here no run begins, although
the period is exact. With the next ones loading breaks off, or makes a period of 44 seconds; and the
last ones can make one of no length, which no run takes. -/
theorem accepted_period_overflows :
    let source (minutes : String) : Lookup := ([("SCHEDULE_PERIOD_MINUTES", minutes)].lookup ·)
    (∃ settings, loadBy .checked (source "200000000000000000") = .ok settings ∧
      settings.scheduler.period.nanos = 200000000000000000 * 60 * 1000000000 ∧
      ∀ s : Scheduler, s.config = settings.scheduler → s.started = false →
        s.runShutDown.1 = .error .timerOverflow) ∧
    loadBy .checked (source "307445734561825861") = .error (.periodTooLong 307445734561825861) ∧
    (∃ settings, loadBy .wrapping (source "307445734561825861") = .ok settings ∧
      settings.scheduler.period = .ofSecs 44) ∧
    (∃ settings, loadBy .wrapping (source "4611686018427387904") = .ok settings ∧
      settings.scheduler.period = .ofSecs 0) ∧
    ¬∀ (arithmetic : Arithmetic) (lookup : Lookup) (settings : Settings),
      loadBy arithmetic lookup = .ok settings →
      ∀ s : Scheduler, s.config = settings.scheduler → s.started = false →
        s.runShutDown.1 = .ok () := by
  intro source
  have range : timerRange = 9223372036854772208 * 1000000000 := rfl
  obtain ⟨settings, loaded, period⟩ :
      ∃ settings, loadBy .checked (source "200000000000000000") = .ok settings ∧
        settings.scheduler.period.nanos = 12000000000000000000 * 1000000000 := ⟨_, rfl, rfl⟩
  have broken (s : Scheduler) (config : s.config = settings.scheduler)
      (fresh : s.started = false) : s.runShutDown.1 = .error .timerOverflow := by
    rw [← config] at period
    have begun := Scheduler.accept_begins fresh period true
    rw [Scheduler.runShutDown]
    generalize s.accept true = outcome at begun ⊢
    cases begun with
    | refused zero => exact absurd zero (by decide)
    | waits _ within => omega
    | breaksOff => rfl
  refine ⟨⟨settings, loaded, period, broken⟩, rfl, ⟨_, rfl, rfl⟩, ⟨_, rfl, rfl⟩, fun runs => ?_⟩
  let s : Scheduler :=
    { config := settings.scheduler
      clock := .manual (Fixture.moment 9 0)
      services := { store := .empty, queue := { topic := "reminders" } } }
  cases (broken s rfl rfl).symm.trans (runs .checked _ settings loaded s rfl rfl)

end Settings

end Datebook
