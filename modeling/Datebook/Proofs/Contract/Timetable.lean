import Datebook.Fixture
import Datebook.Proofs.Time.Span

/-!
The timetable of the fixtures.

All times of the checks lie on one day and most of them on whole minutes, so each is a `clock` of
its minute, and what the checks do with times is arithmetic on minutes.
-/

set_option autoImplicit false

namespace Datebook

theorem Instant.ofCivil?_parts {date : CivilDate} {secondOfDay : Int}
    (early : firstSecond ≤ date.dayNumber * 86400 + secondOfDay)
    (late : date.dayNumber * 86400 + secondOfDay ≤ lastSecond) :
    ∃ t, ofCivil? date secondOfDay 0 = some t ∧
      t.second = date.dayNumber * 86400 + secondOfDay ∧ t.nano = 0 :=
  ⟨_, dif_pos ⟨early, late, by decide⟩, rfl, rfl⟩

namespace Fixture

/-- An instant of the day of the fixtures, by the minute. -/
def clock (minute : Nat) : Instant :=
  moment 0 minute

/-- Whether a minute is early enough, on whichever day, to be an instant. -/
abbrev Near (minute : Nat) : Prop :=
  minute ≤ 10000

@[simp] theorem moment_eq (hour minute : Nat) :
    moment hour minute = clock (60 * hour + minute) := by
  have seconds : ((hour * 3600 + minute * 60 : Nat) : Int) =
      (0 * 3600 + (60 * hour + minute) * 60 : Nat) := by omega
  unfold clock moment
  rw [seconds]

theorem clock_parts {minute : Nat} (near : Near minute) :
    (clock minute).second = 1906675200 + 60 * minute ∧ (clock minute).nano = 0 := by
  have day : (⟨2030, 6, 3⟩ : CivilDate).dayNumber = 22068 := by decide
  have early : firstSecond ≤ 22068 * 86400 + ((0 * 3600 + minute * 60 : Nat) : Int) := by
    unfold firstSecond
    omega
  have late : 22068 * 86400 + ((0 * 3600 + minute * 60 : Nat) : Int) ≤ lastSecond := by
    unfold lastSecond
    omega
  rw [← day] at early late
  obtain ⟨t, found, second, nano⟩ := Instant.ofCivil?_parts early late
  unfold clock moment
  rw [found, Option.getD_some]
  omega

@[simp] theorem clock_le_iff {first second : Nat} (near : Near first) (nearToo : Near second) :
    clock first ≤ clock second ↔ first ≤ second := by
  have start := clock_parts near
  have stop := clock_parts nearToo
  rw [Instant.le_iff]
  omega

@[simp] theorem clock_lt_iff {first second : Nat} (near : Near first) (nearToo : Near second) :
    clock first < clock second ↔ first < second := by
  have start := clock_parts near
  have stop := clock_parts nearToo
  rw [Instant.lt_iff]
  omega

@[simp] theorem clock_truncated {minute : Nat} (near : Near minute) :
    (clock minute).truncated = clock minute := by
  have parts := clock_parts near
  apply Instant.eq_of_parts
  · rfl
  · unfold Instant.truncated
    dsimp only
    omega

/-- Whole minutes later. -/
theorem clock_add? {minute : Nat} {length : Int} (forward : 0 ≤ length)
    (near : Near (minute + length.toNat)) :
    (clock minute).add? (length * 60000000000) = some (clock (minute + length.toNat)) := by
  have nearToo : Near minute := by
    unfold Near at near ⊢
    omega
  have start := clock_parts nearToo
  have stop := clock_parts near
  rw [Instant.add?_regular (by omega)]
  unfold Instant.nanos Instant.ofNanos?
  rw [dif_pos (by unfold firstSecond lastSecond; omega)]
  apply congrArg some
  apply Instant.eq_of_parts
  · dsimp only
    omega
  · dsimp only
    omega

@[simp] theorem slot_eq (title : String) {start : Nat} {length : Int} (forward : 0 ≤ length)
    (near : Near (start + length.toNat)) :
    slot title (clock start) length =
      { title, start := clock start, stop := clock (start + length.toNat) } := by
  unfold slot slot?
  rw [clock_add? forward near]
  rfl

section

variable {title : String} {description : Option String} {start stop : Nat}
  {lead : Option Duration} (nearStart : Near start) (nearStop : Near stop)

include nearStart nearStop

@[simp] theorem truncated_clock :
    (EventFields.mk title description (clock start) (clock stop) lead).truncated =
      ⟨title, description, clock start, clock stop, lead.map Duration.truncated⟩ := by
  unfold EventFields.truncated
  rw [clock_truncated nearStart, clock_truncated nearStop]

@[simp] theorem overlaps_clock {other otherStop : Nat} (nearOther : Near other)
    (nearOtherStop : Near otherStop) :
    (EventFields.mk title description (clock start) (clock stop) lead).overlaps (clock other)
      (clock otherStop) = (decide (start < otherStop) && decide (other < stop)) := by
  unfold EventFields.overlaps overlap
  simp [nearStart, nearStop, nearOther, nearOtherStop]

end

@[simp] theorem dueWithin_clock {title : String} {description : Option String} {stop : Instant}
    {start first last : Nat} (nearStart : Near start) (nearFirst : Near first)
    (nearLast : Near last) :
    (EventFields.mk title description (clock start) stop none).dueWithin (clock first)
      (clock last) = (decide (first ≤ start) && decide (start < last)) := by
  unfold EventFields.dueWithin EventFields.reminderAt
  simp [nearStart, nearFirst, nearLast]

section

variable (id : EventId) (owner : String) (fields : EventFields)

@[simp] theorem start_mk : (Event.mk id owner fields).start = fields.start :=
  rfl

@[simp] theorem overlaps_mk (start stop : Instant) :
    (Event.mk id owner fields).overlaps start stop = fields.overlaps start stop :=
  rfl

@[simp] theorem dueWithin_mk (start stop : Instant) :
    (Event.mk id owner fields).dueWithin start stop = fields.dueWithin start stop :=
  rfl

end

end Fixture

end Datebook
