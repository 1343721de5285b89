import Datebook.Time.Civil
import Datebook.Time.Duration

/-!
Instants.

An `Instant` is a second of the civil calendar and the nanoseconds into it. A leap second belongs
to the second before it, as its nanoseconds from 10⁹ on; any second may have one. Instants are
ordered by their `rank`; the first is `Instant.first` and `Instant.last` is the last outside a leap
second.

`Instant.add?` moves an instant by a span. Outside leap seconds this is exact integer arithmetic on
nanoseconds. From inside a leap second, a span that leaves it forwards starts at the second's
regular end, one of a second or more backwards starts at the next second, and any other stays in
the second.
-/

set_option autoImplicit false

namespace Datebook

/-- The first second of -262143-01-01. -/
def firstSecond : Int := -8334601228800

/-- The last second of +262142-12-31. -/
def lastSecond : Int := 8210266876799

structure Instant where
  /-- Seconds since 1970-01-01T00:00:00, leap seconds not counted. -/
  second : Int
  /-- Nanoseconds into the second, from 10⁹ on in its leap second. -/
  nano : Nat
  firstSecond_le : firstSecond ≤ second := by decide
  le_lastSecond : second ≤ lastSecond := by decide
  nano_lt : nano < 2000000000 := by decide
  deriving DecidableEq, Repr

/-- The longest span either way in nanoseconds: 2⁶³ − 1 milliseconds. -/
def longestSpan : Int := (0x8000_0000_0000_0000 - 1) * 1000000

/-- A duration as a span in nanoseconds, unless it is longer than the longest span. -/
def Duration.toSpan? (d : Duration) : Option Int :=
  if (d.nanos : Int) ≤ longestSpan then some d.nanos else none

namespace Instant

def first : Instant :=
  { second := firstSecond, nano := 0 }

def last : Instant :=
  { second := lastSecond, nano := 999999999 }

/-- The place of an instant in the order of all instants. -/
def rank (t : Instant) : Int :=
  t.second * 2000000000 + t.nano

instance : LE Instant :=
  ⟨fun a b => a.rank ≤ b.rank⟩

instance : LT Instant :=
  ⟨fun a b => a.rank < b.rank⟩

instance (a b : Instant) : Decidable (a ≤ b) :=
  inferInstanceAs (Decidable (a.rank ≤ b.rank))

instance (a b : Instant) : Decidable (a < b) :=
  inferInstanceAs (Decidable (a.rank < b.rank))

theorem le_iff (a b : Instant) :
    a ≤ b ↔ a.second < b.second ∨ a.second = b.second ∧ a.nano ≤ b.nano := by
  show a.second * 2000000000 + a.nano ≤ b.second * 2000000000 + b.nano ↔ _
  have := a.nano_lt
  have := b.nano_lt
  omega

theorem lt_iff (a b : Instant) :
    a < b ↔ a.second < b.second ∨ a.second = b.second ∧ a.nano < b.nano := by
  show a.second * 2000000000 + a.nano < b.second * 2000000000 + b.nano ↔ _
  have := a.nano_lt
  have := b.nano_lt
  omega

/-- Nanoseconds since 1970-01-01T00:00:00; a leap second runs into the next one. -/
def nanos (t : Instant) : Int :=
  t.second * 1000000000 + t.nano

/-- The instant outside leap seconds at so many nanoseconds, unless it is out of range. -/
def ofNanos? (nanos : Int) : Option Instant :=
  if inRange : firstSecond ≤ nanos / 1000000000 ∧ nanos / 1000000000 ≤ lastSecond then
    some
      { second := nanos / 1000000000
        nano := (nanos % 1000000000).toNat
        firstSecond_le := inRange.1
        le_lastSecond := inRange.2
        nano_lt := by omega }
  else none

/-- An instant moved by a span of nanoseconds, unless the result is out of range. -/
def add? (t : Instant) (span : Int) : Option Instant :=
  if regular : t.nano < 1000000000 then ofNanos? (t.nanos + span)
  else if 1000000000 ≤ span ∨ 0 < span ∧ 2000000000 ≤ t.nano + span then
    ofNanos? (t.nanos - 1000000000 + span)
  else if span ≤ -1000000000 then ofNanos? (t.nanos + span)
  else if within : 0 ≤ t.nano + span ∧ t.nano + span < 2000000000 then
    some
      { t with
        nano := (t.nano + span).toNat
        nano_lt := by omega }
  else none

/-- Truncation to whole microseconds. -/
def truncated (t : Instant) : Instant :=
  { t with
    nano := t.nano - t.nano % 1000
    nano_lt := by have := t.nano_lt; omega }

/-- The instant a duration later, or the last one. -/
def addClamped (t : Instant) (d : Duration) : Instant :=
  (d.toSpan?.bind t.add?).getD last

/-- The instant a duration earlier, or the first one. -/
def subClamped (t : Instant) (d : Duration) : Instant :=
  (d.toSpan?.bind fun span => t.add? (-span)).getD first

/-- The instant at a second of a day of the calendar, unless it is out of range. -/
def ofCivil? (date : CivilDate) (secondOfDay : Int) (nano : Nat) : Option Instant :=
  let second := date.dayNumber * 86400 + secondOfDay
  if fits : firstSecond ≤ second ∧ second ≤ lastSecond ∧ nano < 2000000000 then
    some
      { second
        nano
        firstSecond_le := fits.1
        le_lastSecond := fits.2.1
        nano_lt := fits.2.2 }
  else none

/-- The day of the calendar that an instant lies in. -/
def date (t : Instant) : CivilDate :=
  CivilDate.ofDayNumber (t.second / 86400)

/-- Seconds since midnight, leap seconds not counted. -/
def secondOfDay (t : Instant) : Nat :=
  (t.second % 86400).toNat

end Instant

end Datebook
