import Datebook.Time.Instant

/-!
Time stamps: the written form of instants.

The form is `YYYY-MM-DDTHH:MM:SS[.fff]Z`. Years beyond four digits and before year 0 carry a sign.
The fraction has three, six or nine places, the fewest that are exact, and is absent when it is
zero. A leap second is written as the second after the one it belongs to, which is second 60 at the
end of a minute. Inside a minute that is also how the next second is written: the form denotes
`Instant.asWritten`.
-/

set_option autoImplicit false

namespace Datebook

namespace Stamp

/-- A year: four digits from 0 to 9999, otherwise a sign and at least four digits. -/
def yearText (year : Int) : List Char :=
  if 0 ≤ year ∧ year ≤ 9999 then Text.padded 4 year.toNat
  else (if year < 0 then '-' else '+') :: Text.atLeast 4 year.natAbs

/-- The point and the places of a second, the fewest of 0, 3, 6 and 9 that are exact. -/
def fractionText (nano : Nat) : List Char :=
  if nano = 0 then []
  else if nano % 1000000 = 0 then '.' :: Text.padded 3 (nano / 1000000)
  else if nano % 1000 = 0 then '.' :: Text.padded 6 (nano / 1000)
  else '.' :: Text.padded 9 nano

def dateText (date : CivilDate) : List Char :=
  yearText date.year ++ '-' :: Text.padded 2 date.month ++ '-' :: Text.padded 2 date.day

def timeText (secondOfDay nano : Nat) : List Char :=
  let shift := if 1000000000 ≤ nano then 1 else 0
  Text.padded 2 (secondOfDay / 3600) ++ ':' :: Text.padded 2 (secondOfDay / 60 % 60)
    ++ ':' :: Text.padded 2 (secondOfDay % 60 + shift) ++ fractionText (nano - shift * 1000000000)

end Stamp

namespace Instant

/-- The written form of an instant. -/
def chars (t : Instant) : List Char :=
  Stamp.dateText t.date ++ 'T' :: Stamp.timeText t.secondOfDay t.nano ++ ['Z']

def text (t : Instant) : String :=
  String.ofList t.chars

/-- Whether a leap second, if it is one, ends a minute. -/
def EndsMinute (t : Instant) : Prop :=
  1000000000 ≤ t.nano → t.second % 60 = 59

instance (t : Instant) : Decidable t.EndsMinute :=
  inferInstanceAs (Decidable (_ → _))

/-- The instant that the written form denotes: for a leap second inside a minute, the one as far
into the next second. -/
def asWritten (t : Instant) : Instant :=
  if inside : ¬ t.EndsMinute then
    { second := t.second + 1
      nano := t.nano - 1000000000
      firstSecond_le := Int.le_add_one t.firstSecond_le
      le_lastSecond := by
        have late := t.le_lastSecond
        simp only [EndsMinute, lastSecond] at *
        omega
      nano_lt := Nat.lt_of_le_of_lt (Nat.sub_le ..) t.nano_lt }
  else t

theorem asWritten_of_endsMinute {t : Instant} (ends : t.EndsMinute) : t.asWritten = t :=
  dif_neg (not_not_intro ends)

theorem asWritten_of_not_endsMinute {t : Instant} (inside : ¬ t.EndsMinute) :
    t.asWritten.second = t.second + 1 ∧ t.asWritten.nano = t.nano - 1000000000 := by
  rw [asWritten, dif_pos inside]
  exact ⟨rfl, rfl⟩

theorem endsMinute_asWritten (t : Instant) : t.asWritten.EndsMinute := by
  by_cases ends : t.EndsMinute
  · rw [asWritten_of_endsMinute ends]
    exact ends
  · intro leap
    have below := t.nano_lt
    rw [(asWritten_of_not_endsMinute ends).2] at leap
    omega

theorem asWritten_eq_self_iff {t : Instant} : t.asWritten = t ↔ t.EndsMinute :=
  ⟨fun same => same ▸ t.endsMinute_asWritten, asWritten_of_endsMinute⟩

end Instant

end Datebook
