import Datebook.Time.Instant

/-!
Moving instants by spans.

Outside leap seconds an instant is its count of nanoseconds, and moving it adds to the count until
the range of instants ends. Moving forwards, from inside a leap second too, can be done in parts and
keeps the order: `add?_add?`, `le_of_add?` and `add?_of_le`.
-/

set_option autoImplicit false

namespace Datebook.Instant

theorem nanos_ofNanos? {nanos : Int} {t : Instant} (found : ofNanos? nanos = some t) :
    t.nanos = nanos := by
  rw [ofNanos?] at found
  split at found
  · cases found
    simp only [Instant.nanos]
    omega
  · cases found

theorem ofNanos?_eq_none_iff (nanos : Int) :
    ofNanos? nanos = none ↔ nanos < first.nanos ∨ last.nanos < nanos := by
  have lower : first.nanos = firstSecond * 1000000000 := rfl
  have upper : last.nanos = lastSecond * 1000000000 + 999999999 := rfl
  rw [ofNanos?, lower, upper]
  split
  · rename_i within
    simp only [reduceCtorEq, false_iff]
    omega
  · rename_i outside
    simp only [true_iff]
    omega

theorem add?_regular {t : Instant} (regular : t.nano < 1000000000) (span : Int) :
    t.add? span = ofNanos? (t.nanos + span) := by
  rw [add?, dif_pos regular]

theorem eq_of_parts {a b : Instant} (second : a.second = b.second) (nano : a.nano = b.nano) :
    a = b := by
  cases a
  cases b
  cases second
  cases nano
  rfl

/-- Outside leap seconds instants are ordered by their nanoseconds. -/
theorem le_iff_nanos {a b : Instant} (regular : a.nano < 1000000000)
    (regularToo : b.nano < 1000000000) : a ≤ b ↔ a.nanos ≤ b.nanos := by
  rw [le_iff, Instant.nanos, Instant.nanos]
  omega

theorem lt_iff_nanos {a b : Instant} (regular : a.nano < 1000000000)
    (regularToo : b.nano < 1000000000) : a < b ↔ a.nanos < b.nanos := by
  rw [lt_iff, Instant.nanos, Instant.nanos]
  omega

theorem nano_ofNanos? {nanos : Int} {t : Instant} (found : ofNanos? nanos = some t) :
    t.nano < 1000000000 := by
  rw [ofNanos?] at found
  split at found
  · cases found
    show (nanos % 1000000000).toNat < 1000000000
    omega
  · cases found

theorem ofNanos?_of_le {nanos later : Int} {v : Instant} (early : first.nanos ≤ nanos)
    (before : nanos ≤ later) (found : ofNanos? later = some v) :
    ∃ u, ofNanos? nanos = some u := by
  rw [← Option.ne_none_iff_exists']
  intro missing
  have outside := (ofNanos?_eq_none_iff nanos).mp missing
  have gone := (ofNanos?_eq_none_iff later).mpr (by omega)
  rw [gone] at found
  cases found

theorem first_nanos_le (t : Instant) : first.nanos ≤ t.second * 1000000000 := by
  have early : first.nanos = firstSecond * 1000000000 := rfl
  have := t.firstSecond_le
  omega

/-- Inside a leap second, an instant moves forwards like any other until the second is over. -/
theorem add?_within_leap {t : Instant} {span : Int} (leap : 1000000000 ≤ t.nano)
    (forward : 0 ≤ span) (inside : t.nano + span < 2000000000) :
    ∃ u, t.add? span = some u ∧ u.second = t.second ∧ (u.nano : Int) = t.nano + span := by
  rw [add?, dif_neg (by omega), if_neg (by omega), if_neg (by omega), dif_pos (by omega)]
  refine ⟨_, rfl, rfl, ?_⟩
  dsimp only
  omega

/-- Past it, the leap second counts as a second of its own. -/
theorem add?_past_leap {t : Instant} {span : Int} (leap : 1000000000 ≤ t.nano)
    (outside : 2000000000 ≤ t.nano + span) :
    t.add? span = ofNanos? (t.nanos - 1000000000 + span) := by
  have := t.nano_lt
  rw [add?, dif_neg (by omega), if_pos (by omega)]

theorem addClamped_eq (t : Instant) (d : Duration) :
    t.addClamped d = (t.add? d.nanos).getD last := by
  rw [addClamped, Duration.toSpan?]
  split
  · rfl
  · rename_i long
    -- A span that is too long leads out of the range of instants from anywhere.
    have above : t.add? d.nanos = none := by
      have upper : last.nanos = lastSecond * 1000000000 + 999999999 := rfl
      have lower := t.firstSecond_le
      simp only [longestSpan, firstSecond, lastSecond] at long upper lower
      by_cases regular : t.nano < 1000000000
      · rw [add?_regular regular, ofNanos?_eq_none_iff]
        simp only [Instant.nanos] at upper ⊢
        omega
      · rw [add?_past_leap (by omega) (by omega), ofNanos?_eq_none_iff]
        simp only [Instant.nanos] at upper ⊢
        omega
    rw [above]
    rfl

/-- Inside a leap second, an instant moves backwards by less than a second like any other. -/
theorem add?_back_within {t : Instant} {span : Int} (leap : 1000000000 ≤ t.nano)
    (backward : span ≤ 0) (short : -1000000000 < span) :
    ∃ u, t.add? span = some u ∧ u.second = t.second ∧ (u.nano : Int) = t.nano + span := by
  have := t.nano_lt
  rw [add?, dif_neg (by omega), if_neg (by omega), if_neg (by omega), dif_pos (by omega)]
  refine ⟨_, rfl, rfl, ?_⟩
  dsimp only
  omega

/-- By a second or more, an instant of a leap second moves backwards as if it lay in the next
second. -/
theorem add?_back_past {t : Instant} {span : Int} (leap : 1000000000 ≤ t.nano)
    (long : span ≤ -1000000000) : t.add? span = ofNanos? (t.nanos + span) := by
  rw [add?, dif_neg (by omega), if_neg (by omega), if_pos long]

theorem subClamped_eq (t : Instant) (d : Duration) :
    t.subClamped d = (t.add? (-d.nanos)).getD first := by
  rw [subClamped, Duration.toSpan?]
  split
  · rfl
  · rename_i long
    -- A span that is too long leads out of the range of instants from anywhere.
    have below : t.add? (-d.nanos) = none := by
      have lower : first.nanos = firstSecond * 1000000000 := rfl
      have upper := t.le_lastSecond
      have nano := t.nano_lt
      simp only [longestSpan, firstSecond, lastSecond] at long upper lower
      by_cases regular : t.nano < 1000000000
      · rw [add?_regular regular, ofNanos?_eq_none_iff]
        simp only [Instant.nanos] at lower ⊢
        omega
      · rw [add?_back_past (by omega) (by omega), ofNanos?_eq_none_iff]
        simp only [Instant.nanos] at lower ⊢
        omega
    rw [below]
    rfl

theorem nano_getD_first (nanos : Int) : ((ofNanos? nanos).getD first).nano < 1000000000 := by
  cases moved : ofNanos? nanos with
  | none => decide
  | some earlier => exact nano_ofNanos? moved

theorem nanos_getD_first {nanos : Int} (before : nanos ≤ last.nanos) :
    ((ofNanos? nanos).getD first).nanos = max nanos first.nanos := by
  cases moved : ofNanos? nanos with
  | none =>
    have outside := (ofNanos?_eq_none_iff _).mp moved
    rw [Option.getD_none]
    omega
  | some earlier =>
    have within : ¬(nanos < first.nanos ∨ last.nanos < nanos) := by
      rw [← ofNanos?_eq_none_iff, moved]
      exact Option.some_ne_none earlier
    rw [Option.getD_some, nanos_ofNanos? moved]
    omega

theorem subClamped_regular {t : Instant} (regular : t.nano < 1000000000) (d : Duration) :
    t.subClamped d = (ofNanos? (t.nanos - d.nanos)).getD first := by
  rw [subClamped_eq, add?_regular regular]
  rfl

theorem nano_subClamped {t : Instant} (regular : t.nano < 1000000000) (d : Duration) :
    (t.subClamped d).nano < 1000000000 := by
  rw [subClamped_regular regular]
  exact nano_getD_first _

/-- Moving an instant backwards is subtraction, down to the first instant. -/
theorem nanos_subClamped {t : Instant} (regular : t.nano < 1000000000) (d : Duration) :
    (t.subClamped d).nanos = max (t.nanos - d.nanos) first.nanos := by
  have upper : last.nanos = lastSecond * 1000000000 + 999999999 := rfl
  have late := t.le_lastSecond
  rw [subClamped_regular regular]
  apply nanos_getD_first
  rw [upper, Instant.nanos]
  omega

theorem add?_zero (t : Instant) : t.add? 0 = some t := by
  by_cases regular : t.nano < 1000000000
  · have early := t.firstSecond_le
    have late := t.le_lastSecond
    have moment : t.nanos = t.second * 1000000000 + t.nano := rfl
    rw [add?_regular regular, Int.add_zero, ofNanos?, dif_pos (by omega)]
    exact congrArg some (eq_of_parts (by dsimp only; omega) (by dsimp only; omega))
  · have leap : 1000000000 ≤ t.nano := by omega
    have inside : t.nano + (0 : Int) < 2000000000 := by
      have := t.nano_lt
      omega
    obtain ⟨u, found, second, nano⟩ := add?_within_leap leap (Int.le_refl 0) inside
    rw [found, eq_of_parts second (by omega)]

theorem add?_add? {t u : Instant} {span more : Int} (forward : 0 ≤ span) (further : 0 ≤ more)
    (moved : t.add? span = some u) : u.add? more = t.add? (span + more) := by
  by_cases regular : t.nano < 1000000000
  · rw [add?_regular regular] at moved ⊢
    rw [add?_regular (nano_ofNanos? moved), nanos_ofNanos? moved, Int.add_assoc]
  · have leap : 1000000000 ≤ t.nano := by omega
    by_cases inside : t.nano + span < 2000000000
    · obtain ⟨v, same, second, nano⟩ := add?_within_leap leap forward inside
      obtain rfl : v = u := Option.some.inj (same.symm.trans moved)
      have leapToo : 1000000000 ≤ v.nano := by omega
      by_cases insideToo : t.nano + (span + more) < 2000000000
      · obtain ⟨w, found, secondOnce, nanoOnce⟩ := add?_within_leap leap (by omega) insideToo
        obtain ⟨x, foundToo, secondTwice, nanoTwice⟩ :=
          add?_within_leap leapToo further (by omega)
        rw [found, foundToo,
          eq_of_parts (secondTwice.trans (second.trans secondOnce.symm)) (by omega)]
      · rw [add?_past_leap leap (by omega), add?_past_leap leapToo (by omega)]
        simp only [Instant.nanos]
        congr 1
        omega
    · rw [add?_past_leap leap (by omega)] at moved ⊢
      rw [add?_regular (nano_ofNanos? moved), nanos_ofNanos? moved, Int.add_assoc]

theorem le_of_add? {t u : Instant} {span : Int} (forward : 0 ≤ span)
    (moved : t.add? span = some u) : t ≤ u := by
  rw [le_iff]
  have := t.nano_lt
  by_cases regular : t.nano < 1000000000
  · rw [add?_regular regular] at moved
    have exact := nanos_ofNanos? moved
    have := nano_ofNanos? moved
    simp only [Instant.nanos] at exact
    omega
  · by_cases inside : t.nano + span < 2000000000
    · obtain ⟨v, same, second, nano⟩ := add?_within_leap (by omega) forward inside
      obtain rfl : v = u := Option.some.inj (same.symm.trans moved)
      omega
    · rw [add?_past_leap (by omega) (by omega)] at moved
      have exact := nanos_ofNanos? moved
      have := nano_ofNanos? moved
      simp only [Instant.nanos] at exact
      omega

/-- What can be moved far can be moved less far, to no later an instant. -/
theorem add?_of_le {t v : Instant} {span further : Int} (forward : 0 ≤ span)
    (shorter : span ≤ further) (moved : t.add? further = some v) :
    ∃ u, t.add? span = some u ∧ u ≤ v := by
  have early := t.first_nanos_le
  have found : ∃ u, t.add? span = some u := by
    by_cases regular : t.nano < 1000000000
    · rw [add?_regular regular] at moved ⊢
      refine ofNanos?_of_le ?_ (by omega) moved
      simp only [Instant.nanos] at early ⊢
      omega
    · by_cases inside : t.nano + span < 2000000000
      · obtain ⟨u, found, _⟩ := add?_within_leap (by omega) forward inside
        exact ⟨u, found⟩
      · rw [add?_past_leap (by omega) (by omega)] at moved ⊢
        refine ofNanos?_of_le ?_ (by omega) moved
        simp only [Instant.nanos] at early ⊢
        omega
  obtain ⟨u, found⟩ := found
  refine ⟨u, found, ?_⟩
  have rest := add?_add? forward (show 0 ≤ further - span by omega) found
  rw [show span + (further - span) = further by omega, moved] at rest
  exact le_of_add? (by omega) rest

end Datebook.Instant
