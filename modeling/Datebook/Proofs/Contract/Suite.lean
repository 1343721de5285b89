import Datebook.Proofs.Contract.Rules
import Datebook.Proofs.Contract.Timetable

/-!
The contract holds for the store, whatever it holds.

Each check is followed step by step through the scenes that it goes through, from nobody to nobody.
Its drawings say for what it draws identifiers and in what order. `checks_pass_and_clean_up` puts
the thirteen checks together.
-/

set_option autoImplicit false

namespace Datebook

namespace Contract

open Check Fixture

/-- A check that makes these drawings succeeds, and leaves nothing behind. -/
def Passes (draw : Nat → EventId) (check : Bench Store → Check Store Unit)
    (drawings : List Drawing) : Prop :=
  ∀ base drawn more, base.Invariant →
    Runs draw base (check (benchOf draw)) ⟨[], [], drawn, drawings ++ more⟩ ()
      ⟨[], [], drawn + drawings.length, more⟩

section

variable {draw : Nat → EventId}

theorem Passes.nil : Passes draw (fun _ => Pure.pure ()) [] :=
  fun _ _ _ _ => .pure ()

theorem Passes.append {first second : Bench Store → Check Store Unit} {front back : List Drawing}
    (passes : Passes draw first front) (passesToo : Passes draw second back) :
    Passes draw (fun bench => do first bench; second bench) (front ++ back) := by
  intro base drawn more inv
  rw [List.append_assoc, List.length_append, ← Nat.add_assoc]
  exact (passes base drawn _ inv).bind (passesToo base _ more inv)

theorem Passes.repeated {check : Bench Store → Check Store Unit} {drawings : List Drawing}
    (passes : Passes draw check drawings) {α : Type} (rounds : List α) :
    Passes draw (fun bench => forIn rounds PUnit.unit fun _ _ => do
      check bench
      Pure.pure (ForInStep.yield PUnit.unit)) (List.replicate rounds.length drawings).flatten := by
  induction rounds with
  | nil => exact Passes.nil
  | cons _ rounds ih =>
    simp only [List.forIn_cons, bind_assoc, pure_bind]
    exact passes.append ih

/-- Checks that pass one by one pass in sequence, each on what it draws after those before it. -/
theorem Passes.sequence {checks : List (String × (Bench Store → Check Store Unit))}
    {drawings : List (List Drawing)}
    (passes : List.Forall₂ (fun check drawings => Passes draw check.2 drawings) checks drawings) :
    Passes draw (fun bench => checks.forM fun check => check.2 bench) drawings.flatten := by
  induction passes with
  | nil => exact Passes.nil
  | cons first _ ih => exact first.append ih

/-- A check that makes its drawings from the first identifier on leaves the store as it was. -/
theorem Passes.run {check : Bench Store → Check Store Unit} {drawings : List Drawing}
    (passes : Passes draw check drawings) {store : Store} (inv : store.Invariant)
    (unused : Unused store draw 0 drawings) :
    (benchOf draw).run check store = (.ok (), { state := store, drawn := drawings.length }) := by
  rw [← List.append_nil drawings] at unused
  obtain ⟨next, done, hosts⟩ := passes store 0 [] inv store (.nobody unused)
  rw [hosts.eq_base, Nat.zero_add] at done
  exact done

theorem userLifecycle_passes : Passes draw userLifecycle [.name "carol"] := by
  intro base drawn more inv
  apply Runs.assume
  intro sound
  obtain ⟨stranger, -⟩ := sound.names _ List.mem_cons_self
  have other := (List.nodup_cons.mp sound.namesOnce).1
  apply (drawName_runs "carol").bind
  generalize uniqueName "carol" (draw drawn) = carol at stranger other
  apply (demand_runs (createUser_answers stranger List.not_mem_nil other)).bind
  apply (demand_runs (getUser_answers (by simp))).bind
  apply (expect_runs (by simp)).bind
  apply (refuse_runs (createUser_twice (by simp))).bind
  apply (dismiss_last_runs inv (by simp)).bind
  apply (refuse_runs (getUser_missing stranger (by simp))).bind
  exact refuse_runs (deleteUser_missing stranger (by simp))

theorem eventLifecycle_passes : Passes draw eventLifecycle [.name "dave", .event] := by
  intro base drawn more inv
  have lead : (Duration.ofSecs 900).truncated = Duration.ofSecs 900 := by decide
  apply (enrol_runs "dave").bind
  generalize uniqueName "dave" (draw drawn) = dave
  apply (book_runs inv (by simp) (by simp)).bind
  generalize draw (drawn + 1) = id
  apply (demand_runs (getEvent_answers inv (by simp) List.mem_cons_self)).bind
  apply (expect_runs (by simp)).bind
  apply (expect_runs (by simp)).bind
  apply (expect_runs (by simp [lead])).bind
  apply (demand_runs (updateEvent_answers inv (by simp) (by simp))).bind
  apply (demand_runs (getEvent_answers inv (by simp) List.mem_cons_self)).bind
  apply (expect_runs (by simp)).bind
  apply (expect_runs (by simp)).bind
  apply (expect_runs (by simp)).bind
  apply (expect_runs (by simp)).bind
  apply (demand_runs (deleteEvent_answers inv (by simp))).bind
  apply Runs.assume
  intro sound
  have stranger := sound.strangers dave List.mem_cons_self
  apply (refuse_runs (getEvent_missing inv stranger (by simp))).bind
  apply (refuse_runs (deleteEvent_missing inv stranger (by simp))).bind
  apply (refuse_runs (updateEvent_missing inv stranger (by simp))).bind
  exact dismiss_last_runs inv (by simp)

theorem overlappingCreateIsRejected_passes : Passes draw overlappingCreateIsRejected
    [.name "alice", .name "bob", .event, .spare, .event, .event] := by
  intro base drawn more inv
  apply (enrol_runs "alice").bind
  generalize uniqueName "alice" (draw drawn) = alice
  apply (enrol_runs "bob").bind
  generalize uniqueName "bob" (draw (drawn + 1)) = bob
  apply Runs.assume
  intro sound
  have differ : alice ≠ bob := by simpa using sound.guestsOnce
  have stranger := sound.strangers alice (by simp)
  apply (book_runs inv (by simp) (by simp)).bind
  apply (create_busy inv (by simp) List.mem_cons_self (by simp)).bind
  apply (book_runs inv (by simp) (by simp)).bind
  apply (book_runs inv (by simp) (by simp [differ])).bind
  apply (list_runs inv stranger (by simp [differ.symm]; rfl) (by simp)).bind
  apply (expect_runs rfl).bind
  apply (expect_runs (by simp)).bind
  apply (dismiss_runs inv [bob] _ (by simp) (by simp [differ.symm]) rfl).bind
  exact dismiss_last_runs inv (by simp)

theorem updateChecksOnlyOtherEvents_passes :
    Passes draw updateChecksOnlyOtherEvents [.name "erin", .event, .event] := by
  intro base drawn more inv
  apply (enrol_runs "erin").bind
  generalize uniqueName "erin" (draw drawn) = erin
  apply (book_runs inv (by simp) (by simp)).bind
  apply (book_runs inv (by simp) (by simp)).bind
  apply (demand_runs (updateEvent_answers inv (by simp) (by simp))).bind
  apply (refuse_runs (updateEvent_busy inv (by simp) List.mem_cons_self (by simp))).bind
  apply (demand_runs (getEvent_answers inv (by simp) List.mem_cons_self)).bind
  apply (expect_runs (by simp)).bind
  apply (expect_runs (by simp)).bind
  apply (demand_runs (getEvent_answers inv (by simp)
    (List.mem_cons_of_mem _ List.mem_cons_self))).bind
  apply (expect_runs (by simp)).bind
  exact dismiss_last_runs inv (by simp)

theorem foreignEventsAreInvisible_passes :
    Passes draw foreignEventsAreInvisible [.name "alice", .name "mallory", .event] := by
  intro base drawn more inv
  apply (enrol_runs "alice").bind
  generalize uniqueName "alice" (draw drawn) = alice
  apply (enrol_runs "mallory").bind
  generalize uniqueName "mallory" (draw (drawn + 1)) = mallory
  apply Runs.assume
  intro sound
  have differ : alice ≠ mallory := by simpa using sound.guestsOnce
  have stranger := sound.strangers mallory (by simp)
  apply (book_runs inv (by simp) (by simp)).bind
  apply (refuse_runs (getEvent_missing inv stranger (by simp [differ]))).bind
  apply (refuse_runs (updateEvent_missing inv stranger (by simp [differ]))).bind
  apply (refuse_runs (deleteEvent_missing inv stranger (by simp [differ]))).bind
  apply (demand_runs (getEvent_answers inv (by simp) List.mem_cons_self)).bind
  apply (expect_runs (by simp)).bind
  apply (dismiss_runs inv [mallory] [] (by simp) (by simp [differ.symm]) (by simp)).bind
  exact dismiss_last_runs inv (by simp)

theorem createForUnknownOwnerFails_passes :
    Passes draw createForUnknownOwnerFails [.name "ghost", .spare, .event] := by
  intro base drawn more inv
  apply Runs.assume
  intro sound
  obtain ⟨stranger, -⟩ := sound.names _ List.mem_cons_self
  apply (drawName_runs "ghost").bind
  generalize uniqueName "ghost" (draw drawn) = ghost at stranger
  apply (drawId_runs.bind (attempt_runs (createEvent_ownerless stranger (by simp)))).bind
  apply (expect_runs (by simp)).bind
  apply (list_runs inv stranger (by simp; rfl) (by simp)).bind
  apply (expect_runs rfl).bind
  apply drawId_runs.bind
  exact refuse_runs (getEvent_missing inv stranger (by simp))

theorem listFiltersAndOrders_passes : Passes draw listFiltersAndOrders
    [.name "frank", .event, .event, .event, .event] := by
  intro base drawn more inv
  apply (enrol_runs "frank").bind
  generalize uniqueName "frank" (draw drawn) = frank
  apply Runs.assume
  intro sound
  have stranger := sound.strangers frank (by simp)
  simp only [List.forIn_cons, List.forIn_nil, bind_assoc, pure_bind]
  apply (book_runs inv (by simp) (by simp)).bind
  apply (book_runs inv (by simp) (by simp)).bind
  apply (book_runs inv (by simp) (by simp)).bind
  apply (book_runs inv (by simp) (by simp)).bind
  apply (list_runs inv stranger (by simp; rfl) (by simp)).bind
  apply (expect_runs (by simp)).bind
  apply (list_runs inv stranger (by simp; rfl) (by simp)).bind
  apply (expect_runs rfl).bind
  exact dismiss_last_runs inv (by simp)

theorem subMicrosecondPrecisionIsTruncated_passes :
    Passes draw subMicrosecondPrecisionIsTruncated [.name "mia", .event] := by
  intro base drawn more inv
  apply (enrol_runs "mia").bind
  generalize uniqueName "mia" (draw drawn) = mia
  apply (book_runs inv (by simp) (by simp)).bind
  apply (demand_runs (getEvent_answers inv (by simp) List.mem_cons_self)).bind
  apply (expect_runs rfl).bind
  apply (expect_runs rfl).bind
  apply (demand_runs (updateEvent_answers inv (by simp) (by simp))).bind
  apply (demand_runs (getEvent_answers inv (by simp) List.mem_cons_self)).bind
  apply (expect_runs rfl).bind
  apply (expect_runs rfl).bind
  exact dismiss_last_runs inv (by simp)

theorem deleteUserCascades_passes :
    Passes draw deleteUserCascades [.name "ivan", .event, .event] := by
  intro base drawn more inv
  apply Runs.assume
  intro sound
  obtain ⟨stranger, -⟩ := sound.names _ List.mem_cons_self
  have other : uniqueName "ivan" (draw drawn) ∉ Drawing.names draw (drawn + 1 + 1 + 1) more :=
    (List.nodup_cons.mp sound.namesOnce).1
  apply (enrol_runs "ivan").bind
  generalize uniqueName "ivan" (draw drawn) = ivan at stranger other
  apply (book_runs inv (by simp) (by simp)).bind
  apply (book_runs inv (by simp) (by simp)).bind
  apply (dismiss_last_runs inv (by simp)).bind
  simp only [List.forIn_cons, List.forIn_nil, bind_assoc, pure_bind]
  apply (refuse_runs (getEvent_missing inv stranger (by simp))).bind
  apply (refuse_runs (getEvent_missing inv stranger (by simp))).bind
  apply Runs.bind_due (fun event => event.owner = ivan)
  · intro event member
    exact decide_eq_false (Hosts.owner_ne_of_mem inv member stranger)
  · rfl
  · exact .nil
  intro due ours _
  apply Runs.bind (expect_runs (by simpa using ours))
  apply (demand_runs (createUser_answers stranger List.not_mem_nil other)).bind
  apply (list_runs inv stranger (by simp; rfl) (by simp)).bind
  apply (expect_runs rfl).bind
  exact dismiss_last_runs inv (by simp)

theorem moveAgainstClaim_passes :
    Passes draw moveAgainstClaim [.name "leo", .event, .spare] := by
  intro base drawn more inv
  apply (enrol_runs "leo").bind
  generalize uniqueName "leo" (draw drawn) = leo
  apply Runs.assume
  intro sound
  have stranger := sound.strangers leo (by simp)
  apply (book_runs inv (by simp) (by simp)).bind
  apply (attempt_runs (updateEvent_answers inv (by simp) (by simp))).bind
  apply (create_busy inv (by simp) List.mem_cons_self (by simp)).bind
  apply (list_runs inv stranger (by simp; rfl) (by simp)).bind
  apply (expect_runs rfl).bind
  exact dismiss_last_runs inv (by simp)

theorem concurrentUpdateAndCreateAdmitOne_passes : Passes draw concurrentUpdateAndCreateAdmitOne
    (List.replicate 8 [.name "leo", .event, .spare]).flatten :=
  fun base drawn more inv =>
    (moveAgainstClaim_passes.repeated (List.range 8) base drawn more inv).bind (.pure ())

/-- One of several requests that all go on at noon. -/
def racer (i : Nat) : EventFields :=
  { title := "racer " ++ toString i, start := clock (660 + i), stop := clock (721 + i) }

theorem racers_eq :
    ((List.range 8).map fun (i : Nat) =>
      { title := "racer " ++ toString i
        start := (slot "" (moment 11 0) i).stop
        stop := (slot "" (moment 12 1) i).stop : EventFields }) = (List.range 8).map racer := by
  apply List.map_congr_left
  intro i member
  have small := List.mem_range.mp member
  have near : Near (660 + i) := by omega
  have nearToo : Near (721 + i) := by omega
  simp [racer, near, nearToo]

theorem racer_truncated {i : Nat} (small : i < 8) : (racer i).truncated = racer i :=
  truncated_clock (by omega) (by omega)

theorem racers_clash {fields : EventFields}
    (member : fields ∈ (List.range 7).map (racer ∘ Nat.succ)) :
    (racer 0).truncated.overlaps fields.truncated.start fields.truncated.stop = true := by
  obtain ⟨i, small, rfl⟩ := List.mem_map.mp member
  rw [List.mem_range] at small
  rw [Function.comp_apply, racer_truncated (by decide), racer_truncated (by omega)]
  unfold racer
  rw [overlaps_clock (by omega) (by omega) (by omega) (by omega), Bool.and_eq_true,
    decide_eq_true_iff, decide_eq_true_iff]
  omega

theorem concurrentOverlappingCreatesAdmitOne_passes :
    Passes draw concurrentOverlappingCreatesAdmitOne
      (.name "judy" :: .event :: List.replicate 7 .spare) := by
  intro base drawn more inv
  apply (enrol_runs "judy").bind
  generalize uniqueName "judy" (draw drawn) = judy
  apply Runs.assume
  intro sound
  have stranger := sound.strangers judy (by simp)
  rw [racers_eq, List.range_succ_eq_map, List.map_cons, List.map_map]
  apply Runs.bind (createAll_cons (create_runs inv (by simp) (by simp))
    (createAll_busy inv (by simp) List.mem_cons_self (fun _ => racers_clash) _ _))
  apply (expect_runs rfl).bind
  apply (expect_runs rfl).bind
  apply (list_runs inv stranger (by simp [racer]; rfl) (by simp)).bind
  apply (expect_runs rfl).bind
  exact dismiss_last_runs inv (by simp)

/-- One of the half hours that follow one another from eight on. -/
def halfHour (i : Nat) : EventFields :=
  { title := "slot " ++ toString i, start := clock (480 + 30 * i),
    stop := clock (480 + 30 * i + 30) }

theorem halfHours_eq :
    ((List.range 16).map fun (i : Nat) =>
      slot ("slot " ++ toString i) (slot "" (moment 8 0) (30 * i)).stop 30) =
      (List.range 16).map halfHour := by
  apply List.map_congr_left
  intro i member
  have small := List.mem_range.mp member
  have near : Near (480 + (30 * (i : Int)).toNat) := by omega
  have nearToo : Near (480 + 30 * i + 30) := by omega
  have minutes : (30 * (i : Int)).toNat = 30 * i := by omega
  rw [moment_eq, slot_eq "" (by omega) near, minutes, slot_eq _ (by decide) nearToo]
  rfl

theorem halfHour_truncated {i : Nat} (small : i < 16) : (halfHour i).truncated = halfHour i :=
  truncated_clock (by omega) (by omega)

theorem halfHours_apart : ((List.range 16).map halfHour).Pairwise fun a b =>
    a.truncated.overlaps b.truncated.start b.truncated.stop = false := by
  rw [List.pairwise_map]
  apply List.pairwise_lt_range.imp_of_mem
  intro i j member memberToo earlier
  rw [List.mem_range] at member memberToo
  rw [halfHour_truncated member, halfHour_truncated memberToo]
  unfold halfHour
  rw [overlaps_clock (by omega) (by omega) (by omega) (by omega), Bool.and_eq_false_iff,
    decide_eq_false_iff_not, decide_eq_false_iff_not]
  omega

theorem halfHours_booked (owner : String) (place : Nat) :
    (booked draw owner place ((List.range 16).map halfHour)).map (·.fields) =
      (List.range 16).map halfHour := by
  rw [booked_fields, List.map_map]
  apply List.map_congr_left
  intro i member
  exact halfHour_truncated (List.mem_range.mp member)

/-- The events of the half hours are all on the day of the fixtures. -/
theorem halfHours_listed (owner : String) (place : Nat) :
    ((booked draw owner place ((List.range 16).map halfHour)).filter fun event =>
      event.owner = owner && event.overlaps (moment 0 0) (moment 23 59)) =
        booked draw owner place ((List.range 16).map halfHour) := by
  rw [List.filter_eq_self]
  intro event member
  have known := List.mem_map_of_mem (f := (·.fields)) member
  rw [halfHours_booked] at known
  obtain ⟨i, small, same⟩ := List.mem_map.mp known
  rw [List.mem_range] at small
  unfold Event.overlaps
  rw [booked_owner member, ← same, moment_eq, moment_eq]
  unfold halfHour
  rw [overlaps_clock (by omega) (by omega) (by omega) (by omega)]
  simp only [Bool.and_eq_true, decide_eq_true_eq]
  exact ⟨trivial, by omega, by omega⟩

theorem halfHours_rise (owner : String) (place : Nat) :
    (booked draw owner place ((List.range 16).map halfHour)).Pairwise
      fun a b => a.start < b.start := by
  have rises : ((List.range 16).map halfHour).Pairwise fun a b => a.start < b.start := by
    rw [List.pairwise_map]
    apply List.pairwise_lt_range.imp_of_mem
    intro i j member memberToo earlier
    rw [List.mem_range] at member memberToo
    exact (clock_lt_iff (by omega) (by omega)).mpr (by omega)
  rw [← halfHours_booked owner place, List.pairwise_map] at rises
  exact rises

theorem allDistinct_of_nodup {ids : List EventId} (once : ids.Nodup) : allDistinct ids = true := by
  induction ids with
  | nil => rfl
  | cons id rest ih =>
    obtain ⟨other, later⟩ := List.nodup_cons.mp once
    simp [allDistinct, other, ih later]

theorem concurrentDisjointCreatesAllSucceed_passes :
    Passes draw concurrentDisjointCreatesAllSucceed
      (.name "kim" :: List.replicate 16 .event) := by
  intro base drawn more inv
  apply (enrol_runs "kim").bind
  generalize uniqueName "kim" (draw drawn) = kim
  apply Runs.assume
  intro sound
  have stranger := sound.strangers kim (by simp)
  rw [halfHours_eq]
  apply Runs.bind (createAll_granted inv (by simp) _ _ (by simp) halfHours_apart)
  apply (expect_runs (by simp [Except.isOk, Except.toBool])).bind
  apply Runs.assume
  intro soundToo
  apply (expect_runs (allDistinct_of_nodup _)).bind
  · apply (list_runs inv stranger (halfHours_listed kim _) (halfHours_rise kim _)).bind
    apply (expect_runs (by simp [booked_length])).bind
    exact dismiss_last_runs inv (fun _ => booked_owner)
  · simpa [Except.toOption, List.filterMap_map, Function.comp_def] using soundToo.idsOnce

theorem startsAscend_of_pairwise {events : List Event}
    (ordered : events.Pairwise fun a b => a.start ≤ b.start) : startsAscend events = true := by
  induction events with
  | nil => rfl
  | cons first rest ih =>
    obtain ⟨before, later⟩ := List.pairwise_cons.mp ordered
    cases rest with
    | nil => rfl
    | cons second rest =>
      simp [startsAscend, before second List.mem_cons_self, ih later]

theorem notifyWindowSpansOwners_passes : Passes draw notifyWindowSpansOwners
    [.name "grace", .name "heidi", .event, .event, .event, .event, .event] := by
  intro base drawn more inv
  apply (enrol_runs "grace").bind
  generalize uniqueName "grace" (draw drawn) = grace
  apply (enrol_runs "heidi").bind
  generalize uniqueName "heidi" (draw (drawn + 1)) = heidi
  apply Runs.assume
  intro sound
  have differ : grace ≠ heidi := by simpa using sound.guestsOnce
  have graceStranger := sound.strangers grace (by simp)
  have heidiStranger := sound.strangers heidi (by simp)
  apply (book_runs inv (by simp) (by simp)).bind
  apply (book_runs inv (by simp) (by simp [differ.symm])).bind
  apply (book_runs inv (by simp) (by simp [differ.symm])).bind
  apply (book_runs inv (by simp) (by simp [differ])).bind
  apply (book_runs inv (by simp) (by simp [differ])).bind
  have early : (clock 640).subClamped (Duration.ofSecs 2100) = clock 605 := by decide
  have late : (clock 640).subClamped (Duration.ofSecs 1800) = clock 610 := by decide
  have earlyLead : (Duration.ofSecs 2100).truncated = Duration.ofSecs 2100 := by decide
  have lateLead : (Duration.ofSecs 1800).truncated = Duration.ofSecs 1800 := by decide
  apply Runs.bind_due (fun event => event.owner = grace || event.owner = heidi)
  · intro event member
    simp [Hosts.owner_ne_of_mem inv member graceStranger,
      Hosts.owner_ne_of_mem inv member heidiStranger]
  · simp [EventFields.dueWithin, EventFields.reminderAt, early, late, earlyLead, lateLead]
    rfl
  · simp
  intro due ours ordered
  apply (expect_runs (by simp [ours])).bind
  apply (expect_runs (startsAscend_of_pairwise ordered)).bind
  apply (dismiss_runs inv [heidi] _ (by simp) (by simp [differ.symm]) rfl).bind
  exact dismiss_last_runs inv (by simp)

end

/-- What each of the thirteen checks draws identifiers for. -/
def drawings : List (List Drawing) :=
  [[.name "carol"],
    [.name "dave", .event],
    [.name "alice", .name "bob", .event, .spare, .event, .event],
    [.name "erin", .event, .event],
    [.name "alice", .name "mallory", .event],
    [.name "ghost", .spare, .event],
    [.name "frank", .event, .event, .event, .event],
    [.name "grace", .name "heidi", .event, .event, .event, .event, .event],
    [.name "ivan", .event, .event],
    .name "judy" :: .event :: List.replicate 7 .spare,
    .name "kim" :: List.replicate 16 .event,
    (List.replicate 8 [.name "leo", .event, .spare]).flatten,
    [.name "mia", .event]]

section

variable (draw : Nat → EventId)

theorem checks_pass :
    List.Forall₂ (fun check drawings => Passes draw check.2 drawings) checks drawings :=
  .cons userLifecycle_passes <|
  .cons eventLifecycle_passes <|
  .cons overlappingCreateIsRejected_passes <|
  .cons updateChecksOnlyOtherEvents_passes <|
  .cons foreignEventsAreInvisible_passes <|
  .cons createForUnknownOwnerFails_passes <|
  .cons listFiltersAndOrders_passes <|
  .cons notifyWindowSpansOwners_passes <|
  .cons deleteUserCascades_passes <|
  .cons concurrentOverlappingCreatesAdmitOne_passes <|
  .cons concurrentDisjointCreatesAllSucceed_passes <|
  .cons concurrentUpdateAndCreateAdmitOne_passes <|
  .cons subMicrosecondPrecisionIsTruncated_passes .nil

theorem all_passes : Passes draw all drawings.flatten :=
  Passes.sequence (checks_pass draw)

end

/-- From any state of the store in which none of the names and identifiers that the checks draw is
in use, all checks together pass and leave the store as it was, and so does each check alone. -/
theorem checks_pass_and_clean_up {store : Store} (reachable : store.Reachable)
    (draw : Nat → EventId) :
    (Unused store draw 0 drawings.flatten → (benchOf draw).run all store =
      (.ok (), { state := store, drawn := drawings.flatten.length })) ∧
    List.Forall₂ (fun check drawings => Unused store draw 0 drawings →
      (benchOf draw).run check.2 store = (.ok (), { state := store, drawn := drawings.length }))
      checks drawings :=
  ⟨(all_passes draw).run reachable.invariant,
    (checks_pass draw).imp fun _ _ passes => passes.run reachable.invariant⟩

/-- While alice has an event that is due in the window of the checks. -/
theorem checks_pass_and_clean_up_amid_others :
    let call := EventFields.mk "call" none (Fixture.moment 10 5) (Fixture.moment 10 45) none
    let store := (Store.storage.run [(.ofNat 0, .createUser (Fixture.user "alice")),
      (.ofNat 0, .createEvent "alice" call)] .empty).2
    let draw (i : Nat) : EventId := .ofNat (i + 1)
    store.Reachable ∧ Unused store draw 0 drawings.flatten ∧
      (benchOf draw).run all store = (.ok (), { state := store, drawn := 85 }) := by
  intro call store draw
  have reachable : store.Reachable := ⟨_, rfl⟩
  have unused : Unused store draw 0 drawings.flatten :=
    ⟨by decide +kernel, by decide +kernel, by decide +kernel, by decide +kernel⟩
  exact ⟨reachable, unused, (checks_pass_and_clean_up reachable draw).1 unused⟩

end Contract

end Datebook
