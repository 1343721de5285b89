import Datebook.Proofs.Scheduler.Reminders
import Datebook.Proofs.Store.Listing

/-!
Ticks in a row.

The windows of ticks that begin a period apart lie end to end, with neither gap nor overlap. So
between them the ticks offer every reminder that is due in the whole stretch, and each once, as long
as nobody changes the store. Main statement: `Scheduler.series_reminds_once`.
-/

set_option autoImplicit false

namespace Datebook

namespace Store

/-- Stored events that are written the same are the same. -/
theorem Invariant.eq_of_text {store : Store} (inv : store.Invariant) {a b : Event}
    (stored : a ∈ store.events.values) (storedToo : b ∈ store.events.values)
    (same : a.id.text = b.id.text) : a = b := by
  obtain ⟨id, found⟩ := (Table.mem_values_iff _ _).mp stored
  obtain ⟨other, foundToo⟩ := (Table.mem_values_iff _ _).mp storedToo
  have ids : id = other := by
    rw [← inv.ownId found, ← inv.ownId foundToo, EventId.text_injective same]
  rw [ids, foundToo] at found
  exact Option.some.inj found.symm

theorem Invariant.keys_nodup {store : Store} (inv : store.Invariant) :
    (store.events.values.map (·.id.text)).Nodup := by
  have ids : store.events.values.map (·.id.text) =
      store.events.entries.map fun entry => entry.1.text := by
    rw [Table.values, List.map_map]
    apply List.map_congr_left
    intro entry member
    exact congrArg EventId.text (inv.ownId ((Table.get?_eq_some_iff _ _ _).mpr member))
  have distinct : ((store.events.entries.map (·.1)).map EventId.text).Nodup :=
    List.Pairwise.map EventId.text (fun _ _ differ same => differ (EventId.text_injective same))
      store.events.distinct
  rw [List.map_map] at distinct
  rw [ids]
  exact distinct

end Store

namespace Scheduler

variable {s : Scheduler} {config : SchedulerConfig} {store : Store} {first stop : Instant}
  {ticks : List Scheduler}

/-- The keys under which ticks outside the loop offer reminders, in turn. -/
def offered (ticks : List Scheduler) : List String :=
  (ticks.flatMap tickCalls).filterMap (·.request.offers?)

theorem offers_outcomes (store : Store) (reminder : Reminder) :
    (reminder.outcomes store).filterMap (·.1.offers?) = [reminder.event.id.text] := by
  obtain ⟨event, lookup, publish⟩ := reminder
  cases lookup <;> rfl

theorem Reminds.offered {report : TickReport} {reminders : List Reminder}
    (reminds : s.Reminds report reminders) :
    s.tickCalls.filterMap (·.request.offers?) =
      (s.services.store.listDue report.windowStart report.windowEnd).map (·.id.text) := by
  have outcomes := congrArg (List.filterMap (·.1.offers?)) reminds.outcomes
  rw [List.filterMap_map, List.filterMap_cons_none rfl, List.filterMap_flatMap] at outcomes
  simp only [offers_outcomes, ← List.map_eq_flatMap] at outcomes
  rw [← reminds.events, List.map_map]
  exact outcomes

/-- The events that ticks have found in all. -/
def totalFound : List TickReport → Nat
  | [] => 0
  | report :: rest => report.found + totalFound rest

/-- Ticks outside the loop in a row, with this configuration and over this store: by the clock the
first begins at this instant and each other a period after the one before, and their listings are
answered. -/
structure Series (config : SchedulerConfig) (store : Store) (first : Instant)
    (ticks : List Scheduler) : Prop where
  sameConfig : ∀ s ∈ ticks, s.config = config
  sameStore : ∀ s ∈ ticks, s.services.store = store
  reading : ∀ (k : Nat) s, ticks[k]? = some s →
    s.clock.now? s.now = first.add? (k * config.period.nanos : Nat)
  answered : ∀ s ∈ ticks, ∀ now, s.clock.now? s.now = some now →
    s.verdictAt s.journal.length (s.listing now) = .answered

theorem Series.head {rest : List Scheduler} (series : Series config store first (s :: rest)) :
    s.clock.now? s.now = some first := by
  rw [series.reading 0 s rfl, Nat.zero_mul]
  exact first.add?_zero

theorem Series.tail {next : Instant} {rest : List Scheduler}
    (series : Series config store first (s :: rest))
    (moved : first.add? config.period.nanos = some next) : Series config store next rest where
  sameConfig t member := series.sameConfig t (List.mem_cons_of_mem _ member)
  sameStore t member := series.sameStore t (List.mem_cons_of_mem _ member)
  reading k t found := by
    rw [series.reading (k + 1) t found,
      Instant.add?_add? (Int.natCast_nonneg _) (Int.natCast_nonneg _) moved]
    congr 1
    push_cast
    rw [Int.add_mul, Int.one_mul, Int.add_comm]
  answered t member := series.answered t (List.mem_cons_of_mem _ member)

/-- What each tick of a series offers: the reminders due in the period that begins with it. -/
theorem Series.tick_offers {next : Instant} {rest : List Scheduler}
    (series : Series config store first (s :: rest))
    (moved : first.add? config.period.nanos = some next) :
    ∃ report, s.tick.1 = some report ∧
      s.tickCalls.filterMap (·.request.offers?) =
        (store.listDue first next).map (·.id.text) ∧
      report.found = (store.listDue first next).length := by
  have member : s ∈ s :: rest := List.mem_cons_self
  obtain ⟨report, reminders, ticked, start, ended, _, reminds, _⟩ :=
    tick_answered series.head (series.answered s member first series.head)
  have window : report.windowEnd = next := by
    rw [ended, Instant.addClamped_eq, series.sameConfig s member, moved]
    rfl
  have keys := reminds.offered
  have found := reminds.found
  rw [start, window, series.sameStore s member] at keys found
  exact ⟨report, ticked, keys, found⟩

theorem Series.offers (series : Series config store first ticks)
    (last : first.add? (ticks.length * config.period.nanos : Nat) = some stop) :
    ∃ reports : List TickReport, ticks.map (·.tick.1) = reports.map some ∧
      (offered ticks).Perm
        ((store.events.values.filter (·.dueWithin first stop)).map (·.id.text)) ∧
      totalFound reports = store.events.values.countP (·.dueWithin first stop) := by
  induction ticks generalizing first with
  | nil =>
    rw [List.length_nil, Nat.zero_mul] at last
    have same : first = stop := Option.some.inj (first.add?_zero.symm.trans last)
    subst same
    have nothing : ∀ event ∈ store.events.values, ¬event.dueWithin first first = true := by
      intro event _
      rw [event.dueWithin_iff]
      exact fun ⟨lower, upper⟩ => Int.not_lt.mpr lower upper
    refine ⟨[], rfl, ?_, (List.countP_eq_zero.mpr nothing).symm⟩
    rw [List.filter_eq_nil_iff.mpr nothing]
    exact List.Perm.nil
  | cons s rest ih =>
    have shorter : config.period.nanos ≤ (rest.length + 1) * config.period.nanos :=
      Nat.le_mul_of_pos_left _ (Nat.succ_pos _)
    obtain ⟨next, moved, before⟩ := Instant.add?_of_le (Int.natCast_nonneg _)
      (Int.ofNat_le.mpr shorter) last
    have after : next.add? (rest.length * config.period.nanos : Nat) = some stop := by
      rw [Instant.add?_add? (Int.natCast_nonneg _) (Int.natCast_nonneg _) moved, ← last]
      congr 1
      push_cast [List.length_cons]
      rw [Int.add_mul, Int.one_mul, Int.add_comm]
    obtain ⟨report, ticked, keys, found⟩ := series.tick_offers moved
    obtain ⟨reports, tickedToo, keysToo, foundToo⟩ := ih (series.tail moved) after
    have split := filter_dueWithin_append store.events.values
      (Instant.le_of_add? (Int.natCast_nonneg _) moved) before
    have due := store.listDue_perm first next
    refine ⟨report :: reports, ?_, ?_, ?_⟩
    · rw [List.map_cons, List.map_cons, ticked, tickedToo]
    · rw [offered, List.flatMap_cons, List.filterMap_append, keys]
      have both := split.map (·.id.text)
      rw [List.map_append] at both
      exact ((due.map _).append keysToo).trans both
    · rw [totalFound, found, foundToo, due.length_eq, List.countP_eq_length_filter,
        List.countP_eq_length_filter, ← List.length_append, split.length_eq]

/-- Ticks in a row offer the reminders of the stored events that are due from the first tick until
a period after the last, each once, and no others. -/
theorem series_reminds_once (reachable : store.Reachable)
    (series : Series config store first ticks)
    (last : first.add? (ticks.length * config.period.nanos : Nat) = some stop) :
    (∀ event ∈ store.events.values, (offered ticks).count event.id.text =
        if first ≤ event.reminderAt ∧ event.reminderAt < stop then 1 else 0) ∧
      (∀ key ∈ offered ticks, ∃ event ∈ store.events.values,
        first ≤ event.reminderAt ∧ event.reminderAt < stop ∧ event.id.text = key) ∧
      (∃ reports : List TickReport, ticks.map (·.tick.1) = reports.map some ∧
        totalFound reports = store.events.values.countP fun event =>
          first ≤ event.reminderAt ∧ event.reminderAt < stop) ∧
      ∀ s ∈ ticks, Grown (s.loop = none) s.asked s.tick.2.asked (s.tickCalls.map (·.request)) := by
  have inv := reachable.invariant
  obtain ⟨reports, ticked, keys, found⟩ := series.offers last
  have offers (key : String) : key ∈ offered ticks ↔ ∃ event ∈ store.events.values,
      (first ≤ event.reminderAt ∧ event.reminderAt < stop) ∧ event.id.text = key := by
    rw [keys.mem_iff, List.mem_map]
    simp only [List.mem_filter, Event.dueWithin_iff, and_assoc]
  have once : (offered ticks).Nodup := by
    rw [keys.nodup_iff]
    exact inv.keys_nodup.sublist (List.filter_sublist.map _)
  refine ⟨?_, ?_, ⟨reports, ticked, ?_⟩, ?_⟩
  · intro event stored
    rw [once.count]
    congr 1
    rw [offers, eq_iff_iff]
    constructor
    · rintro ⟨other, storedToo, due, same⟩
      rw [← inv.eq_of_text storedToo stored same]
      exact due
    · exact fun due => ⟨event, stored, due, rfl⟩
  · intro key member
    obtain ⟨event, stored, ⟨lower, upper⟩, same⟩ := (offers key).mp member
    exact ⟨event, stored, lower, upper, same⟩
  · rw [found]
    apply List.countP_congr
    intro event _
    rw [event.dueWithin_iff, decide_eq_true_eq]
  · intro s member
    obtain ⟨k, found⟩ := List.mem_iff_getElem?.mp member
    obtain ⟨within, _⟩ := List.getElem?_eq_some_iff.mp found
    obtain ⟨now, reads, _⟩ := Instant.add?_of_le (Int.natCast_nonneg _)
      (Int.ofNat_le.mpr (Nat.mul_le_mul_right _ (Nat.le_of_lt within))) last
    have reading := (series.reading k s found).trans reads
    obtain ⟨_, _, _, _, _, grown, _⟩ :=
      tick_answered reading (series.answered s member now reading)
    exact grown

/-- Two ticks a minute apart, with an event at the beginning of each window and one at the end of
the second. No reminder is accepted by the queue. -/
theorem series_reminds_once_touching :
    let minutes := fun minute => Fixture.slot "meeting" (Fixture.moment 9 minute) 1
    let store := (Store.storage.run
      [(.ofNat 0, .createUser (Fixture.user "alice")),
        (.ofNat 1, .createEvent "alice" (minutes 0)),
        (.ofNat 2, .createEvent "alice" (minutes 1)),
        (.ofNat 3, .createEvent "alice" (minutes 2))] .empty).2
    let s : Scheduler :=
      { config := .standard
        clock := .manual (Fixture.moment 9 0)
        services := { store, queue := { topic := "reminders" } }
        plan := FaultModes.plan { publish := .fail } }
    let ticks := [s, { s.tick.2 with clock := .manual (Fixture.moment 9 1) }]
    store.Reachable ∧ Series .standard store (Fixture.moment 9 0) ticks ∧
      ∀ event ∈ store.events.values,
        (offered ticks).count event.id.text = if event.id = .ofNat 3 then 0 else 1 := by
  intro minutes store s ticks
  have reachable : store.Reachable := ⟨_, rfl⟩
  have kept : s.services.store = store := by dsimp only [s]
  have answers (plan : Plan) (same : plan = s.plan) (number : Nat) (start stop : Instant)
      (limit : Nat) : ((plan number (.list start stop)).settlement limit).1 = .answered := by
    rw [same]
    rfl
  have follows {t : Scheduler} {asked : List Request} {accepted : List (String × Bytes)}
      (ran : Ran False s t asked accepted) : Series .standard store (Fixture.moment 9 0)
        [s, { t with clock := .manual (Fixture.moment 9 1) }] := by
    constructor
    · exact List.forall_mem_cons.mpr ⟨rfl, List.forall_mem_singleton.mpr ran.config⟩
    · exact List.forall_mem_cons.mpr ⟨kept, List.forall_mem_singleton.mpr (ran.store.trans kept)⟩
    · intro k t found
      match k, found with
      | 0, found =>
        cases found
        exact (show some (Fixture.moment 9 0) = _ by decide +kernel)
      | 1, found =>
        cases found
        exact (show some (Fixture.moment 9 1) = _ by decide +kernel)
    · refine List.forall_mem_cons.mpr ⟨?_, List.forall_mem_singleton.mpr ?_⟩
      · exact fun now _ => answers _ rfl _ _ _ _
      · exact fun now _ => answers _ ran.plan _ _ _ _
  obtain ⟨_, _, ran⟩ := s.tick_ran
  have series := follows ran
  refine ⟨reachable, series, ?_⟩
  intro event stored
  have stop : (Fixture.moment 9 0).add?
      (ticks.length * SchedulerConfig.standard.period.nanos : Nat) = some (Fixture.moment 9 2) := by
    decide +kernel
  rw [(series_reminds_once reachable series stop).1 event stored]
  revert event
  decide +kernel

end Scheduler

end Datebook
