import Datebook.Proofs.Contract.Guests

/-!
What the steps of a check do.

A step that `Runs` succeeds from every store with one scene and leaves another scene. There is one
rule for each kind of step, and `Runs.bind` puts them in sequence.
-/

set_option autoImplicit false

namespace Datebook

namespace Contract

open Check Fixture

/-- From every store with the scene a check succeeds with the result, and leaves the later scene. -/
def Runs {α : Type} (draw : Nat → EventId) (base : Store) (check : Check Store α) (scene : Scene)
    (result : α) (later : Scene) : Prop :=
  ∀ store, Hosts draw base scene store → ∃ next,
    check.run.run { state := store, drawn := scene.drawn } =
      (.ok result, { state := next, drawn := later.drawn }) ∧ Hosts draw base later next

section

variable {α β : Type} {draw : Nat → EventId} {base : Store} {scene middle later : Scene}
  {result : α} {outcome : Except StorageError α} {operation : Store → Except StorageError α × Store}

theorem Runs.bind {first : Check Store α} {next : α → Check Store β} {final : β}
    (front : Runs draw base first scene result middle)
    (back : Runs draw base (next result) middle final later) :
    Runs draw base (first >>= next) scene final later := by
  intro store hosts
  obtain ⟨between, done, hostsToo⟩ := front store hosts
  obtain ⟨last, doneToo, hostsLast⟩ := back between hostsToo
  refine ⟨last, ?_, hostsLast⟩
  rw [ExceptT.run_bind, StateT.run_bind, done]
  exact doneToo

theorem Runs.pure (result : α) : Runs draw base (Pure.pure result) scene result scene :=
  fun store hosts => ⟨store, rfl, hosts⟩

/-- A scene can be taken to be sound, for no store holds it otherwise. -/
theorem Runs.assume {check : Check Store α}
    (runs : scene.Sound draw base → Runs draw base check scene result later) :
    Runs draw base check scene result later :=
  fun store hosts => runs hosts.sound store hosts

theorem expect_runs {expectation : String} {holds : Bool} (met : holds = true) :
    Runs draw base (expect expectation holds) scene () scene := by
  subst met
  exact .pure ()

variable {guests left : List String} {events kept : List Event} {drawn : Nat}
  {supply : List Drawing}

theorem attempt_runs (answers : Answers draw base operation ⟨guests, events, drawn, supply⟩ outcome
      ⟨left, kept, drawn, supply⟩) :
    Runs draw base (attempt operation) ⟨guests, events, drawn, supply⟩ outcome
      ⟨left, kept, drawn, supply⟩ := by
  intro store hosts
  obtain ⟨next, answered, hostsToo⟩ := answers store hosts
  refine ⟨next, ?_, hostsToo⟩
  have step : (attempt operation).run.run { state := store, drawn } =
      (.ok (operation store).1, { state := (operation store).2, drawn }) := rfl
  rw [step, answered]

theorem demand_runs (answers : Answers draw base operation ⟨guests, events, drawn, supply⟩
      (.ok result) ⟨left, kept, drawn, supply⟩) :
    Runs draw base (demand operation) ⟨guests, events, drawn, supply⟩ result
      ⟨left, kept, drawn, supply⟩ :=
  (attempt_runs answers).bind (.pure result)

theorem refuse_runs {expectation : String} {cause : StorageError}
    (answers : Answers draw base operation ⟨guests, events, drawn, supply⟩ (.error cause)
      ⟨left, kept, drawn, supply⟩) :
    Runs draw base (refuse expectation cause operation) ⟨guests, events, drawn, supply⟩ ()
      ⟨left, kept, drawn, supply⟩ :=
  (attempt_runs answers).bind (expect_runs (decide_eq_true rfl))

/-- The checks of a store that draws these identifiers. -/
abbrev benchOf (draw : Nat → EventId) : Bench Store :=
  { storage := Store.storage, draw }

theorem drawId_runs {drawing : Drawing} :
    Runs draw base (benchOf draw).drawId ⟨guests, events, drawn, drawing :: supply⟩ (draw drawn)
      ⟨guests, events, drawn + 1, supply⟩ :=
  fun store hosts => ⟨store, rfl, ⟨hosts.users, hosts.events, hosts.unused.spend⟩⟩

theorem drawName_runs (label : String) :
    Runs draw base ((benchOf draw).drawName label)
      ⟨guests, events, drawn, .name label :: supply⟩ (uniqueName label (draw drawn))
      ⟨guests, events, drawn + 1, supply⟩ :=
  drawId_runs.bind (.pure _)

theorem enrol_runs (label : String) :
    Runs draw base ((benchOf draw).enrol label) ⟨guests, events, drawn, .name label :: supply⟩
      (uniqueName label (draw drawn))
      ⟨guests ++ [uniqueName label (draw drawn)], events, drawn + 1, supply⟩ := by
  apply Runs.assume
  intro sound
  obtain ⟨stranger, absent⟩ := sound.names _ List.mem_cons_self
  have other := (List.nodup_cons.mp sound.namesOnce).1
  apply (drawName_runs label).bind
  apply (demand_runs (createUser_answers stranger absent other)).bind
  exact .pure _

/-- The due events of a kind that no event of the base is of are those of the scene, in order. -/
theorem Runs.bind_due (ours : Event → Bool) {start stop : Instant} {found : List Event}
    {next : List Event → Check Store β} {final : β}
    (foreign : ∀ event ∈ base.events.values, ours event = false)
    (finds : (events.filter (·.dueWithin start stop)).filter ours = found)
    (rises : found.Pairwise fun a b => a.start < b.start)
    (back : ∀ due, due.filter ours = found → (due.Pairwise fun a b => a.start ≤ b.start) →
      Runs draw base (next due) ⟨guests, events, drawn, supply⟩ final later) :
    Runs draw base (demand (Store.storage.listDue start stop) >>= next)
      ⟨guests, events, drawn, supply⟩ final later := by
  obtain ⟨due, perm, ordered, answers⟩ := listDue_finds start stop
  apply (demand_runs answers).bind
  apply back due _ ordered
  have nothing : (base.events.values.filter (·.dueWithin start stop)).filter ours = [] := by
    rw [List.filter_eq_nil_iff]
    intro event member
    rw [foreign event (List.mem_filter.mp member).1]
    decide
  have permOurs := perm.filter ours
  rw [List.filter_append, List.filter_append, nothing, List.nil_append, finds] at permOurs
  exact eq_of_rising permOurs (ordered.filter ours) rises

variable (inv : base.Invariant) {owner : String} {fields : EventFields}

include inv

theorem createEvent_drawn (guest : owner ∈ guests)
    (free : ∀ event ∈ events, event.owner = owner →
      event.overlaps fields.truncated.start fields.truncated.stop = false)
    (sound : Scene.Sound ⟨guests, events, drawn, .event :: supply⟩ draw base) :
    Answers draw base (Store.storage.createEvent (draw drawn) owner fields)
      ⟨guests, events, drawn + 1, supply⟩ (.ok (draw drawn))
      ⟨guests, events ++ [⟨draw drawn, owner, fields.truncated⟩], drawn + 1, supply⟩ := by
  obtain ⟨unused, new⟩ := sound.events _ List.mem_cons_self
  have other := (List.nodup_cons.mp sound.eventsOnce).1
  exact createEvent_answers inv guest unused new other free

theorem book_runs (guest : owner ∈ guests)
    (free : ∀ event ∈ events, event.owner = owner →
      event.overlaps fields.truncated.start fields.truncated.stop = false) :
    Runs draw base ((benchOf draw).book owner fields) ⟨guests, events, drawn, .event :: supply⟩
      (draw drawn)
      ⟨guests, events ++ [⟨draw drawn, owner, fields.truncated⟩], drawn + 1, supply⟩ := by
  apply Runs.assume
  intro sound
  exact drawId_runs.bind (demand_runs (createEvent_drawn inv guest free sound))

theorem create_runs (guest : owner ∈ guests)
    (free : ∀ event ∈ events, event.owner = owner →
      event.overlaps fields.truncated.start fields.truncated.stop = false) :
    Runs draw base ((benchOf draw).create owner fields) ⟨guests, events, drawn, .event :: supply⟩
      (.ok (draw drawn))
      ⟨guests, events ++ [⟨draw drawn, owner, fields.truncated⟩], drawn + 1, supply⟩ := by
  apply Runs.assume
  intro sound
  exact drawId_runs.bind (attempt_runs (createEvent_drawn inv guest free sound))

theorem create_busy (guest : owner ∈ guests) {other : EventId} {taken : EventFields}
    (member : ⟨other, owner, taken⟩ ∈ events)
    (overlapping : taken.overlaps fields.truncated.start fields.truncated.stop = true) :
    Runs draw base ((benchOf draw).create owner fields) ⟨guests, events, drawn, .spare :: supply⟩
      (.error .dateBusy) ⟨guests, events, drawn + 1, supply⟩ :=
  drawId_runs.bind (attempt_runs (createEvent_busy inv guest member overlapping))

theorem list_runs (stranger : Stranger base owner) {start stop : Instant} {found : List Event}
    (finds : events.filter (fun event => event.owner = owner && event.overlaps start stop) = found)
    (rises : found.Pairwise fun a b => a.start < b.start) :
    Runs draw base ((benchOf draw).list owner start stop) ⟨guests, events, drawn, supply⟩
      found.reverse ⟨guests, events, drawn, supply⟩ :=
  demand_runs (listEvents_answers inv stranger finds rises)

theorem dismiss_runs (left : List String) (kept : List Event) (guest : owner ∈ guests)
    (leaves : guests.filter (· ≠ owner) = left) (keeps : events.filter (·.owner ≠ owner) = kept) :
    Runs draw base ((benchOf draw).dismiss owner) ⟨guests, events, drawn, supply⟩ ()
      ⟨left, kept, drawn, supply⟩ :=
  demand_runs (deleteUser_answers inv left kept guest leaves keeps)

/-- The last guest takes all events along. -/
theorem dismiss_last_runs (own : ∀ event ∈ events, event.owner = owner) :
    Runs draw base ((benchOf draw).dismiss owner) ⟨[owner], events, drawn, supply⟩ ()
      ⟨[], [], drawn, supply⟩ := by
  apply dismiss_runs inv [] [] List.mem_cons_self
  · simp
  · simpa using own

end

section

variable {draw : Nat → EventId} {base : Store} {owner : String} {fields : EventFields}
  {requests : List EventFields} {guests : List String} {events : List Event}

theorem createAll_cons {scene middle later : Scene} {outcome : Except StorageError EventId}
    {outcomes : List (Except StorageError EventId)}
    (front : Runs draw base ((benchOf draw).create owner fields) scene outcome middle)
    (back : Runs draw base (createAll (benchOf draw) owner requests) middle outcomes later) :
    Runs draw base (createAll (benchOf draw) owner (fields :: requests)) scene
      (outcome :: outcomes) later :=
  front.bind (back.bind (.pure _))

/-- The events of requests that are all granted. -/
def booked (draw : Nat → EventId) (owner : String) : Nat → List EventFields → List Event
  | _, [] => []
  | place, fields :: rest =>
    ⟨draw place, owner, fields.truncated⟩ :: booked draw owner (place + 1) rest

theorem booked_fields (draw : Nat → EventId) (owner : String) (place : Nat)
    (requests : List EventFields) :
    (booked draw owner place requests).map (·.fields) = requests.map (·.truncated) := by
  induction requests generalizing place with
  | nil => rfl
  | cons fields rest ih => exact congrArg (fields.truncated :: ·) (ih (place + 1))

theorem booked_length (draw : Nat → EventId) (owner : String) (place : Nat)
    (requests : List EventFields) :
    (booked draw owner place requests).length = requests.length := by
  rw [← List.length_map (·.fields), booked_fields, List.length_map]

theorem booked_owner {place : Nat} {event : Event}
    (member : event ∈ booked draw owner place requests) : event.owner = owner := by
  induction requests generalizing place with
  | nil => cases member
  | cons fields rest ih =>
    rcases List.mem_cons.mp member with rfl | later
    · rfl
    · exact ih later

variable (inv : base.Invariant) (guest : owner ∈ guests)

include inv guest

theorem createAll_busy {other : EventId} {taken : EventFields}
    (member : ⟨other, owner, taken⟩ ∈ events)
    (overlapping : ∀ fields ∈ requests,
      taken.overlaps fields.truncated.start fields.truncated.stop = true)
    (drawn : Nat) (supply : List Drawing) :
    Runs draw base (createAll (benchOf draw) owner requests)
      ⟨guests, events, drawn, List.replicate requests.length .spare ++ supply⟩
      (List.replicate requests.length (.error .dateBusy))
      ⟨guests, events, drawn + requests.length, supply⟩ := by
  induction requests generalizing drawn with
  | nil => exact .pure []
  | cons fields rest ih =>
    obtain ⟨first, later⟩ := List.forall_mem_cons.mp overlapping
    rw [List.length_cons, ← Nat.add_assoc, Nat.add_right_comm]
    exact createAll_cons (create_busy inv guest member first) (ih later (drawn + 1))

theorem createAll_granted (drawn : Nat) (supply : List Drawing)
    (free : ∀ event ∈ events, event.owner = owner → ∀ fields ∈ requests,
      event.overlaps fields.truncated.start fields.truncated.stop = false)
    (apart : requests.Pairwise fun a b =>
      a.truncated.overlaps b.truncated.start b.truncated.stop = false) :
    Runs draw base (createAll (benchOf draw) owner requests)
      ⟨guests, events, drawn, List.replicate requests.length .event ++ supply⟩
      ((booked draw owner drawn requests).map (.ok ·.id))
      ⟨guests, events ++ booked draw owner drawn requests, drawn + requests.length, supply⟩ := by
  induction requests generalizing drawn events with
  | nil =>
    rw [booked, List.append_nil]
    exact .pure []
  | cons fields rest ih =>
    obtain ⟨before, after⟩ := List.pairwise_cons.mp apart
    rw [List.length_cons, ← Nat.add_assoc, Nat.add_right_comm, booked, List.append_cons]
    apply createAll_cons
    · apply create_runs inv guest
      intro event member owned
      exact free event member owned fields List.mem_cons_self
    apply ih (drawn + 1) _ after
    intro event member owned other memberToo
    rcases List.mem_append.mp member with old | new
    · exact free event old owned other (List.mem_cons_of_mem _ memberToo)
    · rw [List.mem_singleton.mp new]
      exact before other memberToo

end

end Contract

end Datebook
