import Datebook.Proofs.Store.Outcome
import Datebook.Proofs.Store.Renaming
import Mathlib.Data.List.Pairwise
import Mathlib.Data.List.Perm.Basic

/-!
Bookings that race.

However the calls of several bookings interleave, each takes effect at one moment, so a race is a
history of them in some order, with calls that only look in between. Whatever the order, those
granted do not clash with each other nor with what was there, and each one refused clashes with one
that was there or was granted: `race_grants`. Which identifiers they get is all that the order
decides when none clash: `Settled.same_store`.
-/

set_option autoImplicit false

namespace Datebook

/-- A stretch of the time of an owner. -/
structure Slot where
  owner : String
  start : Instant
  stop : Instant

/-- Slots of one owner that overlap. -/
def Slot.Clash (first second : Slot) : Prop :=
  first.owner = second.owner ∧ overlap first.start first.stop second.start second.stop = true

theorem Slot.Clash.symm {first second : Slot} (clash : first.Clash second) :
    second.Clash first :=
  ⟨clash.1.symm, by rw [overlap_comm]; exact clash.2⟩

def Event.slot (event : Event) : Slot :=
  ⟨event.owner, event.fields.start, event.fields.stop⟩

/-- A request to create an event. -/
structure Booking where
  owner : String
  fields : EventFields

namespace Booking

/-- The event that a booking becomes. -/
def event (booking : Booking) (id : EventId) : Event :=
  ⟨id, booking.owner, booking.fields.truncated⟩

def slot (booking : Booking) : Slot :=
  ⟨booking.owner, booking.fields.truncated.start, booking.fields.truncated.stop⟩

def Clash (first second : Booking) : Prop :=
  first.slot.Clash second.slot

end Booking

namespace Call

/-- The booking that a call asks for. -/
def booking? : Call → Option Booking
  | .createEvent owner fields => some ⟨owner, fields⟩
  | _ => none

/-- Whether a call only looks. -/
def looks : Call → Bool
  | .getUser _ | .getEvent _ _ | .listEvents _ _ _ | .listDue _ _ => true
  | _ => false

end Call

/-- A booking with the answer to it. -/
abbrev Ruling := Booking × Except StorageError Answer

namespace Ruling

/-- The booking of a ruling that grants it, with its identifier. -/
def granted? : Ruling → Option (EventId × Booking)
  | (booking, .ok (.created id)) => some (id, booking)
  | _ => none

theorem granted?_eq_some_iff (ruling : Ruling) (grant : EventId × Booking) :
    ruling.granted? = some grant ↔ ruling = (grant.2, .ok (.created grant.1)) := by
  obtain ⟨booking, answer⟩ := ruling
  obtain ⟨id, wanted⟩ := grant
  cases answer with
  | error cause => simp [granted?]
  | ok answer => cases answer <;> simp [granted?, and_comm]

end Ruling

/-- Entries under other identifiers make the renamed map. -/
theorem Table.toMap_rekey {α β : Type} {first : Table EventId α} {second : Table EventId β}
    {rename : Equiv.Perm EventId} {change : α → β}
    (entries : second.entries.Perm
      (first.entries.map fun entry => (rename entry.1, change entry.2))) :
    second.toMap = first.toMap.rekey rename change := by
  apply FiniteMap.ext_lookup
  funext other
  obtain ⟨id, rfl⟩ := rename.surjective other
  rw [FiniteMap.lookup_rekey]
  show second.get? (rename id) = (first.get? id).map change
  apply Option.ext
  intro value
  rw [get?_eq_some_iff, entries.mem_iff, Option.map_eq_some_iff]
  constructor
  · intro member
    obtain ⟨entry, among, same⟩ := List.mem_map.mp member
    cases rename.injective (congrArg Prod.fst same)
    exact ⟨entry.2, (get?_eq_some_iff _ _ _).mpr among, congrArg Prod.snd same⟩
  · rintro ⟨source, stored, rfl⟩
    exact List.mem_map.mpr ⟨(id, source), (get?_eq_some_iff _ _ _).mp stored, rfl⟩

namespace Store

def slots (store : Store) : List Slot :=
  store.events.values.map Event.slot

/-- A history in which some bookings take effect, in any order, and nothing else changes. -/
structure Race (store : Store) (bookings : List Booking) (history : List (EventId × Call)) :
    Prop where
  booked : (history.filterMap fun entry => entry.2.booking?).Perm bookings
  looked : ∀ entry ∈ history, entry.2.booking? = none → entry.2.looks = true
  admitted : store.AdmitsAll history

/-- The bookings of a history with the answers to them, in the order in which they took effect. -/
def rulings (store : Store) (history : List (EventId × Call)) : List Ruling :=
  (history.zip (storage.run history store).1).filterMap fun (entry, answer) =>
    entry.2.booking?.map fun booking => (booking, answer)

theorem rulings_cons (store : Store) (fresh : EventId) (call : Call)
    (rest : List (EventId × Call)) :
    store.rulings ((fresh, call) :: rest) =
      (call.booking?.map fun booking => (booking, (storage.perform fresh call store).1)).toList ++
        (storage.perform fresh call store).2.rulings rest := by
  simp only [rulings, Storage.run, List.zip_cons_cons, List.filterMap_cons]
  cases call.booking? <;> rfl

theorem rulings_bookings (store : Store) (history : List (EventId × Call)) :
    (store.rulings history).map Prod.fst = history.filterMap fun entry => entry.2.booking? := by
  induction history generalizing store with
  | nil => rfl
  | cons entry rest ih =>
    obtain ⟨fresh, call⟩ := entry
    rw [rulings_cons, List.map_append, ih, List.filterMap_cons]
    cases call.booking? <;> rfl

theorem perform_of_looks {store : Store} {fresh : EventId} {call : Call}
    (looks : call.looks = true) : (storage.perform fresh call store).2 = store := by
  cases call with
  | getUser _ | getEvent _ _ | listEvents _ _ _ | listDue _ _ => rfl
  | _ => cases looks

theorem mem_slots_iff (store : Store) (slot : Slot) :
    slot ∈ store.slots ↔ ∃ id event, store.events.get? id = some event ∧ event.slot = slot := by
  simp only [slots, List.mem_map, Table.mem_values_iff]
  constructor
  · rintro ⟨event, ⟨id, stored⟩, same⟩
    exact ⟨id, event, stored, same⟩
  · rintro ⟨id, event, stored, same⟩
    exact ⟨event, ⟨id, stored⟩, same⟩

/-- An owner is busy when the booking clashes with a slot that is taken. -/
theorem isBusy_booking_iff (store : Store) (booking : Booking) :
    store.isBusy booking.owner (fun _ => false) booking.slot.start booking.slot.stop = true ↔
      ∃ slot ∈ store.slots, slot.Clash booking.slot := by
  rw [isBusy_iff]
  constructor
  · rintro ⟨id, event, stored, _, same, overlapping⟩
    exact ⟨event.slot, (mem_slots_iff _ _).mpr ⟨id, event, stored, rfl⟩, same, overlapping⟩
  · rintro ⟨slot, taken, same, overlapping⟩
    obtain ⟨id, event, stored, rfl⟩ := (mem_slots_iff _ _).mp taken
    exact ⟨id, event, stored, rfl, same, overlapping⟩

/-- A booking of a user is refused for a slot that is taken, and else it is granted. -/
theorem perform_booking {store : Store} (fresh : EventId) {call : Call} {booking : Booking}
    (booked : call.booking? = some booking) (enrolled : store.Enrolled booking.owner) :
    ((∃ slot ∈ store.slots, slot.Clash booking.slot) ∧
      storage.perform fresh call store = (.error .dateBusy, store)) ∨
    storage.perform fresh call store = (.ok (.created fresh),
      { store with events := store.events.insert fresh (booking.event fresh) }) := by
  cases call with
  | createEvent owner fields =>
    cases booked
    have known : store.users.contains owner = true := (contains_users_iff _ _).mpr enrolled
    have busy := isBusy_booking_iff store ⟨owner, fields⟩
    show (_ ∧ Storage.answerWith .created (store.createEvent fresh owner fields) = _) ∨
      Storage.answerWith .created (store.createEvent fresh owner fields) = _
    rw [createEvent_eq, if_neg (by simp [known])]
    split
    · rename_i taken
      exact .inl ⟨busy.mp taken, rfl⟩
    · exact .inr rfl
  | _ => cases booked

/-- The slots that are taken when some rulings are out. -/
def taken (store : Store) (rulings : List Ruling) : List Slot :=
  store.slots ++ (rulings.filterMap Ruling.granted?).map fun grant => grant.2.slot

/-- What a race has come to: the granted bookings are kept besides what was there, and every other
one met a slot that was taken. -/
structure Settled (store : Store) (rulings : List Ruling) (after : Store) : Prop where
  users : after.users = store.users
  entries : after.events.entries = store.events.entries ++
    (rulings.filterMap Ruling.granted?).map fun grant => (grant.1, grant.2.event grant.1)
  refused : ∀ ruling ∈ rulings, ruling.granted? = none →
    ruling.2 = .error .dateBusy ∧ ∃ slot ∈ store.taken rulings, slot.Clash ruling.1.slot

theorem Settled.slots {store after : Store} {rulings : List Ruling}
    (settled : store.Settled rulings after) : after.slots = store.taken rulings := by
  simp only [Store.slots, taken, Table.values, settled.entries, List.map_append, List.map_map]
  rfl

theorem Settled.refuse {store after : Store} {rulings : List Ruling} {booking : Booking}
    (settled : store.Settled rulings after)
    (clash : ∃ slot ∈ store.slots, slot.Clash booking.slot) :
    store.Settled ((booking, .error .dateBusy) :: rulings) after where
  users := settled.users
  entries := settled.entries
  refused ruling member refusal := by
    rcases List.mem_cons.mp member with rfl | later
    · obtain ⟨slot, held, overlapping⟩ := clash
      exact ⟨rfl, slot, List.mem_append_left _ held, overlapping⟩
    · exact settled.refused ruling later refusal

theorem Settled.grant {store after : Store} {rulings : List Ruling} {booking : Booking}
    {fresh : EventId} (unused : store.events.get? fresh = none)
    (settled : Settled
      { store with events := store.events.insert fresh (booking.event fresh) } rulings after) :
    store.Settled ((booking, .ok (.created fresh)) :: rulings) after := by
  have first : (Ruling.granted? (booking, .ok (.created fresh))) = some (fresh, booking) := rfl
  have added := store.events.entries_insert_of_absent (booking.event fresh) unused
  have takenToo : store.taken ((booking, .ok (.created fresh)) :: rulings) =
      Store.taken { store with events := store.events.insert fresh (booking.event fresh) }
        rulings := by
    simp only [taken, Store.slots, Table.values, added, List.filterMap_cons, first, List.map_append,
      List.map_cons, List.map_nil, List.append_assoc, List.singleton_append]
    rfl
  refine ⟨settled.users, ?_, ?_⟩
  · simp only [settled.entries, added, List.filterMap_cons, first, List.map_cons,
      List.append_assoc, List.singleton_append]
  · intro ruling member refusal
    rw [takenToo]
    rcases List.mem_cons.mp member with rfl | later
    · cases first.symm.trans refusal
    · exact settled.refused ruling later refusal

/-- Each call of a race either looks, is refused or is granted; the rest is a race from there. -/
theorem settled_of_admitted {store : Store} {history : List (EventId × Call)}
    (enrolled : ∀ entry ∈ history, ∀ booking, entry.2.booking? = some booking →
      store.Enrolled booking.owner)
    (looked : ∀ entry ∈ history, entry.2.booking? = none → entry.2.looks = true)
    (admitted : store.AdmitsAll history) :
    store.Settled (store.rulings history) (storage.run history store).2 := by
  induction history generalizing store with
  | nil => exact ⟨rfl, (List.append_nil _).symm, fun _ member => by cases member⟩
  | cons entry rest ih =>
    obtain ⟨fresh, call⟩ := entry
    obtain ⟨admits, later⟩ := admitted
    have onwards {next : Store} (moved : (storage.perform fresh call store).2 = next)
        (users : next.users = store.users) :
        next.Settled (next.rulings rest) (storage.run rest next).2 := by
      subst moved
      apply ih
      · intro other member booking booked
        rw [Enrolled, users]
        exact enrolled other (List.mem_cons_of_mem _ member) booking booked
      · exact fun other member => looked other (List.mem_cons_of_mem _ member)
      · exact later
    rw [rulings_cons]
    show store.Settled _ (storage.run rest (storage.perform fresh call store).2).2
    cases booked : call.booking? with
    | none =>
      have same : (storage.perform fresh call store).2 = store :=
        perform_of_looks (looked _ List.mem_cons_self booked)
      rw [same]
      exact onwards same rfl
    | some booking =>
      have known := enrolled _ List.mem_cons_self booking booked
      rcases perform_booking fresh booked known with ⟨clash, refusal⟩ | grant
      · rw [refusal]
        exact (onwards (by rw [refusal]) rfl).refuse clash
      · have unused : store.events.get? fresh = none := by
          cases call with
          | createEvent => exact admits
          | _ => cases booked
        rw [grant]
        exact .grant unused (onwards (by rw [grant]) rfl)

/-- Nothing that is in a store stands in the way of bookings. -/
def ClearFor (store : Store) (bookings : List Booking) : Prop :=
  ∀ slot ∈ store.slots, ∀ booking ∈ bookings, ¬slot.Clash booking.slot

/-- The slots that are taken in a store do not clash. -/
theorem Invariant.slots_apart {store : Store} (inv : store.Invariant) :
    store.slots.Pairwise fun first second => ¬first.Clash second := by
  rw [slots, Table.values, List.map_map, List.pairwise_map]
  have distinct := List.pairwise_map.mp store.events.distinct
  refine List.Pairwise.imp_of_mem ?_ distinct
  intro first second member memberToo differ clash
  have stored := (Table.get?_eq_some_iff _ first.1 first.2).mpr member
  have storedToo := (Table.get?_eq_some_iff _ second.1 second.2).mpr memberToo
  have apart := inv.apart stored storedToo differ clash.1
  rw [show first.2.overlaps second.2.fields.start second.2.fields.stop = true from clash.2] at apart
  cases apart

section

variable {store after : Store} {rulings : List Ruling} {bookings : List Booking}

theorem granted_sublist (rulings : List Ruling) :
    ((rulings.filterMap Ruling.granted?).map (·.2)).Sublist (rulings.map Prod.fst) := by
  induction rulings with
  | nil => exact List.Sublist.slnil
  | cons ruling rest ih =>
    rw [List.filterMap_cons]
    cases granted : ruling.granted? with
    | none => exact ih.cons _
    | some grant =>
      obtain rfl := (ruling.granted?_eq_some_iff grant).mp granted
      exact ih.cons_cons _

/-- Bookings that clash with nothing are granted. -/
theorem Settled.all_granted (settled : store.Settled rulings after)
    (ruled : (rulings.map Prod.fst).Perm bookings) (clear : store.ClearFor bookings)
    (apart : bookings.Pairwise fun first second => ¬first.Clash second) :
    ∀ ruling ∈ rulings, ∃ id, ruling.2 = .ok (.created id) := by
  have symm : Std.Symm fun first second : Ruling => ¬first.1.Clash second.1 :=
    ⟨fun _ _ differ clash => differ clash.symm⟩
  have rulingsApart : rulings.Pairwise fun first second => ¬first.1.Clash second.1 :=
    List.pairwise_map.mp (apart.perm ruled.symm fun differ clash => differ clash.symm)
  intro ruling member
  cases granted : ruling.granted? with
  | some grant =>
    rw [(ruling.granted?_eq_some_iff grant).mp granted]
    exact ⟨grant.1, rfl⟩
  | none =>
    obtain ⟨_, slot, taken, clash⟩ := settled.refused ruling member granted
    rcases List.mem_append.mp taken with held | given
    · exact absurd clash
        (clear slot held ruling.1 (ruled.mem_iff.mp (List.mem_map.mpr ⟨ruling, member, rfl⟩)))
    · obtain ⟨grant, among, rfl⟩ := List.mem_map.mp given
      obtain ⟨other, memberToo, grantedToo⟩ := List.mem_filterMap.mp among
      have differ : other ≠ ruling := by
        rintro rfl
        cases granted.symm.trans grantedToo
      obtain rfl := (other.granted?_eq_some_iff grant).mp grantedToo
      exact absurd clash (rulingsApart.forall memberToo member differ)

/-- Of bookings that all clash with each other, the first is granted and no other. -/
theorem Settled.one_granted (settled : store.Settled rulings after) (inv : after.Invariant)
    (ruled : (rulings.map Prod.fst).Perm bookings) (clear : store.ClearFor bookings)
    (some : bookings ≠ []) (clash : bookings.Pairwise Booking.Clash) :
    (rulings.filterMap Ruling.granted?).length = 1 := by
  have apart := inv.slots_apart
  rw [settled.slots, taken] at apart
  have grantsApart := List.pairwise_map.mp (List.pairwise_append.mp apart).2.1
  have grantsClash : (rulings.filterMap Ruling.granted?).Pairwise
      fun first second => first.2.Clash second.2 :=
    List.pairwise_map.mp ((clash.perm ruled.symm Slot.Clash.symm).sublist (granted_sublist rulings))
  cases grants : rulings.filterMap Ruling.granted? with
  | nil =>
    obtain ⟨ruling, rest, rfl⟩ : ∃ ruling rest, rulings = ruling :: rest := by
      cases rulings with
      | nil => exact absurd ruled.nil_eq.symm some
      | cons ruling rest => exact ⟨ruling, rest, rfl⟩
    have refusal := List.filterMap_eq_nil_iff.mp grants ruling List.mem_cons_self
    obtain ⟨_, slot, held, overlapping⟩ := settled.refused ruling List.mem_cons_self refusal
    rw [taken, grants, List.map_nil, List.append_nil] at held
    exact absurd overlapping
      (clear slot held ruling.1 (ruled.mem_iff.mp (List.mem_map.mpr ⟨_, List.mem_cons_self, rfl⟩)))
  | cons first others =>
    cases others with
    | nil => rfl
    | cons second others =>
      rw [grants] at grantsApart grantsClash
      have differ := (List.pairwise_cons.mp grantsApart).1 second List.mem_cons_self
      exact absurd ((List.pairwise_cons.mp grantsClash).1 second List.mem_cons_self) differ

theorem granted_of_all (granted : ∀ ruling ∈ rulings, ∃ id, ruling.2 = .ok (.created id)) :
    (rulings.filterMap Ruling.granted?).map (·.2) = rulings.map Prod.fst := by
  induction rulings with
  | nil => rfl
  | cons ruling rest ih =>
    obtain ⟨booking, answer⟩ := ruling
    obtain ⟨id, rfl⟩ := granted _ List.mem_cons_self
    have first : Ruling.granted? (booking, .ok (.created id)) = some (id, booking) := rfl
    rw [List.filterMap_cons, first, List.map_cons, List.map_cons,
      ih fun other member => granted other (List.mem_cons_of_mem _ member)]

/-- Two ways to grant the same bookings differ in the identifiers that were drawn for them. -/
theorem Settled.same_store {second : Store} {others : List Ruling} (inv : store.Invariant)
    (settled : store.Settled rulings after) (settledToo : store.Settled others second)
    (same : ((rulings.filterMap Ruling.granted?).map (·.2)).Perm
      ((others.filterMap Ruling.granted?).map (·.2))) :
    ∃ rename : Equiv.Perm EventId,
      (∀ id event, store.events.get? id = some event → rename id = id) ∧
      second.view = after.view.renamed rename := by
  have entries := settled.entries
  have entriesToo := settledToo.entries
  have once := after.events.distinct
  have onceToo := second.events.distinct
  generalize rulings.filterMap Ruling.granted? = grants at entries same
  generalize others.filterMap Ruling.granted? = grantsToo at entriesToo same
  rw [entries, List.map_append, List.map_map] at once
  rw [entriesToo, List.map_append, List.map_map] at onceToo
  -- The second grants in the order of the first bookings.
  obtain ⟨matched, bookings, perm⟩ :=
    (congrFun₂ (List.eq_map_comp_perm (Prod.snd (α := EventId))) _ grantsToo).mpr same
  have matchedOnce : (store.events.entries.map (·.1) ++ matched.map (·.1)).Nodup :=
    ((perm.map _).append_left _).nodup_iff.mpr onceToo
  obtain ⟨rename, moves⟩ := exists_renaming once matchedOnce (by
    have lengths := congrArg List.length bookings
    simp only [List.length_map] at lengths
    simp only [List.length_append, List.length_map, lengths])
  rw [List.map_append] at moves
  obtain ⟨fixed, moved⟩ := List.append_inj moves (List.length_map _)
  have stays : ∀ entry ∈ store.events.entries, rename entry.1 = entry.1 := by
    rw [List.map_map] at fixed
    exact List.map_inj_left.mp fixed
  have matchedEq : matched = grants.map fun grant => (rename grant.1, grant.2) := by
    rw [← List.zip_unzip matched, List.unzip_eq_map, ← bookings, ← moved, List.map_map]
    exact List.zip_map'
  have kept : store.events.entries.map (fun entry => (rename entry.1, entry.2.renamed rename)) =
      store.events.entries := by
    rw [List.map_congr_left (g := id), List.map_id]
    intro entry member
    have ownId := inv.ownId ((Table.get?_eq_some_iff _ entry.1 entry.2).mpr member)
    have own : entry.2.renamed rename = entry.2 := by
      rw [Event.renamed, ownId, stays entry member, ← ownId]
    rw [stays entry member, own, id]
  refine ⟨rename, ?_, ?_⟩
  · intro id event stored
    exact stays (id, event) ((Table.get?_eq_some_iff _ _ _).mp stored)
  · have events : second.events.toMap = after.events.toMap.rekey rename (Event.renamed rename) := by
      apply Table.toMap_rekey
      rw [entriesToo, entries, List.map_append, kept, List.map_map]
      apply List.Perm.append_left
      have moves := (perm.map fun grant => (grant.1, grant.2.event grant.1)).symm
      rwa [matchedEq, List.map_map] at moves
    simp only [view, Agenda.renamed, events, settled.users, settledToo.users]

end

/-- In whatever order bookings of users take effect, each is ruled on once; those that are granted
and what was there do not clash, and each of the others is refused for one of them. Bookings that
clash with nothing are all granted, and the order decides on nothing but their identifiers; of
bookings that clash with each other and with nothing else, one is granted. -/
theorem race_grants {store : Store} (reachable : store.Reachable) {bookings : List Booking}
    (enrolled : ∀ booking ∈ bookings, store.Enrolled booking.owner) :
    ∀ history, store.Race bookings history →
      let rulings := store.rulings history
      let taken := store.taken rulings
      (rulings.map Prod.fst).Perm bookings ∧
      (storage.run history store).2.slots = taken ∧
      (taken.Pairwise fun first second => ¬first.Clash second) ∧
      (∀ ruling ∈ rulings, (∃ id, ruling.2 = .ok (.created id)) ∨
        ruling.2 = .error .dateBusy ∧ ∃ slot ∈ taken, slot.Clash ruling.1.slot) ∧
      (store.ClearFor bookings → bookings ≠ [] → bookings.Pairwise Booking.Clash →
        (rulings.filterMap Ruling.granted?).length = 1) ∧
      (store.ClearFor bookings → (bookings.Pairwise fun first second => ¬first.Clash second) →
        (∀ ruling ∈ rulings, ∃ id, ruling.2 = .ok (.created id)) ∧
        ∀ other, store.Race bookings other → ∃ rename : Equiv.Perm EventId,
          (∀ id event, store.events.get? id = some event → rename id = id) ∧
          (storage.run other store).2.view = (storage.run history store).2.view.renamed rename) := by
  have inv := reachable.invariant
  have settles {history : List (EventId × Call)} (race : store.Race bookings history) :
      store.Settled (store.rulings history) (storage.run history store).2 := by
    apply settled_of_admitted _ race.looked race.admitted
    intro entry member booking booked
    exact enrolled booking
      (race.booked.mem_iff.mp (List.mem_filterMap.mpr ⟨entry, member, booked⟩))
  have ruledOn {history : List (EventId × Call)} (race : store.Race bookings history) :
      ((store.rulings history).map Prod.fst).Perm bookings := by
    rw [rulings_bookings]
    exact race.booked
  intro history race rulings taken
  have settled := settles race
  have ruled := ruledOn race
  have invAfter := run_invariant inv history
  refine ⟨ruled, settled.slots, ?_, ?_, ?_, ?_⟩
  · have apart := invAfter.slots_apart
    rwa [settled.slots] at apart
  · intro ruling member
    cases granted : ruling.granted? with
    | none => exact .inr (settled.refused ruling member granted)
    | some grant =>
      rw [(ruling.granted?_eq_some_iff grant).mp granted]
      exact .inl ⟨grant.1, rfl⟩
  · exact settled.one_granted invAfter ruled
  · intro clear apart
    have granted := settled.all_granted ruled clear apart
    refine ⟨granted, fun other raceToo => ?_⟩
    have settledToo := settles raceToo
    have grantedToo := settledToo.all_granted (ruledOn raceToo) clear apart
    apply settled.same_store inv settledToo
    rw [granted_of_all granted, granted_of_all grantedToo]
    exact ruled.trans (ruledOn raceToo).symm

/-- Two bookings race for ten o'clock, the second one first, with a look in between. -/
theorem race_grants_photo_finish :
    let store := (storage.run [(.ofNat 0, .createUser (Fixture.user "alice"))] .empty).2
    let first :=
      Booking.mk "alice" ⟨"dentist", none, Fixture.moment 9 0, Fixture.moment 10 1, none⟩
    let second :=
      Booking.mk "alice" ⟨"haircut", none, Fixture.moment 10 0, Fixture.moment 11 0, none⟩
    let history := [(EventId.ofNat 2, Call.createEvent second.owner second.fields),
      (.ofNat 0, .getUser "alice"), (.ofNat 1, .createEvent first.owner first.fields)]
    store.Reachable ∧ (∀ booking ∈ [first, second], store.Enrolled booking.owner) ∧
      store.Race [first, second] history ∧ store.ClearFor [first, second] ∧
      [first, second].Pairwise Booking.Clash ∧
      ((store.rulings history).filterMap Ruling.granted?).length = 1 := by
  intro store first second history
  have reachable : store.Reachable := ⟨_, rfl⟩
  have enrolled : ∀ booking ∈ [first, second], store.Enrolled booking.owner := by
    have alice : store.Enrolled "alice" := ⟨Fixture.user "alice", by decide +kernel⟩
    intro booking member
    rcases List.mem_cons.mp member with rfl | member
    · exact alice
    · rw [List.mem_singleton.mp member]
      exact alice
  have race : store.Race [first, second] history := by
    have unused : store.events.get? (.ofNat 2) = none := by decide +kernel
    have unusedToo : (storage.run [(.ofNat 2, .createEvent second.owner second.fields)]
        store).2.events.get? (.ofNat 1) = none := by decide +kernel
    refine ⟨List.Perm.swap _ _ _, ?_, unused, trivial, unusedToo, trivial⟩
    intro entry member unbooked
    rcases List.mem_cons.mp member with rfl | member
    · cases unbooked
    · rcases List.mem_cons.mp member with rfl | member
      · rfl
      · rw [List.mem_singleton.mp member] at unbooked
        cases unbooked
  have clear : store.ClearFor [first, second] := fun slot held => by cases held
  have clash : [first, second].Pairwise Booking.Clash := by
    refine List.pairwise_pair.mpr ⟨rfl, ?_⟩
    decide +kernel
  refine ⟨reachable, enrolled, race, clear, clash, ?_⟩
  obtain ⟨_, _, _, _, one, _⟩ := race_grants reachable enrolled history race
  exact one clear (List.cons_ne_nil _ _) clash

end Store

end Datebook
