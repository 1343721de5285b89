import Datebook.Proofs.Store.Agenda
import Mathlib.Data.List.Nodup
import Mathlib.Logic.Equiv.Basic

/-!
Calendars under other identifiers.

Which identifiers events get is a matter of chance, so calendars are compared up to a one-to-one
renaming of identifiers. The rules of a calendar look at identifiers only to tell them apart:
`Outcome.renamed` carries each outcome over to the renamed calendar. `exists_renaming` finds a
renaming that takes some identifiers to given ones.
-/

set_option autoImplicit false

namespace Datebook

variable (rename : Equiv.Perm EventId)

def Event.renamed (event : Event) : Event :=
  { event with id := rename event.id }

def StorageError.renamed : StorageError → StorageError
  | .eventNotFound id => .eventNotFound (rename id)
  | other => other

def Answer.renamed : Answer → Answer
  | .created id => .created (rename id)
  | .event found => .event (found.renamed rename)
  | .events listed => .events (listed.map (Event.renamed rename))
  | other => other

def Call.renamed : Call → Call
  | .getEvent owner id => .getEvent owner (rename id)
  | .updateEvent owner id fields => .updateEvent owner (rename id) fields
  | .deleteEvent owner id => .deleteEvent owner (rename id)
  | other => other

/-- The outcome of a call under other identifiers. -/
def renamedOutcome : Except StorageError Answer → Except StorageError Answer
  | .ok answer => .ok (answer.renamed rename)
  | .error cause => .error (cause.renamed rename)

theorem Event.renamed_injective : Function.Injective (Event.renamed rename) := by
  intro first second same
  simp only [Event.renamed, Event.mk.injEq, EmbeddingLike.apply_eq_iff_eq] at same
  cases first
  cases second
  simpa only [Event.mk.injEq] using same

/-- Distinct identifiers can be renamed to any others that are distinct. -/
theorem exists_renaming {old new : List EventId} (oldOnce : old.Nodup) (newOnce : new.Nodup)
    (matched : old.length = new.length) : ∃ rename : Equiv.Perm EventId, old.map rename = new := by
  induction old generalizing new with
  | nil => exact ⟨Equiv.refl _, (List.eq_nil_of_length_eq_zero matched.symm).symm⟩
  | cons id ids ih =>
    cases new with
    | nil => cases matched
    | cons wanted others =>
      rw [List.nodup_cons] at oldOnce newOnce
      obtain ⟨earlier, rfl⟩ := ih oldOnce.2 newOnce.2 (Nat.succ.inj matched)
      -- What the renaming so far makes of the new identifier changes places with what is wanted.
      refine ⟨earlier.trans (Equiv.swap (earlier id) wanted), ?_⟩
      rw [List.map_cons, Equiv.trans_apply, Equiv.swap_apply_left, List.cons_inj_right]
      apply List.map_congr_left
      intro other member
      have differ : earlier other ≠ earlier id := fun same =>
        oldOnce.1 (earlier.injective same ▸ member)
      have free : earlier other ≠ wanted := fun same =>
        newOnce.1 (same ▸ List.mem_map.mpr ⟨other, member, rfl⟩)
      rw [Equiv.trans_apply, Equiv.swap_apply_of_ne_of_ne differ free]

namespace FiniteMap

variable {κ α β : Type} (rename : Equiv.Perm κ)

/-- A map under other keys, its values changed along with them. -/
def rekey (map : FiniteMap κ α) (change : α → β) : FiniteMap κ β where
  lookup key := (map.lookup (rename.symm key)).map change
  finite := by
    obtain ⟨keys, complete⟩ := map.finite
    refine ⟨keys.map rename, ?_⟩
    intro key value found
    obtain ⟨source, present, _⟩ := Option.map_eq_some_iff.mp found
    exact List.mem_map.mpr ⟨rename.symm key, complete _ _ present, rename.apply_symm_apply key⟩

theorem lookup_rekey (map : FiniteMap κ α) (change : α → β) (key : κ) :
    (map.rekey rename change).lookup (rename key) = (map.lookup key).map change := by
  simp only [rekey, Equiv.symm_apply_apply]

theorem rekey_set [DecidableEq κ] (map : FiniteMap κ α) (change : α → β) (key : κ) (value : α) :
    (map.set key value).rekey rename change =
      (map.rekey rename change).set (rename key) (change value) := by
  apply ext_lookup
  funext other
  obtain ⟨source, rfl⟩ := rename.surjective other
  simp only [set, lookup_rekey, EmbeddingLike.apply_eq_iff_eq]
  split <;> rfl

theorem rekey_keep (map : FiniteMap κ α) (change : α → β) (wanted : κ → α → Bool)
    (wantedToo : κ → β → Bool)
    (agree : ∀ key value, wantedToo (rename key) (change value) = wanted key value) :
    (map.keep wanted).rekey rename change = (map.rekey rename change).keep wantedToo := by
  apply ext_lookup
  funext other
  obtain ⟨source, rfl⟩ := rename.surjective other
  simp only [keep, lookup_rekey]
  cases map.lookup source with
  | none => rfl
  | some value =>
    simp only [Option.map_some, Option.filter_some, agree]
    split <;> rfl

theorem rekey_erase [DecidableEq κ] (map : FiniteMap κ α) (change : α → β) (key : κ) :
    (map.erase key).rekey rename change = (map.rekey rename change).erase (rename key) := by
  apply rekey_keep
  intro other _
  simp only [ne_eq, EmbeddingLike.apply_eq_iff_eq]

end FiniteMap

namespace Agenda

def renamed (agenda : Agenda) : Agenda :=
  { agenda with events := agenda.events.rekey rename (Event.renamed rename) }

variable {rename}

theorem lookup_renamed (agenda : Agenda) (id : EventId) :
    (agenda.renamed rename).events.lookup (rename id) =
      (agenda.events.lookup id).map (Event.renamed rename) :=
  FiniteMap.lookup_rekey rename _ _ id

theorem Owns.renamed {agenda : Agenda} {owner : String} {id : EventId} {event : Event}
    (owned : agenda.Owns owner id event) :
    (agenda.renamed rename).Owns owner (rename id) (event.renamed rename) :=
  ⟨by rw [lookup_renamed, owned.1, Option.map_some], owned.2⟩

theorem owns_renamed {agenda : Agenda} {owner : String} {id : EventId} {event : Event}
    (owned : (agenda.renamed rename).Owns owner (rename id) event) :
    ∃ source, agenda.Owns owner id source ∧ source.renamed rename = event := by
  obtain ⟨found, same⟩ := owned
  rw [lookup_renamed] at found
  obtain ⟨source, present, rfl⟩ := Option.map_eq_some_iff.mp found
  exact ⟨source, ⟨present, same⟩, rfl⟩

theorem missing_renamed {agenda : Agenda} {owner : String} {id : EventId}
    (missing : ¬∃ event, agenda.Owns owner id event) :
    ¬∃ event, (agenda.renamed rename).Owns owner (rename id) event := by
  rintro ⟨event, owned⟩
  obtain ⟨source, present, _⟩ := owns_renamed owned
  exact missing ⟨source, present⟩

theorem busy_renamed (agenda : Agenda) (owner : String) (passOver : Option EventId)
    (start stop : Instant) :
    (agenda.renamed rename).Busy owner (passOver.map rename) start stop ↔
      agenda.Busy owner passOver start stop := by
  have counted (id : EventId) : passOver.map rename ≠ some (rename id) ↔ passOver ≠ some id := by
    rw [← Option.map_some, (Option.map_injective rename.injective).ne_iff]
  constructor
  · rintro ⟨other, event, owned, otherwise, overlapping⟩
    obtain ⟨id, rfl⟩ := rename.surjective other
    obtain ⟨source, present, rfl⟩ := owns_renamed owned
    exact ⟨id, source, present, (counted id).mp otherwise, overlapping⟩
  · rintro ⟨id, event, owned, otherwise, overlapping⟩
    exact ⟨rename id, event.renamed rename, owned.renamed, (counted id).mpr otherwise, overlapping⟩

/-- The wanted events are listed under their other names. -/
theorem Lists.renamed {agenda : Agenda} {wanted : Event → Prop} {order : Instant → Instant → Prop}
    {listed : List Event} (lists : agenda.Lists wanted order listed)
    (blind : ∀ event, wanted (event.renamed rename) ↔ wanted event) :
    (agenda.renamed rename).Lists wanted order (listed.map (Event.renamed rename)) where
  once := List.Nodup.map (Event.renamed_injective rename) lists.once
  mem_iff event := by
    rw [List.mem_map]
    constructor
    · rintro ⟨source, member, rfl⟩
      obtain ⟨⟨id, found⟩, fits⟩ := (lists.mem_iff source).mp member
      refine ⟨⟨rename id, ?_⟩, (blind source).mpr fits⟩
      rw [lookup_renamed, found, Option.map_some]
    · rintro ⟨⟨other, found⟩, fits⟩
      obtain ⟨id, rfl⟩ := rename.surjective other
      rw [lookup_renamed] at found
      obtain ⟨source, present, rfl⟩ := Option.map_eq_some_iff.mp found
      exact ⟨source, (lists.mem_iff source).mpr ⟨⟨id, present⟩, (blind source).mp fits⟩, rfl⟩
  ordered := List.pairwise_map.mpr lists.ordered

/-- What the rules allow does not depend on which identifiers events have. -/
theorem Outcome.renamed {before after : Agenda} {fresh : EventId} {call : Call}
    {answer : Except StorageError Answer} (outcome : Outcome before fresh call answer after) :
    Outcome (before.renamed rename) (rename fresh) (call.renamed rename)
      (renamedOutcome rename answer) (after.renamed rename) := by
  cases outcome with
  | nameTaken known => exact .nameTaken known
  | userCreated unknown => exact .userCreated unknown
  | userFound found => exact .userFound found
  | userMissing unknown => exact .userMissing unknown
  | @userDeleted name known =>
    have events : (before.events.keep fun _ event => event.owner ≠ name).rekey rename
        (Event.renamed rename) = (before.renamed rename).events.keep
          fun _ event => event.owner ≠ name :=
      FiniteMap.rekey_keep rename _ _ _ _ fun _ _ => rfl
    simp only [Agenda.renamed, events]
    exact .userDeleted known
  | nobodyToDelete unknown => exact .nobodyToDelete unknown
  | ownerMissing unknown => exact .ownerMissing unknown
  | slotTaken known busy => exact .slotTaken known ((busy_renamed _ _ none _ _).mpr busy)
  | eventCreated known idle unused =>
    simp only [Agenda.renamed, FiniteMap.rekey_set]
    refine .eventCreated known (fun busy => idle ((busy_renamed _ _ none _ _).mp busy)) ?_
    have absent : (before.renamed rename).events.lookup (rename fresh) = _ :=
      before.lookup_renamed fresh
    rwa [unused] at absent
  | eventFound owned => exact .eventFound owned.renamed
  | eventMissing missing => exact .eventMissing (missing_renamed missing)
  | nothingToUpdate missing => exact .nothingToUpdate (missing_renamed missing)
  | newSlotTaken owned busy =>
    exact .newSlotTaken owned.renamed ((busy_renamed _ _ (some _) _ _).mpr busy)
  | eventUpdated owned idle =>
    simp only [Agenda.renamed, FiniteMap.rekey_set]
    exact .eventUpdated owned.renamed (fun busy => idle ((busy_renamed _ _ (some _) _ _).mp busy))
  | nothingToDelete missing => exact .nothingToDelete (missing_renamed missing)
  | eventDeleted owned =>
    simp only [Agenda.renamed, FiniteMap.rekey_erase]
    exact .eventDeleted owned.renamed
  | eventsListed lists => exact .eventsListed (lists.renamed fun _ => Iff.rfl)
  | dueListed lists => exact .dueListed (lists.renamed fun _ => Iff.rfl)
  | closed =>
    have blank : Agenda.empty.renamed rename = .empty := rfl
    rw [blank]
    exact .closed

end Agenda

end Datebook
