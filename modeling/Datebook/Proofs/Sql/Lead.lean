import Datebook.Proofs.Sql.Agreement
import Datebook.Proofs.Sql.Codec

/-!
Lead times in a database.

A lead time is cut to whole microseconds that fit 64 bits without a sign, but an interval of a
database has a sign, so it holds only half of these counts. A write whose lead time fits answers as
if there were none, and the lead time that is read back is the one that a store keeps: `KeepsLead`.
A write with a longer one is refused before anything is sent: `RefusesLead`. Main statement:
`leads_kept_unless_too_long`.
-/

set_option autoImplicit false

namespace Datebook

namespace EventFields

/-- The fields without a lead time. -/
def leadless (fields : EventFields) : EventFields :=
  { fields with lead := none }

/-- The cut to whole microseconds takes no lead time below the limit and leaves none above it. -/
theorem leadTooLong_truncated_iff (fields : EventFields) :
    fields.truncated.LeadTooLong ↔ fields.LeadTooLong := by
  have micros (lead : Duration) :
      lead.truncated.micros = min lead.micros (0x1_0000_0000_0000_0000 - 1) := by
    rw [Duration.micros, Duration.truncated]
    dsimp only
    omega
  constructor
  · rintro ⟨_, cut, long⟩
    obtain ⟨lead, given, rfl⟩ := Option.map_eq_some_iff.mp cut
    refine ⟨lead, given, ?_⟩
    rw [micros] at long
    omega
  · rintro ⟨lead, given, long⟩
    refine ⟨lead.truncated, Option.map_eq_some_iff.mpr ⟨lead, given, rfl⟩, ?_⟩
    rw [micros]
    omega

theorem leadless_fits (fields : EventFields) : ¬fields.leadless.truncated.LeadTooLong := by
  rintro ⟨_, given, _⟩
  cases given

end EventFields

namespace Store

theorem updateEvent_answer (store : Store) (owner : String) (id : EventId) (fields : EventFields) :
    (store.updateEvent owner id fields).1 =
      if (store.owned? owner id).isNone then .error (.eventNotFound id)
      else if store.isBusy owner (fun other => other.id = id) fields.truncated.start
          fields.truncated.stop then
        .error .dateBusy
      else .ok () := by
  unfold updateEvent
  dsimp only
  cases store.owned? owner id with
  | none => rfl
  | some event =>
    dsimp only [Option.isNone_some]
    split <;> rfl

/-- How writes go to a store, which takes any lead time: they answer as without one, and what is
read back has it in whole microseconds. -/
structure TakesLead (store : Store) (owner : String) (id : EventId) (fields : EventFields) :
    Prop where
  created : (store.createEvent id owner fields).1 =
    (store.createEvent id owner fields.leadless).1
  readCreated : ∀ after, store.createEvent id owner fields = (.ok id, after) →
    after.getEvent owner id = .ok ⟨id, owner, fields.truncated⟩
  updated : (store.updateEvent owner id fields).1 =
    (store.updateEvent owner id fields.leadless).1
  readUpdated : ∀ after, store.updateEvent owner id fields = (.ok (), after) →
    after.getEvent owner id = .ok ⟨id, owner, fields.truncated⟩

theorem Invariant.takesLead {store : Store} (inv : store.Invariant) (owner : String) (id : EventId)
    (fields : EventFields) : store.TakesLead owner id fields where
  created := by
    have same : store.refusal? owner fields.leadless.truncated =
        store.refusal? owner fields.truncated := rfl
    rw [createEvent, createEvent, same]
    cases store.refusal? owner fields.truncated <;> rfl
  readCreated after created := by
    rw [createEvent] at created
    cases refused : store.refusal? owner fields.truncated with
    | some cause =>
      rw [refused] at created
      cases created
    | none =>
      rw [refused] at created
      cases created
      simp only [addEvent, getEvent, owned?, Table.get?_insert, if_true, Option.filter_some,
        decide_true]
  updated := by
    rw [updateEvent_answer, updateEvent_answer]
    rfl
  readUpdated after updated := by
    unfold updateEvent at updated
    dsimp only at updated
    split at updated
    · cases updated
    · rename_i event found
      obtain ⟨stored, rfl⟩ := (owned?_eq_some_iff _ _ _ _).mp found
      obtain rfl := inv.ownId stored
      split at updated
      · cases updated
      · cases updated
        simp only [getEvent, owned?, Table.get?_insert, if_true, Event.apply, Option.filter_some,
          decide_true]

end Store

namespace Sql.Calendar

/-- How writes go whose lead time is kept. -/
structure KeepsLead (owner : String) (id : EventId) (fields : EventFields) : Prop where
  /-- An interval is written that is read as the lead time in whole microseconds. -/
  written : ∃ interval, writeLead fields.truncated.lead = .ok interval ∧
    readLead interval = .ok fields.truncated.lead
  /-- A create goes as one without a lead time, but for what it sends. -/
  created : ∀ script, ∃ rest, (createEvent owner fields).course script 0 =
    { (createEvent owner fields.leadless).course script 0 with
      acts := .sent (.insertEvent owner fields.truncated.bound) :: rest }
  updated : ∀ script, ∃ rest, (updateEvent owner id fields).course script 0 =
    { (updateEvent owner id fields.leadless).course script 0 with
      acts := .sent (.updateEvent owner id fields.truncated.bound) :: rest }
  /-- The row of what is sent is read as the event in whole microseconds, its times as they are
  counted. -/
  read : ∀ script result counted, script 0 = .ok result →
    result.rows = [Statement.eventRow id owner fields.truncated.bound] →
    fields.truncated.asCounted? = some counted →
      counted.lead = fields.truncated.lead ∧
        ((getEvent owner id).course script 0).result = .ok ⟨id, owner, counted⟩

/-- How writes go whose lead time is refused: they end before anything is sent. -/
structure RefusesLead (owner : String) (id : EventId) (fields : EventFields) : Prop where
  unwritten : writeLead fields.truncated.lead = .error leadOutOfRange
  created : ∀ script,
    (createEvent owner fields).course script 0 = ⟨[], 0, .error leadOutOfRange⟩
  updated : ∀ script,
    (updateEvent owner id fields).course script 0 = ⟨[], 0, .error leadOutOfRange⟩

variable (owner : String) (id : EventId) {fields : EventFields}

theorem keepsLead (fits : ¬fields.truncated.LeadTooLong) : KeepsLead owner id fields where
  written := ⟨_, writeLead_of_fits (truncated_lead_fits fits),
    readLead_of_fits (truncated_lead_fits fits)⟩
  created script := by
    obtain ⟨last, rest, endsFrom, course⟩ := createEvent_course_of_fits script owner fits
    obtain ⟨_, _, endsFromToo, plain⟩ :=
      createEvent_course_of_fits script owner fields.leadless_fits
    refine ⟨rest, ?_⟩
    rw [course, plain, endsFrom.unique endsFromToo]
  updated script := by
    obtain ⟨last, rest, endsFrom, course⟩ := updateEvent_course_of_fits script owner id fits
    obtain ⟨_, _, endsFromToo, plain⟩ :=
      updateEvent_course_of_fits script owner id fields.leadless_fits
    refine ⟨rest, ?_⟩
    rw [course, plain, endsFrom.unique endsFromToo]
  read script result counted replied rows count := by
    constructor
    · obtain ⟨_, _, _, _, rfl⟩ := EventFields.asCounted?_eq_some_iff.mp count
      rfl
    · rw [getEvent_result script replied rows]
      exact readEvent_eventRow id owner fits count

theorem refusesLead (long : fields.truncated.LeadTooLong) : RefusesLead owner id fields where
  unwritten := writeLead_of_leadTooLong long
  created script := createEvent_course_of_long script owner long
  updated script := updateEvent_course_of_long script owner id long

/-- A lead time of which an interval holds the whole microseconds is kept: it makes no write fail,
and the one that is read back is the one that a store has kept. Any longer one is refused before
anything is sent, although a store takes it. -/
theorem leads_kept_unless_too_long (fields : EventFields) :
    (¬fields.LeadTooLong ∧ KeepsLead owner id fields ∨
      fields.LeadTooLong ∧ RefusesLead owner id fields) ∧
    ∀ store : Store, store.Reachable → store.TakesLead owner id fields := by
  refine ⟨?_, fun _ reachable => reachable.invariant.takesLead owner id fields⟩
  by_cases long : fields.truncated.LeadTooLong
  · exact .inr ⟨fields.leadTooLong_truncated_iff.mp long, refusesLead owner id long⟩
  · exact .inl ⟨mt fields.leadTooLong_truncated_iff.mpr long, keepsLead owner id long⟩

/-- A quarter of an hour is kept by a database and by a store. -/
theorem leads_kept_unless_too_long_quarter :
    let call := EventFields.mk "call" none (Fixture.moment 11 0) (Fixture.moment 12 0)
      (Duration.ofNanos? 900000000000)
    let store := (Store.storage.run [(.ofNat 0, .createUser (Fixture.user "alice"))] .empty).2
    store.Reachable ∧ KeepsLead "alice" (.ofNat 1) call ∧
      (store.createEvent (.ofNat 1) "alice" call).2.getEvent "alice" (.ofNat 1) =
        .ok ⟨.ofNat 1, "alice", call⟩ := by
  intro call store
  have reachable : store.Reachable := ⟨_, rfl⟩
  have created : (store.createEvent (.ofNat 1) "alice" call).1 = .ok (.ofNat 1) := by
    decide +kernel
  have whole : call.truncated = call := by decide +kernel
  obtain ⟨⟨_, keeps⟩ | ⟨⟨lead, given, long⟩, _⟩, stores⟩ :=
    leads_kept_unless_too_long "alice" (.ofNat 1) call
  · have read := (stores store reachable).readCreated
      (store.createEvent (.ofNat 1) "alice" call).2 (Prod.ext created rfl)
    rw [whole] at read
    exact ⟨reachable, keeps, read⟩
  · cases given
    exact absurd long (by decide)

/-- The shortest lead time that is too long: the cut to whole microseconds leaves it, no interval
holds it, and a create fails that a store takes. -/
theorem createEvent_fails_for_lead :
    let jubilee := EventFields.mk "jubilee" none (Fixture.moment 9 0) (Fixture.moment 10 0)
      (Duration.ofNanos? 9223372036854775808000)
    let history := [(EventId.ofNat 0, Call.createUser (Fixture.user "alice")),
      (.ofNat 1, .createEvent "alice" jubilee)]
    writeLead jubilee.truncated.lead = .error leadOutOfRange ∧
    answers Database.execute history .empty = [.ok .nothing, .error leadOutOfRange] ∧
    (Store.storage.run history .empty).1 = [.ok .nothing, .ok (.created (.ofNat 1))] := by
  decide +kernel

end Sql.Calendar

end Datebook
