import Datebook.Fixture
import Datebook.Proofs.Sql.Traffic

/-!
Updates among other clients.

An update that affects nothing asks in a second statement whether the event exists, and others may
act in between. `Standing` says how far an update has come and what is known of the event by then,
`Reports` what an answer tells about the moments of the two statements. Main statement: whatever the
clients of a database do, each update reports truly, `Traffic.update_tells_why`. A conflict is
reported as a missing event only when the event was deleted between the two statements.
-/

set_option autoImplicit false

namespace Datebook.Sql

/-- A failure that is no clash is no lost race either. -/
theorem Failure.isContended_eq_false {failure : Failure} (cause : failure.isConflict = false) :
    failure.isContended = false :=
  (Bool.or_eq_false_iff.mp cause).2

namespace Tables

variable {before after : Tables} {drawn : EventId} {reply : Reply} {owner : String} {id : EventId}
  {fields : BoundFields}

/-- What clears the condition of an update does not break the rule against overlaps. -/
theorem Breaks.isConflict_eq_false {code : String}
    (clear : ¬before.Clashes owner (some id) fields.start fields.stop)
    (breaks : before.Breaks id ⟨owner, fields⟩ code) (message : String) :
    (Failure.database code message).isConflict = false := by
  cases breaks with
  | unknownOwner | inverted => rfl
  | @overlap other old held differ overlaps =>
    have apart : max fields.start.micros old.fields.start.micros <
      min fields.stop.micros old.fields.stop.micros := overlaps
    refine absurd ⟨other, old, held, fun same => differ (Option.some.inj same).symm, ?_⟩ clear
    exact ⟨by omega, by omega⟩

/-- An update fails, finds nothing to change or changes its row and nothing else. -/
theorem Serves.update (served : before.Serves drawn (.updateEvent owner id fields) reply after) :
    (∃ failure, reply = .error failure ∧ failure.isConflict = false ∧ after = before) ∨
    (∃ result, reply = .ok result ∧ result.affected = 0 ∧ after = before ∧
      (before.Has owner id → before.Clashes owner (some id) fields.start fields.stop)) ∨
    (∃ result, reply = .ok result ∧ result.affected = 1 ∧ before.Has owner id ∧
      after = { before with events := before.events.set id ⟨owner, fields⟩ }) := by
  cases served with
  | failed cause => exact .inl ⟨_, rfl, cause, rfl⟩
  | executed executes =>
    cases executes with
    | updateSkipped unmatched affected => exact .inr (.inl ⟨_, rfl, affected, rfl, unmatched⟩)
    | updateRefused _ clear breaks =>
      exact .inl ⟨_, rfl, breaks.isConflict_eq_false clear _, rfl⟩
    | eventUpdated held _ _ affected => exact .inr (.inr ⟨_, rfl, affected, ⟨_, held⟩, rfl⟩)

/-- A check for an event fails, or has a row exactly when the event is there. -/
theorem Serves.check (served : before.Serves drawn (.eventExists owner id) reply after) :
    after = before ∧
    ((∃ failure, reply = .error failure) ∨
      ∃ result, reply = .ok result ∧ (result.rows.isEmpty = false ↔ before.Has owner id)) := by
  cases served with
  | failed => exact ⟨rfl, .inl ⟨_, rfl⟩⟩
  | executed executes =>
    cases executes with
    | eventExists held rows =>
      refine ⟨rfl, .inr ⟨_, rfl, ?_⟩⟩
      rw [rows]
      exact iff_of_true rfl ⟨_, held⟩
    | noEventExists missing rows =>
      refine ⟨rfl, .inr ⟨_, rfl, ?_⟩⟩
      rw [rows]
      exact iff_of_false nofun missing

end Tables

namespace Calendar

variable (owner : String) (id : EventId) {fields : EventFields} {bound : BoundFields}

/-- Fields that cannot be stored are a matter of the backend. -/
theorem bindFields_error {cause : StorageError} (unbound : bindFields fields = .error cause) :
    ∃ reason, cause = .backend reason := by
  cases lead : fields.truncated.lead with
  | none =>
    simp only [bindFields, lead, writeLead] at unbound
    cases unbound
  | some span =>
    cases converted : Interval.ofDuration? span with
    | some interval =>
      simp only [bindFields, lead, writeLead, converted] at unbound
      cases unbound
    | none =>
      simp only [bindFields, lead, writeLead, converted] at unbound
      cases unbound
      exact ⟨_, rfl⟩

/-- An update of what cannot be stored ends at once. -/
theorem ahead_updateEvent_error {cause : StorageError}
    (unbound : bindFields fields = .error cause) :
    (perform (.updateEvent owner id fields)).ahead = .inl (.error cause) := by
  rw [perform, updateEvent, unbound]
  rfl

/-- A write that loses no race for locks is sent once. -/
theorem ahead_sendWrite (statement : Statement) :
    ∃ next, (sendWrite statement).ahead = .inr (statement, next) ∧
      ∀ reply, (∀ failure, reply = .error failure → failure.isContended = false) →
        next reply = .done reply := by
  have retries : contentionPolicy.maxRetries = 2 := rfl
  rw [sendWrite, retryIf, retries]
  refine ⟨_, rfl, fun reply alone => ?_⟩
  cases reply with
  | ok result => rfl
  | error failure =>
    dsimp only [Dialogue.bind]
    rw [alone failure rfl]
    rfl

/-- An update sends its statement first, and then goes by what that affected. -/
theorem ahead_updateEvent (binds : bindFields fields = .ok bound) :
    ∃ next, (perform (.updateEvent owner id fields)).ahead =
        .inr (.updateEvent owner id bound, next) ∧
      ∀ reply, (∀ failure, reply = .error failure → failure.isContended = false) →
        next reply = answerWith (fun _ => .nothing) (updated owner id reply) := by
  obtain ⟨next, sends, settles⟩ := ahead_sendWrite (.updateEvent owner id bound)
  have rest : (updateEvent owner id fields).ahead =
      ((sendWrite (.updateEvent owner id bound)).bind (updated owner id)).ahead := by
    rw [updateEvent, binds]
    rfl
  rw [perform, answerWith, Dialogue.ahead_bind, rest, Dialogue.ahead_bind, sends]
  refine ⟨_, rfl, fun reply alone => ?_⟩
  dsimp only
  rw [settles reply alone]
  rfl

/-- The answer to an update that changed its row. -/
theorem ahead_updated_ok {result : Result} (affected : result.affected = 1) :
    (answerWith (fun _ => .nothing) (updated owner id (.ok result))).ahead =
      .inl (.ok .nothing) := by
  rw [updated, affected]
  rfl

/-- The answer to an update that failed. -/
theorem ahead_updated_error {failure : Failure} (cause : failure.isConflict = false) :
    ∃ reason, (answerWith (fun _ => .nothing) (updated owner id (.error failure))).ahead =
      .inl (.error (.backend reason)) := by
  rw [updated, cause]
  exact ⟨_, rfl⟩

/-- An update that affected nothing asks whether the event exists, and goes by that. -/
theorem ahead_updated_unmatched {result : Result} (affected : result.affected = 0) :
    ∃ next, (answerWith (fun _ => .nothing) (updated owner id (.ok result))).ahead =
        .inr (.eventExists owner id, next) ∧
      (∀ failure, ∃ reason, (next (.error failure)).ahead = .inl (.error (.backend reason))) ∧
      ∀ result, (next (.ok result)).ahead =
        .inl (.error (if result.rows.isEmpty then .eventNotFound id else .dateBusy)) := by
  rw [updated, affected]
  refine ⟨_, rfl, fun failure => ⟨_, rfl⟩, fun result => ?_⟩
  dsimp only [Dialogue.bind]
  cases result.rows.isEmpty <;> rfl

end Calendar

open Calendar

/-- The statement takes an event of an owner away. -/
def Exchange.Removes (exchange : Exchange) (owner : String) (id : EventId) : Prop :=
  exchange.statement.Deletes owner id ∧ exchange.before.Has owner id ∧ ¬exchange.after.Has owner id

variable {tables after : Tables} {exchanges : List Exchange} {owner : String} {id : EventId}
  {fields : EventFields} {said : List Exchange} {answer : Except StorageError Answer}
  {rest : Dialogue (Except StorageError Answer)}

/-- What is known of an event since a statement: it has not come back, and it is gone only if it was
deleted. -/
structure Since (tables : Tables) (exchanges : List Exchange) (owner : String) (id : EventId)
    (first : Exchange) : Prop where
  absent : ¬first.before.Has owner id → ¬tables.Has owner id
  present : first.before.Has owner id → ¬tables.Has owner id →
    ∃ later ∈ exchanges, first.moment < later.moment ∧ later.Removes owner id

/-- What an answer to an update tells about the moments of its statements. -/
inductive Reports (exchanges : List Exchange) (owner : String) (id : EventId)
    (fields : EventFields) : List Exchange → Except StorageError Answer → Prop
  | unstorable {reason : String} (unbound : bindFields fields = .error (.backend reason)) :
    Reports exchanges owner id fields [] (.error (.backend reason))
  | changed {only : Exchange} {bound : BoundFields} (binds : bindFields fields = .ok bound)
    (update : only.statement = .updateEvent owner id bound) (held : only.before.Has owner id)
    (put : only.after =
      { only.before with events := only.before.events.set id ⟨owner, bound⟩ }) :
    Reports exchanges owner id fields [only] (.ok .nothing)
  | refused {only : Exchange} {failure : Failure} {reason : String}
    (replied : only.reply = .error failure) (unchanged : only.after = only.before) :
    Reports exchanges owner id fields [only] (.error (.backend reason))
  | busy {first second : Exchange} {bound : BoundFields} (binds : bindFields fields = .ok bound)
    (update : first.statement = .updateEvent owner id bound)
    (unchanged : first.after = first.before) (unchangedToo : second.after = second.before)
    (held : first.before.Has owner id)
    (clash : first.before.Clashes owner (some id) bound.start bound.stop) :
    Reports exchanges owner id fields [first, second] (.error .dateBusy)
  | gone {first second : Exchange} {bound : BoundFields} (binds : bindFields fields = .ok bound)
    (update : first.statement = .updateEvent owner id bound)
    (check : second.statement = .eventExists owner id) (unchanged : first.after = first.before)
    (unchangedToo : second.after = second.before) (missing : ¬second.before.Has owner id)
    (deleted : first.before.Has owner id →
      first.before.Clashes owner (some id) bound.start bound.stop ∧
      ∃ between ∈ exchanges, first.moment < between.moment ∧ between.moment < second.moment ∧
        between.Removes owner id) :
    Reports exchanges owner id fields [first, second] (.error (.eventNotFound id))
  | unasked {first second : Exchange} {failure : Failure} {reason : String}
    (replied : second.reply = .error failure) (unchanged : first.after = first.before)
    (unchangedToo : second.after = second.before) :
    Reports exchanges owner id fields [first, second] (.error (.backend reason))

/-- How far an update has come. -/
inductive Standing (tables : Tables) (exchanges : List Exchange) (owner : String) (id : EventId)
    (fields : EventFields) : Dialogue (Except StorageError Answer) → List Exchange → Prop
  | begun : Standing tables exchanges owner id fields (perform (.updateEvent owner id fields)) []
  | unmatched {first : Exchange} {bound : BoundFields} {result : Result}
    (binds : bindFields fields = .ok bound)
    (update : first.statement = .updateEvent owner id bound) (affected : result.affected = 0)
    (unchanged : first.after = first.before)
    (clash : first.before.Has owner id →
      first.before.Clashes owner (some id) bound.start bound.stop)
    (since : Since tables exchanges owner id first) :
    Standing tables exchanges owner id fields
      (answerWith (fun _ => .nothing) (updated owner id (.ok result))) [first]
  | told {rest : Dialogue (Except StorageError Answer)} {said : List Exchange}
    {answer : Except StorageError Answer} (ahead : rest.ahead = .inl answer)
    (reports : Reports exchanges owner id fields said answer) :
    Standing tables exchanges owner id fields rest said

theorem Reports.cons (reports : Reports exchanges owner id fields said answer)
    (latest : Exchange) : Reports (latest :: exchanges) owner id fields said answer := by
  cases reports with
  | unstorable unbound => exact .unstorable unbound
  | changed binds update held put => exact .changed binds update held put
  | refused replied unchanged => exact .refused replied unchanged
  | busy binds update unchanged unchangedToo held clash =>
    exact .busy binds update unchanged unchangedToo held clash
  | gone binds update check unchanged unchangedToo missing deleted =>
    refine .gone binds update check unchanged unchangedToo missing fun held => ?_
    obtain ⟨clash, between, mem, rest⟩ := deleted held
    exact ⟨clash, between, .tail _ mem, rest⟩
  | unasked replied unchanged unchangedToo => exact .unasked replied unchanged unchangedToo

/-- An update that fails changes nothing. -/
theorem Reports.unchanged {cause : StorageError}
    (reports : Reports exchanges owner id fields said (.error cause)) :
    ∀ x ∈ said, x.after = x.before := by
  cases reports with
  | unstorable => exact List.forall_mem_nil _
  | refused _ unchanged => exact List.forall_mem_singleton.mpr unchanged
  | busy _ _ unchanged unchangedToo | gone _ _ _ unchanged unchangedToo
  | unasked _ unchanged unchangedToo =>
    exact List.forall_mem_cons.mpr ⟨unchanged, List.forall_mem_singleton.mpr unchangedToo⟩

/-- One more statement, of any client. -/
theorem Since.cons {first latest : Exchange} {drawn : EventId}
    (since : Since latest.before exchanges owner id first)
    (changes : latest.before.Changes drawn latest.statement latest.after)
    (fresh : latest.statement.draws = true → drawn ≠ id) (early : first.moment < latest.moment) :
    Since latest.after (latest :: exchanges) owner id first where
  absent missing has := since.absent missing (changes.has_before fresh has)
  present held gone := by
    by_cases has : latest.before.Has owner id
    · exact ⟨latest, .head _, early, changes.deletes has gone, has, gone⟩
    · obtain ⟨later, mem, rest⟩ := since.present held has
      exact ⟨later, .tail _ mem, rest⟩

/-- An update stands where it stood after a statement of another client. -/
theorem Standing.cons {latest : Exchange} {drawn : EventId}
    (standing : Standing latest.before exchanges owner id fields rest said)
    (changes : latest.before.Changes drawn latest.statement latest.after)
    (fresh : latest.statement.draws = true → drawn ≠ id)
    (early : ∀ earlier ∈ said, earlier.moment < latest.moment) :
    Standing latest.after (latest :: exchanges) owner id fields rest said := by
  cases standing with
  | begun => exact .begun
  | unmatched binds update affected unchanged clash since =>
    exact .unmatched binds update affected unchanged clash
      (since.cons changes fresh (early _ (.head _)))
  | told ahead reports => exact .told ahead (reports.cons latest)

/-- How an update stands after its first statement. -/
theorem Standing.first {latest : Exchange} {drawn : EventId} {bound : BoundFields}
    {next : Reply → Dialogue (Except StorageError Answer)} (binds : bindFields fields = .ok bound)
    (update : latest.statement = .updateEvent owner id bound)
    (settles : ∀ reply, (∀ failure, reply = .error failure → failure.isContended = false) →
      next reply = answerWith (fun _ => .nothing) (updated owner id reply))
    (served : latest.before.Serves drawn latest.statement latest.reply latest.after) :
    Standing latest.after (latest :: exchanges) owner id fields (next latest.reply) [latest] := by
  rw [update] at served
  rcases served.update with ⟨failure, replied, cause, unchanged⟩ |
    ⟨result, replied, affected, unchanged, clash⟩ | ⟨result, replied, affected, held, put⟩
  · have calm : failure.isContended = false := Failure.isContended_eq_false cause
    rw [replied, settles (.error failure) fun _ same => Except.error.inj same ▸ calm]
    obtain ⟨reason, ends⟩ := ahead_updated_error owner id cause
    exact .told ends (.refused replied unchanged)
  · rw [replied, settles (.ok result) nofun]
    refine .unmatched binds update affected unchanged clash ⟨?_, ?_⟩
    · exact fun missing has => missing (unchanged ▸ has)
    · exact fun held gone => absurd (unchanged ▸ held) gone
  · rw [replied, settles (.ok result) nofun]
    exact .told (ahead_updated_ok owner id affected) (.changed binds update held put)

/-- How an update stands after its second statement. -/
theorem Standing.second {first latest : Exchange} {drawn : EventId} {bound : BoundFields}
    {next : Reply → Dialogue (Except StorageError Answer)} (binds : bindFields fields = .ok bound)
    (update : first.statement = .updateEvent owner id bound)
    (unchanged : first.after = first.before)
    (clash : first.before.Has owner id →
      first.before.Clashes owner (some id) bound.start bound.stop)
    (since : Since latest.before exchanges owner id first)
    (check : latest.statement = .eventExists owner id)
    (fails : ∀ failure, ∃ reason, (next (.error failure)).ahead = .inl (.error (.backend reason)))
    (tells : ∀ result, (next (.ok result)).ahead =
      .inl (.error (if result.rows.isEmpty then .eventNotFound id else .dateBusy)))
    (served : latest.before.Serves drawn latest.statement latest.reply latest.after)
    (earlier : ∀ x ∈ exchanges, x.moment < latest.moment) :
    Standing latest.after (latest :: exchanges) owner id fields (next latest.reply)
      [first, latest] := by
  rw [check] at served
  obtain ⟨unchangedToo, ⟨failure, replied⟩ | ⟨result, replied, exists_iff⟩⟩ := served.check
  · obtain ⟨reason, ends⟩ := fails failure
    exact .told (replied ▸ ends) (.unasked replied unchanged unchangedToo)
  · have ends := tells result
    rw [← replied] at ends
    cases empty : result.rows.isEmpty with
    | false =>
      rw [empty] at ends
      have held : first.before.Has owner id :=
        Classical.byContradiction fun missing => since.absent missing (exists_iff.mp empty)
      exact .told ends (.busy binds update unchanged unchangedToo held (clash held))
    | true =>
      rw [empty] at ends
      have missing : ¬latest.before.Has owner id := fun has => by
        rw [exists_iff.mpr has] at empty
        cases empty
      refine .told ends (.gone binds update check unchanged unchangedToo missing fun held => ?_)
      obtain ⟨between, mem, after, removes⟩ := since.present held missing
      exact ⟨clash held, between, .tail _ mem, after, earlier between mem, removes⟩

/-- An update comes further by its own statements. -/
theorem Standing.asks {latest : Exchange} {drawn : EventId}
    {next : Reply → Dialogue (Except StorageError Answer)}
    (standing : Standing latest.before exchanges owner id fields rest said)
    (ahead : rest.ahead = .inr (latest.statement, next))
    (served : latest.before.Serves drawn latest.statement latest.reply latest.after)
    (earlier : ∀ x ∈ exchanges, x.moment < latest.moment) :
    Standing latest.after (latest :: exchanges) owner id fields (next latest.reply)
      (said ++ [latest]) := by
  cases standing with
  | begun =>
    cases binds : bindFields fields with
    | error cause =>
      rw [ahead_updateEvent_error owner id binds] at ahead
      cases ahead
    | ok bound =>
      obtain ⟨goOn, sends, settles⟩ := ahead_updateEvent owner id binds
      obtain ⟨update, rfl⟩ := Prod.mk.inj (Sum.inr.inj (sends.symm.trans ahead))
      exact .first binds update.symm settles served
  | unmatched binds update affected unchanged clash since =>
    obtain ⟨goOn, sends, fails, tells⟩ :=
      ahead_updated_unmatched owner id affected
    obtain ⟨check, rfl⟩ := Prod.mk.inj (Sum.inr.inj (sends.symm.trans ahead))
    exact .second binds update unchanged clash since check.symm fails tells served earlier
  | told ends reports =>
    rw [ends] at ahead
    cases ahead

/-- An update that comes to its end reports truly. -/
theorem Standing.ends (standing : Standing tables exchanges owner id fields rest said)
    (ahead : rest.ahead = .inl answer) : Reports exchanges owner id fields said answer := by
  cases standing with
  | begun =>
    cases binds : bindFields fields with
    | error cause =>
      obtain ⟨reason, rfl⟩ := bindFields_error binds
      rw [ahead_updateEvent_error owner id binds] at ahead
      cases ahead
      exact .unstorable binds
    | ok bound =>
      obtain ⟨next, sends, -⟩ := ahead_updateEvent owner id binds
      rw [sends] at ahead
      cases ahead
  | unmatched _ _ affected =>
    obtain ⟨next, sends, -⟩ := ahead_updated_unmatched owner id affected
    rw [sends] at ahead
    cases ahead
  | told ends reports =>
    rw [ends] at ahead
    cases ahead
    exact reports

/-- What holds of a call in progress: it has seen only statements that took effect, and an update
names an identifier that was drawn and stands as it should. -/
structure Session.Sound (tables : Tables) (exchanges : List Exchange) (ids : List EventId)
    (session : Session) : Prop where
  seen : ∀ x ∈ session.said, x ∈ exchanges
  drawn : ∀ owner id fields, session.call = .updateEvent owner id fields → id ∈ ids
  standing : ∀ owner id fields, session.call = .updateEvent owner id fields →
    Standing tables exchanges owner id fields session.rest session.said

/-- What holds of a call that has ended. -/
structure Closing.Sound (exchanges : List Exchange) (closing : Closing) : Prop where
  seen : ∀ x ∈ closing.said, x ∈ exchanges
  reports : ∀ owner id fields, closing.call = .updateEvent owner id fields →
    Reports exchanges owner id fields closing.said closing.answer

namespace Traffic

variable {t u : Traffic}

/-- What holds at any time: statements are numbered in order, and every call is as it should be. -/
structure Sound (t : Traffic) : Prop where
  numbered : ∀ x ∈ t.exchanges, x.moment < t.exchanges.length
  sessions : ∀ client session, t.sessions client = some session →
    session.Sound t.tables t.exchanges t.ids
  closed : ∀ closing ∈ t.closed, closing.Sound t.exchanges

/-- A client sits at its own session, and the others sit where they sat. -/
theorem seat_sessions {client other : Nat} {place : Option Session} {session : Session}
    (found : (t.seat client place).sessions other = some session) :
    place = some session ∨ t.sessions other = some session := by
  simp only [seat] at found
  split at found
  · exact .inl found
  · exact .inr found

theorem Sound.begins (sound : t.Sound) {client : Nat} {call : Call}
    (known : ∀ id ∈ call.named?, id ∈ t.ids) :
    (t.seat client (some { call, rest := perform call })).Sound where
  numbered := sound.numbered
  closed := sound.closed
  sessions other session found := by
    rcases seat_sessions found with taken | found
    · cases taken
      refine ⟨List.forall_mem_nil _, fun owner id fields update => ?_,
        fun owner id fields update => ?_⟩
      · cases update
        exact known id rfl
      · cases update
        exact .begun
    · exact sound.sessions other session found

theorem Sound.ends (sound : t.Sound) {client : Nat} {session : Session}
    {answer : Except StorageError Answer} (busy : t.sessions client = some session)
    (ahead : session.rest.ahead = .inl answer) :
    Sound { t.seat client none with
      closed := ⟨session.call, session.said, answer⟩ :: t.closed } where
  numbered := sound.numbered
  sessions other session found := by
    rcases seat_sessions found with taken | found
    · cases taken
    · exact sound.sessions other session found
  closed closing mem := by
    obtain ⟨seen, -, standing⟩ := sound.sessions client session busy
    rcases List.mem_cons.mp mem with rfl | mem
    · exact ⟨seen, fun owner id fields update => (standing owner id fields update).ends ahead⟩
    · exact sound.closed closing mem

theorem Sound.asks (sound : t.Sound) {client : Nat} {session : Session} {drawn : EventId}
    {statement : Statement} {next : Reply → Dialogue (Except StorageError Answer)} {reply : Reply}
    {after : Tables} (busy : t.sessions client = some session)
    (ahead : session.rest.ahead = .inr (statement, next))
    (fresh : statement.draws = true → drawn ∉ t.ids)
    (served : t.tables.Serves drawn statement reply after) :
    Sound
      { t.seat client (some
          { session with
            rest := next reply
            said := session.said ++ [t.exchange statement reply after] }) with
        tables := after
        ids := if statement.draws then drawn :: t.ids else t.ids
        exchanges := t.exchange statement reply after :: t.exchanges } where
  numbered x mem := by
    rcases List.mem_cons.mp mem with rfl | mem
    · exact Nat.lt_succ_self _
    · exact Nat.lt_succ_of_lt (sound.numbered x mem)
  closed closing mem := by
    obtain ⟨seen, reports⟩ := sound.closed closing mem
    exact ⟨fun x mem => .tail _ (seen x mem),
      fun owner id fields update => (reports owner id fields update).cons _⟩
  sessions other found seated := by
    let latest := t.exchange statement reply after
    have kept {id : EventId} (known : id ∈ t.ids) :
        id ∈ if statement.draws then drawn :: t.ids else t.ids := by
      split
      · exact .tail _ known
      · exact known
    rcases seat_sessions seated with taken | seated
    · obtain ⟨seen, known, standing⟩ := sound.sessions client session busy
      cases taken
      refine ⟨fun x mem => ?_, fun owner id fields update => kept (known owner id fields update),
        fun owner id fields update => ?_⟩
      · rcases List.mem_append.mp mem with mem | mem
        · exact .tail _ (seen x mem)
        · exact List.mem_singleton.mp mem ▸ .head _
      · have further : Standing latest.after (latest :: t.exchanges) owner id fields
            (next latest.reply) (session.said ++ [latest]) :=
          (standing owner id fields update).asks ahead served sound.numbered
        exact further
    · obtain ⟨seen, known, standing⟩ := sound.sessions other found seated
      refine ⟨fun x mem => .tail _ (seen x mem),
        fun owner id fields update => kept (known owner id fields update),
        fun owner id fields update => ?_⟩
      have undisturbed : Standing latest.after (latest :: t.exchanges) owner id fields
          found.rest found.said :=
        (standing owner id fields update).cons served.changes
          (fun draws same => fresh draws (same ▸ known owner id fields update))
          fun x mem => sound.numbered x (seen x mem)
      exact undisturbed

theorem Step.sound (step : t.Step u) (sound : t.Sound) : u.Sound := by
  cases step with
  | begins _ known => exact sound.begins known
  | asks busy ahead fresh served => exact sound.asks busy ahead fresh served
  | ends busy ahead => exact sound.ends busy ahead

theorem Reached.sound {tables : Tables} {ids : List EventId}
    (reached : Reached { tables, ids } t) : t.Sound := by
  induction reached with
  | start => exact ⟨List.forall_mem_nil _, fun _ _ found => (Option.some_ne_none _ found.symm).elim,
      List.forall_mem_nil _⟩
  | step _ step ih => exact step.sound ih

/-- Whatever the clients of a database do, no two events of an owner meet, and every update tells
the truth. One that succeeds changed its own row and nothing else, and one that fails changed
nothing. One that finds the date busy had its event and a clash at its first statement. One that
finds no event asked when there was none; if there had been one at the first statement, that clashed
with another, and a statement in between deleted it. -/
theorem update_tells_why {tables : Tables} {ids : List EventId} (apart : tables.Apart)
    (reached : Reached { tables, ids } t) :
    t.tables.Apart ∧ ∀ closing ∈ t.closed, ∀ owner id fields,
      closing.call = .updateEvent owner id fields →
      (∀ x ∈ closing.said, x ∈ t.exchanges) ∧
      match closing.answer with
      | .ok answer => answer = .nothing ∧ ∃ only bound, closing.said = [only] ∧
          bindFields fields = .ok bound ∧ only.statement = .updateEvent owner id bound ∧
          only.before.Has owner id ∧
          only.after = { only.before with events := only.before.events.set id ⟨owner, bound⟩ }
      | .error cause => (∀ x ∈ closing.said, x.after = x.before) ∧
        match cause with
        | .dateBusy => ∃ first second bound, closing.said = [first, second] ∧
            bindFields fields = .ok bound ∧ first.statement = .updateEvent owner id bound ∧
            first.before.Has owner id ∧
            first.before.Clashes owner (some id) bound.start bound.stop
        | .eventNotFound missing => missing = id ∧ ∃ first second bound,
            closing.said = [first, second] ∧ bindFields fields = .ok bound ∧
            first.statement = .updateEvent owner id bound ∧
            second.statement = .eventExists owner id ∧ ¬second.before.Has owner id ∧
            (first.before.Has owner id →
              first.before.Clashes owner (some id) bound.start bound.stop ∧
              ∃ between ∈ t.exchanges, first.moment < between.moment ∧
                between.moment < second.moment ∧ between.Removes owner id)
        | .backend reason => bindFields fields = .error (.backend reason) ∨
            ∃ x ∈ closing.said, ∃ failure, x.reply = .error failure
        | _ => False := by
  refine ⟨reached.apart apart, fun closing mem owner id fields called => ?_⟩
  obtain ⟨seen, reports⟩ := reached.sound.closed closing mem
  refine ⟨seen, ?_⟩
  replace reports := reports owner id fields called
  obtain ⟨call, said, answer⟩ := closing
  cases answer with
  | ok answer =>
    cases reports with
    | changed binds update held put => exact ⟨rfl, _, _, rfl, binds, update, held, put⟩
  | error cause =>
    refine ⟨reports.unchanged, ?_⟩
    cases reports with
    | unstorable unbound => exact .inl unbound
    | refused replied => exact .inr ⟨_, .head _, _, replied⟩
    | busy binds update _ _ held clash => exact ⟨_, _, _, rfl, binds, update, held, clash⟩
    | gone binds update check _ _ missing deleted =>
      exact ⟨rfl, _, _, _, rfl, binds, update, check, missing, deleted⟩
    | unasked replied => exact .inr ⟨_, .tail _ (.head _), _, replied⟩

/-- An update onto the time of another event, whose event another client deletes before the update
asks for it: the conflict is reported as a missing event. -/
theorem update_tells_why_pulled_away :
    let call := EventId.ofNat 1
    let held : Tables := { Tables.empty with
      events := FiniteMap.empty.set call
        ⟨"alice", ⟨"call", none, Fixture.moment 9 0, Fixture.moment 10 0, none⟩⟩ }
    let tables : Tables := { held with
      events := held.events.set (.ofNat 2)
        ⟨"alice", ⟨"lunch", none, Fixture.moment 12 0, Fixture.moment 13 0, none⟩⟩ }
    let moved := EventFields.mk "call" none (Fixture.moment 12 30) (Fixture.moment 13 30) none
    tables.Apart ∧ ∃ t, Reached { tables, ids := [call, .ofNat 2] } t ∧ t.tables.Apart ∧
      ∃ closing ∈ t.closed, closing.call = .updateEvent "alice" call moved ∧
        closing.answer = .error (.eventNotFound call) ∧
        ∃ between ∈ t.exchanges, between.Removes "alice" call := by
  intro call held tables moved
  have single (id : EventId) (row : EventRow) (found : held.events.lookup id = some row) :
      id = call ∧ row.fields.stop = Fixture.moment 10 0 := by
    simp only [held, FiniteMap.set] at found
    split at found
    · cases found
      exact ⟨‹_›, rfl⟩
    · cases found
  have apart : tables.Apart := by
    refine Tables.Apart.put (fun _ id other _ _ here there differ => absurd ?_ differ) ?_
    · exact (single id _ here.1).1.trans (single other _ there.1).1.symm
    · rintro ⟨id, row, ⟨found, -⟩, -, meets⟩
      obtain ⟨-, stop⟩ := single id row found
      have late := meets.2
      rw [stop] at late
      exact absurd late (by decide +kernel)
  let bound := BoundFields.mk "call" none moved.truncated.start moved.truncated.stop none
  have binds : bindFields moved = .ok bound := rfl
  have clash : tables.Clashes "alice" (some call) bound.start bound.stop :=
    ⟨.ofNat 2, _, ⟨rfl, rfl⟩, by decide, by decide +kernel, by decide +kernel⟩
  have has : tables.Has "alice" call := ⟨_, rfl, rfl⟩
  obtain ⟨goOn, sends, settles⟩ := ahead_updateEvent "alice" call binds
  obtain ⟨conclude, asks, -, tells⟩ :=
    ahead_updated_unmatched "alice" call (rfl : Result.affected {} = 0)
  have passed (failure : Failure) (failed : (.ok {} : Reply) = .error failure) :
      failure.isContended = false := by
    cases failed
  rw [← settles (.ok {}) passed] at asks
  let left : Tables := { tables with events := tables.events.erase call }
  have gone : ¬left.Has "alice" call := by
    rintro ⟨row, found, -⟩
    cases found
  have updates : tables.Serves call (.updateEvent "alice" call bound) (.ok {}) tables :=
    .executed (.updateSkipped (fun _ => clash) rfl)
  have deletes : tables.Serves call (.deleteEvent "alice" call) (.ok { affected := 1 }) left :=
    .executed (.eventDeleted ⟨rfl, rfl⟩ rfl)
  have checks : left.Serves call (.eventExists "alice" call) (.ok {}) left :=
    .executed (.noEventExists gone rfl)
  let start : Traffic := { tables, ids := [call, .ofNat 2] }
  have known : ∀ id ∈ some call, id ∈ start.ids := fun _ named =>
    Option.some.inj named ▸ List.mem_cons_self
  have keeps (statement : Statement) (old : statement.draws = false) (ids : List EventId)
      (draws : statement.draws = true) : call ∉ ids := by
    rw [old] at draws
    cases draws
  have one := Reached.start.step (@Step.begins start 0 (.updateEvent "alice" call moved) rfl known)
  have two := one.step (@Step.asks _ 0 _ call _ _ _ _ rfl sends (keeps _ rfl _) updates)
  have three := two.step (@Step.begins _ 1 (.deleteEvent "alice" call) rfl known)
  have four := three.step (@Step.asks _ 1 _ call _ _ _ _ rfl rfl (keeps _ rfl _) deletes)
  have five := four.step (@Step.asks _ 0 _ call _ _ _ _ rfl asks (keeps _ rfl _) checks)
  have ends : (conclude (.ok {})).ahead = .inl (.error (.eventNotFound call)) := tells {}
  have six := five.step (@Step.ends _ 0 _ _ rfl ends)
  obtain ⟨apartToo, truths⟩ := update_tells_why apart six
  obtain ⟨-, -, -, first, second, _, ⟨⟩, -, -, -, -, deleted⟩ := truths _ (.head _) _ _ _ rfl
  obtain ⟨-, between, mem, -, -, removes⟩ := deleted has
  exact ⟨apart, _, six, apartToo, _, .head _, rfl, rfl, between, mem, removes⟩

end Traffic

end Datebook.Sql
