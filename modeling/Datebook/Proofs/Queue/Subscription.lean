import Datebook.Proofs.Alert.Wire
import Datebook.Queue.Subscription
import Mathlib.Data.List.Forall2

/-!
Subscribers read what consumers receive.

`Received.Yields` says what a subscriber is to read for what the consumer received. While its subscriber reads, a relay loses nothing: what was taken and what is in the buffer are the
results of the first things received, `Reading`, and the rest is with the task or still to come.
Without its subscriber, `Gone`, nothing more is taken. `lag` counts the turns until a subscriber has
a certain number of results; no turn raises it, and each turn of a round lowers it when its time has
come.
-/

set_option autoImplicit false

namespace Datebook

namespace Received

/-- What a subscriber is to read for what the consumer received. -/
inductive Yields : Received → Except QueueError Alert → Prop where
  | alert {payload : Bytes} {alert : Alert} (decoded : Alert.decode payload = .ok alert) :
    Yields (.message (some payload)) (.ok alert)
  | garbage {payload : Bytes} {cause : WireError} (refused : Alert.decode payload = .error cause) :
    Yields (.message (some payload)) (.error (.decode cause.message))
  | empty : Yields (.message none) (.error (.decode "message has no payload"))
  | failure (reason : String) :
    Yields (.failure reason) (.error (.connectionFailed ("Failed to receive: " ++ reason)))

theorem yields_result (item : Received) : item.Yields item.result := by
  cases item with
  | failure reason => exact .failure reason
  | message payload =>
    cases payload with
    | none => exact .empty
    | some payload =>
      rw [result, Alert.receive]
      cases decoded : Alert.decode payload with
      | ok alert => exact .alert decoded
      | error cause => exact .garbage decoded

/-- The octets of a reminder bring it with its times as written. -/
theorem result_encode {alert : Alert} (fits : alert.Fits) :
    (message (some alert.encode)).result = .ok alert.asWritten :=
  Alert.receive_of_encode fits

end Received

namespace RelayTask

/-- What the task has received and not sent. -/
def held : RelayTask → List Received
  | .sending item => [item]
  | _ => []

/-- What the task has sent and is to acknowledge. -/
def owed : RelayTask → List Received
  | .acknowledging item => [item]
  | _ => []

end RelayTask

/-- How many turns come after a turn in a round. -/
def Turn.place : Turn → Nat
  | .acknowledge => 3
  | .receive => 2
  | .send => 1
  | .take | .drop => 0

namespace Relay

variable {items sent : List Received} {relay : Relay} {turn : Turn} {turns : List Turn} {goal : Nat}

/-- A relay in use, which has sent the results of the first of all items. -/
structure Reading (items sent : List Received) (relay : Relay) : Prop where
  present : relay.dropped = false
  running : relay.task ≠ .ended
  whole : items = sent ++ (relay.task.held ++ relay.incoming)
  order : relay.taken.reverse ++ relay.buffer = sent.map Received.result
  acknowledged : relay.acknowledged.reverse ++ relay.task.owed = sent.filter Received.isMessage
  bounded : relay.buffer.length ≤ relay.capacity

/-- A relay without its subscriber, which had sent the results of the first of all items. -/
structure Gone (items sent : List Received) (relay : Relay) : Prop where
  absent : relay.dropped = true
  begun : sent <+: items
  empty : relay.buffer = []
  order : relay.taken.reverse <+: sent.map Received.result
  acknowledged : relay.acknowledged.reverse ++ relay.task.owed = sent.filter Received.isMessage

theorem capacity_step (relay : Relay) (turn : Turn) :
    (relay.step turn).capacity = relay.capacity := by
  cases turn <;> simp only [step] <;> repeat' split
  all_goals rfl

theorem Reading.send {item : Received} (reading : Reading items sent relay)
    (sending : relay.task = .sending item) (room : relay.buffer.length < relay.capacity) :
    Reading items (sent ++ [item])
      { relay with
        task := if item.isMessage then .acknowledging item else .receiving
        buffer := relay.buffer ++ [item.result] } := by
  have whole := reading.whole
  have acknowledged := reading.acknowledged
  rw [sending] at whole acknowledged
  refine { reading with running := ?_, whole := ?_, order := ?_, acknowledged := ?_, bounded := ?_ }
  · split <;> nofun
  · have none_held : (if item.isMessage then RelayTask.acknowledging item
        else RelayTask.receiving).held = [] := by
      split <;> rfl
    rw [none_held, List.append_assoc]
    exact whole
  · rw [List.map_append, ← reading.order, List.append_assoc]
    rfl
  · rw [List.filter_append, ← acknowledged]
    dsimp only
    split
    · rename_i message
      simp [RelayTask.owed, message]
    · rename_i failure
      simp [RelayTask.owed, failure]
  · rw [List.length_append]
    exact room

theorem Reading.step (reading : Reading items sent relay) (stays : turn ≠ .drop) :
    ∃ sent, Reading items sent (relay.step turn) := by
  have whole := reading.whole
  have acknowledged := reading.acknowledged
  cases turn with
  | drop => exact absurd rfl stays
  | acknowledge =>
    refine ⟨sent, ?_⟩
    simp only [Relay.step]
    split
    · rename_i item task
      rw [task] at whole acknowledged
      refine { reading with running := nofun, whole, acknowledged := ?_ }
      rw [List.reverse_cons, ← acknowledged]
      exact List.append_nil _
    · exact reading
  | receive =>
    refine ⟨sent, ?_⟩
    simp only [Relay.step]
    split
    · rename_i item rest task incoming
      rw [task, incoming] at whole
      rw [task] at acknowledged
      exact { reading with running := nofun, whole, acknowledged }
    · exact reading
  | send =>
    simp only [Relay.step]
    split
    · rename_i item task
      rw [if_neg (Bool.eq_false_iff.mp reading.present)]
      split
      · rename_i room
        exact ⟨_, reading.send task room⟩
      · exact ⟨sent, reading⟩
    · exact ⟨sent, reading⟩
  | take =>
    refine ⟨sent, ?_⟩
    simp only [Relay.step]
    split
    · exact reading
    · rename_i result rest buffer
      have order := reading.order
      have bounded := reading.bounded
      rw [buffer] at order bounded
      refine { reading with order := ?_, bounded := Nat.le_of_succ_le bounded }
      rw [List.reverse_cons, List.append_assoc]
      exact order

/-- A subscriber that goes leaves behind what was sent and what was taken. -/
theorem Reading.drop (reading : Reading items sent relay) :
    Gone items sent (relay.step .drop) where
  absent := rfl
  begun := ⟨_, reading.whole.symm⟩
  empty := rfl
  order := ⟨_, reading.order⟩
  acknowledged := reading.acknowledged

/-- Without a subscriber nothing is sent and nothing is taken. -/
theorem Gone.step (gone : Gone items sent relay) (turn : Turn) :
    Gone items sent (relay.step turn) ∧ (relay.step turn).taken = relay.taken := by
  have acknowledged := gone.acknowledged
  cases turn with
  | drop => exact ⟨{ gone with absent := rfl, empty := rfl }, rfl⟩
  | acknowledge =>
    simp only [Relay.step]
    split
    · rename_i item task
      rw [task] at acknowledged
      refine ⟨{ gone with acknowledged := ?_ }, rfl⟩
      rw [List.reverse_cons, ← acknowledged]
      exact List.append_nil _
    · exact ⟨gone, rfl⟩
  | receive =>
    simp only [Relay.step]
    split
    · rename_i task _
      rw [task] at acknowledged
      exact ⟨{ gone with acknowledged }, rfl⟩
    · exact ⟨gone, rfl⟩
  | send =>
    simp only [Relay.step]
    split
    · rename_i task
      rw [if_pos gone.absent]
      rw [task] at acknowledged
      exact ⟨{ gone with acknowledged }, rfl⟩
    · exact ⟨gone, rfl⟩
  | take =>
    simp only [Relay.step, gone.empty]
    exact ⟨gone, trivial⟩

theorem run_cons (relay : Relay) (turn : Turn) (turns : List Turn) :
    relay.run (turn :: turns) = (relay.step turn).run turns :=
  rfl

theorem run_append (relay : Relay) (turns later : List Turn) :
    relay.run (turns ++ later) = (relay.run turns).run later :=
  List.foldl_append

theorem capacity_run (relay : Relay) (turns : List Turn) :
    (relay.run turns).capacity = relay.capacity := by
  induction turns generalizing relay with
  | nil => rfl
  | cons turn turns ih => rw [run_cons, ih, capacity_step]

theorem Reading.run (reading : Reading items sent relay) (stays : .drop ∉ turns) :
    ∃ sent, Reading items sent (relay.run turns) := by
  induction turns generalizing relay sent with
  | nil => exact ⟨sent, reading⟩
  | cons turn turns ih =>
    obtain ⟨now, further⟩ := reading.step (List.ne_of_not_mem_cons stays).symm
    exact ih further (List.not_mem_of_not_mem_cons stays)

theorem Gone.run (gone : Gone items sent relay) (turns : List Turn) :
    Gone items sent (relay.run turns) ∧ (relay.run turns).taken = relay.taken := by
  induction turns generalizing relay with
  | nil => exact ⟨gone, rfl⟩
  | cons turn turns ih =>
    obtain ⟨still, same⟩ := gone.step turn
    obtain ⟨end_, sameToo⟩ := ih still
    exact ⟨end_, sameToo.trans same⟩

theorem Reading.order_prefix (reading : Reading items sent relay) :
    relay.taken.reverse <+: items.map Received.result := by
  rw [reading.whole, List.map_append, ← reading.order, List.append_assoc]
  exact List.prefix_append _ _

theorem Gone.order_prefix (gone : Gone items sent relay) :
    relay.taken.reverse <+: items.map Received.result :=
  gone.order.trans (gone.begun.map _)

/-- At any time a relay is in use or without its subscriber. -/
theorem Reading.run_cases (reading : Reading items sent relay) (turns : List Turn) :
    ∃ sent, Reading items sent (relay.run turns) ∨ Gone items sent (relay.run turns) := by
  induction turns generalizing relay sent with
  | nil => exact ⟨sent, .inl reading⟩
  | cons turn turns ih =>
    by_cases leaves : turn = .drop
    · rw [run_cons, leaves]
      exact ⟨sent, .inr (reading.drop.run turns).1⟩
    · obtain ⟨now, further⟩ := reading.step leaves
      exact ih further

/-- Whatever happens, what a subscriber takes are the first results in order. -/
theorem Reading.taken_prefix (reading : Reading items sent relay) (turns : List Turn) :
    (relay.run turns).taken.reverse <+: items.map Received.result := by
  obtain ⟨now, reading | gone⟩ := reading.run_cases turns
  · exact reading.order_prefix
  · exact gone.order_prefix

/-- What a subscriber has taken are the first results, however many it has taken. -/
theorem Reading.taken_eq_take (reading : Reading items sent relay) (turns : List Turn) :
    (relay.run turns).taken.reverse =
      (items.map Received.result).take (relay.run turns).taken.length := by
  have first := List.prefix_iff_eq_take.mp (reading.taken_prefix turns)
  rwa [List.length_reverse] at first

/-- A subscriber that goes takes nothing more. -/
theorem Reading.taken_after_drop (reading : Reading items sent relay) (turns later : List Turn) :
    (relay.run (turns ++ .drop :: later)).taken = (relay.run turns).taken := by
  rw [run_append, run_cons]
  obtain ⟨now, reading | gone⟩ := reading.run_cases turns
  · exact (reading.drop.run later).2
  · exact ((gone.step .drop).1.run later).2

/-- How many turns must still come in order until so many results are taken, if one more is enough;
the task is to acknowledge, to receive and to send, and the subscriber to take. -/
def lag (relay : Relay) (goal : Nat) : Nat :=
  if goal ≤ relay.taken.length then 0
  else if relay.buffer ≠ [] then 1
  else
    match relay.task with
    | .sending _ => 2
    | .receiving => 3
    | .acknowledging _ | .ended => 4

theorem lag_le (relay : Relay) (goal : Nat) : relay.lag goal ≤ round.length := by
  rw [lag]
  repeat' split
  all_goals decide

theorem le_of_lag_eq_zero (reached : relay.lag goal = 0) : goal ≤ relay.taken.length := by
  rw [lag] at reached
  repeat' split at reached
  · assumption
  all_goals cases reached

/-- What a subscriber has taken it keeps. -/
theorem taken_step_le (relay : Relay) (turn : Turn) :
    relay.taken.length ≤ (relay.step turn).taken.length := by
  cases turn <;> simp only [Relay.step] <;> repeat' split
  all_goals simp

/-- While results are missing that are neither sent nor with the task, something is to come. -/
theorem Reading.more (reading : Reading items sent relay) (missing : relay.taken.length < goal)
    (within : goal ≤ items.length) (empty : relay.buffer = []) (idle : relay.task = .receiving) :
    ∃ item rest, relay.incoming = item :: rest := by
  have whole := congrArg List.length reading.whole
  have order := congrArg List.length reading.order
  simp only [idle, RelayTask.held, List.nil_append, List.length_append] at whole
  rw [empty, List.append_nil, List.length_reverse, List.length_map] at order
  exact List.exists_cons_of_length_pos (by omega)

/-- No turn takes a subscriber back, and each in its place takes it further. -/
theorem Reading.lag_step (reading : Reading items sent relay) (roomy : 0 < relay.capacity)
    (within : goal ≤ items.length) (near : goal ≤ relay.taken.length + 1) (stays : turn ≠ .drop) :
    (relay.step turn).lag goal ≤ relay.lag goal ∧
      (relay.lag goal ≤ turn.place + 1 → (relay.step turn).lag goal ≤ turn.place) := by
  by_cases reached : goal ≤ relay.taken.length
  · have still : goal ≤ (relay.step turn).taken.length :=
      Nat.le_trans reached (taken_step_le relay turn)
    simp [lag, reached, still]
  · cases buffered : relay.buffer with
    | cons result rest =>
      cases turn with
      | drop => exact absurd rfl stays
      | acknowledge | receive | send =>
        simp only [Relay.step]
        repeat' split
        all_goals simp [lag, reached, buffered, Turn.place]
      | take =>
        simp [lag, Relay.step, reached, buffered, near]
    | nil =>
      cases turn with
      | drop => exact absurd rfl stays
      | take =>
        cases task : relay.task <;> simp [lag, Relay.step, reached, buffered, task, Turn.place]
      | acknowledge =>
        cases task : relay.task with
        | ended => exact absurd task reading.running
        | _ => simp [lag, Relay.step, reached, buffered, task, Turn.place]
      | receive =>
        cases task : relay.task with
        | receiving =>
          obtain ⟨item, rest, incoming⟩ :=
            reading.more (Nat.lt_of_not_le reached) within buffered task
          simp [lag, Relay.step, reached, buffered, task, incoming, Turn.place]
        | _ => simp [lag, Relay.step, reached, buffered, task, Turn.place]
      | send =>
        cases task : relay.task <;>
          simp [lag, Relay.step, reached, buffered, task, reading.present, roomy, Turn.place]

/-- Each turn of a round does its part, among any others. -/
theorem Reading.lag_run (reading : Reading items sent relay) (roomy : 0 < relay.capacity)
    (within : goal ≤ items.length) (near : goal ≤ relay.taken.length + 1)
    (stays : .drop ∉ turns) :
    (relay.run turns).lag goal ≤ relay.lag goal ∧
      ∀ turn ∈ turns, relay.lag goal ≤ turn.place + 1 →
        (relay.run turns).lag goal ≤ turn.place := by
  induction turns generalizing relay sent with
  | nil => exact ⟨Nat.le_refl _, nofun⟩
  | cons turn turns ih =>
    have stay : turn ≠ .drop := (List.ne_of_not_mem_cons stays).symm
    obtain ⟨now, further⟩ := reading.step stay
    obtain ⟨keeps, lowers⟩ := reading.lag_step roomy within near stay
    have nearer : goal ≤ (relay.step turn).taken.length + 1 :=
      Nat.le_trans near (Nat.succ_le_succ (taken_step_le relay turn))
    obtain ⟨keepsToo, lowersToo⟩ := ih further (capacity_step relay turn ▸ roomy) nearer
      (List.not_mem_of_not_mem_cons stays)
    refine ⟨Nat.le_trans keepsToo keeps, fun other mem due => ?_⟩
    rcases List.mem_cons.mp mem with rfl | mem
    · exact Nat.le_trans keepsToo (lowers due)
    · exact lowersToo other mem (Nat.le_trans keeps due)

theorem taken_run_le (relay : Relay) (turns : List Turn) :
    relay.taken.length ≤ (relay.run turns).taken.length := by
  induction turns generalizing relay with
  | nil => exact Nat.le_refl _
  | cons turn turns ih => exact Nat.le_trans (taken_step_le relay turn) (ih (relay.step turn))

theorem place_of_suffix {plan : List Turn} (final : turn :: plan <:+ round) :
    turn.place = plan.length := by
  simp only [round, List.suffix_cons_iff, List.cons.injEq, List.suffix_nil, reduceCtorEq,
    or_false] at final
  rcases final with ⟨rfl, rfl⟩ | ⟨rfl, rfl⟩ | ⟨rfl, rfl⟩ | ⟨rfl, rfl⟩ <;> rfl

/-- What is left of a round is enough for one more result. -/
theorem Reading.run_plan {plan : List Turn} (reading : Reading items sent relay)
    (roomy : 0 < relay.capacity) (within : goal ≤ items.length)
    (near : goal ≤ relay.taken.length + 1) (stays : .drop ∉ turns) (final : plan <:+ round)
    (taken : plan.Sublist turns) (due : relay.lag goal ≤ plan.length) :
    (relay.run turns).lag goal = 0 := by
  induction plan generalizing relay sent turns with
  | nil => exact Nat.le_zero.mp (Nat.le_trans (reading.lag_run roomy within near stays).1 due)
  | cons turn plan ih =>
    obtain ⟨first, later, rfl, mem, rest⟩ := List.cons_sublist_iff.mp taken
    obtain ⟨staysFirst, staysLater⟩ := not_or.mp (mt List.mem_append.mpr stays)
    have place : turn.place = plan.length := place_of_suffix final
    obtain ⟨now, further⟩ := reading.run staysFirst
    have lowers := (reading.lag_run roomy within near staysFirst).2 turn mem (place ▸ due)
    rw [run_append]
    exact ih further (capacity_run relay first ▸ roomy)
      (Nat.le_trans near (Nat.succ_le_succ (taken_run_le relay first))) staysLater
      ((List.suffix_cons turn plan).trans final) rest (place ▸ lowers)

/-- A round, among any other turns, brings one more result, if there is one. -/
theorem Reading.run_round (reading : Reading items sent relay) (roomy : 0 < relay.capacity)
    (missing : relay.taken.length < items.length) (stays : .drop ∉ turns)
    (taken : round.Sublist turns) : relay.taken.length < (relay.run turns).taken.length :=
  le_of_lag_eq_zero (reading.run_plan roomy missing (Nat.le_refl _) stays (List.suffix_refl _) taken
    (lag_le _ _))

/-- So many rounds, among any other turns, bring so many results. -/
theorem Reading.run_rounds (reading : Reading items sent relay) (roomy : 0 < relay.capacity)
    (stays : .drop ∉ turns) {count : Nat}
    (taken : (List.replicate count round).flatten.Sublist turns) :
    min items.length (relay.taken.length + count) ≤ (relay.run turns).taken.length := by
  induction count generalizing relay sent turns with
  | zero => exact Nat.le_trans (Nat.min_le_right _ _) (taken_run_le relay turns)
  | succ count ih =>
    rw [List.replicate_succ, List.flatten_cons] at taken
    obtain ⟨first, later, rfl, one, rest⟩ := List.append_sublist_iff.mp taken
    obtain ⟨staysFirst, staysLater⟩ := not_or.mp (mt List.mem_append.mpr stays)
    obtain ⟨now, further⟩ := reading.run staysFirst
    have more := ih further (capacity_run relay first ▸ roomy) staysLater rest
    rw [run_append]
    by_cases missing : relay.taken.length < items.length
    · have := reading.run_round roomy missing staysFirst one
      omega
    · have := taken_run_le relay first
      omega

/-- After so many rounds, among any other turns, a subscriber has read the first so many results. -/
theorem Reading.first_taken (reading : Reading items sent relay) (roomy : 0 < relay.capacity)
    (stays : .drop ∉ turns) {count : Nat}
    (taken : (List.replicate count round).flatten.Sublist turns) :
    (items.map Received.result).take count <+: (relay.run turns).taken.reverse := by
  have enough := reading.run_rounds roomy stays taken
  refine List.prefix_of_prefix_length_le (List.take_prefix _ _) (reading.taken_prefix turns) ?_
  rw [List.length_take, List.length_map, List.length_reverse]
  omega

/-- A subscriber takes at most one result a turn. -/
theorem taken_run_length_le (relay : Relay) (turns : List Turn) :
    (relay.run turns).taken.length ≤ relay.taken.length + turns.count .take := by
  induction turns generalizing relay with
  | nil => exact Nat.le_refl _
  | cons turn turns ih =>
    have one : (relay.step turn).taken.length ≤
        relay.taken.length + if turn == .take then 1 else 0 := by
      cases turn with
      | take =>
        simp only [Relay.step]
        split <;> simp
      | _ =>
        simp only [Relay.step]
        repeat' split
        all_goals exact Nat.le_add_right _ _
    have rest := ih (relay.step turn)
    rw [run_cons, List.count_cons]
    omega

/-- A subscriber that wants so many results, and waits for each, reads the first so many. -/
theorem Reading.read_eq (reading : Reading items [] relay) (roomy : 0 < relay.capacity)
    (count : Nat) :
    relay.read count = (items.map Received.result).take count := by
  let turns := (List.replicate count round).flatten
  have stays : .drop ∉ turns := by
    simp [turns, round]
  have takes : turns.count .take = count := by
    simp [turns, List.count_flatten, round]
  have fresh := (List.append_eq_nil_iff.mp reading.order).1
  have most := taken_run_length_le relay turns
  rw [List.reverse_eq_nil_iff.mp fresh, takes, List.length_nil, Nat.zero_add] at most
  have few := (reading.taken_prefix turns).length_le
  refine ((reading.first_taken roomy stays (List.Sublist.refl turns)).eq_of_length_le ?_).symm
  rw [List.length_take]
  rw [List.length_reverse] at few ⊢
  omega

end Relay

namespace BrokerQueue

variable {options : ClientOptions} {queue : BrokerQueue} {incoming : List Received} {relay : Relay}

/-- There is room for a result in every buffer. -/
theorem bufferSize_pos (opened : options.open? = .ok queue) : 0 < queue.bufferSize := by
  simp only [ClientOptions.open?] at opened
  repeat' split at opened
  all_goals cases opened
  cases options.bufferSize with
  | none => exact Nat.succ_pos 999
  | some size => exact Nat.lt_of_lt_of_le Nat.one_pos (Nat.le_max_left 1 size)

/-- A subscription begins with all that the consumer is to receive. -/
theorem subscribe_reading (subscribed : queue.subscribe incoming = .ok relay) :
    relay.Reading incoming [] ∧ relay.capacity = queue.bufferSize := by
  simp only [subscribe] at subscribed
  repeat' split at subscribed
  all_goals cases subscribed
  exact ⟨⟨rfl, nofun, rfl, rfl, rfl, Nat.zero_le _⟩, rfl⟩

/-- A subscriber that wants so many results, and waits for each, reads the first so many. -/
theorem subscribe_read (opened : options.open? = .ok queue)
    (subscribed : queue.subscribe incoming = .ok relay) (count : Nat) :
    relay.read count = (incoming.map Received.result).take count := by
  obtain ⟨reading, capacity⟩ := subscribe_reading subscribed
  exact reading.read_eq (capacity ▸ bufferSize_pos opened) count

/-- However often a consumer fails, whatever octets the messages have, whatever the size of the
buffer and however the turns fall, what a subscriber has taken belongs, one for one and in order, to
the first things received. It takes nothing after it has gone; and while it stays, so many rounds
bring it so many results, unless there are fewer. From a topic of reminders it takes these, with
their times as written, and so a reminder as it was exactly if no leap second of its times lies
inside a minute. -/
theorem subscribe_delivers (opened : options.open? = .ok queue)
    (subscribed : queue.subscribe incoming = .ok relay) :
    (∀ turns, List.Forall₂ Received.Yields (incoming.take (relay.run turns).taken.length)
      (relay.run turns).taken.reverse) ∧
    (∀ turns later, (relay.run (turns ++ .drop :: later)).taken = (relay.run turns).taken) ∧
    (∀ turns count, .drop ∉ turns → (List.replicate count Relay.round).flatten.Sublist turns →
      min incoming.length count ≤ (relay.run turns).taken.length) ∧
    ∀ alerts : List Alert, (∀ alert ∈ alerts, alert.Fits) →
      incoming = alerts.map (fun alert => .message (some alert.encode)) →
      (∀ turns, (relay.run turns).taken.reverse =
        (alerts.map fun alert => .ok alert.asWritten).take (relay.run turns).taken.length) ∧
      ∀ alert ∈ alerts,
        (alert.asWritten = alert ↔ alert.start.EndsMinute ∧ alert.stop.EndsMinute) := by
  obtain ⟨reading, capacity⟩ := subscribe_reading subscribed
  have roomy : 0 < relay.capacity := capacity ▸ bufferSize_pos opened
  refine ⟨fun turns => ?_, reading.taken_after_drop, fun turns count stays taken => ?_,
    fun alerts fits holds => ⟨fun turns => ?_, fun _ _ => Alert.asWritten_eq_self_iff⟩⟩
  · rw [reading.taken_eq_take, ← List.map_take, List.forall₂_map_right_iff, List.forall₂_same]
    exact fun item _ => item.yields_result
  · exact Nat.le_trans (by omega) (reading.run_rounds roomy stays taken)
  · have results : incoming.map Received.result = alerts.map fun alert => .ok alert.asWritten := by
      rw [holds, List.map_map]
      refine List.map_congr_left fun alert mem => ?_
      rw [Function.comp_apply, Received.result_encode (fits alert mem)]
    rw [reading.taken_eq_take, results]

/-- With few options and room for no more than one result, a client subscribes. -/
theorem exists_subscribe (incoming : List Received) :
    ∃ queue relay,
      ClientOptions.open? { brokers := some "localhost:9092", bufferSize := some 0 } = .ok queue ∧
        queue.subscribe incoming = .ok relay := by
  refine
    ⟨{ topic := "calendar-alerts"
       timeout := .ofSecs 5
       consumerGroup := "calendar-calendar-alerts"
       bufferSize := 1
       offsetReset := "latest" }, { capacity := 1, incoming }, by decide +kernel, ?_⟩
  rw [subscribe, if_neg (by decide +kernel), if_neg (by decide +kernel), if_neg (by decide +kernel)]

/-- A subscriber with room for no more than one result reads past octets that are no reminder, past
a failure and past a message without a payload. -/
theorem subscribe_delivers_garbage :
    let options : ClientOptions := { brokers := some "localhost:9092", bufferSize := some 0 }
    let incoming : List Received :=
      [.message (some [0xff]), .failure "Partition EOF: 0", .message none]
    ∃ queue relay, options.open? = .ok queue ∧ queue.subscribe incoming = .ok relay ∧
      .drop ∉ (List.replicate 3 Relay.round).flatten ∧
      List.Forall₂ Received.Yields incoming
        (relay.run (List.replicate 3 Relay.round).flatten).taken.reverse := by
  intro options incoming
  obtain ⟨queue, relay, opened, subscribed⟩ := exists_subscribe incoming
  have stays : .drop ∉ (List.replicate 3 Relay.round).flatten := by decide
  obtain ⟨yields, -, arrives, -⟩ := subscribe_delivers opened subscribed
  have all : incoming.length ≤ _ := arrives _ 3 stays (List.Sublist.refl _)
  have first := yields (List.replicate 3 Relay.round).flatten
  rw [List.take_of_length_le all] at first
  exact ⟨queue, relay, opened, subscribed, stays, first⟩

/-- A topic with the reminder of a leap second after 9:00:04 brings another one. -/
theorem subscribe_shifts_inside_minute :
    let alert : Alert :=
      { eventId := .ofNat 1
        title := "standup"
        description := none
        start := { second := 1906707604, nano := 1333333333 }
        stop := { second := 1906708200, nano := 0 }
        owner := "alice"
        ownerEmail := none }
    ∃ queue relay,
      ClientOptions.open? { brokers := some "localhost:9092", bufferSize := some 0 } = .ok queue ∧
      queue.subscribe [.message (some alert.encode)] = .ok relay ∧
      relay.read 1 =
        [.ok { alert with start := { second := 1906707605, nano := 333333333 } }] ∧
      relay.read 1 ≠ [.ok alert] := by
  intro alert
  obtain ⟨queue, relay, opened, subscribed⟩ :=
    exists_subscribe [.message (some alert.encode)]
  have fits : alert.Fits :=
    { title := by decide
      description := fun _ present => nomatch present
      owner := by decide
      ownerEmail := fun _ present => nomatch present }
  have shifted : alert.asWritten =
      { alert with start := { second := 1906707605, nano := 333333333 } } := by
    decide +kernel
  have read := subscribe_read opened subscribed 1
  rw [List.map_singleton, Received.result_encode fits, shifted] at read
  refine ⟨queue, relay, opened, subscribed, read, ?_⟩
  rw [read]
  decide

end BrokerQueue

end Datebook
