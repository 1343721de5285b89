import Datebook.Queue.Broker
import Datebook.Text.Pattern

/-!
Subscriptions.

A subscriber reads one result for each thing that a consumer receives, in the same order. A `Relay`
stands between the two. Its task receives one thing after the other and sends the result into a
buffer of limited size, from which the subscriber takes; while the buffer is full it waits. Once the
result of a message is in the buffer, the task acknowledges the message. A subscriber that is gone
takes the buffer along, and the task ends when it next has something to send.
-/

set_option autoImplicit false

namespace Datebook

/-- The result that a subscriber reads for what the consumer received. -/
def Received.result : Received → Except QueueError Alert
  | .message (some payload) => Alert.receive payload
  | .message none => .error (.decode "message has no payload")
  | .failure reason => .error (.connectionFailed ("Failed to receive: " ++ reason))

def Received.isMessage : Received → Bool
  | .message _ => true
  | .failure _ => false

/-- What the task of a relay is at. -/
inductive RelayTask where
  | receiving
  | sending (item : Received)
  | acknowledging (item : Received)
  | ended
  deriving DecidableEq, Repr

structure Relay where
  capacity : Nat
  /-- What the consumer is still to receive. -/
  incoming : List Received
  task : RelayTask := .receiving
  buffer : List (Except QueueError Alert) := []
  /-- The messages that were acknowledged, the latest first. -/
  acknowledged : List Received := []
  /-- What the subscriber has taken, the latest first. -/
  taken : List (Except QueueError Alert) := []
  /-- Whether the subscriber is gone. -/
  dropped : Bool := false

/-- What happens next. -/
inductive Turn where
  | acknowledge
  | receive
  | send
  | take
  /-- The subscriber goes. -/
  | drop
  deriving DecidableEq, Repr

namespace Relay

def step (relay : Relay) : Turn → Relay
  | .acknowledge =>
    match relay.task with
    | .acknowledging item =>
      { relay with task := .receiving, acknowledged := item :: relay.acknowledged }
    | _ => relay
  | .receive =>
    match relay.task, relay.incoming with
    | .receiving, item :: rest => { relay with task := .sending item, incoming := rest }
    | _, _ => relay
  | .send =>
    match relay.task with
    | .sending item =>
      if relay.dropped then { relay with task := .ended }
      else if relay.buffer.length < relay.capacity then
        { relay with
          task := if item.isMessage then .acknowledging item else .receiving
          buffer := relay.buffer ++ [item.result] }
      else relay
    | _ => relay
  | .take =>
    match relay.buffer with
    | [] => relay
    | result :: rest => { relay with buffer := rest, taken := result :: relay.taken }
  | .drop => { relay with buffer := [], dropped := true }

/-- Takes turns in order. -/
def run (relay : Relay) (turns : List Turn) : Relay :=
  turns.foldl step relay

/-- Turns in which the task deals with one more thing and the subscriber with its result. -/
def round : List Turn :=
  [.acknowledge, .receive, .send, .take]

/-- What a subscriber reads that wants so many results and waits for each. -/
def read (relay : Relay) (count : Nat) : List (Except QueueError Alert) :=
  (relay.run (List.replicate count round).flatten).taken.reverse

end Relay

namespace BrokerQueue

/-- Whether the client subscribes to a topic; one with a caret in front is a pattern for topics. -/
def acceptsTopic (topic : String) : Bool :=
  topic ≠ "" && (topic.toList.head? ≠ some '^' || Text.isPattern topic)

/-- Begins a subscription to what a consumer receives. -/
def subscribe (queue : BrokerQueue) (incoming : List Received) : Except ClientFault Relay :=
  let refused (reason : String) : Except ClientFault Relay :=
    .error (.failed (.subscriptionFailed queue.topic reason))
  if !(ClientOptions.acceptsGroup queue.consumerGroup
      && ClientOptions.acceptsOffsetReset queue.offsetReset) then
    refused "Failed to create consumer"
  else if !ClientOptions.isPlain queue.topic then .error .unnamedTopic
  else if !acceptsTopic queue.topic then refused "Failed to subscribe"
  else .ok { capacity := queue.bufferSize, incoming }

end BrokerQueue

end Datebook
