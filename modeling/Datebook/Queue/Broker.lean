import Datebook.Alert.Wire
import Datebook.Queue.Client

/-!
Message brokers.

A `Broker` keeps the messages of one topic in order. Publishing to it succeeds, fails with the cause
that the client or the broker gives, or times out when the broker is out of reach. A message may
have no payload.
-/

set_option autoImplicit false

namespace Datebook

/-- Why a broker did not store a message. -/
inductive DeliveryError where
  | messageSizeTooLarge
  | topicAuthorizationFailed
  | policyViolation
  | invalidRecord
  /-- The client takes no topic of that length. -/
  | invalidArgument
  /-- The broker did not answer in time. -/
  | messageTimedOut
  deriving DecidableEq, Repr

namespace DeliveryError

/-- The number that brokers use for a cause. -/
def code : DeliveryError → Int
  | .messageSizeTooLarge => 10
  | .topicAuthorizationFailed => 29
  | .policyViolation => 44
  | .invalidRecord => 87
  | .invalidArgument => -186
  | .messageTimedOut => -192

def all : List DeliveryError :=
  [.messageSizeTooLarge, .topicAuthorizationFailed, .policyViolation, .invalidRecord,
    .invalidArgument, .messageTimedOut]

def ofCode? (code : Int) : Option DeliveryError :=
  all.find? fun cause => cause.code = code

/-- The name and the explanation of a cause. -/
def text : DeliveryError → String
  | .messageSizeTooLarge => "MessageSizeTooLarge (Broker: Message size too large)"
  | .topicAuthorizationFailed => "TopicAuthorizationFailed (Broker: Topic authorization failed)"
  | .policyViolation => "PolicyViolation (Broker: Policy violation)"
  | .invalidRecord => "InvalidRecord (Broker: Broker failed to validate record)"
  | .invalidArgument => "InvalidArgument (Local: Invalid argument or configuration)"
  | .messageTimedOut => "MessageTimedOut (Local: Message timed out)"

end DeliveryError

/-- What a consumer receives: a message, which may have no payload, or a failure for a reason that
the client gives. -/
inductive Received where
  | message (payload : Option Bytes)
  | failure (reason : String)
  deriving DecidableEq, Repr

/-- The topic of a broker and what it has counted. -/
structure Broker where
  reachable : Bool := true
  /-- The payloads of the stored messages, the latest first. -/
  stored : List (Option Bytes) := []
  published : Nat := 0
  failed : Nat := 0
  deriving DecidableEq, Repr

namespace BrokerQueue

/-- The largest payload that is sent at all. -/
def largestPayload : Nat := 1000000

/-- The largest topic that is sent to, in octets. -/
def largestTopic : Nat := 512

/-- How a failed delivery is reported. -/
def deliveryError (queue : BrokerQueue) : DeliveryError → QueueError
  | .messageTimedOut => .timeout queue.timeout
  | cause => .publishFailed queue.topic ("Message production error: " ++ cause.text)

/-- What becomes of a payload; the broker may refuse it for a cause of its own. -/
def delivery (queue : BrokerQueue) (broker : Broker) (refusal : Option DeliveryError) (size : Nat) :
    Except DeliveryError Unit :=
  if largestTopic < queue.topic.utf8ByteSize then .error .invalidArgument
  else if largestPayload < size then .error .messageSizeTooLarge
  else if !broker.reachable then .error .messageTimedOut
  else match refusal with
    | some cause => .error cause
    | none => .ok ()

/-- Publishes a payload, unless the broker refuses it. -/
def publish (queue : BrokerQueue) (refusal : Option DeliveryError) (payload : Bytes)
    (broker : Broker) : Except ClientFault Unit × Broker :=
  if !ClientOptions.isPlain queue.topic then (.error .unnamedTopic, broker)
  else match queue.delivery broker refusal payload.length with
    | .ok () =>
      (.ok (),
        { broker with stored := some payload :: broker.stored, published := broker.published + 1 })
    | .error cause =>
      (.error (.failed (queue.deliveryError cause)), { broker with failed := broker.failed + 1 })

end BrokerQueue

namespace Broker

/-- Stores a message without a payload, if the broker is within reach. -/
def tombstone (broker : Broker) : Broker :=
  if broker.reachable then { broker with stored := none :: broker.stored } else broker

/-- What a consumer receives from the earliest message on. -/
def received (broker : Broker) : List Received :=
  if broker.reachable then broker.stored.reverse.map .message
  else
    [.failure "Message consumption error: BrokerTransportFailure (Local: Broker transport failure)",
      .failure "Message consumption error: AllBrokersDown (Local: All broker connections are down)"]

/-- The counters that were touched, under the names by which they are reported. -/
def counters (broker : Broker) : List (String × Nat) :=
  let counted :=
    [("redpanda.alerts.published", broker.published), ("redpanda.alerts.failed", broker.failed)]
  counted.filter fun counter => counter.2 ≠ 0

end Broker

end Datebook
