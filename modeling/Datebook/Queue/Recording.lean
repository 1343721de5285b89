import Datebook.Alert.Wire

/-!
The recording queue.

It keeps every accepted payload with its key, in the order of acceptance, and counts every publish
call, accepted or not. It can be told to refuse chosen keys or everything.
-/

set_option autoImplicit false

namespace Datebook

structure RecordingQueue where
  topic : String
  /-- Accepted keys and payloads, the latest first. -/
  accepted : List (String × Bytes) := []
  failingKeys : List String := []
  failAll : Bool := false
  attempts : Nat := 0
  deriving DecidableEq, Repr

namespace RecordingQueue

def refuses (queue : RecordingQueue) (key : String) : Bool :=
  queue.failAll || queue.failingKeys.contains key

def publish (queue : RecordingQueue) (key : String) (payload : Bytes) :
    Except QueueError Unit × RecordingQueue :=
  let counted := { queue with attempts := queue.attempts + 1 }
  if queue.refuses key then (.error (.publishFailed queue.topic "rejected by test"), counted)
  else (.ok (), { counted with accepted := (key, payload) :: queue.accepted })

def failKey (queue : RecordingQueue) (key : String) : RecordingQueue :=
  { queue with failingKeys := key :: queue.failingKeys }

def failEverything (queue : RecordingQueue) : RecordingQueue :=
  { queue with failAll := true }

/-- Accepts every key again. -/
def recover (queue : RecordingQueue) : RecordingQueue :=
  { queue with failAll := false, failingKeys := [] }

/-- Forgets the accepted payloads and the count of calls. -/
def clear (queue : RecordingQueue) : RecordingQueue :=
  { queue with accepted := [], attempts := 0 }

/-- The accepted keys and payloads in order. -/
def published (queue : RecordingQueue) : List (String × Bytes) :=
  queue.accepted.reverse

def size (queue : RecordingQueue) : Nat :=
  queue.accepted.length

/-- The reminders of the accepted payloads, or the first failure to decode one. -/
def alerts (queue : RecordingQueue) : Except QueueError (List Alert) :=
  queue.published.mapM fun entry => Alert.receive entry.2

end RecordingQueue

end Datebook
