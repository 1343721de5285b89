import Datebook.EventId
import Datebook.Role
import Datebook.Text.Quoted
import Datebook.Time.Duration

/-!
Failures of stores and of queues, with their messages and their forms in diagnostics.
-/

set_option autoImplicit false

namespace Datebook

inductive StorageError where
  | userExists (name : String)
  | userNotFound (name : String)
  | eventNotFound (id : EventId)
  /-- Another event of the owner occupies part of the interval. -/
  | dateBusy
  /-- The store itself failed. -/
  | backend (reason : String)
  deriving DecidableEq, Repr

namespace StorageError

def message : StorageError → String
  | .userExists name => "user already exists: " ++ Text.quoted name
  | .userNotFound name => "user not found: " ++ Text.quoted name
  | .eventNotFound id => "event not found: " ++ id.text
  | .dateBusy => "date already busy"
  | .backend reason => "storage backend failure: " ++ reason

def describe : StorageError → String
  | .userExists name => "UserExists(" ++ Text.quoted name ++ ")"
  | .userNotFound name => "UserNotFound(" ++ Text.quoted name ++ ")"
  | .eventNotFound id => "EventNotFound(EventId(" ++ id.text ++ "))"
  | .dateBusy => "DateBusy"
  | .backend reason => "Backend(" ++ Text.quoted reason ++ ")"

def isNotFound : StorageError → Bool
  | .userNotFound _ | .eventNotFound _ => true
  | _ => false

/-- Whether the request clashes with what is stored. -/
def isConflict : StorageError → Bool
  | .userExists _ | .dateBusy => true
  | _ => false

def isBackend : StorageError → Bool
  | .backend _ => true
  | _ => false

end StorageError

/-- The role with a stored form; a store that holds any other text has failed. -/
def Role.stored (text : String) : Except StorageError Role :=
  match Role.ofText? text with
  | some role => .ok role
  | none => .error (.backend ("Invalid role: " ++ text))

inductive QueueError where
  | encode (reason : String)
  | decode (reason : String)
  | connectionFailed (reason : String)
  | publishFailed (topic reason : String)
  | subscriptionFailed (topic reason : String)
  | timeout (limit : Duration)
  deriving DecidableEq, Repr

namespace QueueError

def message : QueueError → String
  | .encode reason => "Encode failed: " ++ reason
  | .decode reason => "Decode failed: " ++ reason
  | .connectionFailed reason => "Connection failed: " ++ reason
  | .publishFailed topic reason => "Publish failed for topic '" ++ topic ++ "': " ++ reason
  | .subscriptionFailed topic reason =>
    "Subscription failed for topic '" ++ topic ++ "': " ++ reason
  | .timeout limit => "Timed out after " ++ limit.text

def describe : QueueError → String
  | .encode reason => "Encode(" ++ Text.quoted reason ++ ")"
  | .decode reason => "Decode(" ++ Text.quoted reason ++ ")"
  | .connectionFailed reason => "ConnectionFailed(" ++ Text.quoted reason ++ ")"
  | .publishFailed topic reason =>
    Text.record "PublishFailed" [("topic", Text.quoted topic), ("reason", Text.quoted reason)]
  | .subscriptionFailed topic reason =>
    Text.record "SubscriptionFailed" [("topic", Text.quoted topic), ("reason", Text.quoted reason)]
  | .timeout limit => "Timeout(" ++ limit.text ++ ")"

end QueueError

end Datebook
