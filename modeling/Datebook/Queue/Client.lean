import Datebook.Failure
import Datebook.Text.Literal

/-!
Queues on a message broker.

`ClientOptions.open?` checks what a caller wants of a queue and fills in the defaults. The client
behind it takes settings as texts, in which a NUL cannot occur. Of a number it reads what the text
begins with, holds it at 64 bits and keeps its low 32 bits; of a word it drops the blanks in front,
and takes blanks alone for no choice at all.
-/

set_option autoImplicit false

namespace Datebook

/-- What a caller wants of a queue on a broker. -/
structure ClientOptions where
  brokers : Option String := none
  topic : Option String := none
  /-- How many replicas acknowledge a message. -/
  acks : Option String := none
  compression : Option String := none
  /-- The bound on the delivery of one message. -/
  timeout : Option Duration := none
  consumerGroup : Option String := none
  /-- How many reminders may wait for a subscriber. -/
  bufferSize : Option Nat := none
  /-- Where a new group of consumers begins. -/
  offsetReset : Option String := none
  deriving DecidableEq, Repr

/-- Why a call of the client brings nothing. -/
inductive ClientFault where
  | failed (cause : QueueError)
  /-- The caller is stopped, as the topic has a NUL and cannot be handed to the client. -/
  | unnamedTopic
  deriving DecidableEq, Repr

/-- A queue on a broker. -/
structure BrokerQueue where
  topic : String
  timeout : Duration
  consumerGroup : String
  bufferSize : Nat
  offsetReset : String
  deriving DecidableEq, Repr

namespace ClientOptions

def defaultTopic : String := "calendar-alerts"

def defaultTimeout : Duration := .ofSecs 5

def defaultBufferSize : Nat := 1000

/-- The low 32 bits of a number held at 64 bits. -/
def narrow (n : Int) : Int :=
  Int.bmod (max (-0x8000_0000_0000_0000) (min (0x8000_0000_0000_0000 - 1) n)) 0x1_0000_0000

/-- Whether a text can be handed to the client. -/
def isPlain (text : String) : Bool :=
  !text.toList.contains '\x00'

/-- Whether a text is one of some words, in either case of ASCII letters. -/
def isOneOf (words : List String) (text : List Char) : Bool :=
  words.any fun word => word.toList = text.map Char.toLower

/-- Whether a text chooses one of some words, or is blank but not empty. -/
def chooses (words : List String) (text : String) : Bool :=
  let rest := text.toList.dropWhile Text.isAsciiBlank
  isPlain text && text ≠ "" && (rest = [] || isOneOf words rest)

/-- Acknowledgements: `all`, or a number from -1 to 1000. -/
def acceptsAcks (text : String) : Bool :=
  isPlain text && (isOneOf ["all"] text.toList ||
    (Text.leadingInteger? text.toList).any fun n => -1 ≤ narrow n && narrow n ≤ 1000)

def acceptsCompression (text : String) : Bool :=
  chooses ["none", "gzip", "snappy", "lz4"] text

/-- A bound on delivery is a number of milliseconds, not negative once it is narrowed. -/
def acceptsTimeout (timeout : Duration) : Bool :=
  0 ≤ narrow timeout.millis

def acceptsOffsetReset (text : String) : Bool :=
  chooses ["smallest", "earliest", "beginning", "largest", "latest", "end", "error"] text

/-- A group of consumers has a name that is not blank. -/
def acceptsGroup (text : String) : Bool :=
  isPlain text && text.toList.any fun c => !Text.isAsciiBlank c

/-- The addresses of the brokers, unless they are blank. -/
def addresses? (options : ClientOptions) : Option String :=
  options.brokers.filter fun text => Text.trim text.toList ≠ []

/-- The queue that a caller wants; the client refuses settings that it does not know. -/
def open? (options : ClientOptions) : Except QueueError BrokerQueue :=
  let timeout := options.timeout.getD defaultTimeout
  let topic := options.topic.getD defaultTopic
  if options.addresses?.isNone then .error (.connectionFailed "Brokers not configured")
  else if options.addresses?.all isPlain && acceptsTimeout timeout
      && acceptsAcks (options.acks.getD "all")
      && acceptsCompression (options.compression.getD "none") then
    .ok
      { topic
        timeout
        consumerGroup := options.consumerGroup.getD ("calendar-" ++ topic)
        bufferSize := (options.bufferSize.map (max 1)).getD defaultBufferSize
        offsetReset := options.offsetReset.getD "latest" }
  else .error (.connectionFailed "Failed to create producer")

end ClientOptions

end Datebook
