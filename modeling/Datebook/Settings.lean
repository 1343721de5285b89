import Datebook.Queue.Client
import Datebook.Scheduler.Config
import Datebook.Text.Numeral

/-!
Settings of the reminder service.

`Settings.load` reads twelve variables from any source. Text variables are taken as they are.
Numbers and the flag may be surrounded by blanks; the first one that cannot be used, in the order
port number, most connections, fewest connections, minutes, flag, is reported with its raw value.
A period whose seconds do not fit 64 bits breaks a build with checked arithmetic off, and is cut in
any other: `Settings.loadBy`.
-/

set_option autoImplicit false

namespace Datebook

/-- Where the database is and how its connections are pooled. -/
structure DatabaseSettings where
  host : String := "localhost"
  portNumber : UInt16 := 5432
  user : String := "postgres"
  password : String := "postgres"
  database : String := "calendar"
  maxConnections : UInt32 := 25
  minConnections : UInt32 := 5
  idleTimeout : Duration := .ofSecs 1800
  maxLifetime : Duration := .ofSecs 3600
  acquireTimeout : Duration := .ofSecs 30
  /-- Retries of the first ping. -/
  connectRetries : Nat := 5
  retryPause : Duration := .ofSecs 1
  deriving DecidableEq, Repr

/-- The limits of a pool of connections. -/
structure PoolLimits where
  max : UInt32
  min : UInt32
  idle : Duration
  lifetime : Duration
  acquire : Duration
  deriving DecidableEq, Repr

namespace DatabaseSettings

/-- The pool keeps at least the fewest connections, but never more than the most. -/
def poolLimits (settings : DatabaseSettings) : PoolLimits :=
  { max := settings.maxConnections
    min := if settings.minConnections ≤ settings.maxConnections then settings.minConnections
      else settings.maxConnections
    idle := settings.idleTimeout
    lifetime := settings.maxLifetime
    acquire := settings.acquireTimeout }

/-- The settings for diagnostics, the password hidden. -/
def describe (settings : DatabaseSettings) : String :=
  Text.record "PostgresSettings"
    [("host", Text.quoted settings.host), ("port", toString settings.portNumber.toNat),
      ("user", Text.quoted settings.user), ("password", Text.redacted),
      ("database", Text.quoted settings.database),
      ("max_connections", toString settings.maxConnections.toNat),
      ("min_connections", toString settings.minConnections.toNat),
      ("idle_timeout", settings.idleTimeout.text), ("max_lifetime", settings.maxLifetime.text),
      ("acquire_timeout", settings.acquireTimeout.text),
      ("connect_retries", toString settings.connectRetries),
      ("retry_pause", settings.retryPause.text)]

end DatabaseSettings

structure Settings where
  database : DatabaseSettings
  brokers : String
  topic : String
  scheduler : SchedulerConfig
  logFilter : String
  deriving DecidableEq, Repr

/-- What is wrong with the value of a variable. -/
inductive InvalidReason where
  | numeral (cause : Text.NumeralError)
  | zero
  | notBoolean
  deriving DecidableEq, Repr

def InvalidReason.message : InvalidReason → String
  | .numeral cause => cause.message
  | .zero => "must be greater than zero"
  | .notBoolean => "expected a boolean"

/-- Why loading does not give settings. -/
inductive SettingsError where
  | invalid (name value : String) (reason : InvalidReason)
  /-- Nothing is reported: loading breaks off, as the seconds of the period do not fit 64 bits. -/
  | periodTooLong (minutes : Nat)
  deriving DecidableEq, Repr

def SettingsError.message : SettingsError → String
  | .invalid name value reason =>
    "Invalid value for " ++ name ++ ": " ++ Text.quoted value ++ " (" ++ reason.message ++ ")"
  | .periodTooLong _ => "attempt to multiply with overflow"

namespace Settings

def defaultBrokers : String := "localhost:9092"

def defaultLogFilter : String := "calendar_scheduler=info,calendar_postgres=info"

/-- A source of variables. -/
abbrev Lookup := String → Option String

def textOf (lookup : Lookup) (name fallback : String) : String :=
  (lookup name).getD fallback

/-- A number below a limit. -/
def numberOf (lookup : Lookup) (name : String) (limit fallback : Nat) :
    Except SettingsError Nat :=
  match lookup name with
  | none => .ok fallback
  | some raw =>
    (Text.readUnsigned limit (Text.trim raw.toList)).mapError fun cause =>
      .invalid name raw (.numeral cause)

/-- The flag that a word stands for, in letters of either case. -/
def readFlag? (word : List Char) : Option Bool :=
  let small := String.ofList (word.map Char.toLower)
  if ["1", "true", "yes", "on"].contains small then some true
  else if ["0", "false", "no", "off"].contains small then some false
  else none

def flagOf (lookup : Lookup) (name : String) (fallback : Bool) : Except SettingsError Bool :=
  match lookup name with
  | none => .ok fallback
  | some raw =>
    match readFlag? (Text.trim raw.toList) with
    | some flag => .ok flag
    | none => .error (.invalid name raw .notBoolean)

def loadDatabase (lookup : Lookup) : Except SettingsError DatabaseSettings := do
  let standard : DatabaseSettings := {}
  let portNumber ←
    numberOf lookup "POSTGRES_PORT" 0x1_0000 standard.portNumber.toNat
  let maxConnections ←
    numberOf lookup "POSTGRES_MAX_CONNECTIONS" 0x1_0000_0000 standard.maxConnections.toNat
  let minConnections ←
    numberOf lookup "POSTGRES_MIN_CONNECTIONS" 0x1_0000_0000 standard.minConnections.toNat
  pure
    { host := textOf lookup "POSTGRES_HOST" standard.host
      portNumber := UInt16.ofNat portNumber
      user := textOf lookup "POSTGRES_USER" standard.user
      password := textOf lookup "POSTGRES_PASSWORD" standard.password
      database := textOf lookup "POSTGRES_DB" standard.database
      maxConnections := UInt32.ofNat maxConnections
      minConnections := UInt32.ofNat minConnections }

/-- The name of the variable for the period. -/
def minutesName : String := "SCHEDULE_PERIOD_MINUTES"

/-- The minutes of the period, at least one. -/
def minutesOf (lookup : Lookup) : Except SettingsError Nat := do
  let minutes ← numberOf lookup minutesName 0x1_0000_0000_0000_0000 1
  if minutes = 0 then throw (.invalid minutesName "0" .zero) else pure minutes

def loadScheduler (arithmetic : Arithmetic) (lookup : Lookup) :
    Except SettingsError SchedulerConfig := do
  let minutes ← minutesOf lookup
  let resolveOwnerEmail ← flagOf lookup "RESOLVE_OWNER_EMAIL" true
  match SchedulerConfig.ofMinutesBy arithmetic minutes with
  | some config => pure { config with resolveOwnerEmail }
  | none => throw (.periodTooLong minutes)

/-- The settings that a source of variables gives in a build. -/
def loadBy (arithmetic : Arithmetic) (lookup : Lookup) : Except SettingsError Settings := do
  let database ← loadDatabase lookup
  let scheduler ← loadScheduler arithmetic lookup
  pure
    { database
      brokers := textOf lookup "REDPANDA_BROKERS" defaultBrokers
      topic := textOf lookup "ALERT_TOPIC" ClientOptions.defaultTopic
      scheduler
      logFilter := textOf lookup "RUST_LOG" defaultLogFilter }

/-- The settings that a source of variables gives, with checked arithmetic. -/
def load (lookup : Lookup) : Except SettingsError Settings :=
  loadBy .checked lookup

def describe (settings : Settings) : String :=
  Text.record "Settings"
    [("postgres", settings.database.describe),
      ("redpanda_brokers", Text.quoted settings.brokers),
      ("alert_topic", Text.quoted settings.topic),
      ("scheduler", settings.scheduler.describe), ("log_filter", Text.quoted settings.logFilter)]

end Settings

end Datebook
