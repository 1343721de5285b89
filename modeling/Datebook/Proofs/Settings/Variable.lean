import Datebook.Proofs.Text.Numeral
import Datebook.Settings

/-!
The variables that settings are loaded from.

A variable has a name and a kind. The kind says what the variable may hold, which setting it then
gives, and with which value and reason it is refused otherwise: never both, and neither in two
ways. The readers of numbers, minutes and flags keep to that: `numberOf_answers`,
`minutesOf_answers` and `flagOf_answers`.
-/

set_option autoImplicit false

namespace Datebook.Settings

/-- A number below a limit, between blanks. -/
def Numeral (limit : Nat) (raw : String) (value : Nat) : Prop :=
  ∃ word, Text.IsWord raw.toList word ∧ Text.Denotes limit word value

/-- A text whose word is no number below a limit. -/
def Misread (limit : Nat) (raw : String) (cause : Text.NumeralError) : Prop :=
  ∃ word, Text.IsWord raw.toList word ∧ Text.WordRead limit word (.error cause)

/-- The words for a flag, in small letters. -/
def flagWords : Bool → List String
  | true => ["1", "true", "yes", "on"]
  | false => ["0", "false", "no", "off"]

/-- A word for a flag in letters of either case, between blanks. -/
def FlagWord (raw : String) (flag : Bool) : Prop :=
  ∃ word, Text.IsWord raw.toList word ∧ String.ofList (word.map Char.toLower) ∈ flagWords flag

/-- A value is read off what a variable holds, and another stands in for it if it is not set. -/
def Held {α : Type} (reads : String → α → Prop) (fallback : α) (held : Option String) (value : α) :
    Prop :=
  match held with
  | none => value = fallback
  | some raw => reads raw value

/-- The minutes of the period, by what their variable holds. -/
abbrev HeldMinutes : Option String → Nat → Prop :=
  Held (Numeral 0x1_0000_0000_0000_0000) 1

/-- What a variable may hold. -/
inductive Kind where
  | text (fallback : String)
  /-- A number below a limit. -/
  | number (limit fallback : Nat)
  /-- Minutes that make a period. -/
  | minutes
  | flag (fallback : Bool)

/-- What a variable sets. -/
inductive Setting where
  | text (value : String)
  | number (value : Nat)
  | period (length : Duration)
  | flag (value : Bool)

namespace Kind

def Accepts : Kind → Option String → Prop
  | .text _, _ => True
  | .number limit fallback, held => ∃ value, Held (Numeral limit) fallback held value
  | .minutes, held => ∃ minutes, HeldMinutes held minutes ∧ 0 < minutes
  | .flag fallback, held => ∃ flag, Held FlagWord fallback held flag

/-- The setting that a variable gives. -/
inductive Gives : Kind → Option String → Setting → Prop
  | text (fallback : String) (held : Option String) :
      Gives (.text fallback) held (.text (held.getD fallback))
  | number {limit fallback value : Nat} {held : Option String}
      (given : Held (Numeral limit) fallback held value) :
      Gives (.number limit fallback) held (.number value)
  | period {minutes : Nat} {length : Duration} {held : Option String}
      (given : HeldMinutes held minutes) (positive : 0 < minutes)
      (exact : length.nanos = minutes * 60 * 1000000000) : Gives .minutes held (.period length)
  | flag {fallback flag : Bool} {held : Option String} (given : Held FlagWord fallback held flag) :
      Gives (.flag fallback) held (.flag flag)

/-- The value with which a variable is reported, and the reason. -/
inductive Refuses : Kind → Option String → String → InvalidReason → Prop
  | number {limit fallback : Nat} {raw : String} {cause : Text.NumeralError}
      (misread : Misread limit raw cause) :
      Refuses (.number limit fallback) (some raw) raw (.numeral cause)
  | minutes {raw : String} {cause : Text.NumeralError}
      (misread : Misread 0x1_0000_0000_0000_0000 raw cause) :
      Refuses .minutes (some raw) raw (.numeral cause)
  /-- However zero is written, it is reported as one digit. -/
  | zero {raw : String} (zero : Numeral 0x1_0000_0000_0000_0000 raw 0) :
      Refuses .minutes (some raw) "0" .zero
  | flag {fallback : Bool} {raw : String} (unknown : ∀ flag, ¬FlagWord raw flag) :
      Refuses (.flag fallback) (some raw) raw .notBoolean

end Kind

/-- The variables, in the order of the settings. -/
inductive Variable where
  | host
  | portNumber
  | user
  | password
  | database
  | maxConnections
  | minConnections
  | brokers
  | topic
  | minutes
  | resolveOwnerEmail
  | logFilter
  deriving DecidableEq

namespace Variable

def name : Variable → String
  | host => "POSTGRES_HOST"
  | portNumber => "POSTGRES_PORT"
  | user => "POSTGRES_USER"
  | password => "POSTGRES_PASSWORD"
  | database => "POSTGRES_DB"
  | maxConnections => "POSTGRES_MAX_CONNECTIONS"
  | minConnections => "POSTGRES_MIN_CONNECTIONS"
  | brokers => "REDPANDA_BROKERS"
  | topic => "ALERT_TOPIC"
  | minutes => "SCHEDULE_PERIOD_MINUTES"
  | resolveOwnerEmail => "RESOLVE_OWNER_EMAIL"
  | logFilter => "RUST_LOG"

def kind : Variable → Kind
  | host => .text "localhost"
  | portNumber => .number 0x1_0000 5432
  | user => .text "postgres"
  | password => .text "postgres"
  | database => .text "calendar"
  | maxConnections => .number 0x1_0000_0000 25
  | minConnections => .number 0x1_0000_0000 5
  | brokers => .text "localhost:9092"
  | topic => .text "calendar-alerts"
  | minutes => .minutes
  | resolveOwnerEmail => .flag true
  | logFilter => .text "calendar_scheduler=info,calendar_postgres=info"

/-- What settings say of a variable. -/
def setting (settings : Settings) : Variable → Setting
  | host => .text settings.database.host
  | portNumber => .number settings.database.portNumber.toNat
  | user => .text settings.database.user
  | password => .text settings.database.password
  | database => .text settings.database.database
  | maxConnections => .number settings.database.maxConnections.toNat
  | minConnections => .number settings.database.minConnections.toNat
  | brokers => .text settings.brokers
  | topic => .text settings.topic
  | minutes => .period settings.scheduler.period
  | resolveOwnerEmail => .flag settings.scheduler.resolveOwnerEmail
  | logFilter => .text settings.logFilter

/-- The variables that may be refused, in the order in which they are read. -/
def checked : List Variable :=
  [portNumber, maxConnections, minConnections, minutes, resolveOwnerEmail]

end Variable

theorem Numeral.read {limit value : Nat} {raw : String} (numeral : Numeral limit raw value) :
    Text.readUnsigned limit (Text.trim raw.toList) = .ok value := by
  obtain ⟨word, isWord, denotes⟩ := numeral
  rw [isWord.eq_trim]
  exact (Text.denotes_iff.mp denotes).eq_readUnsigned

theorem Misread.read {limit : Nat} {raw : String} {cause : Text.NumeralError}
    (misread : Misread limit raw cause) :
    Text.readUnsigned limit (Text.trim raw.toList) = .error cause := by
  obtain ⟨word, isWord, read⟩ := misread
  rw [isWord.eq_trim]
  exact read.eq_readUnsigned

theorem Numeral.unique {limit : Nat} {raw : String} {value other : Nat}
    (numeral : Numeral limit raw value) (too : Numeral limit raw other) : value = other :=
  Except.ok.inj (numeral.read.symm.trans too.read)

theorem Numeral.not_misread {limit value : Nat} {raw : String} {cause : Text.NumeralError}
    (numeral : Numeral limit raw value) : ¬Misread limit raw cause :=
  fun misread => nomatch numeral.read.symm.trans misread.read

theorem Misread.unique {limit : Nat} {raw : String} {cause other : Text.NumeralError}
    (misread : Misread limit raw cause) (too : Misread limit raw other) : cause = other :=
  Except.error.inj (misread.read.symm.trans too.read)

theorem readFlag?_eq_some_iff (word : List Char) (flag : Bool) :
    readFlag? word = some flag ↔ String.ofList (word.map Char.toLower) ∈ flagWords flag := by
  have apart : ∀ small ∈ flagWords true, small ∉ flagWords false := by decide
  rw [readFlag?]
  generalize String.ofList (word.map Char.toLower) = small
  have yes : ["1", "true", "yes", "on"].contains small = true ↔ small ∈ flagWords true :=
    List.contains_iff_mem
  have no : ["0", "false", "no", "off"].contains small = true ↔ small ∈ flagWords false :=
    List.contains_iff_mem
  simp only [yes, no]
  cases flag with
  | true => by_cases known : small ∈ flagWords true <;> simp [known]
  | false =>
    by_cases known : small ∈ flagWords true
    · simp [known, apart small known]
    · simp [known]

theorem FlagWord.read {raw : String} {flag : Bool} (known : FlagWord raw flag) :
    readFlag? (Text.trim raw.toList) = some flag := by
  obtain ⟨word, isWord, known⟩ := known
  rw [isWord.eq_trim]
  exact (readFlag?_eq_some_iff word flag).mpr known

theorem FlagWord.unique {raw : String} {flag other : Bool} (known : FlagWord raw flag)
    (too : FlagWord raw other) : flag = other :=
  Option.some.inj (known.read.symm.trans too.read)

theorem Held.unique {α : Type} {reads : String → α → Prop} {fallback value other : α}
    {held : Option String} (given : Held reads fallback held value)
    (too : Held reads fallback held other)
    (unique : ∀ {raw : String}, reads raw value → reads raw other → value = other) :
    value = other := by
  cases held with
  | none => exact Eq.trans given (Eq.symm too)
  | some raw => exact unique given too

theorem HeldMinutes.unique {held : Option String} {minutes other : Nat}
    (given : HeldMinutes held minutes) (too : HeldMinutes held other) : minutes = other :=
  Held.unique given too Numeral.unique

namespace Kind

theorem Gives.accepts {kind : Kind} {held : Option String} {setting : Setting}
    (gives : kind.Gives held setting) : kind.Accepts held := by
  cases gives with
  | text => trivial
  | number given => exact ⟨_, given⟩
  | period given positive => exact ⟨_, given, positive⟩
  | flag given => exact ⟨_, given⟩

theorem Gives.unique {kind : Kind} {held : Option String} {setting other : Setting}
    (gives : kind.Gives held setting) (too : kind.Gives held other) : setting = other := by
  cases gives with
  | text fallback held =>
    cases too
    rfl
  | number given =>
    cases too with
    | number givenToo => rw [Held.unique given givenToo Numeral.unique]
  | @period minutes length _ given _ exact =>
    cases too with
    | @period _ other _ givenToo _ exactToo =>
      rw [← HeldMinutes.unique given givenToo, ← exact] at exactToo
      rw [Duration.eq_of_nanos exactToo]
  | flag given =>
    cases too with
    | flag givenToo => rw [Held.unique given givenToo FlagWord.unique]

theorem Refuses.not_accepts {kind : Kind} {held : Option String} {value : String}
    {reason : InvalidReason} (refuses : kind.Refuses held value reason) : ¬kind.Accepts held := by
  cases refuses with
  | number misread =>
    rintro ⟨_, numeral⟩
    exact Numeral.not_misread numeral misread
  | minutes misread =>
    rintro ⟨_, numeral, _⟩
    exact Numeral.not_misread numeral misread
  | zero zero =>
    rintro ⟨minutes, numeral, positive⟩
    exact Nat.ne_of_lt positive (Numeral.unique zero numeral)
  | flag unknown =>
    rintro ⟨flag, known⟩
    exact unknown flag known

theorem Refuses.unique {kind : Kind} {held : Option String} {value other : String}
    {reason because : InvalidReason} (refuses : kind.Refuses held value reason)
    (too : kind.Refuses held other because) : value = other ∧ reason = because := by
  cases refuses with
  | number misread =>
    cases too with
    | number misreadToo => exact ⟨rfl, congrArg _ (misread.unique misreadToo)⟩
  | minutes misread =>
    cases too with
    | minutes misreadToo => exact ⟨rfl, congrArg _ (misread.unique misreadToo)⟩
    | zero zero => exact absurd misread zero.not_misread
  | zero zero =>
    cases too with
    | minutes misread => exact absurd misread zero.not_misread
    | zero => exact ⟨rfl, rfl⟩
  | flag _ =>
    cases too
    exact ⟨rfl, rfl⟩

end Kind

/-- A reader gives a value that the variable holds or reports it by its name. -/
inductive Answers {α : Type} (name : String) (holds : α → Prop)
    (refuses : String → InvalidReason → Prop) : Except SettingsError α → Prop
  | given {value : α} (given : holds value) : Answers name holds refuses (.ok value)
  | refused {value : String} {reason : InvalidReason} (refused : refuses value reason) :
      Answers name holds refuses (.error (.invalid name value reason))

section Readers

variable (lookup : Lookup) (name : String)

theorem numberOf_answers {limit : Nat} (positive : 0 < limit) (fallback : Nat) :
    Answers name (Held (Numeral limit) fallback (lookup name))
      ((Kind.number limit fallback).Refuses (lookup name))
      (numberOf lookup name limit fallback) := by
  rw [numberOf]
  cases lookup name with
  | none => exact .given rfl
  | some raw =>
    have read := (Text.readUnsigned_eq_iff positive (Text.trim raw.toList) _).mp rfl
    dsimp only
    cases result : Text.readUnsigned limit (Text.trim raw.toList) with
    | ok value =>
      rw [result] at read
      exact .given ⟨_, Text.trim_isWord _, Text.denotes_iff.mpr read⟩
    | error cause =>
      rw [result] at read
      exact .refused (.number ⟨_, Text.trim_isWord _, read⟩)

theorem minutesOf_answers :
    Answers minutesName (fun minutes => HeldMinutes (lookup minutesName) minutes ∧ 0 < minutes)
      (Kind.minutes.Refuses (lookup minutesName)) (minutesOf lookup) := by
  have answers : Answers minutesName (HeldMinutes (lookup minutesName)) _ _ :=
    numberOf_answers lookup minutesName (by decide) 1
  rw [minutesOf]
  generalize numberOf lookup minutesName _ 1 = outcome at answers ⊢
  generalize lookup minutesName = held at answers ⊢
  cases answers with
  | refused refuses =>
    cases refuses with
    | number misread => exact .refused (.minutes misread)
  | @given minutes given =>
    show Answers _ _ _ (if minutes = 0 then Except.error _ else Except.ok minutes)
    split
    · rename_i zero
      cases held with
      | none => exact absurd (zero.symm.trans given) (by decide)
      | some raw => exact .refused (.zero (zero ▸ given))
    · rename_i nonzero
      exact .given ⟨given, Nat.pos_of_ne_zero nonzero⟩

theorem flagOf_answers (fallback : Bool) :
    Answers name (Held FlagWord fallback (lookup name))
      ((Kind.flag fallback).Refuses (lookup name)) (flagOf lookup name fallback) := by
  rw [flagOf]
  cases lookup name with
  | none => exact .given rfl
  | some raw =>
    dsimp only
    cases read : readFlag? (Text.trim raw.toList) with
    | some flag =>
      exact .given ⟨_, Text.trim_isWord _, (readFlag?_eq_some_iff _ flag).mp read⟩
    | none =>
      refine .refused (.flag fun flag known => ?_)
      cases read.symm.trans known.read

end Readers

end Datebook.Settings
