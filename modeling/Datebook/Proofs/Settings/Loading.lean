import Datebook.Proofs.Settings.Variable

/-!
Loading settings.

Loading gives settings exactly when no variable is refused, and the variables decide them, each its
own. Otherwise the first variable that is refused is reported. Main statement: `loadBy_exact`.
-/

set_option autoImplicit false

namespace Datebook

namespace SchedulerConfig

/-- The period is what 64 bits keep of sixty times the minutes, and all else is as usual. -/
theorem ofMinutesBy_some {arithmetic : Arithmetic} {minutes : Nat} {config : SchedulerConfig}
    (made : ofMinutesBy arithmetic minutes = some config) :
    ∃ period : Duration, config = { period } ∧
      period.nanos = minutes * 60 % 0x1_0000_0000_0000_0000 * 1000000000 := by
  cases arithmetic with
  | checked =>
    obtain ⟨period, parts, rfl⟩ := Option.map_eq_some_iff.mp made
    refine ⟨period, rfl, ?_⟩
    rw [Duration.ofParts?, Duration.ofNanos?] at parts
    split at parts
    · cases parts
      dsimp only
      omega
    · cases parts
  | wrapping =>
    cases made
    refine ⟨_, rfl, ?_⟩
    show (UInt64.ofNat (minutes * 60)).toNat * 1000000000 = _
    rw [UInt64.toNat_ofNat']

theorem ofMinutesBy_eq_none_iff (arithmetic : Arithmetic) (minutes : Nat) :
    ofMinutesBy arithmetic minutes = none ↔
      arithmetic = .checked ∧ 0x1_0000_0000_0000_0000 ≤ minutes * 60 := by
  cases arithmetic with
  | checked =>
    rw [ofMinutesBy, ofMinutes?, Duration.ofParts?, Duration.ofNanos?, Option.map_eq_none_iff]
    split
    · simp only [reduceCtorEq, true_and, false_iff]
      omega
    · simp only [true_and, true_iff]
      omega
  | wrapping => simp [ofMinutesBy]

end SchedulerConfig

namespace Settings

/-- What no variable sets is as usual. -/
structure Standard (settings : Settings) : Prop where
  database : settings.database =
    { host := settings.database.host
      portNumber := settings.database.portNumber
      user := settings.database.user
      password := settings.database.password
      database := settings.database.database
      maxConnections := settings.database.maxConnections
      minConnections := settings.database.minConnections }
  scheduler : settings.scheduler =
    { period := settings.scheduler.period
      resolveOwnerEmail := settings.scheduler.resolveOwnerEmail }

/-- The settings that a source gives: each variable its own, and the rest as usual. -/
structure Given (lookup : Lookup) (settings : Settings) : Prop where
  each (v : Variable) : v.kind.Gives (lookup v.name) (v.setting settings)
  standard : settings.Standard

/-- The first variable that is refused, in the order in which they are read. -/
structure FirstRefused (lookup : Lookup) (v : Variable) (value : String) (reason : InvalidReason) :
    Prop where
  refused : v.kind.Refuses (lookup v.name) value reason
  earlier : ∃ before after, Variable.checked = before ++ v :: after ∧
    ∀ u ∈ before, u.kind.Accepts (lookup u.name)

/-- The seconds of the period fit 64 bits. -/
def PeriodFits (lookup : Lookup) : Prop :=
  ∀ minutes, HeldMinutes (lookup minutesName) minutes → minutes * 60 < 0x1_0000_0000_0000_0000

/-- How loading ends. -/
inductive Loaded (arithmetic : Arithmetic) (lookup : Lookup) : Except SettingsError Settings → Prop
  | refused {v : Variable} {value : String} {reason : InvalidReason}
      (first : FirstRefused lookup v value reason) :
      Loaded arithmetic lookup (.error (.invalid v.name value reason))
  | brokenOff {minutes : Nat} (accepted : ∀ v : Variable, v.kind.Accepts (lookup v.name))
      (given : HeldMinutes (lookup minutesName) minutes)
      (off : SchedulerConfig.ofMinutesBy arithmetic minutes = none) :
      Loaded arithmetic lookup (.error (.periodTooLong minutes))
  | accepted {minutes : Nat} {settings : Settings}
      (accepted : ∀ v : Variable, v.kind.Accepts (lookup v.name))
      (given : HeldMinutes (lookup minutesName) minutes) (positive : 0 < minutes)
      (made : SchedulerConfig.ofMinutesBy arithmetic minutes =
        some { period := settings.scheduler.period })
      (others : ∀ v : Variable, v ≠ .minutes → v.kind.Gives (lookup v.name) (v.setting settings))
      (standard : settings.Standard) :
      Loaded arithmetic lookup (.ok settings)

section

variable {arithmetic : Arithmetic} {lookup : Lookup}

/-- Reading a variable ends loading, if it is refused after all before it were accepted. If it is
accepted too, reading goes on. -/
theorem Loaded.read {α : Type} {v : Variable} {holds : α → Prop} {outcome : Except SettingsError α}
    {next : α → Except SettingsError Settings} (before after : List Variable)
    (split : Variable.checked = before ++ v :: after)
    (accepted : ∀ u ∈ before, u.kind.Accepts (lookup u.name))
    (answers : Answers v.name holds (v.kind.Refuses (lookup v.name)) outcome)
    (accepts : ∀ value, holds value → v.kind.Accepts (lookup v.name))
    (goesOn : ∀ value, holds value → (∀ u ∈ before ++ [v], u.kind.Accepts (lookup u.name)) →
      Loaded arithmetic lookup (next value)) :
    Loaded arithmetic lookup (outcome >>= next) := by
  cases answers with
  | refused refused => exact .refused ⟨refused, before, after, split, accepted⟩
  | @given value given =>
    refine goesOn value given fun u member => ?_
    rcases List.mem_append.mp member with earlier | last
    · exact accepted u earlier
    · rw [List.mem_singleton.mp last]
      exact accepts value given

theorem Held.below {limit fallback value : Nat} {held : Option String} (small : fallback < limit)
    (given : Held (Numeral limit) fallback held value) : value < limit := by
  cases held with
  | none => exact Nat.lt_of_le_of_lt (Nat.le_of_eq given) small
  | some raw =>
    obtain ⟨_, _, _, _, _, _, _, below⟩ := given
    exact below

end

theorem loadBy_loaded (arithmetic : Arithmetic) (lookup : Lookup) :
    Loaded arithmetic lookup (loadBy arithmetic lookup) := by
  unfold loadBy loadDatabase loadScheduler
  simp only [bind_assoc, pure_bind]
  refine .read (v := .portNumber) [] _ rfl (fun _ member => nomatch member)
    (numberOf_answers lookup _ (by decide) _) (fun port given => ⟨port, given⟩)
    fun port portGiven accepted => ?_
  refine .read (v := .maxConnections) [.portNumber] _ rfl accepted
    (numberOf_answers lookup _ (by decide) _) (fun most given => ⟨most, given⟩)
    fun most mostGiven accepted => ?_
  refine .read (v := .minConnections) [.portNumber, .maxConnections] _ rfl accepted
    (numberOf_answers lookup _ (by decide) _) (fun fewest given => ⟨fewest, given⟩)
    fun fewest fewestGiven accepted => ?_
  refine .read (v := .minutes) [.portNumber, .maxConnections, .minConnections] _ rfl accepted
    (minutesOf_answers lookup) (fun minutes given => ⟨minutes, given⟩)
    fun minutes minutesGiven accepted => ?_
  refine .read (v := .resolveOwnerEmail)
    [.portNumber, .maxConnections, .minConnections, .minutes] _ rfl accepted
    (flagOf_answers lookup _ _) (fun flag given => ⟨flag, given⟩)
    fun flag flagGiven accepted => ?_
  have accepted (v : Variable) : v.kind.Accepts (lookup v.name) := by
    cases v with
    | host | user | password | database | brokers | topic | logFilter => trivial
    | _ => exact accepted _ (by decide)
  cases made : SchedulerConfig.ofMinutesBy arithmetic minutes with
  | none => exact .brokenOff accepted minutesGiven.1 made
  | some config =>
    obtain ⟨period, rfl, _⟩ := SchedulerConfig.ofMinutesBy_some made
    refine .accepted accepted minutesGiven.1 minutesGiven.2 made ?_ ⟨rfl, rfl⟩
    intro v other
    cases v with
    | host | user | password | database | brokers | topic | logFilter => exact .text _ _
    | portNumber =>
      have kept : (UInt16.ofNat port).toNat = port :=
        UInt16.toNat_ofNat_of_lt' (portGiven.below (by decide))
      exact .number (kept.symm ▸ portGiven)
    | maxConnections =>
      have kept : (UInt32.ofNat most).toNat = most :=
        UInt32.toNat_ofNat_of_lt' (mostGiven.below (by decide))
      exact .number (kept.symm ▸ mostGiven)
    | minConnections =>
      have kept : (UInt32.ofNat fewest).toNat = fewest :=
        UInt32.toNat_ofNat_of_lt' (fewestGiven.below (by decide))
      exact .number (kept.symm ▸ fewestGiven)
    | minutes => exact absurd rfl other
    | resolveOwnerEmail => exact .flag flagGiven

/-- No two variables have one name. -/
theorem Variable.name_injective {v w : Variable} (same : v.name = w.name) : v = w := by
  cases v <;> cases w <;> first | rfl | exact absurd same (by decide)

section

variable {arithmetic : Arithmetic} {lookup : Lookup} {settings : Settings}

/-- If settings are loaded, no variable is refused. -/
theorem accepts_of_loadBy (loaded : loadBy arithmetic lookup = .ok settings) (v : Variable) :
    v.kind.Accepts (lookup v.name) := by
  have ends := loadBy_loaded arithmetic lookup
  rw [loaded] at ends
  cases ends with
  | accepted accepted => exact accepted v

theorem FirstRefused.unique {v w : Variable} {value other : String} {reason because : InvalidReason}
    (first : FirstRefused lookup v value reason) (too : FirstRefused lookup w other because) :
    v = w ∧ value = other ∧ reason = because := by
  obtain ⟨refused, before, after, split, accepted⟩ := first
  obtain ⟨refusedToo, beforeToo, afterToo, splitToo, acceptedToo⟩ := too
  have same : v = w := by
    rcases List.append_eq_append_iff.mp (split.symm.trans splitToo) with
      ⟨between, later, rest⟩ | ⟨between, later, rest⟩
    · cases between with
      | nil => exact (List.cons.inj rest).1
      | cons u between =>
        obtain ⟨rfl, -⟩ := List.cons.inj rest
        exact absurd (acceptedToo v (by simp [later])) refused.not_accepts
    · cases between with
      | nil => exact (List.cons.inj rest).1.symm
      | cons u between =>
        obtain ⟨rfl, -⟩ := List.cons.inj rest
        exact absurd (accepted w (by simp [later])) refusedToo.not_accepts
  subst same
  exact ⟨rfl, refused.unique refusedToo⟩

/-- Settings that are loaded are the given ones, as long as the seconds of the period fit. -/
theorem given_of_loadBy (fits : PeriodFits lookup) (loaded : loadBy arithmetic lookup = .ok settings) :
    Given lookup settings := by
  have ends := loadBy_loaded arithmetic lookup
  rw [loaded] at ends
  cases ends with
  | @accepted minutes _ _ given positive made others standard =>
    refine ⟨fun v => ?_, standard⟩
    by_cases period : v = .minutes
    · subst period
      obtain ⟨_, same, nanos⟩ := SchedulerConfig.ofMinutesBy_some made
      cases same
      rw [Nat.mod_eq_of_lt (fits minutes given)] at nanos
      exact .period given positive nanos
    · exact others v period

/-- If no variable is refused, settings are loaded, as long as the seconds of the period fit. -/
theorem loadBy_of_accepted (arithmetic : Arithmetic) (fits : PeriodFits lookup)
    (accepted : ∀ v : Variable, v.kind.Accepts (lookup v.name)) :
    ∃ settings, loadBy arithmetic lookup = .ok settings := by
  have ends := loadBy_loaded arithmetic lookup
  generalize loadBy arithmetic lookup = outcome at ends
  cases ends with
  | refused first => exact absurd (accepted _) first.refused.not_accepts
  | brokenOff _ given off =>
    have long := ((SchedulerConfig.ofMinutesBy_eq_none_iff _ _).mp off).2
    exact absurd (fits _ given) (Nat.not_lt_of_le long)
  | accepted => exact ⟨_, rfl⟩

theorem Given.unique {other : Settings} (given : Given lookup settings) (too : Given lookup other) :
    settings = other := by
  have same (v : Variable) : v.setting settings = v.setting other :=
    (given.each v).unique (too.each v)
  have database : settings.database = other.database := by
    rw [given.standard.database, too.standard.database, Setting.text.inj (same .host),
      UInt16.toNat_inj.mp (Setting.number.inj (same .portNumber)), Setting.text.inj (same .user),
      Setting.text.inj (same .password), Setting.text.inj (same .database),
      UInt32.toNat_inj.mp (Setting.number.inj (same .maxConnections)),
      UInt32.toNat_inj.mp (Setting.number.inj (same .minConnections))]
  have scheduler : settings.scheduler = other.scheduler := by
    rw [given.standard.scheduler, too.standard.scheduler, Setting.period.inj (same .minutes),
      Setting.flag.inj (same .resolveOwnerEmail)]
  have brokers := Setting.text.inj (same .brokers)
  have topic := Setting.text.inj (same .topic)
  have logFilter := Setting.text.inj (same .logFilter)
  cases settings
  cases other
  cases database
  cases brokers
  cases topic
  cases scheduler
  cases logFilter
  rfl

/-- A setting is decided by its own variable alone. -/
theorem setting_eq_of_own {other : Lookup} {changed : Settings}
    (loaded : loadBy arithmetic lookup = .ok settings)
    (loadedToo : loadBy arithmetic other = .ok changed) {v : Variable}
    (own : other v.name = lookup v.name) : v.setting changed = v.setting settings := by
  have ends := loadBy_loaded arithmetic lookup
  have endsToo := loadBy_loaded arithmetic other
  rw [loaded] at ends
  rw [loadedToo] at endsToo
  cases ends with
  | @accepted minutes _ _ given _ made others _ =>
    cases endsToo with
    | @accepted minutesToo _ _ givenToo _ madeToo othersToo _ =>
      by_cases period : v = .minutes
      · subst period
        rw [show other minutesName = lookup minutesName from own] at givenToo
        rw [givenToo.unique given, made] at madeToo
        exact congrArg Setting.period (SchedulerConfig.mk.inj (Option.some.inj madeToo)).1.symm
      · have gives := othersToo v period
        rw [own] at gives
        exact gives.unique (others v period)

/-- Settings are loaded exactly when they are the given ones. -/
theorem loadBy_eq_ok_iff (arithmetic : Arithmetic) (fits : PeriodFits lookup)
    (settings : Settings) : loadBy arithmetic lookup = .ok settings ↔ Given lookup settings := by
  refine ⟨given_of_loadBy fits, fun given => ?_⟩
  obtain ⟨found, loaded⟩ :=
    loadBy_of_accepted arithmetic fits fun v => (given.each v).accepts
  rw [loaded, (given_of_loadBy fits loaded).unique given]

/-- Otherwise the first variable that is refused is reported. -/
theorem loadBy_eq_error_iff (arithmetic : Arithmetic) (fits : PeriodFits lookup)
    (error : SettingsError) :
    loadBy arithmetic lookup = .error error ↔
      ∃ v value reason, FirstRefused lookup v value reason ∧
        error = .invalid v.name value reason := by
  have ends := loadBy_loaded arithmetic lookup
  generalize loadBy arithmetic lookup = outcome at ends ⊢
  constructor
  · rintro rfl
    cases ends with
    | refused first => exact ⟨_, _, _, first, rfl⟩
    | brokenOff _ given off =>
      have long := ((SchedulerConfig.ofMinutesBy_eq_none_iff _ _).mp off).2
      exact absurd (fits _ given) (Nat.not_lt_of_le long)
  · rintro ⟨v, value, reason, first, rfl⟩
    cases ends with
    | refused firstToo =>
      obtain ⟨rfl, rfl, rfl⟩ := first.unique firstToo
      rfl
    | brokenOff accepted | accepted accepted =>
      exact absurd (accepted v) first.refused.not_accepts

theorem poolLimits_min_le_max (database : DatabaseSettings) :
    database.poolLimits.min ≤ database.poolLimits.max := by
  rw [DatabaseSettings.poolLimits]
  dsimp only
  split
  · assumption
  · exact UInt32.le_refl _

/-- In every build, loading gives settings exactly when each variable holds what it may hold. These
are then what the variables say, each by its own and whatever the others hold, and the pool never
keeps more connections than it may have. Otherwise the first variable that is refused is reported,
whatever those after it hold. -/
theorem loadBy_exact (arithmetic : Arithmetic) (fits : PeriodFits lookup) :
    ((∃ settings, loadBy arithmetic lookup = .ok settings) ↔
      ∀ v : Variable, v.kind.Accepts (lookup v.name)) ∧
    (∀ error, loadBy arithmetic lookup = .error error ↔
      ∃ v value reason, FirstRefused lookup v value reason ∧
        error = .invalid v.name value reason) ∧
    (∀ settings, loadBy arithmetic lookup = .ok settings ↔ Given lookup settings) ∧
    ∀ settings, loadBy arithmetic lookup = .ok settings →
      settings.database.poolLimits.min ≤ settings.database.poolLimits.max ∧
      ∀ other changed, loadBy arithmetic other = .ok changed →
        (∀ v : Variable, other v.name = lookup v.name →
          v.setting changed = v.setting settings) ∧
        ∀ v : Variable, (∀ name, name ≠ v.name → other name = lookup name) →
          ∀ w : Variable, w ≠ v → w.setting changed = w.setting settings := by
  refine ⟨?_, loadBy_eq_error_iff arithmetic fits, loadBy_eq_ok_iff arithmetic fits, ?_⟩
  · constructor
    · rintro ⟨settings, loaded⟩
      exact accepts_of_loadBy loaded
    · exact loadBy_of_accepted arithmetic fits
  · intro settings loaded
    refine ⟨poolLimits_min_le_max _, fun other changed loadedToo => ⟨?_, ?_⟩⟩
    · exact fun v own => setting_eq_of_own loaded loadedToo own
    · intro v others w different
      apply setting_eq_of_own loaded loadedToo
      exact others w.name fun same => different (Variable.name_injective same)

end

/-- Blanks and a sign around a number do not matter, and neither does how a flag is written; but
texts are taken as they are. Two variables are wrong in the second source, and the first of them is
reported. -/
theorem loadBy_exact_worked :
    let lookup : Lookup :=
      ([("POSTGRES_PORT", " +06432\n"), ("POSTGRES_DB", " cal "), ("SCHEDULE_PERIOD_MINUTES", "\t015"),
        ("RESOLVE_OWNER_EMAIL", " Off ")].lookup ·)
    let wrong : Lookup :=
      ([("POSTGRES_PORT", "6432"), ("POSTGRES_MIN_CONNECTIONS", "5x"),
        ("RESOLVE_OWNER_EMAIL", "maybe")].lookup ·)
    PeriodFits lookup ∧ PeriodFits wrong ∧
      Given lookup
        { database := { portNumber := 6432, database := " cal " }
          brokers := defaultBrokers
          topic := ClientOptions.defaultTopic
          scheduler := { period := .ofSecs 900, resolveOwnerEmail := false }
          logFilter := defaultLogFilter } ∧
      FirstRefused wrong .minConnections "5x" (.numeral .invalidDigit) := by
  intro lookup wrong
  have fits : PeriodFits lookup := by
    intro minutes given
    have read : Except.ok 15 = Except.ok minutes := Numeral.read given
    cases read
    decide
  have fitsToo : PeriodFits wrong := by
    intro minutes given
    cases (show minutes = 1 from given)
    decide
  refine ⟨fits, fitsToo, ?_, ?_⟩
  · exact ((loadBy_exact .checked fits).2.2.1 _).mp rfl
  · obtain ⟨v, value, reason, first, same⟩ :=
      ((loadBy_exact .checked fitsToo).2.1
        (.invalid "POSTGRES_MIN_CONNECTIONS" "5x" (.numeral .invalidDigit))).mp rfl
    obtain ⟨name, rfl, rfl⟩ := SettingsError.invalid.inj same
    cases (Variable.name_injective name : Variable.minConnections = v)
    exact first

end Settings

end Datebook
