import ClusterGraph.Proofs.Settings.WatchedKinds
import ClusterGraph.Proofs.Text.Decimal

namespace ClusterGraph

/-! What loaded settings can be. Whatever the variables hold, either one of them is refused, or all
settings are within their bounds. Such settings are loaded again from variables that hold their
texts. -/

theorem LogLevel.ofName?_name (level : LogLevel) :
    LogLevel.ofName? level.name.toLower = some level := by
  cases level <;> decide +kernel

theorem LogFormat.ofName?_name (format : LogFormat) :
    LogFormat.ofName? format.name.toLower = some format := by
  cases format <;> decide +kernel

namespace Settings

variable {environment : Environment} {settings : Settings} {low high : Nat}

/-- The value of a variable, or a default if it is not set. -/
def valueOf (environment : Environment) (name default : String) : String :=
  (environment name).getD default

def HasScheme (uri : String) : Prop :=
  ∃ scheme ∈ schemes, scheme.toList <+: uri.toList

def IsPort (port : Int) : Prop :=
  port = 0 ∨ 1024 ≤ port ∧ port ≤ 65535

theorem clamp_bounds (ordered : low ≤ high) (value : Int) :
    low ≤ clamp low high value ∧ clamp low high value ≤ high := by
  unfold clamp
  omega

theorem clamp_within {value : Nat} (bounds : low ≤ value ∧ value ≤ high) :
    clamp low high value = value := by
  unfold clamp
  omega

/-- A reader gives a value of which one thing is true, or an error of which another is. -/
def Settles {α : Type} (refused : SettingsError → Prop) (told : α → Prop) :
    Except SettingsError α → Prop
  | .ok value => told value
  | .error error => refused error

section Settles

variable {α β : Type} {refused others : SettingsError → Prop} {told : α → Prop}
  {result : Except SettingsError α}

theorem Settles.bind {next : α → Except SettingsError β} {nextTold : β → Prop}
    (first : Settles refused told result)
    (later : ∀ value, told value → Settles refused nextTold (next value)) :
    Settles refused nextTold (result >>= next) := by
  cases result with
  | ok value => exact later value first
  | error error => exact first

theorem Settles.refusing (settles : Settles refused told result)
    (known : ∀ error, refused error → others error) : Settles others told result := by
  cases result with
  | ok value => exact settles
  | error error => exact known error settles

end Settles

theorem readUri_settles (uri : String) :
    Settles (fun error => error = .badUri uri ∧ ¬ HasScheme uri)
      (fun read => read = uri ∧ HasScheme uri) (readUri uri) := by
  have found : (schemes.any fun scheme => scheme.toList.isPrefixOf uri.toList) = true ↔
      HasScheme uri := by
    simp only [List.any_eq_true, List.isPrefixOf_iff_prefix, HasScheme]
  unfold readUri
  split
  · rename_i any
    exact ⟨rfl, found.mp any⟩
  · rename_i none
    exact ⟨rfl, fun has => none (found.mpr has)⟩

theorem readNumber_settles (text : String) :
    Settles (fun error => ∃ cause, error = .badInteger cause ∧ Text.readInteger text = .error cause)
      (fun value => Text.readInteger text = .ok value) (readNumber text) := by
  unfold readNumber
  cases read : Text.readInteger text with
  | ok value => exact rfl
  | error cause => exact ⟨cause, rfl, rfl⟩

theorem readPort_settles (text : String) :
    Settles (fun error =>
        (∃ cause, error = .badInteger cause ∧ Text.readInteger text = .error cause) ∨
        ∃ port, error = .badPort port ∧ Text.readInteger text = .ok port ∧ ¬ IsPort port)
      (fun port : Nat => Text.readInteger text = .ok (port : Int) ∧ IsPort port)
      (readPort text) := by
  refine ((readNumber_settles text).refusing fun _ => Or.inl).bind fun port read => ?_
  split
  · rename_i isPort
    have positive : (port.toNat : Int) = port := by omega
    show Text.readInteger text = .ok (port.toNat : Int) ∧ IsPort (port.toNat : Int)
    rw [positive]
    exact ⟨read, isPort⟩
  · rename_i noPort
    exact .inr ⟨port, rfl, read, noPort⟩

theorem readLogLevel_settles (name : String) :
    Settles (fun error => error = .badLogLevel name ∧ LogLevel.ofName? name.toLower = none)
      (fun level => LogLevel.ofName? name.toLower = some level) (readLogLevel name) := by
  unfold readLogLevel
  cases found : LogLevel.ofName? name.toLower with
  | some level => exact rfl
  | none => exact ⟨rfl, rfl⟩

theorem readLogFormat_settles (name : String) :
    Settles (fun error => error = .badLogFormat name ∧ LogFormat.ofName? name.toLower = none)
      (fun format => LogFormat.ofName? name.toLower = some format) (readLogFormat name) := by
  unfold readLogFormat
  cases found : LogFormat.ofName? name.toLower with
  | some format => exact rfl
  | none => exact ⟨rfl, rfl⟩

/-- The variables that hold numbers, with their defaults. -/
def numberVariables : List (String × String) :=
  [("NEO4J_CONNECTION_TIMEOUT", "30"), ("WATCH_TIMEOUT", "300"), ("SYNC_TIMEOUT", "30"),
   ("METRICS_PORT", "9090")]

/-- What an error says is wrong with the value of a variable. -/
def Refuses (environment : Environment) : SettingsError → Prop
  | .badUri uri =>
      uri = valueOf environment "NEO4J_URI" "bolt://localhost:7687" ∧ ¬ HasScheme uri
  | .badInteger cause =>
      ∃ name default, (name, default) ∈ numberVariables ∧
        Text.readInteger (valueOf environment name default) = .error cause
  | .badPort port =>
      Text.readInteger (valueOf environment "METRICS_PORT" "9090") = .ok port ∧ ¬ IsPort port
  | .badLogLevel name =>
      name = valueOf environment "LOG_LEVEL" "info" ∧ LogLevel.ofName? name.toLower = none
  | .badLogFormat name =>
      name = valueOf environment "LOG_FORMAT" "json" ∧ LogFormat.ofName? name.toLower = none
  | .unsupportedKinds _ => False

/-- The settings that the variables tell. -/
structure Tells (environment : Environment) (settings : Settings) : Prop where
  cluster : settings.cluster = valueOf environment "CLUSTER_NAME" ""
  uri : settings.store.uri = valueOf environment "NEO4J_URI" "bolt://localhost:7687" ∧
    HasScheme (valueOf environment "NEO4J_URI" "bolt://localhost:7687")
  user : settings.store.user = valueOf environment "NEO4J_USER" "neo4j"
  password : settings.store.password = valueOf environment "NEO4J_PASSWORD" ""
  database : settings.store.database = valueOf environment "NEO4J_DATABASE" "neo4j"
  connectionTimeout : ∃ seconds,
    Text.readInteger (valueOf environment "NEO4J_CONNECTION_TIMEOUT" "30") = .ok seconds ∧
      settings.store.connectionTimeout = clamp 1 300 seconds
  kinds : settings.kinds = splitKinds (valueOf environment "WATCH_KINDS" "")
  watchTimeout : ∃ seconds,
    Text.readInteger (valueOf environment "WATCH_TIMEOUT" "300") = .ok seconds ∧
      settings.watchTimeout = clamp 30 3600 seconds
  syncTimeout : ∃ seconds,
    Text.readInteger (valueOf environment "SYNC_TIMEOUT" "30") = .ok seconds ∧
      settings.syncTimeout = clamp 1 300 seconds
  metricsPort : Text.readInteger (valueOf environment "METRICS_PORT" "9090") =
      .ok (settings.metricsPort : Int) ∧ IsPort settings.metricsPort
  logLevel : LogLevel.ofName? (valueOf environment "LOG_LEVEL" "info").toLower =
    some settings.logLevel
  logFormat : LogFormat.ofName? (valueOf environment "LOG_FORMAT" "json").toLower =
    some settings.logFormat

theorem load_settles (environment : Environment) :
    Settles (Refuses environment) (Tells environment) (load environment) := by
  have number {name default : String} (member : (name, default) ∈ numberVariables) :
      Settles (Refuses environment)
        (fun value => Text.readInteger (valueOf environment name default) = .ok value)
        (readNumber (valueOf environment name default)) := by
    refine (readNumber_settles _).refusing ?_
    rintro _ ⟨cause, rfl, read⟩
    exact ⟨name, default, member, read⟩
  have port : Settles (Refuses environment)
      (fun port : Nat => Text.readInteger (valueOf environment "METRICS_PORT" "9090") =
        .ok (port : Int) ∧ IsPort port)
      (readPort (valueOf environment "METRICS_PORT" "9090")) := by
    refine (readPort_settles _).refusing ?_
    rintro _ (⟨cause, rfl, read⟩ | ⟨port, rfl, read, noPort⟩)
    · exact ⟨_, _, by simp [numberVariables], read⟩
    · exact ⟨read, noPort⟩
  refine ((readUri_settles _).refusing ?_).bind fun uri uriRead => ?_
  · rintro _ ⟨rfl, noScheme⟩
    exact ⟨rfl, noScheme⟩
  refine (number (by simp [numberVariables])).bind fun connection connectionRead => ?_
  refine (number (by simp [numberVariables])).bind fun watch watchRead => ?_
  refine (number (by simp [numberVariables])).bind fun sync syncRead => ?_
  refine port.bind fun port portRead => ?_
  refine ((readLogLevel_settles _).refusing ?_).bind fun level levelRead => ?_
  · rintro _ ⟨rfl, unknown⟩
    exact ⟨rfl, unknown⟩
  refine ((readLogFormat_settles _).refusing ?_).bind fun format formatRead => ?_
  · rintro _ ⟨rfl, unknown⟩
    exact ⟨rfl, unknown⟩
  exact {
    cluster := rfl
    uri := uriRead
    user := rfl
    password := rfl
    database := rfl
    connectionTimeout := ⟨connection, connectionRead, rfl⟩
    kinds := rfl
    watchTimeout := ⟨watch, watchRead, rfl⟩
    syncTimeout := ⟨sync, syncRead, rfl⟩
    metricsPort := portRead
    logLevel := levelRead
    logFormat := formatRead }

/-- No two settings are told by the same variables. -/
theorem Tells.unique {others : Settings} (told : Tells environment settings)
    (othersTold : Tells environment others) : settings = others := by
  obtain ⟨cluster, ⟨uri, user, password, database, connectionTimeout⟩, kinds, watchTimeout,
    syncTimeout, metricsPort, logLevel, logFormat⟩ := settings
  obtain ⟨cluster', ⟨uri', user', password', database', connectionTimeout'⟩, kinds', watchTimeout',
    syncTimeout', metricsPort', logLevel', logFormat'⟩ := others
  obtain rfl : cluster = cluster' := told.cluster.trans othersTold.cluster.symm
  obtain rfl : uri = uri' := told.uri.1.trans othersTold.uri.1.symm
  obtain rfl : user = user' := told.user.trans othersTold.user.symm
  obtain rfl : password = password' := told.password.trans othersTold.password.symm
  obtain rfl : database = database' := told.database.trans othersTold.database.symm
  obtain rfl : kinds = kinds' := told.kinds.trans othersTold.kinds.symm
  have clamped {low high first second : Nat} {text : String}
      (read : ∃ seconds, Text.readInteger text = .ok seconds ∧ first = clamp low high seconds)
      (again : ∃ seconds, Text.readInteger text = .ok seconds ∧ second = clamp low high seconds) :
      first = second := by
    obtain ⟨seconds, isRead, rfl⟩ := read
    obtain ⟨same, isReadAgain, rfl⟩ := again
    rw [Except.ok.inj (isRead.symm.trans isReadAgain)]
  obtain rfl : connectionTimeout = connectionTimeout' :=
    clamped told.connectionTimeout othersTold.connectionTimeout
  obtain rfl : watchTimeout = watchTimeout' := clamped told.watchTimeout othersTold.watchTimeout
  obtain rfl : syncTimeout = syncTimeout' := clamped told.syncTimeout othersTold.syncTimeout
  obtain rfl : metricsPort = metricsPort' := Int.ofNat_inj.mp
    (Except.ok.inj (told.metricsPort.1.symm.trans othersTold.metricsPort.1))
  obtain rfl : logLevel = logLevel' :=
    Option.some.inj (told.logLevel.symm.trans othersTold.logLevel)
  obtain rfl : logFormat = logFormat' :=
    Option.some.inj (told.logFormat.symm.trans othersTold.logFormat)
  rfl

theorem Tells.not_refuses (told : Tells environment settings) (error : SettingsError) :
    ¬ Refuses environment error := by
  cases error with
  | badUri uri =>
      rintro ⟨rfl, noScheme⟩
      exact noScheme told.uri.2
  | badInteger cause =>
      rintro ⟨name, default, member, notRead⟩
      have isRead : ∃ seconds,
          Text.readInteger (valueOf environment name default) = .ok seconds := by
        simp only [numberVariables, List.mem_cons, Prod.mk.injEq, List.not_mem_nil, or_false]
          at member
        rcases member with ⟨rfl, rfl⟩ | ⟨rfl, rfl⟩ | ⟨rfl, rfl⟩ | ⟨rfl, rfl⟩
        · exact told.connectionTimeout.imp fun _ => And.left
        · exact told.watchTimeout.imp fun _ => And.left
        · exact told.syncTimeout.imp fun _ => And.left
        · exact ⟨_, told.metricsPort.1⟩
      obtain ⟨seconds, isRead⟩ := isRead
      rw [isRead] at notRead
      contradiction
  | badPort port =>
      rintro ⟨isRead, noPort⟩
      have same := Except.ok.inj (isRead.symm.trans told.metricsPort.1)
      exact noPort (same ▸ told.metricsPort.2)
  | badLogLevel name =>
      rintro ⟨rfl, unknown⟩
      rw [told.logLevel] at unknown
      contradiction
  | badLogFormat name =>
      rintro ⟨rfl, unknown⟩
      rw [told.logFormat] at unknown
      contradiction
  | unsupportedKinds kinds => exact id

theorem load_of_tells (told : Tells environment settings) :
    load environment = .ok settings := by
  have settles := load_settles environment
  cases loaded : load environment with
  | ok others =>
      rw [loaded] at settles
      rw [told.unique settles]
  | error error =>
      rw [loaded] at settles
      exact absurd settles (told.not_refuses error)

/-- The bounds of all settings. -/
structure InRange (settings : Settings) : Prop where
  uri : HasScheme settings.store.uri
  connectionTimeout : 1 ≤ settings.store.connectionTimeout ∧ settings.store.connectionTimeout ≤ 300
  kinds : ∀ kind ∈ settings.kinds, IsKindName kind
  watchTimeout : 30 ≤ settings.watchTimeout ∧ settings.watchTimeout ≤ 3600
  syncTimeout : 1 ≤ settings.syncTimeout ∧ settings.syncTimeout ≤ 300
  metricsPort : IsPort settings.metricsPort
  logLevel : settings.logLevel.name ∈ ["debug", "info", "warning", "error"]
  logFormat : settings.logFormat.name ∈ ["json", "console"]

theorem Tells.inRange (told : Tells environment settings) : settings.InRange where
  uri := by
    rw [told.uri.1]
    exact told.uri.2
  connectionTimeout := by
    obtain ⟨seconds, _, clamped⟩ := told.connectionTimeout
    rw [clamped]
    exact clamp_bounds (by decide) seconds
  kinds kind member := by
    rw [told.kinds] at member
    exact isKindName_of_mem member
  watchTimeout := by
    obtain ⟨seconds, _, clamped⟩ := told.watchTimeout
    rw [clamped]
    exact clamp_bounds (by decide) seconds
  syncTimeout := by
    obtain ⟨seconds, _, clamped⟩ := told.syncTimeout
    rw [clamped]
    exact clamp_bounds (by decide) seconds
  metricsPort := told.metricsPort.2
  logLevel := by cases settings.logLevel <;> simp [LogLevel.name]
  logFormat := by cases settings.logFormat <;> simp [LogFormat.name]

/-- The text of every variable that tells the settings. -/
def texts (settings : Settings) : List (String × String) :=
  [("CLUSTER_NAME", settings.cluster),
   ("NEO4J_URI", settings.store.uri),
   ("NEO4J_USER", settings.store.user),
   ("NEO4J_PASSWORD", settings.store.password),
   ("NEO4J_DATABASE", settings.store.database),
   ("NEO4J_CONNECTION_TIMEOUT", toString settings.store.connectionTimeout),
   ("WATCH_KINDS", ",".intercalate settings.kinds),
   ("WATCH_TIMEOUT", toString settings.watchTimeout),
   ("SYNC_TIMEOUT", toString settings.syncTimeout),
   ("METRICS_PORT", toString settings.metricsPort),
   ("LOG_LEVEL", settings.logLevel.name),
   ("LOG_FORMAT", settings.logFormat.name)]

def written (settings : Settings) : Environment := fun name =>
  settings.texts.lookup name

theorem InRange.tells (inRange : settings.InRange) : Tells settings.written settings := by
  have readBack {value : Nat} (small : value ≤ 65535) :
      Text.readInteger (toString value) = .ok (value : Int) := by
    refine Text.readInteger_toString (Nat.lt_of_le_of_lt small ?_)
    exact Nat.lt_of_lt_of_le (by decide : 65535 < 10 ^ 5)
      (Nat.pow_le_pow_right (by decide) (by decide))
  have timeout := inRange.connectionTimeout
  have watch := inRange.watchTimeout
  have sync := inRange.syncTimeout
  have port : settings.metricsPort ≤ 65535 := by
    have isPort := inRange.metricsPort
    unfold IsPort at isPort
    omega
  constructor <;>
    simp only [valueOf, written, texts, List.lookup_cons, String.reduceBEq, Option.getD_some]
  case uri => exact ⟨trivial, inRange.uri⟩
  case connectionTimeout => exact ⟨_, readBack (by omega), (clamp_within timeout).symm⟩
  case kinds => exact (splitKinds_intercalate inRange.kinds).symm
  case watchTimeout => exact ⟨_, readBack (by omega), (clamp_within watch).symm⟩
  case syncTimeout => exact ⟨_, readBack (by omega), (clamp_within sync).symm⟩
  case metricsPort => exact ⟨readBack port, inRange.metricsPort⟩
  case logLevel => exact LogLevel.ofName?_name settings.logLevel
  case logFormat => exact LogFormat.ofName?_name settings.logFormat

/-- Whatever the variables hold, one of them is refused for what is wrong with it, or the settings
are as they tell, within all bounds, and are loaded again from their own texts. -/
theorem load_stable (environment : Environment) :
    (∃ error, load environment = .error error ∧ Refuses environment error) ∨
      ∃ settings, load environment = .ok settings ∧ Tells environment settings ∧
        settings.InRange ∧ load settings.written = .ok settings := by
  have settles := load_settles environment
  cases loaded : load environment with
  | error error =>
      rw [loaded] at settles
      exact .inl ⟨error, rfl, settles⟩
  | ok settings =>
      rw [loaded] at settles
      have inRange : settings.InRange := Tells.inRange settles
      exact .inr ⟨settings, rfl, settles, inRange, load_of_tells inRange.tells⟩

end Settings

end ClusterGraph
