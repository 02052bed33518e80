import ClusterGraph.Text.Integer

namespace ClusterGraph

/-! Settings of the program, read from environment variables. -/

/-- Levels of log records that can be asked for. -/
inductive LogLevel where
  | debug
  | info
  | warning
  | error
deriving DecidableEq, Repr

def LogLevel.name : LogLevel → String
  | .debug => "debug"
  | .info => "info"
  | .warning => "warning"
  | .error => "error"

def LogLevel.ofName? : String → Option LogLevel
  | "debug" => some .debug
  | "info" => some .info
  | "warning" => some .warning
  | "error" => some .error
  | _ => none

inductive LogFormat where
  | json
  | console
deriving DecidableEq, Repr

def LogFormat.name : LogFormat → String
  | .json => "json"
  | .console => "console"

def LogFormat.ofName? : String → Option LogFormat
  | "json" => some .json
  | "console" => some .console
  | _ => none

structure StoreSettings where
  uri : String
  user : String
  password : String
  database : String
  /-- Seconds. -/
  connectionTimeout : Nat
deriving DecidableEq, Repr

structure Settings where
  cluster : String
  store : StoreSettings
  /-- Kinds to watch; none stands for all. -/
  kinds : List String
  /-- Seconds until the server ends a stream. -/
  watchTimeout : Nat
  /-- Seconds for one object. -/
  syncTimeout : Nat
  /-- Port of the metrics exporter; zero turns it off. -/
  metricsPort : Nat
  logLevel : LogLevel
  logFormat : LogFormat
deriving DecidableEq, Repr

inductive SettingsError where
  | badUri (uri : String)
  | badInteger (error : Text.IntegerError)
  | badPort (port : Int)
  | badLogLevel (name : String)
  | badLogFormat (name : String)
  /-- Kinds that no watch target serves. -/
  | unsupportedKinds (kinds : List String)
deriving DecidableEq, Repr

def SettingsError.message : SettingsError → String
  | .badUri uri => "Invalid graph store URI: " ++ uri
  | .badInteger error => error.message
  | .badPort port =>
      "Invalid metrics port: " ++ toString port ++ ". Use 0 to disable or 1024-65535"
  | .badLogLevel name =>
      "Invalid log level: " ++ name ++
        ". Must be one of \x7b'debug', 'info', 'warning', 'error'\x7d"
  | .badLogFormat name =>
      "Invalid log format: " ++ name ++ ". Must be one of ('json', 'console')"
  | .unsupportedKinds kinds => "Unsupported watch kinds: " ++ ", ".intercalate kinds

namespace Settings

/-- Values of variables, by the name that follows the program's own. -/
abbrev Environment := String → Option String

def variablePrefix : String := "KUBEGRAPH_"

/-- The variables that are read, without the prefix. -/
def variableNames : List String :=
  ["CLUSTER_NAME", "NEO4J_URI", "NEO4J_USER", "NEO4J_PASSWORD", "NEO4J_DATABASE",
   "NEO4J_CONNECTION_TIMEOUT", "WATCH_KINDS", "WATCH_TIMEOUT", "SYNC_TIMEOUT", "METRICS_PORT",
   "LOG_LEVEL", "LOG_FORMAT"]

/-- What a database address starts with. -/
def schemes : List String :=
  ["bolt://", "bolt+s://", "bolt+ssc://", "neo4j://", "neo4j+s://", "neo4j+ssc://"]

def clamp (low high : Nat) (value : Int) : Nat :=
  min (max value.toNat low) high

/-- The pieces between commas, without white space around them and without empty ones. -/
def splitKinds (text : String) : List String :=
  let pieces := (text.toList.splitOn ',').map (Text.trimBy Text.isBlank)
  (pieces.filter (!·.isEmpty)).map String.ofList

def readUri (uri : String) : Except SettingsError String :=
  if schemes.any fun scheme => scheme.toList.isPrefixOf uri.toList then .ok uri
  else .error (.badUri uri)

def readNumber (text : String) : Except SettingsError Int :=
  (Text.readInteger text).mapError .badInteger

/-- Port zero, or one that needs no privilege. -/
def readPort (text : String) : Except SettingsError Nat := do
  let port ← readNumber text
  if port = 0 ∨ 1024 ≤ port ∧ port ≤ 65535 then pure port.toNat else throw (.badPort port)

def readLogLevel (name : String) : Except SettingsError LogLevel :=
  match LogLevel.ofName? name.toLower with
  | some level => .ok level
  | none => .error (.badLogLevel name)

def readLogFormat (name : String) : Except SettingsError LogFormat :=
  match LogFormat.ofName? name.toLower with
  | some format => .ok format
  | none => .error (.badLogFormat name)

/-- Reads the settings; the first variable with a bad value fails them. -/
def load (environment : Environment) : Except SettingsError Settings := do
  let setting (name default : String) := (environment name).getD default
  let uri ← readUri (setting "NEO4J_URI" "bolt://localhost:7687")
  let connectionTimeout ← readNumber (setting "NEO4J_CONNECTION_TIMEOUT" "30")
  let watchTimeout ← readNumber (setting "WATCH_TIMEOUT" "300")
  let syncTimeout ← readNumber (setting "SYNC_TIMEOUT" "30")
  let metricsPort ← readPort (setting "METRICS_PORT" "9090")
  let logLevel ← readLogLevel (setting "LOG_LEVEL" "info")
  let logFormat ← readLogFormat (setting "LOG_FORMAT" "json")
  pure
    { cluster := setting "CLUSTER_NAME" ""
      store :=
        { uri
          user := setting "NEO4J_USER" "neo4j"
          password := setting "NEO4J_PASSWORD" ""
          database := setting "NEO4J_DATABASE" "neo4j"
          connectionTimeout := clamp 1 300 connectionTimeout }
      kinds := splitKinds (setting "WATCH_KINDS" "")
      watchTimeout := clamp 30 3600 watchTimeout
      syncTimeout := clamp 1 300 syncTimeout
      metricsPort, logLevel, logFormat }

end Settings

end ClusterGraph
