import ClusterGraph.Rules.Builtin
import ClusterGraph.Sync.Object
import ClusterGraph.Watch.Stream

namespace ClusterGraph

/-! The program as a whole: the services that it depends on, what it holds open, and the actions
that open and close it. -/

inductive Ending where
  | finished
  | failed (failure : Failure)
  | hanging

/-- The services around the program, each with the failure that it answers with, if any. -/
structure Services where
  environment : Settings.Environment
  clock : Stamp
  rules : RuleTable := .builtin
  metricsServer : Option Failure := none
  clusterAccount : Option Failure := none
  clusterFile : Option Failure := none
  clusterClient : Option Failure := none
  driver : Option Failure := none
  clusterClientEnding : Ending := .finished
  /-- How the closing of the connection to the database ends where no fault of it fires. -/
  driverEnding : Ending := .finished
  /-- The time limit for the closing of one component. -/
  grace : Json := .int 15
  /-- Every stream of a target. One that does not break stays open. -/
  stream : WatchTarget → WatchStream := fun _ => { events := [] }

/-- What is open and has to be closed. -/
inductive Component where
  | watcher
  | store
  | client
deriving DecidableEq, Repr

def Component.name : Component → String
  | .watcher => "watcher"
  | .store => "graph_store"
  | .client => "k8s_client"

structure OpenStream where
  /-- The watcher that its watch belongs to. Every start of the program has its own. -/
  watcher : Nat
  watch : Watch
  handler : Handler
  source : WatchStream
  events : List WatchEvent := source.events
  state : WatchState := {}
  /-- An object that was handled, with how that failed if it did, before that is concluded. -/
  handled : Option (WatchEvent × Option Failure) := none
  /-- The watch has looked at what the stream delivers. -/
  hasBegun : Bool := false
  /-- The stream broke, and the watch waits for its next attempt. -/
  isBroken : Bool := false

namespace OpenStream

/-- A watcher keeps one version for each kind, from which all its watches of the kind go on. -/
def sharesVersion (stream other : OpenStream) : Bool :=
  stream.watcher == other.watcher && stream.watch.target.kind == other.watch.target.kind

/-- The stream with the version that another one has left. -/
def follow (stream other : OpenStream) : OpenStream :=
  if stream.sharesVersion other then
    { stream with state := { stream.state with version := other.state.version } }
  else stream

end OpenStream

structure App where
  system : System
  settings : Option Settings := none
  hasClient : Bool := false
  hasStore : Bool := false
  synchronizer : Option Synchronizer := none
  watches : Option (List Watch) := none
  /-- How many watchers were started. -/
  watchers : Nat := 0
  stopRequested : Bool := false
  /-- Streams of watches that have not come to open them. -/
  pending : List OpenStream := []
  /-- The watches of all streams opened so far. -/
  opened : List Watch := []
  streams : List OpenStream := []
  /-- How many streams had come to rest before they were closed. The program itself does not count
  them: this is for the environment, which asks it to stop once nothing more is to come. -/
  rested : Nat := 0

/-- An action on the program may fail; what it opened until then stays open. -/
abbrev Lifecycle := EStateM Failure App

namespace App

/-- What is open, the newest first. -/
def components (app : App) : List Component :=
  (if app.watches.isSome then [.watcher] else []) ++
    (if app.hasStore then [.store] else []) ++
    (if app.hasClient then [.client] else [])

/-- The program without anything open. -/
def released (app : App) : App :=
  { app with hasClient := false, hasStore := false, synchronizer := none, watches := none }

end App

namespace Lifecycle

/-- An action on the system is one on the program. -/
def lift {α : Type} (action : Action α) : Lifecycle α := fun app =>
  match action app.system with
  | .ok value system => .ok value { app with system }
  | .error failure system => .error failure { app with system }

def log (severity : Severity) (event : String) (fields : Entries Json) : Lifecycle Unit :=
  lift (Action.log severity "app" event fields)

def call (call : Call) (failure : Option Failure) : Lifecycle Unit := do
  modify fun app => { app with system := app.system.record call }
  match failure with
  | some failure => throw failure
  | none => pure ()

def requestStop : Lifecycle Unit :=
  modify fun app => { app with stopRequested := true }

end Lifecycle

end ClusterGraph
