import ClusterGraph.Lifecycle.Basic
import ClusterGraph.Store.Schema
import ClusterGraph.Version

namespace ClusterGraph.Lifecycle

/-! Bringing the program up, one component after the other. A component that cannot be brought up
ends the start; only the metrics exporter may be missing. -/

/-- A failure while a component is brought up is told with the name of the component. -/
def stage {α : Type} (component : String) (action : Lifecycle α) : Lifecycle α := fun app =>
  match action app with
  | .ok value app => .ok value app
  | .error failure app => .error (.startup component failure) app

/-- Reads the settings and sets up the log. -/
def configure (services : Services) : Lifecycle Settings :=
  match Settings.load services.environment with
  | .error error => throw (.settings error)
  | .ok settings => do
      modify fun app =>
        { app with
          settings := some settings
          system := { app.system with
            journal := { app.system.journal with
              threshold := settings.logLevel.severity.rank } } }
      log .info "kubegraph starting"
        [("version", .str version), ("cluster", .str settings.cluster)]
      pure settings

def startMetrics (services : Services) (port : Nat) : Lifecycle Unit :=
  let shown := ("port", Json.int port)
  if port = 0 then log .info "metrics exporter disabled" []
  else fun app =>
    match call (.metricsServer port) services.metricsServer app with
    | .ok _ app => log .info "metrics exporter started" [shown] app
    | .error (.foreign .operatingSystem reason) app =>
        log .warning "metrics exporter failed to start" [shown, ("error", .str reason)] app
    | .error failure app => .error failure app

/-- Reads how to reach the cluster: from within it, or else from a file. -/
def readCluster (services : Services) : Lifecycle Unit := fun app =>
  match call .clusterAccount services.clusterAccount app with
  | .ok _ app => log .info "k8s client configured from in-cluster service account" [] app
  | .error (.foreign .clusterConfiguration _) app =>
      (do call .clusterFile services.clusterFile
          log .info "k8s client configured from kubeconfig" [] : Lifecycle Unit) app
  | .error failure app => .error failure app

def openClient (services : Services) : Lifecycle Unit := do
  log .debug "starting k8s client" []
  readCluster services
  call .clusterClient services.clusterClient
  modify fun app => { app with hasClient := true }

/-- Opens the store, which counts as open before it is known to answer. -/
def openStore (services : Services) (settings : StoreSettings) : Lifecycle Unit := do
  log .debug "starting graph store" [("uri", .str settings.uri)]
  call (.driver settings.uri settings.user settings.password settings.connectionTimeout)
    services.driver
  modify fun app =>
    { app with
      hasStore := true
      system := { app.system with
        database := { app.system.database with name := settings.database } } }
  lift Action.verify
  log .info "graph store connected"
    [("uri", .str settings.uri), ("database", .str settings.database)]

def applySchema : Lifecycle Unit := do
  let _ ← lift (Schema.apply Schema.statements)

def openSynchronizer (services : Services) (cluster : String) : Lifecycle Unit := do
  let synchronizer ← lift (Synchronizer.ofTable ⟨cluster, services.clock⟩ services.rules)
  modify fun app => { app with synchronizer := some synchronizer }
  log .info "sync engine started" []

def watchesOf (settings : Settings) : Except SettingsError (List Watch) :=
  (WatchTarget.select settings.kinds WatchTarget.builtin).map fun targets =>
    targets.map fun target =>
      { target
        timeout := .int settings.watchTimeout
        deadline := .float (.ofDecimal false settings.syncTimeout 0) }

/-- The streams of watches, once the watches come to open them. -/
def streamsOf (services : Services) (watcher : Nat) (synchronizer : Synchronizer)
    (watches : List Watch) : List OpenStream :=
  watches.map fun watch =>
    { watcher, watch, handler := synchronizer.handler, source := services.stream watch.target }

def openWatches (services : Services) (settings : Settings) : Lifecycle Unit :=
  match watchesOf settings with
  | .error error => throw (.settings error)
  | .ok watches => do
      lift (Watch.reportStarted watches)
      modify fun app =>
        { app with
          watches := some watches
          watchers := app.watchers + 1
          pending := app.pending ++
            app.synchronizer.toList.flatMap (streamsOf services app.watchers · watches) }

def start (services : Services) : Lifecycle Unit := do
  let settings ← configure services
  startMetrics services settings.metricsPort
  stage "k8s_client" (openClient services)
  stage "graph_store" (openStore services settings.store)
  stage "schema" applySchema
  stage "sync_engine" (openSynchronizer services settings.cluster)
  stage "watcher" (openWatches services settings)
  log .info "kubegraph started" []

/-- Opens the streams that watches have not come to open. -/
def openStreams : Lifecycle Unit :=
  modify fun app =>
    { app with
      pending := []
      opened := app.opened ++ app.pending.map (·.watch)
      streams := app.streams ++ app.pending.map fun stream =>
        app.streams.foldl OpenStream.follow stream }

end ClusterGraph.Lifecycle
