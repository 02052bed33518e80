import ClusterGraph.Lifecycle.Intake

namespace ClusterGraph.Lifecycle

/-! Taking the program down. Everything that is open is closed once, the newest first, and each
within its own time; one that fails or hangs does not keep the others from being closed. -/

/-- Closes the client of the cluster. Tells whether it ended. -/
def closeClient (services : Services) : Lifecycle Bool := do
  call .clusterClientClose none
  match services.clusterClientEnding with
  | .finished => pure true
  | .failed failure => throw failure
  | .hanging => pure false

/-- Closes the connection to the database. Tells whether that ended. -/
def closeStore (services : Services) : Lifecycle Bool := do
  match services.driverEnding with
  | .finished =>
      lift Action.closeStore
      pure true
  | .failed failure =>
      let _ ← lift (Action.reach .close .closing none none)
      throw failure
  | .hanging =>
      let _ ← lift (Action.reach .close .closing none none)
      pure false

/-- Ends the watches. Without a limit they end before they come to open a stream. One with an
object in hand does not hear of it and goes on until there is no time left. -/
def closeWatches (services : Services) (limit : TimeLimit) : Lifecycle Bool := do
  if limit = .unlimited then modify fun app => { app with pending := [] }
  openStreams
  advanceStreams
  keepStreams (·.isBusy)
  if (← get).streams.isEmpty && limit != .momentary then
    lift Watch.reportStopped
    pure true
  else
    takeEventsUntil services.grace
    keepStreams fun _ => false
    pure false

/-- Closes a component. Tells whether that came to an end in time. Streams go on where there is no
time for it. -/
def close (services : Services) (component : Component) : Lifecycle Bool := do
  match Deadline.ofJson services.grace with
  | .error shape => throw (.shape shape)
  | .ok .over =>
      openStreams
      takeRound
      pure false
  | .ok limit =>
      match component with
      | .watcher => closeWatches services limit
      | .store => closeStore services
      | .client => closeClient services

/-- Closes a component and logs if that went wrong. A close that itself says that its time is over
counts as one that came to no end in time. -/
def closeStep (services : Services) (component : Component) : Lifecycle Unit := fun app =>
  let shown := ("component", Json.str component.name)
  match close services component app with
  | .ok true app => .ok () app
  | .ok false app | .error (.foreign .deadline _) app =>
      log .warning "shutdown step timed out" [shown, ("timeout", services.grace)] app
  | .error failure app =>
      log .error "shutdown step failed" [shown, ("error", .str failure.message)] app

/-- Closes whatever is open. -/
def stop (services : Services) : Lifecycle Unit := do
  let components := (← get).components
  modify App.released
  if components.isEmpty then return
  log .info "kubegraph shutting down"
    [("components", .arr (components.map fun component => .str component.name))]
  components.forM (closeStep services)
  log .info "kubegraph stopped" []

/-- Closes whatever is open. Streams that stay open go on. -/
def finish (services : Services) : Lifecycle Unit := do
  stop services
  openStreams
  onStreams (eachStream OpenStream.goOn)

/-- Starts the program and works until it is asked to stop, which may have been before. Otherwise
every stream goes on to its first object at least. -/
def work (services : Services) : Lifecycle Unit := do
  start services
  unless (← get).stopRequested do
    awaitRest
    openStreams
    advanceStreams
    requestStop

/-- Works until the program is asked to stop, and closes it, also if it could not be started. -/
def serve (services : Services) : Lifecycle Unit := fun app =>
  match work services app with
  | .ok _ app => finish services app
  | .error failure app =>
      match finish services app with
      | .ok _ app => .error failure app
      | .error _ app => .error failure app

/-- How the program ends: with success, or because it could not be started. -/
inductive Exit where
  | success
  | startupFailed
deriving DecidableEq, Repr

def Exit.code : Exit → Nat
  | .success => 0
  | .startupFailed => 1

def run (services : Services) : Lifecycle Exit := fun app =>
  match serve services app with
  | .ok _ app => .ok .success app
  | .error (.startup component cause) app =>
      (do log .critical "fatal startup error"
            [("component", .str component), ("error", .str cause.message)]
          pure .startupFailed : Lifecycle Exit) app
  | .error failure app => .error failure app

end ClusterGraph.Lifecycle
