import ClusterGraph.Watch.Event

namespace ClusterGraph

/-! Following a kind from stream to stream. A stream goes on from the last version seen; only an
expired version starts over, and what fails otherwise is tried again after a growing delay. -/

/-- A stream as the server serves it: its events, and how it fails after them if it does. -/
structure WatchStream where
  events : List WatchEvent
  failure : Option Failure := none

/-- What is wrong with an event as it was delivered. -/
def WatchEvent.fault? (delivered : Json) : Option Failure :=
  if delivered.entries?.isNone then
    some (.stream ("'" ++ delivered.kindName ++ "' object has no attribute 'get'") .null)
  else (typeOf delivered).textFault?.map fun fault => .shape (.unshown fault)

/-- A stream of what a server delivers. It breaks at the first that is no event. -/
def WatchStream.ofDelivered (delivered : List Json) (ending : Option Failure) : WatchStream :=
  let events := delivered.takeWhile (WatchEvent.fault? · |>.isNone)
  { events := events.map WatchEvent.ofJson
    failure := (delivered.findSome? WatchEvent.fault?).or ending }

structure WatchState where
  /-- The version from which the next stream goes on. -/
  version : Option String := none
  /-- Seconds until the next attempt after a failure. -/
  delay : Nat := 1
  /-- The version with which each stream was opened. -/
  openings : List (Option String) := []
  /-- Objects handed on. -/
  delivered : List Json := []
  /-- Delays that were waited for. -/
  sleeps : List Nat := []
deriving Repr

/-- The version of an event counts once the event was handled. -/
def WatchState.seen (state : WatchState) (event : WatchEvent) : WatchState :=
  { state with version := event.version?.or state.version }

namespace Watch

def firstDelay : Nat := 1

def greatestDelay : Nat := 60

/-- The arguments with which a stream is opened. -/
def arguments (watch : Watch) (version : Option String) : Entries Json :=
  [("timeout_seconds", watch.timeout), ("allow_watch_bookmarks", .bool true)] ++
    version.toList.map fun version => ("resource_version", .str version)

/-- Whether a failure says that the version has expired. -/
def isExpired : Failure → Bool
  | .expired _ => true
  | .stream _ status => status.equals (.int 410)
  | _ => false

def receive (watch : Watch) (handler : Handler) (event : WatchEvent) (state : WatchState)
    (system : System) : Option Failure × WatchState × System :=
  let state := { state with delivered := state.delivered ++ (watch.delivery? event).toList }
  match watch.take handler event system with
  | .ok _ system => (none, state.seen event, system)
  | .error failure system => (some failure, state, system)

/-- Takes events up to the first that fails, and then the end of the stream. -/
def follow (watch : Watch) (handler : Handler) (ending : Option Failure) :
    List WatchEvent → WatchState → System → Option Failure × WatchState × System
  | [], state, system => (ending, state, system)
  | event :: rest, state, system =>
      match watch.receive handler event state system with
      | (none, state, system) => follow watch handler ending rest state system
      | (some failure, state, system) => (some failure, state, system)

def countRestart (watch : Watch) (system : System) : System :=
  system.count (.restarts watch.target.kind) 1

/-- Draws the consequences of the end of a stream. Without a version to drop, an expired one is a
failure like any other, after which the next stream has to wait. -/
def settle (watch : Watch) (failure : Option Failure) (state : WatchState) (system : System) :
    WatchState × System :=
  match failure with
  | none => ({ state with delay := firstDelay }, system)
  | some failure =>
      let kind := ("kind", Json.str watch.target.kind)
      if isExpired failure && state.version.isSome then
        let system := system.log ⟨.info, component, "watch_relist",
          [kind, ("reason", .str failure.message)]⟩
        ({ state with version := none }, system)
      else
        let system := system.log ⟨.warning, component, "watch_stream_failed",
          [kind, ("error", .str failure.message),
           ("retry_in_seconds", .float (.ofDecimal false state.delay 0))]⟩
        ({ state with
            sleeps := state.sleeps ++ [state.delay]
            delay := min (state.delay * 2) greatestDelay },
          system)

def followStream (watch : Watch) (handler : Handler) (stream : WatchStream) (state : WatchState)
    (system : System) : WatchState × System :=
  let opened := { state with openings := state.openings ++ [state.version] }
  let (failure, state, system) := watch.follow handler stream.failure stream.events opened system
  let (state, system) := watch.settle failure state system
  (state, watch.countRestart system)

def followAll (watch : Watch) (handler : Handler) :
    List WatchStream → WatchState → System → WatchState × System
  | [], state, system => (state, system)
  | stream :: rest, state, system =>
      let (state, system) := watch.followStream handler stream state system
      followAll watch handler rest state system

end Watch

end ClusterGraph
