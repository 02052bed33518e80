import ClusterGraph.Deadline
import ClusterGraph.Lifecycle.Startup

namespace ClusterGraph

/-! Taking what the streams deliver. A stream goes on until it has an object in hand, and waits
while the others do the same. Then all objects in hand are handled, one after the other, before the
first stream concludes the handling of its own and goes on. A stream that breaks is opened again
after its delay, when the others have nothing left. -/

namespace OpenStream

def fail (stream : OpenStream) (failure : Failure) (state : WatchState) (system : System) :
    OpenStream × System :=
  let (state, system) := stream.watch.settle (some failure) state system
  ({ stream with state, events := [], handled := none, isBroken := true }, system)

def conclude (stream : OpenStream) (system : System) : OpenStream × System :=
  match stream.handled with
  | none => (stream, system)
  | some (event, outcome) =>
      match stream.watch.concludeEvent event outcome system with
      | .ok _ system => ({ stream with state := stream.state.seen event, handled := none }, system)
      | .error failure system => stream.fail failure stream.state system

/-- Takes events up to the first with an object, or up to the end. -/
def skip (stream : OpenStream) : List WatchEvent → System → OpenStream × System
  | [], system =>
      match stream.source.failure with
      | none => ({ stream with events := [] }, system)
      | some failure => stream.fail failure stream.state system
  | event :: rest, system =>
      if event.hasObject then ({ stream with events := event :: rest }, system)
      else
        match stream.watch.receive stream.handler event stream.state system with
        | (none, state, system) => skip { stream with state } rest system
        | (some failure, state, system) => stream.fail failure state system

def advance (stream : OpenStream) (system : System) : OpenStream × System :=
  let (stream, system) := { stream with hasBegun := true }.conclude system
  if stream.isBroken then (stream, system) else stream.skip stream.events system

def handle (stream : OpenStream) (system : System) : OpenStream × System :=
  match stream.events with
  | [] => (stream, system)
  | event :: rest =>
      match Action.withContext (stream.watch.contextOf event)
          (stream.watch.attempt stream.handler event) system with
      | .ok outcome system =>
          ({ stream with events := rest, handled := some (event, outcome) }, system)
      | .error failure system => stream.fail failure stream.state system

/-- Does what comes next: handles an object that it has come to, or goes on to one. -/
def goOn (stream : OpenStream) (system : System) : OpenStream × System :=
  if stream.hasBegun && stream.handled.isNone then stream.handle system
  else stream.advance system

def isBusy (stream : OpenStream) : Bool :=
  !stream.events.isEmpty

/-- Whether everything was delivered and the stream just stays open. -/
def isAtRest (stream : OpenStream) : Bool :=
  stream.events.isEmpty && stream.handled.isNone && !stream.isBroken

/-- The seconds that its watch waits until the next stream, counted from the first. -/
def waited (stream : OpenStream) : Nat :=
  stream.state.sleeps.foldl (· + ·) 0

def reopen (stream : OpenStream) (system : System) : OpenStream × System :=
  ({ stream with events := stream.source.events, isBroken := false },
    stream.watch.countRestart system)

end OpenStream

/-- Takes a step with one stream after the other, where some are done. Each goes on from the version
that those done have left, and they from the one that it leaves. -/
def stepStreams (step : OpenStream → System → OpenStream × System) :
    List OpenStream → List OpenStream → System → List OpenStream × System
  | done, [], system => (done, system)
  | done, stream :: rest, system =>
      let (stream, system) := step (done.foldl OpenStream.follow stream) system
      stepStreams step (done.map (·.follow stream) ++ [stream]) rest system

def eachStream (step : OpenStream → System → OpenStream × System) :
    List OpenStream → System → List OpenStream × System :=
  stepStreams step []

/-- Takes as many rounds as are given. -/
def takeRounds : Nat → List OpenStream → System → List OpenStream × System
  | 0, streams, system => (streams, system)
  | rounds + 1, streams, system =>
      let (streams, system) := eachStream OpenStream.advance streams system
      let (streams, system) := eachStream OpenStream.handle streams system
      takeRounds rounds streams system

/-- Takes all that the open streams deliver. Each round takes at least one event of every stream. -/
def drain (streams : List OpenStream) (system : System) : List OpenStream × System :=
  let (streams, system) := takeRounds ((streams.map (·.events.length)).foldl max 0) streams system
  eachStream OpenStream.advance streams system

namespace Lifecycle

/-- Changes the open streams and the system. -/
def onStreams (change : List OpenStream → System → List OpenStream × System) : Lifecycle Unit :=
  modify fun app =>
    let (streams, system) := change app.streams app.system
    { app with streams, system }

def advanceStreams : Lifecycle Unit :=
  onStreams (eachStream OpenStream.advance)

def takeRound : Lifecycle Unit :=
  onStreams (takeRounds 1)

def reopenStreams (chosen : OpenStream → Bool) : Lifecycle Unit := do
  modify fun app =>
    { app with opened := app.opened ++ (app.streams.filter chosen).map (·.watch) }
  onStreams (eachStream fun stream system =>
    if chosen stream then stream.reopen system else (stream, system))

/-- Takes all that the streams deliver. Streams that broke are opened again while there is time for
their delays, as often as is given. -/
def takeWithin (hasTime : Nat → Bool) : Nat → Lifecycle Unit
  | 0 => onStreams drain
  | attempts + 1 => do
      onStreams drain
      let returns (stream : OpenStream) : Bool := stream.isBroken && hasTime stream.waited
      if (← get).streams.any returns then
        reopenStreams returns
        takeWithin hasTime attempts

/-- Takes all that the streams deliver. A fault passes by firing, so that more attempts than there
are faults would not help. -/
def takeEvents : Lifecycle Unit := do
  takeWithin (fun _ => true) (← get).system.database.faults.length

/-- Closes all streams but those of a choice. -/
def keepStreams (chosen : OpenStream → Bool) : Lifecycle Unit :=
  modify fun app =>
    let (kept, closed) := app.streams.partition chosen
    { app with streams := kept, rested := app.rested + (closed.filter (·.isAtRest)).length }

/-- Waits until as many streams have come to rest as there are watches. The program only waits to be
asked to stop; this stands for the environment, which asks it then. Streams that were closed before
count too, so that a program that is started again need not wait. -/
def awaitRest : Lifecycle Unit := do
  let app ← get
  let resting := app.rested + (app.streams.filter (·.isAtRest)).length
  if resting < (app.watches.getD []).length then
    openStreams
    takeEvents

/-- Takes what the streams deliver up to a time limit. Each attempt waits for a second at least. -/
def takeEventsUntil (limit : Json) : Lifecycle Unit :=
  takeWithin (Deadline.allows limit) (Deadline.wholeSeconds limit)

end Lifecycle

end ClusterGraph
