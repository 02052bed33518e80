import ClusterGraph.Deadline
import ClusterGraph.System
import ClusterGraph.Watch.Target

namespace ClusterGraph

/-! Events of a watch and what is done with each. Objects that were added or changed are handed on;
failures of the graph are logged and the event is dropped. -/

structure WatchEvent where
  type : String
  object : Entries Json
deriving Repr

namespace WatchEvent

/-- The type that is told of an event, before it is shown. -/
def typeOf (tree : Json) : Json :=
  (tree.get? "type").getD (.str "")

/-- Reads an event; what is no object counts as an empty one. -/
def ofJson (tree : Json) : WatchEvent :=
  { type := (typeOf tree).display
    object := ((tree.get? "raw_object").bind Json.entries?).getD [] }

/-- The metadata of the object; what is no object counts as an empty one. -/
def metadata (event : WatchEvent) : Entries Json :=
  ((event.object.get? "metadata").bind Json.entries?).getD []

/-- A value of the metadata, and no text for one that is missing. -/
def about (event : WatchEvent) (name : String) : Json :=
  (event.metadata.get? name).getD (.str "")

/-- The version of the object, from which a watch can go on, if it has a text. -/
def version? (event : WatchEvent) : Option String :=
  let version := event.about "resourceVersion"
  if version.isVacant then none else version.display?

/-- What an error event says: its message, or else all of it. -/
def reason (event : WatchEvent) : Json :=
  (event.object.get? "message").getD (.obj event.object)

/-- Whether the event tells of an object that is there. -/
def hasObject (event : WatchEvent) : Bool :=
  event.type == "ADDED" || event.type == "MODIFIED"

end WatchEvent

structure Watch where
  target : WatchTarget
  /-- Seconds after which the server ends a stream. -/
  timeout : Json := .int 300
  /-- The time limit for the handling of one object. -/
  deadline : Json
deriving Repr

/-- What is done with an object. -/
abbrev Handler := Json → Action Unit

/-- Binds fields to all that an action logs. -/
def Action.withContext {α : Type} (fields : Entries Json) (action : Action α) : Action α :=
  fun system =>
    let outer := system.journal.context
    let within (context : Entries Json) (system : System) : System :=
      { system with journal := { system.journal with context } }
    match action (within (outer.insertAll fields) system) with
    | .ok value system => .ok value (within outer system)
    | .error failure system => .error failure (within outer system)

namespace Watch

def component : String := "collector.watcher"

/-- A value where the object has none. -/
def fill (object : Entries Json) (name value : String) : Entries Json :=
  if ((object.get? name).getD .null).isVacant then object.insert name (.str value) else object

/-- The object of an event. Lists leave out version and kind of their items. -/
def objectOf (watch : Watch) (event : WatchEvent) : Json :=
  .obj (fill (fill event.object "apiVersion" watch.target.apiVersion) "kind" watch.target.kind)

def hasTime (watch : Watch) : Bool :=
  match Deadline.ofJson watch.deadline with
  | .error _ | .ok .over => false
  | .ok _ => true

/-- The object that an event hands on, if it does. -/
def delivery? (watch : Watch) (event : WatchEvent) : Option Json :=
  if event.hasObject && watch.hasTime then some (watch.objectOf event) else none

/-- Fields that hold while the object of an event is handled. -/
def contextOf (watch : Watch) (event : WatchEvent) : Entries Json :=
  [("event_type", .str event.type),
   ("watch_kind", .str watch.target.kind),
   ("object_namespace", event.about "namespace"),
   ("object_name", event.about "name")]

def reportStarted (watches : List Watch) : Action Unit :=
  Action.log .info component "watchers_started"
    [("kinds", .arr (watches.map fun watch => .str watch.target.kind))]

def reportStopped : Action Unit :=
  Action.log .info component "watchers_stopped" []

def reportTimeout (watch : Watch) : Action Unit :=
  Action.log .error component "sync_timed_out" [("timeout_seconds", watch.deadline)]

/-- Hands an object on within the time for it, and tells how that failed if it did. -/
def attempt (watch : Watch) (handler : Handler) (event : WatchEvent) : Action (Option Failure) :=
  match Deadline.ofJson watch.deadline with
  | .error shape => pure (some (.shape shape))
  | .ok .over => pure (some (.foreign .deadline ""))
  | .ok _ => fun system =>
      match handler (watch.objectOf event) system with
      | .ok _ system => .ok none system
      | .error failure system => .ok (some failure) system

/-- Concludes the handling of an object. A failure of the graph and the end of the time are logged;
any other failure is passed on. -/
def conclude (watch : Watch) : Option Failure → Action Unit
  | none => pure ()
  | some (.foreign .deadline _) => watch.reportTimeout
  | some (.graph failure) =>
      Action.log .error component "sync_event_dropped"
        [("error_type", .str failure.name), ("error", .str failure.message)]
  | some failure => throw failure

def deliver (watch : Watch) (handler : Handler) (event : WatchEvent) : Action Unit := do
  watch.conclude (← watch.attempt handler event)

/-- How the handling of an error event fails. -/
def complain (watch : Watch) (event : WatchEvent) : Failure :=
  match event.reason.textFault? with
  | some fault => .shape (.unshown fault)
  | none => .expired (watch.target.kind ++ " watch ended: " ++ event.reason.display)

/-- Handles one event. Objects that were deleted stay in the graph; an error event ends the
stream. -/
def handle (watch : Watch) (handler : Handler) (event : WatchEvent) : Action Unit :=
  if event.type == "ERROR" then
    throw (watch.complain event)
  else if event.type == "DELETED" then
    Action.log .debug component "delete_event_ignored"
      [("kind", .str watch.target.kind), ("name", event.about "name")]
  else if event.hasObject then
    Action.withContext (watch.contextOf event) (watch.deliver handler event)
  else pure ()

/-- The version of an event that was handled is shown. -/
def showVersion (event : WatchEvent) : Action Unit :=
  match (event.about "resourceVersion").textFault? with
  | some fault => throw (.shape (.unshown fault))
  | none => pure ()

/-- Concludes the handling of an event whose object was handed on before. -/
def concludeEvent (watch : Watch) (event : WatchEvent) (outcome : Option Failure) :
    Action Unit := do
  Action.withContext (watch.contextOf event) (watch.conclude outcome)
  showVersion event

/-- Handles one event and takes note of its version. -/
def take (watch : Watch) (handler : Handler) (event : WatchEvent) : Action Unit := do
  watch.handle handler event
  showVersion event

end Watch

end ClusterGraph
