import ClusterGraph.Journal.Counters
import ClusterGraph.Journal.Record
import ClusterGraph.Store.Fault
import ClusterGraph.Store.Graph

namespace ClusterGraph

/-! What the program works on: the database with its faults, the calls made so far, the counters
and the journal. -/

/-- A call to the database, or to another service that the program depends on. -/
inductive Call where
  | session (database : String)
  | begin
  | run (query : String) (parameters : Entries Json)
  | commit
  | rollback
  | execute (query : String) (parameters : Entries Json)
  | verify
  | close
  | metricsServer (port : Nat)
  /-- The account that the cluster gives to the programs in it. -/
  | clusterAccount
  | clusterFile
  | clusterClient
  | clusterClientClose
  | driver (uri user password : String) (timeout : Nat)
deriving Repr

def Call.isRun : Call → Bool
  | .run .. => true
  | _ => false

structure Database where
  name : String := "neo4j"
  store : Store := {}
  faults : List Fault := []
deriving Repr

structure System where
  database : Database := {}
  calls : List Call := []
  counters : Counters := {}
  journal : Journal
deriving Repr

/-- An action may fail; what it did until then stays done. -/
abbrev Action := EStateM Failure System

namespace System

def graph (system : System) : Graph :=
  system.database.store.graph

def withStore (system : System) (store : Store) : System :=
  { system with database := { system.database with store } }

/-- Ids stay used up when a graph comes back. -/
def withGraph (system : System) (graph : Graph) : System :=
  system.withStore { system.database.store with graph }

def record (system : System) (call : Call) : System :=
  { system with calls := system.calls ++ [call] }

def count (system : System) (series : Series) (amount : Nat) : System :=
  { system with counters := system.counters.add series amount }

def log (system : System) (record : LogRecord) : System :=
  { system with journal := system.journal.log record }

/-- Records a call and lets the faults at its place fire. -/
def call (system : System) (call : Call) (site : Site) (query : Option String) :
    Option Fault × System :=
  let system := system.record call
  let (fired, faults) := Fault.fire site query system.database.faults
  (fired, { system with database := { system.database with faults } })

end System

namespace Action

def count (series : Series) (amount : Nat) : Action Unit :=
  modify (·.count series amount)

def log (severity : Severity) (component event : String) (fields : Entries Json) : Action Unit :=
  modify (·.log ⟨severity, component, event, fields⟩)

/-- Makes a call that fails if a fault makes it fail. Tells whether the call is answered. -/
def reach (call : Call) (site : Site) (query : Option String) (stage : Option Stage) :
    Action Bool := fun system =>
  match system.call call site query with
  | (none, system) => .ok true system
  | (some fault, system) =>
      match fault.failure? stage with
      | some failure => .error failure system
      | none => .ok false system

/-- The value of an action with the number of statements that it ran in transactions. -/
def countingRuns {α : Type} (action : Action α) : Action (α × Nat) := do
  let before := (← get).calls.length
  let value ← action
  pure (value, ((← get).calls.drop before).countP Call.isRun)

end Action

end ClusterGraph
