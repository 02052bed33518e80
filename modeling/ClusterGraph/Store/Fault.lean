import ClusterGraph.Failure

namespace ClusterGraph

/-! Faults that the database shows at chosen calls. -/

inductive Site where
  /-- The start of a transaction. -/
  | opening
  /-- A statement in a transaction. -/
  | statement
  | commit
  /-- A statement that is a transaction of its own. -/
  | execution
  | verification
  | closing
deriving DecidableEq, Repr

inductive FaultKind where
  /-- The connection fails. -/
  | driver
  /-- The database refuses. -/
  | client
  /-- A failure that has nothing to do with the database. -/
  | other
  /-- A failure of the operating system. -/
  | system
  /-- Nothing is done, and nothing is answered. -/
  | silence
deriving DecidableEq, Repr

structure Fault where
  site : Site
  kind : FaultKind
  /-- The name of the query at which the fault fires, if it is bound to one. -/
  query : Option String := none
  message : String := "injected"
  /-- Calls that pass before the fault fires. -/
  skip : Nat := 0
  /-- Whether the fault stays after it fired. -/
  repeats : Bool := false
deriving DecidableEq, Repr

namespace Fault

/-- Whether a fault is meant for a call, which may be one of a query. -/
def concerns (fault : Fault) (site : Site) (query : Option String) : Bool :=
  fault.site == site && (fault.query.isNone || fault.query == query)

/-- The first fault that fires at a call, and the faults that are left. Those before it have let
one call more pass. -/
def fire (site : Site) (query : Option String) : List Fault → Option Fault × List Fault
  | [] => (none, [])
  | fault :: rest =>
      if fault.concerns site query then
        match fault.skip with
        | 0 => (some fault, if fault.repeats then fault :: rest else rest)
        | skip + 1 =>
            let (fired, rest) := fire site query rest
            (fired, { fault with skip } :: rest)
      else
        let (fired, rest) := fire site query rest
        (fired, fault :: rest)

/-- The failure that a fault causes. Within a stage of a conversation those of the database are
told as its refusal. -/
def failure? (fault : Fault) (stage : Option Stage) : Option Failure :=
  match fault.kind, stage with
  | .silence, _ => none
  | .other, _ => some (.foreign .program fault.message)
  | .system, _ => some (.foreign .operatingSystem fault.message)
  | .driver, some stage | .client, some stage => some (.graph (.refused stage fault.message))
  | .driver, none => some (.foreign .databaseDriver fault.message)
  | .client, none => some (.foreign .databaseServer fault.message)

end Fault

end ClusterGraph
