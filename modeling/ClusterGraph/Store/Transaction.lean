import ClusterGraph.Store.Script

namespace ClusterGraph.Action

/-! Conversations with the database: transactions, statements that stand alone, and the check and
the end of a connection. -/

/-- Ends a transaction without its effects. -/
def rollBack (snapshot : Graph) (system : System) : System :=
  (system.record .rollback).withGraph snapshot

/-- Runs a script as one transaction. It commits if the script comes to its end; otherwise, and if
the commit fails, the graph is as it was before. -/
def transaction {α : Type} (script : Script α) : Action α := fun system =>
  match reach .begin .opening none (some .opening)
      (system.record (.session system.database.name)) with
  | .error failure system => .error failure system
  | .ok _ opened =>
      match runScript script opened with
      | .error failure system => .error failure (rollBack opened.graph system)
      | .ok value system =>
          match reach .commit .commit none (some .commit) system with
          | .error failure system => .error failure (rollBack opened.graph system)
          | .ok _ system => .ok value system

def execute (statement : Statement) : Action Unit := do
  modify fun system => system.record (.session system.database.name)
  let _ ← reach (.execute statement.query.name statement.parameters) .execution
    (some statement.query.name) (some .statement)

/-- Checks that the database answers. -/
def verify : Action Unit := do
  let _ ← reach .verify .verification none (some .reachability)

def closeStore : Action Unit := do
  let _ ← reach .close .closing none none
  log .info "graph.store" "graph store closed" []

end ClusterGraph.Action
