import ClusterGraph.Store.Interpreter
import ClusterGraph.System

namespace ClusterGraph

/-! Scripts of statements: what is to be done in one transaction. Which statement comes next may
depend on the rows of those before. -/

/-- What a script tells the outside while it runs. A transaction that is rolled back does not take
it back. -/
inductive Note where
  | count (series : Series) (amount : Nat)
  | log (record : LogRecord)
deriving Repr

def System.note (system : System) : Note → System
  | .count series amount => system.count series amount
  | .log record => system.log record

inductive Script (α : Type) where
  | done (value : α)
  | fail (failure : Failure)
  | run (statement : Statement) (next : List Json → Script α)
  | tell (note : Note) (next : Script α)

namespace Script

variable {α β : Type}

def bind : Script α → (α → Script β) → Script β
  | .done value, next => next value
  | .fail failure, _ => .fail failure
  | .run statement rest, next => .run statement fun rows => (rest rows).bind next
  | .tell note rest, next => .tell note (rest.bind next)

instance : Monad Script where
  pure := .done
  bind := Script.bind

def ofExcept : Except Failure α → Script α
  | .ok value => .done value
  | .error failure => .fail failure

/-- Reads rows; a row of the wrong shape fails the script. -/
def ofShape (result : Except ShapeError α) : Script α :=
  ofExcept (result.mapError .shape)

def query (statement : Statement) : Script (List Json) :=
  .run statement .done

def runAll : List Statement → Script Unit
  | [] => .done ()
  | statement :: rest => .run statement fun _ => runAll rest

def queryAll : List Statement → Script (List (List Json))
  | [] => .done []
  | statement :: rest =>
      .run statement fun rows => (queryAll rest).bind fun others => .done (rows :: others)

def emit (note : Note) : Script Unit :=
  .tell note (.done ())

end Script

namespace Action

def runStatement (statement : Statement) : Action (List Json) := fun system =>
  match reach (.run statement.query.name statement.parameters) .statement
      (some statement.query.name) (some .statement) system with
  | .error failure system => .error failure system
  | .ok false system => .ok [] system
  | .ok true system =>
      match statement.perform system.database.store with
      | .ok rows store => .ok rows (system.withStore store)
      | .error shape store => .error (.shape shape) (system.withStore store)

def runScript {α : Type} : Script α → Action α
  | .done value => fun system => .ok value system
  | .fail failure => fun system => .error failure system
  | .run statement next => fun system =>
      match runStatement statement system with
      | .ok rows system => runScript (next rows) system
      | .error failure system => .error failure system
  | .tell note next => fun system => runScript next (system.note note)

end Action

end ClusterGraph
