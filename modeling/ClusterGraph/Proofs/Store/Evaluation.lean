import ClusterGraph.Store.Script

namespace ClusterGraph

/-! What a script does to a store that shows no faults. The rows decide on the statements that
follow, but notes to the outside decide on nothing. -/

namespace Script

variable {α β : Type}

def evaluate : Script α → Store → EStateM.Result Failure Store α
  | .done value, store => .ok value store
  | .fail failure, store => .error failure store
  | .run statement next, store =>
      match statement.perform store with
      | .ok rows store => (next rows).evaluate store
      | .error shape store => .error (.shape shape) store
  | .tell _ next, store => next.evaluate store

theorem evaluate_bind (script : Script α) (next : α → Script β) (store : Store) :
    (script >>= next).evaluate store =
      match script.evaluate store with
      | .ok value store => (next value).evaluate store
      | .error failure store => .error failure store := by
  change (script.bind next).evaluate store = _
  induction script generalizing store with
  | done value => rfl
  | fail failure => rfl
  | run statement rest ih =>
      simp only [Script.bind, evaluate]
      cases statement.perform store with
      | ok rows after => exact ih rows after
      | error shape after => rfl
  | tell note rest ih => exact ih store

theorem evaluate_pure (value : α) (store : Store) :
    (pure value : Script α).evaluate store = .ok value store := rfl

theorem evaluate_query (statement : Statement) (store : Store) :
    (query statement).evaluate store =
      match statement.perform store with
      | .ok rows store => .ok rows store
      | .error shape store => .error (.shape shape) store := by
  simp only [query, evaluate]

theorem evaluate_ofShape_ok (value : α) (store : Store) :
    (ofShape (.ok value)).evaluate store = .ok value store := rfl

theorem evaluate_ofShape_error (shape : ShapeError) (store : Store) :
    (ofShape (.error shape : Except ShapeError α)).evaluate store =
      .error (.shape shape) store := rfl

/-- Series that a script may count. -/
def Counts (allowed : Series → Prop) : Script α → Prop
  | .done _ | .fail _ => True
  | .run _ next => ∀ rows, (next rows).Counts allowed
  | .tell (.count series _) next => allowed series ∧ next.Counts allowed
  | .tell (.log _) next => next.Counts allowed

theorem Counts.bind {allowed : Series → Prop} {script : Script α} {next : α → Script β}
    (first : script.Counts allowed) (second : ∀ value, (next value).Counts allowed) :
    (script >>= next).Counts allowed := by
  change (script.bind next).Counts allowed
  induction script with
  | done value => exact second value
  | fail failure => trivial
  | run statement rest ih => exact fun rows => ih rows (first rows)
  | tell note rest ih =>
      cases note with
      | count series amount => exact ⟨first.1, ih first.2⟩
      | log record => exact ih first

theorem counts_runAll (allowed : Series → Prop) (statements : List Statement) :
    (runAll statements).Counts allowed := by
  induction statements with
  | nil => trivial
  | cons statement rest ih => exact fun _ => ih

theorem counts_ofShape (allowed : Series → Prop) (result : Except ShapeError α) :
    (ofShape result).Counts allowed := by
  cases result <;> trivial

end Script

end ClusterGraph
