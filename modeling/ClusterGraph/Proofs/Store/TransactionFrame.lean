import ClusterGraph.Proofs.Store.TransactionEnding

namespace ClusterGraph

/-! What a transaction does not read: its end and its effect depend on the database alone, and
systems that share more than that go on sharing it. -/

variable {α β : Type}

/-- A relation between systems with the same database, which they keep when the same is done to
both. -/
structure System.Frame (same : System → System → Prop) : Prop where
  database : ∀ {left right : System}, same left right → left.database = right.database
  withDatabase : ∀ {left right : System} (database : Database), same left right →
    same { left with database } { right with database }
  record : ∀ {left right : System} (call : Call), same left right →
    same (left.record call) (right.record call)
  counters : ∀ {left right : System} (change : Counters → Counters), same left right →
    same { left with counters := change left.counters }
      { right with counters := change right.counters }
  log : ∀ {left right : System} (record : LogRecord), same left right →
    same (left.log record) (right.log record)

namespace System

def SameDatabase (left right : System) : Prop :=
  left.database = right.database

/-- The systems differ at most in their journals. -/
def SameWork (left right : System) : Prop :=
  left.database = right.database ∧ left.calls = right.calls ∧ left.counters = right.counters

theorem sameDatabase_frame : Frame SameDatabase :=
  ⟨id, fun _ _ => rfl, fun _ => id, fun _ => id, fun _ => id⟩

theorem sameWork_frame : Frame SameWork where
  database same := same.1
  withDatabase _ same := ⟨rfl, same.2⟩
  record call same := ⟨same.1, congrArg (· ++ [call]) same.2.1, same.2.2⟩
  counters change same := ⟨same.1, same.2.1, congrArg change same.2.2⟩
  log _ same := same

theorem SameWork.trans {left middle right : System} (first : left.SameWork middle)
    (second : middle.SameWork right) : left.SameWork right :=
  ⟨first.1.trans second.1, first.2.1.trans second.2.1, first.2.2.trans second.2.2⟩

end System

/-- Two ends of an action with one value or failure, in related systems. -/
inductive SameEnd (same : System → System → Prop) :
    EStateM.Result Failure System α → EStateM.Result Failure System α → Prop where
  | ok {value : α} {left right : System} (alike : same left right) :
      SameEnd same (.ok value left) (.ok value right)
  | error {failure : Failure} {left right : System} (alike : same left right) :
      SameEnd same (.error failure left) (.error failure right)

namespace Action

theorem after_alike {same : System → System → Prop} {first second : Action α}
    {left right : System} (ends : SameEnd same (first left) (second right)) :
    same (after first left) (after second right) := by
  simp only [after]
  generalize first left = leftEnd at ends ⊢
  generalize second right = rightEnd at ends ⊢
  cases ends with
  | ok last | error last => exact last

/-- Systems that are related stay so, and the action ends alike in both. -/
def Respects (same : System → System → Prop) (action : Action α) : Prop :=
  ∀ left right : System, same left right → SameEnd same (action left) (action right)

variable {same : System → System → Prop}

theorem Respects.bind {action : Action α} {next : α → Action β} (first : Respects same action)
    (second : ∀ value, Respects same (next value)) : Respects same (action >>= next) := by
  intro left right alike
  have start := first left right alike
  change SameEnd same (EStateM.bind action next left) (EStateM.bind action next right)
  unfold EStateM.bind
  generalize action left = leftEnd at start ⊢
  generalize action right = rightEnd at start ⊢
  cases start with
  | ok middle => exact second _ _ _ middle
  | error middle => exact .error middle

theorem respects_pure (value : α) : Respects same (pure value) :=
  fun _ _ alike => .ok alike

theorem respects_throw (failure : Failure) : Respects same (throw failure : Action α) :=
  fun _ _ alike => .error alike

section Frame

variable (frame : System.Frame same)

include frame

theorem respects_count (series : Series) (amount : Nat) : Respects same (count series amount) :=
  fun _ _ alike => .ok (frame.counters (·.add series amount) alike)

theorem respects_log (severity : Severity) (component event : String) (fields : Entries Json) :
    Respects same (log severity component event fields) :=
  fun _ _ alike => .ok (frame.log _ alike)

theorem respects_reach (call : Call) (site : Site) (query : Option String)
    (stage : Option Stage) : Respects same (reach call site query stage) := by
  intro left right alike
  have shared := frame.database (frame.record call alike)
  have called (faults : List Fault) := frame.withDatabase
    { (right.record call).database with faults } (frame.record call alike)
  simp only [reach, System.call]
  rw [shared]
  cases (Fault.fire site query (right.record call).database.faults).1 with
  | none => exact .ok (called _)
  | some fault =>
      cases failed : fault.failure? stage with
      | none =>
          simp only [failed]
          exact .ok (called _)
      | some failure =>
          simp only [failed]
          exact .error (called _)

theorem same_withStore {left right : System} (alike : same left right) (store : Store) :
    same (left.withStore store) (right.withStore store) := by
  unfold System.withStore
  rw [frame.database alike]
  exact frame.withDatabase _ alike

theorem respects_runStatement (statement : Statement) :
    Respects same (runStatement statement) := by
  intro left right alike
  have reached := respects_reach frame (.run statement.query.name statement.parameters) .statement
    (some statement.query.name) (some .statement) left right alike
  simp only [runStatement]
  generalize reach _ _ _ _ left = leftEnd at reached ⊢
  generalize reach _ _ _ _ right = rightEnd at reached ⊢
  cases reached with
  | error next => exact .error next
  | @ok answered leftNext rightNext next =>
      cases answered with
      | false => exact .ok next
      | true =>
          simp only [frame.database next]
          cases statement.perform rightNext.database.store with
          | ok rows store => exact .ok (same_withStore frame next store)
          | error shape store => exact .error (same_withStore frame next store)

theorem respects_runScript (script : Script α) : Respects same (runScript script) := by
  induction script with
  | done value => exact respects_pure value
  | fail failure => exact respects_throw failure
  | run statement next ih =>
      rw [runScript_run]
      exact Respects.bind (respects_runStatement frame statement) ih
  | tell note next ih =>
      intro left right alike
      have noted : same (left.note note) (right.note note) := by
        cases note with
        | count series amount => exact frame.counters (·.add series amount) alike
        | log record => exact frame.log record alike
      exact ih _ _ noted

theorem respects_transaction (script : Script α) : Respects same (transaction script) := by
  intro left right alike
  have opens : SameEnd same (openTransaction left) (openTransaction right) := by
    simp only [openTransaction, frame.database alike]
    exact respects_reach frame .begin .opening none (some .opening) _ _ (frame.record _ alike)
  simp only [transaction_eq]
  generalize openTransaction left = leftOpening at opens ⊢
  generalize openTransaction right = rightOpening at opens ⊢
  cases opens with
  | error next => exact .error next
  | @ok answered leftOpened rightOpened opened =>
      have snapshot : leftOpened.graph = rightOpened.graph := by
        simp only [System.graph, frame.database opened]
      have restored {leftLast rightLast : System} (last : same leftLast rightLast) :
          same (rollBack leftOpened.graph leftLast) (rollBack rightOpened.graph rightLast) := by
        have recorded := frame.record .rollback last
        simp only [rollBack, System.withGraph, snapshot, frame.database recorded]
        exact same_withStore frame recorded _
      have runs := respects_runScript frame script _ _ opened
      simp only
      generalize runScript script leftOpened = leftRun at runs ⊢
      generalize runScript script rightOpened = rightRun at runs ⊢
      cases runs with
      | error next => exact .error (restored next)
      | @ok value leftMiddle rightMiddle middle =>
          have commits : SameEnd same (commitTransaction leftMiddle)
              (commitTransaction rightMiddle) :=
            respects_reach frame .commit .commit none (some .commit) _ _ middle
          simp only
          generalize commitTransaction leftMiddle = leftCommit at commits ⊢
          generalize commitTransaction rightMiddle = rightCommit at commits ⊢
          cases commits with
          | error last => exact .error (restored last)
          | ok last => exact .ok last

end Frame

end Action

end ClusterGraph
