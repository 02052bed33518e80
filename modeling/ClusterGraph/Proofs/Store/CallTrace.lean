import ClusterGraph.Proofs.Store.TransactionEnding

namespace ClusterGraph

/-! The calls that a transaction makes of a database without faults: those of the statements that
its script comes to, between the opening and the end of the transaction. -/

variable {α β : Type}

def Statement.call (statement : Statement) : Call :=
  .run statement.query.name statement.parameters

namespace Script

/-- The statements that a script comes to on a store. -/
def statements : Script α → Store → List Statement
  | .done _, _ | .fail _, _ => []
  | .run statement next, store => statement ::
      match statement.perform store with
      | .ok rows store => (next rows).statements store
      | .error _ _ => []
  | .tell _ next, store => next.statements store

theorem statements_bind (script : Script α) (next : α → Script β) (store : Store) :
    (script >>= next).statements store = script.statements store ++
      match script.evaluate store with
      | .ok value store => (next value).statements store
      | .error _ _ => [] := by
  change (script.bind next).statements store = _
  induction script generalizing store with
  | done value => rfl
  | fail failure => rfl
  | run statement rest ih =>
      simp only [Script.bind, statements, evaluate, List.cons_append]
      cases statement.perform store with
      | ok rows after => exact congrArg (statement :: ·) (ih rows after)
      | error shape after => rfl
  | tell note rest ih => exact ih store

theorem statements_query (statement : Statement) (store : Store) :
    (query statement).statements store = [statement] := by
  simp only [query, statements]
  cases statement.perform store <;> rfl

theorem statements_ofShape (result : Except ShapeError α) (store : Store) :
    (ofShape result).statements store = [] := by
  cases result <;> rfl

/-- Whatever the rows are, the script puts queries with these names only. -/
def Puts (allowed : String → Prop) : Script α → Prop
  | .done _ | .fail _ => True
  | .run statement next => allowed statement.query.name ∧ ∀ rows, (next rows).Puts allowed
  | .tell _ next => next.Puts allowed

variable {allowed : String → Prop}

theorem Puts.bind {script : Script α} {next : α → Script β} (first : script.Puts allowed)
    (second : ∀ value, (next value).Puts allowed) : (script >>= next).Puts allowed := by
  change (script.bind next).Puts allowed
  induction script with
  | done value => exact second value
  | fail failure => trivial
  | run statement rest ih => exact ⟨first.1, fun rows => ih rows (first.2 rows)⟩
  | tell note rest ih => exact ih first

theorem puts_ofShape (result : Except ShapeError α) : (ofShape result).Puts allowed := by
  cases result <;> trivial

end Script

/-- The later system made further calls, and the queries among them have these names. -/
def System.Puts (allowed : String → Prop) (before after : System) : Prop :=
  ∃ calls, after.calls = before.calls ++ calls ∧
    ∀ name parameters, .run name parameters ∈ calls → allowed name

theorem System.Puts.refl {allowed : String → Prop} (system : System) : system.Puts allowed system :=
  ⟨[], (List.append_nil _).symm, by simp⟩

theorem System.Puts.trans {allowed : String → Prop} {before middle after : System}
    (first : before.Puts allowed middle) (second : middle.Puts allowed after) :
    before.Puts allowed after := by
  obtain ⟨calls, appended, allows⟩ := first
  obtain ⟨others, othersAppended, othersAllow⟩ := second
  refine ⟨calls ++ others, by rw [othersAppended, appended, List.append_assoc], ?_⟩
  intro name parameters member
  exact (List.mem_append.mp member).elim (allows name parameters) (othersAllow name parameters)

theorem System.note_calls (system : System) (note : Note) :
    (system.note note).calls = system.calls := by
  cases note <;> rfl

namespace Action

theorem reach_calls (call : Call) (site : Site) (query : Option String) (stage : Option Stage)
    (system : System) :
    (after (reach call site query stage) system).calls = system.calls ++ [call] := by
  rw [after_reach]
  rfl

theorem runStatement_calls (statement : Statement) (system : System) :
    (after (runStatement statement) system).calls = system.calls ++ [statement.call] := by
  have called := reach_calls statement.call .statement (some statement.query.name)
    (some .statement) system
  simp only [after, runStatement, Statement.call] at called ⊢
  generalize reach _ _ _ _ system = result at called ⊢
  cases result with
  | error failure middle => exact called
  | ok answered middle =>
    cases answered with
    | false => exact called
    | true =>
      simp only at called ⊢
      cases statement.perform middle.database.store <;> exact called

theorem openTransaction_calls (before : System) :
    (after openTransaction before).calls =
      before.calls ++ [.session before.database.name, .begin] := by
  refine (reach_calls .begin .opening none (some .opening)
    (before.record (.session before.database.name))).trans ?_
  simp [System.record]

theorem runScript_puts {allowed : String → Prop} {script : Script α}
    (puts : script.Puts allowed) : Advances (System.Puts allowed) (runScript script) := by
  induction script with
  | done value => exact advances_pure .refl value
  | fail failure => exact advances_throw .refl failure
  | run statement next ih =>
      rw [runScript_run]
      refine Advances.bind .trans (fun system => ?_) fun rows => ih rows (puts.2 rows)
      refine ⟨_, runStatement_calls statement system, fun name parameters member => ?_⟩
      cases List.mem_singleton.mp member
      exact puts.1
  | tell note next ih =>
      intro system
      obtain ⟨calls, appended, allows⟩ := ih puts (system.note note)
      rw [system.note_calls] at appended
      exact ⟨calls, appended, allows⟩

/-- Whatever the faults are, a transaction puts queries of its script alone. -/
theorem transaction_puts {allowed : String → Prop} {script : Script α}
    (puts : script.Puts allowed) : Advances (System.Puts allowed) (transaction script) :=
  transaction_advances .trans (fun system => ⟨_, openTransaction_calls system, by simp⟩)
    (runScript_puts puts)
    (fun system => ⟨_, reach_calls .commit .commit none (some .commit) system, by simp⟩)
    (fun _ _ => ⟨[.rollback], rfl, by simp⟩)

theorem runStatement_calm {system : System} (calm : system.database.faults = [])
    (statement : Statement) :
    runStatement statement system =
      match statement.perform system.database.store with
      | .ok rows store => .ok rows ((system.record statement.call).withStore store)
      | .error shape store =>
          .error (.shape shape) ((system.record statement.call).withStore store) := by
  obtain ⟨⟨name, store, faults⟩, calls, counters, journal⟩ := system
  obtain rfl : faults = [] := calm
  rfl

theorem runScript_calls {system : System} (calm : system.database.faults = [])
    (script : Script α) :
    (after (runScript script) system).calls =
      system.calls ++ (script.statements system.database.store).map Statement.call := by
  induction script generalizing system with
  | done value => simp [after, runScript, Script.statements]
  | fail failure => simp [after, runScript, Script.statements]
  | run statement next ih =>
      have first := runStatement_calm calm statement
      simp only [after, runScript, Script.statements, List.map_cons] at ih ⊢
      cases performed : statement.perform system.database.store with
      | ok rows store =>
          have recorded : ((system.record statement.call).withStore store).database.faults = [] :=
            calm
          have rest := ih rows recorded
          rw [first, performed]
          simp only
          rw [rest]
          simp [System.record, System.withStore]
      | error shape store =>
          rw [first, performed]
          simp [System.record, System.withStore]
  | tell note next ih =>
      have noted : (system.note note).database.faults = [] := by rw [system.note_database, calm]
      have rest := ih noted
      rw [system.note_database, system.note_calls] at rest
      exact rest

/-- A transaction without faults that commits makes the calls of its script and no others. -/
theorem transaction_calls {system last : System} {script : Script α} {value : α}
    (calm : system.database.faults = []) (ran : transaction script system = .ok value last) :
    last.calls = system.calls ++ ([.session system.database.name, .begin] ++
      (script.statements system.database.store).map Statement.call ++ [.commit]) := by
  have opens : ∃ opened, openTransaction system = .ok true opened ∧
      opened.database = system.database ∧
      opened.calls = system.calls ++ [.session system.database.name, .begin] := by
    obtain ⟨⟨name, store, faults⟩, calls, counters, journal⟩ := system
    obtain rfl : faults = [] := calm
    exact ⟨_, rfl, rfl, by simp [System.record]⟩
  obtain ⟨opened, opens, same, opensCalls⟩ := opens
  have runs := runScript_calls (by rw [same]; exact calm) script
  rw [same, opensCalls] at runs
  rw [transaction_eq, opens] at ran
  simp only at ran
  cases scriptRan : runScript script opened with
  | error failure middle => simp [scriptRan] at ran
  | ok result middle =>
      rw [after_ok scriptRan] at runs
      have commits : (after commitTransaction middle).calls = middle.calls ++ [.commit] :=
        reach_calls .commit .commit none (some .commit) middle
      simp only [scriptRan] at ran
      cases committed : commitTransaction middle with
      | error failure ended => simp [committed] at ran
      | ok answered ended =>
          simp only [committed] at ran
          cases ran
          rw [after_ok committed, runs] at commits
          simpa only [List.append_assoc] using commits

end Action

end ClusterGraph
