import ClusterGraph.Proofs.Store.Evaluation
import ClusterGraph.Proofs.Store.Ids
import ClusterGraph.Proofs.Store.RaisingFault
import ClusterGraph.Store.Transaction

namespace ClusterGraph

/-! How transactions end where all faults raise: a transaction commits what its script does to the
store, or leaves the graph as it was and fails, by its script or by a fault. -/

variable {α : Type}

theorem System.note_database (system : System) (note : Note) :
    (system.note note).database = system.database := by
  cases note <;> rfl

/-- How the run of a script in an open transaction ends. -/
inductive ScriptEnds (script : Script α) (before : System) :
    EStateM.Result Failure System α → Prop where
  | completed {value : α} {after : System}
      (evaluated : script.evaluate before.database.store = .ok value after.database.store) :
      ScriptEnds script before (.ok value after)
  | failed {failure : Failure} {after : System}
      (evaluated : script.evaluate before.database.store = .error failure after.database.store) :
      ScriptEnds script before (.error failure after)
  | disturbed {failure : Failure} {after : System}
      (surfaces : Surfaces before.database.faults failure) :
      ScriptEnds script before (.error failure after)

inductive TransactionEnds (script : Script α) (before : System) :
    EStateM.Result Failure System α → Prop where
  | committed {value : α} {after : System}
      (evaluated : script.evaluate before.database.store = .ok value after.database.store) :
      TransactionEnds script before (.ok value after)
  | failed {failure : Failure} {store : Store} {after : System}
      (evaluated : script.evaluate before.database.store = .error failure store)
      (restored : after.graph = before.graph) :
      TransactionEnds script before (.error failure after)
  | disturbed {failure : Failure} {after : System}
      (surfaces : Surfaces before.database.faults failure) (restored : after.graph = before.graph) :
      TransactionEnds script before (.error failure after)

namespace Action

theorem runStatement_precedes (statement : Statement) :
    Advances System.Precedes (runStatement statement) := by
  intro system
  have reached := reach_precedes (.run statement.query.name statement.parameters) .statement
    (some statement.query.name) (some .statement) system
  simp only [after, runStatement] at reached ⊢
  generalize reach _ _ _ _ system = result at reached ⊢
  cases result with
  | error failure called => exact reached
  | ok answered called =>
    cases answered with
    | false => exact reached
    | true =>
      have used := statement.perform_usesIds called.database.store
      simp only [Store.after] at reached used ⊢
      cases performed : statement.perform called.database.store <;>
        simp only [performed] at used ⊢ <;>
        exact reached.trans ⟨fun _ member => member, used⟩

theorem runScript_run (statement : Statement) (next : List Json → Script α) :
    runScript (.run statement next) =
      runStatement statement >>= fun rows => runScript (next rows) := by
  funext system
  simp only [runScript, bind, EStateM.bind]
  cases runStatement statement system <;> rfl

theorem runScript_precedes (script : Script α) :
    Advances System.Precedes (runScript script) := by
  induction script with
  | done value => exact advances_pure .refl value
  | fail failure => exact advances_throw .refl failure
  | run statement next ih =>
      rw [runScript_run]
      exact (runStatement_precedes statement).bind .trans ih
  | tell note next ih =>
      intro system
      exact (System.Precedes.of_database (system.note_database note)).trans (ih (system.note note))

/-- Where all faults raise, a statement does what it does to a store, or fails by a fault. -/
theorem runStatement_raising {system : System} (raising : Raising system.database.faults)
    (statement : Statement) :
    (∃ called : System, called.database.store = system.database.store ∧
      runStatement statement system =
        match statement.perform system.database.store with
        | .ok rows store => .ok rows (called.withStore store)
        | .error shape store => .error (.shape shape) (called.withStore store)) ∨
      ∃ failure called, Surfaces system.database.faults failure ∧
        runStatement statement system = .error failure called := by
  have stored := reach_store (.run statement.query.name statement.parameters) .statement
    (some statement.query.name) (some .statement) system
  rcases reach_raising raising (.run statement.query.name statement.parameters) .statement
      (some statement.query.name) .statement with answered | ⟨failure, surfaces, raised⟩
  · left
    refine ⟨_, stored, ?_⟩
    simp only [runStatement]
    rw [answered]
    cases performed : statement.perform system.database.store <;> simp only [stored, performed]
  · right
    exact ⟨failure, _, surfaces, by simp only [runStatement]; rw [raised]⟩

theorem runScript_ends {system : System} (raising : Raising system.database.faults)
    (script : Script α) : ScriptEnds script system (runScript script system) := by
  induction script generalizing system with
  | done value => exact .completed rfl
  | fail failure => exact .failed rfl
  | run statement next ih =>
      have first := runStatement_precedes statement system
      simp only [runScript]
      rcases runStatement_raising raising statement with
        ⟨called, stored, ran⟩ | ⟨failure, called, surfaces, ran⟩
      · simp only [after, ran] at first ⊢
        cases performed : statement.perform system.database.store with
        | ok rows store =>
            simp only [performed] at first ⊢
            have evaluated : (Script.run statement next).evaluate system.database.store =
                (next rows).evaluate store := by
              simp only [Script.evaluate, performed]
            have rest := ih rows (first.faults.raising raising)
            generalize runScript (next rows) (called.withStore store) = result at rest ⊢
            cases rest with
            | completed rest => exact .completed (evaluated.trans rest)
            | failed rest => exact .failed (evaluated.trans rest)
            | disturbed surfaces => exact .disturbed (first.faults.surfaces surfaces)
        | error shape store =>
            refine .failed ?_
            simp only [Script.evaluate, performed]
            rfl
      · simp only [ran]
        exact .disturbed surfaces
  | tell note next ih =>
      have same := system.note_database note
      have rest : ScriptEnds next (system.note note) (runScript next (system.note note)) :=
        ih (by rw [same]; exact raising)
      simp only [runScript]
      generalize runScript next (system.note note) = result at rest ⊢
      cases rest with
      | completed rest => exact .completed (by rw [← same]; exact rest)
      | failed rest => exact .failed (by rw [← same]; exact rest)
      | disturbed surfaces => exact .disturbed (by rw [← same]; exact surfaces)

/-- Opens a session and a transaction in it. -/
def openTransaction : Action Bool := fun system =>
  reach .begin .opening none (some .opening) (system.record (.session system.database.name))

def commitTransaction : Action Bool :=
  reach .commit .commit none (some .commit)

theorem transaction_eq (script : Script α) (system : System) :
    transaction script system =
      match openTransaction system with
      | .error failure system => .error failure system
      | .ok _ opened =>
          match runScript script opened with
          | .error failure system => .error failure (rollBack opened.graph system)
          | .ok value system =>
              match commitTransaction system with
              | .error failure system => .error failure (rollBack opened.graph system)
              | .ok _ system => .ok value system := rfl

theorem openTransaction_precedes : Advances System.Precedes openTransaction := by
  intro system
  have recorded : system.Precedes (system.record (.session system.database.name)) :=
    .of_database rfl
  exact recorded.trans (reach_precedes .begin .opening none (some .opening) _)

theorem openTransaction_store (system : System) :
    (after openTransaction system).database.store = system.database.store :=
  reach_store .begin .opening none (some .opening)
    (system.record (.session system.database.name))

theorem openTransaction_raising {system : System} (raising : Raising system.database.faults) :
    openTransaction system = .ok true (after openTransaction system) ∨
      ∃ failure, Surfaces system.database.faults failure ∧
        openTransaction system = .error failure (after openTransaction system) := by
  have recorded : Raising (system.record (.session system.database.name)).database.faults := raising
  exact reach_raising recorded .begin .opening none .opening

theorem commitTransaction_precedes : Advances System.Precedes commitTransaction :=
  reach_precedes .commit .commit none (some .commit)

theorem commitTransaction_store (system : System) :
    (after commitTransaction system).database.store = system.database.store :=
  reach_store .commit .commit none (some .commit) system

theorem commitTransaction_raising {system : System} (raising : Raising system.database.faults) :
    commitTransaction system = .ok true (after commitTransaction system) ∨
      ∃ failure, Surfaces system.database.faults failure ∧
        commitTransaction system = .error failure (after commitTransaction system) :=
  reach_raising raising .commit .commit none .commit

theorem rollBack_precedes (snapshot : Graph) (system : System) :
    system.Precedes (rollBack snapshot system) :=
  ⟨fun _ member => member, Nat.le_refl _⟩

/-- A transaction leads where its parts and the restoration of a snapshot lead. -/
theorem transaction_advances {relation : System → System → Prop}
    (trans : ∀ {before middle after}, relation before middle → relation middle after →
      relation before after)
    (opens : Advances relation openTransaction) {script : Script α}
    (runs : Advances relation (runScript script)) (commits : Advances relation commitTransaction)
    (restores : ∀ snapshot system, relation system (rollBack snapshot system)) :
    Advances relation (transaction script) := by
  intro system
  have opens := opens system
  simp only [after, transaction_eq]
  cases opening : openTransaction system with
  | error failure opened =>
      rw [after_error opening] at opens
      exact opens
  | ok answered opened =>
      rw [after_ok opening] at opens
      have runs := trans opens (runs opened)
      simp only
      cases ran : runScript script opened with
      | error failure middle =>
          rw [after_error ran] at runs
          exact trans runs (restores opened.graph middle)
      | ok value middle =>
          rw [after_ok ran] at runs
          have commits := trans runs (commits middle)
          simp only
          cases committed : commitTransaction middle with
          | error failure last =>
              rw [after_error committed] at commits
              exact trans commits (restores opened.graph last)
          | ok answered last =>
              rw [after_ok committed] at commits
              exact commits

theorem transaction_precedes (script : Script α) :
    Advances System.Precedes (transaction script) :=
  transaction_advances .trans openTransaction_precedes (runScript_precedes script)
    commitTransaction_precedes rollBack_precedes

theorem transaction_ends {system : System} (raising : Raising system.database.faults)
    (script : Script α) : TransactionEnds script system (transaction script system) := by
  have opens := openTransaction_precedes system
  have stored := openTransaction_store system
  rw [transaction_eq]
  rcases openTransaction_raising raising with opening | ⟨failure, surfaces, opening⟩
  · generalize after openTransaction system = opened at opening opens stored
    have runs := opens.trans (runScript_precedes script opened)
    have ends := runScript_ends (opens.faults.raising raising) script
    have restored (last : System) : (rollBack opened.graph last).graph = system.graph := by
      change opened.database.store.graph = system.database.store.graph
      rw [stored]
    simp only [opening]
    cases ran : runScript script opened with
    | error failure middle =>
        rw [ran] at ends
        cases ends with
        | failed evaluated =>
            rw [stored] at evaluated
            exact .failed evaluated (restored middle)
        | disturbed surfaces => exact .disturbed (opens.faults.surfaces surfaces) (restored middle)
    | ok value middle =>
        rw [after_ok ran] at runs
        rw [ran] at ends
        cases ends with
        | completed evaluated =>
            rcases commitTransaction_raising (runs.faults.raising raising) with
              commits | ⟨failure, surfaces, commits⟩
            · simp only [commits]
              refine .committed ?_
              rw [← stored, evaluated, commitTransaction_store]
            · simp only [commits]
              exact .disturbed (runs.faults.surfaces surfaces) (restored _)
  · simp only [opening]
    exact .disturbed surfaces (congrArg Store.graph stored)

end Action

end ClusterGraph
