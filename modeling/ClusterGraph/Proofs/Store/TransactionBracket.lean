import ClusterGraph.Proofs.Store.CallTrace

namespace ClusterGraph

/-! The bracket around the body of a transaction, under faults of every kind: which calls are made,
what the graph is at the exit, and in which failure each way out ends. A trace tells of each call
whether it passed, and a monitor reads from it that nothing stays open. -/

variable {α : Type}

/-- The fault that a call of a site would meet. -/
def System.met (system : System) (site : Site) (query : Option String) : Option Fault :=
  (Fault.fire site query system.database.faults).1

/-- What a stage of a conversation makes of the fault that its call meets: the failure that it ends
in, if it fails. -/
inductive Stage.Meets (stage : Stage) : Option Fault → Option Failure → Prop where
  | answered : Meets stage none none
  | silent {fault : Fault} (silence : fault.kind = .silence) : Meets stage (some fault) none
  | refused {fault : Fault} (ofDatabase : fault.kind = .driver ∨ fault.kind = .client) :
      Meets stage (some fault) (some (.graph (.refused stage fault.message)))
  | program {fault : Fault} (isOther : fault.kind = .other) :
      Meets stage (some fault) (some (.foreign .program fault.message))
  | system {fault : Fault} (isSystem : fault.kind = .system) :
      Meets stage (some fault) (some (.foreign .operatingSystem fault.message))

theorem Stage.meets_failure? (stage : Stage) (fault : Fault) :
    stage.Meets (some fault) (fault.failure? (some stage)) := by
  cases kind : fault.kind <;> simp only [Fault.failure?, kind]
  case driver => exact .refused (.inl kind)
  case client => exact .refused (.inr kind)
  case other => exact .program kind
  case system => exact .system kind
  case silence => exact .silent kind

/-- What the database says against a stage is filed as a failure of the transaction. -/
theorem Stage.Meets.ofDatabase {stage : Stage} {fault : Fault} {failure : Failure}
    (meets : stage.Meets (some fault) (some failure))
    (ofDatabase : fault.kind = .driver ∨ fault.kind = .client) :
    ∃ cause : GraphFailure, failure = .graph cause ∧ cause.name = "TransactionError" ∧
      cause.message = stage.complaint ++ fault.message := by
  cases meets with
  | refused _ => exact ⟨_, rfl, rfl, rfl⟩
  | program isOther => simp [isOther] at ofDatabase
  | system isSystem => simp [isSystem] at ofDatabase

/-- A failure that a fault causes at a call comes to light among those of all planned faults. -/
theorem System.surfaces_met {system : System} {site : Site} {query : Option String} {stage : Stage}
    {failure : Failure} (meets : stage.Meets (system.met site query) (some failure)) :
    Surfaces system.database.faults failure := by
  have fired := (Fault.fire_left site query system.database.faults).2
  generalize isMet : system.met site query = met at meets
  cases meets with
  | refused ofDatabase => exact (fired _ isMet).surfaces (.refused (by simp) ofDatabase stage)
  | program isOther => exact (fired _ isMet).surfaces (.program (by simp) isOther)
  | system isSystem => exact (fired _ isMet).surfaces (.system (by simp) isSystem)

abbrev Exchange := Call × Bool

/-- How many transactions are open after an exchange, where as many were open before it. A statement
and a commit need an open transaction, and no transaction is closed that is not open. -/
def Exchange.openAfter? : Nat → Exchange → Option Nat
  | opened, (.begin, true) => some (opened + 1)
  | opened, (.begin, false) | opened, (.session _, _) => some opened
  | opened + 1, (.run .., _) | opened + 1, (.commit, false) => some (opened + 1)
  | opened + 1, (.commit, true) | opened + 1, (.rollback, _) => some opened
  | _, _ => none

def Statement.exchange (statement : Statement) (passed : Bool) : Exchange :=
  (statement.call, passed)

theorem openAfter?_statements (statements : List Statement) (opened : Nat) :
    (statements.map (·.exchange true)).foldlM Exchange.openAfter? (opened + 1) =
      some (opened + 1) := by
  induction statements with
  | nil => rfl
  | cons statement rest ih => simpa [Statement.exchange, Statement.call, Exchange.openAfter?] using ih

/-- A script and a system, and what is left of both after statements that all passed. -/
inductive Script.Passes : Script α → System → List Statement → Script α → System → Prop where
  | start {script : Script α} {system : System} : Passes script system [] script system
  | run {statement : Statement} {next : List Json → Script α} {system middle last : System}
      {rows : List Json} {statements : List Statement} {rest : Script α}
      (ran : Action.runStatement statement system = .ok rows middle)
      (passes : Passes (next rows) middle statements rest last) :
      Passes (.run statement next) system (statement :: statements) rest last
  | tell {note : Note} {next : Script α} {system last : System} {statements : List Statement}
      {rest : Script α} (passes : Passes next (system.note note) statements rest last) :
      Passes (.tell note next) system statements rest last

/-- How the body of an open transaction ends, with the exchanges of its statements: at its own end,
with a failure of its own, at a statement that meets a fault, or at one that cannot be read. -/
inductive BodyEnds (script : Script α) (opened : System) :
    List Exchange → EStateM.Result Failure System α → Prop where
  | completed {statements : List Statement} {value : α} {last : System}
      (passes : script.Passes opened statements (.done value) last) :
      BodyEnds script opened (statements.map (·.exchange true)) (.ok value last)
  | raised {statements : List Statement} {failure : Failure} {last : System}
      (passes : script.Passes opened statements (.fail failure) last) :
      BodyEnds script opened (statements.map (·.exchange true)) (.error failure last)
  | disturbed {statements : List Statement} {statement : Statement}
      {next : List Json → Script α} {middle last : System} {failure : Failure}
      (passes : script.Passes opened statements (.run statement next) middle)
      (meets : Stage.statement.Meets (middle.met .statement (some statement.query.name))
        (some failure)) :
      BodyEnds script opened
        (statements.map (·.exchange true) ++ [statement.exchange false]) (.error failure last)
  | misshapen {statements : List Statement} {statement : Statement}
      {next : List Json → Script α} {middle last : System} {shape : ShapeError} {store : Store}
      (passes : script.Passes opened statements (.run statement next) middle)
      (unmet : middle.met .statement (some statement.query.name) = none)
      (performed : statement.perform middle.database.store = .error shape store) :
      BodyEnds script opened
        (statements.map (·.exchange true) ++ [statement.exchange false]) (.error (.shape shape) last)

/-- The four ways out of a transaction, with the exchanges after the session. A snapshot of the graph
is taken when the transaction opens. -/
inductive Bracket (script : Script α) (before opened : System) :
    List Exchange → EStateM.Result Failure System α → Prop where
  | unopened {failure : Failure} {last : System}
      (meets : Stage.opening.Meets (before.met .opening none) (some failure))
      (unchanged : last.graph = before.graph) :
      Bracket script before opened [(.begin, false)] (.error failure last)
  | committed {middle last : System} {runs : List Exchange} {value : α}
      (opens : Stage.opening.Meets (before.met .opening none) none)
      (ran : Action.runScript script opened = .ok value middle)
      (body : BodyEnds script opened runs (.ok value middle))
      (commits : Stage.commit.Meets (middle.met .commit none) none)
      (kept : last.database.store = middle.database.store) :
      Bracket script before opened ([(.begin, true)] ++ runs ++ [(.commit, true)]) (.ok value last)
  | uncommitted {middle last : System} {runs : List Exchange} {value : α} {failure : Failure}
      (opens : Stage.opening.Meets (before.met .opening none) none)
      (ran : Action.runScript script opened = .ok value middle)
      (body : BodyEnds script opened runs (.ok value middle))
      (meets : Stage.commit.Meets (middle.met .commit none) (some failure))
      (restored : last.graph = before.graph) :
      Bracket script before opened ([(.begin, true)] ++ runs ++ [(.commit, false), (.rollback, true)])
        (.error failure last)
  | abandoned {middle last : System} {runs : List Exchange} {failure : Failure}
      (opens : Stage.opening.Meets (before.met .opening none) none)
      (ran : Action.runScript script opened = .error failure middle)
      (body : BodyEnds script opened runs (.error failure middle))
      (restored : last.graph = before.graph) :
      Bracket script before opened ([(.begin, true)] ++ runs ++ [(.rollback, true)])
        (.error failure last)

namespace BodyEnds

variable {opened middle : System} {runs : List Exchange}
  {result : EStateM.Result Failure System α}

theorem run {statement : Statement} {next : List Json → Script α} {rows : List Json}
    (ran : Action.runStatement statement opened = .ok rows middle)
    (ends : BodyEnds (next rows) middle runs result) :
    BodyEnds (.run statement next) opened (statement.exchange true :: runs) result := by
  cases ends with
  | completed passes => exact .completed (.run ran passes)
  | raised passes => exact .raised (.run ran passes)
  | disturbed passes meets => exact .disturbed (.run ran passes) meets
  | misshapen passes unmet performed => exact .misshapen (.run ran passes) unmet performed

theorem tell {note : Note} {next : Script α} (ends : BodyEnds next (opened.note note) runs result) :
    BodyEnds (.tell note next) opened runs result := by
  cases ends with
  | completed passes => exact .completed (.tell passes)
  | raised passes => exact .raised (.tell passes)
  | disturbed passes meets => exact .disturbed (.tell passes) meets
  | misshapen passes unmet performed => exact .misshapen (.tell passes) unmet performed

end BodyEnds

/-- The statements of a body come one after another in the one transaction that is open. -/
theorem BodyEnds.openAfter? {script : Script α} {opened : System} {runs : List Exchange}
    {result : EStateM.Result Failure System α} (body : BodyEnds script opened runs result) :
    (∀ exchange ∈ runs, exchange.1.isRun) ∧ runs.foldlM Exchange.openAfter? 1 = some 1 := by
  have passing (statements : List Statement) :
      ∀ exchange ∈ statements.map (·.exchange true), exchange.1.isRun := by
    intro exchange member
    obtain ⟨statement, -, rfl⟩ := List.mem_map.mp member
    rfl
  have failing (statements : List Statement) (statement : Statement) :
      (∀ exchange ∈ statements.map (·.exchange true) ++ [statement.exchange false],
        exchange.1.isRun) ∧
      (statements.map (·.exchange true) ++ [statement.exchange false]).foldlM
        Exchange.openAfter? 1 = some 1 := by
    refine ⟨?_, ?_⟩
    · intro exchange member
      rcases List.mem_append.mp member with earlier | last
      · exact passing statements exchange earlier
      · obtain rfl := List.mem_singleton.mp last
        rfl
    · rw [List.foldlM_append, openAfter?_statements]
      rfl
  cases body with
  | completed _ => exact ⟨passing _, openAfter?_statements _ 0⟩
  | raised _ => exact ⟨passing _, openAfter?_statements _ 0⟩
  | disturbed _ _ => exact failing _ _
  | misshapen _ _ _ => exact failing _ _

/-- Every transaction that is begun is closed, and closed once. -/
theorem Bracket.openAfter? {script : Script α} {before opened : System} {trace : List Exchange}
    {result : EStateM.Result Failure System α} (bracket : Bracket script before opened trace result) :
    trace.foldlM Exchange.openAfter? 0 = some 0 := by
  cases bracket with
  | unopened _ _ => rfl
  | committed _ _ body _ _ =>
      rw [List.foldlM_append, List.foldlM_append]
      simp [Exchange.openAfter?, body.openAfter?.2]
  | uncommitted _ _ body _ _ =>
      rw [List.foldlM_append, List.foldlM_append]
      simp [Exchange.openAfter?, body.openAfter?.2]
  | abandoned _ _ body _ =>
      rw [List.foldlM_append, List.foldlM_append]
      simp [Exchange.openAfter?, body.openAfter?.2]

namespace Action

theorem reach_meets (call : Call) (site : Site) (query : Option String) (stage : Stage)
    (system : System) :
    (∃ answered, reach call site query (some stage) system =
        .ok answered (system.call call site query).2 ∧
      (answered = true → system.met site query = none) ∧
      stage.Meets (system.met site query) none) ∨
    ∃ failure, reach call site query (some stage) system =
        .error failure (system.call call site query).2 ∧
      stage.Meets (system.met site query) (some failure) := by
  have met : (system.call call site query).1 = system.met site query := rfl
  simp only [reach]
  generalize system.call call site query = called at met ⊢
  obtain ⟨fired, called⟩ := called
  obtain rfl : fired = system.met site query := met
  cases fired : system.met site query with
  | none => exact .inl ⟨true, rfl, fun _ => rfl, .answered⟩
  | some fault =>
      have meets := stage.meets_failure? fault
      cases failed : fault.failure? (some stage) with
      | none =>
          rw [failed] at meets
          exact .inl ⟨false, by simp only [failed], (absurd · Bool.false_ne_true), meets⟩
      | some failure =>
          rw [failed] at meets
          exact .inr ⟨failure, by simp only [failed], meets⟩

theorem runStatement_meets (statement : Statement) (system : System) :
    (∃ rows last, runStatement statement system = .ok rows last ∧
      (rows = [] ∧ last.database.store = system.database.store ∨
        statement.perform system.database.store = .ok rows last.database.store)) ∨
    ∃ failure last, runStatement statement system = .error failure last ∧
      (Stage.statement.Meets (system.met .statement (some statement.query.name)) (some failure) ∨
        ∃ shape store, failure = .shape shape ∧
          system.met .statement (some statement.query.name) = none ∧
          statement.perform system.database.store = .error shape store) := by
  have reaches := reach_meets statement.call .statement (some statement.query.name) .statement system
  have stored : (system.call statement.call .statement (some statement.query.name)).2.database.store =
    system.database.store := rfl
  simp only [Statement.call] at reaches stored
  generalize (system.call _ _ _).2 = called at reaches stored
  rcases reaches with ⟨answered, reached, unmet, -⟩ | ⟨failure, reached, meets⟩
  · cases answered with
    | false => exact .inl ⟨[], called, by simp only [runStatement, reached], .inl ⟨rfl, stored⟩⟩
    | true =>
      cases performed : statement.perform system.database.store with
      | ok rows store =>
        exact .inl ⟨rows, called.withStore store,
          by simp only [runStatement, reached, stored, performed], .inr rfl⟩
      | error shape store =>
        exact .inr ⟨.shape shape, called.withStore store,
          by simp only [runStatement, reached, stored, performed],
          .inr ⟨shape, store, rfl, unmet rfl, rfl⟩⟩
  · exact .inr ⟨failure, called, by simp only [runStatement, reached], .inl meets⟩

theorem runScript_body (script : Script α) (opened : System) :
    ∃ runs, (after (runScript script) opened).calls = opened.calls ++ runs.map Prod.fst ∧
      BodyEnds script opened runs (runScript script opened) := by
  induction script generalizing opened with
  | done value => exact ⟨[], (List.append_nil _).symm, .completed .start⟩
  | fail failure => exact ⟨[], (List.append_nil _).symm, .raised .start⟩
  | run statement next ih =>
      have called := runStatement_calls statement opened
      simp only [after, runScript] at called ⊢
      rcases runStatement_meets statement opened with
        ⟨rows, middle, ran, -⟩ | ⟨failure, last, ran, reason⟩
      · obtain ⟨runs, calls, ends⟩ := ih rows middle
        rw [ran] at called
        simp only [ran]
        refine ⟨statement.exchange true :: runs, ?_, ends.run ran⟩
        exact calls.trans (by rw [called]; simp [Statement.exchange])
      · rw [ran] at called
        simp only [ran]
        refine ⟨[statement.exchange false], called, ?_⟩
        rcases reason with meets | ⟨shape, store, rfl, unmet, performed⟩
        · exact .disturbed .start meets
        · exact .misshapen .start unmet performed
  | tell note next ih =>
      obtain ⟨runs, calls, ends⟩ := ih (opened.note note)
      rw [opened.note_calls] at calls
      exact ⟨runs, calls, ends.tell⟩

theorem openTransaction_meets (before : System) :
    (∃ answered, openTransaction before = .ok answered (after openTransaction before) ∧
      Stage.opening.Meets (before.met .opening none) none) ∨
    ∃ failure, openTransaction before = .error failure (after openTransaction before) ∧
      Stage.opening.Meets (before.met .opening none) (some failure) := by
  rcases reach_meets .begin .opening none .opening
    (before.record (.session before.database.name)) with
    ⟨answered, opens, -, meets⟩ | ⟨failure, opens, meets⟩
  · have opens : openTransaction before = .ok answered _ := opens
    exact .inl ⟨answered, by rw [after_ok opens]; exact opens, meets⟩
  · have opens : openTransaction before = .error failure _ := opens
    exact .inr ⟨failure, by rw [after_error opens]; exact opens, meets⟩

theorem commitTransaction_meets (middle : System) :
    (∃ answered, commitTransaction middle = .ok answered (after commitTransaction middle) ∧
      Stage.commit.Meets (middle.met .commit none) none) ∨
    ∃ failure, commitTransaction middle = .error failure (after commitTransaction middle) ∧
      Stage.commit.Meets (middle.met .commit none) (some failure) := by
  rcases reach_meets .commit .commit none .commit middle with
    ⟨answered, commits, -, meets⟩ | ⟨failure, commits, meets⟩
  · have commits : commitTransaction middle = .ok answered _ := commits
    exact .inl ⟨answered, by rw [after_ok commits]; exact commits, meets⟩
  · have commits : commitTransaction middle = .error failure _ := commits
    exact .inr ⟨failure, by rw [after_error commits]; exact commits, meets⟩

/-- A transaction that is open goes one of the other three ways. -/
theorem transaction_opened {before opened : System} {answered : Bool}
    (opens : openTransaction before = .ok answered opened)
    (opensMeets : Stage.opening.Meets (before.met .opening none) none)
    (snapshot : opened.graph = before.graph) (script : Script α) :
    ∃ trace : List Exchange,
      (after (transaction script) before).calls = opened.calls ++ trace.map Prod.fst ∧
      Bracket script before opened ([(.begin, true)] ++ trace) (transaction script before) := by
  obtain ⟨runs, bodyCalls, body⟩ := runScript_body script opened
  cases ran : runScript script opened with
  | error failure middle =>
    rw [after_error ran] at bodyCalls
    rw [ran] at body
    have ended : transaction script before = .error failure (rollBack opened.graph middle) := by
      simp only [transaction_eq, opens, ran]
    rw [after_error ended, ended]
    have restored : (rollBack opened.graph middle).graph = before.graph := snapshot
    refine ⟨runs ++ [(.rollback, true)], ?_, .abandoned opensMeets ran body restored⟩
    change middle.calls ++ [.rollback] = _
    simp [bodyCalls]
  | ok value middle =>
    rw [after_ok ran] at bodyCalls
    rw [ran] at body
    have commitCalls : (after commitTransaction middle).calls = middle.calls ++ [.commit] :=
      reach_calls .commit .commit none (some .commit) middle
    rcases commitTransaction_meets middle with ⟨_, commits, meets⟩ | ⟨failure, commits, meets⟩
    · have ended : transaction script before = .ok value (after commitTransaction middle) := by
        simp only [transaction_eq, opens, ran, commits]
      rw [after_ok ended, ended]
      refine ⟨runs ++ [(.commit, true)], ?_,
        .committed opensMeets ran body meets (commitTransaction_store middle)⟩
      simp [commitCalls, bodyCalls]
    · have ended : transaction script before =
          .error failure (rollBack opened.graph (after commitTransaction middle)) := by
        simp only [transaction_eq, opens, ran, commits]
      have restored : (rollBack opened.graph (after commitTransaction middle)).graph =
          before.graph := snapshot
      rw [after_error ended, ended]
      refine ⟨runs ++ [(.commit, false), (.rollback, true)], ?_,
        .uncommitted opensMeets ran body meets restored⟩
      change (after commitTransaction middle).calls ++ [.rollback] = _
      simp [commitCalls, bodyCalls]

theorem transaction_runs (script : Script α) (before : System) :
    ∃ trace : List Exchange,
      (after (transaction script) before).calls =
        before.calls ++ .session before.database.name :: trace.map Prod.fst ∧
      Bracket script before (after openTransaction before) trace (transaction script before) := by
  have snapshot : (after openTransaction before).graph = before.graph :=
    congrArg Store.graph (openTransaction_store before)
  rcases openTransaction_meets before with ⟨_, opens, meets⟩ | ⟨failure, opens, meets⟩
  · obtain ⟨trace, calls, bracket⟩ := transaction_opened opens meets snapshot script
    refine ⟨_, ?_, bracket⟩
    rw [calls, openTransaction_calls]
    simp
  · have ended : transaction script before = .error failure (after openTransaction before) := by
      simp only [transaction_eq]
      rw [opens]
    refine ⟨[(.begin, false)], ?_, ?_⟩
    · rw [after_error ended, openTransaction_calls]
      rfl
    · rw [ended]
      exact .unopened meets snapshot

/-- A transaction runs in its bracket under every list of faults: its calls are the session and one
of four traces, the graph at the exit is the one after the body where the trace ends in a commit
that passed and otherwise the one before, and no transaction stays open. -/
theorem transaction_bracket (script : Script α) (before : System) :
    ∃ trace : List Exchange,
      (after (transaction script) before).calls =
        before.calls ++ .session before.database.name :: trace.map Prod.fst ∧
      Bracket script before (after openTransaction before) trace (transaction script before) ∧
      (trace.getLast? = some (.commit, true) →
        (after (transaction script) before).graph =
          (after (runScript script) (after openTransaction before)).graph) ∧
      (trace.getLast? ≠ some (.commit, true) →
        (after (transaction script) before).graph = before.graph) ∧
      trace.foldlM Exchange.openAfter? 0 = some 0 := by
  obtain ⟨trace, calls, bracket⟩ := transaction_runs script before
  have exits : (trace.getLast? = some (.commit, true) ∧ (after (transaction script) before).graph =
        (after (runScript script) (after openTransaction before)).graph) ∨
      (trace.getLast? ≠ some (.commit, true) ∧
        (after (transaction script) before).graph = before.graph) := by
    cases ended : transaction script before with
    | ok value last =>
      rw [after_ok ended]
      rw [ended] at bracket
      cases bracket with
      | committed opens ran body commits kept =>
        rw [after_ok ran]
        exact .inl ⟨by rw [List.getLast?_append]; rfl, congrArg Store.graph kept⟩
    | error failure last =>
      rw [after_error ended]
      rw [ended] at bracket
      cases bracket with
      | unopened meets unchanged => exact .inr ⟨by simp, unchanged⟩
      | uncommitted opens ran body meets restored =>
        exact .inr ⟨by rw [List.getLast?_append]; simp, restored⟩
      | abandoned opens ran body restored =>
        exact .inr ⟨by rw [List.getLast?_append]; simp, restored⟩
  refine ⟨trace, calls, bracket, ?_, ?_, bracket.openAfter?⟩
  · exact fun committed => exits.elim And.right fun other => absurd committed other.1
  · exact fun uncommitted => exits.elim (fun other => absurd other.1 uncommitted) And.right

end Action

end ClusterGraph
