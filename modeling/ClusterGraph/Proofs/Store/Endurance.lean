import ClusterGraph.Proofs.Store.TransactionBracket

namespace ClusterGraph

/-! Scripts that endure a database which leaves statements undone. A statement that meets silence
does nothing and returns no rows, whatever the script makes of that. -/

variable {α β : Type}

namespace Script

/-- Whichever statements are left undone, the script fails with failures of the graph alone, and
where it comes to its end its value fits the store. -/
def Endures (fits : α → Store → Prop) : Script α → Store → Prop
  | .done value, store => fits value store
  | .fail failure, _ => ∃ cause, failure = .graph cause
  | .run statement next, store =>
      (next []).Endures fits store ∧
        ∃ rows after, statement.perform store = .ok rows after ∧ (next rows).Endures fits after
  | .tell _ next, store => next.Endures fits store

variable {fits : α → Store → Prop} {store : Store}

theorem Endures.bind {script : Script α} {next : α → Script β} {goal : β → Store → Prop}
    (first : script.Endures fits store)
    (second : ∀ value store, fits value store → (next value).Endures goal store) :
    (script >>= next).Endures goal store := by
  change (script.bind next).Endures goal store
  induction script generalizing store with
  | done value => exact second value store first
  | fail failure => exact first
  | run statement rest ih =>
      obtain ⟨silent, rows, after, performed, continued⟩ := first
      exact ⟨ih [] silent, rows, after, performed, ih rows continued⟩
  | tell note rest ih => exact ih first

theorem Endures.mono {script : Script α} {goal : α → Store → Prop}
    (endures : script.Endures fits store) (weaker : ∀ value store, fits value store →
      goal value store) : script.Endures goal store := by
  induction script generalizing store with
  | done value => exact weaker value store endures
  | fail failure => exact endures
  | run statement rest ih =>
      obtain ⟨silent, rows, after, performed, continued⟩ := endures
      exact ⟨ih [] silent, rows, after, performed, ih rows continued⟩
  | tell note rest ih => exact ih endures

theorem endures_ofShape (fits : α → Store → Prop) {result : Except ShapeError α} {value : α}
    (read : result = .ok value) (fit : fits value store) :
    (ofShape result).Endures fits store := by
  subst read
  exact fit

theorem endures_query (fits : List Json → Store → Prop) {statement : Statement} {rows : List Json}
    {after : Store} (performed : statement.perform store = .ok rows after) (silent : fits [] store)
    (answered : fits rows after) : (query statement).Endures fits store :=
  ⟨silent, rows, after, performed, answered⟩

/-- Statements that can be performed wherever an invariant holds, and keep it. -/
theorem endures_runAll (invariant : Store → Prop) {statements : List Statement}
    (keeps : ∀ statement ∈ statements, ∀ store, invariant store →
      ∃ rows after, statement.perform store = .ok rows after ∧ invariant after)
    (start : invariant store) : (runAll statements).Endures (fun _ => invariant) store := by
  induction statements generalizing store with
  | nil => exact start
  | cons statement rest ih =>
      have others := fun other member => keeps other (List.mem_cons_of_mem _ member)
      obtain ⟨rows, after, performed, kept⟩ := keeps statement List.mem_cons_self store start
      exact ⟨ih others start, rows, after, performed, ih others kept⟩

end Script

/-- A failure of the graph, or one that a fault brings. -/
def Foreseen (faults : List Fault) (failure : Failure) : Prop :=
  (∃ cause, failure = .graph cause) ∨ Surfaces faults failure

theorem FaultsLeft.foreseen {faults later : List Fault} {failure : Failure}
    (left : FaultsLeft faults later) (foreseen : Foreseen later failure) :
    Foreseen faults failure :=
  foreseen.imp id left.surfaces

/-- No fault but those of the database, and silence. -/
def Translated (faults : List Fault) : Prop :=
  ∀ fault ∈ faults, fault.kind ≠ .other ∧ fault.kind ≠ .system

theorem FaultsLeft.translated {faults later : List Fault} (left : FaultsLeft faults later)
    (translated : Translated faults) : Translated later := by
  intro fault member
  obtain ⟨planned, plannedMember, sameKind, _⟩ := left.exists_planned member
  rw [← sameKind]
  exact translated planned plannedMember

/-- What the database does wrong is told as a failure of the graph. -/
theorem Foreseen.ofGraph {faults : List Fault} {failure : Failure}
    (foreseen : Foreseen faults failure) (translated : Translated faults) :
    ∃ cause, failure = .graph cause := by
  rcases foreseen with ofGraph | surfaces
  · exact ofGraph
  · cases surfaces with
    | refused planned ofDatabase stage => exact ⟨_, rfl⟩
    | program planned isOther => exact absurd isOther (translated _ planned).1
    | system planned isSystem => exact absurd isSystem (translated _ planned).2

namespace Action

variable {fits : α → Store → Prop} {script : Script α} {system last : System} {value : α}
  {failure : Failure}

theorem runScript_endures (endures : script.Endures fits system.database.store) :
    (∀ value last, runScript script system = .ok value last → fits value last.database.store) ∧
      ∀ failure last, runScript script system = .error failure last →
        Foreseen system.database.faults failure := by
  induction script generalizing system with
  | done value =>
      refine ⟨fun _ _ ended => ?_, fun _ _ ended => by cases ended⟩
      cases ended
      exact endures
  | fail failure =>
      refine ⟨(fun _ _ ended => by cases ended), fun _ _ ended => ?_⟩
      cases ended
      exact .inl endures
  | run statement next ih =>
      obtain ⟨silent, rows, after, performed, continued⟩ := endures
      have left := runStatement_precedes statement system
      rcases runStatement_meets statement system with
        ⟨found, middle, ran, effect⟩ | ⟨failure, middle, ran, reason⟩
      · rw [after_ok ran] at left
        have rest : (next found).Endures fits middle.database.store := by
          rcases effect with ⟨rfl, same⟩ | done
          · rw [same]
            exact silent
          · rw [performed] at done
            cases done
            exact continued
        obtain ⟨fit, foreseen⟩ := ih found rest
        simp only [runScript, ran]
        exact ⟨fit, fun failure last ended => left.faults.foreseen (foreseen failure last ended)⟩
      · simp only [runScript, ran]
        refine ⟨(fun _ _ ended => by cases ended), fun _ _ ended => ?_⟩
        cases ended
        rcases reason with meets | ⟨shape, store, _, _, failed⟩
        · exact .inr (System.surfaces_met meets)
        · rw [performed] at failed
          cases failed
  | tell note next ih =>
      have same := system.note_database note
      have continued : next.Endures fits (system.note note).database.store := by
        rw [same]
        exact endures
      have rest := ih continued
      rwa [same] at rest

/-- A transaction with an enduring script commits what fits, or it fails as is foreseen and the
graph is as it was. -/
theorem transaction_endures (endures : script.Endures fits system.database.store) :
    (∀ value last, transaction script system = .ok value last →
      fits value last.database.store) ∧
      ∀ failure last, transaction script system = .error failure last →
        Foreseen system.database.faults failure ∧ last.graph = system.graph := by
  have opens := openTransaction_precedes system
  have opened : script.Endures fits (after openTransaction system).database.store := by
    rw [openTransaction_store]
    exact endures
  have body := runScript_endures opened
  obtain ⟨_, _, bracket⟩ := transaction_runs script system
  generalize transaction script system = result at bracket
  cases bracket with
  | unopened meets unchanged =>
      refine ⟨(fun _ _ ended => by cases ended), fun _ _ ended => ?_⟩
      cases ended
      exact ⟨.inr (System.surfaces_met meets), unchanged⟩
  | committed _ ran _ _ kept =>
      refine ⟨fun _ _ ended => ?_, fun _ _ ended => by cases ended⟩
      cases ended
      rw [kept]
      exact body.1 _ _ ran
  | uncommitted _ ran _ meets restored =>
      have runs := runScript_precedes script (after openTransaction system)
      rw [after_ok ran] at runs
      refine ⟨(fun _ _ ended => by cases ended), fun _ _ ended => ?_⟩
      cases ended
      exact ⟨opens.faults.foreseen (runs.faults.foreseen (.inr (System.surfaces_met meets))),
        restored⟩
  | abandoned _ ran _ restored =>
      refine ⟨(fun _ _ ended => by cases ended), fun _ _ ended => ?_⟩
      cases ended
      exact ⟨opens.faults.foreseen (body.2 _ _ ran), restored⟩

end Action

end ClusterGraph
