import ClusterGraph.Proofs.Store.CallTrace

namespace ClusterGraph

/-! Which kinds of calls an action makes, whatever the faults are. A transaction makes those of a
conversation and no others: it neither opens nor closes the connection. -/

/-- The call belongs to a transaction. -/
def Call.IsOfTransaction : Call → Prop
  | .session _ | .begin | .run .. | .commit | .rollback => True
  | _ => False

/-- The later system made further calls, all of which are allowed, and its faults are left of those
of the earlier one. -/
structure System.Makes (allowed : Call → Prop) (before after : System) : Prop where
  calls : ∃ made, after.calls = before.calls ++ made ∧ ∀ call ∈ made, allowed call
  faults : FaultsLeft before.database.faults after.database.faults

namespace System.Makes

variable {allowed : Call → Prop} {before middle after : System}

theorem of_same (calls : after.calls = before.calls)
    (faults : after.database.faults = before.database.faults) : before.Makes allowed after :=
  ⟨⟨[], by rw [calls, List.append_nil], by simp⟩, by rw [faults]; exact fun _ member => member⟩

theorem refl (system : System) : system.Makes allowed system :=
  .of_same rfl rfl

theorem trans (first : before.Makes allowed middle) (second : middle.Makes allowed after) :
    before.Makes allowed after := by
  obtain ⟨made, appended, allows⟩ := first.calls
  obtain ⟨others, othersAppended, othersAllow⟩ := second.calls
  refine ⟨⟨made ++ others, by rw [othersAppended, appended, List.append_assoc], ?_⟩,
    fun _ member => first.faults (second.faults member)⟩
  intro call member
  exact (List.mem_append.mp member).elim (allows call) (othersAllow call)

theorem of_call {call : Call} (allows : allowed call)
    (calls : after.calls = before.calls ++ [call])
    (faults : FaultsLeft before.database.faults after.database.faults) :
    before.Makes allowed after :=
  ⟨⟨[call], calls, by simpa using allows⟩, faults⟩

end System.Makes

namespace Action

variable {α β : Type} {allowed : Call → Prop}

theorem Advances.forM {relation : System → System → Prop} (refl : ∀ system, relation system system)
    (trans : ∀ {before middle after}, relation before middle → relation middle after →
      relation before after)
    {action : α → Action Unit} {values : List α}
    (each : ∀ value ∈ values, Advances relation (action value)) :
    Advances relation (values.forM action) := by
  induction values with
  | nil => exact advances_pure refl ()
  | cons value rest ih =>
      have later : Advances relation (rest.forM action) :=
        ih fun other member => each other (List.mem_cons_of_mem value member)
      exact (each value List.mem_cons_self).bind @trans fun _ => later

theorem count_makes (series : Series) (amount : Nat) :
    Advances (System.Makes allowed) (count series amount) :=
  fun _ => .of_same rfl rfl

theorem log_makes (severity : Severity) (component event : String) (fields : Entries Json) :
    Advances (System.Makes allowed) (log severity component event fields) :=
  fun _ => .of_same rfl rfl

theorem reach_makes {call : Call} (allows : allowed call) (site : Site) (query : Option String)
    (stage : Option Stage) : Advances (System.Makes allowed) (reach call site query stage) :=
  fun system => .of_call allows (reach_calls call site query stage system)
    (reach_precedes call site query stage system).faults

theorem runScript_makes (script : Script α) :
    Advances (System.Makes Call.IsOfTransaction) (runScript script) := by
  induction script with
  | done value => exact advances_pure .refl value
  | fail failure => exact advances_throw .refl failure
  | run statement next ih =>
      rw [runScript_run]
      refine Advances.bind .trans (fun system => ?_) ih
      have ofTransaction : statement.call.IsOfTransaction := trivial
      exact .of_call ofTransaction (runStatement_calls statement system)
        (runStatement_precedes statement system).faults
  | tell note next ih =>
      intro system
      have noted : system.Makes Call.IsOfTransaction (system.note note) :=
        .of_same (system.note_calls note) (congrArg Database.faults (system.note_database note))
      exact noted.trans (ih (system.note note))

theorem transaction_makes (script : Script α) :
    Advances (System.Makes Call.IsOfTransaction) (transaction script) := by
  refine transaction_advances .trans (fun system => ?_) (runScript_makes script)
    (fun system => ?_) (fun snapshot system => ?_)
  · refine ⟨⟨_, openTransaction_calls system, ?_⟩, (openTransaction_precedes system).faults⟩
    simp [Call.IsOfTransaction]
  · exact reach_makes trivial .commit none (some .commit) system
  · have ofTransaction : Call.rollback.IsOfTransaction := trivial
    exact .of_call ofTransaction rfl (rollBack_precedes snapshot system).faults

theorem execute_makes {statement : Statement} (ofSession : ∀ name, allowed (.session name))
    (ofExecution : allowed (.execute statement.query.name statement.parameters)) :
    Advances (System.Makes allowed) (execute statement) := by
  have opens : Advances (System.Makes allowed)
      (modify fun system => system.record (.session system.database.name)) := fun system =>
    .of_call (ofSession system.database.name) rfl fun _ member => member
  exact opens.bind .trans fun _ =>
    (reach_makes ofExecution .execution _ _).bind .trans fun _ => advances_pure .refl ()

theorem verify_makes (ofVerify : allowed .verify) : Advances (System.Makes allowed) verify :=
  (reach_makes ofVerify .verification _ _).bind .trans fun _ => advances_pure .refl ()

end Action

end ClusterGraph
