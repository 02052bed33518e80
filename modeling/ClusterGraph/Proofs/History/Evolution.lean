import ClusterGraph.Proofs.History.Run

namespace ClusterGraph

/-! The stores that a run goes through. They change by commits alone, each of which does what its
save does to a store without faults. -/

/-- A store that comes of another one by commits, newest first. Between two commits ids may be used
up by work that was undone. -/
inductive Evolves (start : Store) : List Commit → Store → Prop where
  | start : Evolves start [] start
  | idle {commits : List Commit} {before after : Store} (evolved : Evolves start commits before)
      (restored : after.graph = before.graph) (ids : before.nextId ≤ after.nextId) :
      Evolves start commits after
  | commit {commits : List Commit} {before after : Store} {save : Save}
      (evolved : Evolves start commits before) (effect : save.effect? before = some after) :
      Evolves start (⟨save, after.graph⟩ :: commits) after

theorem commitAll_precedes (saves : List Save) (system : System) :
    system.Precedes (commitAll saves system).2 := by
  induction saves generalizing system with
  | nil => exact .refl system
  | cons save rest ih =>
      have first := save.action_precedes system
      simp only [commitAll, Action.after] at first ⊢
      cases ran : save.action system with
      | ok value middle =>
          simp only [ran] at first
          exact first.trans (ih middle)
      | error failure middle => simpa only [ran] using first

theorem commitAll_evolves {start : Store} {earlier : List Commit} {system : System}
    (evolved : Evolves start earlier system.database.store)
    (raising : Raising system.database.faults) (saves : List Save) :
    Evolves start ((commitAll saves system).1 ++ earlier)
      (commitAll saves system).2.database.store := by
  induction saves generalizing earlier system with
  | nil => exact evolved
  | cons save rest ih =>
      have precedes := save.action_precedes system
      rcases save.action_ends raising with
        ⟨after, ran, effect⟩ | ⟨failure, after, ran, restored⟩
      · rw [Action.after_ok ran] at precedes
        have continued := ih (.commit evolved effect) (precedes.faults.raising raising)
        simp only [commitAll, ran, List.append_assoc, List.singleton_append]
        exact continued
      · rw [Action.after_error ran] at precedes
        simp only [commitAll, ran]
        exact .idle evolved restored precedes.ids

namespace Step

theorem run_raising {step : Step} {system : System}
    (raising : ClusterGraph.Raising system.database.faults) (stepRaising : step.Raising) :
    ClusterGraph.Raising (step.run system).database.faults := by
  have saved := (commitAll_precedes step.saves system).faults.raising raising
  cases step with
  | save wanted =>
      have ran := wanted.action_precedes system
      exact ran.faults.raising raising
  | sync synchronizer tree =>
      simp only [run, synchronizer.after_sync]
      exact saved
  | event synchronizer watch received =>
      simp only [run, watch.after_handle]
      exact saved
  | faults planned => exact stepRaising

theorem run_evolves {start : Store} {earlier : List Commit} {system : System}
    (evolved : Evolves start earlier system.database.store)
    (raising : ClusterGraph.Raising system.database.faults) (step : Step) :
    Evolves start (step.commits system ++ earlier) (step.run system).database.store := by
  rw [run_store]
  exact commitAll_evolves evolved raising step.saves

end Step

theorem run_raising {steps : List Step} {system : System}
    (raising : Raising system.database.faults) (stepsRaising : ∀ step ∈ steps, step.Raising) :
    Raising (run steps system).database.faults := by
  induction steps generalizing system with
  | nil => exact raising
  | cons step rest ih =>
      exact ih (step.run_raising raising (stepsRaising step (by simp)))
        fun later member => stepsRaising later (by simp [member])

/-- Steps add to the front of whatever was committed before them. -/
theorem evolves_from {start : Store} {earlier : List Commit} {steps : List Step} {system : System}
    (evolved : Evolves start earlier system.database.store)
    (raising : Raising system.database.faults) (stepsRaising : ∀ step ∈ steps, step.Raising) :
    Evolves start (history steps system ++ earlier) (run steps system).database.store := by
  induction steps generalizing earlier system with
  | nil => exact evolved
  | cons step rest ih =>
      have first := step.run_evolves evolved raising
      have later := ih first (step.run_raising raising (stepsRaising step (by simp)))
        fun other member => stepsRaising other (by simp [member])
      simpa only [history, run, List.append_assoc] using later

/-- A run changes the store by its commits alone. -/
theorem run_evolves {steps : List Step} {system : System}
    (raising : Raising system.database.faults) (stepsRaising : ∀ step ∈ steps, step.Raising) :
    Evolves system.database.store (history steps system) (run steps system).database.store := by
  have evolved := evolves_from .start raising stepsRaising
  rwa [List.append_nil] at evolved

end ClusterGraph
