import ClusterGraph.Proofs.History.Run
import ClusterGraph.Proofs.Sync.EnduringSync

namespace ClusterGraph

/-! Everything in the graph of a run can be read, whatever faults the database showed meanwhile. -/

namespace Step

/-- A node that is saved on its own has texts for its further fields, as every projection has. -/
def IsProjected : Step → Prop
  | .save (.upsert node) => node.HasTextFields
  | _ => True

/-- Under whatever faults, a step leaves everything legible. -/
theorem run_legible {step : Step} {system : System} (projected : step.IsProjected)
    (legible : system.graph.Legible) : (step.run system).graph.Legible := by
  cases step with
  | save wanted =>
      cases wanted with
      | upsert node =>
          exact ((Action.endures_saveNode projected).bind (Action.saveNode_precedes node)
            fun _ => Action.endures_quiet fun system => ⟨(), system, rfl, rfl⟩) system legible |>.1
      | replace source descriptors =>
          have endures : Action.Endures (fun _ => True)
              (Action.saveRelationships source descriptors) :=
            Action.endures_saveRelationships source descriptors
          exact (endures.bind (Action.saveRelationships_precedes source descriptors)
            fun _ => Action.endures_quiet fun system => ⟨(), system, rfl, rfl⟩) system legible |>.1
  | sync synchronizer tree => exact (synchronizer.endures_sync tree system legible).1
  | event synchronizer watch received =>
      have handled := (watch.after_handle_work synchronizer received system).1
      have graph := congrArg (fun database => database.store.graph) handled
      change (Action.after (watch.handle synchronizer.handler received) system).graph.Legible
      unfold System.graph
      rw [graph]
      split
      · exact (synchronizer.endures_sync _ system legible).1
      · exact legible
  | faults planned => exact legible

end Step

theorem run_legible {steps : List Step} {system : System}
    (projected : ∀ step ∈ steps, step.IsProjected) (legible : system.graph.Legible) :
    (run steps system).graph.Legible := by
  induction steps generalizing system with
  | nil => exact legible
  | cons step rest ih =>
      exact ih (fun later member => projected later (by simp [member]))
        (step.run_legible (projected step (by simp)) legible)

/-- The graph is what syncs make of the empty one, under whatever faults. -/
def Graph.Reached (graph : Graph) : Prop :=
  ∃ (start : System) (steps : List Step), start.graph = {} ∧
    (∀ step ∈ steps, step.IsProjected) ∧ graph = (run steps start).graph

theorem Graph.Reached.legible {graph : Graph} (reached : graph.Reached) : graph.Legible := by
  obtain ⟨start, steps, isEmpty, projected, rfl⟩ := reached
  exact ClusterGraph.run_legible projected (by rw [isEmpty]; exact legible_empty)

end ClusterGraph
