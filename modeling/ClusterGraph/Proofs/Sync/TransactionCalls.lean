import ClusterGraph.Proofs.Store.CallKinds
import ClusterGraph.Proofs.Sync.SyncEndings

namespace ClusterGraph

/-! Bringing objects into the graph makes calls of transactions only, also where it fails. -/

variable {α : Type}

namespace Action

theorem saveNode_makes (node : Node) :
    Advances (System.Makes Call.IsOfTransaction) (saveNode node) := by
  unfold saveNode
  cases node.properties with
  | error failure => exact advances_throw .refl failure
  | ok properties =>
      have reports (change : NodeChange) :
          Advances (System.Makes Call.IsOfTransaction) (reportNode node change) := fun _ =>
        .of_same rfl rfl
      exact (transaction_makes _).bind .trans fun change =>
        (reports change).bind .trans fun _ => advances_pure .refl _

theorem saveRelationships_makes (source : String) (descriptors : List Descriptor) :
    Advances (System.Makes Call.IsOfTransaction) (saveRelationships source descriptors) := by
  have reports (edges : List Edge) : Advances (System.Makes Call.IsOfTransaction)
      (reportRelationships source descriptors.length edges) := by
    have counts : Advances (System.Makes Call.IsOfTransaction)
        (edges.forM fun edge => count (.written edge.relationship) 1) :=
      .forM .refl .trans fun edge _ => count_makes _ 1
    exact counts.bind .trans fun _ => log_makes _ _ _ _
  exact (transaction_makes _).bind .trans fun edges =>
    (reports edges).bind .trans fun _ => advances_pure .refl _

end Action

namespace Synchronizer

open ClusterGraph.Action

theorem save_makes (synchronizer : Synchronizer) (node : Node) (tree : Json) :
    Advances (System.Makes Call.IsOfTransaction) (synchronizer.save node tree) :=
  (saveNode_makes node).bind .trans fun stored =>
    (saveRelationships_makes stored.uid _).bind .trans fun _ => advances_pure .refl _

theorem sync_makes (synchronizer : Synchronizer) (tree : Json) :
    Advances (System.Makes Call.IsOfTransaction) (synchronizer.sync tree) := by
  intro system
  cases known : (synchronizer.projector.project tree).uid.isEmpty with
  | true =>
      cases told : (synchronizer.projector.project tree).textFault? with
      | some fault => rw [sync_textless told]; exact .of_same rfl rfl
      | none => rw [sync_unknown told known]; exact .of_same rfl rfl
  | false =>
      have saves := synchronizer.save_makes (synchronizer.projector.project tree) tree system
      rw [sync_known known]
      simp only [after] at saves ⊢
      generalize synchronizer.save (synchronizer.projector.project tree) tree system = result
        at saves ⊢
      cases result with
      | ok saved middle => exact saves.trans (.of_same rfl rfl)
      | error failure middle =>
          cases failure with
          | graph failure => exact saves.trans (.of_same rfl rfl)
          | settings | positionTooLong | foreign | shape | dateOutOfRange | expired | stream
          | startup => exact saves

theorem handler_makes (synchronizer : Synchronizer) (tree : Json) :
    Advances (System.Makes Call.IsOfTransaction) (synchronizer.handler tree) :=
  (synchronizer.sync_makes tree).bind .trans fun _ => advances_pure .refl ()

end Synchronizer

end ClusterGraph
