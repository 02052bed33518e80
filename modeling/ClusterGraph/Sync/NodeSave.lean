import ClusterGraph.LabelDiff
import ClusterGraph.Sync.Lookup

namespace ClusterGraph

/-! Saving a node: it is made if its uid is not stored yet, and brought up to date otherwise. Labels
that stay keep their entities. -/

structure NodeChange where
  graphId : String
  created : Bool
  diff : LabelDiff
deriving Repr

def NodeChange.operation (change : NodeChange) : String :=
  if change.created then "create" else "update"

namespace Script

def createNode (node : Node) (properties : Entries Json) : Script NodeChange := do
  match ← firstGraphId? (← query (.createNode properties)) with
  | none => .fail (.graph (.withoutId node.uid))
  | some graphId =>
      let labels := Label.normalize node.labels
      runAll (labels.map (.addLabel graphId))
      pure ⟨graphId, true, ⟨labels, [], []⟩⟩

def updateNode (stored node : Node) (properties : Entries Json) : Script NodeChange := do
  let diff := LabelDiff.between stored.labels node.labels
  runAll (diff.removed.map (.deleteLabel stored.graphId))
  runAll ((diff.added ++ diff.changed).map (.addLabel stored.graphId))
  runAll [.mergeNode stored.graphId properties]
  pure ⟨stored.graphId, false, diff⟩

/-- Makes or updates the node with the uid of the one given. -/
def saveNode (node : Node) (properties : Entries Json) : Script NodeChange := do
  match ← findNode? (.findByUid node.uid) node.uid with
  | none => createNode node properties
  | some stored => updateNode stored node properties

end Script

namespace Action

def reportNode (node : Node) (change : NodeChange) : Action Unit := do
  count (.upserted change.operation) 1
  count (.labelMutations "add") (change.diff.added.length + change.diff.changed.length)
  count (.labelMutations "remove") change.diff.removed.length
  log .debug "graph.nodes" "node_saved"
    [("operation", .str change.operation),
     ("uid", .str node.uid),
     ("kind", .str node.kind),
     ("namespace", .str node.namespaceName),
     ("name", .str node.name),
     ("graph_id", .str change.graphId),
     ("labels_added", .int change.diff.added.length),
     ("labels_removed", .int change.diff.removed.length),
     ("labels_changed", .int change.diff.changed.length)]

/-- Saves a node in one transaction. The node that it returns knows its graph id. -/
def saveNode (node : Node) : Action Node :=
  match node.properties with
  | .error failure => throw failure
  | .ok properties => do
      let change ← transaction (Script.saveNode node properties)
      reportNode node change
      pure { node with graphId := change.graphId }

end Action

end ClusterGraph
