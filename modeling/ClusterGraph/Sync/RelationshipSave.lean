import ClusterGraph.Sync.Lookup

namespace ClusterGraph

/-! Saving the relationships of an object: all that start at its node are replaced. Descriptors
without a stored target are dropped and told to the log. -/

namespace Script

/-- Tells that no target was found for a descriptor. -/
def reportUnresolved (source : String) (descriptor : Descriptor) : Script Unit := do
  emit (.count (.unresolved descriptor.relationship) 1)
  emit (.log ⟨.info, "graph.relationships", "relationship_target_unresolved",
    [("source_uid", .str source),
     ("relationship_type", .str descriptor.relationship),
     ("target_resource", .str descriptor.targetType),
     ("target_uid", .str descriptor.targetUid),
     ("target_name", .str descriptor.targetName),
     ("target_namespace", .str descriptor.targetNamespace)]⟩)

/-- The descriptors that have a target, each with its graph id, in order. -/
def resolveTargets (source : String) : List Descriptor → Script (List (Descriptor × String))
  | [] => pure []
  | descriptor :: rest => do
      match ← resolveTarget? descriptor with
      | some target =>
          let others ← resolveTargets source rest
          pure ((descriptor, target) :: others)
      | none =>
          reportUnresolved source descriptor
          resolveTargets source rest

def createEdges (sourceId : String) : List (Descriptor × String) → Script (List Edge)
  | [] => pure []
  | (descriptor, targetId) :: rest => do
      let id? ← firstGraphId? (← query (.createRelationship sourceId targetId descriptor))
      let others ← createEdges sourceId rest
      pure
        ({ relationship := descriptor.relationship
           targetType := descriptor.targetType
           targetGraphId := targetId
           targetUid := descriptor.targetUid
           graphId := id?.getD ""
           targetName := descriptor.targetName
           targetNamespace := descriptor.targetNamespace } :: others)

/-- Replaces the relationships that start at the node with an external uid. All targets are looked
up before the first relationship goes. -/
def saveRelationships (source : String) (descriptors : List Descriptor) : Script (List Edge) := do
  let sourceId ← resolveUid source
  let resolved ← resolveTargets source descriptors
  runAll [.deleteRelationships sourceId]
  createEdges sourceId resolved

end Script

namespace Action

def reportRelationships (source : String) (derived : Nat) (edges : List Edge) : Action Unit := do
  edges.forM fun edge => count (.written edge.relationship) 1
  log .debug "graph.relationships" "relationships_replaced"
    [("source_uid", .str source),
     ("derived", .int derived),
     ("written", .int edges.length),
     ("skipped", .int (derived - edges.length))]

/-- Replaces the relationships of an object in one transaction, and tells the edges written. -/
def saveRelationships (source : String) (descriptors : List Descriptor) : Action (List Edge) := do
  let edges ← transaction (Script.saveRelationships source descriptors)
  reportRelationships source descriptors.length edges
  pure edges

end Action

end ClusterGraph
