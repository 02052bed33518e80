import ClusterGraph.Projection
import ClusterGraph.Rules.Derivation
import ClusterGraph.Sync.NodeSave
import ClusterGraph.Sync.RelationshipSave

namespace ClusterGraph

/-! Bringing one object into the graph: its node is saved before its relationships, so that the
source of a relationship is always stored. -/

/-- How objects become nodes and relationships. -/
structure Synchronizer where
  projector : Projector
  rules : CompiledTable

structure SyncResult where
  node : Node
  graphId : String
  descriptors : List Descriptor := []
  edges : List Edge := []
deriving Repr

/-- The number of descriptors without a target. -/
def SyncResult.unresolved (result : SyncResult) : Int :=
  result.descriptors.length - result.edges.length

namespace Synchronizer

def component : String := "sync.engine"

def aboutObject (node : Node) : Entries Json :=
  [("kind", .str node.kind), ("namespace", .str node.namespaceName), ("name", .str node.name)]

def reportSkipped (node : Node) : Action Unit := do
  Action.count (.synced (if node.kind.isEmpty then "unknown" else node.kind) "skipped") 1
  Action.log .warning component "object_without_uid_skipped" (aboutObject node)

def reportFailed (node : Node) (failure : GraphFailure) : Action Unit := do
  Action.count (.synced node.kind "error") 1
  Action.log .warning component "sync_failed"
    (("uid", .str node.uid) :: aboutObject node ++
      [("error_type", .str failure.name), ("error", .str failure.message)])

def reportDone (result : SyncResult) : Action Unit := do
  modify fun system =>
    { system with
      counters := { system.counters with timedSyncs := system.counters.timedSyncs + 1 } }
  Action.count (.synced result.node.kind "ok") 1
  Action.log .info component "resource_synced"
    (("uid", .str result.node.uid) :: aboutObject result.node ++
      [("relationships", .int result.edges.length), ("unresolved", .int result.unresolved)])

def ofTable (projector : Projector) (table : RuleTable) : Action Synchronizer :=
  match CompiledTable.ofTable table with
  | .error error => throw (.ofPathError error)
  | .ok rules => do
      Action.log .debug "rules.engine" "rule_table_compiled"
        [("default_rules", .int rules.defaults.length), ("kinds", .int rules.byKind.length)]
      pure { projector, rules }

def save (synchronizer : Synchronizer) (node : Node) (tree : Json) : Action SyncResult := do
  let node ← Action.saveNode node
  let descriptors := synchronizer.rules.derive tree
  let edges ← Action.saveRelationships node.uid descriptors
  pure ⟨node, node.graphId, descriptors, edges⟩

/-- Brings an object into the graph. One without a uid is skipped. Failures are passed on; those of
the graph are counted and logged first. An object without a node fails before anything else. -/
def sync (synchronizer : Synchronizer) (tree : Json) : Action SyncResult :=
  let node := synchronizer.projector.project tree
  match node.textFault? with
  | some fault => throw (.shape (.unwritten fault))
  | none =>
      if node.uid.isEmpty then do
        reportSkipped node
        pure { node, graphId := "" }
      else fun system =>
        match synchronizer.save node tree system with
        | .ok result system => (do reportDone result; pure result : Action SyncResult) system
        | .error (.graph failure) system =>
            (do reportFailed node failure; throw (.graph failure) : Action SyncResult) system
        | .error failure system => .error failure system

/-- What a watch does with an object. -/
def handler (synchronizer : Synchronizer) (tree : Json) : Action Unit := do
  let _ ← synchronizer.sync tree

end Synchronizer

end ClusterGraph
