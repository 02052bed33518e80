import ClusterGraph.Proofs.Resync.CalmSync
import ClusterGraph.Proofs.Resync.NodeSaveAgain
import ClusterGraph.Proofs.Sync.Targets

namespace ClusterGraph

/-! Where the edges of a sync come from, and where they lead: each stands for a stored relationship,
was derived from the object by one of its rules, and ends at a node that its descriptor fits. -/

namespace Edge

/-- The descriptor that an edge was made for. -/
def descriptor (edge : Edge) : Descriptor :=
  { relationship := edge.relationship
    targetType := edge.targetType
    targetUid := edge.targetUid
    targetName := edge.targetName
    targetNamespace := edge.targetNamespace }

/-- The relationship that an edge tells about, from the node where it starts. -/
def stored (edge : Edge) (source : String) : Relationship :=
  ⟨source, edge.targetGraphId, .ofEntries (Statement.relationshipProperties edge.descriptor)⟩

end Edge

namespace Store

theorem freshRelationships_eq (source : String) (number : Nat)
    (resolved : List (Descriptor × String)) :
    freshRelationships source number resolved =
      (freshEdges number resolved).map fun edge => (edge.graphId, edge.stored source) := by
  induction resolved generalizing number with
  | nil => rfl
  | cons entry rest ih => exact congrArg (_ :: ·) (ih (number + 1))

/-- The edges tell what was resolved. -/
theorem map_freshEdges (number : Nat) (resolved : List (Descriptor × String)) :
    (freshEdges number resolved).map (fun edge => (edge.descriptor, edge.targetGraphId)) =
      resolved := by
  induction resolved generalizing number with
  | nil => rfl
  | cons entry rest ih => exact congrArg (entry :: ·) (ih (number + 1))

end Store

namespace Graph

variable {graph : Graph} {descriptor : Descriptor} {id : String}

/-- A name is resolved to a node that it fits, whatever the other nodes are. -/
theorem resolve?_names (byName : descriptor.byUid = false)
    (resolves : graph.resolve? descriptor = some id) :
    ∃ node ∈ graph.nodes, node.1 = id ∧ descriptor.Names node := by
  cases kind : descriptor.target.kind.isEmpty with
  | true => simp [resolve?, byName, kind] at resolves
  | false =>
      simp only [resolve?, byName, kind, Bool.false_eq_true, if_false] at resolves
      obtain ⟨node, isFound, rfl⟩ := Option.map_eq_some_iff.mp resolves
      obtain ⟨sorted, isSorted, found⟩ := Option.bind_eq_some_iff.mp isFound
      have member := (Json.perm_of_sortOn? isSorted).subset (List.mem_of_find?_eq_some found)
      exact ⟨node, member, rfl, Statement.names_iff.mp (List.find?_some found)⟩

end Graph

/-- The node that was saved has the uid of its record, under the id that the save tells. -/
theorem Script.saveNode_hasUid {store after : Store} {node : Node} {properties : Entries Json}
    {change : NodeChange} (written : node.properties = .ok properties)
    (evaluated : (saveNode node properties).evaluate store = .ok change after) :
    ∃ found, (change.graphId, found) ∈ after.graph.nodesWithUid (.str node.uid) := by
  rcases evaluate_saveNode_ok evaluated with
    ⟨absent, rfl, rfl⟩ | ⟨id, old, row, stored, listed, _, _, rfl, rfl⟩
  · exact ⟨_, by rw [Store.nodesWithUid_withNewNode written absent]; exact List.mem_cons_self⟩
  · have member : (id, old) ∈ store.graph.nodesWithUid (.str node.uid) := by simp [listed]
    have merged : (id, old.insertAll (.ofEntries properties)) ∈
        (store.graph.mergeNode id (.ofEntries properties)).nodes :=
      List.mem_map.mpr ⟨(id, old), (Graph.mem_nodesWithUid.mp member).1, by simp⟩
    have hold := Properties.hold_insertAll old (Node.keys_nodup written)
    have isUid := Graph.has_uid_told id (hold _ (Node.uid_written written))
    exact ⟨_, Graph.mem_nodesWithUid.mpr ⟨merged, isUid.1⟩⟩

/-- The edges that a sync made, in the graph that it left. -/
structure EdgesMade (rules : CompiledTable) (tree : Json) (result : SyncResult)
    (before after : Graph) : Prop where
  stored : ∀ edge ∈ result.edges,
    (edge.graphId, edge.stored result.graphId) ∈ after.relationships
  new : ∀ entry ∈ after.relationships, entry ∈ before.relationships ∨
    ∃ edge ∈ result.edges, entry = (edge.graphId, edge.stored result.graphId)
  derived : ∀ edge ∈ result.edges, edge.descriptor ∈ rules.derive tree
  resolved : ∀ edge ∈ result.edges, after.resolve? edge.descriptor = some edge.targetGraphId

namespace Synchronizer

variable {synchronizer : Synchronizer} {tree : Json} {system last : System} {result : SyncResult}

theorem sync_made (calm : system.database.faults = [])
    (ran : synchronizer.sync tree system = .ok result last) :
    EdgesMade synchronizer.rules tree result system.graph last.graph := by
  cases known : (synchronizer.projector.project tree).uid.isEmpty with
  | true =>
      have reports := sync_skipped known system
      rw [Action.after_ok ran] at reports
      have unlinked : result.edges = [] := by
        rw [sync_unknown (textFault?_of_sync ran) known] at ran
        cases ran
        rfl
      rw [reports.graph]
      constructor
      case new => exact fun entry member => .inl member
      all_goals simp [unlinked]
  | false =>
      obtain ⟨properties, change, middle, edges, saves, rfl, _⟩ := sync_committed known calm ran
      obtain ⟨id, source, listed, _, rfl, isLast⟩ :=
        Script.evaluate_saveRelationships_ok saves.relationships
      obtain ⟨found, isSaved⟩ := Script.saveNode_hasUid saves.written saves.node
      obtain ⟨rfl, _⟩ : change.graphId = id ∧ _ := by simpa [listed] using isSaved
      have isGraph : last.graph = (middle.withRelationships change.graphId
          (middle.graph.resolved (synchronizer.rules.derive tree))).graph :=
        congrArg Store.graph isLast
      rw [isGraph]
      have origin {edge : Edge} (member : edge ∈ (synchronizer.resultOf tree change.graphId
          (Store.freshEdges middle.nextId
            (middle.graph.resolved (synchronizer.rules.derive tree)))).edges) :
          edge.descriptor ∈ synchronizer.rules.derive tree ∧
            middle.graph.resolve? edge.descriptor = some edge.targetGraphId := by
        have told := List.mem_map_of_mem
          (f := fun edge : Edge => (edge.descriptor, edge.targetGraphId)) member
        simp only [resultOf, Store.map_freshEdges] at told
        exact Graph.mem_resolved.mp told
      constructor
      case stored =>
        intro edge member
        rw [Store.relationships_withRelationships, Store.freshRelationships_eq, List.mem_append]
        exact .inr (List.mem_map.mpr ⟨edge, member, rfl⟩)
      case new =>
        intro entry member
        rw [Store.relationships_withRelationships, Store.freshRelationships_eq,
          List.mem_append, (Script.saveNode_stored saves.node).1] at member
        refine member.imp (fun kept => (List.mem_filter.mp kept).1) fun isNew => ?_
        obtain ⟨edge, edgeMember, rfl⟩ := List.mem_map.mp isNew
        exact ⟨edge, edgeMember, rfl⟩
      case derived => exact fun edge member => (origin member).1
      case resolved => exact fun edge member => (origin member).2

end Synchronizer

end ClusterGraph
