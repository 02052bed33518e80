import ClusterGraph.Proofs.Resync.CalmSync
import ClusterGraph.Proofs.Resync.RelationshipSaveAgain

namespace ClusterGraph

/-! Syncing an object once more. Whatever the graph was before the first sync, the second one
changes nothing but the ids of the relationships that start at the object. -/

/-- The graph id of the node whose relationships were replaced, unless the object was skipped. -/
def SyncResult.source? (result : SyncResult) : Option String :=
  if result.node.uid.isEmpty then none else some result.graphId

/-- What the second of two syncs of an object does to the system that the first one left, and what
both tell. -/
structure Resynced (first second : SyncResult) (before after : System) : Prop where
  nodes : after.graph.nodes = before.graph.nodes
  labels : after.graph.labels = before.graph.labels
  relationships : List.Forall₂
    (Relationship.Renewed first.source? before.graph.relationships.keys)
    before.graph.relationships after.graph.relationships
  sparesLabels : before.Puts SparesLabels after
  node : second.node = first.node
  graphId : second.graphId = first.graphId
  descriptors : second.descriptors = first.descriptors
  unresolved : second.unresolved = first.unresolved
  edges : second.edges.map Edge.withoutId = first.edges.map Edge.withoutId

theorem OfRelationships.sparesLabels {name : String} (ofRelationships : OfRelationships name) :
    SparesLabels name :=
  (by decide : ∀ name ∈ [Query.resolveUid, .resolveName, .deleteRelationships,
    .createRelationship].map Query.name, SparesLabels name) name ofRelationships

theorem Script.nextId_saveNode {store after : Store} {node : Node} {properties : Entries Json}
    {change : NodeChange}
    (evaluated : (saveNode node properties).evaluate store = .ok change after) :
    store.nextId ≤ after.nextId := by
  rcases evaluate_saveNode_ok evaluated with ⟨_, _, rfl⟩ | ⟨id, _, _, _, _, _, _, _, rfl⟩
  · exact Nat.le_trans (Nat.le_succ _) (Nat.le_add_right _ _)
  · exact Nat.le_add_right _ _

namespace Synchronizer

variable {synchronizer : Synchronizer} {tree : Json} {system middle : System} {first : SyncResult}

theorem sync_withoutUid (told : (synchronizer.projector.project tree).textFault? = none)
    (skipped : (synchronizer.projector.project tree).uid.isEmpty = true) (system : System) :
    ∃ last, synchronizer.sync tree system =
        .ok { node := synchronizer.projector.project tree, graphId := "" } last ∧
      last.database = system.database ∧ last.calls = system.calls := by
  rw [sync_unknown told skipped]
  exact ⟨_, rfl, rfl, rfl⟩

theorem sync_again_skipped (skipped : (synchronizer.projector.project tree).uid.isEmpty = true)
    (ran : synchronizer.sync tree system = .ok first middle) :
    ∃ second last, synchronizer.sync tree middle = .ok second last ∧
      Resynced first second middle last := by
  have told := textFault?_of_sync ran
  obtain ⟨_, firstRan, _⟩ := sync_withoutUid told skipped system
  rw [firstRan] at ran
  cases ran
  obtain ⟨last, secondRan, database, calls⟩ := sync_withoutUid told skipped middle
  have graph : last.graph = middle.graph := congrArg (fun database => database.store.graph) database
  refine ⟨_, last, secondRan, ?_⟩
  constructor
  case relationships =>
    rw [graph]
    refine List.forall₂_same.mpr fun entry _ => ⟨rfl, ?_⟩
    simp [SyncResult.source?, skipped]
  case sparesLabels => exact ⟨[], by rw [calls, List.append_nil], by simp⟩
  case nodes => rw [graph]
  case labels => rw [graph]
  all_goals rfl

theorem Saves.upToDate {before middle after : Store} {properties : Entries Json}
    {change : NodeChange} {edges : List Edge} (wellFormed : before.WellFormed)
    (saves : synchronizer.Saves tree before middle after properties change edges) :
    after.graph.UpToDate change.graphId (synchronizer.projector.project tree) properties := by
  obtain ⟨_, _, _, _, _, rfl⟩ := Script.evaluate_saveRelationships_ok saves.relationships
  exact (Script.saveNode_upToDate wellFormed saves.written saves.node).withRelationships _ _

theorem sync_again_known (wellFormed : system.database.store.WellFormed)
    (calm : system.database.faults = [])
    (known : (synchronizer.projector.project tree).uid.isEmpty = false)
    (ran : synchronizer.sync tree system = .ok first middle) :
    ∃ second last, synchronizer.sync tree middle = .ok second last ∧
      Resynced first second middle last := by
  obtain ⟨properties, change, saved, edges, ⟨written, nodeSaved, relationshipsSaved⟩, rfl, quiet⟩ :=
    sync_committed known calm ran
  have textFields := Node.hasTextFields_project synchronizer.projector tree
  have upToDate := Script.saveNode_upToDate wellFormed written nodeSaved
  have upToDateAgain := Saves.upToDate wellFormed ⟨written, nodeSaved, relationshipsSaved⟩
  obtain ⟨old, present, _⟩ := upToDate.stored
  obtain ⟨id, found, source, answers, rfl, isMiddle⟩ :=
    Script.evaluate_saveRelationships_ok relationshipsSaved
  obtain ⟨rfl, _⟩ : change.graphId = id ∧ _ := by simpa [present] using source
  have unused : ∀ number, saved.nextId ≤ number →
      Store.relationshipId number ∉ saved.graph.relationships.keys := by
    intro number le
    rw [(Script.saveNode_stored nodeSaved).1]
    exact wellFormed.freshRelationships number
      (Nat.le_trans (Script.nextId_saveNode nodeSaved) le)
  generalize isResolved : saved.graph.resolved (synchronizer.rules.derive tree) = resolved
    at isMiddle
  have nodeAgain := Script.saveNode_again upToDateAgain written textFields
  have relationshipsAgain : (Script.saveRelationships (synchronizer.projector.project tree).uid
      (synchronizer.rules.derive tree)).evaluate middle.database.store =
      .ok (Store.freshEdges middle.database.store.nextId resolved)
        (middle.database.store.withRelationships change.graphId resolved) := by
    rw [isMiddle, ← isResolved]
    exact Script.evaluate_saveRelationships_again present answers _
  have saves : synchronizer.Saves tree middle.database.store middle.database.store _ properties
      _ _ := ⟨written, nodeAgain.1, relationshipsAgain⟩
  obtain ⟨last, secondRan, isLast, _⟩ := sync_of_saves known quiet saves
  refine ⟨_, last, secondRan, ?_⟩
  constructor
  case nodes =>
    simp only [System.graph, isLast]
    rfl
  case labels =>
    simp only [System.graph, isLast]
    rfl
  case relationships =>
    have source : (synchronizer.resultOf tree change.graphId
        (Store.freshEdges saved.nextId resolved)).source? = some change.graphId :=
      if_neg (by simp [resultOf, known])
    simp only [System.graph, isLast, isMiddle]
    rw [source]
    exact Store.withRelationships_again unused change.graphId resolved
  case sparesLabels =>
    obtain ⟨calls, appended, ofRelationships⟩ := sync_calls known quiet written nodeAgain.1
    rw [Action.after_ok secondRan] at appended
    refine ⟨_, appended, fun name parameters member => ?_⟩
    rcases List.mem_append.mp member with ofNode | later
    · obtain ⟨statement, put, rfl⟩ := Script.run_mem_calls ofNode
      rw [nodeAgain.2] at put
      exact (by decide : ∀ name ∈ [Query.findByUid.name, Query.mergeNode.name], SparesLabels name) _
        (List.mem_map_of_mem (f := fun statement => statement.query.name) put)
    · exact (ofRelationships name parameters later).sparesLabels
  case unresolved =>
    simp only [SyncResult.unresolved, resultOf, Store.length_freshEdges]
  case edges => exact Store.freshEdges_withoutId _ _ resolved
  all_goals rfl

/-- A sync that succeeded without faults succeeds once more, touches no label, and leaves the graph
as it is, but for the ids of the relationships that it replaces. -/
theorem sync_again (wellFormed : system.database.store.WellFormed)
    (calm : system.database.faults = [])
    (ran : synchronizer.sync tree system = .ok first middle) :
    ∃ second last, synchronizer.sync tree middle = .ok second last ∧
      Resynced first second middle last := by
  cases known : (synchronizer.projector.project tree).uid.isEmpty with
  | true => exact sync_again_skipped known ran
  | false => exact sync_again_known wellFormed calm known ran

/-- Objects belong to their owners, and nothing else is told of them. -/
def ofOwners : Synchronizer where
  projector := { clock := .time .epoch }
  rules :=
    { defaults := [⟨⟨".metadata.ownerReferences[*].uid", "", "owned-by", false⟩,
        ⟨".metadata.ownerReferences[*].uid",
          [.key "metadata", .key "ownerReferences", .wildcard, .key "uid"]⟩⟩]
      byKind := []
      clusterScoped := [] }

/-- A pod that is owned by the object with a uid. -/
def podOwnedBy (owner uid : String) : Json :=
  .obj [("apiVersion", .str "v1"), ("kind", .str "Pod"),
    ("metadata", .obj [("uid", .str uid), ("name", .str "web"),
      ("labels", .obj [("app", .str "new")]),
      ("ownerReferences", .arr [.obj [("uid", .str owner)]])])]

/-- The node of a pod that lacks most properties, and has another value for its label. -/
def outdated : System :=
  { database := { store :=
      { graph :=
          { nodes := [(Store.nodeId 1, .ofEntries [("uid", .str "pod")])]
            labels := [(Store.labelId 2, (Label.mk "app" "old").entity (Store.nodeId 1))] }
        nextId := 3 } }
    journal := { threshold := 50 } }

theorem wellFormed_outdated : outdated.database.store.WellFormed where
  nodeIds := by simp [outdated, Entries.keys]
  freshNodes := by
    intro number le member
    obtain rfl := Store.nodeId_injective (List.mem_singleton.mp member)
    exact absurd le (by decide)
  freshOwners := by
    intro number le entry member same
    obtain rfl := List.mem_singleton.mp member
    obtain rfl := Store.nodeId_injective same
    exact absurd le (by decide)
  freshRelationships := by simp [outdated, Entries.keys]
  names := by
    intro node member
    obtain rfl := List.mem_singleton.mp member
    exact Properties.hasTextNames_ofEntries _
  labels := by
    intro entry member
    obtain rfl := List.mem_singleton.mp member
    exact ⟨_, rfl⟩

theorem sync_again_outdated :
    ∃ first middle second last,
      ofOwners.sync (podOwnedBy "pod" "pod") outdated = .ok first middle ∧
      ofOwners.sync (podOwnedBy "pod" "pod") middle = .ok second last ∧
      Resynced first second middle last := by
  have succeeds : (ofOwners.sync (podOwnedBy "pod" "pod") outdated matches .ok _ _) = true := by
    decide +kernel
  cases ran : ofOwners.sync (podOwnedBy "pod" "pod") outdated with
  | error failure middle => simp [ran] at succeeds
  | ok first middle =>
      obtain ⟨second, last, again, resynced⟩ := sync_again wellFormed_outdated rfl ran
      exact ⟨first, middle, second, last, rfl, again, resynced⟩

end Synchronizer

end ClusterGraph
