import ClusterGraph.Proofs.History.CommitFrame
import ClusterGraph.Proofs.Resync.NodeSaveAgain
import ClusterGraph.Proofs.Sync.NodeUpsert

namespace ClusterGraph

/-! What a commit leaves in whatever graph, as long as ids that are still to be given are not in
use. A save of a node shows the node and touches no relationship; a save of relationships shows
these and touches nothing else. Which save succeeds depends on the nodes and their labels alone. -/

/-- Ids made from later numbers are as new as those from earlier ones. -/
theorem unused_append {name : Nat → String}
    (injective : ∀ {left right}, name left = name right → left = right) {ids : List String}
    {next number : Nat} (unused : ∀ other, next ≤ other → name other ∉ ids) (le : next ≤ number)
    (count : Nat) : ∀ other, number + count ≤ other →
      name other ∉ ids ++ (List.range' number count).map name := by
  intro other above member
  rcases List.mem_append.mp member with known | fresh
  · exact unused other (by omega) known
  · obtain ⟨used, usedMember, same⟩ := List.mem_map.mp fresh
    have below := (List.mem_range'_1.mp usedMember).2
    have equal := injective same
    omega

namespace Store.Numbered

variable {store after : Store} {node : Node} {properties : Entries Json} {id : String}

/-- Used up ids do no harm. -/
theorem idle (numbered : store.Numbered) (restored : after.graph = store.graph)
    (ids : store.nextId ≤ after.nextId) : after.Numbered := by
  constructor <;> rw [restored]
  · exact numbered.nodeIds
  · exact fun number le => numbered.unusedNodes number (Nat.le_trans ids le)
  · exact fun number le => numbered.unusedLabels number (Nat.le_trans ids le)

theorem withNewNode (numbered : store.Numbered) (node : Node) (properties : Entries Json) :
    (store.withNewNode node properties).Numbered := by
  have keys : (store.withNewNode node properties).graph.nodes.keys =
      store.graph.nodes.keys ++ (List.range' store.nextId 1).map nodeId := by
    rw [nodes_withNewNode]
    simp [Entries.keys]
  constructor
  · rw [keys]
    refine numbered.nodeIds.append (by simp) ?_
    simpa using numbered.unusedNodes store.nextId (Nat.le_refl _)
  · intro number le
    rw [keys]
    refine unused_append nodeId_injective numbered.unusedNodes (Nat.le_refl _) 1 number ?_
    exact Nat.le_trans (Nat.le_add_right _ _) le
  · rw [labels_withNewNode, Entries.keys_append, keys_freshLabels]
    exact unused_append labelId_injective numbered.unusedLabels (Nat.le_succ _) _

theorem withNode (numbered : store.Numbered) (id : String) (properties : Entries Json)
    (diff : LabelDiff) : (store.withNode id properties diff).Numbered := by
  have keys : (store.withNode id properties diff).graph.nodes.keys = store.graph.nodes.keys :=
    Graph.keys_mergeNode store.graph id (.ofEntries properties)
  constructor
  · rw [keys]
    exact numbered.nodeIds
  · intro number le
    rw [keys]
    exact numbered.unusedNodes number (Nat.le_trans (Nat.le_add_right _ _) le)
  · rw [labels_withNode, Entries.keys_append, keys_freshLabels]
    refine unused_append labelId_injective (fun number le member => ?_) (Nat.le_refl _) _
    exact numbered.unusedLabels number le ((List.filter_sublist.map Prod.fst).subset member)

theorem withRelationships (numbered : store.Numbered) (id : String)
    (resolved : List (Descriptor × String)) : (store.withRelationships id resolved).Numbered where
  nodeIds := numbered.nodeIds
  unusedNodes number le := numbered.unusedNodes number (Nat.le_trans (Nat.le_add_right _ _) le)
  unusedLabels number le := numbered.unusedLabels number (Nat.le_trans (Nat.le_add_right _ _) le)

end Store.Numbered

namespace Graph

/-- The only node with the uid of the one given holds all that is written of it. -/
def Shows (graph : Graph) (id : String) (node : Node) : Prop :=
  ∃ properties stored, node.properties = .ok properties ∧
    graph.nodesWithUid (.str node.uid) = [(id, stored)] ∧ stored.Hold properties

/-- The relationships that start at a node are those that descriptors ask for, each with the target
that it has in a graph. -/
def Links (graph : Graph) (id : String) (descriptors : List Descriptor) (targets : Graph) : Prop :=
  (graph.outgoing id).values = (targets.resolved descriptors).map fun entry =>
    ⟨id, entry.2, .ofEntries (Statement.relationshipProperties entry.1)⟩

variable {left right : Graph}

/-- What descriptors refer to depends on the nodes alone. -/
theorem resolved_sameNodes (same : left.nodes = right.nodes) (descriptors : List Descriptor) :
    left.resolved descriptors = right.resolved descriptors := by
  simp only [resolved, resolve?, nodesWithUid, nodesByUid?, same]

theorem Answers.sameNodes {descriptor : Descriptor} (answers : left.Answers descriptor)
    (same : left.nodes = right.nodes) : right.Answers descriptor where
  single byUid := by
    simpa only [Unambiguous, nodesWithUid, same] using answers.single byUid
  ordered byName named := by
    simpa only [nodesByUid?, same] using answers.ordered byName named

/-- Two graphs with the same nodes that have the same labels, under whatever ids. -/
structure Alike (left right : Graph) : Prop where
  nodes : left.nodes = right.nodes
  labels : left.labels.values = right.labels.values

namespace Alike

theorem refl (graph : Graph) : graph.Alike graph :=
  ⟨rfl, rfl⟩

theorem symm (alike : left.Alike right) : right.Alike left :=
  ⟨alike.nodes.symm, alike.labels.symm⟩

theorem trans {last : Graph} (first : left.Alike right) (second : right.Alike last) :
    left.Alike last :=
  ⟨first.nodes.trans second.nodes, first.labels.trans second.labels⟩

theorem nodesWithUid (alike : left.Alike right) (uid : Json) :
    left.nodesWithUid uid = right.nodesWithUid uid := by
  simp only [Graph.nodesWithUid, alike.nodes]

/-- Nodes are read without the ids of their labels. -/
theorem nodeRow (alike : left.Alike right) (node : String × Properties) :
    left.nodeRow node = right.nodeRow node := by
  have owned (graph : Graph) : (graph.ownedLabels node.1).values =
      graph.labels.values.filter (·.owner == node.1) := by
    rw [Entries.values, Entries.values, List.filter_map]
    rfl
  simp only [Graph.nodeRow, labelsOf, owned, alike.labels]

end Alike

end Graph

theorem Store.alike_withNode {left right : Store} (alike : left.graph.Alike right.graph)
    (id : String) (properties : Entries Json) (diff : LabelDiff) :
    (left.withNode id properties diff).graph.Alike (right.withNode id properties diff).graph where
  nodes := by
    change (left.graph.mergeNode id _).nodes = (right.graph.mergeNode id _).nodes
    simp only [Graph.mergeNode, alike.nodes]
  labels := by
    have kept (store : Store) :
        Entries.values (store.graph.labels.filter (keepsLabel id diff.removed)) =
          store.graph.labels.values.filter fun label => keepsLabel id diff.removed ("", label) := by
      rw [Entries.values, Entries.values, List.filter_map]
      rfl
    simp only [labels_withNode, Entries.values_append, values_freshLabels, kept, alike.labels]

namespace Save

variable {store after left right : Store} {node : Node} {source : String}
  {descriptors : List Descriptor}

theorem effect?_upsert :
    (upsert node).effect? store = some after ↔ ∃ properties change,
      node.properties = .ok properties ∧
        (Script.saveNode node properties).evaluate store = .ok change after := by
  cases written : node.properties with
  | error failure => simp [effect?, written]
  | ok properties =>
      cases evaluated : (Script.saveNode node properties).evaluate store <;>
        simp [effect?, written, evaluated]

theorem effect?_replace :
    (replace source descriptors).effect? store = some after ↔ ∃ edges,
      (Script.saveRelationships source descriptors).evaluate store = .ok edges after := by
  cases evaluated : (Script.saveRelationships source descriptors).evaluate store <;>
    simp [effect?, evaluated]

/-- A node that was saved is there once, in its old place if it was there before. -/
theorem shows_upsert (numbered : store.Numbered)
    (effect : (upsert node).effect? store = some after) :
    after.Numbered ∧ after.graph.relationships = store.graph.relationships ∧
      ∃ id, after.graph.Shows id node ∧
        ∀ entry, store.graph.nodesWithUid (.str node.uid) = [entry] → entry.1 = id := by
  obtain ⟨properties, change, written, evaluated⟩ := effect?_upsert.mp effect
  have told := Node.uid_written written
  rcases Script.evaluate_saveNode_ok evaluated with
    ⟨absent, rfl, rfl⟩ | ⟨id, old, row, stored, present, _, _, rfl, rfl⟩
  · have hold := Properties.hold_ofEntries (Node.keys_nodup written)
    refine ⟨numbered.withNewNode node properties, rfl, _,
      ⟨properties, _, written, Store.nodesWithUid_withNewNode written absent, hold⟩, ?_⟩
    simp [absent]
  · have hold := Properties.hold_insertAll old (Node.keys_nodup written)
    refine ⟨numbered.withNode _ _ _, rfl, id, ⟨properties, _, written,
      Graph.nodesWithUid_mergeNode numbered.nodeIds present
        (Graph.has_uid_told id (hold _ told)).1, hold⟩, ?_⟩
    rintro entry isEntry
    rw [present] at isEntry
    rw [← List.head_eq_of_cons_eq isEntry]

/-- Relationships that were saved start at the only node of their source. -/
theorem links_replace (numbered : store.Numbered)
    (effect : (replace source descriptors).effect? store = some after) :
    after.Numbered ∧ after.graph.nodes = store.graph.nodes ∧
      after.graph.labels = store.graph.labels ∧
      ∃ entry, store.graph.nodesWithUid (.str source) = [entry] ∧
        after.graph.Links entry.1 descriptors after.graph := by
  obtain ⟨edges, evaluated⟩ := effect?_replace.mp effect
  obtain ⟨id, stored, present, _, _, rfl⟩ := Script.evaluate_saveRelationships_ok evaluated
  refine ⟨numbered.withRelationships _ _, rfl, rfl, (id, stored), present, ?_⟩
  rw [Graph.Links, Store.outgoing_withRelationships_same, Store.values_freshRelationships]
  rfl

/-- On graphs that are alike a stored node is saved alike, or not at all. -/
theorem upsert_alike (alike : left.graph.Alike right.graph) {entry : String × Properties}
    (present : left.graph.nodesWithUid (.str node.uid) = [entry])
    (effect : (upsert node).effect? left = some after) :
    ∃ other, (upsert node).effect? right = some other ∧ after.graph.Alike other.graph := by
  obtain ⟨properties, change, written, evaluated⟩ := effect?_upsert.mp effect
  rcases Script.evaluate_saveNode_ok evaluated with
    ⟨absent, _, _⟩ | ⟨id, old, row, stored, present, listed, read, _, rfl⟩
  · simp [present] at absent
  · rw [alike.nodesWithUid] at present
    rw [alike.nodeRow] at listed
    have again := Script.evaluate_saveNode_read properties present listed read
    exact ⟨_, effect?_upsert.mpr ⟨properties, _, written, again⟩,
      Store.alike_withNode alike _ _ _⟩

/-- Likewise the relationships of a node are saved. -/
theorem replace_alike (alike : left.graph.Alike right.graph)
    (effect : (replace source descriptors).effect? left = some after) :
    ∃ other, (replace source descriptors).effect? right = some other := by
  obtain ⟨edges, evaluated⟩ := effect?_replace.mp effect
  obtain ⟨id, stored, present, answers, _, _⟩ := Script.evaluate_saveRelationships_ok evaluated
  rw [alike.nodesWithUid] at present
  exact ⟨_, effect?_replace.mpr ⟨_, Script.evaluate_saveRelationships present
    fun descriptor member => (answers descriptor member).sameNodes alike.nodes⟩⟩

/-- Without faults a save commits if it has an effect, and otherwise fails. -/
theorem action_calm (save : Save) {system : System} (calm : system.database.faults = []) :
    (∃ last, save.action system = .ok () last ∧
      save.effect? system.database.store = some last.database.store ∧
      last.database.faults = []) ∨
    ∃ failure last, save.action system = .error failure last ∧
      save.effect? system.database.store = none ∧ last.graph = system.graph ∧
      system.database.store.nextId ≤ last.database.store.nextId ∧ last.database.faults = [] := by
  have raising : Raising system.database.faults := by simp [calm, Raising]
  have precedes := save.action_precedes system
  rcases save.action_ends raising with ⟨last, ran, effect⟩ | ⟨failure, last, ran, restored⟩
  · rw [Action.after_ok ran] at precedes
    exact .inl ⟨last, ran, effect, (calm ▸ precedes.faults).eq_nil⟩
  · rw [Action.after_error ran] at precedes
    refine .inr ⟨failure, last, ran, ?_, restored, precedes.ids, (calm ▸ precedes.faults).eq_nil⟩
    refine Option.eq_none_iff_forall_ne_some.mpr fun after effect => ?_
    cases save with
    | upsert node =>
        obtain ⟨properties, change, written, evaluated⟩ := effect?_upsert.mp effect
        have ends := Action.saveNode_calm calm written
        rw [evaluated] at ends
        obtain ⟨other, succeeded, _⟩ := ends
        simp only [action, bind, EStateM.bind, succeeded] at ran
        cases ran
    | replace source descriptors =>
        obtain ⟨edges, evaluated⟩ := effect?_replace.mp effect
        have ends := Action.saveRelationships_calm calm source descriptors
        rw [evaluated] at ends
        obtain ⟨other, succeeded, _⟩ := ends
        simp only [action, bind, EStateM.bind, succeeded] at ran
        cases ran

end Save

end ClusterGraph
