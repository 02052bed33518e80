import ClusterGraph.Proofs.History.LabelChange
import ClusterGraph.Proofs.Store.CallTrace
import ClusterGraph.Proofs.Store.ReadableNode

namespace ClusterGraph

/-! Saving a node once more. A save that succeeds leaves its node up to date, with all labels that
are wanted and none whose key is not, and the save of a node that is up to date does nothing. -/

/-- Different nodes have different ids, and ids that are still to be given appear nowhere. Names of
properties and labels are texts. -/
structure Store.WellFormed (store : Store) : Prop where
  nodeIds : store.graph.nodes.keys.Nodup
  freshNodes : ∀ number, store.nextId ≤ number → nodeId number ∉ store.graph.nodes.keys
  freshOwners : ∀ number, store.nextId ≤ number →
    ∀ entry ∈ store.graph.labels, entry.2.owner ≠ nodeId number
  freshRelationships : ∀ number, store.nextId ≤ number →
    relationshipId number ∉ store.graph.relationships.keys
  names : ∀ node ∈ store.graph.nodes, node.2.HasTextNames
  labels : store.graph.HasTextLabels

/-- The node under an id is the only one with its uid and holds what is to be written. -/
structure Graph.UpToDate (graph : Graph) (id : String) (node : Node) (properties : Entries Json) :
    Prop where
  stored : ∃ old, graph.nodesWithUid (.str node.uid) = [(id, old)] ∧ old.HasTextNames ∧
    old.Hold properties ∧ ∀ entry ∈ graph.nodes, entry.1 = id → entry.2 = old
  texts : graph.HasTextLabels
  carried : ∀ label ∈ node.labels, graph.HasLabel id label
  wanted : ∀ label, graph.HasLabel id label → LabelDiff.hasKey node.labels label.key = true

namespace LabelDiff

/-- Labels that are all stored, under no other keys, make no difference. -/
theorem between_settled {stored fresh : List Label} (carried : ∀ label ∈ fresh, label ∈ stored)
    (wanted : ∀ label ∈ stored, hasKey fresh label.key = true) :
    between stored fresh = ⟨[], [], []⟩ := by
  have written : (between stored fresh).added ++ (between stored fresh).changed = [] := by
    rw [List.eq_nil_iff_forall_not_mem]
    intro label member
    obtain ⟨isFresh, unstored⟩ := mem_written.mp member
    exact unstored (carried label isFresh)
  have removed : (between stored fresh).removed = [] := by
    rw [List.eq_nil_iff_forall_not_mem]
    intro label member
    obtain ⟨isStored, gone⟩ := key_removed.mp ⟨label, member, rfl⟩
    obtain ⟨other, otherMember, sameKey⟩ := hasKey_iff.mp isStored
    have kept := wanted other otherMember
    rw [sameKey, gone] at kept
    contradiction
  obtain ⟨added, changed⟩ := List.append_eq_nil_iff.mp written
  cases difference : between stored fresh
  simp_all

end LabelDiff

namespace Graph

variable {graph : Graph} {uid : String}

theorem has_uid_told (id : String) {properties : Properties}
    (told : Entries.Tells properties (.str "uid") (.str uid)) :
    has "uid" (.str uid) (id, properties) = true ∧ uidKey (id, properties) = .str uid := by
  have isUid : property properties "uid" = .str uid := by
    rw [property, Properties.get?_tells told, Option.getD_some]
  exact ⟨by rw [has, isUid, Json.equals_str, beq_self_eq_true], uidKey_of_property isUid⟩

section Merge

variable {id : String} {old properties : Properties}

/-- After a merge there is the merged node, and all nodes under other ids. -/
theorem mem_mergeNode (distinct : graph.nodes.keys.Nodup) (present : (id, old) ∈ graph.nodes)
    {entry : String × Properties} (member : entry ∈ (graph.mergeNode id properties).nodes) :
    entry = (id, old.insertAll properties) ∨ entry ∈ graph.nodes ∧ entry.1 ≠ id := by
  obtain ⟨before, beforeMember, rfl⟩ := List.mem_map.mp member
  split
  · rename_i same
    obtain rfl : before = (id, old) :=
      List.inj_on_of_nodup_map distinct beforeMember present (beq_iff_eq.mp same)
    exact .inl rfl
  · rename_i differ
    exact .inr ⟨beforeMember, by simpa using differ⟩

theorem nodesWithUid_mergeNode (distinct : graph.nodes.keys.Nodup)
    (present : graph.nodesWithUid (.str uid) = [(id, old)])
    (keeps : has "uid" (.str uid) (id, old.insertAll properties) = true) :
    (graph.mergeNode id properties).nodesWithUid (.str uid) =
      [(id, old.insertAll properties)] := by
  have listed : (id, old) ∈ graph.nodesWithUid (.str uid) := by simp [present]
  obtain ⟨member, has⟩ := mem_nodesWithUid.mp listed
  let merge (entry : String × Properties) : String × Properties :=
    if entry.1 == id then (id, entry.2.insertAll properties) else entry
  have same : graph.nodes.filter (Graph.has "uid" (.str uid) ∘ merge) =
      graph.nodesWithUid (.str uid) := by
    refine List.filter_congr fun entry entryMember => ?_
    by_cases isNode : entry.1 = id
    · obtain rfl : entry = (id, old) :=
        List.inj_on_of_nodup_map distinct entryMember member isNode
      simp only [Function.comp_apply, merge, beq_self_eq_true, if_true, keeps, has]
    · simp [merge, isNode]
  change (graph.nodes.map merge).filter (Graph.has "uid" (.str uid)) = _
  rw [List.filter_map, same, present]
  simp [merge]

end Merge

theorem hasTextLabels_freshLabels (owner : String) (number : Nat) (labels : List Label) :
    ∀ entry ∈ Store.freshLabels owner number labels,
      ∃ label : Label, entry.2 = label.entity entry.2.owner := by
  intro entry member
  obtain ⟨_, label, _, isEntity⟩ := Store.mem_freshLabels member
  exact ⟨label, by rw [isEntity]; rfl⟩

end Graph

namespace Store

variable {store : Store} {node : Node} {properties : Entries Json} {id : String}
  {old : Properties} {stored : Node}

theorem nodesWithUid_withNewNode (written : node.properties = .ok properties)
    (absent : store.graph.nodesWithUid (.str node.uid) = []) :
    (store.withNewNode node properties).graph.nodesWithUid (.str node.uid) =
      [(nodeId store.nextId, .ofEntries properties)] := by
  have hold := Properties.hold_ofEntries (Node.keys_nodup written)
  have isUid := Graph.has_uid_told (nodeId store.nextId) (hold _ (Node.uid_written written))
  have alone : [(nodeId store.nextId, Properties.ofEntries properties)].filter
      (Graph.has "uid" (.str node.uid)) = [(nodeId store.nextId, .ofEntries properties)] := by
    simp [isUid.1]
  rw [Graph.nodesWithUid, nodes_withNewNode, List.filter_append, alone]
  exact congrArg (· ++ _) absent

theorem upToDate_withNewNode (wellFormed : store.WellFormed)
    (written : node.properties = .ok properties)
    (absent : store.graph.nodesWithUid (.str node.uid) = []) :
    (store.withNewNode node properties).graph.UpToDate (nodeId store.nextId) node properties := by
  have hold := Properties.hold_ofEntries (Node.keys_nodup written)
  have unowned {labelId : String} {label : Label} :
      (labelId, label.entity (nodeId store.nextId)) ∉ store.graph.labels := fun member =>
    wellFormed.freshOwners store.nextId (Nat.le_refl _) _ member rfl
  constructor
  · refine ⟨.ofEntries properties, nodesWithUid_withNewNode written absent,
      Properties.hasTextNames_ofEntries properties, hold, fun entry member isNew => ?_⟩
    rw [nodes_withNewNode, List.mem_append, List.mem_singleton] at member
    rcases member with before | rfl
    · have stored := List.mem_map_of_mem (f := Prod.fst) before
      rw [isNew] at stored
      exact absurd stored (wellFormed.freshNodes store.nextId (Nat.le_refl _))
    · rfl
  · intro entry member
    rw [labels_withNewNode, List.mem_append] at member
    exact member.elim (wellFormed.labels entry) (Graph.hasTextLabels_freshLabels _ _ _ entry)
  · exact fun label member => hasLabel_withNewNode member
  · rintro label ⟨labelId, member⟩
    rw [labels_withNewNode, List.mem_append] at member
    have fresh := (mem_freshLabels (member.resolve_left unowned)).2
    obtain ⟨found, foundMember, isEntity⟩ := fresh
    obtain rfl := Label.entity_injective isEntity
    exact LabelDiff.hasKey_iff.mpr ⟨label, Label.mem_normalize.mp foundMember, rfl⟩

theorem upToDate_withNode (wellFormed : store.WellFormed)
    (written : node.properties = .ok properties)
    (present : store.graph.nodesWithUid (.str node.uid) = [(id, old)])
    (read : ∀ label, label ∈ stored.labels ↔ store.graph.HasLabel id label) :
    (store.withNode id properties
      (LabelDiff.between stored.labels node.labels)).graph.UpToDate id node properties := by
  have hold := Properties.hold_insertAll old (Node.keys_nodup written)
  have isUid := Graph.has_uid_told id (hold _ (Node.uid_written written))
  have oldListed : (id, old) ∈ store.graph.nodesWithUid (.str node.uid) := by simp [present]
  have oldMember := (Graph.mem_nodesWithUid.mp oldListed).1
  have nodes {entry : String × Properties} (member : entry ∈ (store.withNode id properties
      (LabelDiff.between stored.labels node.labels)).graph.nodes) :
      entry = (id, old.insertAll (.ofEntries properties)) ∨
        entry ∈ store.graph.nodes ∧ entry.1 ≠ id :=
    Graph.mem_mergeNode wellFormed.nodeIds oldMember member
  constructor
  · refine ⟨old.insertAll (.ofEntries properties),
      Graph.nodesWithUid_mergeNode wellFormed.nodeIds present isUid.1,
      (wellFormed.names _ oldMember).insertAll properties, hold, fun entry member isNode => ?_⟩
    rcases nodes member with rfl | ⟨_, differ⟩
    · rfl
    · exact absurd isNode differ
  · intro entry member
    rw [labels_withNode, List.mem_append] at member
    rcases member with kept | fresh
    · exact wellFormed.labels entry (List.mem_filter.mp kept).1
    · exact Graph.hasTextLabels_freshLabels _ _ _ entry fresh
  · exact fun label member => hasLabel_withNode read member
  · rintro label ⟨labelId, member⟩
    rcases (mem_labels_withNode read).mp member with ⟨_, keyStays⟩ | fresh
    · exact keyStays rfl
    · obtain ⟨_, found, foundMember, isEntity⟩ := mem_freshLabels fresh
      obtain rfl := Label.entity_injective isEntity
      exact LabelDiff.hasKey_iff.mpr ⟨label, (LabelDiff.mem_written.mp foundMember).1, rfl⟩

/-- A node that is up to date stays as it is. -/
theorem withNode_settled (upToDate : store.graph.UpToDate id node properties) :
    store.withNode id properties ⟨[], [], []⟩ = store := by
  obtain ⟨old, _, _, hold, only⟩ := upToDate.stored
  have kept : store.graph.labels.filter (keepsLabel id []) = store.graph.labels :=
    List.filter_eq_self.mpr fun entry _ => by simp [keepsLabel]
  have merged : store.graph.mergeNode id (.ofEntries properties) = store.graph := by
    have each : ∀ entry ∈ store.graph.nodes, (if entry.1 == id then
        (id, entry.2.insertAll (.ofEntries properties)) else entry) = entry := by
      intro entry member
      split
      · rename_i same
        rw [only entry member (beq_iff_eq.mp same), hold.insertAll, ← beq_iff_eq.mp same,
          ← only entry member (beq_iff_eq.mp same)]
      · rfl
    rw [Graph.mergeNode, List.map_congr_left each, List.map_id']
  have settled : createLabels id ([] ++ []) (deleteLabels id [] store) = store := by
    simp only [createLabels, freshLabels, deleteLabels, onGraph, kept, List.append_nil,
      List.length_nil, Nat.add_zero]
  simp only [withNode, settled, onGraph, merged]

end Store

/-- The name is that of no query that deletes or adds labels. -/
def SparesLabels (name : String) : Prop :=
  name ≠ Query.deleteLabel.name ∧ name ≠ Query.addLabel.name

instance (name : String) : Decidable (SparesLabels name) :=
  inferInstanceAs (Decidable (_ ∧ _))

namespace Script

variable {store after : Store} {node : Node} {properties : Entries Json}

/-- A save that succeeds leaves its node up to date. -/
theorem saveNode_upToDate (wellFormed : store.WellFormed)
    (written : node.properties = .ok properties) {change : NodeChange}
    (evaluated : (saveNode node properties).evaluate store = .ok change after) :
    after.graph.UpToDate change.graphId node properties := by
  rcases evaluate_saveNode_ok evaluated with
    ⟨absent, rfl, rfl⟩ | ⟨id, old, row, stored, present, listed, read, rfl, rfl⟩
  · exact Store.upToDate_withNewNode wellFormed written absent
  · exact Store.upToDate_withNode wellFormed written present
      (Graph.labels_ofRecord wellFormed.labels listed read)

section Again

variable {id : String}

theorem statements_findNode? (uid identifier : String) :
    (findNode? (.findByUid uid) identifier).statements store = [.findByUid uid] := by
  simp only [findNode?, statements_bind, statements_query, evaluate_query]
  cases (Statement.findByUid uid).perform store with
  | error shape after => rfl
  | ok rows after =>
      cases rows with
      | nil => rfl
      | cons row others =>
          cases others with
          | nil =>
              simp only [statements_bind, statements_ofShape, List.nil_append]
              split <;> rfl
          | cons => rfl

/-- The save of a node that is up to date changes nothing. It looks the node up and writes its
properties, and touches no label. -/
theorem saveNode_again (upToDate : store.graph.UpToDate id node properties)
    (written : node.properties = .ok properties) (textFields : node.HasTextFields) :
    (saveNode node properties).evaluate store = .ok ⟨id, false, ⟨[], [], []⟩⟩ store ∧
      (saveNode node properties).statements store =
        [.findByUid node.uid, .mergeNode id properties] := by
  obtain ⟨old, present, names, hold, _⟩ := upToDate.stored
  obtain ⟨stored, found, rfl, labels⟩ := evaluate_findNode?_readable upToDate.texts present names
    (hold.readable written textFields)
  have settled := LabelDiff.between_settled
    (fun label member => (labels label).mpr (upToDate.carried label member))
    (fun label member => upToDate.wanted label ((labels label).mp member))
  have inGraph : store.graph.hasNode stored.graphId = true := by
    have listed : (stored.graphId, old) ∈ store.graph.nodesWithUid (.str node.uid) := by
      simp [present]
    rw [Graph.hasNode_iff]
    exact List.mem_map_of_mem (Graph.mem_nodesWithUid.mp listed).1
  constructor
  · simp only [saveNode, evaluate_bind, found]
    rw [evaluate_updateNode node properties inGraph, settled, Store.withNode_settled upToDate]
  · have updates : (updateNode stored node properties).statements store =
        [.mergeNode stored.graphId properties] := by
      have merged : (runAll [.mergeNode stored.graphId properties]).statements store =
          [.mergeNode stored.graphId properties] := by
        simp only [runAll, statements, Statement.perform_mergeNode, if_pos inGraph]
      have nothing : runAll [] = Script.done () := rfl
      simp only [updateNode, settled, List.map_nil, List.append_nil, nothing]
      change (runAll [.mergeNode stored.graphId properties] >>= fun _ => _).statements store = _
      rw [statements_bind, merged]
      split <;> rfl
    simp only [saveNode, statements_bind, statements_findNode?, found, updates, List.cons_append,
      List.nil_append]

end Again

end Script

end ClusterGraph
