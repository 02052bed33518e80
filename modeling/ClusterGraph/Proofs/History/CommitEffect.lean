import ClusterGraph.Proofs.History.Evolution
import ClusterGraph.Proofs.Store.Soundness
import ClusterGraph.Proofs.Sync.NodeSaveEffect
import ClusterGraph.Proofs.Sync.RelationshipSaveEffect

namespace ClusterGraph

/-! What a commit makes of a sound store, table by table. -/

/-- All that a commit can do: make a node, bring a stored one up to date, or replace the
relationships of a stored one. -/
inductive Committed : Save → Store → Store → Prop where
  | created {node : Node} {properties : Entries Json} {store : Store}
      (written : node.properties = .ok properties)
      (absent : node.uid ∉ store.graph.nodes.map Graph.uid) :
      Committed (.upsert node) store (store.withNewNode node properties)
  | updated {node : Node} {properties : Entries Json} {store : Store} {id : String}
      {old : Properties} {stored : List Label} (written : node.properties = .ok properties)
      (present : (id, old) ∈ store.graph.nodes) (sameUid : Graph.uid (id, old) = node.uid)
      (read : ∀ label, label ∈ stored ↔
        ∃ labelId, (labelId, label.entity id) ∈ store.graph.labels) :
      Committed (.upsert node) store
        (store.withNode id properties (LabelDiff.between stored node.labels))
  | replaced {source : String} {descriptors : List Descriptor} {store : Store} {id : String}
      {old : Properties} (present : (id, old) ∈ store.graph.nodes)
      (sameUid : Graph.uid (id, old) = source) :
      Committed (.replace source descriptors) store
        (store.withRelationships id (store.graph.resolved descriptors))

theorem Save.committed {save : Save} {store after : Store} (sound : store.Sound)
    (effect : save.effect? store = some after) : Committed save store after := by
  cases save with
  | upsert node =>
      cases written : node.properties with
      | error failure => simp [effect?, written] at effect
      | ok properties =>
          simp only [effect?, written] at effect
          cases evaluated : (Script.saveNode node properties).evaluate store with
          | error failure failed => simp [evaluated] at effect
          | ok change saved =>
              rw [evaluated, Option.some.injEq] at effect
              subst effect
              rcases Script.evaluate_saveNode_ok evaluated with
                ⟨absent, _, rfl⟩ | ⟨id, old, row, stored, listed, rowListed, read, _, rfl⟩
              · exact .created written (sound.nodesWithUid_nil.mp absent)
              · have member : (id, old) ∈ store.graph.nodesWithUid (.str node.uid) := by
                  simp [listed]
                obtain ⟨present, sameUid⟩ := sound.uid_of_nodesWithUid member
                exact .updated written present sameUid
                  (Graph.labels_ofRecord sound.texts rowListed read)
  | replace source descriptors =>
      simp only [effect?] at effect
      cases evaluated : (Script.saveRelationships source descriptors).evaluate store with
      | error failure failed => simp [evaluated] at effect
      | ok edges saved =>
          rw [evaluated, Option.some.injEq] at effect
          subst effect
          obtain ⟨id, old, listed, _, _, rfl⟩ := Script.evaluate_saveRelationships_ok evaluated
          have member : (id, old) ∈ store.graph.nodesWithUid (.str source) := by simp [listed]
          obtain ⟨present, sameUid⟩ := sound.uid_of_nodesWithUid member
          exact .replaced present sameUid

namespace Store

variable {store : Store} {id : String} {node : Node} {properties : Entries Json}

theorem keys_freshLabels (owner : String) (number : Nat) (labels : List Label) :
    (freshLabels owner number labels).keys = (List.range' number labels.length).map labelId := by
  induction labels generalizing number with
  | nil => rfl
  | cons label rest ih =>
      simp only [freshLabels, Entries.keys, List.map_cons, List.length_cons, List.range'_succ]
      exact congrArg (labelId number :: ·) (ih (number + 1))

theorem values_freshLabels (owner : String) (number : Nat) (labels : List Label) :
    (freshLabels owner number labels).values = labels.map (·.entity owner) := by
  induction labels generalizing number with
  | nil => rfl
  | cons label rest ih => exact congrArg (label.entity owner :: ·) (ih (number + 1))

theorem keys_freshRelationships (source : String) (number : Nat)
    (resolved : List (Descriptor × String)) :
    (freshRelationships source number resolved).keys =
      (List.range' number resolved.length).map relationshipId := by
  induction resolved generalizing number with
  | nil => rfl
  | cons entry rest ih =>
      simp only [freshRelationships, Entries.keys, List.map_cons, List.length_cons,
        List.range'_succ]
      exact congrArg (relationshipId number :: ·) (ih (number + 1))

theorem values_freshRelationships (source : String) (number : Nat)
    (resolved : List (Descriptor × String)) :
    (freshRelationships source number resolved).values = resolved.map fun entry =>
      ⟨source, entry.2, .ofEntries (Statement.relationshipProperties entry.1)⟩ := by
  induction resolved generalizing number with
  | nil => rfl
  | cons entry rest ih => exact congrArg (_ :: ·) (ih (number + 1))

theorem nodes_withNewNode : (store.withNewNode node properties).graph.nodes =
    store.graph.nodes ++ [(nodeId store.nextId, .ofEntries properties)] := rfl

theorem labels_withNewNode : (store.withNewNode node properties).graph.labels =
    store.graph.labels ++
      freshLabels (nodeId store.nextId) (store.nextId + 1) (Label.normalize node.labels) := rfl

/-- All properties of a stored record are replaced. -/
theorem nodes_withNode (sound : store.Sound) (written : node.properties = .ok properties)
    (diff : LabelDiff) :
    (store.withNode id properties diff).graph.nodes =
      store.graph.nodes.map fun entry =>
        if entry.1 == id then (id, .ofEntries properties) else entry := by
  change (store.graph.nodes.map fun entry =>
    if entry.1 == id then (id, entry.2.insertAll (.ofEntries properties)) else entry) = _
  apply List.map_congr_left
  intro entry member
  obtain ⟨record, entries, recordWritten, isRecord⟩ := sound.records entry member
  have names : entries.keys = properties.keys := by
    rw [Node.properties_keys recordWritten, Node.properties_keys written]
  have distinct : properties.keys.Nodup := by
    rw [Node.properties_keys written]
    exact Node.propertyNames_nodup
  rw [isRecord, Properties.insertAll_sameNames names distinct]

theorem labels_withNode (diff : LabelDiff) :
    (store.withNode id properties diff).graph.labels =
      store.graph.labels.filter (keepsLabel id diff.removed) ++
        freshLabels id store.nextId (diff.added ++ diff.changed) := rfl

theorem relationships_withRelationships (resolved : List (Descriptor × String)) :
    (store.withRelationships id resolved).graph.relationships =
      store.graph.relationships.filter (·.2.source != id) ++
        freshRelationships id store.nextId resolved := rfl

/-- A stored label stays unless its node was saved without its key. -/
theorem keepsLabel_entity {stored fresh : List Label} {labelId owner : String} {label : Label}
    (read : owner = id → label ∈ stored) :
    keepsLabel id (LabelDiff.between stored fresh).removed (labelId, label.entity owner) = true ↔
      (owner = id → LabelDiff.hasKey fresh label.key = true) := by
  have removes : (LabelDiff.between stored fresh).removed.any
      (fun removed => (label.entity owner).key.equals (.str removed.key)) = true ↔
      LabelDiff.hasKey stored label.key = true ∧ LabelDiff.hasKey fresh label.key = false := by
    rw [← LabelDiff.key_removed, List.any_eq_true]
    simp only [Label.entity, Json.equals_str, beq_iff_eq]
    exact exists_congr fun removed => and_congr_right fun _ => eq_comm
  by_cases owned : owner = id
  · have storedKey : LabelDiff.hasKey stored label.key = true :=
      LabelDiff.hasKey_iff.mpr ⟨label, read owned, rfl⟩
    have kept : keepsLabel id (LabelDiff.between stored fresh).removed
        (labelId, label.entity owner) = !(LabelDiff.between stored fresh).removed.any
          fun removed => (label.entity owner).key.equals (.str removed.key) := by
      simp [keepsLabel, Label.entity, owned]
    rw [kept, Bool.not_eq_true', ← Bool.not_eq_true, removes]
    simp [storedKey, owned]
  · simp [keepsLabel, Label.entity, owned]

end Store

end ClusterGraph
