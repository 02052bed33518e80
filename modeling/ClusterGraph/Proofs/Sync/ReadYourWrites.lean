import ClusterGraph.Proofs.Resync.Idempotence
import ClusterGraph.Proofs.Store.NodeReadBack
import ClusterGraph.Proofs.Store.RelationshipRows

namespace ClusterGraph

/-! Reading back what a sync wrote. The node of the object is found by its uid and told as it was
projected, whether the sync made it or wrote over a stored one. -/

namespace Store

variable {store : Store} {id : String} {node : Node} {properties : Entries Json}
  {stored : List Label} {label : Label}

/-- A node has its labels after a save, and those from before whose key stays. -/
theorem hasLabel_withNode_iff
    (read : ∀ label, label ∈ stored ↔ store.graph.HasLabel id label) :
    (store.withNode id properties (LabelDiff.between stored node.labels)).graph.HasLabel id label ↔
      label ∈ node.labels ∨
        store.graph.HasLabel id label ∧ LabelDiff.hasKey node.labels label.key = true := by
  constructor
  · rintro ⟨labelId, member⟩
    rcases (mem_labels_withNode read).mp member with ⟨before, keyStays⟩ | fresh
    · exact .inr ⟨⟨labelId, before⟩, keyStays rfl⟩
    · obtain ⟨_, found, foundMember, isEntity⟩ := mem_freshLabels fresh
      obtain rfl := Label.entity_injective isEntity
      exact .inl (LabelDiff.mem_written.mp foundMember).1
  · rintro (isNew | ⟨⟨labelId, before⟩, keyStays⟩)
    · exact hasLabel_withNode read isNew
    · exact ⟨labelId, (mem_labels_withNode read).mpr (.inl ⟨before, fun _ => keyStays⟩)⟩

theorem hasLabel_withNewNode_iff (wellFormed : store.WellFormed) :
    (store.withNewNode node properties).graph.HasLabel (nodeId store.nextId) label ↔
      label ∈ node.labels ∨ store.graph.HasLabel (nodeId store.nextId) label ∧
        LabelDiff.hasKey node.labels label.key = true := by
  have unowned : ¬ store.graph.HasLabel (nodeId store.nextId) label := fun ⟨_, member⟩ =>
    wellFormed.freshOwners store.nextId (Nat.le_refl _) _ member rfl
  constructor
  · rintro ⟨labelId, member⟩
    rw [labels_withNewNode, List.mem_append] at member
    rcases member with before | fresh
    · exact absurd ⟨labelId, before⟩ unowned
    · obtain ⟨_, found, foundMember, isEntity⟩ := mem_freshLabels fresh
      obtain rfl := Label.entity_injective isEntity
      exact .inl (Label.mem_normalize.mp foundMember)
  · rintro (isNew | ⟨before, _⟩)
    · exact hasLabel_withNewNode isNew
    · exact absurd before unowned

/-- The relationships that replace those of a node can be listed. -/
theorem listable_withRelationships (id : String) (descriptors : List Descriptor) :
    ∀ entry ∈ (store.withRelationships id (store.graph.resolved descriptors)).graph.outgoing id,
      (store.withRelationships id (store.graph.resolved descriptors)).graph.Listable entry.2 := by
  intro entry member
  rw [outgoing_withRelationships_same] at member
  have value := List.mem_map_of_mem (f := Prod.snd) member
  change entry.2 ∈ (freshRelationships id store.nextId _).values at value
  rw [values_freshRelationships] at value
  obtain ⟨resolved, resolvedMember, isEntry⟩ := List.mem_map.mp value
  rw [← isEntry]
  exact ⟨Graph.hasNode_resolve? (Graph.mem_resolved.mp resolvedMember).2, resolved.1, rfl⟩

end Store

theorem Script.hasLabel_saveNode {store after : Store} {node : Node} {properties : Entries Json}
    {change : NodeChange} (wellFormed : store.WellFormed)
    (evaluated : (saveNode node properties).evaluate store = .ok change after) (label : Label) :
    after.graph.HasLabel change.graphId label ↔ label ∈ node.labels ∨
      store.graph.HasLabel change.graphId label ∧
        LabelDiff.hasKey node.labels label.key = true := by
  rcases evaluate_saveNode_ok evaluated with
    ⟨absent, rfl, rfl⟩ | ⟨id, old, row, stored, present, listed, read, rfl, rfl⟩
  · exact Store.hasLabel_withNewNode_iff wellFormed
  · exact Store.hasLabel_withNode_iff (Graph.labels_ofRecord wellFormed.labels listed read)

namespace Graph

variable {graph : Graph} {id : String} {node : Node} {entries : Entries Json}

/-- A node that is up to date is read from its row as it was written, with the labels that it
has. -/
theorem UpToDate.exists_row (upToDate : graph.UpToDate id node entries)
    (written : node.properties = .ok entries) {fields : List (String × String)}
    (areFields : node.attributes = .tree (.obj (Node.textValues fields)))
    (distinct : (fields.map Prod.fst).Nodup) :
    ∃ properties row read, graph.nodesWithUid (.str node.uid) = [(id, properties)] ∧
      properties.Hold entries ∧ graph.nodeRow (id, properties) = .ok row ∧
      Node.ofRecord row none = .ok read ∧ read.IsReadBackOf node ∧ read.graphId = id ∧
      ∀ label, label ∈ read.labels ↔ graph.HasLabel id label := by
  obtain ⟨properties, present, names, hold, _⟩ := upToDate.stored
  obtain ⟨time, shifted, isStamp, shifts, rfl⟩ := Node.properties_written areFields written
  obtain ⟨labels, isListed, _⟩ := labelsOf_texts upToDate.texts id
  have labelsRead : Node.labelsOfRecord (.arr ((labels.map (·.entity id)).map labelRow)) =
      .ok (Label.normalize labels) := by
    rw [List.map_map]
    exact Node.labelsOfRecord_labelRows labels id
  have read := Node.ofRecord_written distinct (Calendar.Timestamp.toUtc_ok shifts).1
    (fun entry member => Properties.get?_entries_tells names (hold entry member)) labelsRead id
  have listed : graph.nodeRow (id, properties) = .ok (.obj [("graph_id", .str id),
      ("props", .obj properties.entries),
      ("labels", .arr ((labels.map (·.entity id)).map labelRow))]) := by
    rw [nodeRow, isListed]
    rfl
  exact ⟨properties, _, _, present, hold, listed, read,
    Node.isReadBackOf_readBack areFields isStamp shifts _ id, rfl,
    labels_ofRecord upToDate.texts listed read⟩

end Graph

namespace Action

theorem transaction_calm {α : Type} {system : System} (calm : system.database.faults = [])
    {script : Script α} {value : α} {store : Store}
    (evaluated : script.evaluate system.database.store = .ok value store) :
    ∃ last, transaction script system = .ok value last ∧ last.database.store = store := by
  have raising : Raising system.database.faults := by simp [calm, Raising]
  have ends := transaction_ends raising script
  generalize transaction script system = result at ends ⊢
  cases ends with
  | committed ended =>
      rw [evaluated] at ended
      cases ended
      exact ⟨_, rfl, rfl⟩
  | failed ended _ =>
      rw [evaluated] at ended
      cases ended
  | disturbed surfaces _ =>
      rw [calm] at surfaces
      exact absurd surfaces Surfaces.not_nil

/-- A node that is found in a row is told with its edges. -/
theorem findNode_calm {system : System} (calm : system.database.faults = []) {statement : Statement}
    {row : Json} (performed : statement.perform system.database.store =
      .ok [row] system.database.store) (identifier : String) {read : Node} {rows : List Json}
    {edges : List Edge} (nodeRead : Node.ofRecord row none = .ok read)
    (edgesListed : system.graph.relationshipRows read.graphId = .ok rows)
    (edgesRead : rows.mapM Edge.ofRecord = .ok edges) :
    ∃ last, findNode statement identifier system = .ok { read with edges } last ∧
      last.database.store = system.database.store := by
  have evaluated : (Script.findNode statement identifier).evaluate system.database.store =
      .ok (read, rows) system.database.store := by
    have found := Script.evaluate_findNode?_row performed identifier nodeRead
    have edgesFound := Statement.perform_findRelationships read.graphId system.database.store
    rw [show system.database.store.graph.relationshipRows read.graphId = .ok rows from edgesListed]
      at edgesFound
    simp only [Script.findNode, Script.evaluate_bind, found, Script.evaluate_query, edgesFound]
    rfl
  obtain ⟨last, ran, isStore⟩ := transaction_calm calm evaluated
  refine ⟨last, ?_, isStore⟩
  simp only [findNode, bind, EStateM.bind, ran, readEdges, edgesRead]
  rfl

theorem findByUid_calm {system : System} (calm : system.database.faults = []) {uid id : String}
    {properties : Properties} {row : Json} {read : Node} {rows : List Json} {edges : List Edge}
    (present : system.graph.nodesWithUid (.str uid) = [(id, properties)])
    (listed : system.graph.nodeRow (id, properties) = .ok row)
    (nodeRead : Node.ofRecord row none = .ok read)
    (edgesListed : system.graph.relationshipRows read.graphId = .ok rows)
    (edgesRead : rows.mapM Edge.ofRecord = .ok edges) :
    ∃ last, findByUid uid system = .ok { read with edges } last ∧
      last.database.store = system.database.store :=
  findNode_calm calm (Statement.perform_findByUid_single present listed) uid nodeRead edgesListed
    edgesRead

end Action

namespace Synchronizer

variable {synchronizer : Synchronizer} {tree : Json} {system last : System} {result : SyncResult}

/-- What is found of an object that was synced: its node as it was projected, under the graph id of
the sync. -/
structure ReadBack (projected : Node) (result : SyncResult) (before after : Graph) (read : Node) :
    Prop where
  node : read.IsReadBackOf projected
  graphId : read.graphId = result.graphId
  /-- The new labels, and those that were stored before whose key is still there. -/
  labels : ∀ label, label ∈ read.labels ↔ label ∈ projected.labels ∨
    before.HasLabel result.graphId label ∧ LabelDiff.hasKey projected.labels label.key = true
  /-- The properties of the node that is read are the ones that are stored. -/
  properties : ∃ entries stored, read.properties = .ok entries ∧
    after.nodesWithUid (.str projected.uid) = [(result.graphId, stored)] ∧ stored.Hold entries

/-- What is written of an object with distinct fields are texts under distinct names. -/
theorem attributes_fields {projector : Projector} {entries : Entries Json}
    (distinct : ∀ entries : Entries Json, tree.get? "spec" = some (.obj entries) → entries.keys.Nodup)
    (written : (projector.project tree).properties = .ok entries) :
    ∃ fields : List (String × String),
      (projector.project tree).attributes = .tree (.obj (Node.textValues fields)) ∧
      (fields.map Prod.fst).Nodup := by
  obtain ⟨value, isTree, -⟩ := Node.attributes_written written
  obtain ⟨-, fields, taken, rfl⟩ := Projector.attributes_eq_tree.mp isTree
  rw [isTree]
  unfold Projector.specFields? at taken
  cases spec : (tree.get? "spec").bind Json.entries? with
  | none =>
      rw [spec] at taken
      cases taken
      exact ⟨[], rfl, List.nodup_nil⟩
  | some entries =>
      rw [spec] at taken
      obtain ⟨texts, told, rfl⟩ := Option.map_eq_some_iff.mp taken
      have isObject : tree.get? "spec" = some (.obj entries) := by
        obtain ⟨value, isSpec, isObject⟩ := Option.bind_eq_some_iff.mp spec
        cases value with
        | obj others => cases isObject; exact isSpec
        | null | bool _ | int _ | float _ | str _ | arr _ => cases isObject
      refine ⟨texts.map fun text => ("spec_" ++ text.1, text.2), ?_, ?_⟩
      · simp [Node.textValues]
      · have names : ((texts.map fun text => ("spec_" ++ text.1, text.2)).map Prod.fst) =
            entries.keys.map ("spec_" ++ ·) := by
          rw [← Json.keys_of_fieldTexts? told]
          simp [Entries.keys]
        rw [names]
        exact (distinct entries isObject).map fun _ _ same => String.append_right_inj _ |>.mp same

/-- After a sync without faults the node of the object is found by its uid and told as it was
projected. A sync that ends well met at most one node with that uid. -/
theorem sync_readBack (wellFormed : system.database.store.WellFormed)
    (calm : system.database.faults = [])
    (known : (synchronizer.projector.project tree).uid.isEmpty = false)
    (distinct : ∀ entries : Entries Json, tree.get? "spec" = some (.obj entries) → entries.keys.Nodup)
    (ran : synchronizer.sync tree system = .ok result last) :
    ∃ read final, Action.findByUid (synchronizer.projector.project tree).uid last =
        .ok read final ∧
      ReadBack (synchronizer.projector.project tree) result system.graph last.graph read := by
  obtain ⟨entries, change, saved, edges, ⟨written, nodeSaved, relationshipsSaved⟩, rfl, quiet⟩ :=
    sync_committed known calm ran
  have upToDate := Script.saveNode_upToDate wellFormed written nodeSaved
  have labels := Script.hasLabel_saveNode wellFormed nodeSaved
  obtain ⟨fields, areFields, fieldsDistinct⟩ := attributes_fields distinct written
  obtain ⟨_, present, _⟩ := upToDate.stored
  obtain ⟨id, found, source, _, _, isLast⟩ :=
    Script.evaluate_saveRelationships_ok relationshipsSaved
  obtain ⟨rfl, _⟩ : change.graphId = id ∧ _ := by simpa [present] using source
  generalize isResolved : saved.graph.resolved (synchronizer.rules.derive tree) = resolved
    at isLast
  have stillUpToDate : last.graph.UpToDate change.graphId (synchronizer.projector.project tree)
      entries := by
    rw [System.graph, isLast]
    exact ⟨upToDate.stored, upToDate.texts, upToDate.carried, upToDate.wanted⟩
  have sameLabels : last.graph.labels = saved.graph.labels := by
    rw [System.graph, isLast]
    rfl
  obtain ⟨stored, row, read, found, hold, listed, nodeRead, isReadBack, isId, readLabels⟩ :=
    stillUpToDate.exists_row written areFields fieldsDistinct
  have listable : ∀ entry ∈ last.graph.outgoing change.graphId, last.graph.Listable entry.2 := by
    rw [System.graph, isLast, ← isResolved]
    exact Store.listable_withRelationships _ _
  obtain ⟨rows, readEdges, edgesListed, edgesRead⟩ := Graph.relationshipRows_listable listable
  rw [← isId] at edgesListed
  obtain ⟨final, finds, _⟩ := Action.findByUid_calm quiet found listed nodeRead edgesListed edgesRead
  refine ⟨_, final, finds, isReadBack.withEdges readEdges, isId, fun label => ?_,
    entries, stored, ?_, found, hold⟩
  · have kept : last.graph.HasLabel change.graphId label ↔
        saved.graph.HasLabel change.graphId label := by
      rw [Graph.HasLabel, sameLabels, Graph.HasLabel]
    exact (readLabels label).trans (kept.trans (labels label))
  · rw [(isReadBack.withEdges readEdges).properties, written]

def placedPod : Json :=
  .obj [("apiVersion", .str "v1"), ("kind", .str "Pod"),
    ("metadata", .obj [("uid", .str "pod"), ("name", .str "web"),
      ("labels", .obj [("app", .str "new")])]),
    ("spec", .obj [("nodeName", .str "machine")])]

/-- The pod is read back with its machine, and with both values of the label: the stored one stays,
as its key does. -/
theorem sync_readBack_placedPod :
    ∃ result last read final, ofOwners.sync placedPod outdated = .ok result last ∧
      Action.findByUid "pod" last = .ok read final ∧
      ReadBack (ofOwners.projector.project placedPod) result outdated.graph last.graph read ∧
      read.machine = "machine" ∧ ⟨"app", "old"⟩ ∈ read.labels ∧ ⟨"app", "new"⟩ ∈ read.labels := by
  have succeeds : (match ofOwners.sync placedPod outdated with
      | .ok result _ => result.graphId == Store.nodeId 1
      | .error _ _ => false) = true := by
    decide +kernel
  have projected : (ofOwners.projector.project placedPod).labels = [⟨"app", "new"⟩] ∧
      (ofOwners.projector.project placedPod).machine = "machine" := by
    decide +kernel
  have distinct : ∀ entries : Entries Json, placedPod.get? "spec" = some (.obj entries) →
      entries.keys.Nodup := by
    intro entries same
    cases same
    decide
  cases ran : ofOwners.sync placedPod outdated with
  | error failure last => simp [ran] at succeeds
  | ok result last =>
      obtain ⟨read, final, found, readBack⟩ :=
        sync_readBack wellFormed_outdated rfl (by decide +kernel) distinct ran
      have isId : result.graphId = Store.nodeId 1 := by simpa [ran] using succeeds
      have wasStored : outdated.graph.HasLabel result.graphId ⟨"app", "old"⟩ := by
        rw [isId]
        exact ⟨Store.labelId 2, List.mem_singleton.mpr rfl⟩
      refine ⟨result, last, read, final, rfl, found, readBack, ?_, ?_, ?_⟩
      · rw [readBack.node.machine, projected.2]
      · refine (readBack.labels _).mpr (.inr ⟨wasStored, ?_⟩)
        rw [projected.1]
        decide
      · refine (readBack.labels _).mpr (.inl ?_)
        rw [projected.1]
        exact List.mem_singleton.mpr rfl

end Synchronizer

end ClusterGraph
