import ClusterGraph.Proofs.Store.Endurance
import ClusterGraph.Proofs.Store.ReadableNode
import ClusterGraph.Proofs.Store.Soundness
import ClusterGraph.Proofs.Sync.SyncEndings

namespace ClusterGraph

/-! Syncs under faults of every kind, silence among them. Whatever is left undone, every stored node
can be read and every look-up has an order, so that a sync that fails does so with a failure of the
graph or with what a fault brings. -/

namespace Graph

/-- The node is stored as the record of an object whose further fields are texts. -/
def IsLegible (node : String × Properties) : Prop :=
  ∃ (record : Node) (entries : Entries Json), record.properties = .ok entries ∧
    record.HasTextFields ∧ node.2 = .ofEntries entries

theorem IsLegible.isRecord {node : String × Properties} (legible : IsLegible node) :
    IsRecord node := by
  obtain ⟨record, entries, written, _, isRecord⟩ := legible
  exact ⟨record, entries, written, isRecord⟩

theorem IsLegible.readable {node : String × Properties} (legible : IsLegible node) :
    node.2.Readable := by
  obtain ⟨record, entries, written, textFields, isRecord⟩ := legible
  rw [isRecord]
  exact (Properties.hold_ofEntries (Node.keys_nodup written)).readable written textFields

/-- All that the graph holds of nodes and labels can be read. Uids may be there several times, as a
look-up that was left undone finds nothing. -/
structure Legible (graph : Graph) : Prop where
  nodes : ∀ node ∈ graph.nodes, IsLegible node
  labels : graph.HasTextLabels

variable {graph : Graph}

theorem legible_empty : Legible {} :=
  ⟨by simp, by simp [HasTextLabels]⟩

namespace Legible

theorem hasTextUids (legible : graph.Legible) : graph.HasTextUids := fun node member =>
  ⟨uid node, uidKey_of_property (legible.nodes node member).isRecord.property_uid⟩

/-- Every node can be listed and read back. -/
theorem exists_row (legible : graph.Legible) {node : String × Properties}
    (member : node ∈ graph.nodes) :
    ∃ row stored, graph.nodeRow node = .ok row ∧ Node.ofRecord row none = .ok stored ∧
      stored.graphId = node.1 := by
  obtain ⟨id, properties⟩ := node
  have readable := (legible.nodes _ member).readable
  obtain ⟨record, entries, written, isRecord⟩ := (legible.nodes _ member).isRecord
  obtain rfl : properties = .ofEntries entries := isRecord
  obtain ⟨row, stored, listed, read⟩ := nodeRow_readable legible.labels id
    (Properties.hasTextNames_ofEntries entries) readable
  exact ⟨row, stored, listed, read, (ofRecord_nodeRow listed read).2⟩

/-- Some nodes of the graph can be listed together, each with a row that can be read. -/
theorem exists_rows (legible : graph.Legible) {nodes : Entries Properties}
    (among : ∀ node ∈ nodes, node ∈ graph.nodes) :
    ∃ rows, nodes.mapM graph.nodeRow = .ok rows ∧
      ∀ row ∈ rows, ∃ stored, Node.ofRecord row none = .ok stored ∧
        graph.hasNode stored.graphId = true := by
  refine mapM_ok_of_forall fun node nodeMember => ?_
  obtain ⟨row, stored, listed, read, isId⟩ := legible.exists_row (among node nodeMember)
  refine ⟨row, listed, stored, read, ?_⟩
  rw [hasNode_iff, isId]
  exact List.mem_map_of_mem (among node nodeMember)

theorem addNode (legible : graph.Legible) {node : Node} {entries : Entries Json}
    (written : node.properties = .ok entries) (textFields : node.HasTextFields) (id : String) :
    (graph.addNode id (.ofEntries entries)).Legible := by
  refine ⟨fun stored member => ?_, legible.labels⟩
  rcases List.mem_append.mp member with old | new
  · exact legible.nodes stored old
  · obtain rfl := List.mem_singleton.mp new
    exact ⟨node, entries, written, textFields, rfl⟩

theorem mergeNode (legible : graph.Legible) {node : Node} {entries : Entries Json}
    (written : node.properties = .ok entries) (textFields : node.HasTextFields) (id : String) :
    (graph.mergeNode id (.ofEntries entries)).Legible := by
  refine ⟨fun stored member => ?_, legible.labels⟩
  obtain ⟨before, beforeMember, rfl⟩ := List.mem_map.mp member
  split
  · obtain ⟨record, old, oldWritten, _, isRecord⟩ := legible.nodes before beforeMember
    have names : old.keys = entries.keys := by
      rw [Node.properties_keys oldWritten, Node.properties_keys written]
    refine ⟨node, entries, written, textFields, ?_⟩
    change before.2.insertAll (.ofEntries entries) = .ofEntries entries
    rw [isRecord, Properties.insertAll_sameNames names (Node.keys_nodup written)]
  · exact legible.nodes before beforeMember

theorem addLabel (legible : graph.Legible) (id owner : String) (label : Label) :
    (graph.addLabel id (label.entity owner)).Legible := by
  refine ⟨legible.nodes, fun entry member => ?_⟩
  rcases List.mem_append.mp member with old | new
  · exact legible.labels entry old
  · obtain rfl := List.mem_singleton.mp new
    exact ⟨label, rfl⟩

theorem deleteLabel (legible : graph.Legible) (owner : String) (key : Json) :
    (graph.deleteLabel owner key).Legible :=
  ⟨legible.nodes, fun entry member => legible.labels entry (List.mem_filter.mp member).1⟩

end Legible

end Graph

namespace Script

variable {store : Store} {node : Node} {properties : Entries Json}

theorem firstGraphId?_idRow (id : String) (others : List Json) :
    firstGraphId? (Graph.idRow id :: others) = .done (some id) := by
  have read : graphIdOf (Graph.idRow id) = .done id := by
    change ofShape (.ok (Json.str id).display) = _
    rw [Json.display_str]
    rfl
  rw [firstGraphId?, read]
  rfl

theorem endures_findNode? (legible : store.graph.Legible) (uid : String) :
    (findNode? (.findByUid uid) uid).Endures (fun found after => after = store ∧
      ∀ stored, found = some stored → store.graph.hasNode stored.graphId = true) store := by
  have among : ∀ node ∈ store.graph.nodesWithUid (.str uid), node ∈ store.graph.nodes :=
    fun node member => (Graph.mem_nodesWithUid.mp member).1
  obtain ⟨rows, mapped, readable⟩ := legible.exists_rows among
  refine ⟨⟨rfl, fun _ found => by cases found⟩, rows, store, by rw [Statement.perform_findByUid, mapped], ?_⟩
  match rows, readable with
  | [], _ => exact ⟨rfl, fun _ found => by cases found⟩
  | [row], readable =>
      obtain ⟨stored, read, inGraph⟩ := readable row (by simp)
      refine (endures_ofShape (fun found after => found = stored ∧ after = store) read
        ⟨rfl, rfl⟩).bind ?_
      rintro found after ⟨rfl, rfl⟩
      refine ⟨rfl, fun other same => ?_⟩
      cases same
      exact inGraph
  | _ :: _ :: _, _ => exact ⟨_, rfl⟩

/-- A store in which everything can be read and a node is stored. -/
def Holds (id : String) (store : Store) : Prop :=
  store.graph.Legible ∧ store.graph.hasNode id = true

theorem performs_addLabel (id : String) (label : Label) (holds : Holds id store) :
    ∃ rows after, (Statement.addLabel id label).perform store = .ok rows after ∧
      Holds id after := by
  refine ⟨_, _, Statement.perform_addLabel id label store, ?_⟩
  rw [if_pos holds.2]
  exact ⟨holds.1.addLabel _ id label, holds.2⟩

theorem performs_deleteLabel (id : String) (label : Label) (holds : Holds id store) :
    ∃ rows after, (Statement.deleteLabel id label).perform store = .ok rows after ∧
      Holds id after :=
  ⟨_, _, Statement.perform_deleteLabel id label store, holds.1.deleteLabel _ _, holds.2⟩

theorem endures_createNode (legible : store.graph.Legible)
    (written : node.properties = .ok properties) (textFields : node.HasTextFields) :
    (createNode node properties).Endures (fun _ after => after.graph.Legible) store := by
  have holds : Holds (Store.nodeId store.nextId) (store.createNode (.ofEntries properties)).2 := by
    refine ⟨legible.addNode written textFields _, ?_⟩
    rw [Graph.hasNode_iff]
    change Store.nodeId store.nextId ∈
      (store.graph.addNode (Store.nodeId store.nextId) (.ofEntries properties)).nodes.keys
    simp [Graph.keys_addNode]
  refine (endures_query (fun rows after => rows = [] ∨
      rows = [Graph.idRow (Store.nodeId store.nextId)] ∧ Holds (Store.nodeId store.nextId) after)
    (Statement.perform_createNode properties store) (.inl rfl) (.inr ⟨rfl, holds⟩)).bind ?_
  rintro rows after (rfl | ⟨rfl, holds⟩)
  · exact ⟨_, rfl⟩
  · rw [firstGraphId?_idRow]
    refine (endures_runAll (Holds _) ?_ holds).bind fun _ after holds => holds.1
    intro statement member store holds
    obtain ⟨label, _, rfl⟩ := List.mem_map.mp member
    exact performs_addLabel _ label holds

theorem endures_updateNode {stored : Node} (holds : Holds stored.graphId store)
    (written : node.properties = .ok properties) (textFields : node.HasTextFields) :
    (updateNode stored node properties).Endures (fun _ after => after.graph.Legible) store := by
  refine (endures_runAll (Holds _) ?_ holds).bind fun _ after holds =>
    (endures_runAll (Holds _) ?_ holds).bind fun _ after holds =>
      (endures_runAll (Holds _) ?_ holds).bind fun _ after holds => holds.1
  · intro statement member store holds
    obtain ⟨label, _, rfl⟩ := List.mem_map.mp member
    exact performs_deleteLabel _ label holds
  · intro statement member store holds
    obtain ⟨label, _, rfl⟩ := List.mem_map.mp member
    exact performs_addLabel _ label holds
  · intro statement member store holds
    obtain rfl := List.mem_singleton.mp member
    refine ⟨_, _, by rw [Statement.perform_mergeNode, if_pos holds.2],
      holds.1.mergeNode written textFields _, ?_⟩
    rw [Graph.hasNode_iff]
    change _ ∈ (store.graph.mergeNode stored.graphId (.ofEntries properties)).nodes.keys
    rw [Graph.keys_mergeNode]
    exact Graph.hasNode_iff.mp holds.2

theorem endures_saveNode (legible : store.graph.Legible)
    (written : node.properties = .ok properties) (textFields : node.HasTextFields) :
    (saveNode node properties).Endures (fun _ after => after.graph.Legible) store := by
  refine (endures_findNode? legible node.uid).bind ?_
  rintro found after ⟨rfl, inGraph⟩
  cases found with
  | none => exact endures_createNode legible written textFields
  | some stored => exact endures_updateNode ⟨legible, inGraph stored rfl⟩ written textFields

/-- A look-up that left the store alone and found a stored node, if it found one. -/
def Found (store : Store) (found : Option String) (after : Store) : Prop :=
  after = store ∧ ∀ id, found = some id → store.graph.hasNode id = true

/-- Rows that name stored nodes. -/
def NameNodes (store : Store) (rows : List Json) (after : Store) : Prop :=
  after = store ∧ ∃ nodes : Entries Properties, (∀ node ∈ nodes, node ∈ store.graph.nodes) ∧
    rows = nodes.map fun node => Graph.idRow node.1

theorem NameNodes.nil (store : Store) : NameNodes store [] store :=
  ⟨rfl, [], by simp, rfl⟩

theorem NameNodes.endures {rows : List Json} {after : Store} (named : NameNodes store rows after) :
    (firstGraphId? rows).Endures (Found store) after := by
  obtain ⟨rfl, nodes, among, rfl⟩ := named
  cases nodes with
  | nil => exact ⟨rfl, fun _ found => by cases found⟩
  | cons node rest =>
      rw [List.map_cons, firstGraphId?_idRow]
      refine ⟨rfl, fun id same => ?_⟩
      cases same
      rw [Graph.hasNode_iff]
      exact List.mem_map_of_mem (among node List.mem_cons_self)

theorem endures_resolveUid? (uid : String) (store : Store) :
    (resolveUid? uid).Endures (Found store) store := by
  refine (endures_query (NameNodes store) (Statement.perform_resolveUid uid store)
    (.nil store) ⟨rfl, _, fun node member => (Graph.mem_nodesWithUid.mp member).1, rfl⟩).bind ?_
  intro rows after named
  split
  · exact ⟨_, rfl⟩
  · exact named.endures

theorem endures_resolveUid (uid : String) (store : Store) :
    (resolveUid uid).Endures (fun id after => after = store ∧ store.graph.hasNode id = true)
      store := by
  refine (endures_resolveUid? uid store).bind ?_
  rintro found after ⟨rfl, inGraph⟩
  cases found with
  | none => exact ⟨_, rfl⟩
  | some id => exact ⟨rfl, inGraph id rfl⟩

theorem endures_resolveTarget? (texts : store.graph.HasTextUids) (descriptor : Descriptor) :
    (resolveTarget? descriptor).Endures (Found store) store := by
  unfold resolveTarget?
  split
  · exact endures_resolveUid? descriptor.targetUid store
  · split
    · exact ⟨rfl, fun _ found => by cases found⟩
    · obtain ⟨sorted, isSorted, _, found⟩ :=
        Json.find?_sortOn? texts (Statement.names descriptor)
      refine (endures_query (NameNodes store)
        (Statement.perform_resolveName descriptor store isSorted) (.nil store) ?_).bind
          fun rows after named => named.endures
      refine ⟨rfl, _, ?_, rfl⟩
      intro node member
      obtain ⟨_, earlier, later, split, _⟩ := found node (Option.mem_toList.mp member)
      rw [split]
      simp

theorem endures_resolveTargets (texts : store.graph.HasTextUids) (source : String)
    (descriptors : List Descriptor) :
    (resolveTargets source descriptors).Endures (fun resolved after => after = store ∧
      ∀ entry ∈ resolved, store.graph.hasNode entry.2 = true) store := by
  induction descriptors with
  | nil => exact ⟨rfl, by simp⟩
  | cons descriptor rest ih =>
      refine (endures_resolveTarget? texts descriptor).bind ?_
      rintro found after ⟨rfl, inGraph⟩
      cases found with
      | none => exact ih
      | some id =>
          refine Endures.bind ih ?_
          rintro resolved after ⟨rfl, others⟩
          refine ⟨rfl, ?_⟩
          intro entry member
          rcases List.mem_cons.mp member with rfl | later
          · exact inGraph id rfl
          · exact others entry later

/-- Two stores that differ at most in their relationships and in the ids used up. -/
def SameNodes (store after : Store) : Prop :=
  after.graph.nodes = store.graph.nodes ∧ after.graph.labels = store.graph.labels

theorem SameNodes.hasNode {after : Store} (same : SameNodes store after) (id : String) :
    after.graph.hasNode id = store.graph.hasNode id := by
  simp only [Graph.hasNode, same.1]

theorem endures_createEdges {source : String} {resolved : List (Descriptor × String)}
    {after : Store} (same : SameNodes store after) (sourceStored : store.graph.hasNode source = true)
    (targetsStored : ∀ entry ∈ resolved, store.graph.hasNode entry.2 = true) :
    (createEdges source resolved).Endures (fun _ => SameNodes store) after := by
  induction resolved generalizing after with
  | nil => exact same
  | cons entry rest ih =>
      obtain ⟨descriptor, target⟩ := entry
      have performed := Statement.perform_createRelationship source target descriptor after
        (by rw [same.hasNode, sourceStored])
        (by rw [same.hasNode, targetsStored (descriptor, target) (by simp)])
      refine (endures_query (fun rows after => SameNodes store after ∧
        (rows = [] ∨ ∃ id, rows = [Graph.idRow id])) performed ⟨same, .inl rfl⟩
          ⟨same, .inr ⟨_, rfl⟩⟩).bind ?_
      rintro rows after ⟨same, isEmpty | ⟨id, isRow⟩⟩
      · subst isEmpty
        exact (ih same fun other member => targetsStored other (by simp [member])).bind
          fun _ _ same => same
      · subst isRow
        rw [firstGraphId?_idRow]
        exact (ih same fun other member => targetsStored other (by simp [member])).bind
          fun _ _ same => same

theorem endures_saveRelationships (legible : store.graph.Legible) (source : String)
    (descriptors : List Descriptor) :
    (saveRelationships source descriptors).Endures (fun _ after => after.graph.Legible) store := by
  refine (endures_resolveUid source store).bind ?_
  rintro id after ⟨rfl, sourceStored⟩
  refine (endures_resolveTargets legible.hasTextUids source descriptors).bind ?_
  rintro resolved after ⟨rfl, targetsStored⟩
  refine (endures_runAll (SameNodes after) ?_ ⟨rfl, rfl⟩).bind fun _ middle same =>
    (endures_createEdges same sourceStored targetsStored).mono ?_
  · intro statement member store same
    obtain rfl := List.mem_singleton.mp member
    exact ⟨_, _, Statement.perform_deleteRelationships id store, same⟩
  · intro _ last same
    refine ⟨?_, ?_⟩
    · rw [same.1]
      exact legible.nodes
    · unfold Graph.HasTextLabels
      rw [same.2]
      exact legible.labels

end Script

namespace Action

variable {α β : Type} {own : Failure → Prop}

/-- The action leaves everything legible, and it fails as is foreseen or in a way of its own. -/
def Endures (own : Failure → Prop) (action : Action α) : Prop :=
  ∀ system : System, system.graph.Legible →
    (after action system).graph.Legible ∧
      ∀ failure last, action system = .error failure last →
        Foreseen system.database.faults failure ∨ own failure

theorem Endures.bind {action : Action α} {next : α → Action β} (first : Endures own action)
    (precedes : Advances System.Precedes action) (second : ∀ value, Endures own (next value)) :
    Endures own (action >>= next) := by
  intro system legible
  have start := first system legible
  have left := precedes system
  change (after (EStateM.bind action next) system).graph.Legible ∧ ∀ failure last,
    EStateM.bind action next system = .error failure last → _
  simp only [after, EStateM.bind] at start left ⊢
  cases ran : action system with
  | ok value middle =>
      simp only [ran] at start left ⊢
      obtain ⟨kept, fails⟩ := second value middle start.1
      exact ⟨kept, fun failure last ended =>
        (fails failure last ended).imp left.faults.foreseen id⟩
  | error failure middle =>
      simp only [ran] at start ⊢
      refine ⟨start.1, fun other last ended => ?_⟩
      cases ended
      exact start.2 failure middle rfl

/-- An action that cannot fail and leaves the database alone. -/
theorem endures_quiet {action : Action α} (quiet : ∀ system, ∃ value last,
    action system = .ok value last ∧ last.database = system.database) : Endures own action := by
  intro system legible
  obtain ⟨value, last, ran, same⟩ := quiet system
  rw [after_ok ran]
  refine ⟨?_, fun failure last ended => ?_⟩
  · rw [System.graph, same]
    exact legible
  · rw [ran] at ended
    cases ended

theorem endures_transaction {script : Script α}
    (endures : ∀ store : Store, store.graph.Legible →
      script.Endures (fun _ after => after.graph.Legible) store) :
    Endures own (transaction script) := by
  intro system legible
  obtain ⟨fits, fails⟩ := transaction_endures (endures system.database.store legible)
  refine ⟨?_, fun failure last ended => .inl (fails failure last ended).1⟩
  cases ran : transaction script system with
  | ok value last =>
      rw [after_ok ran]
      exact fits value last ran
  | error failure last =>
      rw [after_error ran, (fails failure last ran).2]
      exact legible

theorem endures_saveNode {node : Node} (textFields : node.HasTextFields) :
    Endures (fun failure => node.properties = .error failure) (saveNode node) := by
  unfold saveNode
  cases written : node.properties with
  | error failure =>
      intro system legible
      refine ⟨legible, fun _ _ ended => .inr ?_⟩
      cases ended
      rfl
  | ok properties =>
      refine (endures_transaction fun store legible =>
        Script.endures_saveNode legible written textFields).bind (transaction_precedes _)
          fun change => endures_quiet fun system => ?_
      obtain ⟨last, reported, same, _⟩ := reportNode_ok node change system
      simp only [bind, EStateM.bind, reported]
      exact ⟨_, _, rfl, same⟩

theorem endures_saveRelationships (source : String) (descriptors : List Descriptor) :
    Endures own (saveRelationships source descriptors) := by
  refine (endures_transaction fun store legible =>
    Script.endures_saveRelationships legible source descriptors).bind (transaction_precedes _)
      fun edges => endures_quiet fun system => ?_
  obtain ⟨last, reported, same, _⟩ :=
    reportRelationships_ok source descriptors.length edges system
  simp only [bind, EStateM.bind, reported]
  exact ⟨_, _, rfl, same⟩

end Action

/-- Whatever the object and the faults are, a sync leaves everything legible, and it fails as is
foreseen or because its reading of the clock cannot be written. -/
theorem Synchronizer.endures_sync (synchronizer : Synchronizer) (tree : Json) :
    Action.Endures (fun failure => (synchronizer.projector.project tree).properties =
      .error failure) (synchronizer.sync tree) := by
  intro system legible
  cases known : (synchronizer.projector.project tree).uid.isEmpty with
  | true =>
      refine ⟨?_, fun failure last ended => ?_⟩
      · rw [(synchronizer.sync_skipped known system).graph]
        exact legible
      · cases told : (synchronizer.projector.project tree).textFault? with
        | some fault =>
            rw [sync_textless told] at ended
            cases ended
            exact .inr (Node.properties_textless told)
        | none =>
            rw [sync_unknown told known] at ended
            cases ended
  | false =>
      have saves : Action.Endures (fun failure => (synchronizer.projector.project tree).properties =
          .error failure) (synchronizer.save (synchronizer.projector.project tree) tree) :=
        (Action.endures_saveNode (Node.hasTextFields_project _ tree)).bind
          (Action.saveNode_precedes _) fun stored =>
            (Action.endures_saveRelationships stored.uid _).bind
              (Action.saveRelationships_precedes _ _) fun _ =>
                Action.endures_quiet fun system => ⟨_, system, rfl, rfl⟩
      obtain ⟨kept, fails⟩ := saves system legible
      have reported := synchronizer.sync_reported known system
      simp only [Action.after] at kept ⊢
      generalize synchronizer.sync tree system = result at reported ⊢
      cases saved : synchronizer.save (synchronizer.projector.project tree) tree system with
      | ok value middle =>
          simp only [saved] at kept reported
          cases reported with
          | ok reports =>
              refine ⟨?_, fun _ _ ended => by cases ended⟩
              rw [reports.graph]
              exact kept
      | error failure middle =>
          simp only [saved] at kept reported
          cases reported with
          | error reports =>
              refine ⟨?_, fun _ _ ended => ?_⟩
              · rw [reports.graph]
                exact kept
              · cases ended
                exact fails failure middle saved

end ClusterGraph
