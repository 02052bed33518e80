import ClusterGraph.Proofs.Labels.StoredLabels
import ClusterGraph.Proofs.Store.Evaluation
import ClusterGraph.Proofs.Store.GraphNodes
import ClusterGraph.Proofs.Store.StatementEffect
import ClusterGraph.Sync.NodeSave

namespace ClusterGraph

/-! What the save of a node does to a store without faults: it adds a node with its labels, or
changes the properties of the stored node and the labels that differ. -/

namespace Store

/-- New labels of a node, with ids from a number on. -/
def freshLabels (owner : String) : Nat → List Label → Entries LabelEntity
  | _, [] => []
  | number, label :: rest =>
      (labelId number, label.entity owner) :: freshLabels owner (number + 1) rest

def createLabels (owner : String) (labels : List Label) (store : Store) : Store :=
  { graph := { store.graph with
      labels := store.graph.labels ++ freshLabels owner store.nextId labels }
    nextId := store.nextId + labels.length }

theorem createLabels_cons (owner : String) (label : Label) (rest : List Label) (store : Store) :
    createLabels owner (label :: rest) store =
      createLabels owner rest (store.createLabel (label.entity owner)) := by
  simp only [createLabels, freshLabels, createLabel, takeId, onGraph, Graph.addLabel,
    List.append_assoc, List.singleton_append, List.length_cons, mk.injEq, true_and]
  omega

theorem mem_freshLabels {owner : String} {number : Nat} {labels : List Label}
    {entry : String × LabelEntity} (member : entry ∈ freshLabels owner number labels) :
    (∃ used, number ≤ used ∧ used < number + labels.length ∧ entry.1 = labelId used) ∧
      ∃ label ∈ labels, entry.2 = label.entity owner := by
  induction labels generalizing number with
  | nil => simp [freshLabels] at member
  | cons label rest ih =>
      rcases List.mem_cons.mp member with rfl | later
      · exact ⟨⟨number, Nat.le_refl _, by simp, rfl⟩, label, by simp, rfl⟩
      · obtain ⟨⟨used, low, high, isId⟩, found, foundMember, isEntity⟩ := ih later
        refine ⟨⟨used, by omega, ?_, isId⟩, found, by simp [foundMember], isEntity⟩
        simp only [List.length_cons]
        omega

theorem exists_freshLabel (owner : String) (number : Nat) {labels : List Label} {label : Label}
    (member : label ∈ labels) :
    ∃ id, (id, label.entity owner) ∈ freshLabels owner number labels := by
  induction labels generalizing number with
  | nil => simp at member
  | cons first rest ih =>
      rcases List.mem_cons.mp member with rfl | later
      · exact ⟨labelId number, by simp [freshLabels]⟩
      · obtain ⟨id, found⟩ := ih (number + 1) later
        exact ⟨id, List.mem_cons_of_mem _ found⟩

/-- Whether a difference leaves a stored label in place. -/
def keepsLabel (id : String) (removed : List Label) (entry : String × LabelEntity) : Bool :=
  !(entry.2.owner == id && removed.any fun label => entry.2.key.equals (.str label.key))

def deleteLabels (id : String) (removed : List Label) (store : Store) : Store :=
  store.onGraph fun graph => { graph with labels := graph.labels.filter (keepsLabel id removed) }

theorem deleteLabels_cons (id : String) (label : Label) (rest : List Label) (store : Store) :
    deleteLabels id (label :: rest) store =
      deleteLabels id rest (store.onGraph (·.deleteLabel id (.str label.key))) := by
  simp only [deleteLabels, onGraph, Graph.deleteLabel, List.filter_filter]
  congr 3
  funext entry
  simp only [keepsLabel, List.any_cons]
  cases entry.2.owner == id <;> cases entry.2.key.equals (.str label.key) <;> simp

/-- The store after a node was made. -/
def withNewNode (node : Node) (properties : Entries Json) (store : Store) : Store :=
  createLabels (nodeId store.nextId) (Label.normalize node.labels)
    (store.createNode (.ofEntries properties)).2

/-- The store after a stored node was brought up to date. -/
def withNode (id : String) (properties : Entries Json) (diff : LabelDiff) (store : Store) : Store :=
  (createLabels id (diff.added ++ diff.changed) (deleteLabels id diff.removed store)).onGraph
    (·.mergeNode id (.ofEntries properties))

end Store

namespace Script

theorem mapM_length {α β ε : Type} {f : α → Except ε β} {values : List α} {results : List β}
    (mapped : values.mapM f = .ok results) : results.length = values.length := by
  induction values generalizing results with
  | nil =>
      cases mapped
      rfl
  | cons value rest ih =>
      rw [List.mapM_cons] at mapped
      cases first : f value with
      | error reason =>
          rw [first] at mapped
          cases mapped
      | ok result =>
          cases others : rest.mapM f with
          | error reason =>
              rw [first, others] at mapped
              cases mapped
          | ok tail =>
              rw [first, others] at mapped
              cases mapped
              simp only [List.length_cons, ih others]

theorem evaluate_addLabels {store : Store} {owner : String} (labels : List Label)
    (stored : store.graph.hasNode owner = true) :
    (runAll (labels.map (.addLabel owner))).evaluate store =
      .ok () (store.createLabels owner labels) := by
  induction labels generalizing store with
  | nil => simp [runAll, evaluate, Store.createLabels, Store.freshLabels]
  | cons label rest ih =>
      simp only [List.map_cons, runAll, evaluate, Statement.perform_addLabel, stored, if_true]
      rw [Store.createLabels_cons]
      exact ih stored

theorem evaluate_deleteLabels (store : Store) (owner : String) (labels : List Label) :
    (runAll (labels.map (.deleteLabel owner))).evaluate store =
      .ok () (store.deleteLabels owner labels) := by
  induction labels generalizing store with
  | nil =>
      have kept : store.graph.labels.filter (Store.keepsLabel owner []) = store.graph.labels :=
        List.filter_eq_self.mpr fun entry _ => by simp [Store.keepsLabel]
      simp only [List.map_nil, runAll, evaluate, Store.deleteLabels, Store.onGraph, kept]
  | cons label rest ih =>
      simp only [List.map_cons, runAll, evaluate, Statement.perform_deleteLabel]
      rw [Store.deleteLabels_cons]
      exact ih _

theorem evaluate_firstGraphId (id : String) (others : List Json) (store : Store) :
    (firstGraphId? (Graph.idRow id :: others)).evaluate store = .ok (some id) store := by
  have read : (graphIdOf (Graph.idRow id)).evaluate store = .ok (Json.str id).display store := rfl
  simp only [firstGraphId?, evaluate_bind, read, Json.display_str]
  rfl

theorem evaluate_createNode (node : Node) (properties : Entries Json) (store : Store) :
    (createNode node properties).evaluate store =
      .ok ⟨Store.nodeId store.nextId, true, ⟨Label.normalize node.labels, [], []⟩⟩
        (store.withNewNode node properties) := by
  have stored : (store.createNode (.ofEntries properties)).2.graph.hasNode
      (Store.nodeId store.nextId) = true := by
    rw [Graph.hasNode_iff]
    change Store.nodeId store.nextId ∈
      (store.graph.addNode (Store.nodeId store.nextId) (.ofEntries properties)).nodes.keys
    simp [Graph.keys_addNode]
  have id : (store.createNode (.ofEntries properties)).1 = Store.nodeId store.nextId := rfl
  simp only [createNode, evaluate_bind, evaluate_query, Statement.perform_createNode,
    evaluate_firstGraphId, id, evaluate_addLabels _ stored, evaluate_pure]
  rfl

theorem evaluate_updateNode {store : Store} {stored : Node} (node : Node)
    (properties : Entries Json) (present : store.graph.hasNode stored.graphId = true) :
    (updateNode stored node properties).evaluate store =
      .ok ⟨stored.graphId, false, LabelDiff.between stored.labels node.labels⟩
        (store.withNode stored.graphId properties
          (LabelDiff.between stored.labels node.labels)) := by
  have deleted : (store.deleteLabels stored.graphId
      (LabelDiff.between stored.labels node.labels).removed).graph.hasNode stored.graphId = true :=
    present
  have written (labels : List Label) : (Store.createLabels stored.graphId labels
      (store.deleteLabels stored.graphId
        (LabelDiff.between stored.labels node.labels).removed)).graph.hasNode
          stored.graphId = true := present
  simp only [updateNode, evaluate_bind, evaluate_deleteLabels, evaluate_addLabels _ deleted]
  simp only [runAll, evaluate, Statement.perform_mergeNode, written, if_true, evaluate_pure]
  rfl

variable {store : Store} {node : Node} {properties : Entries Json}

theorem evaluate_saveNode_absent (absent : store.graph.nodesWithUid (.str node.uid) = []) :
    (saveNode node properties).evaluate store =
      .ok ⟨Store.nodeId store.nextId, true, ⟨Label.normalize node.labels, [], []⟩⟩
        (store.withNewNode node properties) := by
  have searched : (findNode? (.findByUid node.uid) node.uid).evaluate store = .ok none store := by
    simp only [findNode?, evaluate_bind, evaluate_query, Statement.perform_findByUid, absent]
    rfl
  simp only [saveNode, evaluate_bind, searched, evaluate_createNode]

section Present

variable {id : String} {old : Properties} {row : Json}

/-- A stored node that is read is brought up to date. -/
theorem evaluate_saveNode_read {stored : Node} (properties : Entries Json)
    (present : store.graph.nodesWithUid (.str node.uid) = [(id, old)])
    (listed : store.graph.nodeRow (id, old) = .ok row) (read : Node.ofRecord row none = .ok stored) :
    (saveNode node properties).evaluate store =
      .ok ⟨id, false, LabelDiff.between stored.labels node.labels⟩
        (store.withNode id properties (LabelDiff.between stored.labels node.labels)) := by
  have inGraph : store.graph.hasNode id = true := by
    rw [Graph.hasNode_iff]
    have member : (id, old) ∈ store.graph.nodesWithUid (.str node.uid) := by simp [present]
    exact List.mem_map_of_mem (Graph.mem_nodesWithUid.mp member).1
  have storedId := (Graph.ofRecord_nodeRow listed read).2
  have searched : (findNode? (.findByUid node.uid) node.uid).evaluate store =
      .ok (some stored) store := by
    simp only [findNode?, evaluate_bind, evaluate_query,
      Statement.perform_findByUid_single present listed, read, evaluate_ofShape_ok]
    rfl
  simp only [saveNode, evaluate_bind, searched]
  rw [evaluate_updateNode node properties (by rw [storedId]; exact inGraph), storedId]

/-- A stored node that cannot be read ends the save. -/
theorem evaluate_saveNode_unread {shape : ShapeError} (properties : Entries Json)
    (present : store.graph.nodesWithUid (.str node.uid) = [(id, old)])
    (listed : store.graph.nodeRow (id, old) = .ok row)
    (unread : Node.ofRecord row none = .error shape) :
    (saveNode node properties).evaluate store = .error (.shape shape) store := by
  simp only [saveNode, findNode?, evaluate_bind, evaluate_query,
    Statement.perform_findByUid_single present listed, unread, evaluate_ofShape_error]

/-- A stored node is read before it is changed, and reading may fail. -/
theorem evaluate_saveNode_present (properties : Entries Json)
    (present : store.graph.nodesWithUid (.str node.uid) = [(id, old)]) :
    (∃ row stored, store.graph.nodeRow (id, old) = .ok row ∧
      Node.ofRecord row none = .ok stored ∧
      (saveNode node properties).evaluate store =
        .ok ⟨id, false, LabelDiff.between stored.labels node.labels⟩
          (store.withNode id properties (LabelDiff.between stored.labels node.labels))) ∨
      ∃ shape, (saveNode node properties).evaluate store = .error (.shape shape) store := by
  cases listed : store.graph.nodeRow (id, old) with
  | error shape =>
      right
      refine ⟨shape, ?_⟩
      have rows : [(id, old)].mapM store.graph.nodeRow = .error shape := by
        rw [List.mapM_cons, listed]
        rfl
      simp only [saveNode, findNode?, evaluate_bind, evaluate_query, Statement.perform_findByUid,
        present, rows]
  | ok row =>
      cases read : Node.ofRecord row none with
      | error shape => exact .inr ⟨shape, evaluate_saveNode_unread properties present listed read⟩
      | ok stored =>
          exact .inl ⟨row, stored, rfl, read,
            evaluate_saveNode_read properties present listed read⟩

end Present

/-- Several nodes with the uid that can be listed end the save. -/
theorem evaluate_saveNode_listed (properties : Entries Json) {rows : List Json}
    (listed : (store.graph.nodesWithUid (.str node.uid)).mapM store.graph.nodeRow = .ok rows)
    (several : 1 < (store.graph.nodesWithUid (.str node.uid)).length) :
    (saveNode node properties).evaluate store =
      .error (.graph (.ambiguous node.uid rows.length)) store := by
  have length := mapM_length listed
  match rows, length with
  | [], length => simp at length; omega
  | [_], length => simp at length; omega
  | _ :: _ :: _, _ =>
      simp only [saveNode, findNode?, evaluate_bind, evaluate_query,
        Statement.perform_findByUid, listed]
      rfl

theorem evaluate_saveNode_ambiguous (properties : Entries Json)
    (several : 1 < (store.graph.nodesWithUid (.str node.uid)).length) :
    ∃ failure, (saveNode node properties).evaluate store = .error failure store := by
  cases listed : (store.graph.nodesWithUid (.str node.uid)).mapM store.graph.nodeRow with
  | error shape =>
      refine ⟨.shape shape, ?_⟩
      simp only [saveNode, findNode?, evaluate_bind, evaluate_query, Statement.perform_findByUid,
        listed]
  | ok rows => exact ⟨_, evaluate_saveNode_listed properties listed several⟩

/-- A save that succeeds made a node or brought the only one with its uid up to date. -/
theorem evaluate_saveNode_ok {change : NodeChange} {after : Store}
    (evaluated : (saveNode node properties).evaluate store = .ok change after) :
    store.graph.nodesWithUid (.str node.uid) = [] ∧
        change = ⟨Store.nodeId store.nextId, true, ⟨Label.normalize node.labels, [], []⟩⟩ ∧
        after = store.withNewNode node properties ∨
      ∃ id old row stored, store.graph.nodesWithUid (.str node.uid) = [(id, old)] ∧
        store.graph.nodeRow (id, old) = .ok row ∧ Node.ofRecord row none = .ok stored ∧
        change = ⟨id, false, LabelDiff.between stored.labels node.labels⟩ ∧
        after = store.withNode id properties (LabelDiff.between stored.labels node.labels) := by
  match listed : store.graph.nodesWithUid (.str node.uid) with
  | [] =>
      rw [evaluate_saveNode_absent listed] at evaluated
      cases evaluated
      exact .inl ⟨rfl, rfl, rfl⟩
  | [(id, old)] =>
      rcases evaluate_saveNode_present properties listed with
        ⟨row, stored, rowListed, read, updated⟩ | ⟨shape, failed⟩
      · rw [updated] at evaluated
        cases evaluated
        exact .inr ⟨id, old, row, stored, rfl, rowListed, read, rfl, rfl⟩
      · rw [failed] at evaluated
        cases evaluated
  | first :: second :: rest =>
      have several : 1 < (store.graph.nodesWithUid (.str node.uid)).length := by simp [listed]
      obtain ⟨failure, failed⟩ := evaluate_saveNode_ambiguous properties several
      rw [failed] at evaluated
      cases evaluated

/-- The save of a node touches no relationship, and tells the id of a stored node. -/
theorem saveNode_stored {change : NodeChange} {after : Store}
    (evaluated : (saveNode node properties).evaluate store = .ok change after) :
    after.graph.relationships = store.graph.relationships ∧
      after.graph.hasNode change.graphId = true := by
  rcases evaluate_saveNode_ok evaluated with
    ⟨_, rfl, rfl⟩ | ⟨id, old, row, stored, listed, _, _, rfl, rfl⟩
  · refine ⟨rfl, ?_⟩
    rw [Graph.hasNode_iff]
    change Store.nodeId store.nextId ∈
      (store.graph.addNode (Store.nodeId store.nextId) (.ofEntries properties)).nodes.keys
    simp [Graph.keys_addNode]
  · refine ⟨rfl, ?_⟩
    have member : (id, old) ∈ store.graph.nodesWithUid (.str node.uid) := by simp [listed]
    rw [Graph.hasNode_iff]
    change id ∈ (store.graph.mergeNode id (.ofEntries properties)).nodes.keys
    rw [Graph.keys_mergeNode]
    exact List.mem_map_of_mem (Graph.mem_nodesWithUid.mp member).1

end Script

end ClusterGraph
