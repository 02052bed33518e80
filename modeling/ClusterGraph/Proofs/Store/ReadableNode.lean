import ClusterGraph.Projection
import ClusterGraph.Proofs.Json.ReadBack
import ClusterGraph.Proofs.Labels.StoredLabels
import ClusterGraph.Proofs.Store.Evaluation
import ClusterGraph.Proofs.Store.PropertyMerge
import ClusterGraph.Proofs.Store.StatementEffect
import ClusterGraph.Sync.Lookup

namespace ClusterGraph

/-! Stored nodes that can be read. What the projection of an object writes can be read back, and so
can whatever it is written over. -/

open Entries (Tells)

namespace Node

/-- The further fields are strings, if there are any. -/
def HasTextFields (node : Node) : Prop :=
  ∀ value, node.attributes = .tree value →
    ∃ fields : List (String × String), value = .obj (fields.map fun field => (field.1, .str field.2))

theorem hasTextFields_project (projector : Projector) (tree : Json) :
    (projector.project tree).HasTextFields := by
  intro value isTree
  obtain ⟨-, entries, taken, rfl⟩ := Projector.attributes_eq_tree.mp isTree
  unfold Projector.specFields? at taken
  split at taken
  · obtain ⟨texts, -, rfl⟩ := Option.map_eq_some_iff.mp taken
    exact ⟨texts.map fun text => ("spec_" ++ text.1, text.2), by simp⟩
  · cases taken
    exact ⟨[], rfl⟩

theorem attributesOfText_written (fields : List (String × String)) :
    ∃ attributes, attributesOfText (.str (Json.text .spaced
      (.obj (fields.map fun field => (field.1, .str field.2))))) = .ok attributes :=
  ⟨_, by rw [attributesOfText, Json.textOr, Json.Document.ofText_fields]; rfl⟩

variable {node : Node} {entries : Entries Json}

theorem ofRecord_readable (id : String) {properties attributes : Entries Json} {rows : List Json}
    {labels : List Label} (labelsRead : labelsOfRecord (.arr rows) = .ok labels)
    (attributesRead : attributesOfText ((properties.get? "additionalFields").getD .null) =
      .ok attributes) :
    ∃ node, ofRecord (.obj [("graph_id", .str id), ("props", .obj properties),
      ("labels", .arr rows)]) none = .ok node := by
  simp only [ofRecord, Json.entries?]
  change ∃ node, ((labelsOfRecord (.arr rows)).bind fun labels =>
    (entriesOf (.obj properties)).bind fun properties =>
    (attributesOfText ((properties.get? "additionalFields").getD .null)).bind fun attributes =>
    _) = .ok node
  simp only [labelsRead, entriesOf, Except.bind, attributesRead]
  exact ⟨_, rfl⟩

theorem ofRecord_unreadable (id : String) {properties : Entries Json} {rows : List Json}
    {labels : List Label} {shape : ShapeError}
    (labelsRead : labelsOfRecord (.arr rows) = .ok labels)
    (attributesRead : attributesOfText ((properties.get? "additionalFields").getD .null) =
      .error shape) :
    ofRecord (.obj [("graph_id", .str id), ("props", .obj properties), ("labels", .arr rows)])
      none = .error shape := by
  simp only [ofRecord, Json.entries?]
  change ((labelsOfRecord (.arr rows)).bind fun labels =>
    (entriesOf (.obj properties)).bind fun properties =>
    (attributesOfText ((properties.get? "additionalFields").getD .null)).bind fun attributes =>
    _) = .error shape
  simp only [labelsRead, entriesOf, Except.bind, attributesRead]

theorem uid_written (written : node.properties = .ok entries) :
    ("uid", .str node.uid) ∈ entries := by
  obtain ⟨stamp, attributes, rfl⟩ := properties_ok written
  simp [propertiesWith]

theorem name_written (written : node.properties = .ok entries) :
    ("name", .str node.name) ∈ entries := by
  obtain ⟨stamp, attributes, rfl⟩ := properties_ok written
  simp [propertiesWith]

theorem attributes_written (written : node.properties = .ok entries) :
    ∃ value, node.attributes = .tree value ∧
      ("additionalFields", .str (value.text .spaced)) ∈ entries := by
  unfold properties at written
  cases isTree : node.attributes with
  | unwritable | textless _ => simp [isTree, attributesText] at written
  | tree value =>
      refine ⟨value, rfl, ?_⟩
      cases told : value.textFault? with
      | some fault => cases fault <;> simp [isTree, attributesText, told] at written
      | none =>
          simp only [isTree, attributesText, told] at written
          cases stamped : stampText (fun reason => .graph (.unwritable node.uid reason))
              node.stamp with
          | error failure => simp [stamped, Except.map] at written
          | ok stamp =>
              simp only [stamped, Except.map, Except.ok.injEq] at written
              rw [← written]
              simp [propertiesWith]

theorem keys_nodup (written : node.properties = .ok entries) : entries.keys.Nodup := by
  rw [properties_keys written]
  exact propertyNames_nodup

end Node

namespace Properties

/-- The text of the further fields can be read. -/
def Readable (properties : Properties) : Prop :=
  ∃ text attributes, Tells properties (.str "additionalFields") (.str text) ∧
    Node.attributesOfText (.str text) = .ok attributes

/-- All entries are told. -/
def Hold (properties : Properties) (entries : Entries Json) : Prop :=
  ∀ entry ∈ entries, Tells properties (.str entry.1) entry.2

variable {properties : Properties} {node : Node} {entries : Entries Json}

theorem Hold.readable (hold : properties.Hold entries) (written : node.properties = .ok entries)
    (textFields : node.HasTextFields) : properties.Readable := by
  obtain ⟨value, isTree, member⟩ := Node.attributes_written written
  obtain ⟨fields, rfl⟩ := textFields value isTree
  obtain ⟨attributes, read⟩ := Node.attributesOfText_written fields
  exact ⟨_, attributes, hold _ member, read⟩

theorem hold_insertAll (properties : Properties) (distinct : entries.keys.Nodup) :
    (properties.insertAll (ofEntries entries)).Hold entries :=
  fun _ member => properties.tells_insertAll distinct member

theorem hold_ofEntries (distinct : entries.keys.Nodup) : (ofEntries entries).Hold entries := by
  have hold := hold_insertAll (ofEntries entries) distinct
  rwa [insertAll_sameNames rfl distinct] at hold

theorem Hold.insertAll (hold : properties.Hold entries) :
    properties.insertAll (ofEntries entries) = properties := by
  refine Entries.foldl_again Json.same (same_ofEntries entries) fun property member => ?_
  obtain ⟨entry, entryMember, rfl⟩ := List.mem_map.mp member
  exact hold entry entryMember

theorem hasTextNames_ofEntries (entries : Entries Json) : (ofEntries entries).HasTextNames := by
  intro property member
  obtain ⟨entry, _, rfl⟩ := List.mem_map.mp member
  exact ⟨entry.1, rfl⟩

theorem get?_entries_ofEntries (distinct : entries.keys.Nodup) {name : String} {value : Json}
    (member : (name, value) ∈ entries) : (ofEntries entries).entries.get? name = some value :=
  get?_entries_tells (hasTextNames_ofEntries entries) (hold_ofEntries distinct _ member)

theorem HasTextNames.insertAll (names : properties.HasTextNames) (entries : Entries Json) :
    (properties.insertAll (ofEntries entries)).HasTextNames := by
  induction entries generalizing properties with
  | nil => exact names
  | cons entry rest ih =>
      have inserted : (properties.insert (.str entry.1) entry.2).HasTextNames := by
        intro property member
        rcases (Entries.mem_insertBy fun _ => Json.same_str_iff).mp member with rfl | ⟨old, _⟩
        · exact ⟨entry.1, rfl⟩
        · exact names property old
      exact ih inserted

end Properties

namespace Graph

variable {graph : Graph} {id : String} {properties : Properties}

/-- A node whose labels are texts has a row, whatever its properties are. -/
theorem exists_nodeRow (texts : graph.HasTextLabels) (id : String) (properties : Properties) :
    ∃ rows labels, graph.nodeRow (id, properties) = .ok (.obj [("graph_id", .str id),
        ("props", .obj properties.entries), ("labels", .arr rows)]) ∧
      Node.labelsOfRecord (.arr rows) = .ok labels := by
  obtain ⟨listed, isListed, _⟩ := labelsOf_texts texts id
  refine ⟨(listed.map (·.entity id)).map labelRow, Label.normalize listed, ?_, ?_⟩
  · rw [nodeRow, isListed]
    rfl
  · rw [List.map_map]
    exact Node.labelsOfRecord_labelRows listed id

theorem nodeRow_readable (texts : graph.HasTextLabels) (id : String)
    (names : properties.HasTextNames) (readable : properties.Readable) :
    ∃ row stored, graph.nodeRow (id, properties) = .ok row ∧
      Node.ofRecord row none = .ok stored := by
  obtain ⟨rows, labels, listed, labelsRead⟩ := exists_nodeRow texts id properties
  obtain ⟨text, attributes, told, read⟩ := readable
  have fields := Properties.get?_entries_tells names told
  obtain ⟨stored, read⟩ := Node.ofRecord_readable id labelsRead (by rw [fields]; exact read)
  exact ⟨_, stored, listed, read⟩

end Graph

namespace Script

variable {store : Store} {uid id : String} {properties : Properties}

/-- The node in the only row of a statement is found as it is read. -/
theorem evaluate_findNode?_row {statement : Statement} {row : Json} {stored : Node}
    (performed : statement.perform store = .ok [row] store) (identifier : String)
    (read : Node.ofRecord row none = .ok stored) :
    (findNode? statement identifier).evaluate store = .ok (some stored) store := by
  simp only [findNode?, evaluate_bind, evaluate_query, performed, read, evaluate_ofShape_ok]
  rfl

theorem evaluate_findNode?_read {row : Json} {stored : Node}
    (present : store.graph.nodesWithUid (.str uid) = [(id, properties)])
    (listed : store.graph.nodeRow (id, properties) = .ok row)
    (read : Node.ofRecord row none = .ok stored) :
    (findNode? (.findByUid uid) uid).evaluate store = .ok (some stored) store :=
  evaluate_findNode?_row (Statement.perform_findByUid_single present listed) uid read

/-- The only node with a uid is found if it can be read, with the labels that it has. -/
theorem evaluate_findNode?_readable (texts : store.graph.HasTextLabels)
    (present : store.graph.nodesWithUid (.str uid) = [(id, properties)])
    (names : properties.HasTextNames) (readable : properties.Readable) :
    ∃ stored : Node, (findNode? (.findByUid uid) uid).evaluate store = .ok (some stored) store ∧
      stored.graphId = id ∧ ∀ label, label ∈ stored.labels ↔
        ∃ labelId, (labelId, label.entity id) ∈ store.graph.labels := by
  obtain ⟨row, stored, listed, read⟩ := Graph.nodeRow_readable texts id names readable
  exact ⟨stored, evaluate_findNode?_read present listed read,
    (Graph.ofRecord_nodeRow listed read).2, Graph.labels_ofRecord texts listed read⟩

end Script

end ClusterGraph
