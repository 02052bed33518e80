import ClusterGraph.Proofs.Json.TextOrder
import ClusterGraph.Proofs.Labels.Difference
import ClusterGraph.Store.Interpreter
import ClusterGraph.Store.Record
import Mathlib.Data.Set.List

namespace ClusterGraph

/-! Reading the labels of a stored node. Labels that are stored as texts are read back as they
are. -/

/-- The entity that a label of a node is stored as. -/
def Label.entity (label : Label) (owner : String) : LabelEntity :=
  ⟨owner, .str label.key, .str label.value⟩

theorem Label.entity_injective {left right : Label} {owner : String}
    (same : left.entity owner = right.entity owner) : left = right := by
  obtain ⟨leftKey, leftValue⟩ := left
  obtain ⟨rightKey, rightValue⟩ := right
  simpa [entity] using same

namespace Node

theorem labelOfItem?_labelRow (label : Label) (owner : String) :
    labelOfItem? (Graph.labelRow (label.entity owner)) = .ok (some label) := by
  have read : labelOfItem? (Graph.labelRow (label.entity owner)) =
      .ok (some ⟨(Json.str label.key).display, (Json.str label.value).displayFilled⟩) := rfl
  rw [read, Json.display_str, Json.displayFilled_str]

theorem labelsOfRecord_labelRows (labels : List Label) (owner : String) :
    labelsOfRecord (.arr (labels.map fun label => Graph.labelRow (label.entity owner))) =
      .ok (Label.normalize labels) := by
  have items : (labels.map fun label => Graph.labelRow (label.entity owner)).mapM labelOfItem? =
      .ok (labels.map some) := by
    induction labels with
    | nil => rfl
    | cons label rest ih =>
        rw [List.map_cons, List.mapM_cons, labelOfItem?_labelRow, ih]
        rfl
  simp only [labelsOfRecord, itemsOf, Json.elements?, bind, Except.bind, items]
  simp [pure, Except.pure, List.filterMap_map]

theorem ofRecord_ok {id : String} {properties : Entries Json} {rows : List Json} {node : Node}
    (read : ofRecord (.obj [("graph_id", .str id), ("props", .obj properties),
      ("labels", .arr rows)]) none = .ok node) :
    labelsOfRecord (.arr rows) = .ok node.labels ∧ node.graphId = id := by
  simp only [ofRecord, Json.entries?] at read
  change ((labelsOfRecord (.arr rows)).bind fun labels =>
    (entriesOf (.obj properties)).bind fun properties =>
    (attributesOfText ((properties.get? "additionalFields").getD .null)).bind fun attributes =>
    _) = .ok node at read
  cases labelsRead : labelsOfRecord (.arr rows) with
  | error shape => simp [labelsRead, Except.bind] at read
  | ok labels =>
      simp only [labelsRead, entriesOf, Except.bind] at read
      cases attributesRead : attributesOfText
          ((properties.get? "additionalFields").getD .null) with
      | error shape => simp [attributesRead] at read
      | ok attributes =>
          simp only [attributesRead] at read
          cases read
          exact ⟨rfl, Json.displayFilled_str id⟩

end Node

namespace Graph

/-- All labels of a graph are stored as texts. -/
def HasTextLabels (graph : Graph) : Prop :=
  ∀ entry ∈ graph.labels, ∃ label : Label, entry.2 = label.entity entry.2.owner

variable {graph : Graph} {id : String}

theorem mem_ownedLabels {entry : String × LabelEntity} :
    entry ∈ graph.ownedLabels id ↔ entry ∈ graph.labels ∧ entry.2.owner = id := by
  simp [ownedLabels]

/-- Labels that are texts have an order, so that they can be listed. -/
theorem labelsOf_texts (texts : graph.HasTextLabels) (id : String) :
    ∃ listed : List Label, graph.labelsOf id = some (listed.map (·.entity id)) ∧
      ∀ label, label ∈ listed ↔ ∃ labelId, (labelId, label.entity id) ∈ graph.labels := by
  have owned : ∀ entity ∈ (graph.ownedLabels id).values, ∃ label : Label,
      entity = label.entity id := by
    intro entity member
    obtain ⟨entry, entryMember, rfl⟩ := List.mem_map.mp member
    obtain ⟨inGraph, owner⟩ := mem_ownedLabels.mp entryMember
    obtain ⟨label, same⟩ := texts entry inGraph
    exact ⟨label, by rw [same, owner]⟩
  have pairs : ∀ entity ∈ (graph.ownedLabels id).values, ∃ first second,
      Json.arr [entity.key, entity.value] = .arr [.str first, .str second] := by
    intro entity member
    obtain ⟨label, rfl⟩ := owned entity member
    exact ⟨label.key, label.value, rfl⟩
  obtain ⟨sorted, isSorted, permuted⟩ := Json.sortOn?_perm (Json.areOrdered_textPairs pairs)
  have sortedOwned : ∀ entity ∈ sorted, ∃ label : Label, label.entity id = entity := by
    intro entity member
    obtain ⟨label, same⟩ := owned entity (permuted.mem_iff.mp member)
    exact ⟨label, same.symm⟩
  obtain ⟨listed, isListed⟩ :
      sorted ∈ Set.range (List.map fun label : Label => label.entity id) := by
    rw [Set.range_list_map]
    exact sortedOwned
  refine ⟨listed, by rw [isListed]; exact isSorted, fun label => ?_⟩
  have inSorted : label ∈ listed ↔ label.entity id ∈ sorted := by
    rw [← isListed]
    constructor
    · exact List.mem_map_of_mem
    · intro member
      obtain ⟨other, otherMember, same⟩ := List.mem_map.mp member
      rwa [← Label.entity_injective same]
  rw [inSorted, permuted.mem_iff]
  constructor
  · intro member
    obtain ⟨entry, entryMember, same⟩ := List.mem_map.mp member
    exact ⟨entry.1, by rw [← same]; exact (mem_ownedLabels.mp entryMember).1⟩
  · rintro ⟨labelId, member⟩
    exact List.mem_map.mpr ⟨_, mem_ownedLabels.mpr ⟨member, rfl⟩, rfl⟩

/-- What is read back of a stored node: its id and its labels. -/
theorem ofRecord_nodeRow {properties : Properties} {row : Json} {node : Node}
    (listed : graph.nodeRow (id, properties) = .ok row) (read : Node.ofRecord row none = .ok node) :
    (∃ labels, graph.labelsOf id = some labels ∧
      Node.labelsOfRecord (.arr (labels.map labelRow)) = .ok node.labels) ∧ node.graphId = id := by
  unfold nodeRow at listed
  cases sorted : graph.labelsOf id with
  | none => simp [sorted, ordered, bind, Except.bind] at listed
  | some labels =>
      simp only [sorted, ordered, bind, Except.bind, pure, Except.pure, Except.ok.injEq] at listed
      subst listed
      obtain ⟨labelsRead, isId⟩ := Node.ofRecord_ok read
      exact ⟨⟨labels, rfl, labelsRead⟩, isId⟩

/-- Labels that are texts are read back as they are stored. -/
theorem labels_ofRecord (texts : graph.HasTextLabels) {properties : Properties} {row : Json}
    {node : Node} (listed : graph.nodeRow (id, properties) = .ok row)
    (read : Node.ofRecord row none = .ok node) (label : Label) :
    label ∈ node.labels ↔ ∃ labelId, (labelId, label.entity id) ∈ graph.labels := by
  obtain ⟨⟨labels, sorted, labelsRead⟩, _⟩ := ofRecord_nodeRow listed read
  obtain ⟨stored, isStored, members⟩ := labelsOf_texts texts id
  rw [isStored, Option.some.injEq] at sorted
  subst sorted
  rw [List.map_map] at labelsRead
  have normalized := (Node.labelsOfRecord_labelRows stored id).symm.trans labelsRead
  rw [Except.ok.injEq] at normalized
  rw [← normalized, Label.mem_normalize, members]

end Graph

end ClusterGraph
