import ClusterGraph.Proofs.Store.NodeProperties
import ClusterGraph.Proofs.Store.StatementEffect
import ClusterGraph.Store.Record

namespace ClusterGraph

/-! Listing the relationships of a node. Those that were made for descriptors, with targets that are
still stored, have an order and are read back as edges. -/

namespace Graph

/-- The relationship was made for a descriptor, and its target is stored. -/
def Listable (graph : Graph) (relationship : Relationship) : Prop :=
  graph.hasNode relationship.target = true ∧
    ∃ descriptor, relationship.properties = .ofEntries (Statement.relationshipProperties descriptor)

/-- The row tells an edge and has its place in the order of rows. -/
def TellsEdge (row : Json) : Prop :=
  (∃ edge, Edge.ofRecord row = .ok edge) ∧
    ∃ relationship target, rowKey row = .arr [.str relationship, .str target]

variable {graph : Graph}

theorem relationshipRow_listable {entry : String × Relationship}
    (listable : graph.Listable entry.2) :
    ∃ row, graph.relationshipRow entry = .ok row ∧ TellsEdge row := by
  obtain ⟨stored, descriptor, made⟩ := listable
  obtain ⟨target, isTarget⟩ := Option.isSome_iff_exists.mp stored
  have relationship : required entry.2.properties "relationshipType" =
      .ok (.str descriptor.relationship) := by
    rw [required, made, Properties.get?_ofEntries]
    rfl
  have targetType : required entry.2.properties "targetResource" =
      .ok (.str descriptor.targetType) := by
    rw [required, made, Properties.get?_ofEntries]
    rfl
  simp only [relationshipRow, isTarget, relationship, targetType]
  exact ⟨_, rfl, ⟨_, rfl⟩, _, _, rfl⟩

theorem relationshipRows_listable {id : String}
    (listable : ∀ entry ∈ graph.outgoing id, graph.Listable entry.2) :
    ∃ rows edges, graph.relationshipRows id = .ok rows ∧ rows.mapM Edge.ofRecord = .ok edges := by
  obtain ⟨rows, mapped, tell⟩ := mapM_ok_of_forall fun entry member =>
    relationshipRow_listable (listable entry member)
  obtain ⟨sorted, isSorted, permuted⟩ := Json.sortOn?_perm
    (Json.areOrdered_textPairs fun row member => (tell row member).2)
  have readable : ∀ row ∈ sorted, ∃ edge, Edge.ofRecord row = .ok edge ∧ True := by
    intro row member
    obtain ⟨edge, read⟩ := (tell row (permuted.mem_iff.mp member)).1
    exact ⟨edge, read, trivial⟩
  obtain ⟨edges, read, _⟩ := mapM_ok_of_forall readable
  refine ⟨sorted, edges, ?_, read⟩
  simp only [relationshipRows, mapped, bind, Except.bind, isSorted, ordered]

end Graph

end ClusterGraph
