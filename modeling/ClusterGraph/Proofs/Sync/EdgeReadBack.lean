import ClusterGraph.Proofs.History.CommitFrame
import ClusterGraph.Proofs.Store.RelationshipRows
import ClusterGraph.Proofs.Sync.ReadYourWrites
import Mathlib.Data.List.Perm.Basic

namespace ClusterGraph

/-! Reading back the edges of a node. The edges that a save tells about are the ones that are found
afterwards, in another order and with the names of the nodes that they lead to. -/

namespace Graph

/-- The text of a property of a node, which is empty if the node lacks it. -/
def textAt (graph : Graph) (id name : String) : String :=
  (((graph.nodes.get? id).bind (·.get? name)).getD (.str "")).displayFilled

/-- An edge with the name and the namespace that its target has in a graph. -/
def named (graph : Graph) (edge : Edge) : Edge :=
  { edge with
    targetName := graph.textAt edge.targetGraphId "name"
    targetNamespace := graph.textAt edge.targetGraphId "namespace" }

/-- The relationship has a row that tells an edge, with a place in the order of rows. -/
def Tells (graph : Graph) (entry : String × Relationship) (edge : Edge) : Prop :=
  ∃ row, graph.relationshipRow entry = .ok row ∧
    (∃ relationship target, rowKey row = .arr [.str relationship, .str target]) ∧
    Edge.ofRecord row = .ok edge

variable {graph : Graph} {source target : String} {descriptor : Descriptor}

theorem tells_fresh (stored : graph.hasNode target = true) (number : Nat) :
    graph.Tells
      (Store.relationshipId number,
        ⟨source, target, .ofEntries (Statement.relationshipProperties descriptor)⟩)
      (graph.named
        { relationship := descriptor.relationship
          targetType := descriptor.targetType
          targetGraphId := target
          targetUid := descriptor.targetUid
          graphId := Store.relationshipId number }) := by
  obtain ⟨node, isNode⟩ := Option.isSome_iff_exists.mp stored
  have relationship : required (.ofEntries (Statement.relationshipProperties descriptor))
      "relationshipType" = .ok (.str descriptor.relationship) := by
    rw [required, Properties.get?_ofEntries]
    rfl
  have targetType : required (.ofEntries (Statement.relationshipProperties descriptor))
      "targetResource" = .ok (.str descriptor.targetType) := by
    rw [required, Properties.get?_ofEntries]
    rfl
  have targetUid : ((Properties.ofEntries (Statement.relationshipProperties descriptor)).get?
      "targetUID").getD (.str "") = .str descriptor.targetUid := by
    rw [Properties.get?_ofEntries, Statement.relationshipProperties]
    cases byUid : descriptor.byUid with
    | true => rfl
    | false =>
        have empty : descriptor.targetUid = "" := by simpa [Descriptor.byUid] using byUid
        rw [empty]
        rfl
  have name (key : String) : graph.textAt target key =
      ((node.get? key).getD (.str "")).displayFilled := by
    rw [textAt, show graph.nodes.get? target = some node from isNode, Option.bind_some]
  refine ⟨.obj
      [("graph_id", .str (Store.relationshipId number)),
       ("relationship_type", .str descriptor.relationship),
       ("target_resource", .str descriptor.targetType),
       ("target_uid", .str descriptor.targetUid),
       ("target_graph_id", .str target),
       ("target_name", (node.get? "name").getD (.str "")),
       ("target_namespace", (node.get? "namespace").getD (.str ""))],
    ?_, ⟨descriptor.relationship, target, rfl⟩, ?_⟩
  · simp only [relationshipRow, isNode, relationship, targetType, targetUid]
    rfl
  · rw [named, name, name]
    change Except.ok (Edge.mk (Json.str _).displayFilled (Json.str _).displayFilled
      (Json.str _).displayFilled (Json.str _).displayFilled (Json.str _).displayFilled _ _) = _
    simp only [Json.displayFilled_str]
    rfl

/-- The relationships that a save makes tell its edges. -/
theorem tells_freshRelationships {resolved : List (Descriptor × String)}
    (stored : ∀ entry ∈ resolved, graph.hasNode entry.2 = true) (source : String) (number : Nat) :
    List.Forall₂ graph.Tells (Store.freshRelationships source number resolved)
      ((Store.freshEdges number resolved).map graph.named) := by
  induction resolved generalizing number with
  | nil => exact .nil
  | cons entry rest ih =>
      refine .cons (tells_fresh (stored entry (by simp)) number) (ih (fun other member => ?_) _)
      exact stored other (by simp [member])

/-- Relationships that tell edges are listed, and the edges are found in some order. -/
theorem relationshipRows_tell {id : String} {edges : List Edge}
    (tell : List.Forall₂ graph.Tells (graph.outgoing id) edges) :
    ∃ rows found, graph.relationshipRows id = .ok rows ∧ rows.mapM Edge.ofRecord = .ok found ∧
      found.Perm edges := by
  obtain ⟨rows, mapped, rowsTell⟩ := mapM_ok_of_forall₂ tell
  obtain ⟨keys, edgesRead⟩ := (List.forall₂_and_left rows edges).mp rowsTell
  obtain ⟨sorted, isSorted, permuted⟩ := Json.sortOn?_perm (Json.areOrdered_textPairs keys)
  obtain ⟨found, sortedRead, foundPermuted⟩ := List.perm_comp_forall₂ permuted edgesRead
  obtain ⟨others, read, same⟩ := mapM_ok_of_forall₂
    (sortedRead.imp fun row edge isRead => ⟨edge, isRead, rfl⟩)
  obtain rfl := List.forall₂_eq_eq_eq ▸ same
  refine ⟨sorted, others, ?_, read, foundPermuted⟩
  simp only [relationshipRows, mapped, bind, Except.bind, isSorted, ordered]

end Graph

namespace Action

theorem findEdges_calm {system : System} (calm : system.database.faults = []) {uid id : String}
    {properties : Properties} {rows : List Json} {edges : List Edge}
    (present : system.graph.nodesWithUid (.str uid) = [(id, properties)])
    (listed : system.graph.relationshipRows id = .ok rows)
    (read : rows.mapM Edge.ofRecord = .ok edges) :
    ∃ last, findEdges uid system = .ok edges last ∧
      last.database.store = system.database.store := by
  have evaluated : (do
      let sourceId ← Script.resolveUid uid
      Script.query (.findRelationships sourceId) : Script (List Json)).evaluate
        system.database.store = .ok rows system.database.store := by
    have sourceFound := Script.evaluate_resolveUid_present present
    have found := Statement.perform_findRelationships id system.database.store
    rw [show system.database.store.graph.relationshipRows id = .ok rows from listed] at found
    simp only [Script.evaluate_bind, sourceFound, Script.evaluate_query, found]
  obtain ⟨last, ran, isStore⟩ := transaction_calm calm evaluated
  refine ⟨last, ?_, isStore⟩
  change EStateM.bind (transaction _) readEdges system = _
  rw [EStateM.bind, ran]
  simp only [readEdges, read]
  rfl

end Action

end ClusterGraph
