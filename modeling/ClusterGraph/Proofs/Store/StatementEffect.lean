import ClusterGraph.Store.Interpreter
import ClusterGraph.Proofs.Json.TextOrder

namespace ClusterGraph

/-! What each statement of the program does to a store. Every statement that the program builds
names all of its parameters, so only look-ups can fail, by values without an order. -/

/-- Results for all values, each with a property, are the results of a run over the values. -/
theorem mapM_ok_of_forall {α β ε : Type} {f : α → Except ε β} {fits : β → Prop} {values : List α}
    (each : ∀ value ∈ values, ∃ result, f value = .ok result ∧ fits result) :
    ∃ results, values.mapM f = .ok results ∧ ∀ result ∈ results, fits result := by
  induction values with
  | nil => exact ⟨[], rfl, by simp⟩
  | cons value rest ih =>
      obtain ⟨result, first, firstFits⟩ := each value List.mem_cons_self
      obtain ⟨results, others, othersFit⟩ := ih fun other member =>
        each other (List.mem_cons_of_mem _ member)
      refine ⟨result :: results, ?_, fun other member => ?_⟩
      · rw [List.mapM_cons, first, others]
        rfl
      · rcases List.mem_cons.mp member with rfl | later
        · exact firstFits
        · exact othersFit other later

/-- The same where each result fits a value of another list. -/
theorem mapM_ok_of_forall₂ {α β γ ε : Type} {f : α → Except ε β} {fits : β → γ → Prop}
    {values : List α} {others : List γ}
    (each : List.Forall₂ (fun value other => ∃ result, f value = .ok result ∧ fits result other)
      values others) :
    ∃ results, values.mapM f = .ok results ∧ List.Forall₂ fits results others := by
  induction each with
  | nil => exact ⟨[], rfl, .nil⟩
  | cons head _ ih =>
      obtain ⟨result, first, firstFits⟩ := head
      obtain ⟨results, later, laterFit⟩ := ih
      refine ⟨result :: results, ?_, .cons firstFits laterFit⟩
      rw [List.mapM_cons, first, later]
      rfl

namespace Store

variable {α : Type}

theorem get_bind (next : Store → Change α) (store : Store) :
    ((get : Change Store) >>= next) store = next store store := rfl

theorem lift_bind (value : Json) (next : Json → Change α) (store : Store) :
    ((liftM (Except.ok value : Except ShapeError Json) : Change Json) >>= next) store =
      next value store := rfl

/-- Makes a relationship and tells its id. -/
def createRelationship (store : Store) (relationship : Relationship) : String × Store :=
  let (id, store) := store.takeId relationshipId
  (id, store.onGraph (·.addRelationship id relationship))

end Store

namespace Statement

variable {α : Type}

theorem parameterFor_present {statement : Statement} {name : String} (value : Json)
    (present : statement.parameters.get? name = some value) (values : List α) :
    statement.parameterFor values name = .ok (if values.isEmpty then .null else value) := by
  simp only [parameterFor, parameter, present]
  split <;> rfl

/-- A parameter that is not looked at makes no difference. -/
theorem filter_parameter (test : Json → α → Bool) (values : List α) (value : Json) :
    values.filter (test (if values.isEmpty then .null else value)) =
      values.filter (test value) := by
  cases values <;> rfl

theorem find?_parameter (test : Json → α → Bool) (values : List α) (value : Json) :
    values.find? (test (if values.isEmpty then .null else value)) = values.find? (test value) := by
  cases values <;> rfl

theorem nodeParameter_present {statement : Statement} {graph : Graph} {name id : String}
    (present : statement.parameters.get? name = some (.str id)) :
    statement.nodeParameter graph name = .ok (if graph.hasNode id then some id else none) := by
  simp only [nodeParameter, parameter, present]
  rfl

theorem perform_createNode (properties : Entries Json) (store : Store) :
    (createNode properties).perform store =
      .ok [Graph.idRow (store.createNode (.ofEntries properties)).1]
        (store.createNode (.ofEntries properties)).2 := rfl

theorem perform_findByUid (uid : String) (store : Store) :
    (findByUid uid).perform store =
      match (store.graph.nodesWithUid (.str uid)).mapM store.graph.nodeRow with
      | .ok rows => .ok rows store
      | .error shape => .error shape store := by
  have parameter : (findByUid uid).parameterFor store.graph.nodes "uid" = _ :=
    parameterFor_present _ rfl store.graph.nodes
  have nodes : store.graph.nodesWithUid (if store.graph.nodes.isEmpty then .null else .str uid) =
      store.graph.nodesWithUid (.str uid) :=
    filter_parameter (Graph.has "uid") store.graph.nodes (.str uid)
  have rows : (findByUid uid).read store.graph =
      (store.graph.nodesWithUid (.str uid)).mapM store.graph.nodeRow := by
    simp only [read, findByUid] at parameter ⊢
    rw [parameter, ← nodes]
    rfl
  change (liftM ((findByUid uid).read store.graph) : Store.Change (List Json)) store = _
  rw [rows]
  cases (store.graph.nodesWithUid (.str uid)).mapM store.graph.nodeRow <;> rfl

theorem perform_findByUid_single {store : Store} {uid id : String} {properties : Properties}
    {row : Json} (present : store.graph.nodesWithUid (.str uid) = [(id, properties)])
    (listed : store.graph.nodeRow (id, properties) = .ok row) :
    (findByUid uid).perform store = .ok [row] store := by
  have rows : [(id, properties)].mapM store.graph.nodeRow = .ok [row] := by
    rw [List.mapM_cons, listed]
    rfl
  simp only [perform_findByUid, present, rows]

/-- The node under an id has one row, and is listed as it is by its uid. -/
theorem perform_findByGraphId {store : Store} {id : String} {properties : Properties}
    (stored : store.graph.nodes.get? id = some properties) :
    (findByGraphId id).perform store =
      match store.graph.nodeRow (id, properties) with
      | .ok row => .ok [row] store
      | .error shape => .error shape store := by
  have isNode : store.graph.hasNode id = true := by
    rw [Graph.hasNode, Entries.contains, stored]
    rfl
  have parameter : (findByGraphId id).nodeParameter store.graph "graph_id" = .ok (some id) := by
    rw [nodeParameter_present rfl, if_pos isNode]
  have rows : (findByGraphId id).read store.graph =
      [(id, properties)].mapM store.graph.nodeRow := by
    simp only [read, findByGraphId] at parameter ⊢
    rw [parameter]
    simp only [bind, Except.bind, Option.bind_some, stored, Option.map_some, Option.toList_some]
  change (liftM ((findByGraphId id).read store.graph) : Store.Change (List Json)) store = _
  rw [rows, List.mapM_cons]
  cases store.graph.nodeRow (id, properties) <;> rfl

theorem perform_resolveUid (uid : String) (store : Store) :
    (resolveUid uid).perform store =
      .ok ((store.graph.nodesWithUid (.str uid)).map fun node => Graph.idRow node.1) store := by
  have parameter : (resolveUid uid).parameterFor store.graph.nodes "uid" = _ :=
    parameterFor_present _ rfl store.graph.nodes
  have nodes : store.graph.nodesWithUid (if store.graph.nodes.isEmpty then .null else .str uid) =
      store.graph.nodesWithUid (.str uid) :=
    filter_parameter (Graph.has "uid") store.graph.nodes (.str uid)
  have rows : (resolveUid uid).read store.graph =
      .ok ((store.graph.nodesWithUid (.str uid)).map fun node => Graph.idRow node.1) := by
    simp only [read, resolveUid] at parameter ⊢
    rw [parameter, ← nodes]
    rfl
  change (liftM ((resolveUid uid).read store.graph) : Store.Change (List Json)) store = _
  rw [rows]
  rfl

theorem perform_mergeNode (id : String) (properties : Entries Json) (store : Store) :
    (mergeNode id properties).perform store =
      if store.graph.hasNode id then
        .ok [] (store.onGraph (·.mergeNode id (.ofEntries properties)))
      else .error .missingKey store := by
  have parameter : (mergeNode id properties).nodeParameter store.graph "graph_id" = _ :=
    nodeParameter_present rfl
  unfold perform
  rw [Store.get_bind]
  simp only [mergeNode] at parameter ⊢
  cases present : store.graph.hasNode id <;> rw [parameter, present] <;> rfl

theorem perform_addLabel (owner : String) (label : Label) (store : Store) :
    (addLabel owner label).perform store =
      .ok [] (if store.graph.hasNode owner then
        store.createLabel ⟨owner, .str label.key, .str label.value⟩ else store) := by
  have parameter : (addLabel owner label).nodeParameter store.graph "graph_id" = _ :=
    nodeParameter_present rfl
  unfold perform
  rw [Store.get_bind]
  simp only [addLabel] at parameter ⊢
  cases present : store.graph.hasNode owner <;> rw [parameter, present] <;> rfl

theorem perform_deleteLabel (owner : String) (label : Label) (store : Store) :
    (deleteLabel owner label).perform store =
      .ok [] (store.onGraph (·.deleteLabel owner (.str label.key))) := by
  unfold perform deleteLabel
  rw [Store.get_bind]
  simp only
  rw [parameterFor_present (.str owner) rfl, Store.lift_bind,
    parameterFor_present (.str label.key) rfl, Store.lift_bind]
  change EStateM.Result.ok [] (store.onGraph fun graph => graph.deleteLabel _ _) = _
  cases labels : store.graph.labels with
  | nil => simp only [Store.onGraph, Graph.deleteLabel, labels, List.filter_nil]
  | cons first rest =>
      have owners : (Json.textOr "" (if (first :: rest).isEmpty then .null else .str owner)) =
          owner := rfl
      simp only [owners]
      have same : store.graph.deleteLabel owner
          (if (store.graph.ownedLabels owner).isEmpty then .null else .str label.key) =
          store.graph.deleteLabel owner (.str label.key) := by
        split
        · rename_i none
          have absent : ∀ entry ∈ store.graph.labels, (entry.2.owner == owner) = false := by
            simpa [Graph.ownedLabels, List.isEmpty_iff] using none
          simp only [Graph.deleteLabel]
          congr 1
          apply List.filter_congr
          intro entry member
          simp [absent entry member]
        · rfl
      simp only [Store.onGraph, same]

theorem perform_deleteRelationships (source : String) (store : Store) :
    (deleteRelationships source).perform store =
      .ok [] (store.onGraph (·.deleteOutgoing source)) := by
  unfold perform deleteRelationships
  rw [Store.get_bind]
  simp only
  rw [parameterFor_present (.str source) rfl, Store.lift_bind]
  change EStateM.Result.ok [] (store.onGraph fun graph => graph.deleteOutgoing _) = _
  cases relationships : store.graph.relationships with
  | nil => simp only [Store.onGraph, Graph.deleteOutgoing, relationships, List.filter_nil]
  | cons first rest => rfl

theorem perform_createRelationship (source target : String) (descriptor : Descriptor)
    (store : Store) (sourceStored : store.graph.hasNode source = true)
    (targetStored : store.graph.hasNode target = true) :
    (createRelationship source target descriptor).perform store =
      let made := store.createRelationship
        ⟨source, target, .ofEntries (relationshipProperties descriptor)⟩
      .ok [Graph.idRow made.1] made.2 := by
  have sourceParameter : (createRelationship source target descriptor).nodeParameter
      store.graph "source_id" = _ := nodeParameter_present rfl
  have targetParameter : (createRelationship source target descriptor).nodeParameter
      store.graph "target_id" = _ := nodeParameter_present rfl
  unfold perform
  rw [Store.get_bind]
  simp only [createRelationship] at sourceParameter targetParameter ⊢
  rw [sourceParameter, targetParameter, sourceStored, targetStored]
  rfl

theorem perform_findRelationships (id : String) (store : Store) :
    (findRelationships id).perform store =
      match store.graph.relationshipRows id with
      | .ok rows => .ok rows store
      | .error shape => .error shape store := by
  have parameter : (findRelationships id).parameterFor store.graph.relationships "graph_id" = _ :=
    parameterFor_present (.str id) rfl store.graph.relationships
  have source : store.graph.relationshipRows
      (Json.textOr "" (if store.graph.relationships.isEmpty then .null else .str id)) =
        store.graph.relationshipRows id := by
    cases relationships : store.graph.relationships with
    | nil => simp only [Graph.relationshipRows, Graph.outgoing, relationships, List.filter_nil]
    | cons first rest => rfl
  have rows : (findRelationships id).read store.graph = store.graph.relationshipRows id := by
    simp only [read, findRelationships] at parameter ⊢
    rw [parameter, ← source]
    rfl
  change (liftM ((findRelationships id).read store.graph) : Store.Change (List Json)) store = _
  rw [rows]
  cases store.graph.relationshipRows id <;> rfl

/-- Whether a look-up by name means a node. -/
def names (descriptor : Descriptor) (node : String × Properties) : Bool :=
  let group := match descriptor.target.group with
    | some group => Json.str group
    | none => .null
  Graph.has "name" (.str descriptor.targetName) node &&
    (Graph.has "kind" (.str descriptor.target.kind) node &&
      (Graph.isInGroup group node &&
        Graph.isInNamespace (.str descriptor.targetNamespace) node))

theorem perform_resolveName (descriptor : Descriptor) (store : Store)
    {nodes : Entries Properties} (ordered : store.graph.nodesByUid? = some nodes) :
    (resolveName descriptor).perform store =
      .ok ((nodes.find? (names descriptor)).toList.map fun node => Graph.idRow node.1) store := by
  have found : (resolveName descriptor).nodeByName? store.graph =
      .ok (nodes.find? (names descriptor)) := by
    unfold nodeByName?
    rw [ordered]
    simp only [bind, Except.bind, Graph.ordered]
    rw [parameterFor_present (.str descriptor.targetName) rfl]
    simp only [filter_parameter]
    rw [parameterFor_present (.str descriptor.target.kind) rfl]
    simp only [filter_parameter]
    rw [parameterFor_present _ rfl]
    simp only [filter_parameter]
    rw [parameterFor_present (.str descriptor.targetNamespace) rfl]
    simp only [pure, Except.pure, Except.ok.injEq]
    rw [find?_parameter Graph.isInNamespace, List.find?_filter, List.find?_filter,
      List.find?_filter]
    congr 1
    funext node
    simp only [Bool.decide_and, Bool.decide_eq_true]
    rfl
  change (liftM ((resolveName descriptor).read store.graph) : Store.Change (List Json)) store = _
  have rows : (resolveName descriptor).read store.graph =
      .ok ((nodes.find? (names descriptor)).toList.map fun node => Graph.idRow node.1) := by
    simp only [read, resolveName] at found ⊢
    rw [found]
    rfl
  rw [rows]
  rfl

/-- Among nodes without an order no name is looked up. -/
theorem perform_resolveName_unordered (descriptor : Descriptor) (store : Store)
    (unordered : store.graph.nodesByUid? = none) :
    (resolveName descriptor).perform store = .error .wrongType store := by
  have refused : (resolveName descriptor).read store.graph = .error .wrongType := by
    simp only [read, resolveName, nodeByName?]
    rw [unordered]
    rfl
  change (liftM ((resolveName descriptor).read store.graph) : Store.Change (List Json)) store = _
  rw [refused]
  rfl

end Statement

end ClusterGraph
