import ClusterGraph.Proofs.History.CommitOutcome
import ClusterGraph.Proofs.History.Evolution
import ClusterGraph.Proofs.History.SyncTotals
import ClusterGraph.Proofs.Sync.EdgeReadBack
import ClusterGraph.Proofs.Sync.ReadYourWrites

namespace ClusterGraph

/-! The ways of looking up a uid compared, in whatever graph saves have made of nodes that were put
there directly. They find the same node and the same edges, or fail alike, but for one thing: a node
whose further fields are nested too deep has an id and edges and yet cannot be read. -/

namespace Store

/-- A store of nodes with whatever properties. -/
def ofNodes (nodes : List Properties) : Store :=
  nodes.foldl (fun store properties => (store.createNode properties).2) {}

/-- All labels and relationships of a store can be listed, and its ids are used once. -/
structure Listed (store : Store) : Prop where
  numbered : store.Numbered
  texts : store.graph.HasTextLabels
  listable : ∀ entry ∈ store.graph.relationships, store.graph.Listable entry.2

namespace Listed

variable {store after : Store} {id : String} {node : Node} {properties : Entries Json}

theorem empty : Listed {} where
  numbered := by constructor <;> simp [Entries.keys]
  texts := by simp [Graph.HasTextLabels]
  listable := by simp

theorem idle (listed : store.Listed) (restored : after.graph = store.graph)
    (ids : store.nextId ≤ after.nextId) : after.Listed where
  numbered := listed.numbered.idle restored ids
  texts := by
    rw [restored]
    exact listed.texts
  listable := by
    rw [restored]
    exact listed.listable

theorem listable_of_keys (listed : store.Listed)
    (relationships : after.graph.relationships = store.graph.relationships)
    (keys : ∀ id ∈ store.graph.nodes.keys, id ∈ after.graph.nodes.keys) :
    ∀ entry ∈ after.graph.relationships, after.graph.Listable entry.2 := by
  intro entry member
  rw [relationships] at member
  obtain ⟨stored, made⟩ := listed.listable entry member
  rw [Graph.hasNode_iff] at stored
  exact ⟨Graph.hasNode_iff.mpr (keys _ stored), made⟩

theorem withNewNode (listed : store.Listed) (node : Node) (properties : Entries Json) :
    (store.withNewNode node properties).Listed where
  numbered := listed.numbered.withNewNode node properties
  texts := by
    intro entry member
    rw [labels_withNewNode, List.mem_append] at member
    exact member.elim (listed.texts entry) (Graph.hasTextLabels_freshLabels _ _ _ entry)
  listable := by
    refine listed.listable_of_keys rfl fun id member => ?_
    rw [nodes_withNewNode, Entries.keys_append]
    exact List.mem_append_left _ member

theorem withNode (listed : store.Listed) (id : String) (properties : Entries Json)
    (diff : LabelDiff) : (store.withNode id properties diff).Listed where
  numbered := listed.numbered.withNode id properties diff
  texts := by
    intro entry member
    rw [labels_withNode, List.mem_append] at member
    rcases member with kept | fresh
    · exact listed.texts entry (List.mem_filter.mp kept).1
    · exact Graph.hasTextLabels_freshLabels _ _ _ entry fresh
  listable := by
    refine listed.listable_of_keys rfl fun other member => ?_
    have keys : (store.withNode id properties diff).graph.nodes.keys = store.graph.nodes.keys :=
      Graph.keys_mergeNode store.graph id (.ofEntries properties)
    rwa [keys]

theorem withRelationships (listed : store.Listed) (id : String) (descriptors : List Descriptor) :
    (store.withRelationships id (store.graph.resolved descriptors)).Listed where
  numbered := listed.numbered.withRelationships id _
  texts := listed.texts
  listable := by
    intro entry member
    rw [relationships_withRelationships, List.mem_append] at member
    rcases member with kept | fresh
    · exact listed.listable entry (List.mem_filter.mp kept).1
    · rw [← outgoing_withRelationships_same] at fresh
      exact listable_withRelationships id descriptors entry fresh

theorem effect (listed : store.Listed) {save : Save} (effect : save.effect? store = some after) :
    after.Listed := by
  cases save with
  | upsert node =>
      obtain ⟨properties, change, _, evaluated⟩ := Save.effect?_upsert.mp effect
      rcases Script.evaluate_saveNode_ok evaluated with
        ⟨_, _, rfl⟩ | ⟨id, old, row, stored, _, _, _, _, rfl⟩
      · exact listed.withNewNode node properties
      · exact listed.withNode id properties _
  | replace source descriptors =>
      obtain ⟨edges, evaluated⟩ := Save.effect?_replace.mp effect
      obtain ⟨id, _, _, _, _, rfl⟩ := Script.evaluate_saveRelationships_ok evaluated
      exact listed.withRelationships id descriptors

theorem createNode (listed : store.Listed) (properties : Properties) :
    (store.createNode properties).2.Listed := by
  have keys : (store.createNode properties).2.graph.nodes.keys =
      store.graph.nodes.keys ++ [nodeId store.nextId] :=
    Graph.keys_addNode store.graph (nodeId store.nextId) properties
  refine ⟨⟨?_, fun number le => ?_, fun number le => ?_⟩, listed.texts, ?_⟩
  · rw [keys]
    refine listed.numbered.nodeIds.append (by simp) ?_
    simpa using listed.numbered.unusedNodes store.nextId (Nat.le_refl _)
  · rw [keys]
    exact unused_append nodeId_injective listed.numbered.unusedNodes (Nat.le_refl _) 1 number le
  · exact listed.numbered.unusedLabels number (Nat.le_of_succ_le le)
  · refine listed.listable_of_keys rfl fun id member => ?_
    rw [keys]
    exact List.mem_append_left _ member

theorem ofNodes (nodes : List Properties) : (ofNodes nodes).Listed := by
  suffices general : ∀ store : Store, store.Listed →
      (nodes.foldl (fun store properties => (store.createNode properties).2) store).Listed from
    general {} empty
  induction nodes with
  | nil => exact fun _ listed => listed
  | cons properties rest ih => exact fun store listed => ih _ (listed.createNode properties)

end Listed

end Store

theorem Evolves.listed {start store : Store} {commits : List Commit} (listed : start.Listed)
    (evolves : Evolves start commits store) : store.Listed := by
  induction evolves with
  | start => exact listed
  | idle _ restored ids ih => exact ih.idle restored ids
  | commit _ effect ih => exact ih.effect effect

namespace Script

variable {store : Store} {statement : Statement} {identifier uid : String}

theorem evaluate_resolveUid_several (several : 1 < (store.graph.nodesWithUid (.str uid)).length) :
    (resolveUid uid).evaluate store =
      .error (.graph (.ambiguous uid (store.graph.nodesWithUid (.str uid)).length)) store := by
  simp only [resolveUid, evaluate_bind, evaluate_resolveUid?, if_pos several]

theorem evaluate_resolveUid_absent (absent : store.graph.nodesWithUid (.str uid) = []) :
    (resolveUid uid).evaluate store = .error (.graph (.notFound uid "by uid")) store := by
  simp only [resolveUid, evaluate_bind, evaluate_resolveUid?, absent]
  rfl

theorem evaluate_findNode_absent (absent : store.graph.nodesWithUid (.str uid) = []) :
    (findNode (.findByUid uid) uid).evaluate store =
      .error (.graph (.notFound uid "")) store := by
  simp only [findNode, findNode?, evaluate_bind, evaluate_query, Statement.perform_findByUid, absent]
  rfl

theorem evaluate_findNode_several (texts : store.graph.HasTextLabels)
    (several : 1 < (store.graph.nodesWithUid (.str uid)).length) :
    (findNode (.findByUid uid) uid).evaluate store =
      .error (.graph (.ambiguous uid (store.graph.nodesWithUid (.str uid)).length)) store := by
  obtain ⟨rows, listed, _⟩ : ∃ rows,
      (store.graph.nodesWithUid (.str uid)).mapM store.graph.nodeRow = .ok rows ∧
        ∀ row ∈ rows, True := mapM_ok_of_forall fun entry _ => by
    obtain ⟨rows, _, found, _⟩ := Graph.exists_nodeRow texts entry.1 entry.2
    exact ⟨_, found, trivial⟩
  rw [← mapM_length listed] at several ⊢
  match rows, several with
  | _ :: _ :: _, _ =>
      simp only [findNode, findNode?, evaluate_bind, evaluate_query, Statement.perform_findByUid,
        listed]
      rfl

theorem evaluate_findNode_unread {row : Json} {shape : ShapeError}
    (performed : statement.perform store = .ok [row] store)
    (unread : Node.ofRecord row none = .error shape) :
    (findNode statement identifier).evaluate store = .error (.shape shape) store := by
  simp only [findNode, findNode?, evaluate_bind, evaluate_query, performed, unread,
    evaluate_ofShape_error]

end Script

namespace Action

variable {α β : Type} {system last : System}

/-- A look-up ends so and leaves the graph as it is. -/
structure LooksUp (action : Action α) (system : System) (found : Except Failure α) : Prop where
  ending : Action.ending action system = found
  graph : (after action system).graph = system.graph

theorem LooksUp.of_ok {action : Action α} {value : α} (ran : action system = .ok value last)
    (same : last.database.store = system.database.store) : LooksUp action system (.ok value) where
  ending := by simp only [Action.ending, ran]
  graph := by
    rw [after_ok ran]
    exact congrArg Store.graph same

theorem LooksUp.bind {action : Action α} {failure : Failure}
    (fails : LooksUp action system (.error failure)) (next : α → Action β) :
    LooksUp (action >>= next) system (.error failure) := by
  obtain ⟨ending, graph⟩ := fails
  cases ran : action system with
  | ok value last => simp [Action.ending, ran] at ending
  | error other last =>
      simp only [Action.ending, ran, Except.error.injEq] at ending
      rw [after_error ran] at graph
      constructor <;> simp only [Action.ending, after, bind_run, ran, ending, graph]

theorem looksUp_transaction (calm : system.database.faults = []) {script : Script α}
    {failure : Failure} {store : Store}
    (evaluated : script.evaluate system.database.store = .error failure store) :
    LooksUp (transaction script) system (.error failure) := by
  have raising : Raising system.database.faults := by simp [calm, Raising]
  have ends := transaction_ends raising script
  generalize ran : transaction script system = result at ends
  cases ends with
  | committed ended => simp [evaluated] at ended
  | failed ended restored =>
      rw [evaluated] at ended
      cases ended
      exact ⟨by simp only [Action.ending, ran], by rw [after_error ran, restored]⟩
  | disturbed surfaces _ =>
      rw [calm] at surfaces
      exact absurd surfaces Surfaces.not_nil

/-- The look-ups of a uid end alike. -/
structure ReadsAgree (uid : String) (system : System) : Prop where
  absent : system.graph.nodesWithUid (.str uid) = [] →
    LooksUp (findByUid uid) system (.error (.graph (.notFound uid ""))) ∧
    LooksUp (findEdges uid) system (.error (.graph (.notFound uid "by uid"))) ∧
    LooksUp (transaction (Script.resolveUid uid)) system (.error (.graph (.notFound uid "by uid")))
  several : ∀ count, (system.graph.nodesWithUid (.str uid)).length = count → 1 < count →
    LooksUp (findByUid uid) system (.error (.graph (.ambiguous uid count))) ∧
    LooksUp (findEdges uid) system (.error (.graph (.ambiguous uid count))) ∧
    LooksUp (transaction (Script.resolveUid uid)) system (.error (.graph (.ambiguous uid count)))
  found : ∀ id stored, system.graph.nodesWithUid (.str uid) = [(id, stored)] →
    (∀ collection, ¬ stored.IsTooDeep collection) →
    ∃ node : Node, node.graphId = id ∧ LooksUp (findByUid uid) system (.ok node) ∧
      LooksUp (findEdges uid) system (.ok node.edges) ∧
      LooksUp (transaction (Script.resolveUid uid)) system (.ok id) ∧
      LooksUp (findByGraphId id) system (.ok node)
  unread : ∀ id stored collection, system.graph.nodesWithUid (.str uid) = [(id, stored)] →
    stored.IsTooDeep collection →
    ∃ edges, LooksUp (findEdges uid) system (.ok edges) ∧
      LooksUp (transaction (Script.resolveUid uid)) system (.ok id) ∧
      LooksUp (findByUid uid) system (.error (.shape (.tooDeep collection))) ∧
      LooksUp (findByGraphId id) system (.error (.shape (.tooDeep collection)))

variable {uid id : String} {stored : Properties}

theorem findEdges_unresolved (calm : system.database.faults = []) {failure : Failure}
    {store : Store}
    (failed : (Script.resolveUid uid).evaluate system.database.store = .error failure store) :
    LooksUp (findEdges uid) system (.error failure) ∧
      LooksUp (transaction (Script.resolveUid uid)) system (.error failure) := by
  have evaluated : (do
      let sourceId ← Script.resolveUid uid
      Script.query (.findRelationships sourceId) : Script (List Json)).evaluate
        system.database.store = .error failure store := by
    simp only [Script.evaluate_bind, failed]
  exact ⟨(looksUp_transaction calm evaluated).bind _, looksUp_transaction calm failed⟩

theorem findEdges_listed (listed : system.database.store.Listed)
    (calm : system.database.faults = [])
    (present : system.graph.nodesWithUid (.str uid) = [(id, stored)]) :
    ∃ rows edges, system.graph.relationshipRows id = .ok rows ∧
      rows.mapM Edge.ofRecord = .ok edges ∧ LooksUp (findEdges uid) system (.ok edges) ∧
      LooksUp (transaction (Script.resolveUid uid)) system (.ok id) := by
  have outgoing : ∀ entry ∈ system.graph.outgoing id, system.graph.Listable entry.2 :=
    fun entry member => listed.listable entry (List.mem_filter.mp member).1
  obtain ⟨rows, edges, edgesListed, edgesRead⟩ := Graph.relationshipRows_listable outgoing
  obtain ⟨last, ran, same⟩ := findEdges_calm calm present edgesListed edgesRead
  obtain ⟨final, resolved, sameFinal⟩ :=
    transaction_calm calm (Script.evaluate_resolveUid_present present)
  exact ⟨rows, edges, edgesListed, edgesRead, .of_ok ran same, .of_ok resolved sameFinal⟩

theorem exists_row_present (listed : system.database.store.Listed)
    (present : system.graph.nodesWithUid (.str uid) = [(id, stored)]) :
    ∃ rows labels, Node.labelsOfRecord (.arr rows) = .ok labels ∧
      let row : Json := .obj [("graph_id", .str id), ("props", .obj stored.entries),
        ("labels", .arr rows)]
      (Statement.findByUid uid).perform system.database.store =
          .ok [row] system.database.store ∧
        (Statement.findByGraphId id).perform system.database.store =
          .ok [row] system.database.store := by
  obtain ⟨rows, labels, row, labelsRead⟩ := Graph.exists_nodeRow listed.texts id stored
  have isListed : (id, stored) ∈ system.graph.nodesWithUid (.str uid) := by simp [present]
  have isStored := Entries.get?_of_mem listed.numbered.nodeIds
    (Graph.mem_nodesWithUid.mp isListed).1
  refine ⟨rows, labels, labelsRead, Statement.perform_findByUid_single present row, ?_⟩
  rw [Statement.perform_findByGraphId isStored, row]

/-- In a store whose labels and relationships can be listed, all look-ups agree as long as the
further fields can be read. -/
theorem reads_agree (listed : system.database.store.Listed) (calm : system.database.faults = [])
    (uid : String) : ReadsAgree uid system where
  absent absent :=
    ⟨(looksUp_transaction calm (Script.evaluate_findNode_absent absent)).bind _,
      findEdges_unresolved calm (Script.evaluate_resolveUid_absent absent)⟩
  several := by
    rintro count rfl several
    exact ⟨(looksUp_transaction calm (Script.evaluate_findNode_several listed.texts several)).bind _,
      findEdges_unresolved calm (Script.evaluate_resolveUid_several several)⟩
  found id stored present shallow := by
    obtain ⟨edgeRows, edges, edgesListed, edgesRead, found, resolved⟩ :=
      findEdges_listed listed calm present
    obtain ⟨rows, labels, labelsRead, byUid, byId⟩ := exists_row_present listed present
    obtain ⟨attributes, attributesRead⟩ := Node.attributesOfText_ok shallow
    obtain ⟨read, nodeRead⟩ := Node.ofRecord_readable id labelsRead attributesRead
    have isId : read.graphId = id := (Node.ofRecord_ok nodeRead).2
    rw [← isId] at edgesListed
    obtain ⟨last, ran, same⟩ := findNode_calm calm byUid uid nodeRead edgesListed edgesRead
    obtain ⟨lastById, ranById, sameById⟩ :=
      findNode_calm calm byId id nodeRead edgesListed edgesRead
    exact ⟨{ read with edges }, isId, .of_ok ran same, found, resolved, .of_ok ranById sameById⟩
  unread id stored collection present deep := by
    obtain ⟨_, edges, _, _, found, resolved⟩ := findEdges_listed listed calm present
    obtain ⟨rows, labels, labelsRead, byUid, byId⟩ := exists_row_present listed present
    have unread := Node.ofRecord_unreadable id labelsRead (Node.attributesOfText_tooDeep deep)
    exact ⟨edges, found, resolved,
      (looksUp_transaction calm (Script.evaluate_findNode_unread byUid unread)).bind _,
      (looksUp_transaction calm (Script.evaluate_findNode_unread byId unread)).bind _⟩

end Action

/-- Whatever saves have made of nodes that were put into the graph directly, under whatever raised
faults: once no faults come up, the look-ups of a uid agree as long as the further fields of its
node can be read. -/
theorem run_reads_agree {steps : List Step} {start : System} {nodes : List Properties}
    (planted : start.database.store = .ofNodes nodes) (raising : Raising start.database.faults)
    (stepsRaising : ∀ step ∈ steps, step.Raising) (uid : String) :
    Action.ReadsAgree uid (run steps start).calm := by
  have listed : start.database.store.Listed := by
    rw [planted]
    exact .ofNodes nodes
  have reached : (run steps start).calm.database.store.Listed :=
    (run_evolves raising stepsRaising).listed listed
  exact Action.reads_agree reached rfl uid

def plantedSystem (nodes : List Properties) : System :=
  { database := { store := .ofNodes nodes }, journal := { threshold := 50 } }

/-- A pod by its uid alone, and two nodes with one uid. -/
def twinNodes : List Properties :=
  [.ofEntries [("uid", .str "pod")], .ofEntries [("uid", .str "twin")],
   .ofEntries [("uid", .str "twin")]]

def linksPod : List Step :=
  [.save (.replace "pod" [{ relationship := "OWNS", targetUid := "pod" }])]

/-- The pod is read with its edge by its uid and by its id, and its twins are not. -/
theorem run_reads_agree_twinNodes :
    let system := (run linksPod (plantedSystem twinNodes)).calm
    (∃ node : Node, node.graphId = Store.nodeId 1 ∧ node.edges.length = 1 ∧
      Action.LooksUp (Action.findByUid "pod") system (.ok node) ∧
      Action.LooksUp (Action.findEdges "pod") system (.ok node.edges) ∧
      Action.LooksUp (Action.findByGraphId (Store.nodeId 1)) system (.ok node)) ∧
    Action.LooksUp (Action.findByUid "twin") system (.error (.graph (.ambiguous "twin" 2))) ∧
    Action.LooksUp (Action.findEdges "twin") system (.error (.graph (.ambiguous "twin" 2))) := by
  intro system
  have raising : Raising (plantedSystem twinNodes).database.faults := by
    simp [plantedSystem, Raising]
  have stepsRaising : ∀ step ∈ linksPod, step.Raising := by simp [linksPod, Step.Raising]
  have agree (uid : String) : Action.ReadsAgree uid system :=
    run_reads_agree rfl raising stepsRaising uid
  have ids : (system.graph.nodesWithUid (.str "pod")).map Prod.fst = [Store.nodeId 1] := by
    decide +kernel
  obtain ⟨⟨id, stored⟩, present, rfl⟩ := List.map_eq_singleton_iff.mp ids
  have fieldless : (system.graph.nodesWithUid (.str "pod")).all
      (fun node => (node.2.entries.get? "additionalFields").isNone) = true := by
    decide +kernel
  have shallow (collection : Json.Collection) : ¬ stored.IsTooDeep collection := by
    have malformed : Json.Document.ofText "" = .error .malformed := rfl
    simp only [present, List.all_cons, List.all_nil, Bool.and_true, Option.isNone_iff_eq_none]
      at fieldless
    simp [Properties.IsTooDeep, fieldless, Json.textOr, malformed]
  obtain ⟨node, isId, byUid, edges, -, byId⟩ := (agree "pod").found _ _ present shallow
  obtain ⟨twin, twinEdges, -⟩ := (agree "twin").several 2 (by decide +kernel) (by decide)
  have linked : (Action.ending (Action.findEdges "pod") system).toOption.map List.length =
      some 1 := by
    decide +kernel
  rw [edges.ending] at linked
  exact ⟨⟨node, isId, Option.some.inj linked, byUid, edges, byId⟩, twin, twinEdges⟩

/-- The uid of a pod whose further fields are nested too deep is resolved, and yet the pod cannot be
read. -/
theorem run_reads_agree_not_deep : ¬ ∀ (steps : List Step) (start : System)
    (nodes : List Properties) (uid : String), start.database.store = .ofNodes nodes →
    Raising start.database.faults → (∀ step ∈ steps, step.Raising) → ∀ id,
    Action.LooksUp (Action.transaction (Script.resolveUid uid)) (run steps start).calm (.ok id) →
      ∃ node, Action.LooksUp (Action.findByUid uid) (run steps start).calm (.ok node) := by
  intro claimed
  let text := String.ofList (List.replicate 1500 '[')
  let entries : Entries Json :=
    [("uid", .str "pod"), ("kind", .str "Pod"), ("name", .str "web"),
      ("additionalFields", .str text)]
  have raising : Raising (plantedSystem [.ofEntries entries]).database.faults := by
    simp [plantedSystem, Raising]
  have stepsRaising : ∀ step ∈ ([] : List Step), step.Raising := by simp
  have distinct : entries.keys.Nodup := by
    have names : entries.keys = ["uid", "kind", "name", "additionalFields"] := rfl
    rw [names]
    decide
  have member : ("additionalFields", .str text) ∈ entries := by simp [entries]
  have deep : Properties.IsTooDeep (.ofEntries entries) .array := by
    rw [Properties.IsTooDeep, Properties.get?_entries_ofEntries distinct member]
    exact Json.Document.ofText_deep (by decide)
  have present : (plantedSystem [.ofEntries entries]).calm.graph.nodesWithUid (.str "pod") =
      [(Store.nodeId 1, .ofEntries entries)] := rfl
  have agree : Action.ReadsAgree "pod" (plantedSystem [.ofEntries entries]).calm :=
    Action.reads_agree (Store.Listed.ofNodes [.ofEntries entries]) rfl "pod"
  obtain ⟨edges, -, resolved, unread, -⟩ := agree.unread _ _ _ present deep
  obtain ⟨node, read⟩ := claimed [] _ _ "pod" rfl raising stepsRaising _ resolved
  have both := unread.ending.symm.trans read.ending
  cases both

end ClusterGraph
