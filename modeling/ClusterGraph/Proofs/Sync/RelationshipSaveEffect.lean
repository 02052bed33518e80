import ClusterGraph.Proofs.Store.Evaluation
import ClusterGraph.Proofs.Store.GraphNodes
import ClusterGraph.Proofs.Store.StatementEffect
import ClusterGraph.Proofs.Sync.NodeSaveEffect
import ClusterGraph.Sync.RelationshipSave

namespace ClusterGraph

/-! What the save of relationships does to a store without faults: all relationships of the source
go, and one is made for each descriptor that refers to a stored node. -/

namespace Graph

/-- The graph id of the node that a descriptor refers to. -/
def resolve? (graph : Graph) (descriptor : Descriptor) : Option String :=
  if descriptor.byUid then (graph.nodesWithUid (.str descriptor.targetUid)).head?.map Prod.fst
  else if descriptor.target.kind.isEmpty then none
  else (graph.nodesByUid?.bind (·.find? (Statement.names descriptor))).map Prod.fst

/-- The descriptors that refer to stored nodes, each with the graph id of its node. -/
def resolved (graph : Graph) (descriptors : List Descriptor) : List (Descriptor × String) :=
  descriptors.filterMap fun descriptor => (graph.resolve? descriptor).map fun id => (descriptor, id)

variable {graph : Graph} {descriptor : Descriptor} {id : String}

theorem resolve?_byUid (byUid : descriptor.byUid = true) :
    graph.resolve? descriptor =
      (graph.nodesWithUid (.str descriptor.targetUid)).head?.map Prod.fst := by
  simp only [resolve?, byUid, if_true]

/-- A name refers to the node of least uid among those that it fits, and of several with this uid to
the one that was made first. -/
theorem resolve?_byName_first (texts : graph.HasTextUids) (byName : descriptor.byUid = false)
    (kind : descriptor.target.kind.isEmpty = false) :
    (graph.resolve? descriptor = none ↔
      ∀ node ∈ graph.nodes, Statement.names descriptor node = false) ∧
    ∀ id, graph.resolve? descriptor = some id → ∃ earlier node later, node.1 = id ∧
      graph.nodes = earlier ++ node :: later ∧ Statement.names descriptor node = true ∧
      (∀ other ∈ earlier, Statement.names descriptor other = true →
        (uidKey node).textOr "" < (uidKey other).textOr "") ∧
      ∀ other ∈ later, Statement.names descriptor other = true →
        (uidKey node).textOr "" ≤ (uidKey other).textOr "" := by
  obtain ⟨sorted, isSorted, absent, found⟩ :=
    Json.find?_sortOn? texts (Statement.names descriptor)
  have resolves : graph.resolve? descriptor =
      (sorted.find? (Statement.names descriptor)).map Prod.fst := by
    simp [resolve?, byName, kind, nodesByUid?, isSorted]
  rw [resolves]
  constructor
  · rw [Option.map_eq_none_iff]
    exact absent
  · intro id isFound
    obtain ⟨node, nodeFound, rfl⟩ := Option.map_eq_some_iff.mp isFound
    obtain ⟨fits, earlier, later, split, below, above⟩ := found node nodeFound
    exact ⟨earlier, node, later, rfl, split, fits, below, above⟩

theorem resolve?_byName (texts : graph.HasTextUids) (byName : descriptor.byUid = false)
    (kind : descriptor.target.kind.isEmpty = false) :
    (graph.resolve? descriptor = none ↔
      ∀ node ∈ graph.nodes, Statement.names descriptor node = false) ∧
    ∀ id, graph.resolve? descriptor = some id → ∃ node ∈ graph.nodes, node.1 = id ∧
      Statement.names descriptor node = true ∧
      ∀ other ∈ graph.nodes, Statement.names descriptor other = true →
        (uidKey node).textOr "" ≤ (uidKey other).textOr "" := by
  obtain ⟨absent, found⟩ := resolve?_byName_first texts byName kind
  refine ⟨absent, fun id isFound => ?_⟩
  obtain ⟨earlier, node, later, isNode, split, fits, below, above⟩ := found id isFound
  refine ⟨node, by simp [split], isNode, fits, fun other member otherFits => ?_⟩
  rw [split, List.mem_append, List.mem_cons] at member
  rcases member with inEarlier | rfl | inLater
  · exact le_of_lt (below other inEarlier otherFits)
  · exact le_refl _
  · exact above other inLater otherFits

theorem hasNode_resolve? (resolves : graph.resolve? descriptor = some id) :
    graph.hasNode id = true := by
  rw [hasNode_iff]
  cases byUid : descriptor.byUid with
  | true =>
      rw [resolve?_byUid byUid] at resolves
      obtain ⟨node, isHead, rfl⟩ := Option.map_eq_some_iff.mp resolves
      exact List.mem_map_of_mem (mem_nodesWithUid.mp (List.mem_of_mem_head? isHead)).1
  | false =>
      cases kind : descriptor.target.kind.isEmpty with
      | true => simp [resolve?, byUid, kind] at resolves
      | false =>
          simp only [resolve?, byUid, kind, Bool.false_eq_true, if_false] at resolves
          obtain ⟨node, isFound, rfl⟩ := Option.map_eq_some_iff.mp resolves
          obtain ⟨sorted, isSorted, found⟩ := Option.bind_eq_some_iff.mp isFound
          have member := (Json.perm_of_sortOn? isSorted).subset (List.mem_of_find?_eq_some found)
          exact List.mem_map_of_mem member

/-- The look-up of the node that a descriptor refers to comes to an answer, if only that there is
none: its uid is not stored twice, and the nodes that its name is looked up among have an order. -/
structure Answers (graph : Graph) (descriptor : Descriptor) : Prop where
  single : descriptor.byUid = true → graph.Unambiguous descriptor.targetUid
  ordered : descriptor.byUid = false → descriptor.target.kind.isEmpty = false →
    ∃ nodes, graph.nodesByUid? = some nodes

/-- Nodes whose uids are texts have an order. -/
theorem answers_of_texts (texts : graph.HasTextUids)
    (single : descriptor.byUid = true → graph.Unambiguous descriptor.targetUid) :
    graph.Answers descriptor where
  single := single
  ordered _ _ := by
    obtain ⟨nodes, isSorted, _⟩ := Json.sortOn?_perm (Json.areOrdered_texts texts)
    exact ⟨nodes, isSorted⟩

theorem mem_resolved {descriptors : List Descriptor} {entry : Descriptor × String} :
    entry ∈ graph.resolved descriptors ↔
      entry.1 ∈ descriptors ∧ graph.resolve? entry.1 = some entry.2 := by
  obtain ⟨descriptor, id⟩ := entry
  simp only [resolved, List.mem_filterMap, Option.map_eq_some_iff, Prod.mk.injEq]
  constructor
  · rintro ⟨_, member, _, resolves, rfl, rfl⟩
    exact ⟨member, resolves⟩
  · rintro ⟨member, resolves⟩
    exact ⟨descriptor, member, id, resolves, rfl, rfl⟩

end Graph

namespace Store

/-- New relationships of a node, with ids from a number on. -/
def freshRelationships (source : String) : Nat → List (Descriptor × String) → Entries Relationship
  | _, [] => []
  | number, (descriptor, target) :: rest =>
      (relationshipId number,
        ⟨source, target, .ofEntries (Statement.relationshipProperties descriptor)⟩) ::
      freshRelationships source (number + 1) rest

def createRelationships (source : String) (resolved : List (Descriptor × String)) (store : Store) :
    Store :=
  { graph := { store.graph with
      relationships := store.graph.relationships ++
        freshRelationships source store.nextId resolved }
    nextId := store.nextId + resolved.length }

theorem createRelationships_cons (source target : String) (descriptor : Descriptor)
    (rest : List (Descriptor × String)) (store : Store) :
    createRelationships source ((descriptor, target) :: rest) store =
      createRelationships source rest (store.createRelationship
        ⟨source, target, .ofEntries (Statement.relationshipProperties descriptor)⟩).2 := by
  simp only [createRelationships, freshRelationships, createRelationship, takeId, onGraph,
    Graph.addRelationship, List.append_assoc, List.singleton_append, List.length_cons, mk.injEq,
    true_and]
  omega

/-- The store after the relationships of a node were replaced. -/
def withRelationships (source : String) (resolved : List (Descriptor × String)) (store : Store) :
    Store :=
  createRelationships source resolved (store.onGraph (·.deleteOutgoing source))

/-- The edges that a save tells about. -/
def freshEdges : Nat → List (Descriptor × String) → List Edge
  | _, [] => []
  | number, (descriptor, target) :: rest =>
      { relationship := descriptor.relationship
        targetType := descriptor.targetType
        targetGraphId := target
        targetUid := descriptor.targetUid
        graphId := relationshipId number
        targetName := descriptor.targetName
        targetNamespace := descriptor.targetNamespace } :: freshEdges (number + 1) rest

end Store

namespace Script

variable {store : Store} {source : String} {descriptors : List Descriptor}

theorem evaluate_resolveUid? (uid : String) (store : Store) :
    (resolveUid? uid).evaluate store =
      if 1 < (store.graph.nodesWithUid (.str uid)).length then
        .error (.graph (.ambiguous uid (store.graph.nodesWithUid (.str uid)).length)) store
      else .ok ((store.graph.nodesWithUid (.str uid)).head?.map Prod.fst) store := by
  simp only [resolveUid?, evaluate_bind, evaluate_query, Statement.perform_resolveUid,
    List.length_map]
  split
  · rfl
  · cases store.graph.nodesWithUid (.str uid) with
    | nil => rfl
    | cons node rest => exact evaluate_firstGraphId node.1 _ store

theorem evaluate_resolveTarget? {descriptor : Descriptor}
    (answers : store.graph.Answers descriptor) :
    (resolveTarget? descriptor).evaluate store = .ok (store.graph.resolve? descriptor) store := by
  unfold resolveTarget? Graph.resolve?
  split
  · rename_i byUid
    have few := answers.single byUid
    rw [evaluate_resolveUid?, if_neg (by unfold Graph.Unambiguous at few; omega)]
  · rename_i byName
    split
    · rfl
    · rename_i named
      obtain ⟨sorted, ordered⟩ := answers.ordered (by simpa using byName) (by simpa using named)
      simp only [evaluate_bind, evaluate_query, Statement.perform_resolveName descriptor store
        ordered, ordered, Option.bind_some]
      cases sorted.find? (Statement.names descriptor) with
      | none => rfl
      | some node => exact evaluate_firstGraphId node.1 [] store

theorem resolveTarget?_answered {descriptor : Descriptor} {target : Option String} {after : Store}
    (evaluated : (resolveTarget? descriptor).evaluate store = .ok target after) :
    store.graph.Answers descriptor where
  single byUid := by
    by_contra several
    have ambiguous : 1 < (store.graph.nodesWithUid (.str descriptor.targetUid)).length :=
      Nat.lt_of_not_le several
    rw [resolveTarget?, if_pos byUid, evaluate_resolveUid?, if_pos ambiguous] at evaluated
    cases evaluated
  ordered byName named := by
    refine Option.ne_none_iff_exists'.mp fun unordered => ?_
    simp only [resolveTarget?, byName, named, Bool.false_eq_true, if_false, evaluate_bind,
      evaluate_query, Statement.perform_resolveName_unordered descriptor store unordered]
      at evaluated
    cases evaluated

theorem evaluate_resolveTargets (source : String)
    (answers : ∀ descriptor ∈ descriptors, store.graph.Answers descriptor) :
    (resolveTargets source descriptors).evaluate store =
      .ok (store.graph.resolved descriptors) store := by
  induction descriptors with
  | nil => rfl
  | cons descriptor rest ih =>
      have following := ih fun other member => answers other (by simp [member])
      have first := evaluate_resolveTarget? (answers descriptor (by simp))
      simp only [resolveTargets, evaluate_bind, first]
      cases resolves : store.graph.resolve? descriptor with
      | none =>
          simp only [reportUnresolved, emit, evaluate_bind, evaluate, following]
          simp [Graph.resolved, resolves]
      | some target =>
          simp only [evaluate_bind, following]
          simp [Graph.resolved, resolves, evaluate_pure]

/-- Targets are resolved only where every look-up comes to an answer. -/
theorem resolveTargets_answered {resolved : List (Descriptor × String)} {after : Store}
    (evaluated : (resolveTargets source descriptors).evaluate store = .ok resolved after) :
    ∀ descriptor ∈ descriptors, store.graph.Answers descriptor := by
  induction descriptors generalizing resolved after with
  | nil => simp
  | cons descriptor rest ih =>
      simp only [resolveTargets, evaluate_bind] at evaluated
      cases first : (resolveTarget? descriptor).evaluate store with
      | error failure last =>
          rw [first] at evaluated
          cases evaluated
      | ok target last =>
          have answers := resolveTarget?_answered first
          rw [evaluate_resolveTarget? answers] at first evaluated
          have following : ∃ others last,
              (resolveTargets source rest).evaluate store = .ok others last := by
            cases resolves : store.graph.resolve? descriptor with
            | none =>
                simp only [resolves, reportUnresolved, emit, evaluate_bind, evaluate] at evaluated
                exact ⟨_, _, evaluated⟩
            | some target =>
                simp only [resolves, evaluate_bind] at evaluated
                cases others : (resolveTargets source rest).evaluate store with
                | ok others last => exact ⟨_, _, rfl⟩
                | error failure last =>
                    rw [others] at evaluated
                    cases evaluated
          obtain ⟨others, last, following⟩ := following
          intro other member
          rcases List.mem_cons.mp member with rfl | later
          · exact answers
          · exact ih following other later

theorem evaluate_createEdges (sourceStored : store.graph.hasNode source = true)
    {resolved : List (Descriptor × String)}
    (targetsStored : ∀ entry ∈ resolved, store.graph.hasNode entry.2 = true) :
    (createEdges source resolved).evaluate store =
      .ok (Store.freshEdges store.nextId resolved) (store.createRelationships source resolved) := by
  induction resolved generalizing store with
  | nil => simp [createEdges, evaluate_pure, Store.freshEdges, Store.createRelationships,
      Store.freshRelationships]
  | cons entry rest ih =>
      obtain ⟨descriptor, target⟩ := entry
      have made := Statement.perform_createRelationship source target descriptor store sourceStored
        (targetsStored (descriptor, target) (by simp))
      have following : (createEdges source rest).evaluate (store.createRelationship
          ⟨source, target, .ofEntries (Statement.relationshipProperties descriptor)⟩).2 = _ :=
        ih sourceStored fun other member => targetsStored other (by simp [member])
      simp only [createEdges, evaluate_bind, evaluate_query, made, evaluate_firstGraphId,
        following, evaluate_pure]
      rw [Store.createRelationships_cons]
      rfl

theorem evaluate_resolveUid_present {uid id : String} {properties : Properties}
    (present : store.graph.nodesWithUid (.str uid) = [(id, properties)]) :
    (resolveUid uid).evaluate store = .ok id store := by
  simp only [resolveUid, evaluate_bind, evaluate_resolveUid?, present]
  rfl

theorem evaluate_saveRelationships_absent
    (absent : store.graph.nodesWithUid (.str source) = []) :
    (saveRelationships source descriptors).evaluate store =
      .error (.graph (.notFound source "by uid")) store := by
  simp only [saveRelationships, resolveUid, evaluate_bind, evaluate_resolveUid?, absent]
  rfl

theorem evaluate_saveRelationships {id : String} {properties : Properties}
    (present : store.graph.nodesWithUid (.str source) = [(id, properties)])
    (answers : ∀ descriptor ∈ descriptors, store.graph.Answers descriptor) :
    (saveRelationships source descriptors).evaluate store =
      .ok (Store.freshEdges store.nextId (store.graph.resolved descriptors))
        (store.withRelationships id (store.graph.resolved descriptors)) := by
  have inGraph : store.graph.hasNode id = true := by
    rw [Graph.hasNode_iff]
    have member : (id, properties) ∈ store.graph.nodesWithUid (.str source) := by simp [present]
    exact List.mem_map_of_mem (Graph.mem_nodesWithUid.mp member).1
  have sourceFound := evaluate_resolveUid_present present
  have sourceStays : (store.onGraph (·.deleteOutgoing id)).graph.hasNode id = true := inGraph
  have targetsStay : ∀ entry ∈ store.graph.resolved descriptors,
      (store.onGraph (·.deleteOutgoing id)).graph.hasNode entry.2 = true := fun entry member =>
    Graph.hasNode_resolve? (Graph.mem_resolved.mp member).2
  have created := evaluate_createEdges sourceStays targetsStay
  simp only [saveRelationships, evaluate_bind, sourceFound,
    evaluate_resolveTargets source answers]
  simp only [runAll, evaluate, Statement.perform_deleteRelationships]
  exact created

/-- A save that succeeds found its source once and an answer for each descriptor. -/
theorem evaluate_saveRelationships_ok {edges : List Edge} {after : Store}
    (evaluated : (saveRelationships source descriptors).evaluate store = .ok edges after) :
    ∃ id properties, store.graph.nodesWithUid (.str source) = [(id, properties)] ∧
      (∀ descriptor ∈ descriptors, store.graph.Answers descriptor) ∧
      edges = Store.freshEdges store.nextId (store.graph.resolved descriptors) ∧
      after = store.withRelationships id (store.graph.resolved descriptors) := by
  match listed : store.graph.nodesWithUid (.str source) with
  | [] =>
      rw [evaluate_saveRelationships_absent listed] at evaluated
      cases evaluated
  | _ :: _ :: _ =>
      simp only [saveRelationships, resolveUid, evaluate_bind, evaluate_resolveUid?,
        listed, List.length_cons, Nat.lt_add_left_iff_pos, Nat.succ_pos, if_true] at evaluated
      cases evaluated
  | [(id, properties)] =>
      have answers : ∀ descriptor ∈ descriptors, store.graph.Answers descriptor := by
        simp only [saveRelationships, evaluate_bind, evaluate_resolveUid_present listed]
          at evaluated
        cases targets : (resolveTargets source descriptors).evaluate store with
        | ok resolved last => exact resolveTargets_answered targets
        | error failure last =>
            rw [targets] at evaluated
            cases evaluated
      rw [evaluate_saveRelationships listed answers] at evaluated
      cases evaluated
      exact ⟨id, properties, rfl, answers, rfl, rfl⟩

end Script

end ClusterGraph
