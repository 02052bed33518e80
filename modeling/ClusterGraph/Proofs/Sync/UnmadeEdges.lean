import ClusterGraph.Proofs.Store.SilentStatements
import ClusterGraph.Proofs.Sync.EdgeOrigins
import ClusterGraph.Proofs.Sync.EnduringSync

namespace ClusterGraph

/-! The edges that a save of relationships tells, under faults of every kind. An edge has the id of
its relationship, or no id and no relationship: where the database leaves the statement undone, the
save tells and counts the edge all the same. -/

namespace Edge

/-- The edge has the id of a relationship. -/
def isMade (edge : Edge) : Bool :=
  edge.graphId != ""

/-- The relationships of a node that some of its edges have the ids of. -/
def relationships (source : String) (edges : List Edge) : Entries Relationship :=
  (edges.filter isMade).map fun edge => (edge.graphId, edge.stored source)

end Edge

theorem Store.relationshipId_ne_empty (number : Nat) : relationshipId number ≠ "" := by
  intro same
  have short := congrArg String.length same
  simp [relationshipId, String.length_append] at short

/-- A graph before and after relationships of a node were made, with the edges that tell them. -/
structure Graph.Linked (before after : Graph) (source : String) (edges : List Edge) : Prop where
  nodes : after.nodes = before.nodes
  labels : after.labels = before.labels
  relationships : after.relationships = before.relationships ++ Edge.relationships source edges

namespace Graph.Linked

variable {before middle after : Graph} {source : String} {edge : Edge} {edges : List Edge}

theorem refl (graph : Graph) (source : String) : graph.Linked graph source [] :=
  ⟨rfl, rfl, (List.append_nil _).symm⟩

/-- An edge without an id stands for nothing. -/
theorem unmade (linked : before.Linked after source edges) (unmade : edge.isMade = false) :
    before.Linked after source (edge :: edges) := by
  refine ⟨linked.nodes, linked.labels, ?_⟩
  rw [linked.relationships, Edge.relationships, Edge.relationships,
    List.filter_cons_of_neg (by simp [unmade])]

theorem made (linked : (before.addRelationship edge.graphId (edge.stored source)).Linked after
    source edges) (made : edge.isMade = true) : before.Linked after source (edge :: edges) := by
  refine ⟨linked.nodes, linked.labels, ?_⟩
  rw [linked.relationships, Edge.relationships, Edge.relationships,
    List.filter_cons_of_pos made, List.map_cons]
  simp only [addRelationship, List.append_assoc, List.singleton_append]

end Graph.Linked

namespace Script

variable {mute : String → Prop} {store : Store} {source : String}

theorem ensures_firstGraphId? (nodes : Entries Properties) (store : Store) :
    (firstGraphId? (nodes.map fun node => Graph.idRow node.1)).Ensures mute
      (fun found after => after = store ∧ ∀ id, found = some id → ∃ node ∈ nodes, node.1 = id)
      store := by
  cases nodes with
  | nil => exact ⟨rfl, fun id found => by cases found⟩
  | cons node rest =>
      rw [List.map_cons, firstGraphId?_idRow]
      refine ⟨rfl, fun id found => ?_⟩
      cases found
      exact ⟨node, List.mem_cons_self, rfl⟩

theorem ensures_resolveUid? (uid : String) (store : Store) :
    (resolveUid? uid).Ensures mute
      (fun found after => after = store ∧ ∀ id, found = some id →
        ∃ node ∈ store.graph.nodesWithUid (.str uid), node.1 = id) store := by
  refine ⟨fun _ => ⟨rfl, fun id found => by cases found⟩, fun rows after performed => ?_⟩
  rw [show Statement.resolveUid uid = .resolveUid uid from rfl,
    Statement.perform_resolveUid] at performed
  cases performed
  simp only [Script.bind]
  split
  · trivial
  · exact ensures_firstGraphId? _ store

/-- A target that is found is stored. -/
theorem ensures_resolveTarget? (descriptor : Descriptor) (store : Store) :
    (resolveTarget? descriptor).Ensures mute
      (fun found after => after = store ∧ ∀ id, found = some id → store.graph.hasNode id = true)
      store := by
  have isStored {nodes : Entries Properties} (among : ∀ node ∈ nodes, node ∈ store.graph.nodes)
      {found : Option String} (isFound : ∀ id, found = some id → ∃ node ∈ nodes, node.1 = id) :
      ∀ id, found = some id → store.graph.hasNode id = true := by
    intro id same
    obtain ⟨node, member, rfl⟩ := isFound id same
    exact Graph.hasNode_iff.mpr (List.mem_map_of_mem (among node member))
  unfold resolveTarget?
  split
  · refine (ensures_resolveUid? descriptor.targetUid store).mono ?_
    rintro found after ⟨rfl, isFound⟩
    exact ⟨rfl, isStored (fun node member => (Graph.mem_nodesWithUid.mp member).1) isFound⟩
  · split
    · exact ⟨rfl, fun id found => by cases found⟩
    · refine ⟨fun _ => ⟨rfl, fun id found => by cases found⟩, fun rows after performed => ?_⟩
      cases isSorted : store.graph.nodesByUid? with
      | none =>
          rw [Statement.perform_resolveName_unordered descriptor store isSorted] at performed
          cases performed
      | some sorted =>
          rw [Statement.perform_resolveName descriptor store isSorted] at performed
          cases performed
          refine (ensures_firstGraphId? _ store).mono ?_
          rintro found after ⟨rfl, isFound⟩
          refine ⟨rfl, isStored (fun node member => ?_) isFound⟩
          exact (Json.perm_of_sortOn? isSorted).subset
            (List.mem_of_find?_eq_some (Option.mem_toList.mp member))

theorem ensures_resolveTargets (source : String) (descriptors : List Descriptor)
    (store : Store) :
    (resolveTargets source descriptors).Ensures mute (fun resolved after => after = store ∧
      ∀ entry ∈ resolved, store.graph.hasNode entry.2 = true) store := by
  induction descriptors with
  | nil => exact ⟨rfl, by simp⟩
  | cons descriptor rest ih =>
      refine (ensures_resolveTarget? descriptor store).bind ?_
      rintro found after ⟨rfl, isStored⟩
      cases found with
      | none => exact ih
      | some id =>
          refine Ensures.bind ih ?_
          rintro resolved after ⟨rfl, others⟩
          refine ⟨rfl, fun entry member => ?_⟩
          rcases List.mem_cons.mp member with rfl | later
          · exact isStored id rfl
          · exact others entry later

/-- Only an edge whose statement was left undone lacks its relationship. -/
theorem ensures_createEdges {resolved : List (Descriptor × String)}
    (sourceStored : store.graph.hasNode source = true)
    (targetsStored : ∀ entry ∈ resolved, store.graph.hasNode entry.2 = true) :
    (createEdges source resolved).Ensures mute (fun edges after =>
      store.graph.Linked after.graph source edges ∧
        (¬ mute Query.createRelationship.name → ∀ edge ∈ edges, edge.isMade = true)) store := by
  induction resolved generalizing store with
  | nil => exact ⟨.refl store.graph source, fun _ => by simp⟩
  | cons entry rest ih =>
      obtain ⟨descriptor, target⟩ := entry
      have others := fun other member => targetsStored other (List.mem_cons_of_mem _ member)
      have performs := Statement.perform_createRelationship source target descriptor store
        sourceStored (targetsStored (descriptor, target) List.mem_cons_self)
      refine ⟨fun silent => ?_, fun rows after performed => ?_⟩
      · refine (ih sourceStored others).bind ?_
        rintro edges after ⟨linked, _⟩
        exact ⟨linked.unmade rfl, fun heard => absurd silent heard⟩
      · rw [performs] at performed
        cases performed
        simp only [Script.bind, firstGraphId?_idRow]
        let edge : Edge :=
          { relationship := descriptor.relationship
            targetType := descriptor.targetType
            targetGraphId := target
            targetUid := descriptor.targetUid
            graphId := Store.relationshipId store.nextId
            targetName := descriptor.targetName
            targetNamespace := descriptor.targetNamespace }
        have isMade : edge.isMade = true :=
          bne_iff_ne.mpr (Store.relationshipId_ne_empty store.nextId)
        have following : (createEdges source rest).Ensures mute _
            (store.createRelationship (edge.stored source)).2 := ih sourceStored others
        change (createEdges source rest >>= fun edges => .done (edge :: edges)).Ensures mute _ _
        refine following.bind ?_
        rintro edges after ⟨linked, made⟩
        refine ⟨Graph.Linked.made linked isMade, fun heard other member => ?_⟩
        rcases List.mem_cons.mp member with rfl | later
        · exact isMade
        · exact made heard other later

/-- The graph before and after a save of relationships, with the edges that are told. Those that
start at the source go, unless this is left undone. -/
structure Relinks (mute : String → Prop) (source : String) (before after : Graph)
    (edges : List Edge) : Prop where
  linked : ∃ node ∈ before.nodes, Graph.property node.2 "uid" = .str source ∧
    ∃ cleared : Graph, (cleared = before.deleteOutgoing node.1 ∨
      mute Query.deleteRelationships.name ∧ cleared = before) ∧
      cleared.Linked after node.1 edges
  made : ¬ mute Query.createRelationship.name → ∀ edge ∈ edges, edge.isMade = true

theorem ensures_saveRelationships (source : String) (descriptors : List Descriptor)
    (store : Store) :
    (saveRelationships source descriptors).Ensures mute
      (fun edges after => Relinks mute source store.graph after.graph edges) store := by
  have sourceFound : (resolveUid source).Ensures mute (fun id after => after = store ∧
      ∃ node ∈ store.graph.nodesWithUid (.str source), node.1 = id) store := by
    refine (ensures_resolveUid? source store).bind ?_
    rintro found after ⟨rfl, isFound⟩
    cases found with
    | none => trivial
    | some id => exact ⟨rfl, isFound id rfl⟩
  refine sourceFound.bind ?_
  rintro id after ⟨rfl, node, member, rfl⟩
  obtain ⟨isStored, hasUid⟩ := Graph.mem_nodesWithUid.mp member
  have sourceStored : after.graph.hasNode node.1 = true :=
    Graph.hasNode_iff.mpr (List.mem_map_of_mem isStored)
  refine (ensures_resolveTargets source descriptors after).bind ?_
  rintro resolved _ ⟨rfl, targetsStored⟩
  refine ⟨fun silent => ?_, fun rows cleared performed => ?_⟩
  · refine (ensures_createEdges sourceStored targetsStored).mono fun edges last ⟨linked, made⟩ => ?_
    exact ⟨⟨node, isStored, Graph.has_str_iff.mp hasUid, _, .inr ⟨silent, rfl⟩, linked⟩, made⟩
  · rw [Statement.perform_deleteRelationships] at performed
    cases performed
    have stays : (Store.onGraph _ (·.deleteOutgoing node.1)).graph.hasNode node.1 = true :=
      sourceStored
    refine (ensures_createEdges stays targetsStored).mono fun edges last ⟨linked, made⟩ => ?_
    exact ⟨⟨node, isStored, Graph.has_str_iff.mp hasUid, _, .inl rfl, linked⟩, made⟩

end Script

namespace Action

variable {system after : System} {source : String} {descriptors : List Descriptor}
  {edges : List Edge}

/-- What a save of relationships tells and counts, whatever faults there are: one relationship is
made for each edge with an id, and all edges are counted. Edges without an id are only told where a
silent fault is meant for the statement that makes relationships. -/
theorem saveRelationships_told
    (ran : saveRelationships source descriptors system = .ok edges after) :
    Script.Relinks (Mutes system.database.faults) source system.graph after.graph edges ∧
      ∀ relationship, after.counters.value (.written relationship) =
        system.counters.value (.written relationship) +
          (edges.filter Edge.isMade).countP (·.relationship == relationship) +
          (edges.filter (!·.isMade)).countP (·.relationship == relationship) := by
  simp only [saveRelationships, bind, EStateM.bind] at ran
  cases transacted : transaction (Script.saveRelationships source descriptors) system with
  | error failure middle => simp [transacted] at ran
  | ok told middle =>
      obtain ⟨last, reported, same, counted⟩ :=
        reportRelationships_ok source descriptors.length told middle
      simp only [transacted, reported] at ran
      cases ran
      have relinked := transaction_ensures (Script.ensures_saveRelationships source descriptors
        system.database.store) transacted
      refine ⟨?_, fun relationship => ?_⟩
      · rw [System.graph, System.graph, same]
        exact relinked
      · have tallies :=
          transaction_tallies (Script.counts_saveRelationships source descriptors) system
        rw [after_ok transacted] at tallies
        have uncounted : middle.counters.value (.written relationship) = _ :=
          tallies.value (by simp [Series.IsUnresolved])
        have parts := List.countP_eq_countP_filter_add edges (·.relationship == relationship)
          Edge.isMade
        rw [counted, uncounted, Edge.counted, parts, Nat.add_assoc]

/-- A pod, with a database that leaves the statement undone that makes relationships. -/
def unanswered : System :=
  { database :=
      { store :=
          { graph := { nodes := [(Store.nodeId 1, .ofEntries [("uid", .str "pod")])] }
            nextId := 2 }
        faults := [{ site := .statement, kind := .silence, query := some "CREATE_RELATIONSHIP" }] }
    journal := { threshold := 50 } }

theorem saveRelationships_unanswered :
    ∃ edge after, saveRelationships "pod" [{ relationship := "OWNS", targetUid := "pod" }]
        unanswered = .ok [edge] after ∧
      edge.isMade = false ∧ after.graph.relationships = [] ∧
      after.counters.value (.written "OWNS") = 1 := by
  let save := saveRelationships "pod" [{ relationship := "OWNS", targetUid := "pod" }]
  have told : (save.run' unanswered).map (·.map Edge.isMade) = some [false] := by
    decide +kernel
  have left : (after save unanswered).graph.relationships.isEmpty = true ∧
      (after save unanswered).counters.value (.written "OWNS") = 1 := by
    decide +kernel
  delta EStateM.run' EStateM.run at told
  cases ran : save unanswered with
  | error failure last => simp [ran] at told
  | ok edges last =>
      rw [after_ok ran, List.isEmpty_iff] at left
      simp only [ran, Option.map_some, Option.some.injEq, List.map_eq_singleton_iff] at told
      obtain ⟨edge, rfl, unmade⟩ := told
      exact ⟨edge, last, ran, unmade, left⟩

/-- The pod is told to own itself, without a relationship. -/
theorem saveRelationships_told_unanswered :
    ∃ edge after, saveRelationships "pod" [{ relationship := "OWNS", targetUid := "pod" }]
        unanswered = .ok [edge] after ∧ edge.isMade = false ∧
      Script.Relinks (Mutes unanswered.database.faults) "pod" unanswered.graph after.graph
        [edge] := by
  obtain ⟨edge, after, ran, unmade, _⟩ := saveRelationships_unanswered
  exact ⟨edge, after, ran, unmade, (saveRelationships_told ran).1⟩

/-- Neither is each edge that is told stored, nor is each relationship that is counted made. -/
theorem not_saveRelationships_stored :
    (¬ ∀ (source : String) (descriptors : List Descriptor) (system after : System)
      (edges : List Edge), saveRelationships source descriptors system = .ok edges after →
      ∀ edge ∈ edges, ∃ id, (edge.graphId, edge.stored id) ∈ after.graph.relationships) ∧
    ¬ ∀ (source relationship : String) (descriptors : List Descriptor) (system after : System)
      (edges : List Edge), saveRelationships source descriptors system = .ok edges after →
      after.counters.value (.written relationship) ≤
        system.counters.value (.written relationship) + after.graph.relationships.length := by
  obtain ⟨edge, after, ran, _, unlinked, counted⟩ := saveRelationships_unanswered
  constructor
  · intro stored
    obtain ⟨id, member⟩ := stored _ _ _ _ _ ran edge List.mem_cons_self
    rw [unlinked] at member
    cases member
  · intro made
    have few := made _ "OWNS" _ _ _ _ ran
    rw [counted, unlinked] at few
    exact absurd few (by decide +kernel)

end Action

end ClusterGraph
