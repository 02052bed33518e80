import ClusterGraph.Proofs.Resync.RelationshipSaveAgain
import ClusterGraph.Proofs.Sync.EdgeReadBack
import ClusterGraph.Proofs.Sync.Targets

namespace ClusterGraph

/-! The exact effect of a save of relationships: it fails if its source is missing or a uid that it
looks up is stored twice, and otherwise makes one relationship for each descriptor that refers to a
node, in the order of the descriptors. -/

namespace Graph

/-- A node is stored under the uid. -/
def Knows (graph : Graph) (uid : String) : Prop :=
  ∃ node ∈ graph.nodes, property node.2 "uid" = .str uid

variable {graph : Graph} {uid : String}

theorem nodesWithUid_eq_nil : graph.nodesWithUid (.str uid) = [] ↔ ¬ graph.Knows uid := by
  rw [nodesWithUid, List.filter_eq_nil_iff]
  simp only [has_str_iff, Knows, not_exists, not_and]

theorem exists_nodesWithUid (known : graph.Knows uid) (single : graph.Unambiguous uid) :
    ∃ id properties, graph.nodesWithUid (.str uid) = [(id, properties)] := by
  unfold Unambiguous at single
  cases listed : graph.nodesWithUid (.str uid) with
  | nil => exact absurd known (nodesWithUid_eq_nil.mp listed)
  | cons node rest =>
      rw [listed] at single
      obtain rfl : rest = [] := by simpa using single
      exact ⟨node.1, node.2, rfl⟩

/-- The graph before and after the relationships of a node were replaced by those of descriptors,
with the edges that are told: one relationship for each descriptor that refers to a node, in order,
with ids from a number on. All else stays. -/
structure Replaced (before after : Graph) (number : Nat) (id : String)
    (descriptors : List Descriptor) (edges : List Edge) : Prop where
  nodes : after.nodes = before.nodes
  labels : after.labels = before.labels
  others : after.relationships.filter (·.2.source != id) =
    before.relationships.filter (·.2.source != id)
  outgoing : ∃ targets, before.Targets descriptors targets ∧
    (after.outgoing id).values = targets.map (fun entry =>
      ⟨id, entry.2, .ofEntries (Statement.relationshipProperties entry.1)⟩) ∧
    (after.outgoing id).keys = (List.range' number targets.length).map Store.relationshipId ∧
    edges = Store.freshEdges number targets

theorem replaced_withRelationships {store : Store} (texts : store.graph.HasTextUids) (id : String)
    {descriptors : List Descriptor}
    (single : ∀ descriptor ∈ descriptors, descriptor.byUid = true →
      store.graph.Unambiguous descriptor.targetUid) :
    store.graph.Replaced (store.withRelationships id (store.graph.resolved descriptors)).graph
      store.nextId id descriptors (Store.freshEdges store.nextId (store.graph.resolved descriptors))
    where
  nodes := rfl
  labels := rfl
  others := by
    have new : (Store.freshRelationships id store.nextId
        (store.graph.resolved descriptors)).filter (·.2.source != id) = [] :=
      List.filter_eq_nil_iff.mpr fun entry member => by
        simp [Store.source_freshRelationships member]
    rw [Store.relationships_withRelationships, List.filter_append, new, List.append_nil,
      List.filter_filter]
    simp only [Bool.and_self]
  outgoing := by
    refine ⟨_, targets_resolved texts single, ?_, ?_, rfl⟩
    · rw [Store.outgoing_withRelationships_same, Store.values_freshRelationships]
    · rw [Store.outgoing_withRelationships_same, Store.keys_freshRelationships]

end Graph

namespace Script

variable {store : Store} {source : String} {descriptors : List Descriptor}

/-- A uid that is stored twice ends the look-up of targets. -/
theorem evaluate_resolveTargets_ambiguous (texts : store.graph.HasTextUids) (source : String)
    (several : ∃ descriptor ∈ descriptors, descriptor.byUid = true ∧
      ¬ store.graph.Unambiguous descriptor.targetUid) :
    ∃ uid count, (resolveTargets source descriptors).evaluate store =
      .error (.graph (.ambiguous uid count)) store := by
  induction descriptors with
  | nil => simp at several
  | cons descriptor rest ih =>
      simp only [resolveTargets, evaluate_bind]
      by_cases single : descriptor.byUid = true → store.graph.Unambiguous descriptor.targetUid
      · have later : ∃ other ∈ rest, other.byUid = true ∧
            ¬ store.graph.Unambiguous other.targetUid := by
          obtain ⟨other, member, byUid, isSeveral⟩ := several
          rcases List.mem_cons.mp member with rfl | inRest
          · exact absurd (single byUid) isSeveral
          · exact ⟨other, inRest, byUid, isSeveral⟩
        obtain ⟨uid, count, failed⟩ := ih later
        rw [evaluate_resolveTarget? (Graph.answers_of_texts texts single)]
        cases store.graph.resolve? descriptor with
        | none =>
            simp only [reportUnresolved, emit, evaluate_bind, evaluate]
            exact ⟨uid, count, failed⟩
        | some target =>
            simp only [evaluate_bind, failed]
            exact ⟨uid, count, rfl⟩
      · obtain ⟨byUid, isSeveral⟩ := Classical.not_imp.mp single
        rw [resolveTarget?, if_pos byUid, evaluate_resolveUid?,
          if_pos (Nat.lt_of_not_le isSeveral)]
        exact ⟨_, _, rfl⟩

theorem evaluate_saveRelationships_ambiguous (texts : store.graph.HasTextUids)
    (known : store.graph.Knows source)
    (several : ¬ store.graph.Unambiguous source ∨ ∃ descriptor ∈ descriptors,
      descriptor.byUid = true ∧ ¬ store.graph.Unambiguous descriptor.targetUid) :
    ∃ uid count, (saveRelationships source descriptors).evaluate store =
      .error (.graph (.ambiguous uid count)) store := by
  by_cases single : store.graph.Unambiguous source
  · obtain ⟨id, properties, present⟩ := Graph.exists_nodesWithUid known single
    obtain ⟨uid, count, failed⟩ := evaluate_resolveTargets_ambiguous texts source
      (several.resolve_left (not_not.mpr single))
    simp only [saveRelationships, evaluate_bind, evaluate_resolveUid_present present, failed]
    exact ⟨uid, count, rfl⟩
  · simp only [saveRelationships, resolveUid, evaluate_bind, evaluate_resolveUid?,
      if_pos (Nat.lt_of_not_le single)]
    exact ⟨_, _, rfl⟩

end Script

namespace Action

/-- What a save of relationships does in a system without faults. -/
structure ReplacesRelationships (source : String) (descriptors : List Descriptor)
    (system : System) : Prop where
  missing : (∃ identifier detail after, saveRelationships source descriptors system =
      .error (.graph (.notFound identifier detail)) after) ↔ ¬ system.graph.Knows source
  ambiguous : system.graph.Knows source →
    ((∃ uid count after, saveRelationships source descriptors system =
        .error (.graph (.ambiguous uid count)) after) ↔
      ¬ system.graph.Unambiguous source ∨ ∃ descriptor ∈ descriptors,
        descriptor.byUid = true ∧ ¬ system.graph.Unambiguous descriptor.targetUid)
  unchanged : ∀ failure after, saveRelationships source descriptors system = .error failure after →
    after.graph = system.graph
  replaced : system.graph.Knows source → system.graph.Unambiguous source →
    (∀ descriptor ∈ descriptors, descriptor.byUid = true →
      system.graph.Unambiguous descriptor.targetUid) →
    ∃ edges after, saveRelationships source descriptors system = .ok edges after ∧
      (∃ node ∈ system.graph.nodes, Graph.property node.2 "uid" = .str source ∧
        system.graph.Replaced after.graph system.database.store.nextId node.1 descriptors edges) ∧
      ∃ found last, findEdges source after = .ok found last ∧
        found.Perm (edges.map after.graph.named)

variable {system : System} {source : String} {descriptors : List Descriptor}

theorem saveRelationships_missing (calm : system.database.faults = [])
    (unknown : ¬ system.graph.Knows source) (descriptors : List Descriptor) :
    ∃ after, saveRelationships source descriptors system =
      .error (.graph (.notFound source "by uid")) after := by
  have ends := saveRelationships_calm calm source descriptors
  have absent : system.database.store.graph.nodesWithUid (.str source) = [] :=
    Graph.nodesWithUid_eq_nil.mpr unknown
  rw [Script.evaluate_saveRelationships_absent absent] at ends
  exact ends

theorem saveRelationships_ambiguous (calm : system.database.faults = [])
    (texts : system.graph.HasTextUids) (known : system.graph.Knows source)
    (several : ¬ system.graph.Unambiguous source ∨ ∃ descriptor ∈ descriptors,
      descriptor.byUid = true ∧ ¬ system.graph.Unambiguous descriptor.targetUid) :
    ∃ uid count after, saveRelationships source descriptors system =
      .error (.graph (.ambiguous uid count)) after := by
  have ends := saveRelationships_calm calm source descriptors
  have failed : ∃ uid count,
      (Script.saveRelationships source descriptors).evaluate system.database.store =
        .error (.graph (.ambiguous uid count)) system.database.store :=
    Script.evaluate_saveRelationships_ambiguous texts known several
  obtain ⟨uid, count, evaluated⟩ := failed
  rw [evaluated] at ends
  exact ⟨uid, count, ends⟩

theorem saveRelationships_replaced (calm : system.database.faults = [])
    (texts : system.graph.HasTextUids) (known : system.graph.Knows source)
    (sourceSingle : system.graph.Unambiguous source)
    (single : ∀ descriptor ∈ descriptors, descriptor.byUid = true →
      system.graph.Unambiguous descriptor.targetUid) :
    ∃ edges after, saveRelationships source descriptors system = .ok edges after ∧
      (∃ node ∈ system.graph.nodes, Graph.property node.2 "uid" = .str source ∧
        system.graph.Replaced after.graph system.database.store.nextId node.1 descriptors edges) ∧
      ∃ found last, findEdges source after = .ok found last ∧
        found.Perm (edges.map after.graph.named) := by
  obtain ⟨id, properties, present⟩ := Graph.exists_nodesWithUid known sourceSingle
  have isSource : (id, properties) ∈ system.graph.nodes ∧
      Graph.property properties "uid" = .str source := by
    have member : (id, properties) ∈ system.graph.nodesWithUid (.str source) := by simp [present]
    exact ⟨(Graph.mem_nodesWithUid.mp member).1,
      Graph.has_str_iff.mp (Graph.mem_nodesWithUid.mp member).2⟩
  have evaluated : (Script.saveRelationships source descriptors).evaluate system.database.store =
      .ok _ _ := Script.evaluate_saveRelationships present fun descriptor member =>
    Graph.answers_of_texts texts (single descriptor member)
  have ends := saveRelationships_calm calm source descriptors
  rw [evaluated] at ends
  obtain ⟨after, ran, isStore⟩ := ends
  have quiet : after.database.faults = [] := by
    have precedes := saveRelationships_precedes source descriptors system
    rw [after_ok ran] at precedes
    exact (calm ▸ precedes.faults).eq_nil
  have isGraph : after.graph = (system.database.store.withRelationships id
      (system.graph.resolved descriptors)).graph := congrArg Store.graph isStore
  have targetsStored : ∀ entry ∈ system.graph.resolved descriptors,
      after.graph.hasNode entry.2 = true := by
    rw [isGraph]
    exact fun entry member => Graph.hasNode_resolve? (Graph.mem_resolved.mp member).2
  have tell : List.Forall₂ after.graph.Tells (after.graph.outgoing id)
      ((Store.freshEdges system.database.store.nextId
        (system.graph.resolved descriptors)).map after.graph.named) := by
    have outgoing : after.graph.outgoing id = Store.freshRelationships id
        system.database.store.nextId (system.graph.resolved descriptors) := by
      rw [isGraph]
      exact Store.outgoing_withRelationships_same system.database.store id _
    rw [outgoing]
    exact Graph.tells_freshRelationships targetsStored id _
  obtain ⟨rows, found, listed, read, permuted⟩ := Graph.relationshipRows_tell tell
  have stillPresent : after.graph.nodesWithUid (.str source) = [(id, properties)] := by
    rw [isGraph]
    exact present
  obtain ⟨last, foundRan, _⟩ := findEdges_calm quiet stillPresent listed read
  refine ⟨_, after, ran, ⟨(id, properties), isSource.1, isSource.2, ?_⟩, found, last, foundRan,
    permuted⟩
  rw [isGraph]
  exact Graph.replaced_withRelationships texts id single

/-- The save of relationships in a system without faults, whatever the graph holds, as long as its
uids are texts. The edges that it returns are found again under the source, up to their order and
the names of their targets, which a look-up takes from the target itself. -/
theorem saveRelationships_replaces (texts : system.graph.HasTextUids)
    (calm : system.database.faults = []) (source : String) (descriptors : List Descriptor) :
    ReplacesRelationships source descriptors system where
  missing := by
    refine ⟨?_, fun unknown => ⟨_, _, saveRelationships_missing calm unknown descriptors⟩⟩
    rintro ⟨identifier, detail, after, ran⟩ known
    by_cases several : ¬ system.graph.Unambiguous source ∨ ∃ descriptor ∈ descriptors,
        descriptor.byUid = true ∧ ¬ system.graph.Unambiguous descriptor.targetUid
    · obtain ⟨uid, count, last, failed⟩ := saveRelationships_ambiguous calm texts known several
      rw [ran] at failed
      cases failed
    · push Not at several
      obtain ⟨edges, last, succeeded, _⟩ :=
        saveRelationships_replaced calm texts known several.1 several.2
      rw [ran] at succeeded
      cases succeeded
  ambiguous known := by
    refine ⟨?_, saveRelationships_ambiguous calm texts known⟩
    rintro ⟨uid, count, after, ran⟩
    by_contra several
    push Not at several
    obtain ⟨edges, last, succeeded, _⟩ :=
      saveRelationships_replaced calm texts known several.1 several.2
    rw [ran] at succeeded
    cases succeeded
  unchanged failure after ran := by
    have raising : Raising system.database.faults := by simp [calm, Raising]
    exact (saveRelationships_failed raising calm rfl ran).1
  replaced := saveRelationships_replaced calm texts

/-- A pod with a relationship of its own, a machine that is known by its name, and two nodes with
one uid. -/
def crowded : System :=
  { database := { store :=
      { graph :=
          { nodes :=
              [(Store.nodeId 1, .ofEntries [("uid", .str "pod"), ("kind", .str "Pod")]),
               (Store.nodeId 2, .ofEntries
                 [("uid", .str "machine"), ("kind", .str "Node"), ("name", .str "m")]),
               (Store.nodeId 3, .ofEntries [("uid", .str "twin")]),
               (Store.nodeId 4, .ofEntries [("uid", .str "twin")])]
            relationships :=
              [(Store.relationshipId 5, ⟨Store.nodeId 1, Store.nodeId 1, []⟩),
               (Store.relationshipId 6, ⟨Store.nodeId 2, Store.nodeId 1, []⟩)] }
        nextId := 7 } }
    journal := { threshold := 50 } }

/-- The pod refers to the machine, to nothing and to itself. -/
def ofCrowdedPod : List Descriptor :=
  [{ relationship := "RUNS_ON", targetType := "Node", targetName := "m" },
   { relationship := "OWNS", targetUid := "nobody" },
   { relationship := "OWNS", targetUid := "pod" }]

theorem hasTextUids_crowded : crowded.graph.HasTextUids := by
  intro node member
  simp only [System.graph, crowded, List.mem_cons, List.not_mem_nil, or_false] at member
  rcases member with rfl | rfl | rfl | rfl <;> exact ⟨_, rfl⟩

/-- The pod gets its relationships, but none to the twins. -/
theorem saveRelationships_replaces_crowded :
    (∃ edges after, saveRelationships "pod" ofCrowdedPod crowded = .ok edges after ∧
      ∃ node ∈ crowded.graph.nodes, Graph.property node.2 "uid" = .str "pod" ∧
        crowded.graph.Replaced after.graph 7 node.1 ofCrowdedPod edges) ∧
      ∃ uid count after, saveRelationships "pod"
        [{ relationship := "OWNS", targetUid := "twin" }] crowded =
          .error (.graph (.ambiguous uid count)) after := by
  have known : crowded.graph.Knows "pod" := ⟨_, List.mem_cons_self, rfl⟩
  have single : ∀ descriptor ∈ ofCrowdedPod, descriptor.byUid = true →
      crowded.graph.Unambiguous descriptor.targetUid := by
    intro descriptor member _
    simp only [ofCrowdedPod, List.mem_cons, List.not_mem_nil, or_false] at member
    unfold Graph.Unambiguous
    rcases member with rfl | rfl | rfl <;> decide +kernel
  have podSingle : crowded.graph.Unambiguous "pod" := by
    unfold Graph.Unambiguous
    decide +kernel
  have twins : ¬ crowded.graph.Unambiguous "twin" := by
    unfold Graph.Unambiguous
    decide +kernel
  obtain ⟨edges, after, ran, replaced, _⟩ :=
    (saveRelationships_replaces hasTextUids_crowded rfl "pod" ofCrowdedPod).replaced known
      podSingle single
  refine ⟨⟨edges, after, ran, replaced⟩, ?_⟩
  exact ((saveRelationships_replaces hasTextUids_crowded rfl "pod" _).ambiguous known).mpr
    (.inr ⟨_, List.mem_singleton_self _, by decide, twins⟩)

end Action

end ClusterGraph
