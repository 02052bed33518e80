import ClusterGraph.Proofs.Sync.EdgeOrigins

namespace ClusterGraph

/-! The first sync of an object: its node is made, and then its relationships, to nodes that were
there before or to itself. -/

variable {graph : Graph} {descriptor : Descriptor} {id : String}

/-- A name that fits one node alone is resolved to it. -/
theorem Graph.resolve?_single (texts : graph.HasTextUids) (byName : descriptor.byUid = false)
    (kind : descriptor.target.kind.isEmpty = false)
    (single : (graph.nodes.filter (Statement.names descriptor)).map Prod.fst = [id]) :
    graph.resolve? descriptor = some id := by
  obtain ⟨absent, found⟩ := resolve?_byName texts byName kind
  have isTarget {node : String × Properties} (member : node ∈ graph.nodes)
      (fits : Statement.names descriptor node = true) : node.1 = id := by
    have listed : node.1 ∈ (graph.nodes.filter (Statement.names descriptor)).map Prod.fst :=
      List.mem_map_of_mem (List.mem_filter.mpr ⟨member, fits⟩)
    rw [single] at listed
    exact List.mem_singleton.mp listed
  cases resolves : graph.resolve? descriptor with
  | none =>
      have unfit : graph.nodes.filter (Statement.names descriptor) = [] :=
        List.filter_eq_nil_iff.mpr fun node member => by simp [absent.mp resolves node member]
      rw [unfit] at single
      cases single
  | some other =>
      obtain ⟨node, member, rfl, fits, _⟩ := found other resolves
      rw [isTarget member fits]

theorem Graph.resolved_of_forall {targets : List (Descriptor × String)}
    (resolves : ∀ entry ∈ targets, graph.resolve? entry.1 = some entry.2) :
    graph.resolved (targets.map Prod.fst) = targets := by
  induction targets with
  | nil => rfl
  | cons entry rest ih =>
      have others := ih fun other member => resolves other (List.mem_cons_of_mem _ member)
      simp only [resolved, List.map_cons, List.filterMap_cons, resolves entry List.mem_cons_self,
        Option.map_some] at others ⊢
      rw [others]

namespace Store

variable {store : Store} {node : Node} {properties : Entries Json}

theorem hasTextUids_withNewNode (texts : store.graph.HasTextUids)
    (written : node.properties = .ok properties) :
    (store.withNewNode node properties).graph.HasTextUids := by
  intro entry member
  rw [nodes_withNewNode, List.mem_append, List.mem_singleton] at member
  rcases member with before | rfl
  · exact texts entry before
  · have hold := Properties.hold_ofEntries (Node.keys_nodup written)
    exact ⟨node.uid, (Graph.has_uid_told _ (hold _ (Node.uid_written written))).2⟩

/-- A name other than that of the new node is resolved among the nodes before it. -/
theorem resolve?_withNewNode (texts : store.graph.HasTextUids)
    (written : node.properties = .ok properties) (byName : descriptor.byUid = false)
    (kind : descriptor.target.kind.isEmpty = false) (other : descriptor.targetName ≠ node.name)
    (single : (store.graph.nodes.filter (Statement.names descriptor)).map Prod.fst = [id]) :
    (store.withNewNode node properties).graph.resolve? descriptor = some id := by
  refine Graph.resolve?_single (hasTextUids_withNewNode texts written) byName kind ?_
  have unfit :
      ¬ Statement.names descriptor (nodeId store.nextId, .ofEntries properties) = true := by
    rw [Statement.names_iff]
    intro fits
    have isName := fits.name
    rw [Graph.property, (Node.isStoredAs_properties written).name] at isName
    exact other (Json.str.inj isName).symm
  rw [nodes_withNewNode, List.filter_append, List.filter_cons_of_neg unfit, List.filter_nil,
    List.append_nil]
  exact single

end Store

namespace Synchronizer

variable {synchronizer : Synchronizer} {tree : Json} {system : System} {properties : Entries Json}

theorem sync_first (known : (synchronizer.projector.project tree).uid.isEmpty = false)
    (calm : system.database.faults = [])
    (written : (synchronizer.projector.project tree).properties = .ok properties)
    (absent : system.graph.nodesWithUid (.str (synchronizer.projector.project tree).uid) = [])
    (answers : ∀ descriptor ∈ synchronizer.rules.derive tree,
      (system.database.store.withNewNode (synchronizer.projector.project tree)
        properties).graph.Answers descriptor) :
    ∃ last number, synchronizer.sync tree system =
        .ok (synchronizer.resultOf tree (Store.nodeId system.database.store.nextId)
          (Store.freshEdges number
            ((system.database.store.withNewNode (synchronizer.projector.project tree)
              properties).graph.resolved (synchronizer.rules.derive tree)))) last ∧
      last.graph.nodes = system.graph.nodes ++
        [(Store.nodeId system.database.store.nextId, .ofEntries properties)] := by
  have saves : synchronizer.Saves tree system.database.store _ _ properties _ _ :=
    ⟨written, Script.evaluate_saveNode_absent absent,
      Script.evaluate_saveRelationships (Store.nodesWithUid_withNewNode written absent) answers⟩
  obtain ⟨last, ran, isLast, _⟩ := sync_of_saves known calm saves
  exact ⟨last, _, ran, by rw [System.graph, isLast]; rfl⟩

end Synchronizer

end ClusterGraph
