import ClusterGraph.Proofs.History.Consistency

namespace ClusterGraph

/-! What a commit leaves alone: the save of a node touches no relationship, and the save of the
relationships of one node touches no properties and no other relationships. -/

namespace Graph

/-- The uid that is stored under an id. -/
def uidAt? (graph : Graph) (id : String) : Option String :=
  Entries.get? graph.places id

/-- The relationships that start at a node: their properties and the uids that they point to. -/
def linksFrom (graph : Graph) (id : String) : List (Properties × Option String) :=
  (graph.outgoing id).values.map fun relationship =>
    (relationship.properties, graph.uidAt? relationship.target)

/-- The relationships that descriptors make in the graph, likewise. -/
def linksOf (graph : Graph) (descriptors : List Descriptor) : List (Properties × Option String) :=
  (graph.resolved descriptors).map fun entry =>
    (.ofEntries (Statement.relationshipProperties entry.1), graph.uidAt? entry.2)

end Graph

theorem Store.Sound.uidAt?_eq {store : Store} (sound : store.Sound) {node : String × Properties}
    (member : node ∈ store.graph.nodes) : store.graph.uidAt? node.1 = some (Graph.uid node) := by
  refine Entries.get?_of_mem ?_ (List.mem_map.mpr ⟨node, member, rfl⟩)
  rw [Entries.keys, Graph.map_fst_places]
  exact sound.nodeIds.apart

namespace Store

theorem source_freshRelationships {source : String} {number : Nat}
    {resolved : List (Descriptor × String)} {entry : String × Relationship}
    (member : entry ∈ freshRelationships source number resolved) : entry.2.source = source := by
  have value : entry.2 ∈ (freshRelationships source number resolved).values :=
    List.mem_map_of_mem member
  rw [values_freshRelationships] at value
  obtain ⟨_, _, isEntry⟩ := List.mem_map.mp value
  rw [← isEntry]

theorem outgoing_withRelationships_same (store : Store) (id : String)
    (resolved : List (Descriptor × String)) :
    (store.withRelationships id resolved).graph.outgoing id =
      freshRelationships id store.nextId resolved := by
  have old :
      (store.graph.relationships.filter (·.2.source != id)).filter (·.2.source == id) = [] := by
    simp
  have new : (freshRelationships id store.nextId resolved).filter (·.2.source == id) =
      freshRelationships id store.nextId resolved :=
    List.filter_eq_self.mpr fun entry member => by
      rw [source_freshRelationships member, beq_self_eq_true]
  rw [Graph.outgoing, relationships_withRelationships, List.filter_append, old, new,
    List.nil_append]

theorem outgoing_withRelationships_other (store : Store) {id other : String} (differ : other ≠ id)
    (resolved : List (Descriptor × String)) :
    (store.withRelationships id resolved).graph.outgoing other = store.graph.outgoing other := by
  have old : (store.graph.relationships.filter (·.2.source != id)).filter (·.2.source == other) =
      store.graph.relationships.filter (·.2.source == other) := by
    rw [List.filter_filter]
    apply List.filter_congr
    intro entry _
    by_cases isOther : entry.2.source = other <;> simp [isOther, differ]
  have new : (freshRelationships id store.nextId resolved).filter (·.2.source == other) = [] :=
    List.filter_eq_nil_iff.mpr fun entry member => by
      rw [source_freshRelationships member]
      simpa using differ.symm
  rw [Graph.outgoing, relationships_withRelationships, List.filter_append, old, new,
    List.append_nil]
  rfl

end Store

namespace Committed

variable {save : Save} {store after : Store}

theorem uidAt?_stored (sound : store.Sound) (committed : Committed save store after) {id : String}
    (stored : store.graph.hasNode id = true) :
    after.graph.uidAt? id = store.graph.uidAt? id := by
  obtain ⟨new, extended⟩ := committed.places sound
  obtain ⟨node, member, rfl⟩ := List.mem_map.mp (Graph.hasNode_iff.mp stored)
  have found := sound.uidAt?_eq member
  simp only [Graph.uidAt?] at found ⊢
  rw [← extended, Entries.get?_append, found, Option.some_or]

/-- Only the save of relationships of a uid changes those that start at its node. -/
theorem outgoing_other (sound : store.Sound) (committed : Committed save store after)
    {node : String × Properties} (member : node ∈ store.graph.nodes)
    (other : ∀ descriptors, save ≠ .replace (Graph.uid node) descriptors) :
    after.graph.outgoing node.1 = store.graph.outgoing node.1 := by
  cases committed with
  | created written absent => rfl
  | updated written present sameUid read => rfl
  | @replaced source descriptors store id old present sameUid =>
      refine Store.outgoing_withRelationships_other store ?_ _
      intro same
      obtain rfl := sound.eq_of_id member present same
      exact other descriptors (by rw [sameUid])

theorem linksFrom_other (sound : store.Sound) (committed : Committed save store after)
    {node : String × Properties} (member : node ∈ store.graph.nodes)
    (other : ∀ descriptors, save ≠ .replace (Graph.uid node) descriptors) :
    after.graph.linksFrom node.1 = store.graph.linksFrom node.1 := by
  simp only [Graph.linksFrom, committed.outgoing_other sound member other]
  apply List.map_congr_left
  intro relationship relationshipMember
  obtain ⟨entry, entryMember, rfl⟩ := List.mem_map.mp relationshipMember
  have stored := (sound.ends entry (List.mem_filter.mp entryMember).1).2
  rw [committed.uidAt?_stored sound stored]

end Committed

end ClusterGraph
