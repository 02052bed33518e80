import ClusterGraph.Proofs.History.CommitFrame
import ClusterGraph.Proofs.Resync.NodeSaveAgain

namespace ClusterGraph

/-! Saving relationships once more. What resolves depends on the nodes alone, so that the same
relationships are made in the same order; only their ids are new. -/

/-- An edge without the id of its relationship. -/
def Edge.withoutId (edge : Edge) : Edge :=
  { edge with graphId := "" }

/-- A relationship before and after those of a source were replaced by the same ones: it is equal,
and it has its id unless it starts at the source. -/
def Relationship.Renewed (source? : Option String) (known : List String)
    (before after : String × Relationship) : Prop :=
  after.2 = before.2 ∧
    if source? = some before.2.source then after.1 ∉ known else after.1 = before.1

namespace Store

theorem freshEdges_withoutId (first second : Nat) (resolved : List (Descriptor × String)) :
    (freshEdges first resolved).map Edge.withoutId =
      (freshEdges second resolved).map Edge.withoutId := by
  induction resolved generalizing first second with
  | nil => rfl
  | cons entry rest ih =>
      simp only [freshEdges, List.map_cons, ih (first + 1) (second + 1)]
      rfl

theorem length_freshEdges (number : Nat) (resolved : List (Descriptor × String)) :
    (freshEdges number resolved).length = resolved.length := by
  induction resolved generalizing number with
  | nil => rfl
  | cons entry rest ih => simp only [freshEdges, List.length_cons, ih]

theorem freshRelationships_renewed (id : String) {known : List String} {first second : Nat}
    (unused : ∀ number, second ≤ number → relationshipId number ∉ known)
    (resolved : List (Descriptor × String)) :
    List.Forall₂ (Relationship.Renewed (some id) known) (freshRelationships id first resolved)
      (freshRelationships id second resolved) := by
  induction resolved generalizing first second with
  | nil => exact .nil
  | cons entry rest ih =>
      refine .cons ⟨rfl, ?_⟩ (ih fun number le => unused number (Nat.le_of_succ_le le))
      rw [if_pos rfl]
      exact unused second (Nat.le_refl _)

variable {store : Store}

theorem freshRelationships_withRelationships
    (unused : ∀ number, store.nextId ≤ number →
      relationshipId number ∉ store.graph.relationships.keys)
    (id : String) (resolved : List (Descriptor × String)) :
    ∀ number, (store.withRelationships id resolved).nextId ≤ number →
      relationshipId number ∉
        (store.withRelationships id resolved).graph.relationships.keys := by
  intro number le member
  have later : store.nextId + resolved.length ≤ number := le
  rw [relationships_withRelationships, Entries.keys_append, keys_freshRelationships,
    List.mem_append] at member
  rcases member with old | fresh
  · have kept := (List.filter_sublist.map Prod.fst).subset old
    exact unused number (by omega) kept
  · obtain ⟨other, otherMember, same⟩ := List.mem_map.mp fresh
    have below := (List.mem_range'_1.mp otherMember).2
    have equal := relationshipId_injective same
    omega

/-- The same relationships once more: those of other sources stay, and those of this one get new
ids in the same order. -/
theorem withRelationships_again
    (unused : ∀ number, store.nextId ≤ number →
      relationshipId number ∉ store.graph.relationships.keys)
    (id : String) (resolved : List (Descriptor × String)) :
    List.Forall₂
      (Relationship.Renewed (some id)
        (store.withRelationships id resolved).graph.relationships.keys)
      (store.withRelationships id resolved).graph.relationships
      ((store.withRelationships id resolved).withRelationships id
        resolved).graph.relationships := by
  have others : (store.withRelationships id resolved).graph.relationships.filter
      (·.2.source != id) = store.graph.relationships.filter (·.2.source != id) := by
    have new : (freshRelationships id store.nextId resolved).filter (·.2.source != id) = [] :=
      List.filter_eq_nil_iff.mpr fun entry member => by simp [source_freshRelationships member]
    rw [relationships_withRelationships, List.filter_append, new, List.append_nil,
      List.filter_filter]
    simp only [Bool.and_self]
  have again : ((store.withRelationships id resolved).withRelationships id
      resolved).graph.relationships = _ := relationships_withRelationships resolved
  rw [again, others]
  refine List.rel_append ?_ (freshRelationships_renewed id
    (freshRelationships_withRelationships unused id resolved) resolved)
  refine List.forall₂_same.mpr fun entry member => ⟨rfl, ?_⟩
  have other : entry.2.source ≠ id := by simpa using (List.mem_filter.mp member).2
  rw [if_neg fun same => other (Option.some.inj same).symm]

end Store

/-- Relationships are no part of what a node is written with. -/
theorem Graph.UpToDate.withRelationships {store : Store} {id : String} {node : Node}
    {properties : Entries Json} (upToDate : store.graph.UpToDate id node properties)
    (source : String) (resolved : List (Descriptor × String)) :
    (store.withRelationships source resolved).graph.UpToDate id node properties :=
  ⟨upToDate.stored, upToDate.texts, upToDate.carried, upToDate.wanted⟩

namespace Script

variable {store : Store} {source : String} {descriptors : List Descriptor}

/-- Relationships do not count for what descriptors refer to. -/
theorem evaluate_saveRelationships_again {id : String} {properties : Properties}
    (present : store.graph.nodesWithUid (.str source) = [(id, properties)])
    (answers : ∀ descriptor ∈ descriptors, store.graph.Answers descriptor)
    (earlier : List (Descriptor × String)) :
    (saveRelationships source descriptors).evaluate (store.withRelationships id earlier) =
      .ok (Store.freshEdges (store.withRelationships id earlier).nextId
          (store.graph.resolved descriptors))
        ((store.withRelationships id earlier).withRelationships id
          (store.graph.resolved descriptors)) := by
  have stillPresent : (store.withRelationships id earlier).graph.nodesWithUid (.str source) =
      [(id, properties)] := present
  exact evaluate_saveRelationships stillPresent fun descriptor member =>
    ⟨(answers descriptor member).single, (answers descriptor member).ordered⟩

end Script

end ClusterGraph
