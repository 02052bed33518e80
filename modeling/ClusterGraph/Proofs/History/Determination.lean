import ClusterGraph.Proofs.History.LastSaves

namespace ClusterGraph

/-! The graph is determined by the saves that were committed. A commit goes on with the history that
the graph reflects, and everything else leaves the graph alone. -/

namespace Committed

variable {save : Save} {store after : Store} {saves : List Save}

theorem uids_eq (sound : store.Sound) (reflects : store.graph.Reflects saves)
    (committed : Committed save store after) :
    after.graph.nodes.map Graph.uid = History.uids (save :: saves) := by
  cases committed with
  | created written absent =>
      rw [← Graph.map_snd_places, Store.places_withNewNode written, List.map_append,
        Graph.map_snd_places, reflects.uids]
      rw [reflects.uids] at absent
      simp only [History.uids, if_neg absent, List.map_cons, List.map_nil]
  | @updated node properties store id old stored written present sameUid read =>
      rw [← Graph.map_snd_places, Store.places_withNode sound written present sameUid,
        Graph.map_snd_places, reflects.uids]
      have known : node.uid ∈ History.uids saves := by
        rw [← reflects.uids, ← sameUid]
        exact List.mem_map_of_mem present
      simp only [History.uids, if_pos known]
  | replaced present sameUid => exact reflects.uids

theorem nodes_eq (sound : store.Sound) (reflects : store.graph.Reflects saves)
    (committed : Committed save store after) :
    ∀ entry ∈ after.graph.nodes, ∃ record entries,
      History.lastNode? (Graph.uid entry) (save :: saves) = some record ∧
        record.properties = .ok entries ∧ entry.2 = .ofEntries entries := by
  cases committed with
  | @created node properties store written absent =>
      intro entry member
      rw [Store.nodes_withNewNode, List.mem_append, List.mem_singleton] at member
      rcases member with old | rfl
      · have differ : node.uid ≠ Graph.uid entry := fun same =>
          absent (same ▸ List.mem_map_of_mem old)
        simp only [History.lastNode?, if_neg differ]
        exact reflects.nodes entry old
      · refine ⟨node, properties, ?_, written, rfl⟩
        simp only [History.lastNode?, Graph.uid_ofEntries _ written, if_true]
  | @updated node properties store id old stored written present sameUid read =>
      intro entry member
      rw [Store.nodes_withNode sound written, List.mem_map] at member
      obtain ⟨before, beforeMember, rfl⟩ := member
      split
      · refine ⟨node, properties, ?_, written, rfl⟩
        simp only [History.lastNode?, Graph.uid_ofEntries _ written, if_true]
      · rename_i otherId
        have differ : node.uid ≠ Graph.uid before := by
          intro same
          obtain rfl := sound.eq_of_uid present beforeMember (sameUid.trans same)
          simp at otherId
        simp only [History.lastNode?, if_neg differ]
        exact reflects.nodes before beforeMember
  | replaced present sameUid => exact reflects.nodes

/-- The relationships of a commit point to the nodes that the history tells. -/
theorem linksFrom_replaced (sound : store.Sound) (reflects : store.graph.Reflects saves)
    (descriptors : List Descriptor) (id : String) (old : Properties) :
    (store.withRelationships id (store.graph.resolved descriptors)).graph.linksFrom id =
      (History.links (Graph.uid (id, old))
        (.replace (Graph.uid (id, old)) descriptors :: saves)).map fun link =>
          (.ofEntries (Statement.relationshipProperties link.1), some link.2) := by
  have places : (store.withRelationships id (store.graph.resolved descriptors)).graph.uidAt? =
      store.graph.uidAt? := rfl
  rw [Graph.linksFrom, Store.outgoing_withRelationships_same, Store.values_freshRelationships,
    List.map_map, places, History.links, if_pos rfl]
  exact sound.linksOf_eq reflects descriptors

theorem links_eq (sound : store.Sound) (reflects : store.graph.Reflects saves)
    (committed : Committed save store after) :
    ∀ node ∈ after.graph.nodes, after.graph.linksFrom node.1 =
      (History.links (Graph.uid node) (save :: saves)).map fun link =>
        (.ofEntries (Statement.relationshipProperties link.1), some link.2) := by
  have place {node : String × Properties} (member : node ∈ store.graph.nodes)
      (other : ∀ descriptors, save ≠ .replace (Graph.uid node) descriptors)
      (same : History.links (Graph.uid node) (save :: saves) =
        History.links (Graph.uid node) saves) :
      after.graph.linksFrom node.1 =
        (History.links (Graph.uid node) (save :: saves)).map fun link =>
          (.ofEntries (Statement.relationshipProperties link.1), some link.2) := by
    rw [same, committed.linksFrom_other sound member other]
    exact reflects.links node member
  intro node member
  cases committed with
  | @created saved properties store written absent =>
      rw [Store.nodes_withNewNode, List.mem_append, List.mem_singleton] at member
      rcases member with old | rfl
      · exact place old (by simp) rfl
      · rw [reflects.uids] at absent
        have nothing : (store.withNewNode saved properties).graph.outgoing
            (Store.nodeId store.nextId) = [] := by
          refine List.filter_eq_nil_iff.mpr fun entry entryMember same => ?_
          have stored := (sound.ends entry entryMember).1
          rw [beq_iff_eq.mp same, Graph.hasNode_iff] at stored
          exact sound.nodeIds.fresh Store.nodeId_injective (Nat.le_refl _) stored
        rw [Graph.uid_ofEntries _ written, Graph.linksFrom, nothing, History.links,
          reflects.unlinked saved.uid absent]
        rfl
  | @updated saved properties store id old stored written present sameUid read =>
      have inPlaces : (node.1, Graph.uid node) ∈ store.graph.places := by
        rw [← Store.places_withNode sound written present sameUid]
        exact List.mem_map.mpr ⟨node, member, rfl⟩
      obtain ⟨before, beforeMember, samePlace⟩ := List.mem_map.mp inPlaces
      obtain ⟨sameId, sameBefore⟩ := Prod.mk.inj samePlace
      rw [← sameId, ← sameBefore]
      exact place beforeMember (by simp) rfl
  | @replaced source descriptors store id old present sameUid =>
      have inStore : node ∈ store.graph.nodes := member
      by_cases isSource : Graph.uid node = source
      · obtain rfl := sound.eq_of_uid inStore present (isSource.trans sameUid.symm)
        rw [← sameUid]
        exact linksFrom_replaced sound reflects descriptors id old
      · have differ : source ≠ Graph.uid node := fun same => isSource same.symm
        exact place inStore (by simp [differ]) (by simp only [History.links, if_neg differ])

/-- A commit goes on with the history that a graph reflects. -/
theorem reflects (sound : store.Sound) (reflects : store.graph.Reflects saves)
    (committed : Committed save store after) : after.graph.Reflects (save :: saves) where
  uids := committed.uids_eq sound reflects
  nodes := committed.nodes_eq sound reflects
  links := committed.links_eq sound reflects
  unlinked := by
    intro uid unknown
    have before : uid ∉ History.uids saves := fun known => unknown (History.uids_later save known)
    have nothing := reflects.unlinked uid before
    cases committed with
    | created | updated => exact nothing
    | @replaced source descriptors store id old present sameUid =>
        have differ : source ≠ uid := by
          rintro rfl
          rw [← reflects.uids, ← sameUid] at before
          exact before (List.mem_map_of_mem present)
        simp only [History.links, if_neg differ, nothing]

end Committed

namespace Evolves

variable {start store : Store} {commits : List Commit}

theorem reflects (isEmpty : start.graph = {}) (evolved : Evolves start commits store) :
    store.graph.Reflects (commits.map Commit.save) := by
  induction evolved with
  | start =>
      rw [isEmpty]
      exact ⟨rfl, by simp, by simp, fun _ _ => rfl⟩
  | idle _ restored _ ih =>
      rw [restored]
      exact ih
  | commit evolved effect ih =>
      have sound := evolved.sound (.empty isEmpty)
      exact (Save.committed sound effect).reflects sound ih

theorem outgoing_other (startSound : start.Sound) (evolved : Evolves start commits store)
    {node : String × Properties} (member : node ∈ start.graph.nodes)
    (other : ∀ descriptors, .replace (Graph.uid node) descriptors ∉ commits.map Commit.save) :
    store.graph.outgoing node.1 = start.graph.outgoing node.1 := by
  induction evolved with
  | start => rfl
  | idle _ restored _ ih =>
      rw [restored]
      exact ih other
  | @commit commits before after save evolved effect ih =>
      simp only [List.map_cons, List.mem_cons, not_or] at other
      have sound := evolved.sound startSound
      have place : (node.1, Graph.uid node) ∈ before.graph.places :=
        (evolved.places startSound).subset (List.mem_map.mpr ⟨node, member, rfl⟩)
      obtain ⟨current, currentMember, samePlace⟩ := List.mem_map.mp place
      obtain ⟨sameId, sameUid⟩ := Prod.mk.inj samePlace
      rw [← ih fun descriptors => (other descriptors).2, ← sameId]
      refine (Save.committed sound effect).outgoing_other sound currentMember ?_
      rw [sameUid]
      exact fun descriptors same => (other descriptors).1 same.symm

end Evolves

variable {start : System} {steps : List Step}

end ClusterGraph
