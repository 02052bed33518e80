import ClusterGraph.Proofs.History.CommitEffect

namespace ClusterGraph

/-! The graph of every run is consistent, and its nodes keep their places in it. -/

namespace Graph

/-- The ids of the nodes with the uids that are stored under them. -/
def places (graph : Graph) : List (String × String) :=
  graph.nodes.map fun node => (node.1, uid node)

theorem map_fst_places (graph : Graph) : graph.places.map Prod.fst = graph.nodes.keys := by
  simp [places, Entries.keys]

theorem map_snd_places (graph : Graph) : graph.places.map Prod.snd = graph.nodes.map uid := by
  simp [places]

end Graph

namespace Store

theorem Sound.uid_eq {store : Store} (sound : store.Sound) {id left right : String}
    (leftPlace : (id, left) ∈ store.graph.places) (rightPlace : (id, right) ∈ store.graph.places) :
    left = right := by
  have apart := sound.nodeIds.apart
  rw [← Graph.map_fst_places] at apart
  exact congrArg Prod.snd (List.inj_on_of_nodup_map apart leftPlace rightPlace rfl)

theorem Sound.id_eq {store : Store} (sound : store.Sound) {uid left right : String}
    (leftPlace : (left, uid) ∈ store.graph.places)
    (rightPlace : (right, uid) ∈ store.graph.places) : left = right := by
  have apart := sound.uids
  rw [← Graph.map_snd_places] at apart
  exact congrArg Prod.fst (List.inj_on_of_nodup_map apart leftPlace rightPlace rfl)

variable {store : Store} {id : String} {node : Node} {properties : Entries Json}

theorem places_withNewNode (written : node.properties = .ok properties) :
    (store.withNewNode node properties).graph.places =
      store.graph.places ++ [(nodeId store.nextId, node.uid)] := by
  simp [Graph.places, nodes_withNewNode, Graph.uid_ofEntries _ written]

theorem places_withNode (sound : store.Sound) (written : node.properties = .ok properties)
    {old : Properties} (present : (id, old) ∈ store.graph.nodes)
    (sameUid : Graph.uid (id, old) = node.uid) (diff : LabelDiff) :
    (store.withNode id properties diff).graph.places = store.graph.places := by
  rw [Graph.places, nodes_withNode sound written, List.map_map]
  apply List.map_congr_left
  intro entry member
  simp only [Function.comp_apply]
  split
  · rename_i same
    obtain rfl : entry = (id, old) := sound.eq_of_id member present (beq_iff_eq.mp same)
    rw [Graph.uid_ofEntries _ written, sameUid]
  · rfl

end Store

namespace Committed

variable {save : Save} {store after : Store}

/-- Every node keeps its place, and a new one goes last. -/
theorem places (sound : store.Sound) (committed : Committed save store after) :
    store.graph.places <+: after.graph.places := by
  cases committed with
  | created written absent => exact ⟨_, (Store.places_withNewNode written).symm⟩
  | updated written present sameUid read =>
      exact ⟨[], by rw [List.append_nil, Store.places_withNode sound written present sameUid]⟩
  | replaced present sameUid => exact List.prefix_refl _

theorem hasNode (sound : store.Sound) (committed : Committed save store after) {id : String}
    (stored : store.graph.hasNode id = true) : after.graph.hasNode id = true := by
  rw [Graph.hasNode_iff, ← Graph.map_fst_places] at stored ⊢
  exact ((committed.places sound).map Prod.fst).subset stored

theorem nextId_le (committed : Committed save store after) : store.nextId ≤ after.nextId := by
  cases committed with
  | created written absent => exact Nat.le_trans (Nat.le_succ _) (Nat.le_add_right _ _)
  | updated written present sameUid read => exact Nat.le_add_right _ _
  | replaced present sameUid => exact Nat.le_add_right _ _

theorem nodeIds (sound : store.Sound) (committed : Committed save store after) :
    UsedIds Store.nodeId after.nextId after.graph.nodes.keys := by
  cases committed with
  | @created node properties store written absent =>
      have keys : (store.withNewNode node properties).graph.nodes.keys =
          store.graph.nodes.keys ++ (List.range' store.nextId 1).map Store.nodeId := by
        rw [Store.nodes_withNewNode]
        simp [Entries.keys]
      rw [keys]
      exact (sound.nodeIds.append Store.nodeId_injective (Nat.le_refl _)).mono
        (Nat.le_add_right _ _)
  | @updated node properties store id old stored written present sameUid read =>
      rw [← Graph.map_fst_places, Store.places_withNode sound written present sameUid,
        Graph.map_fst_places]
      exact sound.nodeIds.mono (Nat.le_add_right _ _)
  | replaced present sameUid => exact sound.nodeIds.mono (Nat.le_add_right _ _)

theorem labelIds (sound : store.Sound) (committed : Committed save store after) :
    UsedIds Store.labelId after.nextId after.graph.labels.keys := by
  cases committed with
  | created written absent =>
      rw [Store.labels_withNewNode, Entries.keys_append, Store.keys_freshLabels]
      exact sound.labelIds.append Store.labelId_injective (Nat.le_succ _)
  | updated written present sameUid read =>
      rw [Store.labels_withNode, Entries.keys_append, Store.keys_freshLabels]
      exact (sound.labelIds.sublist (List.filter_sublist.map Prod.fst)).append
        Store.labelId_injective (Nat.le_refl _)
  | replaced present sameUid => exact sound.labelIds.mono (Nat.le_add_right _ _)

theorem relationshipIds (sound : store.Sound) (committed : Committed save store after) :
    UsedIds Store.relationshipId after.nextId after.graph.relationships.keys := by
  cases committed with
  | created written absent =>
      exact sound.relationshipIds.mono (Nat.le_trans (Nat.le_succ _) (Nat.le_add_right _ _))
  | updated written present sameUid read =>
      exact sound.relationshipIds.mono (Nat.le_add_right _ _)
  | replaced present sameUid =>
      rw [Store.relationships_withRelationships, Entries.keys_append, Store.keys_freshRelationships]
      exact (sound.relationshipIds.sublist (List.filter_sublist.map Prod.fst)).append
        Store.relationshipId_injective (Nat.le_refl _)

theorem records (sound : store.Sound) (committed : Committed save store after) :
    ∀ node ∈ after.graph.nodes, Graph.IsRecord node := by
  cases committed with
  | @created node properties store written absent =>
      intro entry member
      rw [Store.nodes_withNewNode, List.mem_append, List.mem_singleton] at member
      rcases member with old | rfl
      · exact sound.records entry old
      · exact ⟨node, properties, written, rfl⟩
  | @updated node properties store id old stored written present sameUid read =>
      intro entry member
      rw [Store.nodes_withNode sound written, List.mem_map] at member
      obtain ⟨before, beforeMember, rfl⟩ := member
      split
      · exact ⟨node, properties, written, rfl⟩
      · exact sound.records before beforeMember
  | replaced present sameUid => exact sound.records

theorem uids (sound : store.Sound) (committed : Committed save store after) :
    (after.graph.nodes.map Graph.uid).Nodup := by
  cases committed with
  | @created node properties store written absent =>
      rw [← Graph.map_snd_places, Store.places_withNewNode written, List.map_append,
        Graph.map_snd_places]
      refine sound.uids.append (by simp) ?_
      intro uid inStore inNew
      simp only [List.map_cons, List.map_nil, List.mem_singleton] at inNew
      rw [inNew] at inStore
      exact absent inStore
  | updated written present sameUid read =>
      rw [← Graph.map_snd_places, Store.places_withNode sound written present sameUid,
        Graph.map_snd_places]
      exact sound.uids
  | replaced present sameUid => exact sound.uids

/-- A label of a commit is an old one, or one that the saved node gained. -/
theorem labels_entities (sound : store.Sound) (committed : Committed save store after) :
    ∀ entry ∈ after.graph.labels, entry ∈ store.graph.labels ∨
      ∃ (label : Label) (owner : String), entry.2 = label.entity owner ∧
        after.graph.hasNode owner = true := by
  cases committed with
  | @created node properties store written absent =>
      intro entry member
      rw [Store.labels_withNewNode, List.mem_append] at member
      rcases member with old | fresh
      · exact .inl old
      · obtain ⟨_, label, _, isEntity⟩ := Store.mem_freshLabels fresh
        refine .inr ⟨label, _, isEntity, ?_⟩
        rw [Graph.hasNode_iff, Store.nodes_withNewNode, Entries.keys_append]
        simp [Entries.keys]
  | @updated node properties store id old stored written present sameUid read =>
      intro entry member
      rw [Store.labels_withNode, List.mem_append] at member
      rcases member with kept | fresh
      · exact .inl (List.mem_filter.mp kept).1
      · obtain ⟨_, label, _, isEntity⟩ := Store.mem_freshLabels fresh
        refine .inr ⟨label, id, isEntity, ?_⟩
        have committed : Committed (.upsert node) store _ :=
          .updated written present sameUid read
        refine committed.hasNode sound ?_
        rw [Graph.hasNode_iff]
        exact List.mem_map_of_mem present
  | replaced present sameUid => exact fun entry member => .inl member

theorem labels (sound : store.Sound) (committed : Committed save store after) :
    after.graph.labels.values.Nodup := by
  cases committed with
  | @created node properties store written absent =>
      rw [Store.labels_withNewNode, Entries.values_append, Store.values_freshLabels]
      refine sound.labels.append
        (List.Nodup.map (fun _ _ => Label.entity_injective) (Label.normalize_nodup node.labels)) ?_
      intro entity inStore inNew
      obtain ⟨label, _, rfl⟩ := List.mem_map.mp inNew
      obtain ⟨entry, member, same⟩ := List.mem_map.mp inStore
      have owner := sound.owners entry member
      rw [same, Graph.hasNode_iff] at owner
      exact sound.nodeIds.fresh Store.nodeId_injective (Nat.le_refl _) owner
  | @updated node properties store id old stored written present sameUid read =>
      rw [Store.labels_withNode, Entries.values_append, Store.values_freshLabels]
      refine (sound.labels.sublist (List.filter_sublist.map Prod.snd)).append
        (List.Nodup.map (fun _ _ => Label.entity_injective) LabelDiff.written_nodup) ?_
      intro entity inStore inNew
      obtain ⟨label, written, rfl⟩ := List.mem_map.mp inNew
      obtain ⟨entry, member, same⟩ := List.mem_map.mp inStore
      have unstored := (LabelDiff.mem_written.mp written).2
      exact unstored ((read label).mpr ⟨entry.1, by
        rw [← same]
        exact (List.mem_filter.mp member).1⟩)
  | replaced present sameUid => exact sound.labels

theorem ends (sound : store.Sound) (committed : Committed save store after) :
    ∀ entry ∈ after.graph.relationships,
      after.graph.hasNode entry.2.source = true ∧ after.graph.hasNode entry.2.target = true := by
  have stay : ∀ entry ∈ store.graph.relationships,
      after.graph.hasNode entry.2.source = true ∧ after.graph.hasNode entry.2.target = true :=
    fun entry member => ⟨committed.hasNode sound (sound.ends entry member).1,
      committed.hasNode sound (sound.ends entry member).2⟩
  cases committed with
  | created written absent => exact stay
  | updated written present sameUid read => exact stay
  | @replaced source descriptors store id old present sameUid =>
      intro entry member
      rw [Store.relationships_withRelationships, List.mem_append] at member
      rcases member with kept | fresh
      · exact stay entry (List.mem_filter.mp kept).1
      · have value : entry.2 ∈ (Store.freshRelationships id store.nextId
            (store.graph.resolved descriptors)).values := List.mem_map_of_mem fresh
        rw [Store.values_freshRelationships] at value
        obtain ⟨resolved, resolvedMember, isEntry⟩ := List.mem_map.mp value
        rw [← isEntry]
        refine ⟨?_, Graph.hasNode_resolve? (Graph.mem_resolved.mp resolvedMember).2⟩
        rw [Graph.hasNode_iff]
        exact List.mem_map_of_mem present

/-- A commit keeps a store sound. -/
theorem sound (sound : store.Sound) (committed : Committed save store after) : after.Sound where
  nodeIds := committed.nodeIds sound
  labelIds := committed.labelIds sound
  relationshipIds := committed.relationshipIds sound
  records := committed.records sound
  uids := committed.uids sound
  texts := by
    intro entry member
    rcases committed.labels_entities sound entry member with old | ⟨label, owner, isEntity, _⟩
    · exact sound.texts entry old
    · exact ⟨label, by rw [isEntity]; rfl⟩
  owners := by
    intro entry member
    rcases committed.labels_entities sound entry member with old | ⟨label, owner, isEntity, stored⟩
    · exact committed.hasNode sound (sound.owners entry old)
    · rw [isEntity]
      exact stored
  labels := committed.labels sound
  ends := committed.ends sound

end Committed

/-- What every graph of a run is like. -/
structure Graph.Consistent (graph : Graph) : Prop where
  named : ∀ node ∈ graph.nodes, property node.2 "uid" = .str (uid node)
  uids : (graph.nodes.map uid).Nodup
  owners : ∀ entry ∈ graph.labels, graph.hasNode entry.2.owner = true
  ends : ∀ entry ∈ graph.relationships,
    graph.hasNode entry.2.source = true ∧ graph.hasNode entry.2.target = true
  labels : graph.labels.Pairwise fun left right => left.2.owner = right.2.owner →
    left.2.key.equals right.2.key = true → left.2.value.equals right.2.value = false

theorem Store.Sound.consistent {store : Store} (sound : store.Sound) : store.graph.Consistent where
  named := fun node member => (sound.records node member).property_uid
  uids := sound.uids
  owners := sound.owners
  ends := sound.ends
  labels := by
    refine (List.pairwise_map.mp sound.labels).imp_of_mem ?_
    intro left right leftMember rightMember apart sameOwner sameKey
    obtain ⟨leftLabel, isLeft⟩ := sound.texts left leftMember
    obtain ⟨rightLabel, isRight⟩ := sound.texts right rightMember
    rw [isLeft, isRight] at sameKey ⊢
    simp only [Label.entity, Json.equals_str, beq_iff_eq, beq_eq_false_iff_ne] at sameKey ⊢
    intro sameValue
    refine apart ?_
    rw [isLeft, isRight]
    simp only [Label.entity, sameOwner, sameKey, sameValue]

namespace Evolves

variable {start store : Store} {commits : List Commit}

theorem sound (startSound : start.Sound) (evolved : Evolves start commits store) : store.Sound := by
  induction evolved with
  | start => exact startSound
  | idle _ restored ids ih => exact ih.idle restored ids
  | commit _ effect ih => exact (Save.committed ih effect).sound ih

theorem commits_consistent (startSound : start.Sound) (evolved : Evolves start commits store) :
    ∀ commit ∈ commits, commit.graph.Consistent := by
  induction evolved with
  | start => simp
  | idle _ _ _ ih => exact ih
  | commit evolved effect ih =>
      intro commit member
      rcases List.mem_cons.mp member with rfl | earlier
      · exact ((Evolves.commit evolved effect).sound startSound).consistent
      · exact ih commit earlier

theorem places (startSound : start.Sound) (evolved : Evolves start commits store) :
    start.graph.places <+: store.graph.places := by
  induction evolved with
  | start => exact List.prefix_refl _
  | idle _ restored _ ih =>
      rw [restored]
      exact ih
  | commit evolved effect ih =>
      have sound := evolved.sound startSound
      exact ih.trans ((Save.committed sound effect).places sound)

end Evolves

variable {start : System} {steps : List Step}

theorem run_sound (isEmpty : start.graph = {}) (raising : Raising start.database.faults)
    (stepsRaising : ∀ step ∈ steps, step.Raising) : (run steps start).database.store.Sound :=
  (run_evolves raising stepsRaising).sound (.empty isEmpty)

/-- From the empty graph every run goes through consistent graphs alone, and no step takes a node
away or gives another id to a uid. -/
theorem run_consistent (isEmpty : start.graph = {}) (raising : Raising start.database.faults)
    (stepsRaising : ∀ step ∈ steps, step.Raising) :
    (run steps start).graph.Consistent ∧
      (∀ commit ∈ history steps start, commit.graph.Consistent) ∧
      ∀ step : Step,
        (run steps start).graph.places <+: (step.run (run steps start)).graph.places := by
  have evolved := run_evolves raising stepsRaising
  have startSound : start.database.store.Sound := .empty isEmpty
  have sound := evolved.sound startSound
  refine ⟨sound.consistent, evolved.commits_consistent startSound, fun step => ?_⟩
  have next := step.run_evolves .start (run_raising raising stepsRaising)
  exact next.places sound

theorem interruptedRun_consistent :
    (run interruptedRun interruptedSystem).graph.Consistent ∧
      (∀ commit ∈ history interruptedRun interruptedSystem, commit.graph.Consistent) ∧
      ∀ step : Step, (run interruptedRun interruptedSystem).graph.places <+:
        (step.run (run interruptedRun interruptedSystem)).graph.places :=
  run_consistent rfl interruptedSystem_raising interruptedRun_raising

end ClusterGraph
