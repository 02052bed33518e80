import ClusterGraph.Proofs.History.Consistency

namespace ClusterGraph

/-! What a commit does to the labels of a node: labels of other nodes stay, and those of the saved
node stay if their key does and are joined by the new ones. -/

/-- The node under an id has a label. -/
def Graph.HasLabel (graph : Graph) (id : String) (label : Label) : Prop :=
  ∃ labelId, (labelId, label.entity id) ∈ graph.labels

/-- The save is one of a node with a uid, and of these labels. -/
def Save.Labels (save : Save) (uid : String) (labels : List Label) : Prop :=
  ∃ node : Node, save = .upsert node ∧ node.uid = uid ∧ node.labels = labels

theorem Save.Labels.unique {save : Save} {uid : String} {left right : List Label}
    (first : save.Labels uid left) (second : save.Labels uid right) : left = right := by
  obtain ⟨node, rfl, _, rfl⟩ := first
  obtain ⟨other, same, _, rfl⟩ := second
  cases same
  rfl

theorem Label.owner_entity {left right : Label} {leftOwner rightOwner : String}
    (same : left.entity leftOwner = right.entity rightOwner) :
    left = right ∧ leftOwner = rightOwner := by
  obtain rfl : leftOwner = rightOwner := congrArg LabelEntity.owner same
  exact ⟨entity_injective same, rfl⟩

namespace Store

variable {store : Store} {id : String} {node : Node} {properties : Entries Json}
  {stored : List Label} {labelId owner : String} {label : Label}

theorem mem_labels_withNode
    (read : ∀ label, label ∈ stored ↔ store.graph.HasLabel id label) :
    (labelId, label.entity owner) ∈
        (store.withNode id properties (LabelDiff.between stored node.labels)).graph.labels ↔
      ((labelId, label.entity owner) ∈ store.graph.labels ∧
        (owner = id → LabelDiff.hasKey node.labels label.key = true)) ∨
      (labelId, label.entity owner) ∈ freshLabels id store.nextId
        ((LabelDiff.between stored node.labels).added ++
          (LabelDiff.between stored node.labels).changed) := by
  rw [labels_withNode, List.mem_append, List.mem_filter]
  refine or_congr_left (and_congr_right fun member => keepsLabel_entity ?_)
  rintro rfl
  exact (read label).mpr ⟨labelId, member⟩

theorem hasLabel_withNode (read : ∀ label, label ∈ stored ↔ store.graph.HasLabel id label)
    (member : label ∈ node.labels) :
    (store.withNode id properties
      (LabelDiff.between stored node.labels)).graph.HasLabel id label := by
  by_cases isStored : label ∈ stored
  · obtain ⟨labelId, before⟩ := (read label).mp isStored
    have keyStays : LabelDiff.hasKey node.labels label.key = true :=
      LabelDiff.hasKey_iff.mpr ⟨label, member, rfl⟩
    exact ⟨labelId, (mem_labels_withNode read).mpr (.inl ⟨before, fun _ => keyStays⟩)⟩
  · obtain ⟨labelId, fresh⟩ := exists_freshLabel id store.nextId
      (LabelDiff.mem_written.mpr ⟨member, isStored⟩)
    exact ⟨labelId, (mem_labels_withNode read).mpr (.inr fresh)⟩

theorem hasLabel_withNewNode (member : label ∈ node.labels) :
    (store.withNewNode node properties).graph.HasLabel (nodeId store.nextId) label := by
  obtain ⟨labelId, fresh⟩ := exists_freshLabel (nodeId store.nextId) (store.nextId + 1)
    (Label.mem_normalize.mpr member)
  exact ⟨labelId, List.mem_append_right _ fresh⟩

end Store

namespace Committed

variable {save : Save} {store after : Store} {id uid labelId : String} {label : Label}

/-- A node is at its old place, or it is new and so is its uid. -/
theorem place_cases (committed : Committed save store after) (sound : store.Sound)
    (place : (id, uid) ∈ after.graph.places) :
    (id, uid) ∈ store.graph.places ∨
      id = Store.nodeId store.nextId ∧ uid ∉ store.graph.nodes.map Graph.uid := by
  cases committed with
  | created written absent =>
      rw [Store.places_withNewNode written, List.mem_append, List.mem_singleton] at place
      rcases place with old | new
      · exact .inl old
      · obtain ⟨rfl, rfl⟩ := Prod.mk.inj new
        exact .inr ⟨rfl, absent⟩
  | updated written present sameUid read =>
      rw [Store.places_withNode sound written present sameUid] at place
      exact .inl place
  | replaced present sameUid => exact .inl place

/-- A label stays while the saves of its node have its key. -/
theorem label_stays (committed : Committed save store after) (sound : store.Sound)
    (place : (id, uid) ∈ store.graph.places)
    (member : (labelId, label.entity id) ∈ store.graph.labels)
    (keyStays : ∀ labels, save.Labels uid labels → LabelDiff.hasKey labels label.key = true) :
    (labelId, label.entity id) ∈ after.graph.labels := by
  obtain ⟨node, nodeMember, samePlace⟩ := List.mem_map.mp place
  obtain ⟨rfl, rfl⟩ := Prod.mk.inj samePlace
  cases committed with
  | created written absent =>
      rw [Store.labels_withNewNode]
      exact List.mem_append_left _ member
  | @updated saved properties store ownId old stored written present sameUid read =>
      refine (Store.mem_labels_withNode read).mpr (.inl ⟨member, fun same => ?_⟩)
      obtain rfl := sound.eq_of_id nodeMember present same
      exact keyStays saved.labels ⟨saved, rfl, sameUid.symm, rfl⟩
  | replaced present sameUid => exact member

/-- All labels of a save are stored. -/
theorem label_gained (committed : Committed save store after) (sound : store.Sound)
    (place : (id, uid) ∈ after.graph.places) {labels : List Label} (saved : save.Labels uid labels)
    (member : label ∈ labels) : after.graph.HasLabel id label := by
  have afterSound := committed.sound sound
  obtain ⟨node, rfl, rfl, rfl⟩ := saved
  cases committed with
  | @created node properties store written absent =>
      have isNew : (Store.nodeId store.nextId, node.uid) ∈
          (store.withNewNode node properties).graph.places := by
        simp [Store.places_withNewNode written]
      obtain rfl := afterSound.id_eq place isNew
      exact Store.hasLabel_withNewNode member
  | @updated node properties store ownId old stored written present sameUid read =>
      rw [Store.places_withNode sound written present sameUid] at place
      have own : (ownId, node.uid) ∈ store.graph.places :=
        List.mem_map.mpr ⟨(ownId, old), present, by rw [sameUid]⟩
      obtain rfl := sound.id_eq place own
      exact Store.hasLabel_withNode read member

theorem label_cases_created {node : Node} {properties : Entries Json} (sound : store.Sound)
    (written : node.properties = .ok properties)
    (absent : node.uid ∉ store.graph.nodes.map Graph.uid)
    (place : (id, uid) ∈ (store.withNewNode node properties).graph.places)
    (member : (labelId, label.entity id) ∈ (store.withNewNode node properties).graph.labels) :
    ((labelId, label.entity id) ∈ store.graph.labels ∧ node.uid ≠ uid) ∨
      node.uid = uid ∧ label ∈ node.labels ∧ ¬ store.graph.HasLabel id label ∧
        ∃ number, store.nextId ≤ number ∧ labelId = Store.labelId number := by
  have unowned {otherId : String} (other : Label) :
      (otherId, other.entity (Store.nodeId store.nextId)) ∉ store.graph.labels := by
    intro owned
    have stored := sound.owners _ owned
    rw [Graph.hasNode_iff] at stored
    exact sound.nodeIds.fresh Store.nodeId_injective (Nat.le_refl _) stored
  rw [Store.labels_withNewNode, List.mem_append] at member
  rw [Store.places_withNewNode written, List.mem_append, List.mem_singleton] at place
  rcases member with old | fresh
  · rcases place with oldPlace | newPlace
    · refine .inl ⟨old, ?_⟩
      rintro rfl
      rw [← Graph.map_snd_places] at absent
      exact absent (List.mem_map_of_mem oldPlace)
    · obtain ⟨rfl, rfl⟩ := Prod.mk.inj newPlace
      exact absurd old (unowned label)
  · obtain ⟨⟨number, low, _, isId⟩, found, foundMember, isEntity⟩ := Store.mem_freshLabels fresh
    obtain ⟨rfl, rfl⟩ := Label.owner_entity isEntity
    rcases place with oldPlace | newPlace
    · have oldId : Store.nodeId store.nextId ∈ store.graph.nodes.keys := by
        rw [← Graph.map_fst_places]
        exact List.mem_map_of_mem oldPlace
      exact absurd oldId (sound.nodeIds.fresh Store.nodeId_injective (Nat.le_refl _))
    · refine .inr ⟨(congrArg Prod.snd newPlace).symm, Label.mem_normalize.mp foundMember, ?_,
        number, Nat.le_of_succ_le low, isId⟩
      rintro ⟨otherId, owned⟩
      exact unowned label owned

/-- A stored label is an old one whose key was not left out, or a new one under a new id. -/
theorem label_cases (committed : Committed save store after) (sound : store.Sound)
    (place : (id, uid) ∈ after.graph.places)
    (member : (labelId, label.entity id) ∈ after.graph.labels) :
    ((labelId, label.entity id) ∈ store.graph.labels ∧
      ∀ labels, save.Labels uid labels → LabelDiff.hasKey labels label.key = true) ∨
    (∃ labels, save.Labels uid labels ∧ label ∈ labels) ∧ ¬ store.graph.HasLabel id label ∧
      ∃ number, store.nextId ≤ number ∧ labelId = Store.labelId number := by
  cases committed with
  | @created node properties store written absent =>
      rcases label_cases_created sound written absent place member with
        ⟨old, differ⟩ | ⟨sameUid, carried, new⟩
      · refine .inl ⟨old, ?_⟩
        rintro labels ⟨saved, same, isUid, _⟩
        cases same
        exact absurd isUid differ
      · exact .inr ⟨⟨node.labels, ⟨node, rfl, sameUid, rfl⟩, carried⟩, new⟩
  | @updated node properties store ownId old stored written present sameUid read =>
      rw [Store.places_withNode sound written present sameUid] at place
      have own : (ownId, node.uid) ∈ store.graph.places :=
        List.mem_map.mpr ⟨(ownId, old), present, by rw [sameUid]⟩
      rcases (Store.mem_labels_withNode read).mp member with ⟨before, keyStays⟩ | fresh
      · refine .inl ⟨before, ?_⟩
        rintro labels ⟨saved, same, isUid, rfl⟩
        cases same
        subst isUid
        exact keyStays (sound.id_eq place own)
      · obtain ⟨⟨number, low, _, isId⟩, found, foundMember, isEntity⟩ :=
          Store.mem_freshLabels fresh
        obtain ⟨rfl, rfl⟩ := Label.owner_entity isEntity
        obtain ⟨carried, unstored⟩ := LabelDiff.mem_written.mp foundMember
        refine .inr ⟨⟨node.labels, ⟨node, rfl, sound.uid_eq own place, rfl⟩, carried⟩, ?_,
          number, low, isId⟩
        exact fun isStored => unstored ((read label).mpr isStored)
  | replaced present sameUid =>
      refine .inl ⟨member, ?_⟩
      rintro labels ⟨saved, same, _⟩
      cases same

end Committed

end ClusterGraph
