import ClusterGraph.Proofs.Labels.StoredLabels
import ClusterGraph.Proofs.Store.GraphNodes
import ClusterGraph.Proofs.Store.Ids
import ClusterGraph.Proofs.Store.NodeProperties

namespace ClusterGraph

/-! What holds of every store that the program made: ids and uids are told apart, nodes are stored
as the records of objects, and labels and relationships belong to stored nodes. -/

/-- Different ids, all made from numbers below the next one. -/
structure UsedIds (name : Nat → String) (next : Nat) (ids : List String) : Prop where
  apart : ids.Nodup
  used : ∀ id ∈ ids, ∃ number < next, id = name number

namespace UsedIds

variable {name : Nat → String} {next later : Nat} {ids : List String}

theorem empty (name : Nat → String) (next : Nat) : UsedIds name next [] :=
  ⟨List.nodup_nil, by simp⟩

theorem mono (used : UsedIds name next ids) (le : next ≤ later) : UsedIds name later ids := by
  refine ⟨used.apart, fun id member => ?_⟩
  obtain ⟨number, below, isId⟩ := used.used id member
  exact ⟨number, Nat.lt_of_lt_of_le below le, isId⟩

theorem sublist {some : List String} (used : UsedIds name next ids) (among : some.Sublist ids) :
    UsedIds name next some :=
  ⟨used.apart.sublist among, fun id member => used.used id (among.subset member)⟩

theorem fresh (used : UsedIds name next ids)
    (injective : ∀ {left right}, name left = name right → left = right) {number : Nat}
    (notBelow : next ≤ number) : name number ∉ ids := by
  intro member
  obtain ⟨other, below, same⟩ := used.used _ member
  have equal := injective same
  omega

theorem append (used : UsedIds name next ids)
    (injective : ∀ {left right}, name left = name right → left = right) {number count : Nat}
    (notBelow : next ≤ number) :
    UsedIds name (number + count) (ids ++ (List.range' number count).map name) := by
  constructor
  · refine used.apart.append (List.Nodup.map (fun _ _ => injective) List.nodup_range') ?_
    intro id inIds inNew
    obtain ⟨new, member, rfl⟩ := List.mem_map.mp inNew
    have low := (List.mem_range'_1.mp member).1
    exact used.fresh injective (Nat.le_trans notBelow low) inIds
  · intro id member
    rcases List.mem_append.mp member with inIds | inNew
    · obtain ⟨other, below, isId⟩ := used.used id inIds
      exact ⟨other, by omega, isId⟩
    · obtain ⟨new, newMember, rfl⟩ := List.mem_map.mp inNew
      exact ⟨new, (List.mem_range'_1.mp newMember).2, rfl⟩

end UsedIds

namespace Graph

/-- The uid that a node is stored under. -/
def uid (node : String × Properties) : String :=
  (property node.2 "uid").textOr ""

/-- The node is stored as the record of an object. -/
def IsRecord (node : String × Properties) : Prop :=
  ∃ (record : Node) (entries : Entries Json),
    record.properties = .ok entries ∧ node.2 = .ofEntries entries

theorem uid_ofEntries {record : Node} {entries : Entries Json} (id : String)
    (written : record.properties = .ok entries) : uid (id, .ofEntries entries) = record.uid := by
  have stored := (Node.isStoredAs_properties written).uid
  simp only [uid, property, stored, Option.getD_some, Json.textOr]

theorem IsRecord.property_uid {node : String × Properties} (isRecord : IsRecord node) :
    property node.2 "uid" = .str (uid node) := by
  obtain ⟨id, properties⟩ := node
  obtain ⟨record, entries, written, rfl⟩ := isRecord
  rw [uid_ofEntries id written]
  have stored := (Node.isStoredAs_properties written).uid
  simp only [property, stored, Option.getD_some]

theorem IsRecord.has_uid {node : String × Properties} (isRecord : IsRecord node) (wanted : String) :
    has "uid" (.str wanted) node = (uid node == wanted) := by
  rw [has, isRecord.property_uid, Json.equals_str]

end Graph

structure Store.Sound (store : Store) : Prop where
  nodeIds : UsedIds nodeId store.nextId store.graph.nodes.keys
  labelIds : UsedIds labelId store.nextId store.graph.labels.keys
  relationshipIds : UsedIds relationshipId store.nextId store.graph.relationships.keys
  records : ∀ node ∈ store.graph.nodes, Graph.IsRecord node
  uids : (store.graph.nodes.map Graph.uid).Nodup
  texts : store.graph.HasTextLabels
  owners : ∀ entry ∈ store.graph.labels, store.graph.hasNode entry.2.owner = true
  labels : store.graph.labels.values.Nodup
  ends : ∀ entry ∈ store.graph.relationships,
    store.graph.hasNode entry.2.source = true ∧ store.graph.hasNode entry.2.target = true

namespace Store.Sound

variable {store after : Store}

theorem empty {store : Store} (isEmpty : store.graph = {}) : store.Sound := by
  constructor <;> rw [isEmpty]
  · exact .empty _ _
  · exact .empty _ _
  · exact .empty _ _
  · simp
  · simp
  · simp [Graph.HasTextLabels]
  · simp
  · simp [Entries.values]
  · simp

/-- Used up ids do no harm. -/
theorem idle (sound : store.Sound) (restored : after.graph = store.graph)
    (ids : store.nextId ≤ after.nextId) : after.Sound := by
  constructor <;> rw [restored]
  · exact sound.nodeIds.mono ids
  · exact sound.labelIds.mono ids
  · exact sound.relationshipIds.mono ids
  · exact sound.records
  · exact sound.uids
  · exact sound.texts
  · exact sound.owners
  · exact sound.labels
  · exact sound.ends

theorem eq_of_id (sound : store.Sound) {left right : String × Properties}
    (leftMember : left ∈ store.graph.nodes) (rightMember : right ∈ store.graph.nodes)
    (same : left.1 = right.1) : left = right :=
  List.inj_on_of_nodup_map sound.nodeIds.apart leftMember rightMember same

theorem eq_of_uid (sound : store.Sound) {left right : String × Properties}
    (leftMember : left ∈ store.graph.nodes) (rightMember : right ∈ store.graph.nodes)
    (same : Graph.uid left = Graph.uid right) : left = right :=
  List.inj_on_of_nodup_map sound.uids leftMember rightMember same

theorem nodesWithUid (sound : store.Sound) (uid : String) :
    store.graph.nodesWithUid (.str uid) =
      store.graph.nodes.filter fun node => Graph.uid node == uid :=
  List.filter_congr fun node member => (sound.records node member).has_uid uid

theorem unambiguous (sound : store.Sound) (uid : String) : store.graph.Unambiguous uid := by
  have once := List.nodup_iff_count_le_one.mp sound.uids uid
  rw [List.count, List.countP_map, List.countP_eq_length_filter] at once
  rw [Graph.Unambiguous, sound.nodesWithUid]
  exact once

/-- The nodes with a uid are the one stored under it, if there is one. -/
theorem nodesWithUid_eq (sound : store.Sound) {node : String × Properties}
    (member : node ∈ store.graph.nodes) :
    store.graph.nodesWithUid (.str (Graph.uid node)) = [node] := by
  have found : node ∈ store.graph.nodesWithUid (.str (Graph.uid node)) := by
    rw [sound.nodesWithUid]
    exact List.mem_filter.mpr ⟨member, by simp⟩
  have single : (store.graph.nodesWithUid (.str (Graph.uid node))).length ≤ 1 :=
    sound.unambiguous (Graph.uid node)
  match listed : store.graph.nodesWithUid (.str (Graph.uid node)), single with
  | [], _ => simp [listed] at found
  | [other], _ =>
      rw [listed, List.mem_singleton] at found
      rw [found]
  | _ :: _ :: _, single => simp at single

theorem uid_of_nodesWithUid (sound : store.Sound) {node : String × Properties} {uid : String}
    (member : node ∈ store.graph.nodesWithUid (.str uid)) :
    node ∈ store.graph.nodes ∧ Graph.uid node = uid := by
  rw [sound.nodesWithUid, List.mem_filter] at member
  exact ⟨member.1, beq_iff_eq.mp member.2⟩

theorem nodesWithUid_nil (sound : store.Sound) {uid : String} :
    store.graph.nodesWithUid (.str uid) = [] ↔ uid ∉ store.graph.nodes.map Graph.uid := by
  rw [sound.nodesWithUid, List.filter_eq_nil_iff]
  simp

theorem uidKey_eq (sound : store.Sound) {node : String × Properties}
    (member : node ∈ store.graph.nodes) : Graph.uidKey node = .str (Graph.uid node) :=
  Graph.uidKey_of_property (sound.records node member).property_uid

theorem hasTextUids (sound : store.Sound) : store.graph.HasTextUids :=
  fun node member => ⟨Graph.uid node, sound.uidKey_eq member⟩

end Store.Sound

end ClusterGraph
