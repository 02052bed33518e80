import ClusterGraph.Store.Graph
import Mathlib.Data.List.Nodup

namespace ClusterGraph

/-! Looking up the nodes of a graph by their ids and by their uids. -/

namespace Entries

variable {α : Type} {entries : Entries α} {key : String} {value : α}

theorem contains_iff : entries.contains key = true ↔ key ∈ entries.keys := by
  unfold contains get? keys
  rw [List.lookup_isSome_iff, List.mem_map]
  constructor
  · rintro ⟨entry, member, same⟩
    exact ⟨entry, member, (beq_iff_eq.mp same).symm⟩
  · rintro ⟨entry, member, same⟩
    exact ⟨entry, member, beq_iff_eq.mpr same.symm⟩

theorem mem_of_get? (found : entries.get? key = some value) : (key, value) ∈ entries := by
  obtain ⟨before, after, rfl, _⟩ := List.lookup_eq_some_iff.mp found
  exact List.mem_append_right before List.mem_cons_self

theorem get?_of_mem (distinct : entries.keys.Nodup) (member : (key, value) ∈ entries) :
    entries.get? key = some value := by
  induction entries with
  | nil => simp at member
  | cons entry rest ih =>
      simp only [keys, List.map_cons, List.nodup_cons] at distinct
      rw [get?_cons]
      rcases List.mem_cons.mp member with rfl | later
      · simp
      · have differ : key ≠ entry.1 := fun same =>
          distinct.1 (List.mem_map.mpr ⟨_, later, same⟩)
        rw [if_neg (by simpa using differ)]
        exact ih distinct.2 later

theorem keys_append (others : Entries α) :
    Entries.keys (entries ++ others : List (String × α)) = entries.keys ++ others.keys := by
  simp [keys]

theorem values_append (others : Entries α) :
    Entries.values (entries ++ others : List (String × α)) = entries.values ++ others.values := by
  simp [values]

theorem get?_append (others : Entries α) (key : String) :
    Entries.get? (entries ++ others : List (String × α)) key =
      (entries.get? key).or (others.get? key) := by
  simp only [get?, List.lookup_append]

end Entries

namespace Graph

/-- Every node has a text for its uid, or none at all. -/
def HasTextUids (graph : Graph) : Prop :=
  ∀ node ∈ graph.nodes, ∃ uid, uidKey node = .str uid

/-- No two nodes have this uid. -/
def Unambiguous (graph : Graph) (uid : String) : Prop :=
  (graph.nodesWithUid (.str uid)).length ≤ 1

variable {graph : Graph} {id : String}

theorem hasNode_iff : graph.hasNode id = true ↔ id ∈ graph.nodes.keys :=
  Entries.contains_iff

theorem keys_addNode (graph : Graph) (id : String) (properties : Properties) :
    (graph.addNode id properties).nodes.keys = graph.nodes.keys ++ [id] := by
  simp [addNode, Entries.keys]

theorem keys_mergeNode (graph : Graph) (id : String) (properties : Properties) :
    (graph.mergeNode id properties).nodes.keys = graph.nodes.keys := by
  simp only [mergeNode, Entries.keys, List.map_map]
  apply List.map_congr_left
  intro node _
  simp only [Function.comp_apply]
  split
  · rename_i same
    exact (beq_iff_eq.mp same).symm
  · rfl

theorem uidKey_of_property {node : String × Properties} {uid : String}
    (isUid : property node.2 "uid" = .str uid) : uidKey node = .str uid := by
  simp only [uidKey, isUid, Json.isVacant]
  split
  · rename_i empty
    rw [String.isEmpty_iff.mp empty]
  · rfl

theorem mem_nodesWithUid {uid : Json} {node : String × Properties} :
    node ∈ graph.nodesWithUid uid ↔ node ∈ graph.nodes ∧ has "uid" uid node = true :=
  List.mem_filter

end Graph

end ClusterGraph
