import ClusterGraph.Resource.Node
import Mathlib.Data.List.Nodup
import Mathlib.Data.List.Perm.Basic

namespace ClusterGraph

/-! The order of labels. A set of labels is told by one list alone: the one that holds its labels in
ascending order, each once. -/

theorem eraseDups_sublist {α : Type} [BEq α] : (items : List α) → items.eraseDups.Sublist items
  | [] => .slnil
  | item :: rest => by
      rw [List.eraseDups_cons]
      exact .cons_cons item
        ((eraseDups_sublist (rest.filter fun other => !other == item)).trans List.filter_sublist)
termination_by items => items.length
decreasing_by
  have shorter := List.length_filter_le (fun other => !other == item) rest
  simp only [List.length_cons]
  omega

namespace Label

theorem le_trans (first second third : Label) (low : le first second = true)
    (high : le second third = true) : le first third = true := by
  unfold le at *
  grind [String.le_trans, String.le_antisymm]

theorem le_total (left right : Label) : (le left right || le right left) = true := by
  unfold le
  grind [String.le_total]

theorem le_antisymm (left right : Label) (low : le left right = true)
    (high : le right left = true) : left = right := by
  obtain ⟨leftKey, leftValue⟩ := left
  obtain ⟨rightKey, rightValue⟩ := right
  unfold le at *
  grind [String.le_antisymm]

theorem key_le {left right : Label} (le : le left right = true) : left.key ≤ right.key := by
  unfold Label.le at le
  grind [String.le_refl]

theorem le_of_key {left right : Label} (same : left.key = right.key) :
    le left right = true ↔ left.value ≤ right.value := by
  simp [le, same]

theorem sort_pairwise (labels : List Label) : (sort labels).Pairwise (le · · = true) :=
  List.pairwise_mergeSort le_trans le_total labels

theorem mem_normalize {labels : List Label} {label : Label} :
    label ∈ normalize labels ↔ label ∈ labels := by
  rw [normalize, List.mem_eraseDups, sort, List.mem_mergeSort]

theorem eraseDups_nodup : (labels : List Label) → labels.eraseDups.Nodup
  | [] => List.nodup_nil
  | label :: rest => by
      have shorter := List.length_filter_le (fun other => !other == label) rest
      rw [List.eraseDups_cons, List.nodup_cons, List.mem_eraseDups]
      exact ⟨by simp, eraseDups_nodup (rest.filter fun other => !other == label)⟩
termination_by labels => labels.length
decreasing_by
  simp only [List.length_cons]
  omega

theorem normalize_nodup (labels : List Label) : (normalize labels).Nodup :=
  eraseDups_nodup _

/-- A list holds the labels that belong to a set in ascending order, each once. -/
structure Enumerates (labels : List Label) (belongs : Label → Prop) : Prop where
  ordered : labels.Pairwise (le · · = true)
  once : labels.Nodup
  mem_iff : ∀ label, label ∈ labels ↔ belongs label

namespace Enumerates

variable {labels others : List Label} {belongs : Label → Prop}

theorem unique (told : Enumerates labels belongs) (othersTold : Enumerates others belongs) :
    labels = others := by
  refine List.Perm.eq_of_pairwise (fun left right _ _ => le_antisymm left right) told.ordered
    othersTold.ordered ((List.perm_ext_iff_of_nodup told.once othersTold.once).mpr fun label => ?_)
  rw [told.mem_iff, othersTold.mem_iff]

theorem congr {same : Label → Prop} (told : Enumerates labels belongs)
    (iff : ∀ label, belongs label ↔ same label) : Enumerates labels same :=
  ⟨told.ordered, told.once, fun label => (told.mem_iff label).trans (iff label)⟩

theorem filter (told : Enumerates labels belongs) (chosen : Label → Bool) :
    Enumerates (labels.filter chosen) fun label => belongs label ∧ chosen label = true := by
  refine ⟨told.ordered.sublist List.filter_sublist, told.once.filter _, fun label => ?_⟩
  rw [List.mem_filter, told.mem_iff]

end Enumerates

theorem enumerates_normalize (labels : List Label) :
    Enumerates (normalize labels) (· ∈ labels) where
  ordered := (sort_pairwise labels).sublist (eraseDups_sublist _)
  once := normalize_nodup labels
  mem_iff _ := mem_normalize

/-- A set of labels is told by the same list in whatever order and however often they come. -/
theorem normalize_congr {labels others : List Label}
    (same : ∀ label, label ∈ labels ↔ label ∈ others) : normalize labels = normalize others :=
  ((enumerates_normalize labels).congr same).unique (enumerates_normalize others)

end Label

end ClusterGraph
