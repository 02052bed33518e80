import ClusterGraph.Proofs.History.LabelHistory
import ClusterGraph.Proofs.Resync.Progress
import Mathlib.Data.List.TakeWhile

namespace ClusterGraph

/-! Histories in which each uid is always saved with the same node. What they tell of a node does
not depend on the order of the saves, and once all nodes are saved, neither does what descriptors
refer to. -/

/-- The uid of the node that a descriptor refers to among some nodes. Of several nodes that it names
the one of the least uid is meant. -/
def Descriptor.targetAmong? (descriptor : Descriptor) (nodes : List Node) : Option String :=
  if descriptor.byUid then
    if descriptor.targetUid ∈ nodes.map Node.uid then some descriptor.targetUid else none
  else if descriptor.target.kind.isEmpty then none
  else ((nodes.filter descriptor.fits).map Node.uid).min?

/-- The descriptors that refer to some of the nodes, each with the uid of its node. -/
def linksAmong (descriptors : List Descriptor) (nodes : List Node) : List (Descriptor × String) :=
  descriptors.filterMap fun descriptor =>
    (descriptor.targetAmong? nodes).map fun target => (descriptor, target)

/-- Texts in any order have the same least one. -/
theorem min?_eq_of_mem_iff {left right : List String} (same : ∀ text, text ∈ left ↔ text ∈ right) :
    left.min? = right.min? := by
  cases least : right.min? with
  | none =>
      rw [List.min?_eq_none_iff] at least ⊢
      rw [List.eq_nil_iff_forall_not_mem]
      intro text member
      simpa [least] using (same text).mp member
  | some text =>
      rw [List.min?_eq_some_iff] at least ⊢
      exact ⟨(same text).mpr least.1, fun other member => least.2 other ((same other).mp member)⟩

namespace History

/-- The nodes saved are these. -/
def Saved (saves : List Save) (nodes : List Node) : Prop :=
  ∀ node, .upsert node ∈ saves ↔ node ∈ nodes

variable {saves : List Save} {nodes : List Node} {node : Node} {uid : String}

theorem exists_lastNode? (saved : .upsert node ∈ saves) :
    ∃ last, lastNode? node.uid saves = some last := by
  induction saves with
  | nil => simp at saved
  | cons save earlier ih =>
      cases save with
      | upsert first =>
          simp only [lastNode?]
          split
          · exact ⟨first, rfl⟩
          · rename_i other
            rcases List.mem_cons.mp saved with same | before
            · cases same
              exact absurd rfl other
            · exact ih before
      | replace source descriptors =>
          rcases List.mem_cons.mp saved with same | before
          · cases same
          · exact ih before

theorem links_append {later : List Save} (others : ∀ descriptors, .replace uid descriptors ∉ later)
    (earlier : List Save) : links uid (later ++ earlier) = links uid earlier := by
  induction later with
  | nil => rfl
  | cons save rest ih =>
      simp only [List.mem_cons, not_or] at others
      have following := ih fun descriptors => (others descriptors).2
      cases save with
      | upsert saved => exact following
      | replace source descriptors =>
          have differ : source ≠ uid := by
            rintro rfl
            exact (others descriptors).1 rfl
          rw [List.cons_append, links, if_neg differ, following]

theorem mem_labelSets {labels : List Label} :
    labels ∈ labelSets uid saves ↔
      ∃ node, .upsert node ∈ saves ∧ node.uid = uid ∧ node.labels = labels := by
  induction saves with
  | nil => simp [labelSets]
  | cons save earlier ih =>
      cases save with
      | upsert first =>
          simp only [labelSets, List.mem_cons, Save.upsert.injEq, or_and_right, exists_or,
            exists_eq_left]
          by_cases isUid : first.uid = uid
          · simp [isUid, ih, eq_comm]
          · simp [isUid, ih]
      | replace source descriptors => simp [labelSets, ih]

namespace Saved

variable (saved : Saved saves nodes) (distinct : (nodes.map Node.uid).Nodup)

include saved

theorem mem_uids : uid ∈ uids saves ↔ uid ∈ nodes.map Node.uid := by
  rw [History.mem_uids, List.mem_map]
  exact exists_congr fun node => and_congr_left' (saved node)

theorem upsert (member : node ∈ nodes) : Saved (.upsert node :: saves) nodes := by
  intro other
  rw [List.mem_cons, saved other, Save.upsert.injEq]
  exact or_iff_right_of_imp fun same => same ▸ member

include distinct

theorem lastNode?_eq (member : node ∈ nodes) : lastNode? node.uid saves = some node := by
  obtain ⟨last, isLast⟩ := exists_lastNode? ((saved node).mpr member)
  obtain ⟨lastSaved, sameUid⟩ := mem_of_lastNode? isLast
  rw [isLast, List.inj_on_of_nodup_map distinct ((saved last).mp lastSaved) member sameUid]

theorem target?_eq (descriptor : Descriptor) :
    target? descriptor saves = descriptor.targetAmong? nodes := by
  have named : ((uids saves).filter fun uid => (lastNode? uid saves).any descriptor.fits).min? =
      ((nodes.filter descriptor.fits).map Node.uid).min? := by
    refine min?_eq_of_mem_iff fun uid => ?_
    rw [List.mem_filter, saved.mem_uids, List.mem_map, List.mem_map]
    constructor
    · rintro ⟨⟨node, member, rfl⟩, fits⟩
      rw [saved.lastNode?_eq distinct member, Option.any_some] at fits
      exact ⟨node, List.mem_filter.mpr ⟨member, fits⟩, rfl⟩
    · rintro ⟨node, found, rfl⟩
      obtain ⟨member, fits⟩ := List.mem_filter.mp found
      exact ⟨⟨node, member, rfl⟩, by rw [saved.lastNode?_eq distinct member, Option.any_some, fits]⟩
  simp only [target?, Descriptor.targetAmong?, saved.mem_uids, named]

/-- Relationships that are saved when all nodes are stored. -/
theorem links_eq {later : List Save} (others : ∀ descriptors, .replace uid descriptors ∉ later)
    (descriptors : List Descriptor) :
    links uid (later ++ .replace uid descriptors :: saves) = linksAmong descriptors nodes := by
  rw [links_append others, links, if_pos rfl, linksAmong]
  simp only [saved.target?_eq distinct]

/-- A node that is always saved with the same labels has these labels. -/
theorem exists_setsWithKey (member : node ∈ nodes) (label : Label) :
    (∃ labels ∈ setsWithKey node.uid label.key saves, label ∈ labels) ↔ label ∈ node.labels := by
  have only : ∀ labels ∈ labelSets node.uid saves, labels = node.labels := by
    intro labels labelsMember
    obtain ⟨other, otherSaved, sameUid, rfl⟩ := mem_labelSets.mp labelsMember
    rw [List.inj_on_of_nodup_map distinct ((saved other).mp otherSaved) member sameUid]
  constructor
  · rintro ⟨labels, labelsMember, carried⟩
    rwa [only labels ((List.takeWhile_sublist _).subset labelsMember)] at carried
  · intro carried
    have hasKey : LabelDiff.hasKey node.labels label.key = true :=
      LabelDiff.hasKey_iff.mpr ⟨label, carried, rfl⟩
    have all : setsWithKey node.uid label.key saves = labelSets node.uid saves :=
      List.takeWhile_eq_self_iff.mpr fun labels labelsMember => by
        rw [only labels labelsMember, hasKey]
    rw [all]
    exact ⟨node.labels, mem_labelSets.mpr ⟨node, (saved node).mpr member, rfl, rfl⟩, carried⟩

end Saved

end History

end ClusterGraph
