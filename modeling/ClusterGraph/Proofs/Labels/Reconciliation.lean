import ClusterGraph.Proofs.Labels.Difference

namespace ClusterGraph

/-! What a difference of labels says, told by sets alone: which labels are added and changed, and
which stored label stands for each key that is gone. No other difference says so, and once it is
carried out there is none left. -/

/-- No stored label with the key of this one has a smaller value. -/
def Label.IsLeast (stored : List Label) (label : Label) : Prop :=
  label ∈ stored ∧ ∀ other ∈ stored, other.key = label.key → label.value ≤ other.value

namespace LabelDiff

variable {stored fresh labels : List Label} {label : Label} {key : String} {diff : LabelDiff}

theorem hasKey_eq_true : hasKey labels key = true ↔ key ∈ labels.map Label.key := by
  rw [hasKey_iff, List.mem_map]

theorem hasKey_eq_false : hasKey labels key = false ↔ key ∉ labels.map Label.key := by
  rw [← hasKey_eq_true, Bool.not_eq_true]

theorem firstPerKey_sublist (labels : List Label) : (firstPerKey labels).Sublist labels := by
  induction labels with
  | nil => exact .slnil
  | cons label rest ih => exact .cons_cons label (List.filter_sublist.trans ih)

/-- Of labels in ascending order, the first with a key is the least. -/
theorem mem_firstPerKey (ordered : labels.Pairwise (Label.le · · = true)) :
    label ∈ firstPerKey labels ↔ Label.IsLeast labels label := by
  induction labels with
  | nil => simp [firstPerKey, Label.IsLeast]
  | cons first rest ih =>
      obtain ⟨below, ordered⟩ := List.pairwise_cons.mp ordered
      rw [firstPerKey, List.mem_cons, List.mem_filter, ih ordered]
      constructor
      · rintro (rfl | ⟨⟨member, least⟩, apart⟩)
        · refine ⟨List.mem_cons_self, List.forall_mem_cons.mpr ⟨fun _ => String.le_refl _, ?_⟩⟩
          exact fun other member same => (Label.le_of_key same.symm).mp (below other member)
        · refine ⟨List.mem_cons_of_mem _ member, List.forall_mem_cons.mpr ⟨fun same => ?_, least⟩⟩
          exact absurd same.symm (by simpa using apart)
      · rintro ⟨member, least⟩
        obtain ⟨smallest, leastOfRest⟩ := List.forall_mem_cons.mp least
        by_cases same : label.key = first.key
        · refine .inl (Label.le_antisymm _ _ ((Label.le_of_key same).mpr (smallest same.symm)) ?_)
          rcases List.mem_cons.mp member with rfl | later
          · exact (Label.le_of_key rfl).mpr (String.le_refl _)
          · exact below label later
        · have later : label ∈ rest :=
            (List.mem_cons.mp member).resolve_left fun equal => same (equal ▸ rfl)
          exact .inr ⟨⟨later, leastOfRest⟩, by simpa using same⟩

theorem enumerates_firstPerKey (stored : List Label) :
    Label.Enumerates (firstPerKey (Label.sort stored)) (Label.IsLeast stored) where
  ordered := (Label.sort_pairwise stored).sublist (firstPerKey_sublist _)
  once := (keys_firstPerKey_nodup _).of_map _
  mem_iff label := by
    rw [mem_firstPerKey (Label.sort_pairwise stored)]
    simp only [Label.IsLeast, Label.sort, List.mem_mergeSort]

/-- The parts of a difference, each told by the set of its labels. -/
structure IsDifference (stored fresh : List Label) (diff : LabelDiff) : Prop where
  added : Label.Enumerates diff.added fun label =>
    label ∈ fresh ∧ label.key ∉ stored.map Label.key
  changed : Label.Enumerates diff.changed fun label =>
    label ∈ fresh ∧ label.key ∈ stored.map Label.key ∧ label ∉ stored
  removed : Label.Enumerates diff.removed fun label =>
    Label.IsLeast stored label ∧ label.key ∉ fresh.map Label.key

theorem IsDifference.unique {other : LabelDiff} (told : IsDifference stored fresh diff)
    (otherTold : IsDifference stored fresh other) : diff = other := by
  obtain ⟨added, removed, changed⟩ := diff
  obtain ⟨otherAdded, otherRemoved, otherChanged⟩ := other
  obtain rfl : added = otherAdded := told.added.unique otherTold.added
  obtain rfl : removed = otherRemoved := told.removed.unique otherTold.removed
  obtain rfl : changed = otherChanged := told.changed.unique otherTold.changed
  rfl

theorem isDifference_between (stored fresh : List Label) :
    IsDifference stored fresh (between stored fresh) where
  added := ((Label.enumerates_normalize fresh).filter _).congr fun label => by
    rw [Bool.not_eq_true', hasKey_eq_false]
  changed := ((Label.enumerates_normalize fresh).filter _).congr fun label => by
    simp only [Bool.and_eq_true, Bool.not_eq_true', hasKey_eq_true, List.contains_eq_mem,
      decide_eq_false_iff_not]
  removed := ((enumerates_firstPerKey stored).filter _).congr fun label => by
    rw [Bool.not_eq_true', hasKey_normalize, hasKey_eq_false]

/-- The sets alone count, not the order in which the labels come nor how often. -/
theorem between_congr {others freshOthers : List Label}
    (sameStored : ∀ label, label ∈ others ↔ label ∈ stored)
    (sameFresh : ∀ label, label ∈ freshOthers ↔ label ∈ fresh) :
    between others freshOthers = between stored fresh := by
  have told := isDifference_between others freshOthers
  refine IsDifference.unique ⟨told.added.congr ?_, told.changed.congr ?_, told.removed.congr ?_⟩
    (isDifference_between stored fresh) <;>
  simp only [Label.IsLeast, List.mem_map, sameStored, sameFresh, implies_true]

theorem key_mem_removed :
    key ∈ (between stored fresh).removed.map Label.key ↔
      key ∈ stored.map Label.key ∧ key ∉ fresh.map Label.key := by
  rw [List.mem_map, key_removed, hasKey_eq_true, hasKey_eq_false]

theorem isEmpty_between :
    (between stored fresh).isEmpty = true ↔
      (∀ key, key ∈ stored.map Label.key ↔ key ∈ fresh.map Label.key) ∧
        ∀ label ∈ fresh, label ∈ stored := by
  have written : (between stored fresh).added ++ (between stored fresh).changed = [] ↔
      ∀ label ∈ fresh, label ∈ stored := by
    simp only [List.eq_nil_iff_forall_not_mem, mem_written, not_and, not_not]
  have removed : (between stored fresh).removed = [] ↔
      ∀ key ∈ stored.map Label.key, key ∈ fresh.map Label.key := by
    rw [← List.map_eq_nil_iff (f := Label.key), List.eq_nil_iff_forall_not_mem]
    simp only [key_mem_removed, not_and, not_not]
  have parts : (between stored fresh).isEmpty = true ↔
      (between stored fresh).added ++ (between stored fresh).changed = [] ∧
        (between stored fresh).removed = [] := by
    simp only [isEmpty, Bool.and_eq_true, List.isEmpty_iff, List.append_eq_nil_iff]
    tauto
  rw [parts, written, removed]
  constructor
  · rintro ⟨stays, kept⟩
    refine ⟨fun key => ⟨kept key, fun member => ?_⟩, stays⟩
    obtain ⟨label, isFresh, rfl⟩ := List.mem_map.mp member
    exact List.mem_map_of_mem (stays label isFresh)
  · rintro ⟨keys, stays⟩
    exact ⟨stays, fun key => (keys key).mp⟩

/-- The stored labels once a difference is carried out: all labels with a key that is gone are
deleted, and the others are written beside what is stored. -/
def carriedOut (diff : LabelDiff) (stored : List Label) : List Label :=
  stored.filter (fun label => !hasKey diff.removed label.key) ++ (diff.added ++ diff.changed)

theorem mem_carriedOut :
    label ∈ (between stored fresh).carriedOut stored ↔
      (label ∈ stored ∧ label.key ∈ fresh.map Label.key) ∨ (label ∈ fresh ∧ label ∉ stored) := by
  rw [carriedOut, List.mem_append, mem_written, List.mem_filter, Bool.not_eq_true',
    hasKey_eq_false, key_mem_removed]
  have keyStored : label ∈ stored → label.key ∈ stored.map Label.key := List.mem_map_of_mem
  tauto

theorem between_carriedOut_isEmpty (stored fresh : List Label) :
    (between ((between stored fresh).carriedOut stored) fresh).isEmpty = true := by
  have holds : ∀ label ∈ fresh, label ∈ (between stored fresh).carriedOut stored := by
    intro label isFresh
    rw [mem_carriedOut]
    by_cases isStored : label ∈ stored
    · exact .inl ⟨isStored, List.mem_map_of_mem isFresh⟩
    · exact .inr ⟨isFresh, isStored⟩
  refine isEmpty_between.mpr ⟨fun key => ⟨fun member => ?_, fun member => ?_⟩, holds⟩
  · obtain ⟨label, isThere, rfl⟩ := List.mem_map.mp member
    rcases mem_carriedOut.mp isThere with ⟨_, kept⟩ | ⟨isFresh, _⟩
    · exact kept
    · exact List.mem_map_of_mem isFresh
  · obtain ⟨label, isFresh, rfl⟩ := List.mem_map.mp member
    exact List.mem_map_of_mem (holds label isFresh)

/-- How the parts of a difference are listed. -/
structure IsListed (stored fresh : List Label) (diff : LabelDiff) : Prop where
  ascending : ∀ part ∈ [diff.added, diff.changed, diff.removed],
    (part.map Label.key).Pairwise (· ≤ ·)
  removedOnce : (diff.removed.map Label.key).Nodup
  removedKeys : ∀ key, key ∈ diff.removed.map Label.key ↔
    key ∈ stored.map Label.key ∧ key ∉ fresh.map Label.key
  addedChanged : (diff.added.map Label.key).Disjoint (diff.changed.map Label.key)
  addedRemoved : (diff.added.map Label.key).Disjoint (diff.removed.map Label.key)
  changedRemoved : (diff.changed.map Label.key).Disjoint (diff.removed.map Label.key)

theorem isListed_between (stored fresh : List Label) :
    IsListed stored fresh (between stored fresh) := by
  have told := isDifference_between stored fresh
  have byKey {part : List Label} {belongs : Label → Prop} (listed : Label.Enumerates part belongs) :
      (part.map Label.key).Pairwise (· ≤ ·) :=
    List.pairwise_map.mpr (listed.ordered.imp Label.key_le)
  have keyAdded : ∀ key ∈ (between stored fresh).added.map Label.key,
      key ∉ stored.map Label.key := by
    intro key member
    obtain ⟨label, inAdded, rfl⟩ := List.mem_map.mp member
    exact ((told.added.mem_iff label).mp inAdded).2
  have keyChanged : ∀ key ∈ (between stored fresh).changed.map Label.key,
      key ∈ stored.map Label.key ∧ key ∈ fresh.map Label.key := by
    intro key member
    obtain ⟨label, inChanged, rfl⟩ := List.mem_map.mp member
    obtain ⟨isFresh, keyStored, _⟩ := (told.changed.mem_iff label).mp inChanged
    exact ⟨keyStored, List.mem_map_of_mem isFresh⟩
  exact {
    ascending := by
      simp only [List.forall_mem_cons]
      exact ⟨byKey told.added, byKey told.changed, byKey told.removed, by simp⟩
    removedOnce := keys_removed_nodup stored fresh
    removedKeys := fun key => key_mem_removed
    addedChanged := fun key inAdded inChanged => keyAdded key inAdded (keyChanged key inChanged).1
    addedRemoved := fun key inAdded inRemoved =>
      keyAdded key inAdded (key_mem_removed.mp inRemoved).1
    changedRemoved := fun key inChanged inRemoved =>
      (key_mem_removed.mp inRemoved).2 (keyChanged key inChanged).2 }

/-- The difference of two sets of labels, in whatever lists they come: exactly which labels each of
its parts holds and in which order, when it is empty, and that none is left once it is carried
out. -/
theorem between_reconciles (stored fresh : List Label) :
    (∀ diff, IsDifference stored fresh diff ↔ diff = between stored fresh) ∧
      IsListed stored fresh (between stored fresh) ∧
      ((between stored fresh).isEmpty = true ↔
        (∀ key, key ∈ stored.map Label.key ↔ key ∈ fresh.map Label.key) ∧
          ∀ label ∈ fresh, label ∈ stored) ∧
      (∀ others freshOthers : List Label, (∀ label, label ∈ others ↔ label ∈ stored) →
        (∀ label, label ∈ freshOthers ↔ label ∈ fresh) →
        between others freshOthers = between stored fresh) ∧
      (between ((between stored fresh).carriedOut stored) fresh).isEmpty = true := by
  refine ⟨fun diff => ⟨fun told => ?_, ?_⟩, isListed_between stored fresh, isEmpty_between, ?_,
    between_carriedOut_isEmpty stored fresh⟩
  · exact told.unique (isDifference_between stored fresh)
  · rintro rfl
    exact isDifference_between stored fresh
  · exact fun _ _ => between_congr

/-- Keys with several values, some labels twice, in ascending order. -/
def storedTiers : List Label :=
  [⟨"team", "base"⟩, ⟨"team", "core"⟩, ⟨"tier", "back"⟩, ⟨"tier", "front"⟩, ⟨"tier", "front"⟩]

def freshTiers : List Label :=
  [⟨"env", "live"⟩, ⟨"env", "test"⟩, ⟨"env", "test"⟩, ⟨"tier", "front"⟩, ⟨"tier", "middle"⟩]

theorem between_tiers : between storedTiers freshTiers =
    { added := [⟨"env", "live"⟩, ⟨"env", "test"⟩]
      removed := [⟨"team", "base"⟩]
      changed := [⟨"tier", "middle"⟩] } := by
  have stored : Label.sort storedTiers = storedTiers := List.mergeSort_of_pairwise (by decide)
  have fresh : Label.sort freshTiers = freshTiers := List.mergeSort_of_pairwise (by decide)
  simp only [between, Label.normalize, stored, fresh]
  decide

theorem between_reconciles_tiers :
    (∀ label, label ∈ storedTiers.reverse ↔ label ∈ storedTiers) ∧
      (∀ label, label ∈ freshTiers.reverse ↔ label ∈ freshTiers) ∧
      between storedTiers.reverse freshTiers.reverse =
        { added := [⟨"env", "live"⟩, ⟨"env", "test"⟩]
          removed := [⟨"team", "base"⟩]
          changed := [⟨"tier", "middle"⟩] } := by
  obtain ⟨_, _, _, setsCount, _⟩ := between_reconciles storedTiers freshTiers
  have reversed (labels : List Label) : ∀ label, label ∈ labels.reverse ↔ label ∈ labels :=
    fun _ => List.mem_reverse
  refine ⟨reversed _, reversed _, ?_⟩
  rw [setsCount _ _ (reversed _) (reversed _), between_tiers]

end LabelDiff

end ClusterGraph
