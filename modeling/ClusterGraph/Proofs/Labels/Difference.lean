import ClusterGraph.LabelDiff
import ClusterGraph.Proofs.Labels.Order

namespace ClusterGraph

/-! Which labels a difference holds. Written are the fresh labels that are not stored yet, and
deleted are the keys that no fresh label has. -/

namespace LabelDiff

variable {stored fresh : List Label} {label : Label} {key : String}

theorem hasKey_iff {labels : List Label} :
    hasKey labels key = true ↔ ∃ label ∈ labels, label.key = key := by
  simp [hasKey]

theorem hasKey_normalize (labels : List Label) (key : String) :
    hasKey (Label.normalize labels) key = hasKey labels key := by
  rw [Bool.eq_iff_iff, hasKey_iff, hasKey_iff]
  simp only [Label.mem_normalize]

theorem mem_added :
    label ∈ (between stored fresh).added ↔ label ∈ fresh ∧ hasKey stored label.key = false := by
  simp [between, Label.mem_normalize]

theorem mem_changed :
    label ∈ (between stored fresh).changed ↔
      label ∈ fresh ∧ hasKey stored label.key = true ∧ label ∉ stored := by
  simp [between, Label.mem_normalize]

theorem mem_written :
    label ∈ (between stored fresh).added ++ (between stored fresh).changed ↔
      label ∈ fresh ∧ label ∉ stored := by
  rw [List.mem_append, mem_added, mem_changed]
  constructor
  · rintro (⟨isFresh, absent⟩ | ⟨isFresh, _, absent⟩)
    · refine ⟨isFresh, fun member => ?_⟩
      have present : hasKey stored label.key = true := hasKey_iff.mpr ⟨label, member, rfl⟩
      rw [absent] at present
      contradiction
    · exact ⟨isFresh, absent⟩
  · rintro ⟨isFresh, absent⟩
    cases keyStored : hasKey stored label.key with
    | false => exact .inl ⟨isFresh, rfl⟩
    | true => exact .inr ⟨isFresh, rfl, absent⟩

theorem written_nodup :
    ((between stored fresh).added ++ (between stored fresh).changed).Nodup := by
  refine List.Nodup.append ((Label.normalize_nodup fresh).filter _)
    ((Label.normalize_nodup fresh).filter _) ?_
  intro label inAdded inChanged
  have absent := (mem_added.mp inAdded).2
  have present := (mem_changed.mp inChanged).2.1
  rw [absent] at present
  contradiction

theorem key_firstPerKey (labels : List Label) :
    (∃ label ∈ firstPerKey labels, label.key = key) ↔ ∃ label ∈ labels, label.key = key := by
  induction labels with
  | nil => simp [firstPerKey]
  | cons first rest ih =>
      simp only [firstPerKey, List.mem_cons, List.mem_filter]
      by_cases same : first.key = key
      · exact ⟨fun _ => ⟨first, .inl rfl, same⟩, fun _ => ⟨first, .inl rfl, same⟩⟩
      · constructor
        · rintro ⟨label, rfl | ⟨member, _⟩, isKey⟩
          · exact ⟨label, .inl rfl, isKey⟩
          · obtain ⟨other, otherMember, otherKey⟩ := ih.mp ⟨label, member, isKey⟩
            exact ⟨other, .inr otherMember, otherKey⟩
        · rintro ⟨label, rfl | member, isKey⟩
          · exact absurd isKey same
          · obtain ⟨other, otherMember, otherKey⟩ := ih.mpr ⟨label, member, isKey⟩
            refine ⟨other, .inr ⟨otherMember, ?_⟩, otherKey⟩
            simpa [otherKey] using fun equal => same equal.symm

/-- A key goes if it is stored and no fresh label has it. -/
theorem key_removed :
    (∃ label ∈ (between stored fresh).removed, label.key = key) ↔
      hasKey stored key = true ∧ hasKey fresh key = false := by
  have sorted : (∃ label ∈ firstPerKey (Label.sort stored), label.key = key) ↔
      hasKey stored key = true := by
    rw [key_firstPerKey, hasKey_iff]
    simp only [Label.sort, List.mem_mergeSort]
  rw [← sorted]
  simp only [between, List.mem_filter, hasKey_normalize, Bool.not_eq_true']
  constructor
  · rintro ⟨label, ⟨member, absent⟩, rfl⟩
    exact ⟨⟨label, member, rfl⟩, absent⟩
  · rintro ⟨⟨label, member, rfl⟩, absent⟩
    exact ⟨label, ⟨member, absent⟩, rfl⟩

theorem keys_firstPerKey_nodup (labels : List Label) : ((firstPerKey labels).map Label.key).Nodup := by
  induction labels with
  | nil => exact List.nodup_nil
  | cons label rest ih =>
      rw [firstPerKey, List.map_cons, List.nodup_cons]
      refine ⟨?_, ih.sublist (List.filter_sublist.map _)⟩
      intro member
      obtain ⟨other, otherMember, same⟩ := List.mem_map.mp member
      have differs := (List.mem_filter.mp otherMember).2
      simp [same] at differs

/-- Every key that goes is told once. -/
theorem keys_removed_nodup (stored fresh : List Label) :
    ((between stored fresh).removed.map Label.key).Nodup :=
  (keys_firstPerKey_nodup _).sublist (List.filter_sublist.map _)

end LabelDiff

end ClusterGraph
