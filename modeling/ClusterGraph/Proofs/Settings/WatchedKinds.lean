import ClusterGraph.Proofs.Text.Trimming
import ClusterGraph.Settings

namespace ClusterGraph.Settings

/-! The kinds to watch in the text of a variable: each is a name between commas, and names that are
joined by commas are read back. -/

variable {text : String} {kind : String} {kinds : List String}

theorem separator_not_mem {separator : Char} {text piece : List Char}
    (member : piece ∈ text.splitOn separator) : separator ∉ piece := by
  rw [List.splitOn_eq_splitOnP] at member
  induction text generalizing piece with
  | nil =>
      rw [List.splitOnP_nil, List.mem_singleton] at member
      simp [member]
  | cons c rest ih =>
      rw [List.splitOnP_cons_eq_if_modifyHead] at member
      obtain ⟨first, others, shape⟩ :=
        List.exists_cons_of_ne_nil (List.splitOnP_ne_nil (· == separator) rest)
      simp only [shape, List.modifyHead_cons, List.mem_cons] at ih member
      split at member
      · rcases List.mem_cons.mp member with rfl | later
        · exact List.not_mem_nil
        · exact ih (List.mem_cons.mp later)
      · rename_i differs
        rcases List.mem_cons.mp member with rfl | later
        · rw [List.mem_cons, not_or]
          exact ⟨fun same => differs (by simp [same]), ih (.inl rfl)⟩
        · exact ih (.inr later)

/-- A name that can stand between commas, and is all that stands there. -/
structure IsKindName (kind : String) : Prop where
  some : kind ≠ ""
  undivided : ',' ∉ kind.toList
  trimmed : Text.trim kind = kind

theorem isKindName_of_mem (member : kind ∈ splitKinds text) : IsKindName kind := by
  obtain ⟨chars, isName, rfl⟩ := List.mem_map.mp member
  obtain ⟨isTrimmed, some⟩ := List.mem_filter.mp isName
  obtain ⟨piece, isPiece, rfl⟩ := List.mem_map.mp isTrimmed
  refine ⟨?_, ?_, ?_⟩
  · intro empty
    rw [String.ofList_eq_empty_iff.mp empty] at some
    contradiction
  · rw [String.toList_ofList]
    exact fun comma => separator_not_mem isPiece (Text.mem_of_mem_trimBy comma)
  · rw [Text.trim, String.toList_ofList, Text.trimBy_again]

theorem splitKinds_intercalate (names : ∀ kind ∈ kinds, IsKindName kind) :
    splitKinds (",".intercalate kinds) = kinds := by
  by_cases none : kinds = []
  · rw [none]
    rfl
  · have undivided : ∀ chars ∈ kinds.map String.toList, ',' ∉ chars :=
      List.forall_mem_map.mpr fun kind member => (names kind member).undivided
    have trimmed : (kinds.map String.toList).map (Text.trimBy Text.isBlank) =
        kinds.map String.toList := by
      rw [List.map_map]
      refine List.map_congr_left fun kind member => ?_
      have same := congrArg String.toList (names kind member).trimmed
      rwa [Text.trim, String.toList_ofList] at same
    have pieces : (",".intercalate kinds).toList.splitOn ',' = kinds.map String.toList := by
      rw [String.toList_intercalate]
      exact List.splitOn_intercalate ',' undivided (by simpa using none)
    have kept : ∀ chars ∈ kinds.map String.toList, (!chars.isEmpty) = true := by
      refine List.forall_mem_map.mpr fun kind member => ?_
      simpa using (names kind member).some
    calc splitKinds (",".intercalate kinds)
        = (((kinds.map String.toList).map (Text.trimBy Text.isBlank)).filter
            (!·.isEmpty)).map String.ofList := by rw [splitKinds, pieces]
      _ = ((kinds.map String.toList).filter (!·.isEmpty)).map String.ofList := by rw [trimmed]
      _ = (kinds.map String.toList).map String.ofList := by rw [List.filter_eq_self.mpr kept]
      _ = kinds := by simp [List.map_map, Function.comp_def]

end ClusterGraph.Settings
