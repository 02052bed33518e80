import ClusterGraph.Rules.Builtin
import ClusterGraph.Rules.Derivation

namespace ClusterGraph.CompiledTable

/-! What a derived descriptor keeps of its rule and of the value that the rule reached. -/

variable {table : CompiledTable} {compiled : CompiledRule} {tree value : Json}
  {descriptor : Descriptor} {targetNamespace source : String}

theorem ofScalar?_eq_some (derived : ofScalar? compiled targetNamespace value = some descriptor) :
    value.display ≠ "" ∧ descriptor =
      { relationship := compiled.rule.relationship
        targetType := compiled.rule.targetType
        targetUid := if compiled.path.lastKey = "uid" then value.display else ""
        targetName := if compiled.path.lastKey = "uid" then "" else value.display
        targetNamespace } := by
  simp only [ofScalar?] at derived
  split at derived
  · contradiction
  · rename_i isText
    simp only [Bool.or_eq_true, not_or, Bool.not_eq_true, String.isEmpty_eq_false_iff] at isText
    refine ⟨isText.2, ?_⟩
    split at derived <;> rename_i byUid <;> cases derived <;> simp_all

theorem ofReference?_eq_some (derived : ofReference? compiled source value = some descriptor) :
    stringAt value "kind" ≠ "" ∧ stringAt value "name" ≠ "" ∧ descriptor =
      { relationship := compiled.rule.relationship
        targetType := stringAt value "kind"
        targetName := stringAt value "name"
        targetNamespace :=
          if stringAt value "namespace" = "" then source else stringAt value "namespace" } := by
  simp only [ofReference?] at derived
  split at derived
  · contradiction
  · rename_i isTold
    simp only [Bool.or_eq_true, not_or, Bool.not_eq_true, String.isEmpty_eq_false_iff] at isTold
    refine ⟨isTold.1, isTold.2, ?_⟩
    cases derived
    simp only [String.isEmpty_iff]

theorem mem_ofRule_path (isPath : compiled.rule.byReference = false) :
    descriptor ∈ table.ofRule compiled tree ↔ ∃ value ∈ compiled.path.find tree,
      ofScalar? compiled
        (if compiled.rule.targetType ∈ table.clusterScoped then "" else sourceNamespace tree)
        value = some descriptor := by
  simp [ofRule, isPath, List.mem_filterMap]

theorem mem_ofRule_reference (isReference : compiled.rule.byReference = true) :
    descriptor ∈ table.ofRule compiled tree ↔ ∃ value ∈ compiled.path.find tree,
      ofReference? compiled (sourceNamespace tree) value = some descriptor := by
  simp only [ofRule, isReference, if_true, List.mem_filterMap]

theorem mem_derive : descriptor ∈ table.derive tree ↔
    ∃ compiled ∈ table.rulesFor (.ofObject tree), descriptor ∈ table.ofRule compiled tree :=
  List.mem_flatMap

theorem relationship_ofRule (derived : descriptor ∈ table.ofRule compiled tree) :
    descriptor.relationship = compiled.rule.relationship := by
  cases byReference : compiled.rule.byReference with
  | true =>
      obtain ⟨value, _, isDerived⟩ := (mem_ofRule_reference byReference).mp derived
      rw [(ofReference?_eq_some isDerived).2.2]
  | false =>
      obtain ⟨value, _, isDerived⟩ := (mem_ofRule_path byReference).mp derived
      rw [(ofScalar?_eq_some isDerived).2]

theorem stringAt_of_str {key text : String} (found : tree.get? key = some (.str text)) :
    stringAt tree key = text := by
  rw [stringAt, found]
  rfl

/-- A string that is not empty is only told where there is one. -/
theorem get?_of_stringAt {key : String} (told : stringAt tree key ≠ "") :
    tree.get? key = some (.str (stringAt tree key)) := by
  unfold stringAt at told ⊢
  cases found : tree.get? key with
  | none => simp [found, Json.textOr] at told
  | some value => cases value <;> simp_all [Json.textOr]

end ClusterGraph.CompiledTable
