import Mathlib.Data.List.Forall2
import ClusterGraph.Proofs.Rules.DerivedDescriptors

namespace ClusterGraph

/-! Reading the paths of a table keeps its rules: the objects of a type get the rules that the table
has for the type, in their order. -/

theorem forall₂_of_mapM {α β ε : Type} {f : α → Except ε β} {values : List α} {results : List β}
    (mapped : values.mapM f = .ok results) :
    List.Forall₂ (fun value result => f value = .ok result) values results := by
  induction values generalizing results with
  | nil =>
      cases mapped
      exact .nil
  | cons value rest ih =>
      rw [List.mapM_cons] at mapped
      cases first : f value with
      | error failure => simp [first, bind, Except.bind] at mapped
      | ok head =>
          cases others : rest.mapM f with
          | error failure => simp [first, others, bind, Except.bind] at mapped
          | ok tail =>
              simp only [first, others, bind, Except.bind, pure, Except.pure] at mapped
              cases mapped
              exact .cons first (ih others)

theorem mem_of_mapM {α β ε : Type} {f : α → Except ε β} {values : List α} {results : List β}
    (mapped : values.mapM f = .ok results) {result : β} :
    result ∈ results ↔ ∃ value ∈ values, f value = .ok result := by
  have related := forall₂_of_mapM mapped
  clear mapped
  induction related with
  | nil => simp
  | cons first _ ih =>
      simp only [List.mem_cons, ih, exists_eq_or_imp, first, Except.ok.injEq]
      exact or_congr_left eq_comm

namespace CompiledTable

variable {table : RuleTable} {rules : CompiledTable} {compiled : CompiledRule}

theorem compileRule_eq_ok {rule : Rule} : compileRule rule = .ok compiled ↔
    compiled.rule = rule ∧ Path.ofText rule.path = .ok compiled.path := by
  unfold compileRule
  cases path : Path.ofText rule.path with
  | error failure => simp [Except.map]
  | ok read =>
      simp only [Except.map, Except.ok.injEq]
      constructor
      · rintro rfl
        exact ⟨rfl, rfl⟩
      · rintro ⟨rfl, rfl⟩
        rfl

/-- The lists under the keys are read each on its own. -/
theorem lookup_mapM {α β γ ε : Type} [BEq γ] {f : α → Except ε β} {entries : List (γ × List α)}
    {results : List (γ × List β)}
    (read : (entries.mapM fun (key, values) => do
      let own ← values.mapM f
      pure (key, own)) = .ok results) (wanted : γ) :
    ((entries.lookup wanted).getD []).mapM f = .ok ((results.lookup wanted).getD []) := by
  induction entries generalizing results with
  | nil =>
      cases read
      rfl
  | cons entry rest ih =>
      obtain ⟨key, values⟩ := entry
      rw [List.mapM_cons] at read
      cases first : values.mapM f with
      | error failure => simp [first, bind, Except.bind] at read
      | ok own =>
          simp only [first, bind, Except.bind, pure, Except.pure] at read
          split at read
          · contradiction
          · rename_i others later
            cases read
            simp only [List.lookup_cons]
            split
            · exact first
            · exact ih later

theorem ofTable_eq_ok (read : ofTable table = .ok rules) (type : GroupVersionKind) :
    (table.rulesFor type).mapM compileRule = .ok (rules.rulesFor type) ∧
      rules.clusterScoped = table.clusterScoped := by
  simp only [ofTable, bind, Except.bind, pure, Except.pure] at read
  split at read
  · contradiction
  · rename_i defaults defaultsRead
    split at read
    · contradiction
    · rename_i byKind byKindRead
      cases read
      refine ⟨?_, rfl⟩
      rw [RuleTable.rulesFor, List.mapM_append, defaultsRead, lookup_mapM byKindRead]
      rfl

theorem mem_rulesFor (read : ofTable table = .ok rules) {type : GroupVersionKind} :
    compiled ∈ rules.rulesFor type ↔
      compiled.rule ∈ table.rulesFor type ∧ Path.ofText compiled.rule.path = .ok compiled.path := by
  rw [mem_of_mapM (ofTable_eq_ok read type).1]
  constructor
  · rintro ⟨rule, member, isCompiled⟩
    obtain ⟨rfl, path⟩ := compileRule_eq_ok.mp isCompiled
    exact ⟨member, path⟩
  · rintro ⟨member, path⟩
    exact ⟨compiled.rule, member, compileRule_eq_ok.mpr ⟨rfl, path⟩⟩

/-- The descriptors of an object depend on the rules for its type alone. -/
theorem derive_ofTable (read : ofTable table = .ok rules) (tree : Json) :
    ((table.rulesFor (.ofObject tree)).mapM compileRule).map
        (·.flatMap (ofRule ⟨[], [], table.clusterScoped⟩ · tree)) = .ok (rules.derive tree) := by
  obtain ⟨ruled, clusterScoped⟩ := ofTable_eq_ok read (.ofObject tree)
  rw [ruled, Except.map, ← clusterScoped]
  rfl

theorem derive_eq_of_evaluated (read : ofTable table = .ok rules) {tree : Json}
    {descriptors : List Descriptor}
    (evaluated : (((table.rulesFor (.ofObject tree)).mapM compileRule).map
      (·.flatMap (ofRule ⟨[], [], table.clusterScoped⟩ · tree))).toOption = some descriptors) :
    rules.derive tree = descriptors := by
  rw [derive_ofTable read] at evaluated
  exact Option.some.inj evaluated

/-- The built-in rules with their paths read. -/
def builtin : CompiledTable :=
  (ofTable .builtin).toOption.getD ⟨[], [], []⟩

/-- All built-in paths can be read. -/
theorem ofTable_builtin : ofTable .builtin = .ok builtin := by
  have read : (ofTable .builtin).toOption.isSome = true := by decide +kernel
  unfold builtin
  cases isRead : ofTable .builtin with
  | ok rules => rfl
  | error failure =>
      rw [isRead] at read
      contradiction

end CompiledTable

end ClusterGraph
