import ClusterGraph.Proofs.Rules.CompiledRules

namespace ClusterGraph.CompiledTable

/-! Targets that live in no namespace. A path rule looks for them in all namespaces, while a
reference takes a namespace along whatever its kind is: its own, or else that of the object. -/

variable {table : RuleTable} {rules : CompiledTable} {compiled : CompiledRule}
  {tree reference : Json} {descriptor : Descriptor} {source : String}

/-- A reference to a target that lives in no namespace, for which a namespace is told. -/
structure Overqualified (clusterScoped : List String) (source : String) (reference : Json) :
    Prop where
  kind : stringAt reference "kind" ≠ ""
  name : stringAt reference "name" ≠ ""
  clusterScoped : stringAt reference "kind" ∈ clusterScoped
  qualified : stringAt reference "namespace" ≠ "" ∨ source ≠ ""

/-- What a rule makes of a reference. -/
def referred (rule : Rule) (source : String) (reference : Json) : Descriptor :=
  { relationship := rule.relationship
    targetType := stringAt reference "kind"
    targetName := stringAt reference "name"
    targetNamespace :=
      if stringAt reference "namespace" = "" then source else stringAt reference "namespace" }

theorem ofReference?_eq_some_iff :
    ofReference? compiled source reference = some descriptor ↔
      stringAt reference "kind" ≠ "" ∧ stringAt reference "name" ≠ "" ∧
        descriptor = referred compiled.rule source reference := by
  constructor
  · exact ofReference?_eq_some
  · rintro ⟨kind, name, rfl⟩
    simp [ofReference?, referred, kind, name]

theorem qualified_referred (rule : Rule) :
    (referred rule source reference).targetNamespace ≠ "" ↔
      stringAt reference "namespace" ≠ "" ∨ source ≠ "" := by
  by_cases own : stringAt reference "namespace" = "" <;> simp [referred, own]

theorem targetNamespace_ofRule_path (isPath : compiled.rule.byReference = false)
    (derived : descriptor ∈ rules.ofRule compiled tree)
    (clusterScoped : descriptor.targetType ∈ rules.clusterScoped) :
    descriptor.targetNamespace = "" := by
  obtain ⟨value, _, isScalar⟩ := (mem_ofRule_path isPath).mp derived
  obtain ⟨_, rfl⟩ := ofScalar?_eq_some isScalar
  exact if_pos clusterScoped

theorem overqualified_of_mem_ofRule (derived : descriptor ∈ rules.ofRule compiled tree)
    (clusterScoped : descriptor.targetType ∈ rules.clusterScoped)
    (qualified : descriptor.targetNamespace ≠ "") :
    compiled.rule.byReference = true ∧ ∃ reference ∈ compiled.path.find tree,
      Overqualified rules.clusterScoped (sourceNamespace tree) reference ∧
        descriptor = referred compiled.rule (sourceNamespace tree) reference := by
  cases byReference : compiled.rule.byReference with
  | false => exact absurd (targetNamespace_ofRule_path byReference derived clusterScoped) qualified
  | true =>
      obtain ⟨reference, member, isDerived⟩ := (mem_ofRule_reference byReference).mp derived
      obtain ⟨kind, name, rfl⟩ := ofReference?_eq_some_iff.mp isDerived
      have known := (qualified_referred compiled.rule).mp qualified
      exact ⟨rfl, reference, member, ⟨kind, name, clusterScoped, known⟩, rfl⟩

theorem ofTable_clusterScoped (read : ofTable table = .ok rules) (clusterScoped : List String) :
    ofTable { table with clusterScoped } = .ok { rules with clusterScoped } := by
  simp only [ofTable, bind, Except.bind, pure, Except.pure] at read ⊢
  split at read
  · contradiction
  · rename_i defaults defaultsRead
    split at read
    · contradiction
    · rename_i byKind byKindRead
      cases read
      rfl

/-- A path rule gives no target that lives in no namespace a namespace. The descriptors that do are
those of references that tell such a kind while they, or else the object, tell a namespace. -/
theorem derive_qualified_iff (read : ofTable table = .ok rules) (tree : Json) :
    (∀ compiled ∈ rules.rulesFor (.ofObject tree), compiled.rule.byReference = false →
      ∀ descriptor ∈ rules.ofRule compiled tree,
        descriptor.targetType ∈ table.clusterScoped → descriptor.targetNamespace = "") ∧
    ∀ descriptor, (descriptor ∈ rules.derive tree ∧
        descriptor.targetType ∈ table.clusterScoped ∧ descriptor.targetNamespace ≠ "") ↔
      ∃ rule ∈ table.rulesFor (.ofObject tree), rule.byReference = true ∧
        ∃ path, Path.ofText rule.path = .ok path ∧ ∃ reference ∈ path.find tree,
          Overqualified table.clusterScoped (sourceNamespace tree) reference ∧
            descriptor = referred rule (sourceNamespace tree) reference := by
  obtain ⟨_, clusterScopedEq⟩ := ofTable_eq_ok read (.ofObject tree)
  rw [← clusterScopedEq]
  constructor
  · intro compiled _ isPath descriptor derived clusterScoped
    exact targetNamespace_ofRule_path isPath derived clusterScoped
  intro descriptor
  constructor
  · rintro ⟨isDerived, clusterScoped, qualified⟩
    obtain ⟨compiled, member, derived⟩ := mem_derive.mp isDerived
    obtain ⟨isRule, path⟩ := (mem_rulesFor read).mp member
    obtain ⟨byReference, found⟩ := overqualified_of_mem_ofRule derived clusterScoped qualified
    exact ⟨compiled.rule, isRule, byReference, compiled.path, path, found⟩
  · rintro ⟨rule, isRule, byReference, path, isPath, reference, member, excess, rfl⟩
    have isCompiled : ⟨rule, path⟩ ∈ rules.rulesFor (.ofObject tree) :=
      (mem_rulesFor read).mpr ⟨isRule, isPath⟩
    have derived : referred rule (sourceNamespace tree) reference ∈
        rules.ofRule ⟨rule, path⟩ tree :=
      (mem_ofRule_reference byReference).mpr
        ⟨reference, member, ofReference?_eq_some_iff.mpr ⟨excess.kind, excess.name, rfl⟩⟩
    exact ⟨mem_derive.mpr ⟨_, isCompiled, derived⟩, excess.clusterScoped,
      (qualified_referred rule).mpr excess.qualified⟩

/-- The built-in rules where users, too, live in no namespace. -/
def withUsers : RuleTable :=
  { RuleTable.builtin with clusterScoped := "User" :: RuleTable.builtinClusterScoped }

def readWithUsers : CompiledTable :=
  { builtin with clusterScoped := withUsers.clusterScoped }

/-- A user, told without a namespace, is bound in one. -/
def userBinding : Json :=
  .obj
    [("apiVersion", .str "rbac.authorization.k8s.io/v1"), ("kind", .str "RoleBinding"),
     ("metadata", .obj
       [("name", .str "readers"), ("namespace", .str "shop"), ("uid", .str "binding")]),
     ("roleRef", .obj [("kind", .str "Role"), ("name", .str "view")]),
     ("subjects", .arr [.obj [("kind", .str "User"), ("name", .str "alice")]])]

def boundUser : Descriptor :=
  { relationship := "assign-to", targetType := "User", targetName := "alice"
    targetNamespace := "shop" }

theorem ofTable_withUsers : ofTable withUsers = .ok readWithUsers :=
  ofTable_clusterScoped ofTable_builtin _

theorem boundUser_derived : boundUser ∈ readWithUsers.derive userBinding := by
  have derived : readWithUsers.derive userBinding =
      [{ relationship := "belongs-to", targetType := "v1/Namespace", targetName := "shop" },
       { relationship := "bind-role", targetType := "rbac.authorization.k8s.io/v1/Role"
         targetName := "view", targetNamespace := "shop" },
       boundUser] := by
    apply derive_eq_of_evaluated ofTable_withUsers
    decide +kernel
  rw [derived]
  decide

theorem derive_qualified_boundUser :
    ofTable withUsers = .ok readWithUsers ∧ boundUser ∈ readWithUsers.derive userBinding ∧
      ∃ rule ∈ withUsers.rulesFor (.ofObject userBinding), rule.byReference = true ∧
        ∃ path, Path.ofText rule.path = .ok path ∧ ∃ reference ∈ path.find userBinding,
          Overqualified withUsers.clusterScoped (sourceNamespace userBinding) reference ∧
            boundUser = referred rule (sourceNamespace userBinding) reference :=
  ⟨ofTable_withUsers, boundUser_derived,
    ((derive_qualified_iff ofTable_withUsers userBinding).2 boundUser).mp
      ⟨boundUser_derived, by decide, by decide⟩⟩

/-- The user gets the namespace of the binding, though users live in none. -/
theorem not_derive_unqualified :
    ¬ ∀ (table : RuleTable) (rules : CompiledTable) (tree : Json) (descriptor : Descriptor),
      ofTable table = .ok rules → descriptor ∈ rules.derive tree →
        descriptor.targetType ∈ table.clusterScoped → descriptor.targetNamespace = "" := by
  intro unqualified
  have empty : boundUser.targetNamespace = "" := unqualified withUsers readWithUsers userBinding
    boundUser ofTable_withUsers boundUser_derived (by decide)
  exact absurd empty (by decide)

end ClusterGraph.CompiledTable
