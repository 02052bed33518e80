import ClusterGraph.Proofs.History.CommitOutcome
import ClusterGraph.Proofs.Sync.NamespaceConfinement

namespace ClusterGraph

/-! Which roles bindings link to. The kind of the role comes from the rules, one for each kind of
binding, and not from the reference: a binding that refers to a role of another kind links to a role
of the same name. -/

/-- A path of keys reaches what stands at the end of the keys. -/
theorem Path.advance_keys (keys : List String) (tree : Json) :
    advance (keys.map .key) [tree] = (tree.at? keys).toList := by
  induction keys generalizing tree with
  | nil => rfl
  | cons key rest ih =>
      have first : [tree].flatMap (Segment.step (.key key)) = (tree.get? key).toList := by
        cases tree <;> simp [Segment.step, Json.get?, Json.entries?]
      simp only [List.map_cons, advance, first, Json.at?]
      cases tree.get? key with
      | none => rfl
      | some value => exact ih value

namespace RuleTable

/-- The kinds of bindings, each with the kind of role that its rule looks for. -/
def bindingKinds : List (String × String) :=
  [("RoleBinding", "Role"), ("ClusterRoleBinding", "ClusterRole")]

end RuleTable

/-- The object is a binding of a kind and refers to a role by a kind and a name. -/
structure RefersToRole (tree : Json) (bindingKind stated name : String) : Prop where
  isBinding : GroupVersionKind.ofObject tree = ⟨"rbac.authorization.k8s.io", "v1", bindingKind⟩
  tellsKind : tree.at? ["roleRef", "kind"] = some (.str stated)
  tellsName : tree.at? ["roleRef", "name"] = some (.str name)
  kindFilled : stated ≠ ""
  nameFilled : name ≠ ""

/-- The edge ends at a node of a kind and a name. -/
def Graph.EndsAt (graph : Graph) (edge : Edge) (kind name : String) : Prop :=
  ∃ node ∈ graph.nodes, node.1 = edge.targetGraphId ∧ property node.2 "kind" = .str kind ∧
    property node.2 "name" = .str name

namespace CompiledTable

variable {rules : CompiledTable} {tree : Json} {bindingKind roleKind stated name : String}
  {descriptor : Descriptor}

/-- One rule of a binding is about its role. -/
theorem rule_of_binding (builtin : ofTable .builtin = .ok rules)
    (isKind : (bindingKind, roleKind) ∈ RuleTable.bindingKinds) {compiled : CompiledRule}
    (member : compiled ∈ rules.rulesFor ⟨"rbac.authorization.k8s.io", "v1", bindingKind⟩)
    (binds : compiled.rule.relationship = "bind-role") :
    compiled.rule =
        ⟨".roleRef.name", RuleTable.rbacVersion ++ "/" ++ roleKind, "bind-role", false⟩ ∧
      compiled.path.segments = ["roleRef", "name"].map .key := by
  obtain ⟨ruleMember, read⟩ := (mem_rulesFor builtin).mp member
  have single : ∀ kinds ∈ RuleTable.bindingKinds,
      ∀ rule ∈ RuleTable.builtin.rulesFor ⟨"rbac.authorization.k8s.io", "v1", kinds.1⟩,
        rule.relationship = "bind-role" → rule =
          ⟨".roleRef.name", RuleTable.rbacVersion ++ "/" ++ kinds.2, "bind-role", false⟩ := by
    decide +kernel
  have isRule := single _ isKind compiled.rule ruleMember binds
  have segments : (Path.ofText ".roleRef.name").toOption.map Path.segments =
      some (["roleRef", "name"].map .key) := by
    decide +kernel
  rw [isRule] at read
  rw [read] at segments
  exact ⟨isRule, Option.some.inj segments⟩

theorem target_of_binding (isKind : (bindingKind, roleKind) ∈ RuleTable.bindingKinds) :
    (TargetType.ofText (RuleTable.rbacVersion ++ "/" ++ roleKind)).kind = roleKind := by
  have each : ∀ kinds ∈ RuleTable.bindingKinds,
      (TargetType.ofText (RuleTable.rbacVersion ++ "/" ++ kinds.2)).kind = kinds.2 := by
    decide +kernel
  exact each (bindingKind, roleKind) isKind

theorem derive_binding (builtin : ofTable .builtin = .ok rules)
    (isKind : (bindingKind, roleKind) ∈ RuleTable.bindingKinds)
    (refers : RefersToRole tree bindingKind stated name)
    (derived : descriptor ∈ rules.derive tree) (binds : descriptor.relationship = "bind-role") :
    descriptor.byUid = false ∧ descriptor.target.kind = roleKind ∧
      descriptor.targetName = name := by
  obtain ⟨compiled, member, isDerived⟩ := mem_derive.mp derived
  have relationship := relationship_ofRule isDerived
  rw [refers.isBinding] at member
  obtain ⟨isRule, segments⟩ :=
    rule_of_binding builtin isKind member (relationship.symm.trans binds)
  have isPath : compiled.rule.byReference = false := by rw [isRule]
  have reached : compiled.path.find tree = [.str name] := by
    rw [Path.find, segments, Path.advance_keys, refers.tellsName]
    rfl
  have byName : compiled.path.lastKey ≠ "uid" := by
    simp [Path.lastKey, segments]
  obtain ⟨value, valueMember, isScalar⟩ := (mem_ofRule_path isPath).mp isDerived
  rw [reached, List.mem_singleton] at valueMember
  subst valueMember
  have isDescriptor := (ofScalar?_eq_some isScalar).2
  rw [if_neg byName, if_neg byName, Json.display_str, isRule] at isDescriptor
  rw [isDescriptor]
  exact ⟨rfl, target_of_binding isKind, rfl⟩

end CompiledTable

namespace Synchronizer

variable {synchronizer : Synchronizer} {tree : Json} {bindingKind roleKind stated name : String}
  {system last : System} {result : SyncResult}

/-- After a sync, too, different nodes have different ids. -/
theorem sync_numbered (numbered : system.database.store.Numbered)
    (calm : system.database.faults = []) (ran : synchronizer.sync tree system = .ok result last) :
    last.database.store.Numbered := by
  cases known : (synchronizer.projector.project tree).uid.isEmpty with
  | true =>
      have reports := sync_skipped known system
      rw [Action.after_ok ran] at reports
      rw [reports.database]
      exact numbered
  | false =>
      obtain ⟨properties, change, middle, edges, saves, _⟩ := sync_committed known calm ran
      have middleNumbered : middle.Numbered := by
        rcases Script.evaluate_saveNode_ok saves.node with
          ⟨_, _, rfl⟩ | ⟨id, _, _, stored, _, _, _, _, rfl⟩
        · exact numbered.withNewNode _ properties
        · exact numbered.withNode id properties _
      obtain ⟨id, _, _, _, _, isLast⟩ := Script.evaluate_saveRelationships_ok saves.relationships
      rw [isLast]
      exact middleNumbered.withRelationships id _

/-- A binding links to a role of the name that it tells and of the kind that the rules tell, which
is the role that it means just where it means one of this kind. -/
theorem sync_bindsRole (builtin : CompiledTable.ofTable .builtin = .ok synchronizer.rules)
    (isKind : (bindingKind, roleKind) ∈ RuleTable.bindingKinds)
    (refers : RefersToRole tree bindingKind stated name)
    (numbered : system.database.store.Numbered) (calm : system.database.faults = [])
    (ran : synchronizer.sync tree system = .ok result last) :
    ∀ edge ∈ result.edges, edge.relationship = "bind-role" →
      last.graph.EndsAt edge roleKind name ∧
        (last.graph.EndsAt edge stated name ↔ stated = roleKind) := by
  intro edge member binds
  have made := sync_made calm ran
  obtain ⟨byName, isRole, isName⟩ :=
    CompiledTable.derive_binding builtin isKind refers (made.derived edge member) binds
  obtain ⟨node, nodeMember, isTarget, fits⟩ :=
    Graph.resolve?_names byName (made.resolved edge member)
  have nodeKind := fits.kind
  rw [isRole] at nodeKind
  have ends : last.graph.EndsAt edge roleKind name :=
    ⟨node, nodeMember, isTarget, nodeKind, by rw [fits.name, isName]⟩
  refine ⟨ends, ?_, ?_⟩
  · rintro ⟨other, otherMember, sameTarget, otherKind, _⟩
    obtain rfl : other = node :=
      List.inj_on_of_nodup_map (sync_numbered numbered calm ran).nodeIds otherMember nodeMember
        (sameTarget.trans isTarget.symm)
    rw [nodeKind] at otherKind
    exact (Json.str.inj otherKind).symm
  · rintro rfl
    exact ends

theorem numbered_twoNamespaces : twoNamespaces.database.store.Numbered where
  nodeIds := by decide +kernel
  unusedNodes := by
    intro number le member
    obtain ⟨stored, below, isId⟩ : ∃ stored < 6, Store.nodeId number = Store.nodeId stored := by
      have keys : twoNamespaces.database.store.graph.nodes.keys =
          (List.range' 1 5).map Store.nodeId := rfl
      rw [keys] at member
      obtain ⟨stored, isStored, same⟩ := List.mem_map.mp member
      exact ⟨stored, (List.mem_range'_1.mp isStored).2, same.symm⟩
    obtain rfl := Store.nodeId_injective isId
    exact absurd le (Nat.not_le.mpr below)
  unusedLabels := by
    intro number _ member
    cases member

theorem exists_boundRole {edges : List Edge}
    (linked : edges.map (fun edge => (edge.descriptor, edge.targetGraphId)) = ofShopBinding) :
    ∃ edge ∈ edges, edge.relationship = "bind-role" ∧ edge.targetGraphId = Store.nodeId 3 := by
  have told : ("bind-role", Store.nodeId 3) ∈
      ofShopBinding.map fun entry => (entry.1.relationship, entry.2) := by decide +kernel
  rw [← linked, List.map_map] at told
  obtain ⟨edge, member, isEdge⟩ := List.mem_map.mp told
  exact ⟨edge, member, congrArg Prod.fst isEdge, congrArg Prod.snd isEdge⟩

/-- Of two bindings that name a role "view" one means a role of its namespace and gets it. -/
theorem sync_bindsRole_shopBinding :
    ∃ result last, ofBuiltin.sync (shopBinding "Role") twoNamespaces = .ok result last ∧
      ∃ edge ∈ result.edges, edge.relationship = "bind-role" ∧
        last.graph.EndsAt edge "Role" "view" := by
  obtain ⟨result, last, ran, linked, _⟩ := sync_shopBinding "Role" (by decide)
  obtain ⟨edge, member, binds, _⟩ := exists_boundRole linked
  have refers : RefersToRole (shopBinding "Role") "RoleBinding" "Role" "view" :=
    ⟨by decide +kernel, rfl, rfl, by decide, by decide⟩
  exact ⟨result, last, ran, edge, member, binds,
    (sync_bindsRole CompiledTable.ofTable_builtin List.mem_cons_self refers numbered_twoNamespaces
      rfl ran edge member binds).1⟩

/-- The other one means a role of the cluster, which is not stored, and gets the role of its
namespace. -/
theorem not_sync_bindsStated :
    ¬ ∀ (synchronizer : Synchronizer) (tree : Json) (bindingKind stated name : String)
      (system last : System) (result : SyncResult),
      CompiledTable.ofTable .builtin = .ok synchronizer.rules →
      bindingKind ∈ RuleTable.bindingKinds.map Prod.fst →
      RefersToRole tree bindingKind stated name → system.database.faults = [] →
      synchronizer.sync tree system = .ok result last →
      ∀ edge ∈ result.edges, edge.relationship = "bind-role" →
        last.graph.EndsAt edge stated name := by
  intro claimed
  obtain ⟨result, last, ran, linked, properties, nodes⟩ :=
    sync_shopBinding "ClusterRole" (by decide)
  obtain ⟨edge, member, binds, isTarget⟩ := exists_boundRole linked
  obtain ⟨node, nodeMember, isNode, isKind, _⟩ := claimed ofBuiltin (shopBinding "ClusterRole")
    "RoleBinding" "ClusterRole" "view" twoNamespaces last result CompiledTable.ofTable_builtin
    (by decide) ⟨by decide +kernel, rfl, rfl, by decide, by decide⟩ rfl ran edge member binds
  rw [nodes, List.mem_append, List.mem_singleton] at nodeMember
  rcases nodeMember with before | rfl
  · have others : ∀ node ∈ twoNamespaces.graph.nodes, node.1 = Store.nodeId 3 →
        (Graph.property node.2 "kind").textOr "" = "Role" := by decide +kernel
    have isRole := others node before (isNode.trans isTarget)
    rw [isKind] at isRole
    contradiction
  · have differ : Store.nodeId 6 ≠ Store.nodeId 3 := by decide +kernel
    exact absurd (isNode.trans isTarget) differ

end Synchronizer

end ClusterGraph
