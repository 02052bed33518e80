import ClusterGraph.Proofs.Rules.CompiledRules
import ClusterGraph.Proofs.Sync.FirstSync

namespace ClusterGraph

/-! An object links to nothing in other namespaces. The namespace of an object is a string that is
not empty, and so no rule degrades into a look-up that leaves the namespace open. -/

/-- The edge ends at a node of a namespace. -/
def Graph.EndsIn (graph : Graph) (edge : Edge) (namespaceName : String) : Prop :=
  ∃ node ∈ graph.nodes, node.1 = edge.targetGraphId ∧
    property node.2 "namespace" = .str namespaceName

/-- Where the edges lead that were written for an object in a namespace. An edge may have several
rules as its origin, and what is told holds for each of them. -/
structure Confined (rules : CompiledTable) (tree : Json) (namespaceName : String)
    (result : SyncResult) (after : Graph) : Prop where
  origin : ∀ edge ∈ result.edges, ∃ compiled ∈ rules.rulesFor (.ofObject tree),
    edge.descriptor ∈ rules.ofRule compiled tree
  /-- What a path names is looked for where the object is, unless it lives in no namespace. -/
  named : ∀ edge ∈ result.edges, edge.descriptor.byUid = false →
    ∀ compiled ∈ rules.rulesFor (.ofObject tree), compiled.rule.byReference = false →
      compiled.rule.targetType ∉ rules.clusterScoped →
      edge.descriptor ∈ rules.ofRule compiled tree → after.EndsIn edge namespaceName
  /-- A reference leads into the namespace that it tells itself. -/
  placed : ∀ edge ∈ result.edges, ∀ compiled ∈ rules.rulesFor (.ofObject tree),
    compiled.rule.byReference = true → ∀ reference ∈ compiled.path.find tree,
      CompiledTable.ofReference? compiled namespaceName reference = some edge.descriptor →
      ∀ own, own ≠ "" → reference.get? "namespace" = some (.str own) → after.EndsIn edge own
  /-- One that tells none leads to where the object is. -/
  unplaced : ∀ edge ∈ result.edges, ∀ compiled ∈ rules.rulesFor (.ofObject tree),
    compiled.rule.byReference = true → ∀ reference ∈ compiled.path.find tree,
      CompiledTable.ofReference? compiled namespaceName reference = some edge.descriptor →
      (∀ own, own ≠ "" → reference.get? "namespace" ≠ some (.str own)) →
      after.EndsIn edge namespaceName

theorem CompiledTable.sourceNamespace_eq {tree metadata : Json} {namespaceName : String}
    (isMetadata : tree.get? "metadata" = some metadata)
    (placed : metadata.get? "namespace" = some (.str namespaceName)) :
    sourceNamespace tree = namespaceName := by
  rw [sourceNamespace, isMetadata]
  exact stringAt_of_str placed

/-- A name with a namespace leads into it. -/
theorem Graph.endsIn_of_resolve? {graph : Graph} {edge : Edge}
    (byName : edge.descriptor.byUid = false) (placed : edge.descriptor.targetNamespace ≠ "")
    (resolves : graph.resolve? edge.descriptor = some edge.targetGraphId) :
    graph.EndsIn edge edge.descriptor.targetNamespace := by
  obtain ⟨node, member, isTarget, fits⟩ := resolve?_names byName resolves
  exact ⟨node, member, isTarget, fits.namespaceName placed⟩

section Origins

variable {rules : CompiledTable} {compiled : CompiledRule} {tree reference : Json}
  {namespaceName : String} {edge : Edge} {graph : Graph}

theorem endsIn_of_path (isPath : compiled.rule.byReference = false)
    (inNamespace : compiled.rule.targetType ∉ rules.clusterScoped)
    (derived : edge.descriptor ∈ rules.ofRule compiled tree)
    (placed : CompiledTable.sourceNamespace tree = namespaceName) (inhabited : namespaceName ≠ "")
    (byName : edge.descriptor.byUid = false)
    (resolves : graph.resolve? edge.descriptor = some edge.targetGraphId) :
    graph.EndsIn edge namespaceName := by
  obtain ⟨value, _, isDerived⟩ := (CompiledTable.mem_ofRule_path isPath).mp derived
  rw [if_neg inNamespace, placed] at isDerived
  have isNamespace : edge.descriptor.targetNamespace = namespaceName := by
    rw [(CompiledTable.ofScalar?_eq_some isDerived).2]
  rw [← isNamespace] at inhabited ⊢
  exact Graph.endsIn_of_resolve? byName inhabited resolves

theorem endsIn_of_reference
    (derived : CompiledTable.ofReference? compiled namespaceName reference = some edge.descriptor)
    (inhabited : namespaceName ≠ "")
    (resolves : graph.resolve? edge.descriptor = some edge.targetGraphId) :
    graph.EndsIn edge (if CompiledTable.stringAt reference "namespace" = "" then namespaceName
      else CompiledTable.stringAt reference "namespace") := by
  have isDescriptor := (CompiledTable.ofReference?_eq_some derived).2.2
  have byName : edge.descriptor.byUid = false := by
    rw [isDescriptor]
    rfl
  have isNamespace := congrArg Descriptor.targetNamespace isDescriptor
  simp only at isNamespace
  rw [← isNamespace]
  refine Graph.endsIn_of_resolve? byName ?_ resolves
  rw [isNamespace]
  split
  · exact inhabited
  · rename_i isTold
    exact isTold

end Origins

namespace Synchronizer

/-- The sync of an object in a namespace writes no edge into another one that the object does not
tell, whatever rules and graph it works with. -/
theorem sync_confined {synchronizer : Synchronizer} {tree metadata : Json}
    {namespaceName : String} {system last : System} {result : SyncResult}
    (isMetadata : tree.get? "metadata" = some metadata)
    (placed : metadata.get? "namespace" = some (.str namespaceName))
    (inhabited : namespaceName ≠ "") (calm : system.database.faults = [])
    (ran : synchronizer.sync tree system = .ok result last) :
    EdgesMade synchronizer.rules tree result system.graph last.graph ∧
      Confined synchronizer.rules tree namespaceName result last.graph := by
  have isNamespace := CompiledTable.sourceNamespace_eq isMetadata placed
  have made := sync_made calm ran
  refine ⟨made, ?_⟩
  constructor
  case origin => exact fun edge member => CompiledTable.mem_derive.mp (made.derived edge member)
  case named =>
    intro edge member byName compiled _ isPath inNamespace derived
    exact endsIn_of_path isPath inNamespace derived isNamespace inhabited byName
      (made.resolved edge member)
  case placed =>
    intro edge member compiled _ _ reference _ derived own isOwn told
    have ends := endsIn_of_reference derived inhabited (made.resolved edge member)
    rwa [CompiledTable.stringAt_of_str told, if_neg isOwn] at ends
  case unplaced =>
    intro edge member compiled _ _ reference _ derived untold
    have ends := endsIn_of_reference derived inhabited (made.resolved edge member)
    have isEmpty : CompiledTable.stringAt reference "namespace" = "" :=
      by_contra fun isOwn => untold _ isOwn (CompiledTable.get?_of_stringAt isOwn)
    rwa [if_pos isEmpty] at ends

/-- Objects under the built-in rules. -/
def ofBuiltin : Synchronizer where
  projector := { clock := .time .epoch }
  rules := .builtin

/-- A binding of a role of some kind to two accounts of one name, of which one tells another
namespace. -/
def shopBinding (roleKind : String) : Json :=
  .obj [("apiVersion", .str "rbac.authorization.k8s.io/v1"), ("kind", .str "RoleBinding"),
    ("metadata", .obj [("uid", .str "binding"), ("name", .str "readers"),
      ("namespace", .str "shop")]),
    ("roleRef", .obj [("kind", .str roleKind), ("name", .str "view")]),
    ("subjects", .arr [
      .obj [("kind", .str "ServiceAccount"), ("name", .str "web"), ("namespace", .str "ops")],
      .obj [("kind", .str "ServiceAccount"), ("name", .str "web")]])]

/-- Roles of one name and accounts of one name, each in two namespaces. -/
def twoNamespaces : System :=
  let node (uid group kind name namespaceName : String) : Properties := .ofEntries
    [("uid", .str uid), ("group", .str group), ("kind", .str kind), ("name", .str name),
     ("namespace", .str namespaceName)]
  let role (uid namespaceName : String) : Properties :=
    node uid "rbac.authorization.k8s.io" "Role" "view" namespaceName
  let account (uid namespaceName : String) : Properties :=
    node uid "" "ServiceAccount" "web" namespaceName
  { database := { store :=
      { graph := { nodes :=
          [(Store.nodeId 1, node "a" "" "Namespace" "shop" ""),
           (Store.nodeId 2, role "b" "ops"), (Store.nodeId 3, role "c" "shop"),
           (Store.nodeId 4, account "d" "ops"), (Store.nodeId 5, account "e" "shop")] }
        nextId := 6 } }
    journal := { threshold := 50 } }

/-- What the binding refers to, whatever the kind of its role is, with the ids of the nodes. -/
def ofShopBinding : List (Descriptor × String) :=
  [({ relationship := "belongs-to", targetType := "v1/Namespace", targetName := "shop" },
    Store.nodeId 1),
   ({ relationship := "bind-role", targetType := "rbac.authorization.k8s.io/v1/Role"
      targetName := "view", targetNamespace := "shop" }, Store.nodeId 3),
   ({ relationship := "assign-to", targetType := "ServiceAccount", targetName := "web"
      targetNamespace := "ops" }, Store.nodeId 4),
   ({ relationship := "assign-to", targetType := "ServiceAccount", targetName := "web"
      targetNamespace := "shop" }, Store.nodeId 5)]

theorem hasTextUids_twoNamespaces : twoNamespaces.graph.HasTextUids := by
  intro node member
  simp only [System.graph, twoNamespaces, List.mem_cons, List.not_mem_nil, or_false] at member
  rcases member with rfl | rfl | rfl | rfl | rfl <;> exact ⟨_, rfl⟩

theorem derive_shopBinding : ∀ roleKind ∈ ["Role", "ClusterRole"],
    ofBuiltin.rules.derive (shopBinding roleKind) = ofShopBinding.map Prod.fst := by
  intro roleKind member
  apply CompiledTable.derive_eq_of_evaluated CompiledTable.ofTable_builtin
  revert roleKind
  decide +kernel

theorem sync_shopBinding (roleKind : String) (member : roleKind ∈ ["Role", "ClusterRole"]) :
    ∃ result last, ofBuiltin.sync (shopBinding roleKind) twoNamespaces = .ok result last ∧
      result.edges.map (fun edge => (edge.descriptor, edge.targetGraphId)) = ofShopBinding ∧
      ∃ properties, last.graph.nodes =
        twoNamespaces.graph.nodes ++ [(Store.nodeId 6, properties)] := by
  obtain ⟨properties, written⟩ : ∃ properties,
      (ofBuiltin.projector.project (shopBinding roleKind)).properties = .ok properties := ⟨_, rfl⟩
  have derived := derive_shopBinding roleKind member
  have single : ∀ entry ∈ ofShopBinding, entry.1.byUid = false ∧
      entry.1.target.kind.isEmpty = false ∧ entry.1.targetName ≠ "readers" ∧
      (twoNamespaces.graph.nodes.filter (Statement.names entry.1)).map Prod.fst = [entry.2] := by
    decide +kernel
  have texts := Store.hasTextUids_withNewNode hasTextUids_twoNamespaces written
  have resolved := Graph.resolved_of_forall fun entry member => by
    obtain ⟨byName, kind, other, fits⟩ := single entry member
    exact Store.resolve?_withNewNode hasTextUids_twoNamespaces written byName kind other fits
  obtain ⟨last, number, ran, nodes⟩ := sync_first rfl rfl written rfl fun descriptor member => by
    rw [derived] at member
    obtain ⟨entry, entryMember, rfl⟩ := List.mem_map.mp member
    exact Graph.answers_of_texts texts fun byUid => by
      rw [(single entry entryMember).1] at byUid
      contradiction
  refine ⟨_, last, ran, ?_, _, nodes⟩
  rw [resultOf, derived, resolved, Store.map_freshEdges]

/-- The role and one account are those of the binding's namespace, though the others come first. -/
theorem sync_confined_shopBinding :
    CompiledTable.ofTable .builtin = .ok ofBuiltin.rules ∧
      ∃ result last, ofBuiltin.sync (shopBinding "Role") twoNamespaces = .ok result last ∧
        result.edges.map (fun edge => (edge.descriptor, edge.targetGraphId)) = ofShopBinding ∧
        Confined ofBuiltin.rules (shopBinding "Role") "shop" result last.graph := by
  obtain ⟨result, last, ran, linked, _⟩ := sync_shopBinding "Role" (by decide)
  exact ⟨CompiledTable.ofTable_builtin, result, last, ran, linked,
    (sync_confined rfl rfl (by decide) rfl ran).2⟩

end Synchronizer

end ClusterGraph
