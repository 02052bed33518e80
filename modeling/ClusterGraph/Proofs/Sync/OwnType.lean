import ClusterGraph.Proofs.Sync.FirstSync
import ClusterGraph.Proofs.Sync.ReadYourWrites
import ClusterGraph.Proofs.Sync.Targets

namespace ClusterGraph

/-! Looking an object up by its own type. The type of an object is cut at the last slash of its
version and the type that a reference asks for at the first slashes of its text; the two agree
where a version has one slash at most and a kind none. -/

namespace Text

variable {separator : Char} {before after : List Char}

theorem splitFirst?_absent (absent : separator ∉ before) :
    splitFirst? separator before = none := by
  induction before with
  | nil => rfl
  | cons first rest ih =>
      rw [List.mem_cons, not_or] at absent
      have other : (first == separator) = false := by simpa using Ne.symm absent.1
      simp [splitFirst?, other, ih absent.2]

theorem splitFirst?_append (absent : separator ∉ before) :
    splitFirst? separator (before ++ separator :: after) = some (before, after) := by
  induction before with
  | nil => simp [splitFirst?]
  | cons first rest ih =>
      rw [List.mem_cons, not_or] at absent
      have other : (first == separator) = false := by simpa using Ne.symm absent.1
      simp [splitFirst?, other, ih absent.2]

theorem splitLast?_absent (absent : separator ∉ before) : splitLast? separator before = none := by
  rw [splitLast?, splitFirst?_absent (by simpa using absent)]
  rfl

theorem splitLast?_append (absent : separator ∉ after) :
    splitLast? separator (before ++ separator :: after) = some (before, after) := by
  have reversed : (before ++ separator :: after).reverse =
      after.reverse ++ separator :: before.reverse := by simp
  rw [splitLast?, reversed, splitFirst?_append (by simpa using absent)]
  simp

end Text

namespace TargetType

theorem ofText_kind {kind : String} (noSlash : '/' ∉ kind.toList) : ofText kind = ⟨none, "", kind⟩ := by
  rw [ofText, Text.splitFirst?_absent noSlash]

theorem ofText_own {apiVersion kind : String} (fewSlashes : apiVersion.toList.count '/' ≤ 1)
    (noSlash : '/' ∉ kind.toList) :
    ofText (apiVersion ++ "/" ++ kind) =
      ⟨some (GroupVersionKind.ofApiVersion apiVersion kind).group,
        (GroupVersionKind.ofApiVersion apiVersion kind).version, kind⟩ := by
  have text : (apiVersion ++ "/" ++ kind).toList = apiVersion.toList ++ '/' :: kind.toList := by
    simp
  by_cases slash : '/' ∈ apiVersion.toList
  · obtain ⟨group, version, parts⟩ := List.append_of_mem slash
    rw [parts, List.count_append, List.count_cons_self] at fewSlashes
    have groupPlain : '/' ∉ group := List.count_eq_zero.mp (by omega)
    have versionPlain : '/' ∉ version := List.count_eq_zero.mp (by omega)
    rw [ofText, text, parts, List.append_assoc, List.cons_append,
      Text.splitFirst?_append groupPlain]
    simp only [Text.splitFirst?_append versionPlain, GroupVersionKind.ofApiVersion, parts,
      Text.splitLast?_append versionPlain, String.ofList_toList]
  · rw [ofText, text, Text.splitFirst?_append slash]
    simp only [Text.splitFirst?_absent noSlash, GroupVersionKind.ofApiVersion,
      Text.splitLast?_absent slash, String.ofList_toList]

end TargetType

/-- An object with a type: its version has one slash at most, and its kind is there and has
none. -/
structure Json.IsOfType (tree : Json) (apiVersion kind : String) : Prop where
  isVersion : tree.get? "apiVersion" = some (.str apiVersion)
  fewSlashes : apiVersion.toList.count '/' ≤ 1
  isKind : tree.get? "kind" = some (.str kind)
  hasKind : kind ≠ ""
  noSlash : '/' ∉ kind.toList

/-- The descriptor asks for the name of a node under a type or a kind alone, in the namespace of
the node or in any. -/
structure Descriptor.AsksFor (descriptor : Descriptor) (apiVersion kind : String) (node : Node) :
    Prop where
  byName : descriptor.targetUid = ""
  type : descriptor.targetType = apiVersion ++ "/" ++ kind ∨ descriptor.targetType = kind
  name : descriptor.targetName = node.name
  namespaceName : descriptor.targetNamespace = "" ∨ descriptor.targetNamespace = node.namespaceName

namespace Properties.Hold

variable {stored : Properties} {properties : Entries Json}

theorem get? (hold : stored.Hold properties) {name : String} {value : Json}
    (told : properties.get? name = some value) : stored.get? name = some value :=
  get?_tells (hold (name, value) (Entries.mem_of_get? told))

theorem isStoredAs (hold : stored.Hold properties) {node : Node}
    (written : node.properties = .ok properties) : node.IsStoredAs stored := by
  obtain ⟨stamp, attributes, rfl⟩ := Node.properties_ok written
  constructor <;> exact hold.get? rfl

end Properties.Hold

namespace Descriptor

variable {descriptor : Descriptor} {tree : Json} {apiVersion kind : String} {node : Node}
  {stored : Properties}

theorem AsksFor.target (asks : descriptor.AsksFor apiVersion kind node)
    (isOfType : tree.IsOfType apiVersion kind) :
    descriptor.target.kind = kind ∧ ∀ group, descriptor.target.group = some group →
      group = (GroupVersionKind.ofApiVersion apiVersion kind).group := by
  unfold Descriptor.target
  obtain own | alone := asks.type
  · rw [own, TargetType.ofText_own isOfType.fewSlashes isOfType.noSlash]
    exact ⟨rfl, fun group same => (Option.some.inj same).symm⟩
  · rw [alone, TargetType.ofText_kind isOfType.noSlash]
    exact ⟨rfl, fun group open' => by cases open'⟩

theorem AsksFor.byUid (asks : descriptor.AsksFor apiVersion kind node) :
    descriptor.byUid = false := by
  simp [Descriptor.byUid, asks.byName]

/-- The core group is stored as an empty text, which counts as no group and is read as empty. -/
theorem AsksFor.names (asks : descriptor.AsksFor apiVersion kind node)
    (isOfType : tree.IsOfType apiVersion kind) (isStored : node.IsStoredAs stored)
    (type : node.group = (GroupVersionKind.ofApiVersion apiVersion kind).group ∧ node.kind = kind)
    (id : String) : descriptor.Names (id, stored) := by
  obtain ⟨sameKind, sameGroup⟩ := asks.target isOfType
  constructor
  · rw [Graph.property, isStored.kind, sameKind, type.2]
    rfl
  · rw [Graph.property, isStored.name, asks.name]
    rfl
  · intro group isGroup
    rw [sameGroup group isGroup, ← type.1]
    simp only [Graph.groupOf, Graph.property, isStored.group, Option.getD_some, Json.isVacant]
    split
    · rename_i core
      rw [String.isEmpty_iff.mp core]
    · rfl
  · intro given
    rw [Graph.property, isStored.namespaceName, asks.namespaceName.resolve_left given]
    rfl

end Descriptor

/-- A name that fits a stored node is resolved, to the node of least uid among those that it
fits. -/
theorem Graph.resolve?_least {graph : Graph} {descriptor : Descriptor} (texts : graph.HasTextUids)
    (byName : descriptor.byUid = false) (kind : descriptor.target.kind ≠ "")
    {node : String × Properties} (member : node ∈ graph.nodes) (named : descriptor.Names node) :
    ∃ found ∈ graph.nodes, graph.resolve? descriptor = some found.1 ∧ descriptor.Names found ∧
      ∀ other ∈ graph.nodes, descriptor.Names other → uid found ≤ uid other := by
  obtain ⟨absent, found⟩ := resolve?_byName texts byName (by simpa using kind)
  simp only [Statement.names_iff, textOr_uidKey] at found
  cases resolves : graph.resolve? descriptor with
  | none =>
      have unfit := absent.mp resolves node member
      rw [Statement.names_iff.mpr named] at unfit
      contradiction
  | some id =>
      obtain ⟨least, isMember, rfl, fits, below⟩ := found id resolves
      exact ⟨least, isMember, rfl, fits, below⟩

namespace Script

variable {store after : Store} {node : Node} {properties : Entries Json} {change : NodeChange}

theorem hasTextUids_saveNode (texts : store.graph.HasTextUids)
    (written : node.properties = .ok properties)
    (evaluated : (saveNode node properties).evaluate store = .ok change after) :
    after.graph.HasTextUids := by
  rcases evaluate_saveNode_ok evaluated with
    ⟨_, rfl, rfl⟩ | ⟨id, old, row, stored, _, _, _, rfl, rfl⟩
  · exact Store.hasTextUids_withNewNode texts written
  · intro entry member
    obtain ⟨before, beforeMember, rfl⟩ := List.mem_map.mp member
    split
    · have hold := Properties.hold_insertAll before.2 (Node.keys_nodup written)
      exact ⟨node.uid, (Graph.has_uid_told id (hold _ (Node.uid_written written))).2⟩
    · exact texts before beforeMember

theorem saveNode_stores (written : node.properties = .ok properties)
    (evaluated : (saveNode node properties).evaluate store = .ok change after) :
    ∃ stored, (change.graphId, stored) ∈ after.graph.nodes ∧ node.IsStoredAs stored := by
  rcases evaluate_saveNode_ok evaluated with
    ⟨_, rfl, rfl⟩ | ⟨id, old, row, stored, present, _, _, rfl, rfl⟩
  · refine ⟨.ofEntries properties, ?_, Node.isStoredAs_properties written⟩
    rw [Store.nodes_withNewNode]
    exact List.mem_append_right _ (List.mem_singleton.mpr rfl)
  · have listed : (id, old) ∈ store.graph.nodesWithUid (.str node.uid) := by simp [present]
    have merged := List.mem_map_of_mem (f := fun entry : String × Properties =>
      if entry.1 == id then (id, entry.2.insertAll (.ofEntries properties)) else entry)
      (Graph.mem_nodesWithUid.mp listed).1
    rw [if_pos (beq_self_eq_true id)] at merged
    exact ⟨_, merged,
      (Properties.hold_insertAll old (Node.keys_nodup written)).isStoredAs written⟩

end Script

namespace Synchronizer

variable {synchronizer : Synchronizer} {tree : Json} {system last : System} {result : SyncResult}
  {apiVersion kind : String} {descriptor : Descriptor}

theorem project_type (projector : Projector) (isOfType : tree.IsOfType apiVersion kind) :
    (projector.project tree).group = (GroupVersionKind.ofApiVersion apiVersion kind).group ∧
      (projector.project tree).kind = kind := by
  have type : GroupVersionKind.ofObject tree = GroupVersionKind.ofApiVersion apiVersion kind := by
    simp only [GroupVersionKind.ofObject, isOfType.isVersion, isOfType.isKind, Option.getD_some,
      Json.textOr]
  simp only [Projector.project, type, true_and]
  unfold GroupVersionKind.ofApiVersion
  split <;> rfl

/-- After a sync without faults the name of the object under its own type, or under its kind alone,
in its namespace or in any, is resolved: to the node of least uid among those with that name, and
so to the object itself if no other node has it. -/
theorem sync_resolves_own (texts : system.graph.HasTextUids) (calm : system.database.faults = [])
    (known : (synchronizer.projector.project tree).uid.isEmpty = false)
    (isOfType : tree.IsOfType apiVersion kind)
    (asks : descriptor.AsksFor apiVersion kind (synchronizer.projector.project tree))
    (ran : synchronizer.sync tree system = .ok result last) :
    ∃ own ∈ last.graph.nodes, own.1 = result.graphId ∧ descriptor.Names own ∧
      ∃ found ∈ last.graph.nodes, descriptor.Names found ∧
        (∀ other ∈ last.graph.nodes, descriptor.Names other → Graph.uid found ≤ Graph.uid other) ∧
        ((∀ other ∈ last.graph.nodes, descriptor.Names other → other.1 = result.graphId) →
          found.1 = result.graphId) ∧
        ∃ final, Action.transaction (Script.resolveTarget? descriptor) last =
          .ok (some found.1) final ∧ final.graph = last.graph := by
  obtain ⟨entries, change, saved, edges, ⟨written, nodeSaved, relationshipsSaved⟩, rfl, quiet⟩ :=
    sync_committed known calm ran
  obtain ⟨id, _, _, _, _, isLast⟩ := Script.evaluate_saveRelationships_ok relationshipsSaved
  have nodes : last.graph.nodes = saved.graph.nodes := by
    rw [System.graph, isLast]
    rfl
  have lastTexts : last.graph.HasTextUids := by
    rw [Graph.HasTextUids, nodes]
    exact Script.hasTextUids_saveNode texts written nodeSaved
  obtain ⟨stored, member, isStored⟩ := Script.saveNode_stores written nodeSaved
  rw [← nodes] at member
  have named := asks.names isOfType isStored (project_type _ isOfType) change.graphId
  have hasKind : descriptor.target.kind ≠ "" := by
    rw [(asks.target isOfType).1]
    exact isOfType.hasKind
  obtain ⟨found, foundMember, resolves, fits, least⟩ :=
    Graph.resolve?_least lastTexts asks.byUid hasKind member named
  have answers : last.database.store.graph.Answers descriptor :=
    Graph.answers_of_texts lastTexts fun byUid => by simp [asks.byUid] at byUid
  have evaluated := Script.evaluate_resolveTarget? answers
  rw [show last.database.store.graph.resolve? descriptor = some found.1 from resolves] at evaluated
  obtain ⟨final, looked, same⟩ := Action.transaction_calm quiet evaluated
  exact ⟨(change.graphId, stored), member, rfl, named, found, foundMember, fits, least,
    fun alone => alone found foundMember fits, final, looked, congrArg Store.graph same⟩

def webDeployment : Json :=
  .obj [("apiVersion", .str "apps/v1"), ("kind", .str "Deployment"),
    ("metadata", .obj [("uid", .str "b"), ("name", .str "web"), ("namespace", .str "shop")])]

/-- Another deployment has the name in another namespace. -/
def besideWeb : System :=
  let other : Node :=
    { uid := "a", group := "apps", kind := "Deployment", name := "web", namespaceName := "ops"
      stamp := .time .epoch }
  { database := { store :=
      { graph := { nodes := [(Store.nodeId 1, .ofEntries (other.propertiesWith "" "\x7b\x7d"))] }
        nextId := 2 } }
    journal := { threshold := 50 } }

/-- The name by itself is that of the other deployment, whose uid is less; in its own namespace the
object is found. -/
theorem sync_resolves_own_besideWeb :
    ∃ result last, ofOwners.sync webDeployment besideWeb = .ok result last ∧
      result.graphId = Store.nodeId 2 ∧
      (∃ final, Action.transaction (Script.resolveTarget?
        { relationship := "", targetType := "apps/v1/Deployment", targetName := "web" }) last =
          .ok (some (Store.nodeId 1)) final ∧ final.graph = last.graph) ∧
      ∃ final, Action.transaction (Script.resolveTarget?
        { relationship := "", targetType := "Deployment", targetName := "web",
          targetNamespace := "shop" }) last =
          .ok (some (Store.nodeId 2)) final ∧ final.graph = last.graph := by
  let anywhere : Descriptor :=
    { relationship := "", targetType := "apps/v1/Deployment", targetName := "web" }
  let nearby : Descriptor :=
    { relationship := "", targetType := "Deployment", targetName := "web",
      targetNamespace := "shop" }
  have texts : besideWeb.graph.HasTextUids := by
    intro node member
    rw [show node = _ from List.mem_singleton.mp member]
    exact ⟨_, rfl⟩
  have isOfType : webDeployment.IsOfType "apps/v1" "Deployment" :=
    ⟨rfl, by decide, rfl, by decide, by decide⟩
  have asksAnywhere : anywhere.AsksFor "apps/v1" "Deployment"
      (ofOwners.projector.project webDeployment) :=
    ⟨rfl, .inl (by decide), rfl, .inl rfl⟩
  have asksNearby : nearby.AsksFor "apps/v1" "Deployment"
      (ofOwners.projector.project webDeployment) :=
    ⟨rfl, .inr rfl, rfl, .inr rfl⟩
  have succeeds : (match ofOwners.sync webDeployment besideWeb with
      | .ok result last => result.graphId == Store.nodeId 2 &&
          (last.graph.nodes.filter (Statement.names nearby)).map Prod.fst == [Store.nodeId 2] &&
          last.graph.nodes.map (fun node => (node.1, Graph.uid node)) ==
            [(Store.nodeId 1, "a"), (Store.nodeId 2, "b")] &&
          last.graph.nodes.all (Statement.names anywhere)
      | .error _ _ => false) = true := by
    decide +kernel
  cases ran : ofOwners.sync webDeployment besideWeb with
  | error failure last => simp [ran] at succeeds
  | ok result last =>
      simp only [ran, Bool.and_eq_true, beq_iff_eq] at succeeds
      obtain ⟨⟨⟨isId, alone⟩, uids⟩, all⟩ := succeeds
      obtain ⟨-, -, -, -, found, member, -, least, -, final, looked, same⟩ :=
        sync_resolves_own texts rfl (by decide +kernel) isOfType asksAnywhere ran
      obtain ⟨-, -, -, -, near, -, -, -, only, finalNear, lookedNear, sameNear⟩ :=
        sync_resolves_own texts rfl (by decide +kernel) isOfType asksNearby ran
      refine ⟨result, last, rfl, isId, ⟨final, ?_, same⟩, finalNear, ?_, sameNear⟩
      · have isFound : found.1 = Store.nodeId 1 := by
          obtain ⟨first, firstMember, isFirst⟩ : ∃ first ∈ last.graph.nodes,
              (first.1, Graph.uid first) = (Store.nodeId 1, "a") := by
            rw [← List.mem_map, uids]
            exact List.mem_cons_self
          have below := least first firstMember
            (Statement.names_iff.mp (List.all_eq_true.mp all first firstMember))
          rw [(Prod.mk.inj isFirst).2] at below
          have place := List.mem_map_of_mem
            (f := fun node : String × Properties => (node.1, Graph.uid node)) member
          rw [uids, List.mem_cons, List.mem_singleton] at place
          rcases place with isFirst | isOwn
          · exact (Prod.mk.inj isFirst).1
          · rw [(Prod.mk.inj isOwn).2] at below
            exact absurd below (by decide)
        rw [looked, isFound]
      · have isNear : near.1 = Store.nodeId 2 := by
          rw [← isId]
          refine only fun node nodeMember named => ?_
          have listed := List.mem_map_of_mem (f := Prod.fst)
            (List.mem_filter.mpr ⟨nodeMember, Statement.names_iff.mpr named⟩)
          rw [alone] at listed
          rw [isId]
          exact List.mem_singleton.mp listed
        rw [lookedNear, isNear]

end Synchronizer

end ClusterGraph
