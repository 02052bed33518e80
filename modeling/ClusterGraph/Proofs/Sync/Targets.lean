import ClusterGraph.Proofs.Store.PropertyMerge
import ClusterGraph.Proofs.Store.Soundness
import ClusterGraph.Proofs.Sync.RelationshipSaveEffect

namespace ClusterGraph

/-! Which node a descriptor refers to, told by the properties of the stored nodes. -/

/-- The group that a node belongs to: the core group if it tells none. -/
def Graph.groupOf (node : String × Properties) : Json :=
  if (property node.2 "group").isVacant then .str "" else property node.2 "group"

/-- The name of a descriptor is that of a node. A type that is a kind alone leaves the group open,
and an empty namespace is not compared. -/
structure Descriptor.Names (descriptor : Descriptor) (node : String × Properties) : Prop where
  kind : Graph.property node.2 "kind" = .str descriptor.target.kind
  name : Graph.property node.2 "name" = .str descriptor.targetName
  group : ∀ group, descriptor.target.group = some group → Graph.groupOf node = .str group
  namespaceName : descriptor.targetNamespace ≠ "" →
    Graph.property node.2 "namespace" = .str descriptor.targetNamespace

namespace Graph

variable {node : String × Properties}

theorem has_str_iff {name text : String} :
    has name (.str text) node = true ↔ property node.2 name = .str text :=
  Json.equals_str_iff

theorem isInGroup_iff (group? : Option String) :
    isInGroup (match group? with
      | some group => .str group
      | none => .null) node = true ↔
      ∀ group, group? = some group → groupOf node = .str group := by
  cases group? with
  | none => simp [isInGroup]
  | some group =>
      simp only [isInGroup, Bool.false_or, Json.equals_str_iff]
      exact ⟨fun same _ isGroup => Option.some.inj isGroup ▸ same, fun same => same group rfl⟩

theorem isInNamespace_iff {name : String} :
    isInNamespace (.str name) node = true ↔
      (name ≠ "" → property node.2 "namespace" = .str name) := by
  rw [isInNamespace, Bool.or_eq_true, has_str_iff, Json.isVacant, String.isEmpty_iff,
    or_iff_not_imp_left]

end Graph

theorem Statement.names_iff {descriptor : Descriptor} {node : String × Properties} :
    names descriptor node = true ↔ descriptor.Names node := by
  have parts : names descriptor node = true ↔
      Graph.property node.2 "name" = .str descriptor.targetName ∧
        Graph.property node.2 "kind" = .str descriptor.target.kind ∧
          (∀ group, descriptor.target.group = some group → Graph.groupOf node = .str group) ∧
            (descriptor.targetNamespace ≠ "" →
              Graph.property node.2 "namespace" = .str descriptor.targetNamespace) := by
    simp only [names, Bool.and_eq_true]
    exact and_congr Graph.has_str_iff (and_congr Graph.has_str_iff
      (and_congr (Graph.isInGroup_iff descriptor.target.group) Graph.isInNamespace_iff))
  rw [parts]
  exact ⟨fun ⟨name, kind, group, namespaceName⟩ => ⟨kind, name, group, namespaceName⟩,
    fun named => ⟨named.name, named.kind, named.group, named.namespaceName⟩⟩

namespace Graph

/-- The graph id of the node that a descriptor refers to. A uid refers to the node that has it, and
a name with a kind to the node of least uid among those with this name; of several with this uid the
one that was made first is meant. A name without a kind refers to nothing. -/
inductive Refers (graph : Graph) (descriptor : Descriptor) : String → Prop where
  | byUid {node : String × Properties} (byUid : descriptor.byUid = true)
      (member : node ∈ graph.nodes) (hasUid : property node.2 "uid" = .str descriptor.targetUid) :
      Refers graph descriptor node.1
  | byName {earlier later : Entries Properties} {node : String × Properties}
      (byName : descriptor.byUid = false) (kind : descriptor.target.kind ≠ "")
      (place : graph.nodes = earlier ++ node :: later) (named : descriptor.Names node)
      (below : ∀ other ∈ earlier, descriptor.Names other → uid node < uid other)
      (above : ∀ other ∈ later, descriptor.Names other → uid node ≤ uid other) :
      Refers graph descriptor node.1

variable {graph : Graph} {descriptor : Descriptor} {id : String}

theorem textOr_uidKey (node : String × Properties) : (uidKey node).textOr "" = uid node := by
  simp only [uidKey, uid]
  split
  · rename_i vacant
    cases value : property node.2 "uid" with
    | str text =>
        rw [value] at vacant
        exact (String.isEmpty_iff.mp vacant).symm
    | null | bool _ | int _ | float _ | arr _ | obj _ => rfl
  · rfl

/-- Of two places in a list one comes first, or they are one. -/
theorem place_cases {α : Type} {earlier later others rest : List α} {value other : α}
    (same : earlier ++ value :: later = others ++ other :: rest) :
    value = other ∨ value ∈ others ∧ other ∈ later ∨ other ∈ earlier ∧ value ∈ rest := by
  rcases List.append_eq_append_iff.mp same with
    ⟨between, isOthers, isLater⟩ | ⟨between, isEarlier, isRest⟩
  · cases between with
    | nil => exact .inl (List.cons.inj isLater).1
    | cons first more =>
        obtain ⟨rfl, rfl⟩ := List.cons.inj isLater
        exact .inr (.inl (by simp [isOthers]))
  · cases between with
    | nil => exact .inl (List.cons.inj isRest).1.symm
    | cons first more =>
        obtain ⟨rfl, rfl⟩ := List.cons.inj isRest
        exact .inr (.inr (by simp [isEarlier]))

theorem resolve?_iff (texts : graph.HasTextUids)
    (single : descriptor.byUid = true → graph.Unambiguous descriptor.targetUid) :
    graph.resolve? descriptor = some id ↔ graph.Refers descriptor id := by
  cases byUid : descriptor.byUid with
  | true =>
      rw [resolve?_byUid byUid, Option.map_eq_some_iff]
      constructor
      · rintro ⟨node, isHead, rfl⟩
        obtain ⟨member, hasUid⟩ := mem_nodesWithUid.mp (List.mem_of_mem_head? isHead)
        exact .byUid byUid member (has_str_iff.mp hasUid)
      · intro refers
        cases refers with
        | byName byName => simp [byUid] at byName
        | @byUid node _ member hasUid =>
            have found : node ∈ graph.nodesWithUid (.str descriptor.targetUid) :=
              mem_nodesWithUid.mpr ⟨member, has_str_iff.mpr hasUid⟩
            have few := single byUid
            unfold Unambiguous at few
            cases listed : graph.nodesWithUid (.str descriptor.targetUid) with
            | nil => simp [listed] at found
            | cons first rest =>
                rw [listed] at found few
                obtain rfl : rest = [] := by
                  simpa using few
                exact ⟨node, by simp [List.mem_singleton.mp found], rfl⟩
  | false =>
      cases kind : descriptor.target.kind.isEmpty with
      | true =>
          have nothing : graph.resolve? descriptor = none := by simp [resolve?, byUid, kind]
          rw [nothing]
          refine ⟨by simp, fun refers => ?_⟩
          cases refers with
          | byUid isUid => simp [byUid] at isUid
          | byName _ named => exact absurd (String.isEmpty_iff.mp kind) named
      | false =>
          have hasKind : descriptor.target.kind ≠ "" := by simpa using kind
          obtain ⟨absent, found⟩ := resolve?_byName_first texts byUid kind
          simp only [Statement.names_iff, textOr_uidKey] at found
          constructor
          · intro isFound
            obtain ⟨earlier, node, later, rfl, place, named, below, above⟩ := found id isFound
            exact .byName byUid hasKind place named below above
          · intro refers
            cases refers with
            | byUid isUid => simp [byUid] at isUid
            | @byName earlier later node _ _ place named below above =>
                have present : graph.resolve? descriptor ≠ none := fun nothing => by
                  have unnamed := absent.mp nothing node (by simp [place])
                  rw [Statement.names_iff.mpr named] at unnamed
                  cases unnamed
                obtain ⟨other, isFound⟩ := Option.ne_none_iff_exists'.mp present
                obtain ⟨others, least, rest, rfl, otherPlace, otherNamed, othersBelow, restAbove⟩ :=
                  found other isFound
                rw [isFound]
                rcases place_cases (place.symm.trans otherPlace) with
                  rfl | ⟨inOthers, inLater⟩ | ⟨inEarlier, inRest⟩
                · rfl
                · exact absurd (above least inLater otherNamed)
                    (not_le.mpr (othersBelow node inOthers named))
                · exact absurd (restAbove node inRest named)
                    (not_le.mpr (below least inEarlier otherNamed))

/-- The targets of descriptors in order: one for each that refers to a node. -/
inductive Targets (graph : Graph) : List Descriptor → List (Descriptor × String) → Prop where
  | nil : Targets graph [] []
  | linked {descriptor : Descriptor} {id : String} {rest : List Descriptor}
      {targets : List (Descriptor × String)} (refers : graph.Refers descriptor id)
      (others : Targets graph rest targets) :
      Targets graph (descriptor :: rest) ((descriptor, id) :: targets)
  | dropped {descriptor : Descriptor} {rest : List Descriptor}
      {targets : List (Descriptor × String)} (nowhere : ∀ id, ¬ graph.Refers descriptor id)
      (others : Targets graph rest targets) : Targets graph (descriptor :: rest) targets

theorem targets_resolved (texts : graph.HasTextUids) {descriptors : List Descriptor}
    (single : ∀ descriptor ∈ descriptors, descriptor.byUid = true →
      graph.Unambiguous descriptor.targetUid) :
    graph.Targets descriptors (graph.resolved descriptors) := by
  induction descriptors with
  | nil => exact .nil
  | cons descriptor rest ih =>
      have others := ih fun other member => single other (by simp [member])
      have refers (id : String) : graph.resolve? descriptor = some id ↔ graph.Refers descriptor id :=
        resolve?_iff texts (single descriptor (by simp))
      cases found : graph.resolve? descriptor with
      | some id =>
          have isFirst : graph.resolved (descriptor :: rest) =
              (descriptor, id) :: graph.resolved rest := by simp [resolved, found]
          rw [isFirst]
          exact .linked ((refers id).mp found) others
      | none =>
          have nothing : graph.resolved (descriptor :: rest) = graph.resolved rest := by
            simp [resolved, found]
          rw [nothing]
          refine .dropped (fun id isTarget => ?_) others
          rw [(refers id).mpr isTarget] at found
          cases found

end Graph

end ClusterGraph
