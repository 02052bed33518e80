import ClusterGraph.Proofs.History.CommitFrame

namespace ClusterGraph

/-! What a history of saves tells: the last save of a node tells its properties, and the last save
of relationships tells those that start at it. Histories are read from the newest save on. -/

/-- Whether a node is one that the descriptor names. -/
def Descriptor.fits (descriptor : Descriptor) (node : Node) : Bool :=
  node.name == descriptor.targetName && (node.kind == descriptor.target.kind &&
    (descriptor.target.group.all (node.group == ·) &&
      (descriptor.targetNamespace.isEmpty || node.namespaceName == descriptor.targetNamespace)))

namespace History

/-- The node of the last save of a uid. -/
def lastNode? (uid : String) : List Save → Option Node
  | [] => none
  | .upsert node :: earlier => if node.uid = uid then some node else lastNode? uid earlier
  | .replace _ _ :: earlier => lastNode? uid earlier

/-- The uids of saved nodes in the order of their first saves. -/
def uids : List Save → List String
  | [] => []
  | .upsert node :: earlier =>
      if node.uid ∈ uids earlier then uids earlier else uids earlier ++ [node.uid]
  | .replace _ _ :: earlier => uids earlier

/-- The uid of the node that a descriptor refers to. Of several nodes that it names the one of the
least uid is meant. -/
def target? (descriptor : Descriptor) (saves : List Save) : Option String :=
  if descriptor.byUid then
    if descriptor.targetUid ∈ uids saves then some descriptor.targetUid else none
  else if descriptor.target.kind.isEmpty then none
  else ((uids saves).filter fun uid => (lastNode? uid saves).any descriptor.fits).min?

/-- The descriptors of the last save of relationships of a uid that referred to nodes saved before,
each with the uid of its node. -/
def links (uid : String) : List Save → List (Descriptor × String)
  | [] => []
  | .upsert _ :: earlier => links uid earlier
  | .replace source descriptors :: earlier =>
      if source = uid then
        descriptors.filterMap fun descriptor =>
          (target? descriptor earlier).map fun target => (descriptor, target)
      else links uid earlier

variable {saves : List Save} {uid : String}

theorem mem_uids : uid ∈ uids saves ↔ ∃ node, .upsert node ∈ saves ∧ node.uid = uid := by
  induction saves with
  | nil => simp [uids]
  | cons save earlier ih =>
      cases save with
      | upsert node =>
          have first : uid ∈ uids (.upsert node :: earlier) ↔
              node.uid = uid ∨ uid ∈ uids earlier := by
            simp only [uids]
            split
            · rename_i known
              constructor
              · exact .inr
              · rintro (rfl | member)
                · exact known
                · exact member
            · rw [List.mem_append, List.mem_singleton, or_comm, eq_comm]
          rw [first, ih]
          constructor
          · rintro (same | ⟨other, member, same⟩)
            · exact ⟨node, by simp, same⟩
            · exact ⟨other, by simp [member], same⟩
          · rintro ⟨other, member, same⟩
            rcases List.mem_cons.mp member with isFirst | member
            · cases isFirst
              exact .inl same
            · exact .inr ⟨other, member, same⟩
      | replace source descriptors => simp [uids, ih]

theorem uids_later (save : Save) (known : uid ∈ uids saves) : uid ∈ uids (save :: saves) := by
  obtain ⟨node, member, isUid⟩ := mem_uids.mp known
  exact mem_uids.mpr ⟨node, List.mem_cons_of_mem _ member, isUid⟩

end History

namespace Statement

theorem names_ofEntries {record : Node} {entries : Entries Json} (descriptor : Descriptor)
    (id : String) (written : record.properties = .ok entries) :
    names descriptor (id, .ofEntries entries) = descriptor.fits record := by
  have stored := Node.isStoredAs_properties written
  simp only [names, Graph.has, Graph.property, stored.name, stored.kind, Option.getD_some,
    Json.equals_str, Descriptor.fits, Graph.isInNamespace, stored.namespaceName]
  congr 2
  congr 1
  · cases descriptor.target.group with
    | none => simp [Graph.isInGroup]
    | some group =>
        simp only [Graph.isInGroup, Graph.property, stored.group, Option.getD_some,
          Option.all_some, Json.isVacant]
        cases empty : record.group.isEmpty with
        | true => simp [String.isEmpty_iff.mp empty]
        | false => simp

end Statement

namespace Graph

/-- The graph holds what the last saves of some history tell. -/
structure Reflects (graph : Graph) (saves : List Save) : Prop where
  uids : graph.nodes.map uid = History.uids saves
  nodes : ∀ node ∈ graph.nodes, ∃ record entries,
    History.lastNode? (uid node) saves = some record ∧ record.properties = .ok entries ∧
      node.2 = .ofEntries entries
  links : ∀ node ∈ graph.nodes, graph.linksFrom node.1 =
    (History.links (uid node) saves).map fun link =>
      (.ofEntries (Statement.relationshipProperties link.1), some link.2)
  unlinked : ∀ uid, uid ∉ History.uids saves → History.links uid saves = []

end Graph

namespace Store.Sound

variable {store : Store} {saves : List Save}

theorem names_eq (reflects : store.graph.Reflects saves) (descriptor : Descriptor)
    {node : String × Properties} (member : node ∈ store.graph.nodes) :
    Statement.names descriptor node =
      (History.lastNode? (Graph.uid node) saves).any descriptor.fits := by
  obtain ⟨record, entries, last, written, stored⟩ := reflects.nodes node member
  obtain ⟨id, properties⟩ := node
  subst stored
  rw [last, Statement.names_ofEntries descriptor id written, Option.any_some]

/-- A look-up finds the node that the history tells. -/
theorem target?_eq (sound : store.Sound) (reflects : store.graph.Reflects saves)
    (descriptor : Descriptor) :
    (store.graph.resolve? descriptor).bind store.graph.uidAt? =
      History.target? descriptor saves := by
  cases byUid : descriptor.byUid with
  | true =>
      simp only [Graph.resolve?_byUid byUid, History.target?, byUid, if_true]
      split
      · rename_i known
        rw [← reflects.uids] at known
        obtain ⟨node, member, isUid⟩ := List.mem_map.mp known
        have listed := sound.nodesWithUid_eq member
        rw [isUid] at listed
        simp only [listed, List.head?_cons, Option.map_some, Option.bind_some,
          sound.uidAt?_eq member, isUid]
      · rename_i unknown
        rw [← reflects.uids] at unknown
        rw [sound.nodesWithUid_nil.mpr unknown]
        rfl
  | false =>
      cases kind : descriptor.target.kind.isEmpty with
      | true => simp [Graph.resolve?, History.target?, byUid, kind]
      | false =>
          have lookup := Graph.resolve?_byName sound.hasTextUids byUid kind
          have candidates : ∀ uid, uid ∈ ((History.uids saves).filter fun uid =>
              (History.lastNode? uid saves).any descriptor.fits) ↔
              ∃ node ∈ store.graph.nodes, Statement.names descriptor node = true ∧
                Graph.uid node = uid := by
            intro uid
            rw [List.mem_filter, ← reflects.uids, List.mem_map]
            constructor
            · rintro ⟨⟨node, member, rfl⟩, fits⟩
              exact ⟨node, member, by rw [names_eq reflects descriptor member]; exact fits, rfl⟩
            · rintro ⟨node, member, fits, rfl⟩
              exact ⟨⟨node, member, rfl⟩, by rw [← names_eq reflects descriptor member]; exact fits⟩
          simp only [History.target?, byUid, kind, Bool.false_eq_true, if_false]
          cases found : store.graph.resolve? descriptor with
          | none =>
              have nobody := lookup.1.mp found
              rw [Option.bind_none, eq_comm, List.min?_eq_none_iff, List.eq_nil_iff_forall_not_mem]
              intro uid member
              obtain ⟨node, nodeMember, fits, _⟩ := (candidates uid).mp member
              rw [nobody node nodeMember] at fits
              contradiction
          | some id =>
              obtain ⟨node, member, rfl, fits, least⟩ := lookup.2 id found
              rw [Option.bind_some, sound.uidAt?_eq member, eq_comm, List.min?_eq_some_iff]
              refine ⟨(candidates _).mpr ⟨node, member, fits, rfl⟩, fun uid uidMember => ?_⟩
              obtain ⟨other, otherMember, otherFits, rfl⟩ := (candidates uid).mp uidMember
              have below := least other otherMember otherFits
              rw [sound.uidKey_eq member, sound.uidKey_eq otherMember] at below
              exact below

theorem linksOf_eq (sound : store.Sound) (reflects : store.graph.Reflects saves)
    (descriptors : List Descriptor) :
    store.graph.linksOf descriptors =
      (descriptors.filterMap fun descriptor =>
        (History.target? descriptor saves).map fun target => (descriptor, target)).map fun link =>
          (.ofEntries (Statement.relationshipProperties link.1), some link.2) := by
  have targets (descriptor : Descriptor) :
      (store.graph.resolve? descriptor).map store.graph.uidAt? =
        (History.target? descriptor saves).map some := by
    rw [← sound.target?_eq reflects descriptor]
    cases found : store.graph.resolve? descriptor with
    | none => rfl
    | some target =>
        have stored := Graph.hasNode_resolve? found
        obtain ⟨node, member, rfl⟩ := List.mem_map.mp (Graph.hasNode_iff.mp stored)
        simp only [Option.map_some, Option.bind_some, sound.uidAt?_eq member]
  rw [Graph.linksOf, Graph.resolved, List.map_filterMap, List.map_filterMap]
  congr 1
  funext descriptor
  have target := targets descriptor
  cases found : store.graph.resolve? descriptor <;>
    cases told : History.target? descriptor saves <;> simp_all

end Store.Sound

end ClusterGraph
