import ClusterGraph.Proofs.Resync.CompleteHistory
import ClusterGraph.Proofs.Resync.Idempotence

namespace ClusterGraph

/-! Syncing all objects twice. In the first pass the relationships depend on which objects came
before, but after the second one the graph shows the objects alone, and no order of theirs. -/

/-- What a graph shows of one uid: the properties and labels of its node, and the relationships that
start there, each with its properties and the uid of its target. -/
structure NodeView where
  properties : Properties
  labels : Label → Prop
  links : List (Properties × Option String)

def Graph.view (graph : Graph) (uid : String) : Option NodeView :=
  (graph.nodes.find? fun node => Graph.uid node == uid).map fun node =>
    { properties := node.2
      labels := graph.HasLabel node.1
      links := graph.linksFrom node.1 }

section Find

variable {α : Type} {key : α → String} {values : List α}

theorem find?_key (distinct : (values.map key).Nodup) {value : α} (member : value ∈ values) :
    values.find? (key · == key value) = some value := by
  have present : (values.find? (key · == key value)).isSome = true :=
    List.find?_isSome.mpr ⟨value, member, by simp⟩
  obtain ⟨found, isFound⟩ := Option.isSome_iff_exists.mp present
  have sameKey : key found = key value := by simpa using List.find?_some isFound
  rw [isFound, List.inj_on_of_nodup_map distinct (List.mem_of_find?_eq_some isFound) member sameKey]

theorem find?_key_absent {wanted : String} (absent : wanted ∉ values.map key) :
    values.find? (key · == wanted) = none :=
  List.find?_eq_none.mpr fun value member isWanted =>
    absent (List.mem_map.mpr ⟨value, member, beq_iff_eq.mp isWanted⟩)

end Find

namespace Synchronizer

/-- The uid that an object is stored under. -/
def uidOf (synchronizer : Synchronizer) (tree : Json) : String :=
  (synchronizer.projector.project tree).uid

def nodesOf (synchronizer : Synchronizer) (objects : List Json) : List Node :=
  objects.map synchronizer.projector.project

/-- The object has all of its texts, and its clock reading can be written. -/
def canStore (synchronizer : Synchronizer) (tree : Json) : Bool :=
  (synchronizer.projector.project tree).properties.toBool

/-- What a graph shows that holds all of some objects that can be stored: every descriptor that
refers to one of them has become a relationship. -/
def viewOf (synchronizer : Synchronizer) (objects : List Json) (uid : String) : Option NodeView :=
  let stored := objects.filter synchronizer.canStore
  (stored.find? fun tree => synchronizer.uidOf tree == uid).bind fun tree =>
    match (synchronizer.projector.project tree).properties with
    | .error _ => none
    | .ok properties => some
        { properties := .ofEntries properties
          labels := (· ∈ (synchronizer.projector.project tree).labels)
          links := (linksAmong (synchronizer.rules.derive tree) (synchronizer.nodesOf stored)).map
            fun link => (.ofEntries (Statement.relationshipProperties link.1), some link.2) }

/-- All objects in one order, and all of them once more in another. -/
def twoPasses (synchronizer : Synchronizer) (first second : List Json) : List Step :=
  (first ++ second).map (.sync synchronizer)

/-- The saves of some objects, newest first. -/
def savesOfAll (synchronizer : Synchronizer) (trees : List Json) : List Save :=
  (trees.flatMap (Step.savesOf synchronizer)).reverse

variable {synchronizer : Synchronizer} {objects trees first second : List Json} {tree : Json}
  {start : System}

theorem canStore_iff : synchronizer.canStore tree = true ↔
    ∃ properties, (synchronizer.projector.project tree).properties = .ok properties := by
  unfold canStore
  cases (synchronizer.projector.project tree).properties <;> simp [Except.toBool]

theorem viewOf_filter (synchronizer : Synchronizer) (objects : List Json) :
    synchronizer.viewOf (objects.filter synchronizer.canStore) = synchronizer.viewOf objects := by
  funext uid
  simp only [viewOf, List.filter_filter, Bool.and_self]

theorem map_uid_nodesOf (synchronizer : Synchronizer) (objects : List Json) :
    (synchronizer.nodesOf objects).map Node.uid = objects.map synchronizer.uidOf := by
  rw [nodesOf, List.map_map]
  rfl

theorem savesOf_known (known : synchronizer.uidOf tree ≠ "") :
    Step.savesOf synchronizer tree =
      [.upsert (synchronizer.projector.project tree),
        .replace (synchronizer.uidOf tree) (synchronizer.rules.derive tree)] :=
  if_neg (by simpa [uidOf] using known)

section History

variable (known : ∀ tree ∈ objects, synchronizer.uidOf tree ≠ "")

include known

theorem saved_savesOfAll (same : ∀ tree, tree ∈ trees ↔ tree ∈ objects) :
    History.Saved (synchronizer.savesOfAll trees) (synchronizer.nodesOf objects) := by
  intro node
  rw [savesOfAll, List.mem_reverse, List.mem_flatMap, nodesOf, List.mem_map]
  refine exists_congr fun tree => ?_
  rw [same]
  refine and_congr_right fun member => ?_
  simp [savesOf_known (known tree member), eq_comm]

variable (distinct : (objects.map synchronizer.uidOf).Nodup) (firstOrder : first.Perm objects)
  (secondOrder : second.Perm objects)

include distinct firstOrder secondOrder

/-- In the second pass all objects are stored when the relationships of one are saved. -/
theorem links_twoPasses (member : tree ∈ objects) :
    History.links (synchronizer.uidOf tree) (synchronizer.savesOfAll (first ++ second)) =
      linksAmong (synchronizer.rules.derive tree) (synchronizer.nodesOf objects) := by
  obtain ⟨before, behind, isSecond⟩ := List.append_of_mem (secondOrder.mem_iff.mpr member)
  have inObjects {other : Json} (otherMember : other ∈ before ∨ other ∈ behind) :
      other ∈ objects := by
    rw [← secondOrder.mem_iff, isSecond, List.mem_append, List.mem_cons]
    exact otherMember.imp_right .inr
  have earlier : ∀ other, other ∈ first ++ before ↔ other ∈ objects := by
    intro other
    rw [List.mem_append, firstOrder.mem_iff]
    exact or_iff_left_of_imp fun inBefore => inObjects (.inl inBefore)
  have isSaved := (saved_savesOfAll known earlier).upsert (List.mem_map_of_mem member)
  have others : ∀ descriptors, .replace (synchronizer.uidOf tree) descriptors ∉
      synchronizer.savesOfAll behind := by
    intro descriptors replaced
    rw [savesOfAll, List.mem_reverse, List.mem_flatMap] at replaced
    obtain ⟨other, otherMember, saved⟩ := replaced
    simp only [savesOf_known (known other (inObjects (.inr otherMember))), List.mem_cons,
      reduceCtorEq, Save.replace.injEq, List.not_mem_nil, or_false, false_or] at saved
    have apart := (secondOrder.map synchronizer.uidOf).nodup_iff.mpr distinct
    simp only [isSecond, List.map_append, List.map_cons] at apart
    have unequal := (List.nodup_cons.mp (List.nodup_append.mp apart).2.1).1
    exact unequal (List.mem_map.mpr ⟨other, otherMember, saved.1.symm⟩)
  have saves : synchronizer.savesOfAll (first ++ second) = synchronizer.savesOfAll behind ++
      .replace (synchronizer.uidOf tree) (synchronizer.rules.derive tree) ::
        .upsert (synchronizer.projector.project tree) ::
          synchronizer.savesOfAll (first ++ before) := by
    simp [savesOfAll, isSecond, savesOf_known (known tree member)]
  rw [saves]
  exact isSaved.links_eq (by rw [map_uid_nodesOf]; exact distinct) others _

end History

section Store

variable {store : Store} {saves : List Save} (reflects : store.graph.Reflects saves)
  (saved : History.Saved saves (synchronizer.nodesOf objects))
  (distinct : (objects.map synchronizer.uidOf).Nodup)

include reflects saved distinct

theorem record_eq {node : String × Properties} (nodeMember : node ∈ store.graph.nodes)
    (member : tree ∈ objects) (sameUid : synchronizer.uidOf tree = Graph.uid node) :
    ∃ properties, (synchronizer.projector.project tree).properties = .ok properties ∧
      node.2 = .ofEntries properties := by
  obtain ⟨record, properties, last, written, isRecord⟩ := reflects.nodes node nodeMember
  have told := saved.lastNode?_eq (by rw [map_uid_nodesOf]; exact distinct)
    (List.mem_map_of_mem member)
  change History.lastNode? (synchronizer.uidOf tree) saves = _ at told
  rw [sameUid, last] at told
  cases told
  exact ⟨properties, written, isRecord⟩

variable (sound : store.Sound)
  (links : ∀ tree ∈ objects, History.links (synchronizer.uidOf tree) saves =
    linksAmong (synchronizer.rules.derive tree) (synchronizer.nodesOf objects))

include sound links

/-- A graph that holds all objects, with all of their relationships, shows them. -/
theorem view_complete (follows : store.graph.LabelsFollow saves)
    (storable : ∀ tree ∈ objects, synchronizer.canStore tree = true) :
    store.graph.view = synchronizer.viewOf objects := by
  have all : objects.filter synchronizer.canStore = objects := List.filter_eq_self.mpr storable
  funext uid
  have stored : uid ∈ store.graph.nodes.map Graph.uid ↔ uid ∈ objects.map synchronizer.uidOf := by
    rw [reflects.uids, saved.mem_uids, map_uid_nodesOf]
  have apart : ((synchronizer.nodesOf objects).map Node.uid).Nodup := by
    rw [map_uid_nodesOf]
    exact distinct
  by_cases known : uid ∈ objects.map synchronizer.uidOf
  · obtain ⟨node, nodeMember, sameUid⟩ := List.mem_map.mp (stored.mpr known)
    obtain ⟨tree, member, rfl⟩ := List.mem_map.mp known
    have object := find?_key distinct member
    have found := find?_key sound.uids nodeMember
    rw [sameUid] at found
    obtain ⟨properties, written, isStored⟩ :=
      record_eq reflects saved distinct nodeMember member sameUid.symm
    have labels : store.graph.HasLabel node.1 =
        (· ∈ (synchronizer.projector.project tree).labels) := by
      funext label
      rw [follows node.1 (synchronizer.uidOf tree) label
        (List.mem_map.mpr ⟨node, nodeMember, by rw [sameUid]⟩)]
      exact propext (saved.exists_setsWithKey apart (List.mem_map_of_mem member) label)
    simp only [Graph.view, viewOf, all, object, found, Option.map_some, Option.bind_some, written,
      labels, isStored, reflects.links node nodeMember, sameUid, links tree member]
  · have noObject := find?_key_absent known
    have noNode := find?_key_absent fun present => known (stored.mp present)
    simp only [Graph.view, viewOf, all, noObject, noNode, Option.map_none, Option.bind_none]

theorem linksFrom_eq {node : String × Properties} (nodeMember : node ∈ store.graph.nodes)
    (member : tree ∈ objects) (sameUid : synchronizer.uidOf tree = Graph.uid node) :
    store.graph.linksFrom node.1 = store.graph.linksOf (synchronizer.rules.derive tree) := by
  have apart : ((synchronizer.nodesOf objects).map Node.uid).Nodup := by
    rw [map_uid_nodesOf]
    exact distinct
  rw [reflects.links node nodeMember, ← sameUid, links tree member, sound.linksOf_eq reflects]
  simp only [linksAmong, saved.target?_eq apart]

end Store

/-- A run leaves the database as it does without the objects that cannot be stored. -/
theorem run_filter (synchronizer : Synchronizer) (trees : List Json) {left right : System}
    (same : left.SameDatabase right) :
    (run (trees.map (.sync synchronizer)) left).SameDatabase
      (run ((trees.filter synchronizer.canStore).map (.sync synchronizer)) right) := by
  induction trees generalizing left right with
  | nil => exact same
  | cons tree rest ih =>
      cases storable : synchronizer.canStore tree with
      | true =>
          rw [List.filter_cons_of_pos storable]
          exact ih (Action.after_alike
            (synchronizer.respects_sync System.sameDatabase_frame tree _ _ same))
      | false =>
          rw [List.filter_cons_of_neg (by simp [storable])]
          unfold canStore at storable
          cases refused : (synchronizer.projector.project tree).properties with
          | ok properties => simp [refused, Except.toBool] at storable
          | error failure => exact ih ((Step.sync_unwritable refused left).trans same)

theorem twoPasses_filter (synchronizer : Synchronizer) (first second : List Json)
    (start : System) :
    (run (synchronizer.twoPasses first second) start).graph =
      (run (synchronizer.twoPasses (first.filter synchronizer.canStore)
        (second.filter synchronizer.canStore)) start).graph := by
  have same := synchronizer.run_filter (first ++ second)
    (rfl : System.SameDatabase start start)
  rw [List.filter_append] at same
  exact congrArg (fun database => database.store.graph) same

/-- Two passes over objects that can all be stored. -/
theorem run_twoPasses_storable (known : ∀ tree ∈ objects, synchronizer.uidOf tree ≠ "")
    (distinct : (objects.map synchronizer.uidOf).Nodup)
    (storable : ∀ tree ∈ objects, synchronizer.canStore tree = true) (isEmpty : start.graph = {})
    (calm : start.database.faults = []) (firstOrder : first.Perm objects)
    (secondOrder : second.Perm objects) :
    let graph := (run (synchronizer.twoPasses first second) start).graph
    graph.view = synchronizer.viewOf objects ∧
      (∀ node ∈ graph.nodes, Graph.uid node ∈ objects.map synchronizer.uidOf) ∧
      ∀ node ∈ graph.nodes, ∀ tree ∈ objects, synchronizer.uidOf tree = Graph.uid node →
        graph.linksFrom node.1 = graph.linksOf (synchronizer.rules.derive tree) := by
  have both : ∀ tree, tree ∈ first ++ second ↔ tree ∈ objects := by
    intro tree
    rw [List.mem_append, firstOrder.mem_iff, secondOrder.mem_iff, or_self]
  have unchanged : Evolves start.database.store [] start.database.store := .start
  obtain ⟨commits, evolved, saves⟩ := run_syncs isEmpty
    (fun tree member => by simpa [uidOf] using known tree ((both tree).mp member))
    (fun tree member => canStore_iff.mp (storable tree ((both tree).mp member))) unchanged
    (by simp [History.Projected]) calm
  rw [List.map_nil, List.append_nil] at saves
  have sound := evolved.sound (.empty isEmpty)
  have reflects := evolved.reflects isEmpty
  have follows := evolved.labelsFollow isEmpty
  rw [saves] at reflects follows
  have saved := saved_savesOfAll known both
  have links (tree : Json) (member : tree ∈ objects) :=
    links_twoPasses known distinct firstOrder secondOrder member
  refine ⟨view_complete reflects saved distinct sound links follows storable,
    fun node nodeMember => ?_, fun node nodeMember tree member sameUid =>
      linksFrom_eq reflects saved distinct sound links nodeMember member sameUid⟩
  have stored : Graph.uid node ∈
      (run (synchronizer.twoPasses first second) start).graph.nodes.map Graph.uid :=
    List.mem_map_of_mem nodeMember
  rw [← map_uid_nodesOf, ← saved.mem_uids]
  exact reflects.uids ▸ stored

/-- After two passes over some objects in any two orders the graph shows the objects, and each has
the relationships that its descriptors make in this graph. -/
theorem run_twoPasses (known : ∀ tree ∈ objects, synchronizer.uidOf tree ≠ "")
    (distinct : (objects.map synchronizer.uidOf).Nodup) (isEmpty : start.graph = {})
    (calm : start.database.faults = []) (firstOrder : first.Perm objects)
    (secondOrder : second.Perm objects) :
    (run (synchronizer.twoPasses first second) start).graph.view = synchronizer.viewOf objects ∧
      ∀ node ∈ (run (synchronizer.twoPasses first second) start).graph.nodes,
        ∀ tree ∈ objects, synchronizer.uidOf tree = Graph.uid node →
          (run (synchronizer.twoPasses first second) start).graph.linksFrom node.1 =
            (run (synchronizer.twoPasses first second) start).graph.linksOf
              (synchronizer.rules.derive tree) := by
  have inObjects {tree : Json} (stored : tree ∈ objects.filter synchronizer.canStore) :
      tree ∈ objects := List.mem_of_mem_filter stored
  obtain ⟨view, uids, links⟩ := run_twoPasses_storable
    (fun tree stored => known tree (inObjects stored))
    (distinct.sublist (List.filter_sublist.map _)) (fun tree stored => (List.mem_filter.mp stored).2)
    isEmpty calm (firstOrder.filter synchronizer.canStore)
    (secondOrder.filter synchronizer.canStore)
  rw [twoPasses_filter, ← viewOf_filter]
  refine ⟨view, fun node nodeMember tree member sameUid => ?_⟩
  obtain ⟨other, stored, otherUid⟩ := List.mem_map.mp (uids node nodeMember)
  obtain rfl : other = tree :=
    List.inj_on_of_nodup_map distinct (inObjects stored) member (otherUid.trans sameUid.symm)
  exact links node nodeMember other stored sameUid

/-- In the first pass the owner may be missing when the pod is saved. -/
theorem run_twoPasses_owner :
    let objects := [podOwnedBy "" "owner", podOwnedBy "owner" "pod"]
    let start : System := { journal := { threshold := 50 } }
    (run (ofOwners.twoPasses objects.reverse objects) start).graph.view =
        (run (ofOwners.twoPasses objects objects.reverse) start).graph.view ∧
      ((run (ofOwners.twoPasses objects.reverse objects) start).graph.view "pod").map
        NodeView.links =
          some [(.ofEntries [("targetResource", .str ""), ("relationshipType", .str "owned-by"),
            ("targetUID", .str "owner")], some "owner")] := by
  intro objects start
  have known : ∀ tree ∈ objects, ofOwners.uidOf tree ≠ "" := by
    intro tree member
    simp only [objects, List.mem_cons, List.not_mem_nil, or_false] at member
    rcases member with rfl | rfl <;> decide
  have distinct : (objects.map ofOwners.uidOf).Nodup := by decide
  have isEmpty : start.graph = {} := rfl
  have calm : start.database.faults = [] := rfl
  have reversed := run_twoPasses known distinct isEmpty calm objects.reverse_perm (.refl objects)
  have straight := run_twoPasses known distinct isEmpty calm (.refl objects) objects.reverse_perm
  refine ⟨reversed.1.trans straight.1.symm, ?_⟩
  rw [reversed.1]
  rfl

end Synchronizer

end ClusterGraph
