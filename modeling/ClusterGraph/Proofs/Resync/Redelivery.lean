import ClusterGraph.Proofs.Json.KeyOrder
import ClusterGraph.Proofs.Resync.Idempotence
import ClusterGraph.Proofs.Resync.Progress
import ClusterGraph.Proofs.Sync.FirstSync

namespace ClusterGraph

/-! Delivering an object once more with its keys in another order. Its node has the same labels and
the same properties, so that no label is touched and the properties that are stored are written
again. -/

/-- A second delivery of an object, after the first made this node of it and left it under a graph
id: what the second does to the system that the first one left. -/
inductive Redelivered (node : Node) (graphId : String) (before after : System) : Prop where
  | skipped (unknown : node.uid.isEmpty = true) (database : after.database = before.database)
      (calls : after.calls = before.calls)
  | saved {properties : Entries Json} {calls : List Call}
      (written : node.properties = .ok properties)
      (nodes : after.graph.nodes = before.graph.nodes)
      (labels : after.graph.labels = before.graph.labels)
      (made : after.calls = before.calls ++ ([.session before.database.name, .begin,
        (Statement.findByUid node.uid).call, (Statement.mergeNode graphId properties).call,
        .commit] ++ calls))
      (ofRelationships : ∀ name parameters, .run name parameters ∈ calls → OfRelationships name)

section Projection

variable {tree other : Json}

theorem Node.properties_congr {node : Node} {attributes : Attributes}
    (sameText : ∀ refuse, attributesText refuse attributes =
      attributesText refuse node.attributes) :
    { node with attributes }.properties = node.properties := by
  simp only [properties, sameText]
  rfl

theorem Projector.properties_reordered (reordered : tree.Reordered other) (projector : Projector) :
    (projector.project other).properties = (projector.project tree).properties := by
  rw [project_reordered reordered]
  refine Node.properties_congr fun refuse => ?_
  rcases attributes_reordered reordered (Json.Reordered.getD_null (reordered.get? "metadata")) with
    ⟨fault, textless, otherTextless⟩ | ⟨fields, others, own, otherOwn, same⟩
  · exact congrArg (Node.attributesText refuse) (otherTextless.trans textless.symm)
  · simp only [project, own, otherOwn, Node.attributesText, same.textFault?_eq, same.text_eq]

end Projection

namespace Action

theorem after_saveNode_congr {node : Node} {attributes : Attributes}
    (sameProperties : { node with attributes }.properties = node.properties) (system : System) :
    after (saveNode { node with attributes }) system = after (saveNode node) system := by
  unfold saveNode
  rw [sameProperties]
  cases node.properties with
  | error failure => rfl
  | ok properties =>
      change after (transaction (Script.saveNode node properties) >>= _) system =
        after (transaction (Script.saveNode node properties) >>= _) system
      simp only [after, bind, EStateM.bind]
      cases transaction (Script.saveNode node properties) system <;> rfl

theorem saveRelationships_spares {system : System} (calm : system.database.faults = [])
    (source : String) (descriptors : List Descriptor) :
    (after (saveRelationships source descriptors) system).graph.nodes = system.graph.nodes ∧
      (after (saveRelationships source descriptors) system).graph.labels =
        system.graph.labels := by
  have raising : Raising system.database.faults := by simp [calm, Raising]
  have ends := saveRelationships_ends raising source descriptors
  simp only [after]
  generalize saveRelationships source descriptors system = result at ends ⊢
  cases ends with
  | committed evaluated =>
      obtain ⟨id, _, _, _, _, replaced⟩ := Script.evaluate_saveRelationships_ok evaluated
      simp only [System.graph, replaced]
      exact ⟨rfl, rfl⟩
  | failed _ restored => exact ⟨congrArg Graph.nodes restored, congrArg Graph.labels restored⟩
  | disturbed _ restored => exact ⟨congrArg Graph.nodes restored, congrArg Graph.labels restored⟩

end Action

namespace Synchronizer

variable {synchronizer : Synchronizer} {tree other : Json} {system middle : System}
  {first : SyncResult}

theorem redelivered_skipped (reordered : tree.Reordered other)
    (unknown : (synchronizer.projector.project tree).uid.isEmpty = true)
    (graphId : String) (middle : System) :
    Redelivered (synchronizer.projector.project tree) graphId middle
      (Action.after (synchronizer.sync other) middle) := by
  have otherUnknown : (synchronizer.projector.project other).uid.isEmpty = true := by
    rw [Projector.project_reordered reordered]
    exact unknown
  cases told : (synchronizer.projector.project other).textFault? with
  | some fault =>
      rw [sync_textless told]
      exact .skipped unknown rfl rfl
  | none =>
      obtain ⟨last, ran, database, calls⟩ := sync_withoutUid told otherUnknown middle
      rw [Action.after_ok ran]
      exact .skipped unknown database calls

/-- Another order of keys may give other descriptors, whose save may fail. It spares nodes and labels
either way. -/
theorem redelivered_known (wellFormed : system.database.store.WellFormed)
    (calm : system.database.faults = []) (reordered : tree.Reordered other)
    (known : (synchronizer.projector.project tree).uid.isEmpty = false)
    (ran : synchronizer.sync tree system = .ok first middle) :
    Redelivered (synchronizer.projector.project tree) first.graphId middle
      (Action.after (synchronizer.sync other) middle) := by
  obtain ⟨properties, change, saved, edges, saves, rfl, quiet⟩ := sync_committed known calm ran
  have isOther := Projector.project_reordered reordered synchronizer.projector
  have otherKnown : (synchronizer.projector.project other).uid.isEmpty = false := by
    rw [isOther]
    exact known
  have written : (synchronizer.projector.project other).properties = .ok properties :=
    (Projector.properties_reordered reordered _).trans saves.written
  have upToDate : middle.database.store.graph.UpToDate change.graphId
      (synchronizer.projector.project other) properties := by
    have left := saves.upToDate wellFormed
    rw [isOther]
    exact ⟨left.stored, left.texts, left.carried, left.wanted⟩
  obtain ⟨evaluated, statements⟩ := Script.saveNode_again upToDate written
    (Node.hasTextFields_project _ other)
  have nodeRan := Action.saveNode_calm quiet written
  rw [evaluated] at nodeRan
  obtain ⟨between, nodeRan, isMiddle⟩ := nodeRan
  obtain ⟨_, _, _, _, _, stillQuiet⟩ := Action.saveNode_committed quiet nodeRan
  have spared := Action.saveRelationships_spares stillQuiet
    (synchronizer.projector.project other).uid (synchronizer.rules.derive other)
  have ends := congrArg (fun database => database.store.graph)
    (after_sync_nodeSaved otherKnown nodeRan).1
  have unmoved : between.graph = middle.graph := congrArg Store.graph isMiddle
  obtain ⟨calls, made, ofRelationships⟩ := sync_calls otherKnown quiet written evaluated
  refine .saved saves.written ?_ ?_ ?_ ofRelationships
  · exact (congrArg Graph.nodes ends).trans (spared.1.trans (congrArg Graph.nodes unmoved))
  · exact (congrArg Graph.labels ends).trans (spared.2.trans (congrArg Graph.labels unmoved))
  · rw [made, Script.calls, statements, isOther]
    rfl

/-- What objects become does not depend on the order of their keys: the projections have the same
labels and properties, and their nodes are saved alike whatever the graph is. So an object that is
delivered again in another order of keys touches no label, and writes the properties that it wrote
before. -/
theorem sync_reordered (reordered : tree.Reordered other) :
    (∀ projector : Projector,
      (projector.project other).labels = (projector.project tree).labels ∧
      (projector.project other).properties = (projector.project tree).properties ∧
      ∀ system, Action.after (Action.saveNode (projector.project other)) system =
        Action.after (Action.saveNode (projector.project tree)) system) ∧
    ∀ (synchronizer : Synchronizer) (system middle : System) (first : SyncResult),
      system.database.store.WellFormed → system.database.faults = [] →
      synchronizer.sync tree system = .ok first middle →
      Redelivered (synchronizer.projector.project tree) first.graphId middle
        (Action.after (synchronizer.sync other) middle) := by
  constructor
  · intro projector
    have isOther := Projector.project_reordered reordered projector
    have properties := Projector.properties_reordered reordered projector
    refine ⟨by rw [isOther], properties, fun system => ?_⟩
    rw [isOther] at properties ⊢
    exact Action.after_saveNode_congr properties system
  · intro synchronizer system middle first wellFormed calm ran
    cases known : (synchronizer.projector.project tree).uid.isEmpty with
    | true => exact redelivered_skipped reordered known first.graphId middle
    | false => exact redelivered_known wellFormed calm reordered known ran

/-- A pod, with the keys of each of its objects in some order. -/
def podInOrder (order : List (String × Json) → List (String × Json)) : Json :=
  .obj (order [("apiVersion", .str "v1"), ("kind", .str "Pod"),
    ("metadata", .obj (order [("uid", .str "pod"), ("name", .str "web"),
      ("labels", .obj (order [("app", .str "web"), ("tier", .str "front")]))])),
    ("spec", .obj (order [("nodeName", .str "machine"), ("containers", .arr [.obj (order
      [("image", .str "web"), ("port", .int 80)])])]))])

theorem reordered_podInOrder {order : List (String × Json) → List (String × Json)}
    (perm : ∀ entries : List (String × Json), entries.Perm (order entries)) :
    (podInOrder id).Reordered (podInOrder order) := by
  refine .of_perm (by decide) (perm _) (.cons ⟨rfl, .leaf rfl⟩ (.cons ⟨rfl, .leaf rfl⟩
    (.cons ⟨rfl, ?metadata⟩ (.cons ⟨rfl, ?spec⟩ .nil))))
  case metadata =>
    refine .of_perm (by decide) (perm _) (.cons ⟨rfl, .leaf rfl⟩ (.cons ⟨rfl, .leaf rfl⟩
      (.cons ⟨rfl, ?_⟩ .nil)))
    exact .of_perm (by decide) (perm _) (.cons ⟨rfl, .leaf rfl⟩ (.cons ⟨rfl, .leaf rfl⟩ .nil))
  case spec =>
    refine .of_perm (by decide) (perm _) (.cons ⟨rfl, .leaf rfl⟩ (.cons ⟨rfl, ?_⟩ .nil))
    refine .arr rfl fun offset item _ found otherFound => ?_
    cases offset with
    | zero =>
        cases found
        cases otherFound
        exact .of_perm (by decide) (perm _) (.cons ⟨rfl, .leaf rfl⟩ (.cons ⟨rfl, .leaf rfl⟩ .nil))
    | succ offset => simp at found

/-- A pod is delivered to an empty graph, and then with its keys from last to first. -/
theorem sync_reordered_pod :
    (podInOrder id).Reordered (podInOrder List.reverse) ∧
      ∃ system first middle, system.database.store.WellFormed ∧ system.database.faults = [] ∧
        ofOwners.sync (podInOrder id) system = .ok first middle ∧
        Redelivered (ofOwners.projector.project (podInOrder id)) first.graphId middle
          (Action.after (ofOwners.sync (podInOrder List.reverse)) middle) := by
  have reordered : (podInOrder id).Reordered (podInOrder List.reverse) :=
    reordered_podInOrder fun entries => entries.reverse_perm.symm
  let system : System := { journal := { threshold := 50 } }
  have wellFormed : system.database.store.WellFormed := (Store.Sound.empty rfl).wellFormed
  obtain ⟨properties, written⟩ : ∃ properties,
      (ofOwners.projector.project (podInOrder id)).properties = .ok properties := ⟨_, rfl⟩
  have derived : ofOwners.rules.derive (podInOrder id) = [] := by decide +kernel
  have known : (ofOwners.projector.project (podInOrder id)).uid.isEmpty = false := rfl
  have calm : system.database.faults = [] := rfl
  obtain ⟨last, number, ran, _⟩ := sync_first known calm written rfl fun descriptor member => by
    rw [derived] at member
    cases member
  exact ⟨reordered, system, _, last, wellFormed, calm, ran,
    (sync_reordered reordered).2 ofOwners system last _ wellFormed calm ran⟩

end Synchronizer

end ClusterGraph
