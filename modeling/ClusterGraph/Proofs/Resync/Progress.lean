import ClusterGraph.Proofs.History.LastSaves
import ClusterGraph.Proofs.History.LabelHistory
import ClusterGraph.Proofs.Resync.CalmSync
import ClusterGraph.Proofs.Resync.NodeSaveAgain

namespace ClusterGraph

/-! Syncs of objects into a graph that was made by syncs of objects. Without faults every sync
commits both of its saves, unless its object lacks a text or its clock reading cannot be written:
then it changes nothing. -/

/-- Whatever is saved was projected from an object, so that it can be read back. -/
def History.Projected (saves : List Save) : Prop :=
  ∀ node, .upsert node ∈ saves → node.HasTextFields

namespace History

variable {saves : List Save} {uid : String} {node : Node}

theorem mem_of_lastNode? (last : lastNode? uid saves = some node) :
    .upsert node ∈ saves ∧ node.uid = uid := by
  induction saves with
  | nil => simp [lastNode?] at last
  | cons save earlier ih =>
      cases save with
      | upsert saved =>
          simp only [lastNode?] at last
          split at last
          · rename_i isUid
            cases last
            exact ⟨List.mem_cons_self, isUid⟩
          · exact ⟨List.mem_cons_of_mem _ (ih last).1, (ih last).2⟩
      | replace source descriptors => exact ⟨List.mem_cons_of_mem _ (ih last).1, (ih last).2⟩

end History

namespace Store.Sound

variable {store : Store}

theorem names (sound : store.Sound) : ∀ node ∈ store.graph.nodes, node.2.HasTextNames := by
  intro node member
  obtain ⟨record, entries, _, isRecord⟩ := sound.records node member
  rw [isRecord]
  exact Properties.hasTextNames_ofEntries entries

theorem wellFormed (sound : store.Sound) : store.WellFormed where
  nodeIds := sound.nodeIds.apart
  freshNodes := fun _ le => sound.nodeIds.fresh nodeId_injective le
  freshOwners := by
    intro number le entry member same
    have stored := Graph.hasNode_iff.mp (sound.owners entry member)
    rw [same] at stored
    exact sound.nodeIds.fresh nodeId_injective le stored
  freshRelationships := fun _ le => sound.relationshipIds.fresh relationshipId_injective le
  names := sound.names
  labels := sound.texts

end Store.Sound

theorem Graph.Reflects.readable {graph : Graph} {saves : List Save}
    (reflects : graph.Reflects saves) (projected : History.Projected saves) :
    ∀ node ∈ graph.nodes, node.2.Readable := by
  intro node member
  obtain ⟨record, entries, last, written, isRecord⟩ := reflects.nodes node member
  have saved := (History.mem_of_lastNode? last).1
  rw [isRecord]
  exact (Properties.hold_ofEntries (Node.keys_nodup written)).readable written
    (projected record saved)

namespace Script

variable {store : Store}

/-- A node can be saved where the node with its uid can be read. -/
theorem evaluate_saveNode_readable (sound : store.Sound)
    (readable : ∀ node ∈ store.graph.nodes, node.2.Readable) (node : Node)
    (properties : Entries Json) :
    ∃ change after, (saveNode node properties).evaluate store = .ok change after := by
  by_cases stored : node.uid ∈ store.graph.nodes.map Graph.uid
  · obtain ⟨entry, member, isUid⟩ := List.mem_map.mp stored
    have present := sound.nodesWithUid_eq member
    rw [isUid] at present
    obtain ⟨found, searched, isId, _⟩ := evaluate_findNode?_readable sound.texts present
      (sound.names entry member) (readable entry member)
    have inGraph : store.graph.hasNode found.graphId = true := by
      rw [isId, Graph.hasNode_iff]
      exact List.mem_map_of_mem member
    exact ⟨_, _, by
      simp only [saveNode, evaluate_bind, searched, evaluate_updateNode node properties inGraph]
      rfl⟩
  · exact ⟨_, _, evaluate_saveNode_absent (sound.nodesWithUid_nil.mpr stored)⟩

end Script

namespace Synchronizer

variable {synchronizer : Synchronizer} {tree : Json} {store : Store}

theorem exists_saves (sound : store.Sound)
    (readable : ∀ node ∈ store.graph.nodes, node.2.Readable) {properties : Entries Json}
    (written : (synchronizer.projector.project tree).properties = .ok properties) :
    ∃ change middle edges after,
      synchronizer.Saves tree store middle after properties change edges := by
  obtain ⟨change, middle, saved⟩ := Script.evaluate_saveNode_readable sound readable
    (synchronizer.projector.project tree) properties
  have effect : (Save.upsert (synchronizer.projector.project tree)).effect? store =
      some middle := by
    simp only [Save.effect?, written, saved]
  have middleSound := (Save.committed sound effect).sound sound
  obtain ⟨old, present, _⟩ := (Script.saveNode_upToDate sound.wellFormed written saved).stored
  exact ⟨change, middle, _, _, written, saved, Script.evaluate_saveRelationships present
    fun descriptor _ => Graph.answers_of_texts middleSound.hasTextUids fun _ =>
      middleSound.unambiguous descriptor.targetUid⟩

end Synchronizer

namespace Step

variable {synchronizer : Synchronizer} {tree : Json} {system : System}

/-- Where the object lacks a text, or the clock reading cannot be written, a sync leaves the database
alone. -/
theorem sync_unwritable {failure : Failure}
    (refused : (synchronizer.projector.project tree).properties = .error failure)
    (system : System) : (run (.sync synchronizer tree) system).database = system.database := by
  change (Action.after (synchronizer.sync tree) system).database = _
  cases known : (synchronizer.projector.project tree).uid.isEmpty with
  | true => exact (Synchronizer.sync_skipped known system).database
  | false =>
      have nodeRan : Action.saveNode (synchronizer.projector.project tree) system =
          .error failure system := by
        rw [Action.saveNode, refused]
        rfl
      have reported := Synchronizer.sync_reported known system
      rw [Synchronizer.save_nodeError nodeRan] at reported
      unfold Action.after
      generalize synchronizer.sync tree system = result at reported ⊢
      cases reported with
      | error reports => exact reports.database

variable {start : Store} {commits : List Commit}

theorem projected_savesOf {saves : List Save} (projected : History.Projected saves)
    (synchronizer : Synchronizer) (tree : Json) :
    History.Projected ((savesOf synchronizer tree).reverse ++ saves) := by
  intro node member
  rcases List.mem_append.mp member with own | earlier
  · rw [List.mem_reverse, savesOf] at own
    split at own
    · simp at own
    · simp only [List.mem_cons, List.not_mem_nil, or_false, reduceCtorEq] at own
      cases own
      exact Node.hasTextFields_project synchronizer.projector tree
  · exact projected node earlier

/-- A sync that can be written commits its saves. -/
theorem sync_evolves (isEmpty : start.graph = {})
    (evolved : Evolves start commits system.database.store)
    (projected : History.Projected (commits.map Commit.save)) (calm : system.database.faults = [])
    (known : (synchronizer.projector.project tree).uid.isEmpty = false)
    {properties : Entries Json}
    (written : (synchronizer.projector.project tree).properties = .ok properties) :
    ∃ later, Evolves start later (run (.sync synchronizer tree) system).database.store ∧
      later.map Commit.save =
        (savesOf synchronizer tree).reverse ++ commits.map Commit.save ∧
      (run (.sync synchronizer tree) system).database.faults = [] := by
  have sound := evolved.sound (.empty isEmpty)
  obtain ⟨change, middle, edges, after, saves⟩ := Synchronizer.exists_saves sound
    ((evolved.reflects isEmpty).readable projected) written
  obtain ⟨last, ran, rfl, quiet⟩ := Synchronizer.sync_of_saves known calm saves
  have isLast : run (.sync synchronizer tree) system = last := Action.after_ok ran
  have nodeSaved : (Save.upsert (synchronizer.projector.project tree)).effect?
      system.database.store = some middle := by
    simp only [Save.effect?, saves.written, saves.node]
  have relationshipsSaved : (Save.replace (synchronizer.projector.project tree).uid
      (synchronizer.rules.derive tree)).effect? middle = some last.database.store := by
    simp only [Save.effect?, saves.relationships]
  rw [isLast]
  refine ⟨_, .commit (.commit evolved nodeSaved) relationshipsSaved, ?_, quiet⟩
  simp [savesOf, known]

end Step

/-- All syncs of a run that can be written commit their saves. -/
theorem run_syncs {synchronizer : Synchronizer} {start : Store} (isEmpty : start.graph = {})
    {trees : List Json}
    (known : ∀ tree ∈ trees, (synchronizer.projector.project tree).uid.isEmpty = false)
    (written : ∀ tree ∈ trees, ∃ properties,
      (synchronizer.projector.project tree).properties = .ok properties)
    {commits : List Commit} {system : System}
    (evolved : Evolves start commits system.database.store)
    (projected : History.Projected (commits.map Commit.save))
    (calm : system.database.faults = []) :
    ∃ later, Evolves start later (run (trees.map (.sync synchronizer)) system).database.store ∧
      later.map Commit.save =
        (trees.flatMap (Step.savesOf synchronizer)).reverse ++ commits.map Commit.save := by
  induction trees generalizing commits system with
  | nil => exact ⟨commits, evolved, rfl⟩
  | cons tree rest ih =>
      obtain ⟨properties, treeWritten⟩ := written tree (by simp)
      obtain ⟨later, laterEvolved, laterSaves, quiet⟩ := Step.sync_evolves isEmpty evolved projected
        calm (known tree (by simp)) treeWritten
      obtain ⟨last, lastEvolved, lastSaves⟩ := ih
        (fun other member => known other (by simp [member]))
        (fun other member => written other (by simp [member])) laterEvolved
        (by rw [laterSaves]; exact Step.projected_savesOf projected synchronizer tree) quiet
      refine ⟨last, lastEvolved, ?_⟩
      rw [lastSaves, laterSaves, List.flatMap_cons, List.reverse_append, List.append_assoc]

end ClusterGraph
