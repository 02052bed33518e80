import ClusterGraph.Proofs.Sync.NodeSaveEffect
import ClusterGraph.Proofs.Sync.SaveEndings
import ClusterGraph.Sync.Object

namespace ClusterGraph

/-! How the sync of an object ends. Where all faults raise there are three ways: nothing is done,
or the node alone is saved, or node and relationships are saved. What is done is what the same
saves do without faults. -/

/-- The series of objects that were handled. -/
def Series.IsSynced (series : Series) : Prop :=
  ∃ kind outcome, series = .synced kind outcome

variable {α : Type}

/-- A system before and after the end of a sync was counted and logged. -/
structure System.Reports (before after : System) : Prop where
  database : after.database = before.database
  values : ∀ series : Series, ¬ series.IsSynced →
    after.counters.value series = before.counters.value series

namespace System.Reports

variable {before after : System} (reports : before.Reports after)

include reports

theorem graph : after.graph = before.graph :=
  congrArg (fun database => database.store.graph) reports.database

theorem upserted (operation : String) : after.counters.value (.upserted operation) =
    before.counters.value (.upserted operation) :=
  reports.values _ (by simp [Series.IsSynced])

theorem labelMutations (operation : String) : after.counters.value (.labelMutations operation) =
    before.counters.value (.labelMutations operation) :=
  reports.values _ (by simp [Series.IsSynced])

theorem written (relationship : String) : after.counters.value (.written relationship) =
    before.counters.value (.written relationship) :=
  reports.values _ (by simp [Series.IsSynced])

end System.Reports

/-- An end and the same end after its report. -/
inductive Reported : EStateM.Result Failure System α → EStateM.Result Failure System α → Prop where
  | ok {value : α} {before after : System} (reports : before.Reports after) :
      Reported (.ok value before) (.ok value after)
  | error {failure : Failure} {before after : System} (reports : before.Reports after) :
      Reported (.error failure before) (.error failure after)

theorem System.value_count_synced (system : System) (kind outcome : String) (amount : Nat)
    {series : Series} (other : ¬ series.IsSynced) :
    (system.count (.synced kind outcome) amount).counters.value series =
      system.counters.value series := by
  have differ : series ≠ .synced kind outcome := fun same => other ⟨kind, outcome, same⟩
  simp [System.count, Counters.value_add, differ]

namespace Synchronizer

variable {synchronizer : Synchronizer} {tree : Json}

/-- An object without a node is refused. -/
theorem sync_textless {fault : Json.TextFault}
    (textless : (synchronizer.projector.project tree).textFault? = some fault) :
    synchronizer.sync tree = throw (.shape (.unwritten fault)) := by
  simp only [sync, textless]

theorem textFault?_of_sync {system last : System} {result : SyncResult}
    (ran : synchronizer.sync tree system = .ok result last) :
    (synchronizer.projector.project tree).textFault? = none := by
  cases told : (synchronizer.projector.project tree).textFault? with
  | some fault =>
      rw [sync_textless told] at ran
      cases ran
  | none => rfl

theorem sync_unknown (told : (synchronizer.projector.project tree).textFault? = none)
    (unknown : (synchronizer.projector.project tree).uid.isEmpty = true) :
    synchronizer.sync tree = (do
      reportSkipped (synchronizer.projector.project tree)
      pure { node := synchronizer.projector.project tree, graphId := "" }) := by
  simp only [sync, told]
  exact if_pos unknown

theorem sync_skipped (skipped : (synchronizer.projector.project tree).uid.isEmpty = true)
    (system : System) : system.Reports (Action.after (synchronizer.sync tree) system) := by
  cases told : (synchronizer.projector.project tree).textFault? with
  | some fault =>
      rw [sync_textless told]
      exact ⟨rfl, fun series _ => rfl⟩
  | none =>
      rw [sync_unknown told skipped]
      exact ⟨rfl, fun series other => system.value_count_synced _ "skipped" 1 other⟩

/-- An object without a node is refused as its save is. -/
theorem sync_known (known : (synchronizer.projector.project tree).uid.isEmpty = false) :
    synchronizer.sync tree = fun system =>
      match synchronizer.save (synchronizer.projector.project tree) tree system with
      | .ok result system => (do reportDone result; pure result : Action SyncResult) system
      | .error (.graph failure) system =>
          (do
            reportFailed (synchronizer.projector.project tree) failure
            throw (.graph failure) : Action SyncResult) system
      | .error failure system => .error failure system := by
  cases told : (synchronizer.projector.project tree).textFault? with
  | some fault =>
      have refused (system : System) :
          synchronizer.save (synchronizer.projector.project tree) tree system =
            .error (.shape (.unwritten fault)) system := by
        have nodeRefused : Action.saveNode (synchronizer.projector.project tree) system =
            .error (.shape (.unwritten fault)) system := by
          unfold Action.saveNode
          rw [Node.properties_textless told]
          rfl
        simp only [save, bind, EStateM.bind, nodeRefused]
      rw [sync_textless told]
      funext system
      rw [refused]
      rfl
  | none =>
      simp only [sync, told]
      exact if_neg (by simp [known])

/-- A sync saves the object and reports how that ended. -/
theorem sync_reported (known : (synchronizer.projector.project tree).uid.isEmpty = false)
    (system : System) :
    Reported (synchronizer.save (synchronizer.projector.project tree) tree system)
      (synchronizer.sync tree system) := by
  rw [sync_known known]
  simp only
  cases synchronizer.save (synchronizer.projector.project tree) tree system with
  | ok result saved =>
      refine .ok ⟨rfl, fun series other => ?_⟩
      let timed : System :=
        { saved with
          counters := { saved.counters with timedSyncs := saved.counters.timedSyncs + 1 } }
      exact timed.value_count_synced result.node.kind "ok" 1 other
  | error failure saved =>
      cases failure with
      | graph failure =>
          refine .error ⟨rfl, fun series other => ?_⟩
          exact saved.value_count_synced (synchronizer.projector.project tree).kind "error" 1 other
      | settings | positionTooLong | foreign | shape | dateOutOfRange | expired | stream
      | startup =>
          exact .error ⟨rfl, fun series _ => rfl⟩

end Synchronizer

/-- The system with a database that shows no faults. -/
def System.calm (system : System) : System :=
  { system with database := { system.database with faults := [] } }

/-- Without faults none comes to light. -/
theorem Surfaces.not_nil {failure : Failure} : ¬ Surfaces [] failure := by
  rintro (⟨planned, _, _⟩ | ⟨planned, _⟩ | ⟨planned, _⟩) <;> simp at planned

/-- What the database says comes to light as the failure of a transaction. -/
theorem Surfaces.name_eq {faults : List Fault} {failure : GraphFailure}
    (surfaces : Surfaces faults (.graph failure)) : failure.name = "TransactionError" := by
  cases surfaces
  rfl

namespace Action

variable {system : System}

/-- Without faults the save of a node ends as its script does. -/
theorem saveNode_calm (calm : system.database.faults = []) {node : Node}
    {properties : Entries Json} (written : node.properties = .ok properties) :
    match (Script.saveNode node properties).evaluate system.database.store with
    | .ok change store => ∃ last,
        saveNode node system = .ok { node with graphId := change.graphId } last ∧
          last.database.store = store
    | .error failure _ => ∃ last, saveNode node system = .error failure last := by
  have raising : Raising system.database.faults := by simp [calm, Raising]
  have ends := saveNode_ends raising node
  generalize saveNode node system = result at ends ⊢
  cases ends with
  | committed ownWritten evaluated _ =>
      obtain rfl := Except.ok.inj (written.symm.trans ownWritten)
      rw [evaluated]
      exact ⟨_, rfl, rfl⟩
  | unwritable refused => cases written.symm.trans refused
  | failed ownWritten evaluated =>
      obtain rfl := Except.ok.inj (written.symm.trans ownWritten)
      rw [evaluated]
      exact ⟨_, rfl⟩
  | disturbed surfaces =>
      rw [calm] at surfaces
      exact absurd surfaces Surfaces.not_nil

/-- Without faults the save of relationships ends as its script does. -/
theorem saveRelationships_calm (calm : system.database.faults = []) (source : String)
    (descriptors : List Descriptor) :
    match (Script.saveRelationships source descriptors).evaluate system.database.store with
    | .ok edges store => ∃ last,
        saveRelationships source descriptors system = .ok edges last ∧ last.database.store = store
    | .error failure _ => ∃ last,
        saveRelationships source descriptors system = .error failure last := by
  have raising : Raising system.database.faults := by simp [calm, Raising]
  have ends := saveRelationships_ends raising source descriptors
  generalize saveRelationships source descriptors system = result at ends ⊢
  cases ends with
  | committed evaluated _ =>
      rw [evaluated]
      exact ⟨_, rfl, rfl⟩
  | failed evaluated =>
      rw [evaluated]
      exact ⟨_, rfl⟩
  | disturbed surfaces =>
      rw [calm] at surfaces
      exact absurd surfaces Surfaces.not_nil

variable {node stored : Node} {failure : Failure} {after calm : System} {source : String}
  {descriptors : List Descriptor} {edges : List Edge}

/-- The save of a node that fails leaves graph and counters alone. -/
theorem saveNode_failed (raising : Raising system.database.faults)
    (ran : saveNode node system = .error failure after) :
    after.graph = system.graph ∧
      (∀ series, after.counters.value series = system.counters.value series) ∧
      (Surfaces system.database.faults failure ∨
        ∃ last, saveNode node system.calm = .error failure last) := by
  have ends := saveNode_ends raising node
  rw [ran] at ends
  cases ends with
  | unwritable refused =>
      refine ⟨rfl, fun _ => rfl, .inr ⟨system.calm, ?_⟩⟩
      unfold saveNode
      rw [refused]
      rfl
  | failed written evaluated restored uncounted =>
      have quiet : system.calm.database.faults = [] := rfl
      have same := saveNode_calm quiet written
      have evaluatedCalm : (Script.saveNode node _).evaluate system.calm.database.store =
        .error failure _ := evaluated
      rw [evaluatedCalm] at same
      exact ⟨restored, uncounted, .inr same⟩
  | disturbed surfaces restored uncounted => exact ⟨restored, uncounted, .inl surfaces⟩

/-- The save of a node that ends well does what it does without faults. -/
theorem saveNode_succeeded (raising : Raising system.database.faults)
    (ran : saveNode node system = .ok stored after) :
    (∃ change : NodeChange, ∀ series,
      after.counters.value series = system.counters.value series + change.counted series) ∧
      after.graph.relationships = system.graph.relationships ∧
      after.graph.hasNode stored.graphId = true ∧
      ∃ last, saveNode node system.calm = .ok stored last ∧
        last.database.store = after.database.store ∧ last.database.faults = [] := by
  have ends := saveNode_ends raising node
  rw [ran] at ends
  cases ends with
  | committed written evaluated counted =>
      have effect := Script.saveNode_stored evaluated
      have quiet : system.calm.database.faults = [] := rfl
      have same := saveNode_calm quiet written
      have evaluatedCalm : (Script.saveNode node _).evaluate system.calm.database.store =
        .ok _ after.database.store := evaluated
      rw [evaluatedCalm] at same
      obtain ⟨last, ranCalm, sameStore⟩ := same
      have precedes := saveNode_precedes node system.calm
      rw [after_ok ranCalm] at precedes
      exact ⟨⟨_, counted⟩, effect.1, effect.2, last, ranCalm, sameStore, precedes.faults.eq_nil⟩

theorem saveRelationships_failed (raising : Raising system.database.faults)
    (quiet : calm.database.faults = []) (sameStore : calm.database.store = system.database.store)
    (ran : saveRelationships source descriptors system = .error failure after) :
    after.graph = system.graph ∧
      (∀ series, ¬ series.IsUnresolved →
        after.counters.value series = system.counters.value series) ∧
      (Surfaces system.database.faults failure ∨
        ∃ last, saveRelationships source descriptors calm = .error failure last) := by
  have ends := saveRelationships_ends raising source descriptors
  rw [ran] at ends
  cases ends with
  | failed evaluated restored uncounted =>
      have same := saveRelationships_calm quiet source descriptors
      rw [sameStore, evaluated] at same
      exact ⟨restored, uncounted, .inr same⟩
  | disturbed surfaces restored uncounted => exact ⟨restored, uncounted, .inl surfaces⟩

theorem saveRelationships_succeeded (raising : Raising system.database.faults)
    (quiet : calm.database.faults = []) (sameStore : calm.database.store = system.database.store)
    (ran : saveRelationships source descriptors system = .ok edges after) :
    (∀ series, ¬ series.IsUnresolved →
      after.counters.value series = system.counters.value series + Edge.counted edges series) ∧
      ∃ last, saveRelationships source descriptors calm = .ok edges last ∧
        last.database.store = after.database.store := by
  have ends := saveRelationships_ends raising source descriptors
  rw [ran] at ends
  cases ends with
  | committed evaluated counted =>
      have same := saveRelationships_calm quiet source descriptors
      rw [sameStore, evaluated] at same
      exact ⟨counted, same⟩

end Action

namespace Synchronizer

/-- The record of an object after the save of its node. It learns its graph id from a save that
ends well, and stays as it was projected otherwise. -/
def recordAfter (synchronizer : Synchronizer) (tree : Json) (system : System) : Node :=
  match Action.saveNode (synchronizer.projector.project tree) system with
  | .ok stored _ => stored
  | .error _ _ => synchronizer.projector.project tree

/-- A failure is what a fault says, or it comes without faults as well. -/
def FailsBy (synchronizer : Synchronizer) (tree : Json) (before : System) (failure : Failure) :
    Prop :=
  (Surfaces before.database.faults failure ∧
      ∀ refusal, failure = .graph refusal → refusal.name = "TransactionError") ∨
    ∃ last, synchronizer.sync tree before.calm = .error failure last

/-- Of the counters of nodes written one grows by one. -/
def CountsNode (before after : System) : Prop :=
  ∃ operation, ∀ other, after.counters.value (.upserted other) =
    before.counters.value (.upserted other) + if other = operation then 1 else 0

/-- How the sync of an object with a uid ends. -/
inductive SyncEnds (synchronizer : Synchronizer) (tree : Json) (before : System) :
    EStateM.Result Failure System SyncResult → Prop where
  /-- Nothing is saved. -/
  | unsaved {failure : Failure} {after : System}
      (graph : after.graph = before.graph)
      (record : synchronizer.recordAfter tree before = synchronizer.projector.project tree)
      (unassigned : (synchronizer.recordAfter tree before).graphId = "")
      (upserted : ∀ operation, after.counters.value (.upserted operation) =
        before.counters.value (.upserted operation))
      (labelMutations : ∀ operation, after.counters.value (.labelMutations operation) =
        before.counters.value (.labelMutations operation))
      (written : ∀ relationship, after.counters.value (.written relationship) =
        before.counters.value (.written relationship))
      (cause : synchronizer.FailsBy tree before failure) :
      SyncEnds synchronizer tree before (.error failure after)
  /-- The node alone is saved, and no relationship is touched. -/
  | nodeSaved {failure : Failure} {stored : Node} {calmNode after : System}
      (nodeSave : Action.saveNode (synchronizer.projector.project tree) before.calm =
        .ok stored calmNode)
      (graph : after.graph = calmNode.graph)
      (relationships : after.graph.relationships = before.graph.relationships)
      (record : synchronizer.recordAfter tree before = stored)
      (assigned : calmNode.graph.hasNode stored.graphId = true)
      (upserted : CountsNode before after)
      (written : ∀ relationship, after.counters.value (.written relationship) =
        before.counters.value (.written relationship))
      (cause : synchronizer.FailsBy tree before failure) :
      SyncEnds synchronizer tree before (.error failure after)
  /-- Node and relationships are saved. -/
  | done {stored : Node} {edges : List Edge}
      {calmNode calmRelationships after : System}
      (nodeSave : Action.saveNode (synchronizer.projector.project tree) before.calm =
        .ok stored calmNode)
      (relationshipSave : Action.saveRelationships stored.uid (synchronizer.rules.derive tree)
        calmNode = .ok edges calmRelationships)
      (graph : after.graph = calmRelationships.graph)
      (record : synchronizer.recordAfter tree before = stored)
      (assigned : calmNode.graph.hasNode stored.graphId = true)
      (upserted : CountsNode before after) :
      SyncEnds synchronizer tree before
        (.ok ⟨stored, stored.graphId, synchronizer.rules.derive tree, edges⟩ after)

variable {synchronizer : Synchronizer} {tree : Json} {system : System}

theorem failsBy_surfaces {failure : Failure} (surfaces : Surfaces system.database.faults failure) :
    synchronizer.FailsBy tree system failure := by
  refine .inl ⟨surfaces, ?_⟩
  rintro refusal rfl
  exact surfaces.name_eq

/-- A sync fails as its saves do. -/
theorem sync_error (known : (synchronizer.projector.project tree).uid.isEmpty = false)
    {failure : Failure} {middle : System}
    (saved : synchronizer.save (synchronizer.projector.project tree) tree system =
      .error failure middle) : ∃ last, synchronizer.sync tree system = .error failure last := by
  have reported := sync_reported known system
  rw [saved] at reported
  generalize synchronizer.sync tree system = result at reported ⊢
  cases reported with
  | error _ => exact ⟨_, rfl⟩

theorem save_nodeError {node : Node} {failure : Failure} {middle : System}
    (ran : Action.saveNode node system = .error failure middle) :
    synchronizer.save node tree system = .error failure middle := by
  simp only [save, bind, EStateM.bind, ran]

theorem save_relationshipsError {node stored : Node} {failure : Failure} {middle last : System}
    (nodeRan : Action.saveNode node system = .ok stored middle)
    (ran : Action.saveRelationships stored.uid (synchronizer.rules.derive tree) middle =
      .error failure last) : synchronizer.save node tree system = .error failure last := by
  simp only [save, bind, EStateM.bind, nodeRan, ran]

theorem save_ok {node stored : Node} {edges : List Edge} {middle last : System}
    (nodeRan : Action.saveNode node system = .ok stored middle)
    (ran : Action.saveRelationships stored.uid (synchronizer.rules.derive tree) middle =
      .ok edges last) :
    synchronizer.save node tree system =
      .ok ⟨stored, stored.graphId, synchronizer.rules.derive tree, edges⟩ last := by
  simp only [save, bind, EStateM.bind, nodeRan, ran]
  rfl

theorem recordAfter_ok {stored : Node} {middle : System}
    (nodeRan : Action.saveNode (synchronizer.projector.project tree) system = .ok stored middle) :
    synchronizer.recordAfter tree system = stored := by
  simp only [recordAfter, nodeRan]

theorem recordAfter_error {failure : Failure} {middle : System}
    (nodeRan : Action.saveNode (synchronizer.projector.project tree) system =
      .error failure middle) :
    synchronizer.recordAfter tree system = synchronizer.projector.project tree := by
  simp only [recordAfter, nodeRan]

theorem ends_unsaved (known : (synchronizer.projector.project tree).uid.isEmpty = false)
    (raising : Raising system.database.faults) {failure : Failure} {middle : System}
    (nodeRan : Action.saveNode (synchronizer.projector.project tree) system =
      .error failure middle) :
    SyncEnds synchronizer tree system (synchronizer.sync tree system) := by
  obtain ⟨restored, uncounted, cause⟩ := Action.saveNode_failed raising nodeRan
  have record := recordAfter_error nodeRan
  have reported := sync_reported known system
  rw [save_nodeError nodeRan] at reported
  generalize synchronizer.sync tree system = result at reported ⊢
  cases reported with
  | error reports =>
      refine .unsaved (reports.graph.trans restored) record (by rw [record]; rfl) ?_ ?_ ?_ ?_
      · intro operation
        rw [reports.upserted, uncounted]
      · intro operation
        rw [reports.labelMutations, uncounted]
      · intro relationship
        rw [reports.written, uncounted]
      · rcases cause with surfaces | ⟨last, ranCalm⟩
        · exact failsBy_surfaces surfaces
        · exact .inr (sync_error known (save_nodeError ranCalm))

section NodeSaved

variable {stored : Node} {middle last : System}

theorem saveNode_left
    (nodeRan : Action.saveNode (synchronizer.projector.project tree) system = .ok stored middle) :
    FaultsLeft system.database.faults middle.database.faults := by
  have precedes := Action.saveNode_precedes (synchronizer.projector.project tree) system
  rw [Action.after_ok nodeRan] at precedes
  exact precedes.faults

theorem ends_nodeSaved (known : (synchronizer.projector.project tree).uid.isEmpty = false)
    (raising : Raising system.database.faults) {failure : Failure}
    (nodeRan : Action.saveNode (synchronizer.projector.project tree) system = .ok stored middle)
    (ran : Action.saveRelationships stored.uid (synchronizer.rules.derive tree) middle =
      .error failure last) :
    SyncEnds synchronizer tree system (synchronizer.sync tree system) := by
  obtain ⟨⟨change, counted⟩, relationships, assigned, calmNode, nodeCalm, sameStore, quiet⟩ :=
    Action.saveNode_succeeded raising nodeRan
  have left := saveNode_left nodeRan
  obtain ⟨restored, uncounted, cause⟩ :=
    Action.saveRelationships_failed (left.raising raising) quiet sameStore ran
  have reported := sync_reported known system
  rw [save_relationshipsError nodeRan ran] at reported
  have record := recordAfter_ok nodeRan
  generalize synchronizer.sync tree system = result at reported ⊢
  cases reported with
  | @error _ _ after reports =>
      have graph : after.graph = calmNode.graph :=
        (reports.graph.trans restored).trans (congrArg Store.graph sameStore.symm)
      refine .nodeSaved nodeCalm graph ?_ record ?_ ⟨change.operation, ?_⟩ ?_ ?_
      · rw [graph, System.graph, sameStore]
        exact relationships
      · rw [System.graph, sameStore]
        exact assigned
      · intro other
        rw [reports.upserted, uncounted _ (by simp [Series.IsUnresolved]), counted]
        rfl
      · intro relationship
        rw [reports.written, uncounted _ (by simp [Series.IsUnresolved]), counted]
        rfl
      · rcases cause with surfaces | ⟨last, ranCalm⟩
        · exact failsBy_surfaces (left.surfaces surfaces)
        · exact .inr (sync_error known (save_relationshipsError nodeCalm ranCalm))

theorem ends_done (known : (synchronizer.projector.project tree).uid.isEmpty = false)
    (raising : Raising system.database.faults) {edges : List Edge}
    (nodeRan : Action.saveNode (synchronizer.projector.project tree) system = .ok stored middle)
    (ran : Action.saveRelationships stored.uid (synchronizer.rules.derive tree) middle =
      .ok edges last) :
    SyncEnds synchronizer tree system (synchronizer.sync tree system) := by
  obtain ⟨⟨change, counted⟩, _, assigned, calmNode, nodeCalm, sameStore, quiet⟩ :=
    Action.saveNode_succeeded raising nodeRan
  have left := saveNode_left nodeRan
  obtain ⟨edgesCounted, calmLast, ranCalm, lastStore⟩ :=
    Action.saveRelationships_succeeded (left.raising raising) quiet sameStore ran
  have reported := sync_reported known system
  rw [save_ok nodeRan ran] at reported
  have record := recordAfter_ok nodeRan
  generalize synchronizer.sync tree system = result at reported ⊢
  cases reported with
  | ok reports =>
      refine .done nodeCalm ranCalm ?_ record ?_ ⟨change.operation, ?_⟩
      · rw [reports.graph, System.graph, System.graph, lastStore]
      · rw [System.graph, sameStore]
        exact assigned
      · intro other
        rw [reports.upserted, edgesCounted _ (by simp [Series.IsUnresolved]), counted]
        rfl

end NodeSaved

/-- Where all faults raise, a sync saves nothing, or the node alone, or node and relationships. -/
theorem sync_ends (known : (synchronizer.projector.project tree).uid.isEmpty = false)
    (raising : Raising system.database.faults) :
    SyncEnds synchronizer tree system (synchronizer.sync tree system) := by
  cases nodeRan : Action.saveNode (synchronizer.projector.project tree) system with
  | error failure middle => exact ends_unsaved known raising nodeRan
  | ok stored middle =>
      cases ran : Action.saveRelationships stored.uid (synchronizer.rules.derive tree) middle with
      | error failure last => exact ends_nodeSaved known raising nodeRan ran
      | ok edges last => exact ends_done known raising nodeRan ran

/-- The commit of the relationships of a pod is lost. -/
theorem sync_ends_halfway :
    let synchronizer : Synchronizer := ⟨{ clock := .time .epoch }, ⟨[], [], []⟩⟩
    let tree : Json := .obj [("kind", .str "Pod"), ("metadata", .obj [("uid", .str "pod")])]
    let system : System :=
      { database := { faults := [{ site := .commit, kind := .client, skip := 1 }] }
        journal := { threshold := 50 } }
    SyncEnds synchronizer tree system (synchronizer.sync tree system) :=
  sync_ends (by decide +kernel) (by simp [Raising])

end Synchronizer

end ClusterGraph
