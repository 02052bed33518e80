import ClusterGraph.Proofs.Store.CallTrace
import ClusterGraph.Proofs.Sync.SyncEndings

namespace ClusterGraph

/-! Syncs that meet no faults: they end well exactly if the scripts of both saves do, and put the
queries of these scripts. -/

/-- The name is that of a query that finds the nodes that descriptors refer to, or replaces
relationships. -/
def OfRelationships (name : String) : Prop :=
  name ∈ [Query.resolveUid, .resolveName, .deleteRelationships, .createRelationship].map Query.name

instance (name : String) : Decidable (OfRelationships name) :=
  inferInstanceAs (Decidable (_ ∈ _))

namespace Script

theorem puts_firstGraphId? (rows : List Json) : (firstGraphId? rows).Puts OfRelationships := by
  cases rows with
  | nil => trivial
  | cons row rest => exact (puts_ofShape _).bind fun _ => trivial

theorem puts_resolveUid? (uid : String) : (resolveUid? uid).Puts OfRelationships := by
  refine ⟨(by decide : OfRelationships Query.resolveUid.name), fun rows => ?_⟩
  simp only [Script.bind]
  split
  · trivial
  · exact puts_firstGraphId? rows

theorem puts_resolveTarget? (descriptor : Descriptor) :
    (resolveTarget? descriptor).Puts OfRelationships := by
  unfold resolveTarget?
  split
  · exact puts_resolveUid? descriptor.targetUid
  · split
    · trivial
    · exact ⟨(by decide : OfRelationships Query.resolveName.name),
        fun rows => puts_firstGraphId? rows⟩

theorem puts_resolveTargets (source : String) (descriptors : List Descriptor) :
    (resolveTargets source descriptors).Puts OfRelationships := by
  induction descriptors with
  | nil => trivial
  | cons descriptor rest ih =>
      refine (puts_resolveTarget? descriptor).bind fun target => ?_
      cases target with
      | some target => exact ih.bind fun _ => trivial
      | none => exact ih

theorem puts_createEdges (source : String) (resolved : List (Descriptor × String)) :
    (createEdges source resolved).Puts OfRelationships := by
  induction resolved with
  | nil => trivial
  | cons entry rest ih =>
      refine ⟨(by decide : OfRelationships Query.createRelationship.name), fun rows => ?_⟩
      exact (puts_firstGraphId? rows).bind fun _ => ih.bind fun _ => trivial

/-- The save of relationships touches neither nodes nor labels. -/
theorem puts_saveRelationships (source : String) (descriptors : List Descriptor) :
    (saveRelationships source descriptors).Puts OfRelationships := by
  have sourceFound : (resolveUid source).Puts OfRelationships :=
    (puts_resolveUid? source).bind fun found => by cases found <;> trivial
  have deletes (id : String) : (runAll [.deleteRelationships id]).Puts OfRelationships :=
    ⟨(by decide : OfRelationships Query.deleteRelationships.name), fun _ => trivial⟩
  exact sourceFound.bind fun id => (puts_resolveTargets source descriptors).bind fun resolved =>
    (deletes id).bind fun _ => puts_createEdges id resolved

end Script

/-- The calls of a script that is committed as one transaction of its own. -/
def Script.calls {α : Type} (script : Script α) (database : Database) : List Call :=
  [.session database.name, .begin] ++ (script.statements database.store).map Statement.call ++
    [.commit]

theorem Script.run_mem_calls {α : Type} {script : Script α} {database : Database} {name : String}
    {parameters : Entries Json} (member : .run name parameters ∈ script.calls database) :
    ∃ statement ∈ script.statements database.store, statement.query.name = name := by
  simp only [calls, List.mem_append, List.mem_cons, List.mem_map, List.not_mem_nil, or_false,
    reduceCtorEq, false_or] at member
  obtain ⟨statement, statementMember, isCall⟩ := member
  exact ⟨statement, statementMember, (Call.run.inj isCall).1⟩

namespace Action

variable {system last : System} {node stored : Node} {properties : Entries Json}

theorem countEdges_calls (edges : List Edge) (system : System) :
    (after (edges.forM fun edge => count (.written edge.relationship) 1) system).calls =
      system.calls := by
  induction edges generalizing system with
  | nil => rfl
  | cons edge rest ih => exact ih (system.count (.written edge.relationship) 1)

theorem saveNode_calls (calm : system.database.faults = [])
    (written : node.properties = .ok properties)
    (ran : saveNode node system = .ok stored last) :
    last.calls = system.calls ++ (Script.saveNode node properties).calls system.database := by
  simp only [saveNode, written, bind, EStateM.bind] at ran
  cases transacted : transaction (Script.saveNode node properties) system with
  | error failure middle => simp [transacted] at ran
  | ok change middle =>
      have calls := transaction_calls calm transacted
      simp only [transacted] at ran
      cases ran
      exact calls

theorem saveRelationships_puts (source : String) (descriptors : List Descriptor) :
    Advances (System.Puts OfRelationships) (saveRelationships source descriptors) := by
  refine (transaction_puts (Script.puts_saveRelationships source descriptors)).bind .trans
    fun edges system => ?_
  have calls := countEdges_calls edges system
  obtain ⟨counted, counts, _⟩ := countEdges_ok edges system
  rw [after_ok counts] at calls
  refine ⟨[], ?_, by simp⟩
  simp only [after, reportRelationships, bind, EStateM.bind, counts, List.append_nil]
  exact calls

/-- Without faults the save of a node that ends well does what its script does. -/
theorem saveNode_committed (calm : system.database.faults = [])
    (ran : saveNode node system = .ok stored last) :
    ∃ properties change, node.properties = .ok properties ∧
      (Script.saveNode node properties).evaluate system.database.store =
        .ok change last.database.store ∧
      stored = { node with graphId := change.graphId } ∧ last.database.faults = [] := by
  have raising : Raising system.database.faults := by simp [calm, Raising]
  have ends := saveNode_ends raising node
  have precedes := saveNode_precedes node system
  rw [after_ok ran] at precedes
  rw [ran] at ends
  cases ends with
  | committed written evaluated _ =>
      exact ⟨_, _, written, evaluated, rfl, (calm ▸ precedes.faults).eq_nil⟩

theorem saveRelationships_committed {source : String} {descriptors : List Descriptor}
    {edges : List Edge} (calm : system.database.faults = [])
    (ran : saveRelationships source descriptors system = .ok edges last) :
    (Script.saveRelationships source descriptors).evaluate system.database.store =
      .ok edges last.database.store ∧ last.database.faults = [] := by
  have raising : Raising system.database.faults := by simp [calm, Raising]
  have ends := saveRelationships_ends raising source descriptors
  have precedes := saveRelationships_precedes source descriptors system
  rw [after_ok ran] at precedes
  rw [ran] at ends
  cases ends with
  | committed evaluated _ => exact ⟨evaluated, (calm ▸ precedes.faults).eq_nil⟩

end Action

namespace Synchronizer

variable {synchronizer : Synchronizer} {tree : Json} {system : System}

theorem sync_saved (known : (synchronizer.projector.project tree).uid.isEmpty = false)
    {result : SyncResult} {saved : System}
    (ran : synchronizer.save (synchronizer.projector.project tree) tree system =
      .ok result saved) :
    ∃ last, synchronizer.sync tree system = .ok result last ∧ last.database = saved.database := by
  rw [sync_known known]
  simp only [ran]
  exact ⟨_, rfl, rfl⟩

/-- A sync that saved its node leaves what the save of the relationships leaves. -/
theorem after_sync_nodeSaved (known : (synchronizer.projector.project tree).uid.isEmpty = false)
    {stored : Node} {middle : System}
    (nodeRan : Action.saveNode (synchronizer.projector.project tree) system = .ok stored middle) :
    (Action.after (synchronizer.sync tree) system).database =
        (Action.after (Action.saveRelationships (synchronizer.projector.project tree).uid
          (synchronizer.rules.derive tree)) middle).database ∧
      (Action.after (synchronizer.sync tree) system).calls =
        (Action.after (Action.saveRelationships (synchronizer.projector.project tree).uid
          (synchronizer.rules.derive tree)) middle).calls := by
  rw [sync_known known, ← Action.saveNode_uid nodeRan]
  simp only [Action.after, save, bind, EStateM.bind, nodeRan]
  cases Action.saveRelationships stored.uid (synchronizer.rules.derive tree) middle with
  | ok edges last => exact ⟨rfl, rfl⟩
  | error failure last => cases failure <;> exact ⟨rfl, rfl⟩

/-- Once its node is saved, a sync works on relationships alone. -/
theorem sync_calls (known : (synchronizer.projector.project tree).uid.isEmpty = false)
    (calm : system.database.faults = []) {properties : Entries Json} {change : NodeChange}
    {middle : Store} (written : (synchronizer.projector.project tree).properties = .ok properties)
    (evaluated : (Script.saveNode (synchronizer.projector.project tree) properties).evaluate
      system.database.store = .ok change middle) :
    ∃ calls, (Action.after (synchronizer.sync tree) system).calls = system.calls ++
        ((Script.saveNode (synchronizer.projector.project tree) properties).calls
          system.database ++ calls) ∧
      ∀ name parameters, .run name parameters ∈ calls → OfRelationships name := by
  have nodeRan := Action.saveNode_calm calm written
  rw [evaluated] at nodeRan
  obtain ⟨between, nodeRan, _⟩ := nodeRan
  obtain ⟨calls, appended, ofRelationships⟩ := Action.saveRelationships_puts
    (synchronizer.projector.project tree).uid (synchronizer.rules.derive tree) between
  refine ⟨calls, ?_, ofRelationships⟩
  rw [(after_sync_nodeSaved known nodeRan).2, appended, Action.saveNode_calls calm written nodeRan,
    List.append_assoc]

/-- What the saves of a sync without faults did to the store. -/
structure Saves (synchronizer : Synchronizer) (tree : Json) (before middle after : Store)
    (properties : Entries Json) (change : NodeChange) (edges : List Edge) : Prop where
  written : (synchronizer.projector.project tree).properties = .ok properties
  node : (Script.saveNode (synchronizer.projector.project tree) properties).evaluate before =
    .ok change middle
  relationships : (Script.saveRelationships (synchronizer.projector.project tree).uid
    (synchronizer.rules.derive tree)).evaluate middle = .ok edges after

/-- The result of a sync that saved its node under a graph id. -/
def resultOf (synchronizer : Synchronizer) (tree : Json) (graphId : String) (edges : List Edge) :
    SyncResult :=
  { node := { synchronizer.projector.project tree with graphId }
    graphId
    descriptors := synchronizer.rules.derive tree
    edges }

theorem sync_committed (known : (synchronizer.projector.project tree).uid.isEmpty = false)
    (calm : system.database.faults = []) {result : SyncResult} {last : System}
    (ran : synchronizer.sync tree system = .ok result last) :
    ∃ properties change middle edges,
      synchronizer.Saves tree system.database.store middle last.database.store properties change
        edges ∧
      result = synchronizer.resultOf tree change.graphId edges ∧ last.database.faults = [] := by
  have reported := sync_reported known system
  rw [ran] at reported
  generalize saves : synchronizer.save (synchronizer.projector.project tree) tree system = saved
    at reported
  cases reported with
  | @ok _ saved _ reports =>
      simp only [save, bind, EStateM.bind] at saves
      cases nodeRan : Action.saveNode (synchronizer.projector.project tree) system with
      | error failure middle => simp [nodeRan] at saves
      | ok stored middle =>
          obtain ⟨properties, change, written, nodeSaved, rfl, quiet⟩ :=
            Action.saveNode_committed calm nodeRan
          simp only [nodeRan] at saves
          cases relationshipsRan : Action.saveRelationships
              (synchronizer.projector.project tree).uid (synchronizer.rules.derive tree) middle with
          | error failure ended => simp [relationshipsRan] at saves
          | ok edges ended =>
              obtain ⟨relationshipsSaved, stillQuiet⟩ :=
                Action.saveRelationships_committed quiet relationshipsRan
              simp only [relationshipsRan] at saves
              cases saves
              refine ⟨properties, change, _, edges, ⟨written, nodeSaved, ?_⟩, rfl, ?_⟩
              · rw [reports.database]
                exact relationshipsSaved
              · rw [reports.database]
                exact stillQuiet

/-- A sync ends well if the scripts of its saves do. -/
theorem sync_of_saves (known : (synchronizer.projector.project tree).uid.isEmpty = false)
    (calm : system.database.faults = []) {middle after : Store} {properties : Entries Json}
    {change : NodeChange} {edges : List Edge}
    (saves : synchronizer.Saves tree system.database.store middle after properties change edges) :
    ∃ last, synchronizer.sync tree system =
        .ok (synchronizer.resultOf tree change.graphId edges) last ∧
      last.database.store = after ∧ last.database.faults = [] := by
  have nodeRan := Action.saveNode_calm calm saves.written
  rw [saves.node] at nodeRan
  obtain ⟨between, nodeRan, rfl⟩ := nodeRan
  obtain ⟨_, _, _, _, _, quiet⟩ := Action.saveNode_committed calm nodeRan
  have relationshipsRan := Action.saveRelationships_calm quiet
    (synchronizer.projector.project tree).uid (synchronizer.rules.derive tree)
  rw [saves.relationships] at relationshipsRan
  obtain ⟨saved, relationshipsRan, rfl⟩ := relationshipsRan
  have stillQuiet := (Action.saveRelationships_committed quiet relationshipsRan).2
  obtain ⟨last, ran, database⟩ := sync_saved known (save_ok nodeRan relationshipsRan)
  exact ⟨last, ran, congrArg Database.store database, by rw [database, stillQuiet]⟩

end Synchronizer

end ClusterGraph
