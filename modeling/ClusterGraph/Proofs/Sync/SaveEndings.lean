import ClusterGraph.Proofs.Store.TransactionCounters
import ClusterGraph.Proofs.Store.TransactionFrame
import ClusterGraph.Sync.NodeSave
import ClusterGraph.Sync.RelationshipSave

namespace ClusterGraph

/-! How the saves of a node and of relationships end where all faults raise: they do what their
script does to the store and count it, or they leave graph and counters as they were. Only the
descriptors without a target are counted as they are met. -/

namespace Script

variable (allowed : Series → Prop)

theorem counts_firstGraphId? (rows : List Json) : (firstGraphId? rows).Counts allowed := by
  cases rows with
  | nil => trivial
  | cons row rest => exact (counts_ofShape allowed _).bind fun _ => trivial

theorem counts_saveNode (node : Node) (properties : Entries Json) :
    (saveNode node properties).Counts allowed := by
  have found : (findNode? (.findByUid node.uid) node.uid).Counts allowed := by
    intro rows
    match rows with
    | [] => trivial
    | [row] => exact (counts_ofShape allowed _).bind fun _ => trivial
    | _ :: _ :: _ => trivial
  refine found.bind fun stored => ?_
  cases stored with
  | none =>
      intro rows
      refine (counts_firstGraphId? allowed rows).bind fun id => ?_
      cases id with
      | none => trivial
      | some id => exact (counts_runAll allowed _).bind fun _ => trivial
  | some stored =>
      exact (counts_runAll allowed _).bind fun _ => (counts_runAll allowed _).bind fun _ =>
        (counts_runAll allowed _).bind fun _ => trivial

theorem counts_resolveUid? (uid : String) : (resolveUid? uid).Counts allowed := by
  intro rows
  simp only [Script.bind]
  split
  · trivial
  · exact counts_firstGraphId? allowed rows

theorem counts_resolveTarget? (descriptor : Descriptor) :
    (resolveTarget? descriptor).Counts allowed := by
  unfold resolveTarget?
  split
  · exact counts_resolveUid? allowed descriptor.targetUid
  · split
    · trivial
    · exact fun rows => counts_firstGraphId? allowed rows

theorem counts_createEdges (source : String) (resolved : List (Descriptor × String)) :
    (createEdges source resolved).Counts allowed := by
  induction resolved with
  | nil => trivial
  | cons entry rest ih =>
      intro rows
      exact (counts_firstGraphId? allowed rows).bind fun _ => ih.bind fun _ => trivial

end Script

/-- The series of descriptors that were dropped. -/
def Series.IsUnresolved (series : Series) : Prop :=
  ∃ relationship, series = .unresolved relationship

namespace Script

theorem counts_resolveTargets (source : String) (descriptors : List Descriptor) :
    (resolveTargets source descriptors).Counts Series.IsUnresolved := by
  induction descriptors with
  | nil => trivial
  | cons descriptor rest ih =>
      refine (counts_resolveTarget? _ descriptor).bind fun target => ?_
      cases target with
      | some target => exact ih.bind fun _ => trivial
      | none => exact ⟨⟨descriptor.relationship, rfl⟩, ih⟩

theorem counts_saveRelationships (source : String) (descriptors : List Descriptor) :
    (saveRelationships source descriptors).Counts Series.IsUnresolved := by
  have sourceFound : (resolveUid source).Counts Series.IsUnresolved :=
    (counts_resolveUid? _ source).bind fun found => by cases found <;> trivial
  exact sourceFound.bind fun id => (counts_resolveTargets source descriptors).bind fun resolved =>
    (counts_runAll _ _).bind fun _ => counts_createEdges _ id resolved

end Script

/-- The series of nodes and their labels. -/
def Series.IsOfNode : Series → Prop
  | .upserted _ | .labelMutations _ => True
  | _ => False

/-- What the report of a node save adds to a series. -/
def NodeChange.counted (change : NodeChange) : Series → Nat
  | .upserted operation => if operation = change.operation then 1 else 0
  | .labelMutations operation =>
      (if operation = "add" then change.diff.added.length + change.diff.changed.length else 0) +
        if operation = "remove" then change.diff.removed.length else 0
  | _ => 0

/-- What the report of a replacement adds to a series. -/
def Edge.counted (edges : List Edge) : Series → Nat
  | .written relationship => edges.countP (·.relationship == relationship)
  | _ => 0

/-- How the save of a node ends. -/
inductive NodeSaveEnds (node : Node) (before : System) :
    EStateM.Result Failure System Node → Prop where
  | committed {properties : Entries Json} {change : NodeChange} {after : System}
      (written : node.properties = .ok properties)
      (evaluated : (Script.saveNode node properties).evaluate before.database.store =
        .ok change after.database.store)
      (counted : ∀ series,
        after.counters.value series = before.counters.value series + change.counted series) :
      NodeSaveEnds node before (.ok { node with graphId := change.graphId } after)
  | unwritable {failure : Failure} (refused : node.properties = .error failure) :
      NodeSaveEnds node before (.error failure before)
  | failed {properties : Entries Json} {failure : Failure} {store : Store} {after : System}
      (written : node.properties = .ok properties)
      (evaluated : (Script.saveNode node properties).evaluate before.database.store =
        .error failure store)
      (restored : after.graph = before.graph)
      (uncounted : ∀ series, after.counters.value series = before.counters.value series) :
      NodeSaveEnds node before (.error failure after)
  | disturbed {failure : Failure} {after : System}
      (surfaces : Surfaces before.database.faults failure)
      (restored : after.graph = before.graph)
      (uncounted : ∀ series, after.counters.value series = before.counters.value series) :
      NodeSaveEnds node before (.error failure after)

/-- How the save of relationships ends. -/
inductive RelationshipSaveEnds (source : String) (descriptors : List Descriptor)
    (before : System) : EStateM.Result Failure System (List Edge) → Prop where
  | committed {edges : List Edge} {after : System}
      (evaluated : (Script.saveRelationships source descriptors).evaluate before.database.store =
        .ok edges after.database.store)
      (counted : ∀ series, ¬ series.IsUnresolved →
        after.counters.value series = before.counters.value series + Edge.counted edges series) :
      RelationshipSaveEnds source descriptors before (.ok edges after)
  | failed {failure : Failure} {store : Store} {after : System}
      (evaluated : (Script.saveRelationships source descriptors).evaluate before.database.store =
        .error failure store)
      (restored : after.graph = before.graph)
      (uncounted : ∀ series, ¬ series.IsUnresolved →
        after.counters.value series = before.counters.value series) :
      RelationshipSaveEnds source descriptors before (.error failure after)
  | disturbed {failure : Failure} {after : System}
      (surfaces : Surfaces before.database.faults failure)
      (restored : after.graph = before.graph)
      (uncounted : ∀ series, ¬ series.IsUnresolved →
        after.counters.value series = before.counters.value series) :
      RelationshipSaveEnds source descriptors before (.error failure after)

namespace Action

theorem reportNode_ok (node : Node) (change : NodeChange) (system : System) :
    ∃ after, reportNode node change system = .ok () after ∧ after.database = system.database ∧
      ∀ series,
        after.counters.value series = system.counters.value series + change.counted series := by
  refine ⟨_, rfl, rfl, fun series => ?_⟩
  simp only [System.log, System.count, Counters.value_add]
  cases series with
  | upserted operation => simp [NodeChange.counted]
  | labelMutations operation => simp [NodeChange.counted, Nat.add_assoc]
  | synced | written | unresolved | restarts => simp [NodeChange.counted]

theorem countEdges_ok (edges : List Edge) (system : System) :
    ∃ after, edges.forM (fun edge => count (.written edge.relationship) 1) system = .ok () after ∧
      after.database = system.database ∧
      ∀ series,
        after.counters.value series = system.counters.value series + Edge.counted edges series := by
  induction edges generalizing system with
  | nil => exact ⟨system, rfl, rfl, fun series => by cases series <;> rfl⟩
  | cons edge rest ih =>
      obtain ⟨after, ran, same, counted⟩ := ih (system.count (.written edge.relationship) 1)
      refine ⟨after, ran, same, fun series => ?_⟩
      rw [counted, System.count, Counters.value_add]
      cases series with
      | written relationship =>
          simp only [Edge.counted, Series.written.injEq, List.countP_cons, beq_iff_eq]
          by_cases isNext : relationship = edge.relationship
          · simp only [isNext, if_true]
            omega
          · simp only [isNext, Ne.symm isNext, if_false, Nat.add_zero]
      | synced | upserted | labelMutations | unresolved | restarts => simp [Edge.counted]

theorem reportRelationships_ok (source : String) (derived : Nat) (edges : List Edge)
    (system : System) :
    ∃ after, reportRelationships source derived edges system = .ok () after ∧
      after.database = system.database ∧
      ∀ series,
        after.counters.value series = system.counters.value series + Edge.counted edges series := by
  obtain ⟨middle, ran, same, counted⟩ := countEdges_ok edges system
  simp only [reportRelationships, bind, EStateM.bind, ran]
  exact ⟨_, rfl, same, counted⟩

/-- A save of a node counts nodes and labels and nothing else. -/
theorem saveNode_tallies_nodes (node : Node) :
    Advances (System.Tallies Series.IsOfNode) (saveNode node) := by
  have reports (change : NodeChange) :
      Advances (System.Tallies Series.IsOfNode) (reportNode node change) :=
    (count_tallies trivial _).bind .trans fun _ => (count_tallies trivial _).bind .trans fun _ =>
      (count_tallies trivial _).bind .trans fun _ _ => .of_counters rfl
  unfold saveNode
  cases node.properties with
  | error failure => exact advances_throw .refl failure
  | ok properties =>
      exact (transaction_tallies (Script.counts_saveNode _ node properties)).bind .trans
        fun change => (reports change).bind .trans fun _ => advances_pure .refl _

theorem saveNode_ends {system : System} (raising : Raising system.database.faults) (node : Node) :
    NodeSaveEnds node system (saveNode node system) := by
  unfold saveNode
  cases written : node.properties with
  | error failure => exact .unwritable written
  | ok properties =>
      have ends := transaction_ends raising (Script.saveNode node properties)
      have values (series : Series) : (after (transaction (Script.saveNode node properties))
          system).counters.value series = system.counters.value series :=
        (transaction_tallies (Script.counts_saveNode (fun _ => False) node properties)
          system).value id
      simp only [bind, EStateM.bind]
      cases ran : transaction (Script.saveNode node properties) system with
      | error failure middle =>
          rw [ran] at ends
          rw [after_error ran] at values
          cases ends with
          | failed evaluated restored => exact .failed written evaluated restored values
          | disturbed surfaces restored => exact .disturbed surfaces restored values
      | ok change middle =>
          rw [ran] at ends
          rw [after_ok ran] at values
          cases ends with
          | committed evaluated =>
              obtain ⟨last, reported, same, counted⟩ := reportNode_ok node change middle
              simp only [reported]
              refine .committed written (by rw [same]; exact evaluated) fun series => ?_
              rw [counted, values]

theorem saveRelationships_ends {system : System} (raising : Raising system.database.faults)
    (source : String) (descriptors : List Descriptor) :
    RelationshipSaveEnds source descriptors system
      (saveRelationships source descriptors system) := by
  have ends := transaction_ends raising (Script.saveRelationships source descriptors)
  have values (series : Series) (resolved : ¬ series.IsUnresolved) :
      (after (transaction (Script.saveRelationships source descriptors))
        system).counters.value series = system.counters.value series :=
    (transaction_tallies (Script.counts_saveRelationships source descriptors) system).value resolved
  simp only [saveRelationships, bind, EStateM.bind]
  cases ran : transaction (Script.saveRelationships source descriptors) system with
  | error failure middle =>
      rw [ran] at ends
      rw [after_error ran] at values
      cases ends with
      | failed evaluated restored => exact .failed evaluated restored values
      | disturbed surfaces restored => exact .disturbed surfaces restored values
  | ok edges middle =>
      rw [ran] at ends
      rw [after_ok ran] at values
      cases ends with
      | committed evaluated =>
          obtain ⟨last, reported, same, counted⟩ :=
            reportRelationships_ok source descriptors.length edges middle
          simp only [reported]
          refine .committed (by rw [same]; exact evaluated) fun series resolved => ?_
          rw [counted, values series resolved]

theorem saveNode_precedes (node : Node) : Advances System.Precedes (saveNode node) := by
  unfold saveNode
  cases node.properties with
  | error failure => exact advances_throw .refl failure
  | ok properties =>
      have reports (change : NodeChange) : Advances System.Precedes (reportNode node change) := by
        intro system
        obtain ⟨last, reported, same, _⟩ := reportNode_ok node change system
        rw [after_ok reported]
        exact .of_database same
      exact (transaction_precedes _).bind .trans fun change =>
        (reports change).bind .trans fun _ => advances_pure .refl _

theorem saveRelationships_precedes (source : String) (descriptors : List Descriptor) :
    Advances System.Precedes (saveRelationships source descriptors) := by
  have reports (edges : List Edge) : Advances System.Precedes
      (reportRelationships source descriptors.length edges) := by
    intro system
    obtain ⟨last, reported, same, _⟩ :=
      reportRelationships_ok source descriptors.length edges system
    rw [after_ok reported]
    exact .of_database same
  exact (transaction_precedes _).bind .trans fun edges =>
    (reports edges).bind .trans fun _ => advances_pure .refl _

theorem saveNode_uid {node stored : Node} {system after : System}
    (ran : saveNode node system = .ok stored after) : stored.uid = node.uid := by
  unfold saveNode at ran
  cases written : node.properties with
  | error failure =>
      rw [written] at ran
      cases ran
  | ok properties =>
      rw [written] at ran
      simp only [bind, EStateM.bind] at ran
      cases transacted : transaction (Script.saveNode node properties) system with
      | error failure middle => simp [transacted] at ran
      | ok change middle =>
          obtain ⟨last, reported, _⟩ := reportNode_ok node change middle
          simp only [transacted, reported] at ran
          cases ran
          rfl

section Frame

variable {same : System → System → Prop} (frame : System.Frame same)

include frame

theorem respects_saveNode (node : Node) : Respects same (saveNode node) := by
  have reports (change : NodeChange) : Respects same (reportNode node change) :=
    (respects_count frame _ _).bind fun _ => (respects_count frame _ _).bind fun _ =>
      (respects_count frame _ _).bind fun _ => respects_log frame _ _ _ _
  unfold saveNode
  cases node.properties with
  | error failure => exact respects_throw failure
  | ok properties =>
      exact (respects_transaction frame _).bind fun change =>
        (reports change).bind fun _ => respects_pure _

theorem respects_saveRelationships (source : String) (descriptors : List Descriptor) :
    Respects same (saveRelationships source descriptors) := by
  have counts (edges : List Edge) :
      Respects same (edges.forM fun edge => count (.written edge.relationship) 1) := by
    induction edges with
    | nil => exact respects_pure ()
    | cons edge rest ih => exact (respects_count frame _ _).bind fun _ => ih
  exact (respects_transaction frame _).bind fun edges =>
    ((counts edges).bind fun _ => respects_log frame _ _ _ _).bind fun _ => respects_pure _

end Frame

end Action

end ClusterGraph
