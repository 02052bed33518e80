import ClusterGraph.Proofs.History.Evolution
import ClusterGraph.Proofs.Sync.DroppedDescriptors

namespace ClusterGraph

/-! The counters of relationships against the calls that save them. A call that returns counts each
of its descriptors once, as written or as unresolved. A call that fails has counted those that it
dropped until then: the counters account for the calls that return as long as no other call drops a
descriptor. -/

/-- How many descriptors of a type were counted, as written or as unresolved. -/
def System.accounted (system : System) (relationship : String) : Nat :=
  system.written relationship + system.unresolved relationship

/-- A call to save relationships, in the system that it is made in. -/
structure RelationshipCall where
  source : String
  descriptors : List Descriptor
  before : System

namespace RelationshipCall

def action (call : RelationshipCall) : Action (List Edge) :=
  Action.saveRelationships call.source call.descriptors

/-- The system that the call leaves, also where it fails. -/
def after (call : RelationshipCall) : System :=
  Action.after call.action call.before

def returns (call : RelationshipCall) : Bool :=
  match call.action call.before with
  | .ok _ _ => true
  | .error _ _ => false

/-- The descriptors that the call finds no target for, also where it fails later on. -/
def dropped (call : RelationshipCall) : List Descriptor :=
  Action.droppedBy call.source call.descriptors call.before

/-- The descriptors that the call counts. -/
def counted (call : RelationshipCall) : List Descriptor :=
  if call.returns then call.descriptors else call.dropped

variable (call : RelationshipCall) (relationship : String)

theorem ends :
    ReplacementEnds call.descriptors call.dropped call.before (call.action call.before) :=
  Action.saveRelationships_counts call.source call.descriptors call.before

theorem unresolved_after : call.after.unresolved relationship =
    call.before.unresolved relationship + Descriptor.countOf relationship call.dropped := by
  have ends := call.ends
  rw [after, Action.after]
  generalize call.action call.before = result at ends ⊢
  cases ends with
  | returned unresolved _ | raised unresolved _ => exact unresolved relationship

/-- A call that returns counts each of its descriptors once, and another those that it dropped. -/
theorem accounted_after : call.after.accounted relationship =
    call.before.accounted relationship + Descriptor.countOf relationship call.counted := by
  have ends := call.ends
  rw [after, Action.after, counted, returns, System.accounted, System.accounted]
  generalize call.action call.before = result at ends ⊢
  cases ends with
  | returned unresolved written =>
      have unresolved := unresolved relationship
      have written := written relationship
      simp only [if_true]
      omega
  | raised unresolved written =>
      rw [unresolved, written]
      exact (Nat.add_assoc ..).symm

end RelationshipCall

/-- The calls to save relationships that a save makes: itself, or none. -/
def Save.calls : Save → System → List RelationshipCall
  | .upsert _, _ => []
  | .replace source descriptors, system => [⟨source, descriptors, system⟩]

/-- The calls of saves in order up to the first that fails. -/
def callsOf : List Save → System → List RelationshipCall
  | [], _ => []
  | save :: rest, system =>
      save.calls system ++
        match save.action system with
        | .ok _ next => callsOf rest next
        | .error _ _ => []

def Step.calls (step : Step) (system : System) : List RelationshipCall :=
  callsOf step.saves system

/-- The calls to save relationships in a run, oldest first. -/
def relationshipCalls : List Step → System → List RelationshipCall
  | [], _ => []
  | step :: rest, system => step.calls system ++ relationshipCalls rest (step.run system)

/-- The descriptors that calls count. -/
def countedDescriptors (calls : List RelationshipCall) : List Descriptor :=
  calls.flatMap RelationshipCall.counted

/-- A save adds what its calls count. -/
theorem Save.accounted_action (save : Save) (system : System) (relationship : String) :
    (Action.after save.action system).accounted relationship = system.accounted relationship +
      Descriptor.countOf relationship (countedDescriptors (save.calls system)) := by
  cases save with
  | upsert node =>
      have saves : Action.Advances (System.Tallies Series.IsOfNode) (Save.upsert node).action :=
        (Action.saveNode_tallies_nodes node).bind .trans fun _ => Action.advances_pure .refl _
      have written : (Action.after (Save.upsert node).action system).written relationship =
          system.written relationship := (saves system).value id
      have unresolved : (Action.after (Save.upsert node).action system).unresolved relationship =
          system.unresolved relationship := (saves system).value id
      rw [System.accounted, written, unresolved]
      rfl
  | replace source descriptors =>
      let call : RelationshipCall := ⟨source, descriptors, system⟩
      have same : Action.after (Save.replace source descriptors).action system = call.after := by
        rw [Save.action, Action.after_bind, RelationshipCall.after, Action.after,
          RelationshipCall.action]
        cases Action.saveRelationships source descriptors system <;> rfl
      have single : countedDescriptors ((Save.replace source descriptors).calls system) =
        call.counted := List.append_nil _
      rw [same, single]
      exact call.accounted_after relationship

theorem commitAll_accounted (saves : List Save) (system : System) (relationship : String) :
    (commitAll saves system).2.accounted relationship = system.accounted relationship +
      Descriptor.countOf relationship (countedDescriptors (callsOf saves system)) := by
  induction saves generalizing system with
  | nil => rfl
  | cons save rest ih =>
      have first := save.accounted_action system relationship
      rw [callsOf, countedDescriptors, List.flatMap_append, Descriptor.countOf_append,
        ← Nat.add_assoc]
      cases ran : save.action system with
      | ok done next =>
          rw [Action.after_ok ran] at first
          simp only [commitAll, ran]
          rw [ih next, first]
          rfl
      | error failure next =>
          rw [Action.after_error ran] at first
          simp only [commitAll, ran]
          exact first

theorem Step.accounted_run (step : Step) (system : System) (relationship : String) :
    (step.run system).accounted relationship = system.accounted relationship +
      Descriptor.countOf relationship (countedDescriptors (step.calls system)) := by
  have written : (step.run system).written relationship =
      (commitAll step.saves system).2.written relationship :=
    step.run_value system (by simp [Series.IsSynced])
  have unresolved : (step.run system).unresolved relationship =
      (commitAll step.saves system).2.unresolved relationship :=
    step.run_value system (by simp [Series.IsSynced])
  rw [System.accounted, written, unresolved]
  exact commitAll_accounted step.saves system relationship

theorem run_accounted (steps : List Step) (start : System) (relationship : String) :
    (run steps start).accounted relationship = start.accounted relationship +
      Descriptor.countOf relationship (countedDescriptors (relationshipCalls steps start)) := by
  induction steps generalizing start with
  | nil => rfl
  | cons step rest ih =>
      rw [run, ih, step.accounted_run, relationshipCalls, countedDescriptors, countedDescriptors,
        countedDescriptors, List.flatMap_append, Descriptor.countOf_append, Nat.add_assoc]

/-- The descriptors of the calls that return. -/
def returnedDescriptors (calls : List RelationshipCall) : List Descriptor :=
  (calls.filter RelationshipCall.returns).flatMap RelationshipCall.descriptors

/-- The descriptors that the calls that fail have dropped. -/
def lostDescriptors (calls : List RelationshipCall) : List Descriptor :=
  (calls.filter (!·.returns)).flatMap RelationshipCall.dropped

theorem countOf_countedDescriptors (calls : List RelationshipCall) (relationship : String) :
    Descriptor.countOf relationship (countedDescriptors calls) =
      Descriptor.countOf relationship (returnedDescriptors calls) +
        Descriptor.countOf relationship (lostDescriptors calls) := by
  induction calls with
  | nil => rfl
  | cons call rest ih =>
      rw [countedDescriptors, List.flatMap_cons, Descriptor.countOf_append]
      rw [countedDescriptors] at ih
      rw [ih]
      cases returns : call.returns with
      | true =>
          simp [RelationshipCall.counted, returnedDescriptors, lostDescriptors, returns,
            Descriptor.countOf_append, Nat.add_assoc]
      | false =>
          simp [RelationshipCall.counted, returnedDescriptors, lostDescriptors, returns,
            Descriptor.countOf_append, Nat.add_left_comm]

theorem callsOf_raising (saves : List Save) {system : System}
    (raising : Raising system.database.faults) :
    ∀ call ∈ callsOf saves system, Raising call.before.database.faults := by
  induction saves generalizing system with
  | nil => simp [callsOf]
  | cons save rest ih =>
      intro call member
      have precedes := save.action_precedes system
      rcases List.mem_append.mp member with isFirst | isLater
      · cases save with
        | upsert node => cases isFirst
        | replace source descriptors =>
            rw [List.mem_singleton.mp isFirst]
            exact raising
      · cases ran : save.action system with
        | error failure next =>
            rw [ran] at isLater
            cases isLater
        | ok done next =>
            rw [ran] at isLater
            rw [Action.after_ok ran] at precedes
            exact ih (precedes.faults.raising raising) call isLater

/-- All calls of a run are made where all faults raise. -/
theorem relationshipCalls_raising {steps : List Step} {start : System}
    (raising : Raising start.database.faults) (stepsRaising : ∀ step ∈ steps, step.Raising) :
    ∀ call ∈ relationshipCalls steps start, Raising call.before.database.faults := by
  induction steps generalizing start with
  | nil => simp [relationshipCalls]
  | cons step rest ih =>
      intro call member
      rcases List.mem_append.mp member with isFirst | isLater
      · exact callsOf_raising step.saves raising call isFirst
      · exact ih (step.run_raising raising (stepsRaising step List.mem_cons_self))
          (fun later inRest => stepsRaising later (List.mem_cons_of_mem _ inRest)) call isLater

/-- In a run where all faults raise, both counters of a type together grow by the descriptors of the
calls that return and by those that the other calls have dropped. So they account for the calls that
return exactly if no other call has dropped a descriptor of the type. A call drops the descriptors
without a target among the first ones, as far as its look-ups come. -/
theorem run_relationships_counted_iff {steps : List Step} {start : System}
    (raising : Raising start.database.faults) (stepsRaising : ∀ step ∈ steps, step.Raising)
    (relationship : String) :
    (run steps start).accounted relationship = start.accounted relationship +
        Descriptor.countOf relationship (returnedDescriptors (relationshipCalls steps start)) +
        Descriptor.countOf relationship (lostDescriptors (relationshipCalls steps start)) ∧
    ((run steps start).accounted relationship = start.accounted relationship +
        Descriptor.countOf relationship (returnedDescriptors (relationshipCalls steps start)) ↔
      ∀ call ∈ relationshipCalls steps start, call.returns = false →
        ∀ descriptor ∈ call.dropped, descriptor.relationship ≠ relationship) ∧
    ∀ call ∈ relationshipCalls steps start,
      ReplacementEnds call.descriptors call.dropped call.before (call.action call.before) ∧
      ∃ reached, reached <+: call.descriptors ∧ call.dropped =
        reached.filter fun descriptor => (call.before.graph.resolve? descriptor).isNone := by
  have counted : (run steps start).accounted relationship = _ :=
    run_accounted steps start relationship
  rw [countOf_countedDescriptors, ← Nat.add_assoc] at counted
  refine ⟨counted, ?_, fun call member => ⟨call.ends, ?_⟩⟩
  · rw [counted, Nat.add_eq_left, Descriptor.countOf_eq_zero]
    simp only [lostDescriptors, List.mem_flatMap, List.mem_filter, Bool.not_eq_true']
    constructor
    · exact fun kept call member raised descriptor isDropped =>
        kept descriptor ⟨call, ⟨member, raised⟩, isDropped⟩
    · rintro kept descriptor ⟨call, ⟨member, raised⟩, isDropped⟩
      exact kept call member raised descriptor isDropped
  · exact Action.droppedBy_raising call.source call.descriptors
      (relationshipCalls_raising raising stepsRaising call member)

/-- The relationships of a pod are saved twice, to itself and to an object that is not stored. -/
def savedTwice : List Step :=
  let save : Save := .replace "pod" [{ relationship := "OWNS", targetUid := "pod" },
    { relationship := "OWNS", targetUid := "nobody" }]
  [.save save, .save save]

/-- A pod, with a database that loses the second commit. -/
def losesCommit : System :=
  { database :=
      { store :=
          { graph := { nodes := [(Store.nodeId 1, .ofEntries [("uid", .str "pod")])] }
            nextId := 2 }
        faults := [{ site := .commit, kind := .client, skip := 1 }] }
    journal := { threshold := 50 } }

theorem losesCommit_raising : Raising losesCommit.database.faults := by
  simp [losesCommit, Raising]

theorem savedTwice_raising : ∀ step ∈ savedTwice, step.Raising := by
  simp [savedTwice, Step.Raising]

theorem savedTwice_calls :
    (relationshipCalls savedTwice losesCommit).map RelationshipCall.returns = [true, false] ∧
      Descriptor.countOf "OWNS" (returnedDescriptors (relationshipCalls savedTwice losesCommit)) =
        2 ∧
      Descriptor.countOf "OWNS" (lostDescriptors (relationshipCalls savedTwice losesCommit)) =
        1 := by
  decide +kernel

/-- Both counters come to three, though only the first call returns, with two descriptors. -/
theorem savedTwice_counted :
    Raising losesCommit.database.faults ∧ (∀ step ∈ savedTwice, step.Raising) ∧
      (run savedTwice losesCommit).accounted "OWNS" = losesCommit.accounted "OWNS" + 2 + 1 := by
  obtain ⟨counted, _⟩ :=
    run_relationships_counted_iff losesCommit_raising savedTwice_raising "OWNS"
  obtain ⟨_, returned, lost⟩ := savedTwice_calls
  rw [returned, lost] at counted
  exact ⟨losesCommit_raising, savedTwice_raising, counted⟩

/-- Neither do the counters account for the calls that return alone, nor does a call that fails
leave both as they were. -/
theorem not_run_relationships_counted :
    (¬ ∀ (steps : List Step) (start : System) (relationship : String),
      Raising start.database.faults → (∀ step ∈ steps, step.Raising) →
      (run steps start).accounted relationship = start.accounted relationship +
        Descriptor.countOf relationship (returnedDescriptors (relationshipCalls steps start))) ∧
    ¬ ∀ (call : RelationshipCall) (relationship : String),
      Raising call.before.database.faults → call.returns = false →
      call.after.written relationship = call.before.written relationship ∧
        call.after.unresolved relationship = call.before.unresolved relationship := by
  obtain ⟨_, returned, lost⟩ := savedTwice_calls
  have counted := run_accounted savedTwice losesCommit "OWNS"
  rw [countOf_countedDescriptors, returned, lost] at counted
  constructor
  · intro claimed
    have equal := claimed savedTwice losesCommit "OWNS" losesCommit_raising savedTwice_raising
    rw [returned, counted] at equal
    omega
  · intro claimed
    have lossless : ∀ descriptor ∈ lostDescriptors (relationshipCalls savedTwice losesCommit),
        descriptor.relationship ≠ "OWNS" := by
      intro descriptor isLost
      obtain ⟨call, member, isDropped⟩ := List.mem_flatMap.mp isLost
      obtain ⟨member, raises⟩ := List.mem_filter.mp member
      have raising :=
        relationshipCalls_raising losesCommit_raising savedTwice_raising call member
      have same := (claimed call "OWNS" raising (by simpa using raises)).2
      have dropped := call.unresolved_after "OWNS"
      rw [same, Nat.left_eq_add, Descriptor.countOf_eq_zero] at dropped
      exact dropped descriptor isDropped
    rw [← Descriptor.countOf_eq_zero, lost] at lossless
    cases lossless

end ClusterGraph
