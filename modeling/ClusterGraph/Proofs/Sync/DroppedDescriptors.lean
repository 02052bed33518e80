import ClusterGraph.Proofs.Store.SilentStatements
import ClusterGraph.Proofs.Sync.RelationshipSaveEffect
import ClusterGraph.Proofs.Sync.SaveEndings

namespace ClusterGraph

/-! The descriptors that a save of relationships drops. They are counted as they are met, so that
also a save that fails later on has counted those that it met until then. -/

namespace Action

/-- The descriptors without a target that look-ups come to, up to the first that fails. -/
def dropped : List Descriptor → System → List Descriptor
  | [], _ => []
  | descriptor :: rest, system =>
      match runScript (Script.resolveTarget? descriptor) system with
      | .ok (some _) next => dropped rest next
      | .ok none next => descriptor :: dropped rest next
      | .error _ _ => []

theorem dropped_sameDatabase (descriptors : List Descriptor) {left right : System}
    (same : left.database = right.database) :
    dropped descriptors left = dropped descriptors right := by
  induction descriptors generalizing left right with
  | nil => rfl
  | cons descriptor rest ih =>
      have ends := respects_runScript System.sameDatabase_frame
        (Script.resolveTarget? descriptor) left right same
      simp only [dropped]
      generalize runScript _ left = leftEnd at ends ⊢
      generalize runScript _ right = rightEnd at ends ⊢
      cases ends with
      | error => rfl
      | @ok target _ _ next =>
          cases target with
          | some id => exact ih next
          | none => exact congrArg (descriptor :: ·) (ih next)

end Action

/-- How many descriptors are of a type. -/
def Descriptor.countOf (relationship : String) (descriptors : List Descriptor) : Nat :=
  descriptors.countP (·.relationship == relationship)

theorem Descriptor.countOf_cons (relationship : String) (descriptor : Descriptor)
    (rest : List Descriptor) :
    countOf relationship (descriptor :: rest) =
      countOf relationship rest + if relationship = descriptor.relationship then 1 else 0 := by
  by_cases same : descriptor.relationship = relationship
  · simp [countOf, same]
  · simp [countOf, same, Ne.symm same]

theorem Descriptor.countOf_append (relationship : String) (left right : List Descriptor) :
    countOf relationship (left ++ right) =
      countOf relationship left + countOf relationship right :=
  List.countP_append

theorem Descriptor.countOf_eq_zero {relationship : String} {descriptors : List Descriptor} :
    countOf relationship descriptors = 0 ↔
      ∀ descriptor ∈ descriptors, descriptor.relationship ≠ relationship := by
  simp [countOf, List.countP_eq_zero]

namespace System

/-- How many descriptors of a type were counted as dropped. -/
def unresolved (system : System) (relationship : String) : Nat :=
  system.counters.value (.unresolved relationship)

/-- How many edges of a type were counted as written. -/
def written (system : System) (relationship : String) : Nat :=
  system.counters.value (.written relationship)

end System

/-- How look-ups of targets end, with the descriptors that they dropped: all others have a target if
none of the look-ups fails. -/
inductive LookupsEnd (descriptors dropped : List Descriptor) (before : System) :
    EStateM.Result Failure System (List (Descriptor × String)) → Prop where
  | resolved {resolved : List (Descriptor × String)} {after : System}
      (counted : ∀ relationship, after.unresolved relationship =
        before.unresolved relationship + Descriptor.countOf relationship dropped)
      (parts : ∀ relationship, Descriptor.countOf relationship (resolved.map Prod.fst) +
        Descriptor.countOf relationship dropped = Descriptor.countOf relationship descriptors) :
      LookupsEnd descriptors dropped before (.ok resolved after)
  | failed {failure : Failure} {after : System}
      (counted : ∀ relationship, after.unresolved relationship =
        before.unresolved relationship + Descriptor.countOf relationship dropped) :
      LookupsEnd descriptors dropped before (.error failure after)

/-- A descriptor is dropped before the other look-ups. -/
theorem LookupsEnd.drop {descriptor : Descriptor} {rest gone : List Descriptor}
    {before middle : System} {result : EStateM.Result Failure System (List (Descriptor × String))}
    (ends : LookupsEnd rest gone middle result)
    (counts : ∀ relationship, middle.unresolved relationship = before.unresolved relationship +
      if relationship = descriptor.relationship then 1 else 0) :
    LookupsEnd (descriptor :: rest) (descriptor :: gone) before result := by
  have adds {last : System} (counted : ∀ relationship, last.unresolved relationship =
      middle.unresolved relationship + Descriptor.countOf relationship gone) (relationship) :
      last.unresolved relationship = before.unresolved relationship +
        Descriptor.countOf relationship (descriptor :: gone) := by
    rw [counted, counts, Descriptor.countOf_cons]
    omega
  cases ends with
  | resolved counted parts =>
      refine .resolved (adds counted) fun relationship => ?_
      rw [Descriptor.countOf_cons, Descriptor.countOf_cons, ← parts, Nat.add_assoc]
  | failed counted => exact .failed (adds counted)

namespace Action

/-- Look-ups of targets count what they drop. -/
theorem runScript_resolveTargets_ends (source : String) (descriptors : List Descriptor)
    (system : System) :
    LookupsEnd descriptors (dropped descriptors system) system
      (runScript (Script.resolveTargets source descriptors) system) := by
  induction descriptors generalizing system with
  | nil => exact .resolved (fun _ => rfl) fun _ => rfl
  | cons descriptor rest ih =>
      have looked (relationship : String) :
          (after (runScript (Script.resolveTarget? descriptor)) system).unresolved relationship =
            system.unresolved relationship :=
        (runScript_tallies (Script.counts_resolveTarget? (fun _ => False) descriptor) system).value
          id
      rw [Script.resolveTargets, runScript_bind, bind_run, dropped]
      cases ran : runScript (Script.resolveTarget? descriptor) system with
      | error failure middle =>
          rw [after_error ran] at looked
          exact .failed looked
      | ok target middle =>
          rw [after_ok ran] at looked
          cases target with
          | some id =>
              have others := ih middle
              simp only [runScript_bind, bind_run]
              generalize runScript (Script.resolveTargets source rest) middle = result at others ⊢
              cases others with
              | resolved counted parts =>
                  refine .resolved (fun relationship => by rw [counted, looked]) fun _ => ?_
                  rw [List.map_cons, Descriptor.countOf_cons, Descriptor.countOf_cons, ← parts]
                  exact Nat.add_right_comm ..
              | failed counted => exact .failed fun relationship => by rw [counted, looked]
          | none =>
              have same : dropped rest middle = dropped rest (after (runScript
                  (Script.reportUnresolved source descriptor)) middle) :=
                dropped_sameDatabase rest rfl
              simp only [same]
              refine (ih _).drop fun relationship => ?_
              refine (Counters.value_add ..).trans ?_
              simp only [Series.unresolved.injEq]
              exact congrArg (· + _) (looked relationship)

end Action

namespace Script

theorem ensures_createEdges_parts (mute : String → Prop) (source : String)
    (resolved : List (Descriptor × String)) (store : Store) :
    (createEdges source resolved).Ensures mute (fun edges _ => ∀ relationship,
      Edge.counted edges (.written relationship) =
        Descriptor.countOf relationship (resolved.map Prod.fst)) store := by
  induction resolved generalizing store with
  | nil => exact fun _ => rfl
  | cons entry rest ih =>
      refine (ensures_nothing mute (query _) store).bind fun rows after _ =>
        (ensures_nothing mute (firstGraphId? rows) after).bind fun id last _ =>
          (ih last).bind fun edges _ parts relationship => ?_
      rw [List.map_cons, Descriptor.countOf, Edge.counted, List.countP_cons, List.countP_cons]
      exact congrArg (· + _) (parts relationship)

/-- A look-up by uid leaves the store alone. -/
theorem evaluate_resolveUid_keeps {source id : String} {store last : Store}
    (evaluated : (resolveUid source).evaluate store = .ok id last) : last = store := by
  rw [resolveUid, evaluate_bind, evaluate_resolveUid?] at evaluated
  split at evaluated
  · rename_i found after looked
    split at looked
    · cases looked
    · cases looked
      cases first : (store.graph.nodesWithUid (.str source)).head?.map Prod.fst <;>
        rw [first] at evaluated <;> cases evaluated
      rfl
  · cases evaluated

end Script

namespace Action

/-- What a save of relationships does before the look-ups of its targets. -/
def openSource (source : String) : Action String :=
  attempt (Script.resolveUid source)

/-- The descriptors that a save of relationships drops, also where it fails later on. -/
def droppedBy (source : String) (descriptors : List Descriptor) (system : System) :
    List Descriptor :=
  match openSource source system with
  | .ok _ opened => dropped descriptors opened
  | .error _ _ => []

theorem openSource_tallies (source : String) :
    Advances (System.Tallies fun _ => False) (openSource source) := by
  have counts : (Script.resolveUid source).Counts fun _ => False :=
    (Script.counts_resolveUid? _ source).bind fun found => by cases found <;> trivial
  exact (openTransaction_tallies _).bind .trans fun _ => runScript_tallies counts

theorem attempt_saveRelationships (source : String) (descriptors : List Descriptor) :
    attempt (Script.saveRelationships source descriptors) =
      openSource source >>= fun id =>
        runScript (Script.resolveTargets source descriptors) >>= fun resolved =>
          runScript (Script.runAll [.deleteRelationships id] >>= fun _ =>
            Script.createEdges id resolved) := by
  simp only [attempt, openSource, Script.saveRelationships, runScript_bind, bind_assoc]

/-- What comes after the look-ups drops nothing: there is an edge for each target, with an id or
without. -/
theorem runScript_replace (id : String) (resolved : List (Descriptor × String)) (system : System)
    (relationship : String) :
    (after (runScript (Script.runAll [.deleteRelationships id] >>= fun _ =>
        Script.createEdges id resolved)) system).unresolved relationship =
      system.unresolved relationship ∧
    ∀ edges last, runScript (Script.runAll [.deleteRelationships id] >>= fun _ =>
        Script.createEdges id resolved) system = .ok edges last →
      Edge.counted edges (.written relationship) =
        Descriptor.countOf relationship (resolved.map Prod.fst) := by
  have counts : (Script.runAll [.deleteRelationships id] >>= fun _ =>
      Script.createEdges id resolved).Counts fun _ => False :=
    (Script.counts_runAll _ _).bind fun _ => Script.counts_createEdges _ id resolved
  have parts := (Script.ensures_nothing (fun _ => True) (Script.runAll [.deleteRelationships id])
    system.database.store).bind fun _ store _ =>
      Script.ensures_createEdges_parts _ id resolved store
  exact ⟨(runScript_tallies counts system).value not_false, fun edges last ran =>
    runScript_ensures parts (fun _ _ => trivial) ran relationship⟩

/-- A save of relationships has counted what it dropped when it comes to its end. -/
theorem attempt_saveRelationships_counts (source : String) (descriptors : List Descriptor)
    (system : System) (relationship : String) :
    (after (attempt (Script.saveRelationships source descriptors)) system).unresolved relationship =
      system.unresolved relationship +
        Descriptor.countOf relationship (droppedBy source descriptors system) ∧
    ∀ edges middle,
      attempt (Script.saveRelationships source descriptors) system = .ok edges middle →
      Edge.counted edges (.written relationship) +
          Descriptor.countOf relationship (droppedBy source descriptors system) =
        Descriptor.countOf relationship descriptors := by
  have opens : (after (openSource source) system).unresolved relationship =
      system.unresolved relationship := (openSource_tallies source system).value id
  rw [attempt_saveRelationships, after_bind, bind_run, droppedBy]
  cases opened : openSource source system with
  | error failure middle =>
      rw [after_error opened] at opens
      exact ⟨opens, fun edges middle ran => by cases ran⟩
  | ok id middle =>
      rw [after_ok opened] at opens
      have looks := runScript_resolveTargets_ends source descriptors middle
      simp only [after_bind, bind_run]
      cases looked : runScript (Script.resolveTargets source descriptors) middle with
      | error failure last =>
          rw [looked] at looks
          cases looks with
          | failed counted =>
              exact ⟨by rw [counted, opens], fun edges middle ran => by cases ran⟩
      | ok resolved last =>
          rw [looked] at looks
          obtain ⟨kept, edgeParts⟩ := runScript_replace id resolved last relationship
          cases looks with
          | resolved counted parts =>
              refine ⟨by simp only; rw [kept, counted, opens], fun edges written ran => ?_⟩
              rw [edgeParts edges written ran, parts]

end Action

/-- How a save of relationships ends, with the descriptors that it dropped. These are counted also
where it fails. -/
inductive ReplacementEnds (descriptors dropped : List Descriptor) (before : System) :
    EStateM.Result Failure System (List Edge) → Prop where
  | returned {edges : List Edge} {after : System}
      (unresolved : ∀ relationship, after.unresolved relationship =
        before.unresolved relationship + Descriptor.countOf relationship dropped)
      (written : ∀ relationship,
        after.written relationship + Descriptor.countOf relationship dropped =
          before.written relationship + Descriptor.countOf relationship descriptors) :
      ReplacementEnds descriptors dropped before (.ok edges after)
  | raised {failure : Failure} {after : System}
      (unresolved : ∀ relationship, after.unresolved relationship =
        before.unresolved relationship + Descriptor.countOf relationship dropped)
      (written : ∀ relationship, after.written relationship = before.written relationship) :
      ReplacementEnds descriptors dropped before (.error failure after)

namespace Action

theorem saveRelationships_counts (source : String) (descriptors : List Descriptor)
    (system : System) :
    ReplacementEnds descriptors (droppedBy source descriptors system) system
      (saveRelationships source descriptors system) := by
  have tallies := transaction_tallies (Script.counts_saveRelationships source descriptors) system
  have unwritten (relationship : String) :
      (after (transaction (Script.saveRelationships source descriptors)) system).written
        relationship = system.written relationship :=
    tallies.value (by simp [Series.IsUnresolved])
  obtain ⟨same, completes⟩ :=
    transaction_attempt (Script.saveRelationships source descriptors) system
  have counts := attempt_saveRelationships_counts source descriptors system
  have unresolved (relationship : String) :
      (after (transaction (Script.saveRelationships source descriptors)) system).unresolved
        relationship = _ :=
    (congrArg (Counters.value · (.unresolved relationship)) same).trans (counts relationship).1
  rw [saveRelationships, bind_run]
  cases ran : transaction (Script.saveRelationships source descriptors) system with
  | error failure middle =>
      rw [after_error ran] at unwritten unresolved
      exact .raised unresolved unwritten
  | ok edges middle =>
      rw [after_ok ran] at unwritten unresolved
      obtain ⟨attempted, completed⟩ := completes edges middle ran
      obtain ⟨last, reported, _, counted⟩ :=
        reportRelationships_ok source descriptors.length edges middle
      simp only [bind_run, reported]
      refine .returned (fun relationship => ?_) fun relationship => ?_
      · exact (counted (.unresolved relationship)).trans (unresolved relationship)
      · rw [System.written, counted, Nat.add_assoc, (counts relationship).2 _ _ completed]
        exact congrArg (· + _) (unwritten relationship)

/-- Where all faults raise, the descriptors that are dropped are those without a target among the
first ones. -/
theorem dropped_raising (descriptors : List Descriptor) {system : System}
    (raising : Raising system.database.faults) :
    ∃ reached, reached <+: descriptors ∧
      dropped descriptors system =
        reached.filter fun descriptor => (system.graph.resolve? descriptor).isNone := by
  induction descriptors generalizing system with
  | nil => exact ⟨[], List.prefix_rfl, rfl⟩
  | cons descriptor rest ih =>
      have ends := runScript_ends raising (Script.resolveTarget? descriptor)
      have precedes := runScript_precedes (Script.resolveTarget? descriptor) system
      rw [dropped]
      cases ran : runScript (Script.resolveTarget? descriptor) system with
      | error failure middle => exact ⟨[], List.nil_prefix, rfl⟩
      | ok target middle =>
          rw [ran] at ends
          rw [after_ok ran] at precedes
          cases ends with
          | completed evaluated =>
              rw [Script.evaluate_resolveTarget? (Script.resolveTarget?_answered evaluated)]
                at evaluated
              obtain ⟨reached, isPrefix, isDropped⟩ := ih (precedes.faults.raising raising)
              injection evaluated with resolves stays
              rw [System.graph, ← stays] at isDropped
              refine ⟨descriptor :: reached, List.prefix_cons_inj descriptor |>.mpr isPrefix, ?_⟩
              cases target with
              | some id => simp [System.graph, resolves, isDropped]
              | none => simp [System.graph, resolves, isDropped]

theorem droppedBy_raising (source : String) (descriptors : List Descriptor) {system : System}
    (raising : Raising system.database.faults) :
    ∃ reached, reached <+: descriptors ∧
      droppedBy source descriptors system =
        reached.filter fun descriptor => (system.graph.resolve? descriptor).isNone := by
  have opens := openTransaction_precedes system
  have stored := openTransaction_store system
  rw [droppedBy, openSource, attempt, bind_run]
  cases opening : openTransaction system with
  | error failure opened => exact ⟨[], List.nil_prefix, rfl⟩
  | ok answered opened =>
      rw [after_ok opening] at opens stored
      have raising := opens.faults.raising raising
      have ends := runScript_ends raising (Script.resolveUid source)
      have precedes := runScript_precedes (Script.resolveUid source) opened
      simp only
      cases ran : runScript (Script.resolveUid source) opened with
      | error failure middle => exact ⟨[], List.nil_prefix, rfl⟩
      | ok id middle =>
          rw [ran] at ends
          rw [after_ok ran] at precedes
          cases ends with
          | completed evaluated =>
              have same : middle.graph = system.graph := by
                rw [System.graph, System.graph, Script.evaluate_resolveUid_keeps evaluated, stored]
              rw [← same]
              exact dropped_raising descriptors (precedes.faults.raising raising)

end Action

end ClusterGraph
