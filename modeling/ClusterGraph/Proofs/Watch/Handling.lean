import ClusterGraph.Proofs.Sync.SyncEndings
import ClusterGraph.Watch.Event

namespace ClusterGraph

/-! The handling of an event does what the sync of its object does. It adds only what it logs, and
the fields that it binds while it runs are the journal's alone. -/

namespace Synchronizer

variable {same : System → System → Prop} (frame : System.Frame same) (synchronizer : Synchronizer)
  (tree : Json)

include frame

theorem respects_save (node : Node) : Action.Respects same (synchronizer.save node tree) :=
  (Action.respects_saveNode frame node).bind fun stored =>
    (Action.respects_saveRelationships frame stored.uid _).bind fun _ => Action.respects_pure _

theorem respects_sync : Action.Respects same (synchronizer.sync tree) := by
  have done (result : SyncResult) :
      Action.Respects same (do reportDone result; pure result : Action SyncResult) :=
    (Action.Respects.bind
      (fun _ _ alike => .ok (frame.counters
        (fun counters => { counters with timedSyncs := counters.timedSyncs + 1 }) alike))
      fun _ => (Action.respects_count frame _ _).bind fun _ =>
        Action.respects_log frame _ _ _ _).bind fun _ => Action.respects_pure _
  have failed (node : Node) (failure : GraphFailure) : Action.Respects same
      (do reportFailed node failure; throw (.graph failure) : Action SyncResult) :=
    ((Action.respects_count frame _ _).bind fun _ => Action.respects_log frame _ _ _ _).bind
      fun _ => Action.respects_throw _
  cases known : (synchronizer.projector.project tree).uid.isEmpty with
  | true =>
      cases told : (synchronizer.projector.project tree).textFault? with
      | some fault =>
          rw [sync_textless told]
          exact Action.respects_throw _
      | none =>
          rw [sync_unknown told known]
          exact ((Action.respects_count frame _ _).bind fun _ =>
            Action.respects_log frame _ _ _ _).bind fun _ => Action.respects_pure _
  | false =>
      rw [sync_known known]
      intro left right alike
      have saves := synchronizer.respects_save frame tree
        (synchronizer.projector.project tree) left right alike
      simp only
      generalize synchronizer.save _ tree left = leftEnd at saves ⊢
      generalize synchronizer.save _ tree right = rightEnd at saves ⊢
      cases saves with
      | @ok result _ _ next => exact done result _ _ next
      | @error failure _ _ next =>
          cases failure with
          | graph failure => exact failed _ failure _ _ next
          | settings | positionTooLong | foreign | shape | dateOutOfRange | expired | stream
          | startup => exact .error next

end Synchronizer

variable {α : Type}

theorem Synchronizer.respects_handler {same : System → System → Prop}
    (frame : System.Frame same) (synchronizer : Synchronizer) (tree : Json) :
    Action.Respects same (synchronizer.handler tree) :=
  (synchronizer.respects_sync frame tree).bind fun _ => Action.respects_pure _

/-- Fields that are bound to an action are seen by the journal alone. -/
theorem Action.withContext_work {action : Action α} (respects : Respects System.SameWork action)
    (fields : Entries Json) (system : System) :
    SameEnd System.SameWork (withContext fields action system) (action system) := by
  have ends := respects { system with
    journal := { system.journal with context := system.journal.context.insertAll fields } }
    system ⟨rfl, rfl, rfl⟩
  simp only [withContext]
  generalize action { system with
    journal := { system.journal with context := system.journal.context.insertAll fields } } =
      result at ends ⊢
  generalize action system = plain at ends ⊢
  cases ends with
  | ok alike => exact .ok alike
  | error alike => exact .error alike

namespace Watch

variable {watch : Watch} {event : WatchEvent}

theorem respects_conclude {same : System → System → Prop} (frame : System.Frame same)
    (watch : Watch) (outcome : Option Failure) : Action.Respects same (watch.conclude outcome) := by
  unfold conclude
  split
  · exact Action.respects_pure _
  · exact Action.respects_log frame _ _ _ _
  · exact Action.respects_log frame _ _ _ _
  · exact Action.respects_throw _

theorem after_conclude (watch : Watch) (outcome : Option Failure) (system : System) :
    (Action.after (watch.conclude outcome) system).SameWork system := by
  unfold conclude
  split <;> exact ⟨rfl, rfl, rfl⟩

theorem attempt_inTime (time : watch.hasTime = true) (handler : Handler) :
    watch.attempt handler event = fun system =>
      match handler (watch.objectOf event) system with
      | .ok _ after => .ok none after
      | .error failure after => .ok (some failure) after := by
  unfold hasTime at time
  unfold attempt
  cases read : Deadline.ofJson watch.deadline with
  | error shape => simp [read] at time
  | ok limit =>
      match limit with
      | .over => simp [read] at time
      | .unlimited | .momentary | .lasting => rfl

theorem attempt_late (late : watch.hasTime = false) (event : WatchEvent) :
    ∃ failure, ∀ handler : Handler, watch.attempt handler event = pure (some failure) := by
  unfold hasTime at late
  unfold attempt
  cases read : Deadline.ofJson watch.deadline with
  | error shape => exact ⟨_, fun _ => rfl⟩
  | ok limit =>
      match limit with
      | .over => exact ⟨_, fun _ => rfl⟩
      | .unlimited | .momentary | .lasting => simp [read] at late

/-- Calls a handler on an object and concludes as the call ends. -/
def handOn (watch : Watch) (handler : Handler) (tree : Json) : Action Unit := fun system =>
  match handler tree system with
  | .ok _ after => .ok () after
  | .error failure after => watch.conclude (some failure) after

theorem respects_handOn {handler : Handler} {same : System → System → Prop}
    (frame : System.Frame same) (respects : ∀ tree, Action.Respects same (handler tree))
    (watch : Watch) (tree : Json) : Action.Respects same (watch.handOn handler tree) := by
  intro left right alike
  have ends := respects tree left right alike
  simp only [handOn]
  generalize handler tree left = leftEnd at ends ⊢
  generalize handler tree right = rightEnd at ends ⊢
  cases ends with
  | ok next => exact .ok next
  | @error failure _ _ next => exact watch.respects_conclude frame (some failure) _ _ next

theorem after_handOn (watch : Watch) (handler : Handler) (tree : Json) (system : System) :
    (Action.after (watch.handOn handler tree) system).SameWork
      (Action.after (handler tree) system) := by
  simp only [Action.after, handOn]
  cases handler tree system with
  | ok _ after => exact ⟨rfl, rfl, rfl⟩
  | error failure after => exact watch.after_conclude (some failure) after

theorem handle_object (object : event.hasObject = true) (handler : Handler) :
    watch.handle handler event =
      Action.withContext (watch.contextOf event) (watch.deliver handler event) := by
  have type : event.type = "ADDED" ∨ event.type = "MODIFIED" := by
    simpa [WatchEvent.hasObject] using object
  unfold handle
  rcases type with type | type <;> simp [type, object]

/-- The object of an event that hands one on is what the handler is called on, whichever handler
that is. It is called once. -/
theorem handle_delivered {tree : Json} (delivered : watch.delivery? event = some tree)
    (handler : Handler) : watch.handle handler event =
      Action.withContext (watch.contextOf event) (watch.handOn handler tree) := by
  unfold delivery? at delivered
  split at delivered
  · rename_i handed
    rw [Bool.and_eq_true] at handed
    cases delivered
    rw [handle_object handed.1]
    congr 1
    funext system
    simp only [deliver, bind, EStateM.bind, attempt_inTime handed.2, handOn]
    cases handler (watch.objectOf event) system <;> rfl
  · cases delivered

/-- An event that hands nothing on is handled without the handler. -/
theorem handle_undelivered (undelivered : watch.delivery? event = none) (handler other : Handler) :
    watch.handle handler event = watch.handle other event := by
  cases object : event.hasObject with
  | false =>
      unfold handle
      simp only [object, Bool.false_eq_true, if_false]
  | true =>
      have late : watch.hasTime = false := by simpa [delivery?, object] using undelivered
      obtain ⟨failure, attempted⟩ := attempt_late late event
      simp only [handle_object object, deliver, attempted]

theorem after_handle_undelivered (undelivered : watch.delivery? event = none) (handler : Handler)
    (system : System) : (Action.after (watch.handle handler event) system).SameWork system := by
  cases object : event.hasObject with
  | false =>
      unfold handle
      simp only [object]
      split
      · exact ⟨rfl, rfl, rfl⟩
      · split <;> exact ⟨rfl, rfl, rfl⟩
  | true =>
      have late : watch.hasTime = false := by simpa [delivery?, object] using undelivered
      obtain ⟨failure, attempted⟩ := attempt_late late event
      have concludes : Action.Respects System.SameWork (watch.conclude (some failure)) :=
        watch.respects_conclude System.sameWork_frame _
      have delivers : watch.deliver handler event = watch.conclude (some failure) := by
        rw [deliver, attempted]
        rfl
      rw [handle_object object, delivers]
      exact (Action.after_alike (Action.withContext_work concludes _ system)).trans
        (watch.after_conclude _ system)

theorem after_handler (synchronizer : Synchronizer) (tree : Json) (system : System) :
    Action.after (synchronizer.handler tree) system =
      Action.after (synchronizer.sync tree) system := by
  simp only [Action.after, Synchronizer.handler, bind, EStateM.bind]
  cases synchronizer.sync tree system <;> rfl

/-- Handling an event does what the sync of its object does, or nothing if it hands none on. -/
theorem after_handle_work (watch : Watch) (synchronizer : Synchronizer) (event : WatchEvent)
    (system : System) :
    (Action.after (watch.handle synchronizer.handler event) system).SameWork
      (match watch.delivery? event with
        | some tree => Action.after (synchronizer.sync tree) system
        | none => system) := by
  cases delivered : watch.delivery? event with
  | none => exact after_handle_undelivered delivered _ system
  | some tree =>
      have hands : Action.Respects System.SameWork
          (watch.handOn synchronizer.handler tree) :=
        respects_handOn System.sameWork_frame
          (synchronizer.respects_handler System.sameWork_frame) watch tree
      have ends :=
        Action.after_alike (Action.withContext_work hands (watch.contextOf event) system)
      rw [handle_delivered delivered]
      refine (ends.trans (watch.after_handOn _ tree system)).trans ?_
      rw [after_handler]
      exact ⟨rfl, rfl, rfl⟩

end Watch

end ClusterGraph
