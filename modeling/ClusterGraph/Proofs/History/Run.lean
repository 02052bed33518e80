import ClusterGraph.Proofs.Watch.Handling

namespace ClusterGraph

/-! Runs of the program and the saves that they commit. A save commits in one piece or not at all,
and nothing but a commit changes the graph. -/

/-- A save: of a node, or of all relationships that start at one. -/
inductive Save where
  | upsert (node : Node)
  | replace (source : String) (descriptors : List Descriptor)

namespace Save

def action : Save → Action Unit
  | .upsert node => do
      let _ ← Action.saveNode node
  | .replace source descriptors => do
      let _ ← Action.saveRelationships source descriptors

/-- What a save makes of a store without faults, and nothing if it fails there. -/
def effect? : Save → Store → Option Store
  | .upsert node, store =>
      match node.properties with
      | .error _ => none
      | .ok properties =>
          match (Script.saveNode node properties).evaluate store with
          | .ok _ store => some store
          | .error _ _ => none
  | .replace source descriptors, store =>
      match (Script.saveRelationships source descriptors).evaluate store with
      | .ok _ store => some store
      | .error _ _ => none

theorem respects_action {same : System → System → Prop} (frame : System.Frame same) (save : Save) :
    Action.Respects same save.action := by
  cases save with
  | upsert node =>
      exact (Action.respects_saveNode frame node).bind fun _ => Action.respects_pure _
  | replace source descriptors =>
      exact (Action.respects_saveRelationships frame source descriptors).bind fun _ =>
        Action.respects_pure _

theorem action_precedes (save : Save) : Action.Advances System.Precedes save.action := by
  cases save with
  | upsert node =>
      exact (Action.saveNode_precedes node).bind .trans fun _ => Action.advances_pure .refl _
  | replace source descriptors =>
      exact (Action.saveRelationships_precedes source descriptors).bind .trans fun _ =>
        Action.advances_pure .refl _

/-- A save commits what it does to a store without faults, or it leaves the graph as it was. -/
theorem action_ends (save : Save) {system : System} (raising : Raising system.database.faults) :
    (∃ after, save.action system = .ok () after ∧
      save.effect? system.database.store = some after.database.store) ∨
    ∃ failure after, save.action system = .error failure after ∧ after.graph = system.graph := by
  cases save with
  | upsert node =>
      have ends := Action.saveNode_ends raising node
      simp only [action, bind, EStateM.bind]
      generalize Action.saveNode node system = result at ends ⊢
      cases ends with
      | committed written evaluated _ =>
          exact .inl ⟨_, rfl, by simp only [effect?, written, evaluated]⟩
      | unwritable => exact .inr ⟨_, _, rfl, rfl⟩
      | failed _ _ restored | disturbed _ restored => exact .inr ⟨_, _, rfl, restored⟩
  | replace source descriptors =>
      have ends := Action.saveRelationships_ends raising source descriptors
      simp only [action, bind, EStateM.bind]
      generalize Action.saveRelationships source descriptors system = result at ends ⊢
      cases ends with
      | committed evaluated _ => exact .inl ⟨_, rfl, by simp only [effect?, evaluated]⟩
      | failed _ restored | disturbed _ restored => exact .inr ⟨_, _, rfl, restored⟩

end Save

/-- A save that was committed, with the graph that it left. -/
structure Commit where
  save : Save
  graph : Graph

/-- Commits saves in order up to the first that fails, newest first, and the system after them. -/
def commitAll : List Save → System → List Commit × System
  | [], system => ([], system)
  | save :: rest, system =>
      match save.action system with
      | .ok _ system =>
          let (later, last) := commitAll rest system
          (later ++ [⟨save, system.graph⟩], last)
      | .error _ system => ([], system)

theorem commitAll_sameDatabase (saves : List Save) {left right : System}
    (same : left.database = right.database) :
    (commitAll saves left).1 = (commitAll saves right).1 ∧
      (commitAll saves left).2.database = (commitAll saves right).2.database := by
  induction saves generalizing left right with
  | nil => exact ⟨rfl, same⟩
  | cons save rest ih =>
      have ends := save.respects_action System.sameDatabase_frame left right same
      simp only [commitAll]
      generalize save.action left = leftEnd at ends ⊢
      generalize save.action right = rightEnd at ends ⊢
      cases ends with
      | error next => exact ⟨rfl, next⟩
      | ok next =>
          have shared := System.sameDatabase_frame.database next
          obtain ⟨later, last⟩ := ih shared
          exact ⟨by simp only [later, System.graph, shared], last⟩

/-- What may happen next in a run. -/
inductive Step where
  | save (save : Save)
  | sync (synchronizer : Synchronizer) (tree : Json)
  | event (synchronizer : Synchronizer) (watch : Watch) (event : WatchEvent)
  /-- From now on the database shows these faults. -/
  | faults (faults : List Fault)

namespace Step

def run : Step → System → System
  | .save wanted, system => Action.after wanted.action system
  | .sync synchronizer tree, system => Action.after (synchronizer.sync tree) system
  | .event synchronizer watch received, system =>
      Action.after (watch.handle synchronizer.handler received) system
  | .faults planned, system =>
      { system with database := { system.database with faults := planned } }

/-- All faults that the step brings raise. -/
def Raising : Step → Prop
  | .faults planned => ClusterGraph.Raising planned
  | _ => True

/-- The saves of an object: its node, and then its relationships. -/
def savesOf (synchronizer : Synchronizer) (tree : Json) : List Save :=
  let node := synchronizer.projector.project tree
  if node.uid.isEmpty then []
  else [.upsert node, .replace node.uid (synchronizer.rules.derive tree)]

/-- The saves that a step makes unless one of them fails. -/
def saves : Step → List Save
  | .save wanted => [wanted]
  | .sync synchronizer tree => savesOf synchronizer tree
  | .event synchronizer watch received =>
      match watch.delivery? received with
      | some tree => savesOf synchronizer tree
      | none => []
  | .faults _ => []

/-- The saves that a step commits, newest first. -/
def commits (step : Step) (system : System) : List Commit :=
  (commitAll step.saves system).1

end Step

/-- The system after some steps. -/
def run : List Step → System → System
  | [], system => system
  | step :: rest, system => run rest (step.run system)

/-- All that was committed in a run, newest first. -/
def history : List Step → System → List Commit
  | [], _ => []
  | step :: rest, system => history rest (step.run system) ++ step.commits system

/-- All saves that were committed in a run, newest first. -/
def committedSaves (steps : List Step) (system : System) : List Save :=
  (history steps system).map Commit.save

namespace Synchronizer

/-- A sync does what its saves do; the rest is counted and logged. -/
theorem reports_sync (synchronizer : Synchronizer) (tree : Json) (system : System) :
    (commitAll (Step.savesOf synchronizer tree) system).2.Reports
      (Action.after (synchronizer.sync tree) system) := by
  unfold Step.savesOf
  cases known : (synchronizer.projector.project tree).uid.isEmpty with
  | true =>
      simp only [known, if_true, commitAll]
      exact sync_skipped known system
  | false =>
      have reported := sync_reported known system
      simp only [known, Bool.false_eq_true, if_false, commitAll]
      simp only [save, Save.action, Action.after, bind, EStateM.bind] at reported ⊢
      generalize synchronizer.sync tree system = result at reported ⊢
      cases ran : Action.saveNode (synchronizer.projector.project tree) system with
      | error failure middle =>
          simp only [ran] at reported ⊢
          cases reported with
          | error reports => exact reports
      | ok stored middle =>
          simp only [ran, Action.saveNode_uid ran] at reported ⊢
          simp only [pure, EStateM.pure] at reported ⊢
          cases related : Action.saveRelationships (synchronizer.projector.project tree).uid
              (synchronizer.rules.derive tree) middle with
          | error failure last =>
              simp only [related] at reported ⊢
              cases reported with
              | error reports => exact reports
          | ok edges last =>
              simp only [related] at reported ⊢
              cases reported with
              | ok reports => exact reports

theorem after_sync (synchronizer : Synchronizer) (tree : Json) (system : System) :
    (Action.after (synchronizer.sync tree) system).database =
      (commitAll (Step.savesOf synchronizer tree) system).2.database :=
  (synchronizer.reports_sync tree system).database

end Synchronizer

namespace Watch

/-- The handling of an event leaves the database as the saves of the object do that it hands on. -/
theorem after_handle (watch : Watch) (synchronizer : Synchronizer) (event : WatchEvent)
    (system : System) :
    (Action.after (watch.handle synchronizer.handler event) system).database =
      (commitAll (Step.event synchronizer watch event).saves system).2.database := by
  have handled := (watch.after_handle_work synchronizer event system).1
  cases delivered : watch.delivery? event with
  | none =>
      have nothing : (Step.event synchronizer watch event).saves = [] := by
        simp only [Step.saves, delivered]
      rw [nothing]
      simpa only [delivered, commitAll] using handled
  | some tree =>
      have saved : (Step.event synchronizer watch event).saves =
          Step.savesOf synchronizer tree := by
        simp only [Step.saves, delivered]
      rw [saved, ← synchronizer.after_sync]
      simpa only [delivered, commitAll] using handled

end Watch

/-- A step leaves the store as its saves do. -/
theorem Step.run_store (step : Step) (system : System) :
    (step.run system).database.store = (commitAll step.saves system).2.database.store := by
  cases step with
  | save wanted =>
      simp only [run, saves, commitAll, Action.after]
      cases wanted.action system <;> rfl
  | sync synchronizer tree => exact congrArg Database.store (synchronizer.after_sync tree system)
  | event synchronizer watch received =>
      exact congrArg Database.store (watch.after_handle synchronizer received system)
  | faults planned => rfl

/-- A step counts what its saves count, but for the syncs themselves. -/
theorem Step.run_value (step : Step) (system : System) {series : Series}
    (other : ¬ series.IsSynced) :
    (step.run system).counters.value series =
      (commitAll step.saves system).2.counters.value series := by
  have synced (synchronizer : Synchronizer) (tree : Json) :
      (Action.after (synchronizer.sync tree) system).counters.value series =
        (commitAll (savesOf synchronizer tree) system).2.counters.value series :=
    (synchronizer.reports_sync tree system).values series other
  cases step with
  | save wanted =>
      simp only [run, saves, commitAll, Action.after]
      cases wanted.action system <;> rfl
  | sync synchronizer tree => exact synced synchronizer tree
  | event synchronizer watch received =>
      have handled := (watch.after_handle_work synchronizer received system).2.2
      simp only [run, saves]
      cases delivered : watch.delivery? received with
      | none =>
          rw [delivered] at handled
          exact congrArg (Counters.value · series) handled
      | some tree =>
          rw [delivered] at handled
          exact (congrArg (Counters.value · series) handled).trans (synced synchronizer tree)
  | faults planned => rfl

/-- A pod that is saved with one label after the other while the second commit is lost. -/
def interruptedRun : List Step :=
  let pod (value : String) : Node :=
    { uid := "pod", kind := "Pod", name := "web", labels := [⟨"app", value⟩]
      stamp := .time .epoch }
  [.save (.upsert (pod "a")), .save (.upsert (pod "b")),
   .save (.replace "pod" [{ relationship := "OWNS", targetUid := "pod" }]),
   .save (.upsert (pod "c"))]

def interruptedSystem : System :=
  { database := { faults := [{ site := .commit, kind := .driver, skip := 1 }] }
    journal := { threshold := 50 } }

theorem interruptedSystem_raising : Raising interruptedSystem.database.faults := by
  simp [interruptedSystem, Raising]

theorem interruptedRun_raising : ∀ step ∈ interruptedRun, step.Raising := by
  simp [interruptedRun, Step.Raising]

end ClusterGraph
