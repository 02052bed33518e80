import ClusterGraph.Proofs.History.Run
import ClusterGraph.Proofs.Store.SampleTotals

namespace ClusterGraph

/-! The samples of syncs against the syncs that have ended. A sync is counted once unless it fails
by what is no failure of the graph, such as a fault of the operating system: such an end is passed
on before it is counted. -/

variable {α : Type}

/-- How an action ends. -/
def Action.ending (action : Action α) (system : System) : Except Failure α :=
  match action system with
  | .ok value _ => .ok value
  | .error failure _ => .error failure

/-- How the sync of an object ended. -/
abbrev SyncEnding := Except Failure SyncResult

namespace SyncEnding

/-- The object has a uid and was saved. -/
def isDone : SyncEnding → Bool
  | .ok result => !result.node.uid.isEmpty
  | .error _ => false

/-- The sync failed by what is no failure of the graph. -/
def isStray : SyncEnding → Bool
  | .ok _ | .error (.graph _) => false
  | .error _ => true

theorem isStray_iff {ending : SyncEnding} :
    isStray ending = true ↔
      ∃ failure, ending = .error failure ∧ ∀ refusal, failure ≠ .graph refusal := by
  cases ending with
  | ok result => simp [isStray]
  | error failure => cases failure <;> simp [isStray]

theorem isDone_of_isStray {ending : SyncEnding} (stray : isStray ending = true) :
    isDone ending = false := by
  cases ending with
  | ok result => simp [isStray] at stray
  | error failure => rfl

theorem not_isStray_of_isDone {ending : SyncEnding} (done : isDone ending = true) :
    isStray ending = false := by
  cases ending with
  | ok result => rfl
  | error failure => simp [isDone] at done

end SyncEnding

namespace Counters

/-- The samples of objects handled. -/
def ofSyncs (name : String) (_labels : List String) : Bool :=
  name == "kubegraph_sync_total"

/-- The samples of objects handled well. -/
def ofDone (name : String) (labels : List String) : Bool :=
  name == "kubegraph_sync_total" && labels[1]? == some "ok"

/-- The sample of the times taken. -/
def ofTimes (name : String) (_labels : List String) : Bool :=
  name == timing

theorem chooses_other {series : Series} (other : ¬ series.IsSynced) :
    chooses ofSyncs series = false ∧ chooses ofDone series = false := by
  cases series with
  | synced kind outcome => exact absurd ⟨kind, outcome, rfl⟩ other
  | upserted | labelMutations | written | unresolved | restarts =>
      simp [chooses, ofSyncs, ofDone, Series.name]

theorem chooses_ofTimes (series : Series) : chooses ofTimes series = false := by
  cases series <;> simp [chooses, ofTimes, timing, Series.name]

theorem total_ofTimes (counters : Counters) : counters.total ofTimes = counters.timedSyncs := by
  have nothing : counters.counts.filter (fun entry => chooses ofTimes entry.1) = [] :=
    List.filter_eq_nil_iff.mpr fun entry _ => by simp [chooses_ofTimes]
  rw [total_eq, sumOf, nothing]
  simp [ofTimes]

/-- Counters before and after some syncs have ended. -/
structure Accounts (before after : Counters) (endings : List SyncEnding) : Prop where
  distinct : after.Distinct
  synced : after.total ofSyncs + endings.countP SyncEnding.isStray =
    before.total ofSyncs + endings.length
  done : after.total ofDone = before.total ofDone + endings.countP SyncEnding.isDone
  timed : after.timedSyncs = before.timedSyncs + endings.countP SyncEnding.isDone

namespace Accounts

variable {before middle after : Counters} {endings others : List SyncEnding} {ending : SyncEnding}
  {kind outcome : String}

theorem trans (first : before.Accounts middle endings) (second : middle.Accounts after others) :
    before.Accounts after (endings ++ others) where
  distinct := second.distinct
  synced := by
    have firstSynced := first.synced
    have secondSynced := second.synced
    rw [List.countP_append, List.length_append]
    omega
  done := by rw [second.done, first.done, List.countP_append, Nat.add_assoc]
  timed := by rw [second.timed, first.timed, List.countP_append, Nat.add_assoc]

/-- No sync has ended where only other series were counted. -/
theorem of_grow (distinct : before.Distinct)
    (grows : before.Grow (fun series => ¬ series.IsSynced) after) : before.Accounts after [] where
  distinct := grows.distinct distinct
  synced := grows.total distinct fun _ other => (chooses_other other).1
  done := grows.total distinct fun _ other => (chooses_other other).2
  timed := grows.timedSyncs

theorem of_stray (distinct : before.Distinct) (stray : ending.isStray = true) :
    before.Accounts before [ending] where
  distinct := distinct
  synced := by simp [stray]
  done := by simp [SyncEnding.isDone_of_isStray stray]
  timed := by simp [SyncEnding.isDone_of_isStray stray]

theorem of_undone (distinct : before.Distinct) (notOk : outcome ≠ "ok")
    (counted : ending.isStray = false) (undone : ending.isDone = false) :
    before.Accounts (before.add (.synced kind outcome) 1) [ending] where
  distinct := distinct.add _ _
  synced := by
    rw [total_add distinct]
    simp [chooses, ofSyncs, Series.name, counted]
  done := by
    rw [total_add distinct]
    simp [chooses, ofDone, Series.labels, notOk, undone]
  timed := by simp [add_timedSyncs, undone]

theorem of_done (distinct : before.Distinct) (isDone : ending.isDone = true) :
    before.Accounts
      (({ before with timedSyncs := before.timedSyncs + 1 } : Counters).add (.synced kind "ok") 1)
      [ending] := by
  have timedDistinct :
      ({ before with timedSyncs := before.timedSyncs + 1 } : Counters).Distinct := distinct
  constructor
  · exact timedDistinct.add _ _
  · rw [total_add timedDistinct, total_timed _ _ (by decide)]
    simp [chooses, ofSyncs, Series.name, SyncEnding.not_isStray_of_isDone isDone]
  · rw [total_add timedDistinct, total_timed _ _ (by decide)]
    simp [chooses, ofDone, Series.name, Series.labels, isDone]
  · simp [add_timedSyncs, isDone]

end Accounts

end Counters

/-- The series of relationships. -/
def Series.IsOfEdge : Series → Prop
  | .written _ | .unresolved _ => True
  | _ => False

namespace Action

theorem saveNode_tallies (node : Node) :
    Advances (System.Tallies fun series => ¬ series.IsSynced) (saveNode node) := fun system =>
  (saveNode_tallies_nodes node system).mono fun series isOfNode isSynced => by
    obtain ⟨kind, outcome, rfl⟩ := isSynced
    exact isOfNode

/-- A replacement of relationships counts relationships and nothing else. -/
theorem saveRelationships_tallies_edges (source : String) (descriptors : List Descriptor) :
    Advances (System.Tallies Series.IsOfEdge) (saveRelationships source descriptors) := by
  have counts (edges : List Edge) : Advances (System.Tallies Series.IsOfEdge)
      (edges.forM fun edge => count (.written edge.relationship) 1) := by
    induction edges with
    | nil => exact advances_pure .refl ()
    | cons edge rest ih => exact (count_tallies trivial 1).bind .trans fun _ => ih
  have runs : Advances (System.Tallies Series.IsOfEdge)
      (transaction (Script.saveRelationships source descriptors)) := fun system =>
    (transaction_tallies (Script.counts_saveRelationships source descriptors) system).mono
      fun series isUnresolved => by
        obtain ⟨relationship, rfl⟩ := isUnresolved
        trivial
  exact runs.bind .trans fun edges =>
    ((counts edges).bind .trans fun _ _ => .of_counters rfl).bind .trans fun _ =>
      advances_pure .refl edges

theorem saveRelationships_tallies (source : String) (descriptors : List Descriptor) :
    Advances (System.Tallies fun series => ¬ series.IsSynced)
      (saveRelationships source descriptors) := fun system =>
  (saveRelationships_tallies_edges source descriptors system).mono fun series isOfEdge isSynced => by
    obtain ⟨kind, outcome, rfl⟩ := isSynced
    exact isOfEdge

end Action

namespace Synchronizer

variable (synchronizer : Synchronizer) (tree : Json)

theorem save_tallies (node : Node) :
    Action.Advances (System.Tallies fun series => ¬ series.IsSynced)
      (synchronizer.save node tree) :=
  (Action.saveNode_tallies node).bind .trans fun _ =>
    (Action.saveRelationships_tallies _ _).bind .trans fun _ => Action.advances_pure .refl _

variable {synchronizer tree}

theorem save_uid {node : Node} {result : SyncResult} {system saved : System}
    (ran : synchronizer.save node tree system = .ok result saved) :
    result.node.uid = node.uid := by
  simp only [save, bind, EStateM.bind] at ran
  cases nodeRan : Action.saveNode node system with
  | error failure middle => simp [nodeRan] at ran
  | ok stored middle =>
      simp only [nodeRan] at ran
      cases related : Action.saveRelationships stored.uid (synchronizer.rules.derive tree)
          middle with
      | error failure last => simp [related] at ran
      | ok edges last =>
          simp only [related] at ran
          cases ran
          exact Action.saveNode_uid nodeRan

/-- A sync accounts for itself, whatever the database does. -/
theorem sync_accounts {system : System} (distinct : system.counters.Distinct) :
    system.counters.Accounts (Action.after (synchronizer.sync tree) system).counters
      [Action.ending (synchronizer.sync tree) system] := by
  cases known : (synchronizer.projector.project tree).uid.isEmpty with
  | true =>
      cases told : (synchronizer.projector.project tree).textFault? with
      | some fault =>
          rw [sync_textless told]
          exact .of_stray distinct rfl
      | none =>
          have undone : SyncEnding.isDone
              (.ok { node := synchronizer.projector.project tree, graphId := "" }) = false := by
            simp [SyncEnding.isDone, known]
          rw [sync_unknown told known]
          exact .of_undone distinct (by decide) rfl undone
  | false =>
      have tallies := synchronizer.save_tallies tree (synchronizer.projector.project tree) system
      simp only [Action.after, Action.ending, sync_known known] at tallies ⊢
      cases saved : synchronizer.save (synchronizer.projector.project tree) tree system with
      | ok result middle =>
          rw [saved] at tallies
          have done : SyncEnding.isDone (.ok result) = true := by
            simp [SyncEnding.isDone, save_uid saved, known]
          refine (Counters.Accounts.of_grow distinct tallies).trans ?_
          exact .of_done (tallies.distinct distinct) done
      | error failure middle =>
          rw [saved] at tallies
          refine (Counters.Accounts.of_grow distinct tallies).trans ?_
          cases failure with
          | graph refusal =>
              exact .of_undone (tallies.distinct distinct) (by decide) rfl rfl
          | settings | positionTooLong | foreign | shape | dateOutOfRange | expired | stream
          | startup => exact .of_stray (tallies.distinct distinct) rfl

end Synchronizer

theorem Save.action_tallies (save : Save) :
    Action.Advances (System.Tallies fun series => ¬ series.IsSynced) save.action := by
  cases save with
  | upsert node =>
      exact (Action.saveNode_tallies node).bind .trans fun _ => Action.advances_pure .refl _
  | replace source descriptors =>
      exact (Action.saveRelationships_tallies source descriptors).bind .trans fun _ =>
        Action.advances_pure .refl _

namespace Step

/-- The objects that a step syncs: one, or none. -/
def objects : Step → List (Synchronizer × Json)
  | .sync synchronizer tree => [(synchronizer, tree)]
  | .event synchronizer watch received =>
      (watch.delivery? received).toList.map fun tree => (synchronizer, tree)
  | .save _ | .faults _ => []

/-- How the syncs of a step end. -/
def endings (step : Step) (system : System) : List SyncEnding :=
  step.objects.map fun object => Action.ending (object.1.sync object.2) system

theorem accounts (step : Step) {system : System} (distinct : system.counters.Distinct) :
    system.counters.Accounts (step.run system).counters (step.endings system) := by
  cases step with
  | save wanted => exact .of_grow distinct (wanted.action_tallies system)
  | sync synchronizer tree => exact synchronizer.sync_accounts distinct
  | event synchronizer watch received =>
      have handled := (watch.after_handle_work synchronizer received system).2.2
      simp only [run, endings, objects]
      rw [handled]
      cases watch.delivery? received with
      | none => exact .of_grow distinct .refl
      | some tree => exact synchronizer.sync_accounts distinct
  | faults planned => exact .of_grow distinct .refl

end Step

/-- How the syncs of a run ended, oldest first. -/
def syncEndings : List Step → System → List SyncEnding
  | [], _ => []
  | step :: rest, system => step.endings system ++ syncEndings rest (step.run system)

theorem run_accounts (steps : List Step) {start : System} (distinct : start.counters.Distinct) :
    start.counters.Accounts (run steps start).counters (syncEndings steps start) := by
  induction steps generalizing start with
  | nil => exact .of_grow distinct .refl
  | cons step rest ih =>
      have first := step.accounts distinct
      exact first.trans (ih first.distinct)

theorem length_syncEndings (steps : List Step) (start : System) :
    (syncEndings steps start).length = (steps.flatMap Step.objects).length := by
  induction steps generalizing start with
  | nil => rfl
  | cons step rest ih =>
      rw [syncEndings, List.length_append, ih, List.flatMap_cons, List.length_append,
        Step.endings, List.length_map]

/-- In every run, whatever faults come up, each object that is synced has one end, and each end is
counted once except those by what is no failure of the graph: the samples of syncs add up to the
number of ends exactly if there is none of these. Times are taken of the syncs that end well and of
no others. -/
theorem run_syncs_counted {steps : List Step} {start : System} (uncounted : start.counters = {}) :
    (syncEndings steps start).length = (steps.flatMap Step.objects).length ∧
    (run steps start).counters.total Counters.ofSyncs +
        (syncEndings steps start).countP SyncEnding.isStray =
      (syncEndings steps start).length ∧
    ((run steps start).counters.total Counters.ofSyncs = (syncEndings steps start).length ↔
      ∀ failure, .error failure ∈ syncEndings steps start →
        ∃ refusal, failure = .graph refusal) ∧
    (run steps start).counters.total Counters.ofDone =
      (syncEndings steps start).countP SyncEnding.isDone ∧
    (run steps start).counters.total Counters.ofTimes =
      (run steps start).counters.total Counters.ofDone := by
  have distinct : start.counters.Distinct := by simp [uncounted, Counters.Distinct]
  have accounts := run_accounts steps distinct
  have nothing (chosen : String → List String → Bool) :
      start.counters.total chosen = 0 := by
    simp [uncounted, Counters.total_eq, Counters.sumOf]
  have synced := accounts.synced
  have done := accounts.done
  have timed := accounts.timed
  rw [nothing, Nat.zero_add] at synced done
  refine ⟨length_syncEndings steps start, synced, ?_, done, ?_⟩
  · have noStray : (syncEndings steps start).countP SyncEnding.isStray = 0 ↔
        ∀ failure, .error failure ∈ syncEndings steps start →
          ∃ refusal, failure = .graph refusal := by
      rw [List.countP_eq_zero]
      constructor
      · intro none failure member
        by_contra other
        exact none _ member (SyncEnding.isStray_iff.mpr
          ⟨failure, rfl, fun refusal same => other ⟨refusal, same⟩⟩)
      · intro graphOnly ending member stray
        obtain ⟨failure, rfl, other⟩ := SyncEnding.isStray_iff.mp stray
        obtain ⟨refusal, same⟩ := graphOnly failure member
        exact other refusal same
    rw [← noStray]
    omega
  · rw [Counters.total_ofTimes, timed, done, uncounted]
    simp

/-- Two syncs of a pod, the first of which the system breaks off, and one of an object without a
uid. -/
def brokenSync : List Step :=
  let synchronizer : Synchronizer := ⟨{ clock := .time .epoch }, ⟨[], [], []⟩⟩
  let pod : Json := .obj [("kind", .str "Pod"), ("metadata", .obj [("uid", .str "pod")])]
  [.faults [{ site := .opening, kind := .system }], .sync synchronizer pod,
   .sync synchronizer pod, .sync synchronizer (.obj [("kind", .str "Pod")])]

def uncountedSystem : System := { journal := { threshold := 50 } }

theorem brokenSync_endings :
    (syncEndings brokenSync uncountedSystem).countP SyncEnding.isStray = 1 ∧
      (syncEndings brokenSync uncountedSystem).countP SyncEnding.isDone = 1 ∧
      (syncEndings brokenSync uncountedSystem).length = 3 := by
  decide +kernel

/-- Of three syncs two are counted, and one is timed. -/
theorem brokenSync_counted :
    uncountedSystem.counters = {} ∧
      (run brokenSync uncountedSystem).counters.total Counters.ofSyncs = 2 ∧
      (run brokenSync uncountedSystem).counters.total Counters.ofDone = 1 ∧
      (run brokenSync uncountedSystem).counters.total Counters.ofTimes = 1 := by
  obtain ⟨stray, done, length⟩ := brokenSync_endings
  obtain ⟨_, counted, _, doneCounted, timed⟩ :=
    @run_syncs_counted brokenSync uncountedSystem rfl
  rw [stray, length] at counted
  rw [doneCounted, done] at timed
  rw [done] at doneCounted
  exact ⟨rfl, by omega, doneCounted, timed⟩

/-- A sync that the system breaks off is not counted. -/
theorem brokenSync_uncounted : ¬ ∀ (steps : List Step) (start : System), start.counters = {} →
    (run steps start).counters.total Counters.ofSyncs = (syncEndings steps start).length := by
  intro claimed
  have equal := claimed brokenSync uncountedSystem rfl
  have distinct : uncountedSystem.counters.Distinct := by
    simp [uncountedSystem, Counters.Distinct]
  have counted := (run_accounts brokenSync distinct).synced
  obtain ⟨stray, _, _⟩ := brokenSync_endings
  have nothing : uncountedSystem.counters.total Counters.ofSyncs = 0 := by
    simp [uncountedSystem, Counters.total_eq, Counters.sumOf]
  omega

end ClusterGraph
