import ClusterGraph.Proofs.Lifecycle.OrderlyStop
import ClusterGraph.Proofs.Lifecycle.StagedStart
import ClusterGraph.Proofs.Sync.TransactionCalls

namespace ClusterGraph

/-! Cycles of a program: a start, what is done after it, and a stop. Whether the start succeeds or
fails, the stop closes what it opened, once and in reverse order, and nothing is left to be
closed. -/

/-- The program holds nothing and does nothing. -/
structure App.IsIdle (app : App) : Prop where
  components : app.components = []
  synchronizer : app.synchronizer = none
  pending : app.pending = []
  streams : app.streams = []

/-- What a program does between a start and a stop. -/
inductive Activity where
  | awaitRest
  | openStreams
  | advanceStreams
  | takeRound
  | takeEvents
  | requestStop

namespace Activity

open Lifecycle

def action : Activity → Lifecycle Unit
  | awaitRest => Lifecycle.awaitRest
  | openStreams => Lifecycle.openStreams
  | advanceStreams => Lifecycle.advanceStreams
  | takeRound => Lifecycle.takeRound
  | takeEvents => Lifecycle.takeEvents
  | requestStop => Lifecycle.requestStop

def perform (activities : List Activity) : Lifecycle Unit :=
  activities.forM action

theorem succeeds_action (activity : Activity) : Succeeds activity.action := by
  cases activity with
  | awaitRest => exact succeeds_awaitRest
  | openStreams => exact succeeds_openStreams
  | advanceStreams => exact succeeds_advanceStreams
  | takeRound => exact succeeds_takeRound
  | takeEvents => exact succeeds_takeEvents
  | requestStop =>
      exact fun app isConfined => ⟨(), _, rfl, ⟨⟨isConfined.streams, isConfined.pending⟩,
        .of_same rfl rfl, rfl, rfl, rfl, rfl, id, fun _ => id⟩⟩

theorem succeeds_perform (activities : List Activity) : Succeeds (perform activities) := by
  induction activities with
  | nil => exact succeeds_pure ()
  | cons activity rest ih => exact (succeeds_action activity).bind fun _ => ih

end Activity

/-- A start, what is done after it, and a stop. The services need not be the same at both ends. -/
structure Cycle where
  starting : Services
  activities : List Activity
  stopping : Services

namespace Cycle

open Lifecycle

/-- The program after the start, also where that fails. -/
def started (cycle : Cycle) (app : App) : App :=
  leaves (start cycle.starting) app

def worked (cycle : Cycle) (app : App) : App :=
  leaves (Activity.perform cycle.activities) (cycle.started app)

def stopped (cycle : Cycle) (app : App) : App :=
  leaves (stop cycle.stopping) (cycle.worked app)

/-- The watches are open from the end of a start that succeeds. -/
def opensWatches (cycle : Cycle) (app : App) : List Component :=
  match start cycle.starting app with
  | .ok _ _ => [.watcher]
  | .error _ _ => []

end Cycle

namespace App

variable {app : App}

theorem IsIdle.handles (idle : app.IsIdle) :
    app.hasClient = false ∧ app.hasStore = false ∧ app.watches = none := by
  have components := idle.components
  cases client : app.hasClient <;> cases store : app.hasStore <;> cases watches : app.watches <;>
    simp [App.components, client, store, watches] at components ⊢

theorem IsIdle.released (idle : app.IsIdle) : app.released = app := by
  obtain ⟨client, store, watches⟩ := idle.handles
  have synchronizer := idle.synchronizer
  obtain ⟨system, settings, hasClient, hasStore, itsSynchronizer, itsWatches⟩ := app
  simp only at client store watches synchronizer
  subst client store watches synchronizer
  rfl

end App

namespace Lifecycle

theorem streamsOf_areConfined (services : Services) (watcher : Nat) (synchronizer : Synchronizer)
    (watches : List Watch) : AreConfined (streamsOf services watcher synchronizer watches) := by
  intro stream member
  obtain ⟨watch, _, rfl⟩ := List.mem_map.mp member
  exact synchronizer.handler_makes

end Lifecycle

namespace Cycle

open Lifecycle

/-- What a start opened, and how it left the program. -/
structure Opened (cycle : Cycle) (app : App) : Prop where
  /-- The start closes nothing, and what it opens is what is open after it. -/
  opens : ∃ made, (cycle.started app).system.calls = app.system.calls ++ made ∧
    made.filterMap Call.closing? = [] ∧
    made.filterMap cycle.starting.opening? ++ cycle.opensWatches app =
      (cycle.started app).components.reverse
  ordered : (cycle.started app).components <:+ [.watcher, .store, .client]
  isConfined : (cycle.started app).IsConfined
  /-- Only watches have streams. -/
  unwatched : .watcher ∉ (cycle.started app).components →
    (cycle.started app).pending = [] ∧ (cycle.started app).streams = []

variable {app last : App} {cycle : Cycle}

theorem opened_of_success (idle : app.IsIdle)
    (ran : start cycle.starting app = .ok () last) : cycle.Opened app := by
  have ends := start_ends cycle.starting app
  rw [ran] at ends
  obtain ⟨settings, watches, synchronizer, _, _, opens, isWatching, pending⟩ := ends
  have started : cycle.started app = last := by simp only [Cycle.started, leaves, ran]
  have components : last.components = [.watcher, .store, .client] := by
    simp [App.components, isWatching, opens.client, opens.store]
  rw [idle.pending, List.nil_append] at pending
  obtain ⟨made, appended, closesNone, opensThese⟩ := opens.calls
  constructor <;> rw [started]
  case opens =>
    refine ⟨made, appended, closesNone, ?_⟩
    simp only [opensThese, Cycle.opensWatches, ran, components]
    rfl
  case ordered => simp only [components, List.suffix_refl]
  case isConfined =>
    constructor
    · rw [opens.streams, idle.streams]
      exact areConfined_nil
    · rw [pending]
      exact streamsOf_areConfined _ _ _ _
  case unwatched =>
    intro absent
    rw [components] at absent
    exact absurd List.mem_cons_self absent

/-- A start that fails leaves open what its stages brought until then, the last first. -/
theorem opened_of_failure {failure : Failure} (idle : app.IsIdle)
    (ran : start cycle.starting app = .error failure last) : cycle.Opened app := by
  have ends := start_ends cycle.starting app
  rw [ran] at ends
  obtain ⟨reached, isPart, brings⟩ := ends.part
  have started : cycle.started app = last := by simp only [Cycle.started, leaves, ran]
  have isOne : reached = [] ∨ reached = [.client] ∨ reached = [.client, .store] := by
    rcases List.prefix_cons_iff.mp isPart with rfl | ⟨rest, rfl, later⟩
    · exact .inl rfl
    · rcases List.prefix_cons_iff.mp later with rfl | ⟨last, rfl, nothing⟩
      · exact .inr (.inl rfl)
      · rw [List.prefix_nil.mp nothing]
        exact .inr (.inr rfl)
  have components : last.components = reached.reverse := by
    obtain ⟨noClient, noStore, noWatches⟩ := idle.handles
    simp only [App.components, brings.client, brings.store, brings.watches, noClient, noStore,
      noWatches]
    rcases isOne with rfl | rfl | rfl <;> rfl
  have pending : last.pending = [] := brings.pending.trans idle.pending
  have streams : last.streams = [] := brings.streams.trans idle.streams
  obtain ⟨made, appended, closesNone, opensThese⟩ := brings.calls
  constructor <;> rw [started]
  case opens =>
    refine ⟨made, appended, closesNone, ?_⟩
    simp [opensThese, Cycle.opensWatches, ran, components]
  case ordered =>
    rw [components]
    exact (List.reverse_suffix.mpr isPart).trans (List.suffix_cons Component.watcher _)
  case isConfined =>
    constructor
    · rw [streams]
      exact areConfined_nil
    · rw [pending]
      exact areConfined_nil
  case unwatched => exact fun _ => ⟨pending, streams⟩

theorem opened (cycle : Cycle) (idle : app.IsIdle) : cycle.Opened app := by
  cases ran : start cycle.starting app with
  | ok _ last => exact opened_of_success idle ran
  | error failure last => exact opened_of_failure idle ran

/-- What a stop closed, and how it left the program. -/
structure Closed (cycle : Cycle) (app : App) : Prop where
  ends : stop cycle.stopping (cycle.worked app) = .ok () (cycle.stopped app)
  closings : Closings (cycle.started app).components (cycle.worked app).released (cycle.stopped app)
  /-- All but the watches are closed by one call each, in their order. -/
  calls : ∃ made, (cycle.stopped app).system.calls = (cycle.worked app).system.calls ++ made ∧
    made.filterMap Call.closing? = (cycle.started app).components.filter (· ≠ .watcher)
  idle : (cycle.stopped app).IsIdle
  again : ∀ services, stop services (cycle.stopped app) = .ok () (cycle.stopped app)

theorem worked_works (cycle : Cycle) (idle : app.IsIdle) :
    (cycle.started app).Works (cycle.worked app) := by
  obtain ⟨_, last, ran, works⟩ :=
    Activity.succeeds_perform cycle.activities (cycle.started app) (cycle.opened idle).isConfined
  have worked : cycle.worked app = last := by simp only [Cycle.worked, leaves, ran]
  rw [worked]
  exact works

theorem closed (cycle : Cycle) (idle : app.IsIdle) (leave : cycle.stopping.LeaveTime) :
    cycle.Closed app := by
  have works := cycle.worked_works idle
  have unwatched := (cycle.opened idle).unwatched
  have same : (cycle.worked app).components = (cycle.started app).components := by
    simp only [App.components, works.client, works.store, works.watches]
  obtain ⟨last, ends, closings⟩ := stop_ends cycle.stopping (cycle.worked app)
  have stopped : cycle.stopped app = last := by simp only [Cycle.stopped, leaves, ends]
  have closings := closings leave works.toIsConfined
  rw [same, ← stopped] at closings
  obtain ⟨client, store, watches, synchronizer⟩ := closings.handles
  have isIdle : (cycle.stopped app).IsIdle := by
    refine ⟨?_, synchronizer, ?_, ?_⟩
    · simp [App.components, client, store, watches, App.released]
    · rw [closings.streams.2]
      split
      · rfl
      · rename_i absent
        exact works.noneOpen (unwatched absent).1
    · rw [closings.streams.1]
      split
      · rfl
      · rename_i absent
        exact works.noStreams (unwatched absent).1 (unwatched absent).2
  refine ⟨by rw [ends, stopped], closings, closings.calls, isIdle, fun services => ?_⟩
  rw [stop_nothing services isIdle.components, isIdle.released]

end Cycle

namespace Lifecycle

variable {app : App}

/-- Streams that stay open after a stop go on. Where none does, nothing more is done. -/
theorem finish_ends (services : Services) (app : App) :
    ∃ last, finish services app = .ok () last ∧
      ∀ stopped, stop services app = .ok () stopped → stopped.pending = [] →
        stopped.streams = [] → last = stopped := by
  obtain ⟨closed, ends, _⟩ := stop_ends services app
  let goesOn : Lifecycle Unit := openStreams >>= fun _ => onStreams (eachStream OpenStream.goOn)
  obtain ⟨last, ran⟩ : ∃ last, goesOn closed = .ok () last := ⟨_, rfl⟩
  refine ⟨last, ?_, fun stopped isStopped noneOpen noStreams => ?_⟩
  · rw [← ran]
    simp only [finish, goesOn, Bind.bind, EStateM.bind, ends]
  · rw [ends] at isStopped
    cases isStopped
    obtain ⟨system, settings, client, store, synchronizer, watches, watchers, requested, pending,
      opened, streams, rested⟩ := closed
    obtain rfl : pending = [] := noneOpen
    obtain rfl : streams = [] := noStreams
    cases ran
    simp [eachStream, stepStreams]

/-- What a program does that serves: it waits for the streams to rest and is then asked to stop,
unless that was before. -/
def duties (app : App) : List Activity :=
  if app.stopRequested then [] else [.awaitRest, .openStreams, .advanceStreams, .requestStop]

theorem perform_duties (app : App) : Activity.perform (duties app) app =
    (if app.stopRequested then pure ()
    else
      awaitRest >>= fun _ => openStreams >>= fun _ => advanceStreams >>= fun _ => requestStop :
        Lifecycle Unit) app := by
  unfold duties
  cases app.stopRequested <;> rfl

/-- Serving is a cycle. A failure of its start is passed on as it is, after the stop; and it does
not fail in any other way. -/
def ServesAsCycle (services : Services) (app : App) : Prop :=
  match start services app with
  | .error failure _ => ∃ last, serve services app = .error failure last ∧
      (services.LeaveTime → last = Cycle.stopped ⟨services, [], services⟩ app)
  | .ok _ started => ∃ last, serve services app = .ok () last ∧
      (services.LeaveTime → last = Cycle.stopped ⟨services, duties started, services⟩ app)

theorem serve_ends (services : Services) (idle : app.IsIdle) : ServesAsCycle services app := by
  have ends (activities : List Activity) (worked : App)
      (isWorked : Cycle.worked ⟨services, activities, services⟩ app = worked) :
      ∃ last, finish services worked = .ok () last ∧
        (services.LeaveTime → last = Cycle.stopped ⟨services, activities, services⟩ app) := by
    obtain ⟨last, finishes, unchanged⟩ := finish_ends services worked
    refine ⟨last, finishes, fun leave => ?_⟩
    have closed := Cycle.closed ⟨services, activities, services⟩ idle leave
    exact unchanged _ (isWorked ▸ closed.ends) closed.idle.pending closed.idle.streams
  unfold ServesAsCycle
  cases ran : start services app with
  | error failure started =>
      have isWorked : Cycle.worked ⟨services, [], services⟩ app = started := by
        simp only [Cycle.worked, Cycle.started, leaves, ran]
        rfl
      obtain ⟨last, finishes, isStopped⟩ := ends [] started isWorked
      refine ⟨last, ?_, isStopped⟩
      simp only [serve, work, Bind.bind, EStateM.bind, ran, finishes]
  | ok _ started =>
      have isStarted : Cycle.started ⟨services, [], services⟩ app = started := by
        simp only [Cycle.started, leaves, ran]
      have isConfined := (Cycle.opened ⟨services, [], services⟩ idle).isConfined
      rw [isStarted] at isConfined
      obtain ⟨_, worked, performs, _⟩ :=
        Activity.succeeds_perform (duties started) started isConfined
      have isWorked : Cycle.worked ⟨services, duties started, services⟩ app = worked := by
        simp only [Cycle.worked, Cycle.started, leaves, ran, performs]
      obtain ⟨last, finishes, isStopped⟩ := ends (duties started) worked isWorked
      refine ⟨last, ?_, isStopped⟩
      have works : work services app = .ok () worked := by
        rw [← performs, perform_duties]
        simp only [work, Bind.bind, EStateM.bind, ran]
        rfl
      simp only [serve, works, finishes]

end Lifecycle

open Lifecycle

/-- The account of a cycle: the stop closes what the start opened, and nothing is left to another
one. -/
structure Cycle.IsBalanced (cycle : Cycle) (app : App) : Prop extends cycle.Opened app,
    cycle.Closed app where
  /-- Between start and stop nothing is opened and nothing closed. -/
  works : (cycle.started app).Works (cycle.worked app)
  serves : ServesAsCycle cycle.starting app

/-- Each cycle is balanced where the one before it left the program. -/
def AreBalanced : List Cycle → App → Prop
  | [], app => app.IsIdle
  | cycle :: rest, app => cycle.IsBalanced app ∧ AreBalanced rest (cycle.stopped app)

/-- However often a program is started and stopped, and whatever fails or hangs on the way, every
stop closes what the start before it opened: once, the newest first, and all of it. -/
theorem cycles_balanced {app : App} (idle : app.IsIdle) (cycles : List Cycle)
    (timely : ∀ cycle ∈ cycles, cycle.stopping.LeaveTime) : AreBalanced cycles app := by
  induction cycles generalizing app with
  | nil => exact idle
  | cons cycle rest ih =>
      have closed := cycle.closed idle (timely cycle List.mem_cons_self)
      refine ⟨⟨cycle.opened idle, closed, cycle.worked_works idle,
        serve_ends cycle.starting idle⟩, ih closed.idle ?_⟩
      exact fun other member => timely other (List.mem_cons_of_mem cycle member)

/-- Services that are all there, with the usual limit for closing. -/
def readyServices : Services where
  environment _ := none
  clock := .time .epoch

theorem readyServices_leaveTime : readyServices.LeaveTime := by
  have read : (Deadline.ofJson readyServices.grace).toOption = some .lasting := by decide +kernel
  cases limit : Deadline.ofJson readyServices.grace with
  | error shape => simp [limit, Except.toOption] at read
  | ok limit' =>
      simp only [limit, Except.toOption, Option.some.injEq] at read
      exact ⟨limit', limit, by simp [read]⟩

/-- A start whose store may not answer, and a stop where the store fails and the client hangs. -/
def strandedCycle : Cycle where
  starting := readyServices
  activities := []
  stopping :=
    { readyServices with
      driverEnding := .failed (.foreign .program "stuck")
      clusterClientEnding := .hanging }

/-- A start and a stop with work between them, where the store hangs and the client fails. -/
def watchingCycle : Cycle where
  starting := readyServices
  activities := [.awaitRest, .takeRound, .requestStop]
  stopping :=
    { readyServices with
      driverEnding := .hanging
      clusterClientEnding := .failed (.foreign .program "stuck") }

/-- A program whose store does not answer when it is first asked. -/
def unansweredApp : App where
  system :=
    { database := { faults := [{ site := .verification, kind := .driver }] }
      journal := { threshold := 0 } }

/-- The first start gets as far as the store, and the second one to its end. -/
theorem cycles_balanced_secondStart :
    ((strandedCycle.started unansweredApp).components = [.store, .client] ∧
      (watchingCycle.started (strandedCycle.stopped unansweredApp)).components =
        [.watcher, .store, .client]) ∧
      AreBalanced [strandedCycle, watchingCycle] unansweredApp := by
  refine ⟨⟨by decide +kernel, by decide +kernel⟩, cycles_balanced ⟨rfl, rfl, rfl, rfl⟩ _ ?_⟩
  simp only [List.mem_cons, List.not_mem_nil, or_false]
  rintro cycle (rfl | rfl) <;> exact readyServices_leaveTime

end ClusterGraph
