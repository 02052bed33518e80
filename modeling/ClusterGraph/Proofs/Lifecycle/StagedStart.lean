import ClusterGraph.Lifecycle.Startup
import ClusterGraph.Proofs.Store.AnsweredCalls

namespace ClusterGraph

/-! What a start does, stage by stage. Each stage opens its own component or none. Where one fails,
the components of those before it stay open, and so does its own if it fails after it opened it. -/

/-- The component that a call opens, unless the service that it reaches fails. -/
def Services.opening? (services : Services) : Call → Option Component
  | .clusterClient => if services.clusterClient.isNone then some .client else none
  | .driver .. => if services.driver.isNone then some .store else none
  | _ => none

/-- The component that a call closes. -/
def Call.closing? : Call → Option Component
  | .close => some .store
  | .clusterClientClose => some .client
  | _ => none

/-- The call neither opens nor closes a component. -/
def Call.IsNeutral : Call → Prop
  | .clusterClient | .driver .. | .close | .clusterClientClose => False
  | _ => True

theorem Call.IsNeutral.opening? {call : Call} (neutral : call.IsNeutral) (services : Services) :
    services.opening? call = none := by
  cases call <;> first | rfl | exact neutral.elim

theorem Call.IsNeutral.closing? {call : Call} (neutral : call.IsNeutral) :
    call.closing? = none := by
  cases call <;> first | rfl | exact neutral.elim

theorem Call.IsOfTransaction.isNeutral {call : Call} (ofTransaction : call.IsOfTransaction) :
    call.IsNeutral := by
  cases call <;> trivial

/-- Everything that a start needs is there, but for the database. -/
structure Services.AreReady (services : Services) : Prop where
  watches : ∃ settings watches, Settings.load services.environment = .ok settings ∧
    Lifecycle.watchesOf settings = .ok watches
  metricsServer : services.metricsServer = none
  clusterAccount : services.clusterAccount = none
  clusterClient : services.clusterClient = none
  driver : services.driver = none
  rules : ∃ rules, CompiledTable.ofTable services.rules = .ok rules

namespace Lifecycle

variable {α β : Type} {services : Services} {opened others : List Component}
  {before middle after : App}

/-- The later program opened these components, and it made no call that closes one. -/
structure Opens (services : Services) (opened : List Component) (before after : App) : Prop where
  calls : ∃ made, after.system.calls = before.system.calls ++ made ∧
    made.filterMap Call.closing? = [] ∧ made.filterMap services.opening? = opened
  faults : FaultsLeft before.system.database.faults after.system.database.faults
  client : after.hasClient = (before.hasClient || decide (.client ∈ opened))
  store : after.hasStore = (before.hasStore || decide (.store ∈ opened))
  streams : after.streams = before.streams

/-- The later program opened these components and no watches. -/
structure Brings (services : Services) (opened : List Component) (before after : App) : Prop
    extends Opens services opened before after where
  watches : after.watches = before.watches
  watchers : after.watchers = before.watchers
  pending : after.pending = before.pending

theorem opens_nothing (makes : before.system.Makes Call.IsNeutral after.system)
    (client : after.hasClient = before.hasClient) (store : after.hasStore = before.hasStore)
    (streams : after.streams = before.streams) : Opens services [] before after := by
  obtain ⟨made, appended, neutral⟩ := makes.calls
  refine ⟨⟨made, appended, ?_, ?_⟩, makes.faults, by simp [client], by simp [store], streams⟩
  · exact List.filterMap_eq_nil_iff.mpr fun call member => (neutral call member).closing?
  · exact List.filterMap_eq_nil_iff.mpr fun call member => (neutral call member).opening? services

theorem Opens.trans (first : Opens services opened before middle)
    (second : Opens services others middle after) :
    Opens services (opened ++ others) before after := by
  obtain ⟨made, appended, closesNone, opensThese⟩ := first.calls
  obtain ⟨later, laterAppended, laterClosesNone, opensOthers⟩ := second.calls
  refine ⟨⟨made ++ later, ?_, ?_, ?_⟩, fun _ member => first.faults (second.faults member), ?_, ?_,
    second.streams.trans first.streams⟩
  · rw [laterAppended, appended, List.append_assoc]
  · rw [List.filterMap_append, closesNone, laterClosesNone, List.append_nil]
  · rw [List.filterMap_append, opensThese, opensOthers]
  · simp [second.client, first.client, Bool.or_assoc]
  · simp [second.store, first.store, Bool.or_assoc]

theorem Brings.trans (first : Brings services opened before middle)
    (second : Brings services others middle after) :
    Brings services (opened ++ others) before after :=
  ⟨first.toOpens.trans second.toOpens, second.watches.trans first.watches,
    second.watchers.trans first.watchers, second.pending.trans first.pending⟩

/-- The start failed on the way to these components, and not without a reason. -/
structure Falls (services : Services) (opened : List Component) (before after : App) : Prop where
  part : ∃ reached, reached <+: opened ∧ Brings services reached before after
  reason : services.AreReady → before.system.database.faults ≠ []

theorem Falls.early (falls : Falls services opened before after) (others : List Component) :
    Falls services (opened ++ others) before after := by
  obtain ⟨reached, isPart, brings⟩ := falls.part
  exact ⟨⟨reached, isPart.trans (List.prefix_append opened others), brings⟩, falls.reason⟩

theorem Brings.fall (first : Brings services opened before middle)
    (falls : Falls services others middle after) :
    Falls services (opened ++ others) before after := by
  obtain ⟨reached, isPart, brings⟩ := falls.part
  refine ⟨⟨opened ++ reached, (List.prefix_append_right_inj opened).mpr isPart,
    first.trans brings⟩, fun ready calm => falls.reason ready ?_⟩
  have left := first.faults
  rw [calm] at left
  exact left.eq_nil

/-- A part of a start that opens these components, and after which something is known; or it fails
on the way. -/
def Adds (services : Services) (opened : List Component) (known : α → App → Prop)
    (action : Lifecycle α) (app : App) : Prop :=
  match action app with
  | .ok value last => Brings services opened app last ∧ known value last
  | .error _ last => Falls services opened app last

variable {known : α → App → Prop} {later : β → App → Prop} {app : App}

/-- The rest of a part that has opened components already. -/
theorem Adds.onward {action rest : Lifecycle α} (adds : Adds services others known rest middle)
    (first : Brings services opened app middle) (reaches : action app = rest middle) :
    Adds services (opened ++ others) known action app := by
  simp only [Adds, reaches] at adds ⊢
  generalize rest middle = result at adds ⊢
  cases result with
  | ok value last => exact ⟨first.trans adds.1, adds.2⟩
  | error failure last => exact first.fall adds

theorem Adds.bind {action : Lifecycle α} {next : α → Lifecycle β}
    (first : Adds services opened known action app)
    (second : ∀ value middle, known value middle →
      Adds services others later (next value) middle) :
    Adds services (opened ++ others) later (action >>= next) app := by
  cases ran : action app with
  | error failure middle =>
      simp only [Adds, Bind.bind, EStateM.bind, ran] at first ⊢
      exact first.early others
  | ok value middle =>
      simp only [Adds, ran] at first
      refine (second value middle first.2).onward first.1 ?_
      simp only [Bind.bind, EStateM.bind, ran]

theorem Adds.stage {action : Lifecycle α} (adds : Adds services opened known action app)
    (component : String) : Adds services opened known (Lifecycle.stage component action) app := by
  simp only [Adds, Lifecycle.stage] at adds ⊢
  cases ran : action app <;> simpa only [ran] using adds

theorem brings_lift {last : System} (makes : app.system.Makes Call.IsNeutral last) :
    Brings services [] app { app with system := last } :=
  ⟨opens_nothing makes rfl rfl rfl, rfl, rfl, rfl⟩

theorem brings_call {call : Call} (neutral : call.IsNeutral) :
    Brings services [] app { app with system := app.system.record call } :=
  brings_lift (.of_call neutral rfl fun _ member => member)

theorem adds_lift {action : Action α}
    (makes : Action.Advances (System.Makes Call.IsNeutral) action)
    (answers : Action.Answers action) :
    Adds services [] (fun _ _ => True) (lift action) app := by
  have made := makes app.system
  simp only [Adds, lift, Action.after] at made ⊢
  cases ran : action app.system with
  | ok value last =>
      rw [ran] at made
      exact ⟨brings_lift made, trivial⟩
  | error failure last =>
      rw [ran] at made
      refine ⟨⟨[], List.nil_prefix, brings_lift made⟩, fun _ calm => ?_⟩
      obtain ⟨value, other, answered, _⟩ := answers app.system calm
      rw [ran] at answered
      contradiction

theorem adds_log (severity : Severity) (event : String) (fields : Entries Json) :
    Adds services [] (fun _ _ => True) (log severity event fields) app :=
  adds_lift (Action.log_makes _ _ _ _) (Action.answers_log _ _ _ _)

/-- A part that fails because something that a start needs is not there. -/
theorem falls_unready (brings : Brings services opened before after)
    (unready : ¬ services.AreReady) : Falls services opened before after :=
  ⟨⟨opened, List.prefix_refl opened, brings⟩, fun ready => absurd ready unready⟩

theorem configure_adds : Adds services []
    (fun settings _ => Settings.load services.environment = .ok settings)
    (configure services) app := by
  unfold configure
  cases loaded : Settings.load services.environment with
  | error error =>
      refine falls_unready (brings_lift (.refl app.system)) fun ready => ?_
      obtain ⟨settings, watches, isLoaded, _⟩ := ready.watches
      rw [loaded] at isLoaded
      contradiction
  | ok settings => exact ⟨⟨opens_nothing (.of_same rfl rfl) rfl rfl rfl, rfl, rfl, rfl⟩, rfl⟩

theorem startMetrics_enabled {port : Nat} (enabled : port ≠ 0) :
    startMetrics services port = fun app =>
      match call (.metricsServer port) services.metricsServer app with
      | .ok _ app => log .info "metrics exporter started" [("port", .int port)] app
      | .error (.foreign .operatingSystem reason) app =>
          log .warning "metrics exporter failed to start"
            [("port", .int port), ("error", .str reason)] app
      | .error failure app => .error failure app :=
  if_neg enabled

theorem startMetrics_adds (port : Nat) :
    Adds services [] (fun _ _ => True) (startMetrics services port) app := by
  rcases Nat.eq_zero_or_pos port with rfl | enabled
  · exact adds_log _ _ _
  rw [startMetrics_enabled (Nat.ne_of_gt enabled)]
  have called : Brings services [] app
      { app with system := app.system.record (.metricsServer port) } := brings_call trivial
  cases failed : services.metricsServer with
  | none => exact (adds_log .info _ _).onward called rfl
  | some failure =>
      have unready : ¬ services.AreReady := fun ready => by simp [ready.metricsServer] at failed
      cases failure with
      | foreign origin reason =>
          cases origin with
          | operatingSystem => exact (adds_log .warning _ _).onward called rfl
          | databaseDriver | databaseServer | program | value | deadline
          | clusterConfiguration => exact falls_unready called unready
      | graph | settings | positionTooLong | shape | dateOutOfRange | expired | stream
      | startup => exact falls_unready called unready

theorem readCluster_adds : Adds services [] (fun _ _ => True) (readCluster services) app := by
  have called (call : Call) (neutral : call.IsNeutral) (app : App) :
      Brings services [] app { app with system := app.system.record call } := brings_call neutral
  have account := called .clusterAccount trivial app
  unfold readCluster
  cases failed : services.clusterAccount with
  | none => exact (adds_log .info _ _).onward account rfl
  | some failure =>
      have unready : ¬ services.AreReady := fun ready => by simp [ready.clusterAccount] at failed
      cases failure with
      | foreign origin reason =>
          cases origin with
          | clusterConfiguration =>
              have file := account.trans (called .clusterFile trivial _)
              cases services.clusterFile with
              | none => exact (adds_log .info _ _).onward file rfl
              | some failure => exact falls_unready file unready
          | databaseDriver | databaseServer | program | value | deadline | operatingSystem =>
              exact falls_unready account unready
      | graph | settings | positionTooLong | shape | dateOutOfRange | expired | stream
      | startup => exact falls_unready account unready

/-- A call that opens nothing, because its service fails. -/
theorem falls_call {call : Call} (fails : services.opening? call = none)
    (closesNone : call.closing? = none) (unready : ¬ services.AreReady)
    (opened : List Component) :
    Falls services opened app { app with system := app.system.record call } := by
  have brings : Brings services [] app { app with system := app.system.record call } :=
    ⟨⟨⟨[call], rfl, by simp [closesNone], by simp [fails]⟩, fun _ member => member, by simp,
      by simp, rfl⟩, rfl, rfl, rfl⟩
  exact (falls_unready brings unready).early opened

theorem openClient_adds :
    Adds services [.client] (fun _ _ => True) (openClient services) app := by
  refine (adds_log .debug _ _).bind fun _ middle _ => readCluster_adds.bind fun _ middle _ => ?_
  cases failed : services.clusterClient with
  | none =>
      have opens : services.opening? .clusterClient = some .client := by
        simp [Services.opening?, failed]
      exact ⟨⟨⟨⟨[.clusterClient], rfl, rfl, by simp [opens]⟩, fun _ member => member, by simp,
        by simp, rfl⟩, rfl, rfl, rfl⟩, trivial⟩
  | some failure =>
      have opensNone : services.opening? .clusterClient = none := by
        simp [Services.opening?, failed]
      exact falls_call opensNone rfl (fun ready => by simp [ready.clusterClient] at failed) _

theorem openStore_adds (settings : StoreSettings) :
    Adds services [.store] (fun _ _ => True) (openStore services settings) app := by
  refine (adds_log .debug _ _).bind fun _ middle _ => ?_
  let reached : Call :=
    .driver settings.uri settings.user settings.password settings.connectionTimeout
  cases failed : services.driver with
  | none =>
      have opens : services.opening? reached = some .store := by
        simp [reached, Services.opening?, failed]
      let connected : App :=
        { middle with
          hasStore := true
          system :=
            { middle.system.record reached with
              database := { middle.system.database with name := settings.database } } }
      have brings : Brings services [.store] middle connected :=
        ⟨⟨⟨[reached], rfl, rfl, by simp [opens]⟩, fun _ member => member, by simp [connected],
          by simp [connected], rfl⟩, rfl, rfl, rfl⟩
      have checks : Adds services [] (fun _ _ => True) (lift Action.verify) connected :=
        adds_lift (Action.verify_makes trivial) Action.verify_answers
      exact (checks.bind fun _ _ _ => adds_log .info _ _).onward brings rfl
  | some failure =>
      have opensNone : services.opening? reached = none := by
        simp [reached, Services.opening?, failed]
      exact falls_call opensNone rfl (fun ready => by simp [ready.driver] at failed) _

theorem applySchema_adds : Adds services [] (fun _ _ => True) applySchema app :=
  (adds_lift (Schema.apply_makes (fun _ => trivial) (fun _ _ => trivial) Schema.statements)
    (Schema.apply_answers Schema.statements)).bind
    fun _ middle _ => ⟨brings_lift (.refl middle.system), trivial⟩

theorem openSynchronizer_adds (cluster : String) :
    Adds services [] (fun _ middle => middle.synchronizer.isSome = true)
      (openSynchronizer services cluster) app := by
  unfold openSynchronizer Synchronizer.ofTable
  cases compiled : CompiledTable.ofTable services.rules with
  | error error =>
      refine falls_unready (brings_lift (.refl app.system)) fun ready => ?_
      obtain ⟨rules, isCompiled⟩ := ready.rules
      rw [compiled] at isCompiled
      contradiction
  | ok rules => exact ⟨⟨opens_nothing (.of_same rfl rfl) rfl rfl rfl, rfl, rfl, rfl⟩, rfl⟩

/-- All of a start but the watches. -/
def prepare (services : Services) : Lifecycle Settings := do
  let settings ← configure services
  startMetrics services settings.metricsPort
  stage "k8s_client" (openClient services)
  stage "graph_store" (openStore services settings.store)
  stage "schema" applySchema
  stage "sync_engine" (openSynchronizer services settings.cluster)
  pure settings

theorem start_eq (services : Services) : start services =
    prepare services >>= fun settings =>
      stage "watcher" (openWatches services settings) >>= fun _ =>
        log .info "kubegraph started" [] := by
  simp only [start, prepare, bind_assoc, pure_bind]

/-- The stages before the watches open client and store between them. -/
theorem prepare_adds (services : Services) (app : App) : Adds services [.client, .store]
    (fun settings middle => Settings.load services.environment = .ok settings ∧
      middle.synchronizer.isSome = true)
    (prepare services) app := by
  refine configure_adds.bind fun settings middle loaded => ?_
  refine (startMetrics_adds settings.metricsPort).bind fun _ middle _ => ?_
  refine (openClient_adds.stage _).bind fun _ middle _ => ?_
  refine ((openStore_adds settings.store).stage _).bind fun _ middle _ => ?_
  refine (applySchema_adds.stage _).bind fun _ middle _ => ?_
  refine ((openSynchronizer_adds settings.cluster).stage _).bind fun _ middle isSome => ?_
  exact ⟨brings_lift (.refl middle.system), loaded, isSome⟩

/-- Every start opens client and store, and then watches of the kinds that the settings name; or it
fails on the way to the watches, with a part of that open. -/
theorem start_ends (services : Services) (app : App) :
    match start services app with
    | .ok _ last => ∃ settings watches synchronizer,
        Settings.load services.environment = .ok settings ∧ watchesOf settings = .ok watches ∧
          Opens services [.client, .store] app last ∧ last.watches = some watches ∧
          last.pending = app.pending ++ streamsOf services app.watchers synchronizer watches
    | .error _ last => Falls services [.client, .store] app last := by
  have prepares := prepare_adds services app
  rw [start_eq]
  cases prepared : prepare services app with
  | error failure middle =>
      simp only [Adds, Bind.bind, EStateM.bind, prepared] at prepares ⊢
      exact prepares
  | ok settings middle =>
      simp only [Adds, Bind.bind, EStateM.bind, prepared] at prepares ⊢
      obtain ⟨brings, loaded, isSome⟩ := prepares
      obtain ⟨synchronizer, isSynchronizer⟩ := Option.isSome_iff_exists.mp isSome
      unfold openWatches
      cases selected : watchesOf settings with
      | error error =>
          refine falls_unready brings fun ready => ?_
          obtain ⟨others, watches, othersLoaded, isSelected⟩ := ready.watches
          obtain rfl := Except.ok.inj (loaded.symm.trans othersLoaded)
          rw [selected] at isSelected
          contradiction
      | ok watches =>
          refine ⟨settings, watches, synchronizer, loaded, selected, ?_, rfl, ?_⟩
          · exact brings.toOpens.trans (opens_nothing (.of_same rfl rfl) rfl rfl rfl)
          · simp [isSynchronizer, brings.pending, brings.watchers]

end Lifecycle

end ClusterGraph
