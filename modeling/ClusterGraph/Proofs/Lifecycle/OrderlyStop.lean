import ClusterGraph.Lifecycle.Shutdown
import ClusterGraph.Proofs.Lifecycle.ConfinedStreams
import ClusterGraph.Proofs.Lifecycle.StagedStart

namespace ClusterGraph

/-! How a stop closes what is open. Each component is closed once, in a fixed order, however its
own closing and those before it end; and the stop itself never fails. -/

/-- The limit for closing a component, which is fifteen seconds unless another one is set, leaves
time to begin with it. -/
def Services.LeaveTime (services : Services) : Prop :=
  ∃ limit, Deadline.ofJson services.grace = .ok limit ∧ limit ≠ .over

/-- The calls that close a component: its own, and for the watches those of the transactions that
were under way. -/
def Component.IsClosedBy (made : List Call) : Component → Prop
  | .watcher => ∀ call ∈ made, call.IsOfTransaction
  | .store => made = [.close]
  | .client => made = [.clusterClientClose]

/-- What the closing of a component does to a program. Only that of the watches ends streams. -/
structure Component.Closes (component : Component) (before after : App) : Prop where
  calls : ∃ made, after.system.calls = before.system.calls ++ made ∧ component.IsClosedBy made
  streams : after.streams = if component = .watcher then [] else before.streams
  pending : after.pending = if component = .watcher then [] else before.pending
  client : after.hasClient = before.hasClient
  store : after.hasStore = before.hasStore
  synchronizer : after.synchronizer = before.synchronizer
  watches : after.watches = before.watches

/-- The closing of components, one after the other. Nothing else is done but to log. -/
inductive Closings : List Component → App → App → Prop where
  | done {app : App} {journal : Journal} :
      Closings [] app { app with system := { app.system with journal } }
  | close {component : Component} {rest : List Component} {before middle after : App}
      (closes : component.Closes before middle) (later : Closings rest middle after) :
      Closings (component :: rest) before after

namespace Lifecycle

variable {α β : Type} {services : Services} {app : App}

/-- The program that an action leaves, also where it fails. -/
def leaves (action : Lifecycle α) (app : App) : App :=
  match action app with
  | .ok _ last | .error _ last => last

/-- A component without streams is closed by its own call. -/
theorem closes_call {component : Component} {call : Call} {last : System}
    (byCall : component.IsClosedBy [call]) (other : component ≠ .watcher)
    (calls : last.calls = app.system.calls ++ [call]) :
    component.Closes app { app with system := last } :=
  ⟨⟨_, calls, byCall⟩, (if_neg other).symm, (if_neg other).symm, rfl, rfl, rfl, rfl⟩

theorem closeClient_closes (services : Services) (app : App) :
    Component.client.Closes app (leaves (closeClient services) app) := by
  have called : Component.client.Closes app
      { app with system := app.system.record .clusterClientClose } :=
    closes_call rfl (by decide) rfl
  unfold closeClient
  cases services.clusterClientEnding <;> exact called

theorem closeStore_closes (services : Services) (app : App) :
    Component.store.Closes app (leaves (closeStore services) app) := by
  have closed {last : System} (calls : last.calls = app.system.calls ++ [.close]) :
      Component.store.Closes app { app with system := last } :=
    closes_call rfl (by decide) calls
  have reached := Action.reach_calls .close .closing none none app.system
  unfold closeStore
  simp only [Action.after] at reached
  cases services.driverEnding <;>
    simp only [leaves, Action.closeStore, lift, Bind.bind, EStateM.bind] <;>
    generalize Action.reach .close .closing none none app.system = result at reached ⊢ <;>
    cases result <;>
    exact closed reached

/-- The end of the watches, once it is settled which streams they still open. -/
def endWatches (services : Services) (limit : TimeLimit) : Lifecycle Bool := do
  openStreams
  advanceStreams
  keepStreams (·.isBusy)
  if (← get).streams.isEmpty && limit != .momentary then
    lift Watch.reportStopped
    pure true
  else
    takeEventsUntil services.grace
    keepStreams fun _ => false
    pure false

theorem closeWatches_eq (services : Services) (limit : TimeLimit) :
    closeWatches services limit = if limit = .unlimited then
      modify (fun app : App => { app with pending := [] }) >>= fun _ => endWatches services limit
    else endWatches services limit :=
  rfl

/-- Either no stream is left at the end, or those with an object in hand go on until they are cut
off. -/
theorem endWatches_ends (services : Services) (limit : TimeLimit) (isConfined : app.IsConfined) :
    ∃ value last, endWatches services limit app = .ok value last ∧ app.Works last ∧
      last.streams = [] ∧ last.pending = [] := by
  obtain ⟨_, opened, opens, openWorks⟩ := succeeds_openStreams app isConfined
  have noneOpen : opened.pending = [] := by
    cases opens
    rfl
  obtain ⟨_, advanced, advances, advanceWorks⟩ :=
    succeeds_advanceStreams opened openWorks.toIsConfined
  obtain ⟨_, kept, keeps, keepWorks⟩ :=
    succeeds_keepStreams (·.isBusy) advanced advanceWorks.toIsConfined
  have works := (openWorks.trans advanceWorks).trans keepWorks
  have noneLater := keepWorks.noneOpen (advanceWorks.noneOpen noneOpen)
  have rest : endWatches services limit app =
      (if kept.streams.isEmpty && limit != .momentary then
        lift Watch.reportStopped >>= fun _ => pure true
      else
        takeEventsUntil services.grace >>= fun _ =>
          keepStreams (fun _ => false) >>= fun _ => pure false : Lifecycle Bool) kept := by
    simp only [endWatches, Bind.bind, EStateM.bind, opens, advances, keeps]
    rfl
  rw [rest]
  cases quiet : kept.streams.isEmpty && limit != .momentary with
  | true =>
      have stopped :
          kept.Works { kept with system := Action.after Watch.reportStopped kept.system } :=
        ⟨⟨works.streams, works.pending⟩, .of_same rfl rfl, rfl, rfl, rfl, rfl, id, fun _ => id⟩
      rw [Bool.and_eq_true, List.isEmpty_iff] at quiet
      exact ⟨true, _, rfl, works.trans stopped, quiet.1, noneLater⟩
  | false =>
      obtain ⟨_, taken, takes, takeWorks⟩ :=
        succeeds_takeWithin (Deadline.allows services.grace) (Deadline.wholeSeconds services.grace)
          kept works.toIsConfined
      obtain ⟨_, last, ends, endWorks⟩ :=
        succeeds_keepStreams (fun _ => false) taken takeWorks.toIsConfined
      refine ⟨false, last, ?_, (works.trans takeWorks).trans endWorks, ?_,
        endWorks.noneOpen (takeWorks.noneOpen noneLater)⟩
      · simp only [Bool.false_eq_true, if_false, takeEventsUntil, Bind.bind, EStateM.bind, takes,
          ends]
        rfl
      · cases ends
        simp [List.partition_eq_filter_filter]

theorem closeWatches_closes (services : Services) (limit : TimeLimit)
    (isConfined : app.IsConfined) :
    Component.watcher.Closes app (leaves (closeWatches services limit) app) := by
  have closes {middle : App} (works : app.Works middle) :
      Component.watcher.Closes app (leaves (endWatches services limit) middle) := by
    obtain ⟨value, last, ends, endWorks, noStreams, noneOpen⟩ :=
      endWatches_ends services limit works.toIsConfined
    have works := works.trans endWorks
    simp only [leaves, ends]
    exact ⟨works.system.calls, noStreams, noneOpen, works.client, works.store, works.synchronizer,
      works.watches⟩
  rw [closeWatches_eq]
  split
  · have forgets : app.Works { app with pending := [] } :=
      ⟨⟨isConfined.streams, areConfined_nil⟩, .refl app.system, rfl,
        rfl, rfl, rfl, fun _ => rfl, fun _ => id⟩
    exact closes forgets
  · exact closes isConfined.works

theorem close_closes (leave : services.LeaveTime) (component : Component)
    (isConfined : app.IsConfined) :
    component.Closes app (leaves (close services component) app) := by
  obtain ⟨limit, read, notOver⟩ := leave
  have closed : leaves (close services component) app = leaves (match component with
      | .watcher => closeWatches services limit
      | .store => closeStore services
      | .client => closeClient services) app := by
    unfold close
    rw [read]
    match limit, notOver with
    | .over, notOver => exact absurd rfl notOver
    | .unlimited, _ | .momentary, _ | .lasting, _ => rfl
  rw [closed]
  cases component with
  | watcher => exact closeWatches_closes services limit isConfined
  | store => exact closeStore_closes services app
  | client => exact closeClient_closes services app

/-- The closing of a component never fails; how it went is told to the log alone. -/
theorem closeStep_ends (services : Services) (component : Component) (app : App) :
    ∃ journal, closeStep services component app = .ok ()
      { leaves (close services component) app with
        system := { (leaves (close services component) app).system with journal } } := by
  simp only [closeStep, leaves]
  generalize close services component app = result
  cases result with
  | ok inTime last => cases inTime <;> exact ⟨_, rfl⟩
  | error failure last =>
      cases failure with
      | foreign origin reason => cases origin <;> exact ⟨_, rfl⟩
      | graph | settings | positionTooLong | shape | dateOutOfRange | expired | stream | startup =>
          exact ⟨_, rfl⟩

end Lifecycle

section Closings

variable {component : Component} {components : List Component} {before after : App}

theorem Component.Closes.logBefore (closes : component.Closes before after) {journal : Journal}
    {earlier : App} (logged : before = { earlier with system := { earlier.system with journal } }) :
    component.Closes earlier after := by
  subst logged
  exact ⟨closes.calls, closes.streams, closes.pending, closes.client, closes.store,
    closes.synchronizer, closes.watches⟩

theorem Component.Closes.logAfter (closes : component.Closes before after) (journal : Journal) :
    component.Closes before { after with system := { after.system with journal } } :=
  ⟨closes.calls, closes.streams, closes.pending, closes.client, closes.store, closes.synchronizer,
    closes.watches⟩

theorem Component.Closes.isConfined (closes : component.Closes before after)
    (isConfined : before.IsConfined) : after.IsConfined := by
  constructor
  · rw [closes.streams]
    split
    · exact areConfined_nil
    · exact isConfined.streams
  · rw [closes.pending]
    split
    · exact areConfined_nil
    · exact isConfined.pending

theorem Closings.logBefore (closings : Closings components before after) {journal : Journal}
    {earlier : App} (logged : before = { earlier with system := { earlier.system with journal } }) :
    Closings components earlier after := by
  cases closings with
  | done =>
      subst logged
      exact .done
  | close closes later => exact .close (closes.logBefore logged) later

theorem Closings.logAfter (closings : Closings components before after) (journal : Journal) :
    Closings components before { after with system := { after.system with journal } } := by
  induction closings with
  | done => exact .done
  | close closes _ ih => exact .close closes ih

theorem Closings.handles (closings : Closings components before after) :
    after.hasClient = before.hasClient ∧ after.hasStore = before.hasStore ∧
      after.watches = before.watches ∧ after.synchronizer = before.synchronizer := by
  induction closings with
  | done => exact ⟨rfl, rfl, rfl, rfl⟩
  | close closes _ ih =>
      obtain ⟨client, store, watches, synchronizer⟩ := ih
      exact ⟨client.trans closes.client, store.trans closes.store, watches.trans closes.watches,
        synchronizer.trans closes.synchronizer⟩

theorem Closings.streams (closings : Closings components before after) :
    after.streams = (if .watcher ∈ components then [] else before.streams) ∧
      after.pending = if .watcher ∈ components then [] else before.pending := by
  induction closings with
  | done => exact ⟨rfl, rfl⟩
  | @close component rest before middle after closes _ ih =>
      rw [ih.1, ih.2, closes.streams, closes.pending]
      by_cases first : component = .watcher
      · simp [first]
      · simp [first, Ne.symm first]

/-- The calls that close, in the order in which the components are closed. Only the watches are not
closed by a call of their own. -/
theorem Closings.calls (closings : Closings components before after) :
    ∃ made, after.system.calls = before.system.calls ++ made ∧
      made.filterMap Call.closing? = components.filter (· ≠ .watcher) := by
  induction closings with
  | done => exact ⟨[], by simp, rfl⟩
  | @close component rest before middle after closes _ ih =>
      obtain ⟨made, appended, isClosedBy⟩ := closes.calls
      obtain ⟨others, othersAppended, othersClose⟩ := ih
      refine ⟨made ++ others, by rw [othersAppended, appended, List.append_assoc], ?_⟩
      rw [List.filterMap_append, othersClose]
      cases component with
      | watcher =>
          have closesNone : made.filterMap Call.closing? = [] :=
            List.filterMap_eq_nil_iff.mpr fun call member =>
              (isClosedBy call member).isNeutral.closing?
          simp [closesNone]
      | store | client =>
          obtain rfl := isClosedBy
          rfl

end Closings

namespace Lifecycle

variable {services : Services} {app : App}

theorem closeAll_ends (services : Services) (components : List Component) (app : App) :
    ∃ last, components.forM (closeStep services) app = .ok () last ∧
      (services.LeaveTime → app.IsConfined → Closings components app last) := by
  induction components generalizing app with
  | nil => exact ⟨app, rfl, fun _ _ => .done⟩
  | cons component rest ih =>
      obtain ⟨journal, closed⟩ := closeStep_ends services component app
      let closedApp : App := leaves (close services component) app
      obtain ⟨last, ran, later⟩ := ih { closedApp with system := { closedApp.system with journal } }
      refine ⟨last, ?_, fun leave isConfined => ?_⟩
      · rw [← ran]
        simp only [List.forM, Bind.bind, EStateM.bind, closed, closedApp]
      · have closes := (close_closes leave component isConfined).logAfter journal
        exact .close closes (later leave (closes.isConfined isConfined))

theorem stop_eq (services : Services) (app : App) : stop services app =
    (if app.components.isEmpty then pure ()
    else
      log .info "kubegraph shutting down"
          [("components", .arr (app.components.map fun component => .str component.name))] >>=
        fun _ => app.components.forM (closeStep services) >>=
          fun _ => log .info "kubegraph stopped" [] : Lifecycle Unit) app.released :=
  rfl

theorem stop_nothing (services : Services) (nothing : app.components = []) :
    stop services app = .ok () app.released := by
  rw [stop_eq, nothing]
  rfl

/-- A stop never fails. If there is time for it, it closes everything that is open, and nothing
else. -/
theorem stop_ends (services : Services) (app : App) :
    ∃ last, stop services app = .ok () last ∧
      (services.LeaveTime → app.IsConfined → Closings app.components app.released last) := by
  cases components : app.components with
  | nil => exact ⟨app.released, stop_nothing services components, fun _ _ => .done⟩
  | cons component rest =>
      let begins : LogRecord := ⟨.info, "app", "kubegraph shutting down",
        [("components", .arr ((component :: rest).map fun component => .str component.name))]⟩
      let begun : App := { app.released with system := app.released.system.log begins }
      obtain ⟨last, ran, closings⟩ := closeAll_ends services (component :: rest) begun
      have ends : stop services app = ((component :: rest).forM (closeStep services) >>=
          fun _ => log .info "kubegraph stopped" [] : Lifecycle Unit) begun := by
        rw [stop_eq, components]
        rfl
      refine ⟨_, ?_, fun leave isConfined =>
        ((closings leave ⟨isConfined.streams, isConfined.pending⟩).logBefore rfl).logAfter
          (last.system.journal.log ⟨.info, "app", "kubegraph stopped", []⟩)⟩
      rw [ends]
      simp only [Bind.bind, EStateM.bind, ran]
      rfl

end Lifecycle

end ClusterGraph
