import ClusterGraph.Lifecycle.Intake
import ClusterGraph.Proofs.Store.CallKinds
import ClusterGraph.Proofs.Watch.HandlerInvariants

namespace ClusterGraph

/-! Taking what the streams deliver makes calls of transactions only, as long as the handlers do so.
It opens no component and closes none, and it never fails. -/

theorem System.makes_lax (allowed : Call → Prop) : System.Lax (System.Makes allowed) :=
  ⟨.trans, .refl, fun _ _ makes => ⟨makes.calls, makes.faults⟩⟩

/-- Whatever object it is given, the handler makes calls of transactions only. -/
def OpenStream.IsConfined (stream : OpenStream) : Prop :=
  ∀ tree, Action.Advances (System.Makes Call.IsOfTransaction) (stream.handler tree)

def AreConfined (streams : List OpenStream) : Prop :=
  ∀ stream ∈ streams, stream.IsConfined

theorem areConfined_nil : AreConfined [] :=
  fun _ member => absurd member List.not_mem_nil

/-- A step with something that is confined leaves it so and makes calls of transactions only. -/
def Transacts {α : Type} (confined : α → Prop) (step : α → System → α × System) : Prop :=
  ∀ value system, confined value → confined (step value system).1 ∧
    system.Makes Call.IsOfTransaction (step value system).2

theorem Transacts.comp {α : Type} {confined : α → Prop} {first second : α → System → α × System}
    (firstTransacts : Transacts confined first) (secondTransacts : Transacts confined second) :
    Transacts confined fun value system =>
      second (first value system).1 (first value system).2 := by
  intro value system isConfined
  have begins := firstTransacts value system isConfined
  have ends := secondTransacts _ (first value system).2 begins.1
  exact ⟨ends.1, begins.2.trans ends.2⟩

namespace OpenStream

variable {stream : OpenStream}

theorem follow_isConfined (isConfined : stream.IsConfined) (other : OpenStream) :
    (stream.follow other).IsConfined := by
  unfold follow
  split <;> exact isConfined

theorem followAll_isConfined (isConfined : stream.IsConfined) (others : List OpenStream) :
    (others.foldl follow stream).IsConfined := by
  induction others generalizing stream with
  | nil => exact isConfined
  | cons other rest ih => exact ih (follow_isConfined isConfined other)

theorem fail_transacts (stream : OpenStream) (isConfined : stream.IsConfined) (failure : Failure)
    (state : WatchState) (system : System) :
    (stream.fail failure state system).1.IsConfined ∧
      system.Makes Call.IsOfTransaction (stream.fail failure state system).2 :=
  ⟨isConfined, stream.watch.settle_advances (System.makes_lax _) (some failure) state system⟩

theorem conclude_transacts : Transacts IsConfined conclude := by
  intro stream system isConfined
  unfold conclude
  cases stream.handled with
  | none => exact ⟨isConfined, .refl system⟩
  | some result =>
      obtain ⟨event, outcome⟩ := result
      have concludes := stream.watch.concludeEvent_advances
        (System.makes_lax Call.IsOfTransaction) event outcome system
      simp only [Action.after] at concludes ⊢
      generalize stream.watch.concludeEvent event outcome system = result at concludes ⊢
      cases result with
      | ok _ last => exact ⟨isConfined, concludes⟩
      | error failure last =>
          have fails := fail_transacts stream isConfined failure stream.state last
          exact ⟨fails.1, concludes.trans fails.2⟩

theorem skip_transacts (isConfined : stream.IsConfined) (events : List WatchEvent)
    (system : System) : (stream.skip events system).1.IsConfined ∧
      system.Makes Call.IsOfTransaction (stream.skip events system).2 := by
  induction events generalizing stream system with
  | nil =>
      unfold skip
      split
      · exact ⟨isConfined, .refl system⟩
      · exact fail_transacts stream isConfined _ _ system
  | cons event rest ih =>
      unfold skip
      split
      · exact ⟨isConfined, .refl system⟩
      · have received := stream.watch.receive_advances (System.makes_lax _) isConfined event
          stream.state system
        generalize stream.watch.receive stream.handler event stream.state system = result
          at received ⊢
        obtain ⟨failure, state, last⟩ := result
        cases failure with
        | none =>
            have continued : ({ stream with state } : OpenStream).IsConfined := isConfined
            have later := ih continued last
            exact ⟨later.1, received.trans later.2⟩
        | some failure =>
            have fails := fail_transacts stream isConfined failure state last
            exact ⟨fails.1, received.trans fails.2⟩

theorem advance_transacts : Transacts IsConfined advance := by
  intro stream system isConfined
  have concludes := conclude_transacts { stream with hasBegun := true } system isConfined
  unfold advance
  dsimp only
  split
  · exact concludes
  · have skips := skip_transacts concludes.1
      (conclude { stream with hasBegun := true } system).1.events
      (conclude { stream with hasBegun := true } system).2
    exact ⟨skips.1, concludes.2.trans skips.2⟩

theorem handle_transacts : Transacts IsConfined handle := by
  intro stream system isConfined
  unfold handle
  split
  · exact ⟨isConfined, .refl system⟩
  · rename_i event rest _
    have attempts := (System.makes_lax Call.IsOfTransaction).withContext
      (stream.watch.attempt_advances (System.makes_lax _) isConfined event)
      (stream.watch.contextOf event) system
    simp only [Action.after] at attempts ⊢
    generalize Action.withContext (stream.watch.contextOf event)
      (stream.watch.attempt stream.handler event) system = result at attempts ⊢
    cases result with
    | ok outcome last => exact ⟨isConfined, attempts⟩
    | error failure last =>
        have fails := fail_transacts stream isConfined failure stream.state last
        exact ⟨fails.1, attempts.trans fails.2⟩

theorem reopen_transacts : Transacts IsConfined reopen :=
  fun _ _ isConfined => ⟨isConfined, .of_same rfl rfl⟩

end OpenStream

theorem eachStream_transacts {step : OpenStream → System → OpenStream × System}
    (transacts : Transacts OpenStream.IsConfined step) :
    Transacts AreConfined (eachStream step) := by
  intro streams system areConfined
  have steps {done : List OpenStream} (doneConfined : AreConfined done) :
      AreConfined (stepStreams step done streams system).1 ∧
        system.Makes Call.IsOfTransaction (stepStreams step done streams system).2 := by
    induction streams generalizing done system with
    | nil => exact ⟨doneConfined, .refl system⟩
    | cons stream rest ih =>
        let current := done.foldl OpenStream.follow stream
        have stepped := transacts current system
          (OpenStream.followAll_isConfined (areConfined stream List.mem_cons_self) done)
        have doneLater : AreConfined
            (done.map (·.follow (step current system).1) ++ [(step current system).1]) := by
          intro other member
          rcases List.mem_append.mp member with earlier | last
          · obtain ⟨source, sourceMember, rfl⟩ := List.mem_map.mp earlier
            exact OpenStream.follow_isConfined (doneConfined source sourceMember) _
          · rw [List.mem_singleton.mp last]
            exact stepped.1
        have rested := ih (step current system).2
          (fun other member => areConfined other (List.mem_cons_of_mem stream member)) doneLater
        exact ⟨rested.1, stepped.2.trans rested.2⟩
  exact steps areConfined_nil

theorem takeRounds_transacts (rounds : Nat) : Transacts AreConfined (takeRounds rounds) := by
  induction rounds with
  | zero => exact fun _ system areConfined => ⟨areConfined, .refl system⟩
  | succ rounds ih =>
      exact ((eachStream_transacts OpenStream.advance_transacts).comp
        (eachStream_transacts OpenStream.handle_transacts)).comp ih

theorem drain_transacts : Transacts AreConfined drain := by
  intro streams system areConfined
  exact (takeRounds_transacts _).comp (eachStream_transacts OpenStream.advance_transacts) streams
    system areConfined

theorem takeRounds_nil (rounds : Nat) (system : System) :
    (takeRounds rounds [] system).1 = [] := by
  induction rounds generalizing system with
  | zero => rfl
  | succ rounds ih => exact ih system

/-- All its streams are confined, also those that no watch has come to open. -/
structure App.IsConfined (app : App) : Prop where
  streams : AreConfined app.streams
  pending : AreConfined app.pending

/-- The later program holds what the earlier one held, and it made calls of transactions only. -/
structure App.Works (before after : App) : Prop extends App.IsConfined after where
  system : before.system.Makes Call.IsOfTransaction after.system
  client : after.hasClient = before.hasClient
  store : after.hasStore = before.hasStore
  synchronizer : after.synchronizer = before.synchronizer
  watches : after.watches = before.watches
  noneOpen : before.pending = [] → after.pending = []
  noStreams : before.pending = [] → before.streams = [] → after.streams = []

theorem App.IsConfined.works {app : App} (isConfined : app.IsConfined) : app.Works app :=
  ⟨isConfined, .refl app.system, rfl, rfl, rfl, rfl, id, fun _ => id⟩

theorem App.Works.trans {before middle after : App} (first : before.Works middle)
    (second : middle.Works after) : before.Works after :=
  ⟨second.toIsConfined, first.system.trans second.system, second.client.trans first.client,
    second.store.trans first.store, second.synchronizer.trans first.synchronizer,
    second.watches.trans first.watches, fun none => second.noneOpen (first.noneOpen none),
    fun none noStreams => second.noStreams (first.noneOpen none) (first.noStreams none noStreams)⟩

namespace Lifecycle

variable {α β : Type}

/-- Run on a program with confined streams, the action does not fail, and it just works. -/
def Succeeds (action : Lifecycle α) : Prop :=
  ∀ app : App, app.IsConfined → ∃ value last, action app = .ok value last ∧ app.Works last

theorem Succeeds.bind {action : Lifecycle α} {next : α → Lifecycle β} (first : Succeeds action)
    (second : ∀ value, Succeeds (next value)) : Succeeds (action >>= next) := by
  intro app isConfined
  obtain ⟨value, middle, ran, begins⟩ := first app isConfined
  obtain ⟨result, last, nextRan, ends⟩ := second value middle begins.toIsConfined
  refine ⟨result, last, ?_, begins.trans ends⟩
  simp only [Bind.bind, EStateM.bind, ran, nextRan]

theorem succeeds_pure (value : α) : Succeeds (pure value : Lifecycle α) :=
  fun app isConfined => ⟨value, app, rfl, isConfined.works⟩

theorem succeeds_get : Succeeds (get : Lifecycle App) :=
  fun app isConfined => ⟨app, app, rfl, isConfined.works⟩

theorem succeeds_onStreams {change : List OpenStream → System → List OpenStream × System}
    (transacts : Transacts AreConfined change) (nothing : ∀ system, (change [] system).1 = []) :
    Succeeds (onStreams change) := by
  intro app isConfined
  have changed := transacts app.streams app.system isConfined.streams
  refine ⟨(), _, rfl, ⟨⟨changed.1, isConfined.pending⟩, changed.2, rfl, rfl, rfl, rfl, id, ?_⟩⟩
  intro _ noStreams
  dsimp only
  rw [noStreams]
  exact nothing app.system

theorem succeeds_eachStream {step : OpenStream → System → OpenStream × System}
    (transacts : Transacts OpenStream.IsConfined step) : Succeeds (onStreams (eachStream step)) :=
  succeeds_onStreams (eachStream_transacts transacts) fun _ => rfl

theorem succeeds_drain : Succeeds (onStreams drain) :=
  succeeds_onStreams drain_transacts fun _ => rfl

theorem succeeds_openStreams : Succeeds openStreams := by
  intro app isConfined
  refine ⟨(), _, rfl, ⟨⟨?_, areConfined_nil⟩, .of_same rfl rfl, rfl,
    rfl, rfl, rfl, fun _ => rfl, ?_⟩⟩
  · intro stream member
    rcases List.mem_append.mp member with isOpen | pending
    · exact isConfined.streams stream isOpen
    · obtain ⟨source, sourceMember, rfl⟩ := List.mem_map.mp pending
      exact OpenStream.followAll_isConfined (isConfined.pending source sourceMember) _
  · intro none noStreams
    simp [none, noStreams]

theorem succeeds_keepStreams (chosen : OpenStream → Bool) : Succeeds (keepStreams chosen) := by
  intro app isConfined
  refine ⟨(), _, rfl, ⟨⟨?_, isConfined.pending⟩, .of_same rfl rfl, rfl, rfl, rfl, rfl, id, ?_⟩⟩
  · intro stream member
    simp only [List.partition_eq_filter_filter] at member
    exact isConfined.streams stream (List.mem_of_mem_filter member)
  · intro _ noStreams
    simp [noStreams]

theorem succeeds_advanceStreams : Succeeds advanceStreams :=
  succeeds_eachStream OpenStream.advance_transacts

theorem succeeds_takeRound : Succeeds takeRound :=
  succeeds_onStreams (takeRounds_transacts 1) (takeRounds_nil 1)

theorem succeeds_reopenStreams (chosen : OpenStream → Bool) :
    Succeeds (reopenStreams chosen) := by
  have notes : Succeeds (modify fun app : App =>
      { app with opened := app.opened ++ (app.streams.filter chosen).map (·.watch) }) :=
    fun app isConfined =>
      ⟨(), _, rfl, ⟨⟨isConfined.streams, isConfined.pending⟩, .of_same rfl rfl, rfl, rfl, rfl, rfl,
        id, fun _ => id⟩⟩
  refine notes.bind fun _ => succeeds_eachStream ?_
  intro stream system isConfined
  dsimp only
  split
  · exact OpenStream.reopen_transacts stream system isConfined
  · exact ⟨isConfined, .refl system⟩

theorem succeeds_takeWithin (hasTime : Nat → Bool) (attempts : Nat) :
    Succeeds (takeWithin hasTime attempts) := by
  induction attempts with
  | zero => exact succeeds_drain
  | succ attempts ih =>
      refine succeeds_drain.bind fun _ => succeeds_get.bind fun app => ?_
      split
      · exact (succeeds_reopenStreams _).bind fun _ => ih
      · exact succeeds_pure ()

theorem succeeds_takeEvents : Succeeds takeEvents :=
  succeeds_get.bind fun _ => succeeds_takeWithin _ _

theorem succeeds_awaitRest : Succeeds awaitRest := by
  refine succeeds_get.bind fun app => ?_
  dsimp only
  split
  · exact succeeds_openStreams.bind fun _ => succeeds_takeEvents
  · exact succeeds_pure ()

end Lifecycle

end ClusterGraph
