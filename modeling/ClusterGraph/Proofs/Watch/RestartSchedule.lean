import ClusterGraph.Proofs.History.SyncTotals
import ClusterGraph.Proofs.Watch.HandlerInvariants
import ClusterGraph.Proofs.Watch.ResumePoint
import Mathlib.Data.List.Induction

namespace ClusterGraph

/-! When a watch waits before it opens the next stream. The delays double from failure to failure
up to a minute and start over once a stream ends well. A relist neither waits nor starts them
over, and it takes a version that some event has brought since the relist before. -/

namespace WatchEvent

theorem exists_version {events : List WatchEvent} (versioned : (lastVersion? events).isSome = true) :
    ∃ event ∈ events, event.version?.isSome = true := by
  obtain ⟨version, last⟩ := Option.isSome_iff_exists.mp versioned
  obtain ⟨event, member, has⟩ := List.mem_filterMap.mp (List.mem_of_getLast? last)
  exact ⟨event, member, by simp [has]⟩

end WatchEvent

namespace Passage

/-- The stream failed and no version was dropped for it, so that the next has to wait. -/
def waits (passage : Passage) : Bool :=
  passage.stop.failure?.isSome && !passage.relisted

/-- The waits since a stream last ended well. -/
def waitsSinceCleanEnd (passages : List Passage) : Nat :=
  (passages.reverse.takeWhile (·.stop.failure?.isSome)).countP waits

theorem waitsSinceCleanEnd_concat (earlier : List Passage) (passage : Passage) :
    waitsSinceCleanEnd (earlier ++ [passage]) =
      if passage.stop.failure?.isSome then
        waitsSinceCleanEnd earlier + if passage.waits then 1 else 0
      else 0 := by
  cases failed : passage.stop.failure?.isSome <;>
    simp [waitsSinceCleanEnd, failed, List.countP_cons]

theorem failure?_eq_none {stop : StreamEnd} : stop.failure? = none ↔ stop = .ended none := by
  cases stop <;> simp [StreamEnd.failure?]

theorem exists_version_concat {earlier : List Passage} {passage : Passage}
    {version : Option String}
    (brought : version.isSome = true →
      ∃ event ∈ earlier.flatMap handled, event.version?.isSome = true)
    (left : ((WatchEvent.lastVersion? passage.handled).or version).isSome = true) :
    ∃ event ∈ (earlier ++ [passage]).flatMap handled, event.version?.isSome = true := by
  simp only [List.flatMap_append, List.flatMap_singleton, List.mem_append]
  rw [Option.isSome_or, Bool.or_eq_true] at left
  obtain now | before := left
  · obtain ⟨event, member, versioned⟩ := WatchEvent.exists_version now
    exact ⟨event, .inr member, versioned⟩
  · obtain ⟨event, member, versioned⟩ := brought before
    exact ⟨event, .inl member, versioned⟩

theorem waits_eq_false {passage : Passage} :
    passage.waits = false ↔ passage.stop = .ended none ∨ passage.relisted = true := by
  rw [← failure?_eq_none]
  cases failed : passage.stop.failure? <;> simp [waits, failed]

end Passage

/-- A series has the value that it had. -/
def System.Keeps (series : Series) (before after : System) : Prop :=
  after.counters.value series = before.counters.value series

namespace System.Keeps

variable {series : Series} {before middle after : System}

theorem refl (system : System) : system.Keeps series system :=
  rfl

theorem trans (first : before.Keeps series middle) (second : middle.Keeps series after) :
    before.Keeps series after :=
  Eq.trans second first

end System.Keeps

theorem System.keeps_lax (series : Series) : System.Lax (System.Keeps series) :=
  ⟨.trans, .refl, fun _ _ keeps => keeps⟩

theorem Save.action_restarts (save : Save) (kind : String) :
    Action.Advances (System.Keeps (.restarts kind)) save.action := by
  cases save with
  | upsert node =>
      have saves : Action.Advances (System.Keeps (.restarts kind)) (Action.saveNode node) :=
        fun system => (Action.saveNode_tallies_nodes node system).value id
      exact saves.bind .trans fun _ => Action.advances_pure .refl _
  | replace source descriptors =>
      have saves : Action.Advances (System.Keeps (.restarts kind))
          (Action.saveRelationships source descriptors) := fun system =>
        (Action.saveRelationships_tallies_edges source descriptors system).value id
      exact saves.bind .trans fun _ => Action.advances_pure .refl _

theorem commitAll_restarts (saves : List Save) (kind : String) (system : System) :
    system.Keeps (.restarts kind) (commitAll saves system).2 := by
  induction saves generalizing system with
  | nil => exact .refl system
  | cons save rest ih =>
      have first := save.action_restarts kind system
      simp only [Action.after, commitAll] at first ⊢
      generalize save.action system = result at first ⊢
      cases result with
      | ok _ next => exact first.trans (ih next)
      | error failure next => exact first

theorem Synchronizer.handler_restarts (synchronizer : Synchronizer) (kind : String) (tree : Json) :
    Action.Advances (System.Keeps (.restarts kind)) (synchronizer.handler tree) := by
  intro system
  have reports := synchronizer.reports_sync tree system
  have saves := commitAll_restarts (Step.savesOf synchronizer tree) kind system
  rw [Watch.after_handler]
  exact saves.trans (reports.values (.restarts kind) (by simp [Series.IsSynced]))

namespace Watch

open Passage WatchEvent

variable {handler : Handler} {series : Series}

section Counter

theorem settle_counters (watch : Watch) (failure : Option Failure) (state : WatchState)
    (system : System) : (watch.settle failure state system).2.counters = system.counters := by
  cases failure with
  | none => rfl
  | some failure =>
      simp only [settle]
      split <;> rfl

theorem followStream_counted (watch : Watch)
    (keeps : ∀ tree, Action.Advances (System.Keeps (.restarts watch.target.kind)) (handler tree))
    (stream : WatchStream) (state : WatchState) (system : System) :
    (watch.followStream handler stream state system).2.counters.value
        (.restarts watch.target.kind) =
      system.counters.value (.restarts watch.target.kind) + 1 := by
  have followed := watch.follow_advances (System.keeps_lax _) keeps stream.failure stream.events
    { state with openings := state.openings ++ [state.version] } system
  simp only [followStream, countRestart, System.count, Counters.value_add, if_true,
    settle_counters]
  rw [followed]

end Counter

section Schedule

variable (watch : Watch) (handler : Handler) (streams : List WatchStream) (stream : WatchStream)
  (state : WatchState) (system : System)

theorem follow_schedule (ending : Option Failure) (events : List WatchEvent) :
    (watch.follow handler ending events state system).2.1.sleeps = state.sleeps ∧
      (watch.follow handler ending events state system).2.1.delay = state.delay := by
  induction events generalizing state system with
  | nil => exact ⟨rfl, rfl⟩
  | cons event rest ih =>
      simp only [follow, receive]
      cases watch.take handler event system with
      | ok _ next => exact ih _ next
      | error failure next => exact ⟨rfl, rfl⟩

/-- The three ways on from a stream: without a wait after a good end, without one after a relist,
and otherwise with a wait that makes the next one longer. -/
theorem followStream_schedule :
    let passage := watch.passage handler stream state system
    let next := (watch.followStream handler stream state system).1
    next.sleeps = state.sleeps ++ (if passage.waits then [state.delay] else []) ∧
      next.delay =
        if passage.stop.failure?.isSome then
          if passage.waits then min (state.delay * 2) 60 else state.delay
        else 1 := by
  intro passage next
  let opened := { state with openings := state.openings ++ [state.version] }
  obtain ⟨stops, -⟩ := watch.follow_walk handler stream.failure stream.events system opened
  obtain ⟨sleeps, delay⟩ :=
    watch.follow_schedule handler opened system stream.failure stream.events
  have stop : passage.stop =
      (watch.walk handler stream.failure stream.events system).2 := rfl
  have relisted : passage.relisted =
      ((watch.follow handler stream.failure stream.events opened system).2.1.version.isSome &&
        next.version.isNone) := rfl
  have settled : next = (watch.settle
      (watch.follow handler stream.failure stream.events opened system).1
      (watch.follow handler stream.failure stream.events opened system).2.1
      (watch.follow handler stream.failure stream.events opened system).2.2).1 := rfl
  rw [← stop] at stops
  rw [waits, relisted, settled, stops]
  generalize (watch.follow handler stream.failure stream.events opened system).2 = followed
    at sleeps delay
  obtain ⟨held, after⟩ := followed
  simp only at sleeps delay ⊢
  cases passage.stop.failure? with
  | none => simp [settle, sleeps, firstDelay, opened]
  | some failure =>
      simp only [settle]
      split
      · rename_i drops
        rw [Bool.and_eq_true] at drops
        simp [sleeps, delay, drops.2, opened]
      · cases held.version <;> simp [sleeps, delay, greatestDelay, opened]

theorem passages_concat :
    watch.passages handler (streams ++ [stream]) state system =
      watch.passages handler streams state system ++
        [watch.passage handler stream (watch.followAll handler streams state system).1
          (watch.followAll handler streams state system).2] := by
  induction streams generalizing state system with
  | nil => rfl
  | cons first rest ih => simp only [List.cons_append, passages, followAll, ih]

theorem followAll_concat :
    watch.followAll handler (streams ++ [stream]) state system =
      watch.followStream handler stream (watch.followAll handler streams state system).1
        (watch.followAll handler streams state system).2 := by
  induction streams generalizing state system with
  | nil => rfl
  | cons first rest ih => simp only [List.cons_append, followAll, ih]

/-- The delay grows with each wait since a stream last ended well. What a stream does to it is told
by its end. -/
theorem followAll_delay (held : Option String) :
    (watch.followAll handler streams { version := held } system).1.delay =
      min (2 ^ waitsSinceCleanEnd
        (watch.passages handler streams { version := held } system)) 60 := by
  induction streams using List.reverseRecOn with
  | nil => rfl
  | append_singleton rest last ih =>
      obtain ⟨-, next⟩ := watch.followStream_schedule handler last
        (watch.followAll handler rest { version := held } system).1
        (watch.followAll handler rest { version := held } system).2
      rw [followAll_concat, passages_concat, waitsSinceCleanEnd_concat, next, ih]
      generalize waitsSinceCleanEnd _ = waited
      split
      · split
        · rw [Nat.pow_succ]
          omega
        · rfl
      · rfl

/-- A version that is held after a relist is one that was brought since. -/
theorem exists_version_since_relist {earlier between : List Passage} {previous : Passage}
    (split : watch.passages handler streams state system = earlier ++ previous :: between)
    (relisted : previous.relisted = true)
    (held : (watch.followAll handler streams state system).1.version.isSome = true) :
    ∃ event ∈ between.flatMap Passage.handled, event.version?.isSome = true := by
  induction streams using List.reverseRecOn generalizing between with
  | nil => simp [passages] at split
  | append_singleton rest last ih =>
      rw [passages_concat] at split
      rw [followAll_concat] at held
      have kept := watch.followStream_version handler last
        (watch.followAll handler rest state system).1 (watch.followAll handler rest state system).2
      obtain rfl | ⟨others, passage, rfl⟩ := List.eq_nil_or_concat' between
      · obtain ⟨-, isLast⟩ := List.append_inj' split rfl
        cases isLast
        obtain ⟨expires, -⟩ := (watch.relisted_iff handler last _ _).mp relisted
        obtain ⟨lasting, -⟩ | ⟨-, dropped⟩ := kept
        · exact absurd expires lasting
        · simp [dropped] at held
      · rw [← List.cons_append, ← List.append_assoc] at split
        obtain ⟨prior, isLast⟩ := List.append_inj' split rfl
        cases isLast
        obtain ⟨-, version⟩ | ⟨-, dropped⟩ := kept
        · rw [version] at held
          exact exists_version_concat (ih prior) held
        · simp [dropped] at held

theorem followAll_counted
    (keeps : ∀ tree, Action.Advances (System.Keeps (.restarts watch.target.kind)) (handler tree)) :
    (watch.followAll handler streams state system).2.counters.value
        (.restarts watch.target.kind) =
      system.counters.value (.restarts watch.target.kind) + streams.length := by
  induction streams generalizing state system with
  | nil => rfl
  | cons stream rest ih =>
      simp only [followAll, ih, watch.followStream_counted keeps, List.length_cons]
      omega

end Schedule

/-- The schedule of a watch from its start on, whatever its streams have brought before the one
that is looked at. That stream is followed by a wait exactly if it neither ends well nor leads to a
relist; with `k` waits since a stream last ended well, it is one of `2 ^ k` seconds and at most a
minute, and relists make no difference. Since a relist some event was handled that has a version,
or there is no other: an expiry makes the watch wait then. The counter of restarts tells how many
streams came before, if the handler leaves it alone. -/
theorem restart_schedule (watch : Watch) (handler : Handler) (streams : List WatchStream)
    (stream : WatchStream) (held : Option String) (start : System) :
    let passages := watch.passages handler streams { version := held } start
    let state := (watch.followAll handler streams { version := held } start).1
    let system := (watch.followAll handler streams { version := held } start).2
    let passage := watch.passage handler stream state system
    let next := (watch.followStream handler stream state system).1
    let delay := min (2 ^ waitsSinceCleanEnd passages) 60
    (next.sleeps = state.sleeps ++ if passage.waits then [delay] else []) ∧
    (next.sleeps = state.sleeps ↔ passage.stop = .ended none ∨ passage.relisted = true) ∧
    (∀ earlier previous between, passages = earlier ++ previous :: between →
      previous.relisted = true →
        (passage.relisted = true →
          ∃ event ∈ (between ++ [passage]).flatMap Passage.handled,
            event.version?.isSome = true) ∧
        (passage.stop.Expires →
          (∀ event ∈ (between ++ [passage]).flatMap Passage.handled, event.version? = none) →
            next.sleeps = state.sleeps ++ [delay])) ∧
    ((∀ tree, Action.Advances (System.Keeps (.restarts watch.target.kind)) (handler tree)) →
      system.counters.value (.restarts watch.target.kind) =
        start.counters.value (.restarts watch.target.kind) + streams.length) := by
  intro passages state system passage next delay
  obtain ⟨slept, -⟩ := watch.followStream_schedule handler stream state system
  rw [watch.followAll_delay handler streams start held] at slept
  have unslept : next.sleeps = state.sleeps ↔ passage.waits = false := by
    change next.sleeps = _ at slept
    rw [slept]
    cases passage.waits <;> simp
  refine ⟨slept, unslept.trans waits_eq_false, fun earlier previous between split relisted => ?_,
    watch.followAll_counted handler streams _ start⟩
  have progress : passage.relisted = true →
      ∃ event ∈ (between ++ [passage]).flatMap Passage.handled,
        event.version?.isSome = true := by
    intro again
    obtain ⟨-, left⟩ := (watch.relisted_iff handler stream state system).mp again
    exact exists_version_concat
      (watch.exists_version_since_relist handler streams _ start split relisted) left
  refine ⟨progress, fun expires versionless => ?_⟩
  have fails : passage.stop ≠ .ended none := fun ended => by rw [ended] at expires; exact expires
  have lasting : passage.relisted ≠ true := fun again => by
    obtain ⟨event, member, versioned⟩ := progress again
    simp [versionless event member] at versioned
  have waiting : passage.waits = true := by
    rw [← Bool.not_eq_false, waits_eq_false, not_or]
    exact ⟨fails, lasting⟩
  change next.sleeps = _ at slept
  rw [slept, waiting, if_pos rfl]

def plainSynchronizer : Synchronizer :=
  ⟨{ clock := .time .epoch }, ⟨[], [], []⟩⟩

def gone : Option Failure :=
  some (.stream "Gone" (.int 410))

/-- A failure, a relist, and an expiry before any event has come. -/
def starvedStreams : List WatchStream :=
  [{ events := [podAdded "10"], failure := some (.stream "connection reset" .null) },
   { events := [podAdded "12"], failure := gone },
   { events := [], failure := gone }]

/-- After the relist an expiry leads to a wait as long as no event comes, and to the next relist
once one has come. -/
theorem restart_schedule_starved :
    let handler := plainSynchronizer.handler
    let state := (podWatch.followAll handler starvedStreams {} quiet).1
    let system := (podWatch.followAll handler starvedStreams {} quiet).2
    let fed : WatchStream := { events := [podAdded "14"], failure := gone }
    let passage := podWatch.passage handler fed state system
    state.sleeps = [1, 2] ∧
      (podWatch.followStream handler { events := [], failure := gone } state system).1.sleeps =
        [1, 2, 4] ∧
      passage.relisted = true ∧ (∃ event ∈ passage.handled, event.version?.isSome = true) ∧
      (podWatch.followStream handler fed state system).1.sleeps = [1, 2] ∧
      system.counters.value (.restarts "Pod") = 3 := by
  intro handler state system fed passage
  let first : Passage :=
    { opened := none, handled := [podAdded "10"],
      stop := .ended (some (.stream "connection reset" .null)), relisted := false }
  let second : Passage :=
    { opened := some "10", handled := [podAdded "12"], stop := .ended gone, relisted := true }
  let third : Passage := { opened := none, handled := [], stop := .ended gone, relisted := false }
  have brought : podWatch.passages handler starvedStreams {} quiet =
      [first] ++ second :: [third] := rfl
  have slept : state.sleeps = [1, 2] := rfl
  obtain ⟨-, -, starved, counted⟩ := restart_schedule podWatch handler starvedStreams
    { events := [], failure := gone } none quiet
  obtain ⟨-, waits⟩ := starved [first] second [third] brought rfl
  obtain ⟨-, unslept, relists, -⟩ := restart_schedule podWatch handler starvedStreams fed none quiet
  have relisted : passage.relisted = true := rfl
  refine ⟨slept, waits rfl (List.forall_mem_nil _), relisted,
    (relists [first] second [third] brought rfl).1 relisted, ?_,
    counted (plainSynchronizer.handler_restarts "Pod")⟩
  exact (unslept.mpr (.inr relisted)).trans slept

end Watch

end ClusterGraph
