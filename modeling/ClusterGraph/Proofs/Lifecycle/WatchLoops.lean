import ClusterGraph.Lifecycle.Intake
import ClusterGraph.Proofs.Lifecycle.StagedStart
import ClusterGraph.Proofs.Settings.LoadedSettings

namespace ClusterGraph

/-! The watches that a start begins: one for each kind, or one for each time that the settings name
a kind. Watches of one kind go on from one version. -/

namespace WatchTarget

variable {kind : String} {kinds : List String} {target : WatchTarget}
  {targets selected : List WatchTarget}

theorem kind_of_find? (found : find? targets kind = some target) : target.kind = kind := by
  simpa using List.find?_some found

theorem kinds_of_found (all : ∀ kind ∈ kinds, (find? targets kind).isSome = true) :
    (kinds.filterMap (find? targets)).map (·.kind) = kinds := by
  induction kinds with
  | nil => rfl
  | cons kind rest ih =>
      obtain ⟨target, found⟩ := Option.isSome_iff_exists.mp (all kind List.mem_cons_self)
      rw [List.filterMap_cons_some found, List.map_cons, kind_of_find? found,
        ih fun other member => all other (List.mem_cons_of_mem kind member)]

/-- The kinds of the targets that are selected, each as often as it is asked for. -/
theorem select_kinds (accepted : select kinds targets = .ok selected) :
    selected.map (·.kind) = if kinds = [] then targets.map (·.kind) else kinds := by
  unfold select at accepted
  cases kinds with
  | nil =>
      cases accepted
      rfl
  | cons kind rest =>
      simp only [List.isEmpty_cons, Bool.false_eq_true, if_false] at accepted
      split at accepted
      · rename_i noneUnknown
        cases accepted
        rw [if_neg (List.cons_ne_nil kind rest)]
        refine kinds_of_found fun named member => ?_
        have known := List.filter_eq_nil_iff.mp noneUnknown named member
        simpa [Option.isSome_iff_ne_none] using known
      · contradiction

theorem builtin_kinds_nodup : (builtin.map (·.kind)).Nodup := by
  decide

end WatchTarget

namespace OpenStream

variable {stream other : OpenStream}

/-- The kind that the watch of a stream follows. -/
def kind (stream : OpenStream) : String :=
  stream.watch.target.kind

theorem sharesVersion_iff : stream.sharesVersion other = true ↔
    stream.watcher = other.watcher ∧ stream.kind = other.kind := by
  simp [sharesVersion, kind]

end OpenStream

namespace Settings

variable {environment : Environment}

/-- The kinds that the variable names, in its order and with all repetitions. -/
def namedKinds (environment : Environment) : List String :=
  splitKinds (valueOf environment "WATCH_KINDS" "")

/-- The kinds that are watched: those named, or all that can be watched if none is named. -/
def watchedKinds (environment : Environment) : List String :=
  if namedKinds environment = [] then WatchTarget.builtin.map (·.kind)
  else namedKinds environment

theorem watchedKinds_nodup :
    (watchedKinds environment).Nodup ↔ (namedKinds environment).Nodup := by
  unfold watchedKinds
  split
  · rename_i none
    simp [none, WatchTarget.builtin_kinds_nodup]
  · rfl

end Settings

namespace Lifecycle

variable {settings : Settings} {watches : List Watch}

theorem watchesOf_kinds {environment : Settings.Environment}
    (loaded : Settings.load environment = .ok settings)
    (accepted : watchesOf settings = .ok watches) :
    watches.map (·.target.kind) = Settings.watchedKinds environment := by
  have told := Settings.load_settles environment
  rw [loaded] at told
  have named : settings.kinds = Settings.namedKinds environment := Settings.Tells.kinds told
  unfold watchesOf at accepted
  cases selected : WatchTarget.select settings.kinds WatchTarget.builtin with
  | error error =>
      rw [selected] at accepted
      contradiction
  | ok targets =>
      rw [selected] at accepted
      cases accepted
      rw [Settings.watchedKinds, ← named, ← WatchTarget.select_kinds selected, List.map_map]
      rfl

theorem streamsOf_kinds (services : Services) (watcher : Nat) (synchronizer : Synchronizer)
    (watches : List Watch) : (streamsOf services watcher synchronizer watches).map OpenStream.kind =
      watches.map (·.target.kind) := by
  simp [streamsOf, OpenStream.kind, List.map_map, Function.comp_def]

/-- The watches of one watcher share no version exactly if their kinds are distinct. -/
theorem streamsOf_apart (services : Services) (watcher : Nat) (synchronizer : Synchronizer)
    (watches : List Watch) :
    (streamsOf services watcher synchronizer watches).Pairwise
        (fun stream other => stream.sharesVersion other = false) ↔
      (watches.map (·.target.kind)).Nodup := by
  rw [← streamsOf_kinds services watcher synchronizer, List.Nodup, List.pairwise_map]
  refine List.Pairwise.iff_of_mem fun {stream other} member otherMember => ?_
  have ofWatcher : ∀ stream ∈ streamsOf services watcher synchronizer watches,
      stream.watcher = watcher := by simp [streamsOf]
  rw [Bool.eq_false_iff, ne_eq, OpenStream.sharesVersion_iff, ofWatcher stream member,
    ofWatcher other otherMember]
  simp

/-- A start that succeeds begins one loop for each time that the variable names a kind, and one for
each kind that can be watched if it names none. So no kind has two loops, and no two loops share a
version, exactly if the variable names no kind twice. -/
theorem start_loops (services : Services) (app : App) :
    match start services app with
    | .ok _ last => ∃ loops, last.pending = app.pending ++ loops ∧
        loops.map OpenStream.kind = Settings.watchedKinds services.environment ∧
        ((loops.map OpenStream.kind).Nodup ↔
          (Settings.namedKinds services.environment).Nodup) ∧
        (loops.Pairwise (fun stream other => stream.sharesVersion other = false) ↔
          (Settings.namedKinds services.environment).Nodup)
    | .error _ last => last.pending = app.pending ∧
        (services.AreReady → app.system.database.faults ≠ []) := by
  have ends := start_ends services app
  generalize start services app = result at ends ⊢
  cases result with
  | error failure last =>
      obtain ⟨reached, _, brings⟩ := ends.part
      exact ⟨brings.pending, ends.reason⟩
  | ok _ last =>
      obtain ⟨settings, watches, synchronizer, loaded, accepted, _, _, pending⟩ := ends
      have kinds := watchesOf_kinds loaded accepted
      refine ⟨_, pending, ?_, ?_, ?_⟩
      · rw [streamsOf_kinds, kinds]
      · rw [streamsOf_kinds, kinds, Settings.watchedKinds_nodup]
      · rw [streamsOf_apart, kinds, Settings.watchedKinds_nodup]

/-- Everything is as it should be, but one kind is named twice. -/
def namingPodsTwice : Services where
  environment name := if name = "WATCH_KINDS" then some "Pod,Pod" else none
  clock := .time .epoch

/-- Such a start succeeds and begins two loops of that kind, which share a version. -/
theorem start_loops_namingPodsTwice : ∃ settings watches last,
    Settings.load namingPodsTwice.environment = .ok settings ∧
      WatchTarget.select settings.kinds WatchTarget.builtin = .ok watches ∧
      start namingPodsTwice { system := { journal := { threshold := 0 } } } = .ok () last ∧
      last.pending.map OpenStream.kind = ["Pod", "Pod"] ∧
      ¬ (last.pending.map OpenStream.kind).Nodup ∧
      ¬ last.pending.Pairwise (fun stream other => stream.sharesVersion other = false) := by
  have accepted : ((Settings.load namingPodsTwice.environment).toOption.bind fun settings =>
      (WatchTarget.select settings.kinds WatchTarget.builtin).toOption).isSome = true := by
    decide +kernel
  have begun : (match start namingPodsTwice { system := { journal := { threshold := 0 } } } with
      | .ok _ last => some (last.pending.map OpenStream.kind, decide (last.pending.Pairwise
          (fun stream other => stream.sharesVersion other = false)))
      | .error _ _ => none) = some (["Pod", "Pod"], false) := by
    decide +kernel
  cases loaded : Settings.load namingPodsTwice.environment with
  | error error => simp [loaded, Except.toOption] at accepted
  | ok settings =>
      cases selected : WatchTarget.select settings.kinds WatchTarget.builtin with
      | error error => simp [loaded, selected, Except.toOption] at accepted
      | ok watches =>
          cases ran : start namingPodsTwice { system := { journal := { threshold := 0 } } } with
          | error failure last => simp [ran] at begun
          | ok _ last =>
              simp only [ran, Option.some.injEq, Prod.mk.injEq, decide_eq_false_iff_not] at begun
              refine ⟨settings, watches, last, rfl, selected, rfl, begun.1, ?_, begun.2⟩
              rw [begun.1]
              decide

end Lifecycle

end ClusterGraph
