import ClusterGraph.Proofs.Watch.ResumePoint
import Std.Data.String.ToNat

namespace ClusterGraph

/-! What becomes of a listing that breaks off. The next stream goes on from the version of the last
object that was handled, so of the objects that the listing still owed it brings the newer ones
only. -/

/-- An object of a kind, as a server lists it that counts its versions. -/
structure Listed where
  event : WatchEvent
  version : Nat
  added : event.type = "ADDED"
  versioned : event.version? = some (toString version)

namespace Listed

/-- What the server answers on a kind with these objects: asked for no version it lists them all,
in any order; asked to go on from a version it tells of the newer ones. -/
structure Answers (objects : List Listed) (asked : Option String) (answer : List Listed) :
    Prop where
  all : asked = none → ∀ listed, listed ∈ answer ↔ listed ∈ objects
  newer (version : Nat) : asked = some (toString version) →
    ∀ listed, listed ∈ answer ↔ listed ∈ objects ∧ version < listed.version

/-- The version of the object that was handled last. -/
def resumePoint (handled : List Listed) : Option Nat :=
  handled.getLast?.map version

/-- A stream in which the server tells of objects. -/
def stream (answer : List Listed) (failure : Option Failure := none) : WatchStream :=
  { events := answer.map event, failure }

theorem lastVersion?_events (handled : List Listed) :
    WatchEvent.lastVersion? (handled.map event) = (resumePoint handled).map toString := by
  have versions : WatchEvent.version? ∘ event = some ∘ fun listed => toString listed.version :=
    funext versioned
  rw [WatchEvent.lastVersion?, List.filterMap_map, versions, List.filterMap_eq_map,
    List.getLast?_map, resumePoint, Option.map_map]
  rfl

theorem Answers.mem_iff {objects answer : List Listed} {point : Option Nat}
    (answers : Answers objects (point.map toString) answer) (listed : Listed) :
    listed ∈ answer ↔ listed ∈ objects ∧ ∀ version ∈ point, version < listed.version := by
  cases point with
  | none => simpa using answers.all rfl listed
  | some version => simpa using answers.newer version rfl listed

end Listed

namespace Watch

open Listed Passage WatchEvent

variable {watch : Watch} {handler : Handler} {system : System}

theorem walk_ended {events : List WatchEvent} {ending failure : Option Failure}
    (ended : (watch.walk handler ending events system).2 = .ended failure) :
    (watch.walk handler ending events system).1 = events := by
  induction events generalizing system with
  | nil => rfl
  | cons event rest ih =>
      simp only [walk] at ended ⊢
      cases ran : watch.take handler event system with
      | error reason next => simp [ran] at ended
      | ok _ next =>
          simp only [ran] at ended
          simp only [ih ended]

theorem deliveries_listed (timely : watch.hasTime = true) (listed : List Listed) :
    (listed.map event).filterMap watch.delivery? =
      listed.map fun object => watch.objectOf object.event := by
  have handsOn : watch.delivery? ∘ event = some ∘ fun object => watch.objectOf object.event := by
    funext object
    simp [delivery?, hasObject, object.added, timely]
  rw [List.filterMap_map, handsOn, List.filterMap_eq_map]

/-- A stream that the server ended brought all of its events. -/
theorem passage_ended {stream : WatchStream} {state : WatchState} {failure : Option Failure}
    (ended : (watch.passage handler stream state system).stop = .ended failure) :
    (watch.passage handler stream state system).reached = stream.events := by
  have all : (watch.passage handler stream state system).handled = stream.events :=
    walk_ended ended
  rw [reached, all, ended]
  exact List.append_nil _

/-- A listing breaks off without an expiry and the next stream runs to its end. Then those objects
were handed on at which the listing had arrived, and those that are newer than the last of them that
was handled. -/
theorem broken_listing_delivers (watch : Watch) (handler : Handler) (system : System)
    (objects replay answer : List Listed) (position : Nat) (failure : Option Failure)
    {first second : Passage} (timely : watch.hasTime = true)
    (passages : watch.passages handler [stream (replay.take position) failure, stream answer] {}
      system = [first, second])
    (listing : Answers objects first.opened replay) (lasting : ¬ first.stop.Expires)
    (following : Answers objects second.opened answer) (clean : second.stop = .ended none) :
    ∃ reached handled, reached <+: replay.take position ∧ handled <+: reached ∧
      first.reached = reached.map event ∧ first.handled = handled.map event ∧
      ∀ tree, tree ∈ (watch.followAll handler
          [stream (replay.take position) failure, stream answer] {} system).1.delivered ↔
        ∃ listed ∈ objects, watch.objectOf listed.event = tree ∧
          (listed ∈ reached ∨ ∀ version ∈ resumePoint handled, version < listed.version) := by
  have delivered := watch.followAll_delivered handler
    [stream (replay.take position) failure, stream answer] {} system
  rw [passages] at delivered
  have version := watch.followStream_version handler (stream (replay.take position) failure) {}
    system
  simp only [Watch.passages, List.cons.injEq, and_true] at passages
  obtain ⟨isFirst, isSecond⟩ := passages
  rw [isFirst] at version
  have all : ∀ listed, listed ∈ replay ↔ listed ∈ objects := listing.all (isFirst ▸ rfl)
  obtain ⟨reached, arrived, isReached⟩ : ∃ reached, reached <+: replay.take position ∧
      first.reached = reached.map event := by
    rw [← isFirst]
    exact List.prefix_map_iff.mp (watch.walk_prefix handler failure _ system)
  obtain ⟨handled, done, isHandled⟩ : ∃ handled, handled <+: reached ∧
      first.handled = handled.map event := by
    rw [← List.prefix_map_iff, ← isReached]
    exact List.prefix_append _ _
  have resumed : second.opened = (resumePoint handled).map toString := by
    rcases version with ⟨-, version⟩ | ⟨expires, -⟩
    · rw [← isSecond, ← lastVersion?_events, ← isHandled, passage, version]
      exact Option.or_none
    · exact absurd expires lasting
  have sent : second.reached = answer.map event := by
    rw [← isSecond] at clean ⊢
    exact passage_ended clean
  refine ⟨reached, handled, arrived, done, isReached, isHandled, fun tree => ?_⟩
  have fromObjects : ∀ listed ∈ reached, listed ∈ objects := fun listed member =>
    (all listed).mp (List.mem_of_mem_take (arrived.subset member))
  simp only [delivered, List.flatMap_cons, List.flatMap_nil, List.append_nil, isReached, sent,
    ← List.map_append, deliveries_listed timely, List.nil_append, List.mem_map, List.mem_append,
    (resumed ▸ following).mem_iff]
  constructor
  · rintro ⟨listed, member | ⟨member, newer⟩, same⟩
    · exact ⟨listed, fromObjects listed member, same, .inl member⟩
    · exact ⟨listed, member, same, .inr newer⟩
  · rintro ⟨listed, member, same, there | newer⟩
    · exact ⟨listed, .inl there, same⟩
    · exact ⟨listed, .inr ⟨member, newer⟩, same⟩

section Lost

def firstPod : Listed := ⟨podAdded "7", 7, rfl, rfl⟩

def olderPod : Listed := ⟨podAdded "5", 5, rfl, rfl⟩

def newerPod : Listed := ⟨podAdded "9", 9, rfl, rfl⟩

def listedPods : List Listed := [firstPod, olderPod, newerPod]

def lostConnection : Option Failure := some (.stream "connection reset" .null)

def podStreams : List WatchStream :=
  [stream (listedPods.take 1) lostConnection, stream [newerPod]]

theorem listedPods_all : Answers listedPods none listedPods :=
  ⟨fun _ _ => Iff.rfl, fun _ asked => nomatch asked⟩

theorem listedPods_newer : Answers listedPods (some "7") [newerPod] where
  all asked := nomatch asked
  newer version asked listed := by
    obtain rfl : 7 = version := Nat.repr_inj.mp (Option.some.inj asked)
    constructor
    · intro member
      rw [List.mem_singleton.mp member]
      exact ⟨by simp [listedPods], by decide⟩
    · rintro ⟨member, newer⟩
      simp only [listedPods, List.mem_cons, List.not_mem_nil, or_false] at member
      rcases member with rfl | rfl | rfl
      · exact absurd newer (by decide)
      · exact absurd newer (by decide)
      · exact List.mem_singleton_self _

theorem lostConnection_lasting : ¬ (StreamEnd.ended lostConnection).Expires :=
  show ¬ Json.null.equals (.int 410) = true by decide

/-- The server lists the version 7 before the version 5 and the listing breaks off between them. The
next stream goes on from 7, so the object with the version 5 is never handed on. -/
theorem broken_listing_loses :
    ∃ first second,
      podWatch.passages ignore podStreams {} quiet = [first, second] ∧
      podWatch.hasTime = true ∧ Answers listedPods first.opened listedPods ∧
      first.stop = .ended lostConnection ∧ ¬ first.stop.Expires ∧
      Answers listedPods second.opened [newerPod] ∧ second.stop = .ended none ∧
      olderPod ∈ listedPods ∧ podWatch.objectOf olderPod.event ∉
        (podWatch.followAll ignore podStreams {} quiet).1.delivered := by
  refine ⟨_, _, rfl, rfl, listedPods_all, rfl, lostConnection_lasting, listedPods_newer, rfl,
    by simp [listedPods], ?_⟩
  have object (version : String) : podWatch.objectOf (podAdded version) =
      .obj [("metadata", .obj [("resourceVersion", .str version)]), ("apiVersion", .str "v1"),
        ("kind", .str "Pod")] := rfl
  have delivered : (podWatch.followAll ignore podStreams {} quiet).1.delivered =
      [podWatch.objectOf (podAdded "7"), podWatch.objectOf (podAdded "9")] := rfl
  rw [delivered]
  simp [olderPod, object]

/-- Of the same objects the first and the newer one are handed on. -/
theorem broken_listing_delivers_newer :
    ∃ first second reached handled,
      podWatch.passages ignore podStreams {} quiet = [first, second] ∧
      first.reached = List.map event reached ∧ first.handled = List.map event handled ∧
      ∀ tree, tree ∈ (podWatch.followAll ignore podStreams {} quiet).1.delivered ↔
        ∃ listed ∈ listedPods, podWatch.objectOf listed.event = tree ∧
          (listed ∈ reached ∨ ∀ version ∈ resumePoint handled, version < listed.version) := by
  obtain ⟨reached, handled, -, -, isReached, isHandled, delivered⟩ :=
    broken_listing_delivers podWatch ignore quiet listedPods listedPods [newerPod] 1 lostConnection
      rfl rfl listedPods_all lostConnection_lasting listedPods_newer rfl
  exact ⟨_, _, reached, handled, rfl, isReached, isHandled, delivered⟩

end Lost

end Watch

end ClusterGraph
