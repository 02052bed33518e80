import ClusterGraph.Watch.Stream

namespace ClusterGraph

/-! Where a watch goes on. Every stream that it opens goes on from the last version among the events
that were handled since the last relist, and nothing but an expiry of that version makes it
relist. -/

/-- The watch holds that its version has expired: an exception with the status 410, or the failure
that error events are turned into. -/
def Failure.IsGone : Failure → Prop
  | .stream _ status => status.equals (.int 410) = true
  | .expired _ => True
  | _ => False

/-- How a stream stops: at an event whose handling fails, or where the server ends it. -/
inductive StreamEnd where
  | failed (event : WatchEvent) (failure : Failure)
  | ended (failure : Option Failure)

namespace StreamEnd

def failure? : StreamEnd → Option Failure
  | .failed _ failure => some failure
  | .ended failure => failure

def event? : StreamEnd → Option WatchEvent
  | .failed event _ => some event
  | .ended _ => none

/-- An error event stops the stream by an expiry if what it says can be shown. -/
def Expires : StreamEnd → Prop
  | .failed event failure =>
      if event.type = "ERROR" then event.reason.textFault? = none else failure.IsGone
  | .ended (some failure) => failure.IsGone
  | .ended none => False

end StreamEnd

/-- What one stream brought. -/
structure Passage where
  /-- The version that the stream was opened with. -/
  opened : Option String
  handled : List WatchEvent
  stop : StreamEnd
  /-- The version that was held when the stream stopped is dropped. -/
  relisted : Bool

namespace WatchEvent

/-- The version of the last event that has one. -/
def lastVersion? (events : List WatchEvent) : Option String :=
  (events.filterMap version?).getLast?

theorem lastVersion?_append (earlier later : List WatchEvent) :
    lastVersion? (earlier ++ later) = (lastVersion? later).or (lastVersion? earlier) := by
  rw [lastVersion?, List.filterMap_append, List.getLast?_append]
  rfl

theorem lastVersion?_cons (event : WatchEvent) (later : List WatchEvent) :
    lastVersion? (event :: later) = (lastVersion? later).or event.version? := by
  have alone : lastVersion? [event] = event.version? := by
    cases version : event.version? <;> simp [lastVersion?, version]
  rw [← List.singleton_append, lastVersion?_append, alone]

end WatchEvent

namespace Json

/-- Lists within each other, and nothing else. -/
def nested : Nat → Json
  | 0 => .arr []
  | number + 1 => .arr [nested number]

theorem depth_nested (number : Nat) : (nested number).depth = number + 1 := by
  induction number with
  | zero => rfl
  | succ number ih => simp [nested, depth, itemsDepth, ih]

end Json

namespace Passage

/-- The events that the handling was tried on. -/
def reached (passage : Passage) : List WatchEvent :=
  passage.handled ++ passage.stop.event?.toList

/-- The events handled since the last relist. -/
def eventsSinceRelist (passages : List Passage) : List WatchEvent :=
  (passages.reverse.takeWhile (!·.relisted)).reverse.flatMap Passage.handled

theorem eventsSinceRelist_concat (earlier : List Passage) (passage : Passage) :
    eventsSinceRelist (earlier ++ [passage]) =
      if passage.relisted then [] else eventsSinceRelist earlier ++ passage.handled := by
  cases relisted : passage.relisted <;> simp [eventsSinceRelist, relisted]

end Passage

namespace Watch

open Passage WatchEvent

variable {watch : Watch} {handler : Handler} {failure : Failure} {event : WatchEvent}

theorem isExpired_iff : isExpired failure = true ↔ failure.IsGone := by
  cases failure <;> simp [isExpired, Failure.IsGone]

theorem take_error (watch : Watch) (handler : Handler) (isError : event.type = "ERROR")
    (system : System) : watch.take handler event system = .error (watch.complain event) system := by
  have thrown : watch.handle handler event system = .error (watch.complain event) system := by
    unfold handle
    simp only [isError, beq_self_eq_true, if_true]
    rfl
  simp only [take, bind, EStateM.bind, thrown]

theorem isExpired_complain (watch : Watch) (event : WatchEvent) :
    isExpired (watch.complain event) = event.reason.textFault?.isNone := by
  unfold complain
  cases event.reason.textFault? <;> rfl

/-- The events of a stream whose handling returns, up to the first whose handling fails, and how
the stream stops. -/
def walk (watch : Watch) (handler : Handler) (ending : Option Failure) :
    List WatchEvent → System → List WatchEvent × StreamEnd
  | [], _ => ([], .ended ending)
  | event :: rest, system =>
      match watch.take handler event system with
      | .ok _ system =>
          let (handled, stop) := watch.walk handler ending rest system
          (event :: handled, stop)
      | .error failure _ => ([], .failed event failure)

section Walk

variable (watch : Watch) (handler : Handler) (ending : Option Failure) (events : List WatchEvent)
  (system : System)

theorem walk_prefix : (watch.walk handler ending events system).1 ++
    (watch.walk handler ending events system).2.event?.toList <+: events := by
  induction events generalizing system with
  | nil => exact List.prefix_refl _
  | cons event rest ih =>
      simp only [walk]
      cases watch.take handler event system with
      | ok _ next => exact List.cons_prefix_cons.mpr ⟨rfl, ih next⟩
      | error failure next => exact List.cons_prefix_cons.mpr ⟨rfl, List.nil_prefix⟩

/-- An event stops a stream because its handling fails. -/
theorem walk_stop {event : WatchEvent} {failure : Failure}
    (stopped : (watch.walk handler ending events system).2 = .failed event failure) :
    ∃ before after, watch.take handler event before = .error failure after := by
  induction events generalizing system with
  | nil => cases stopped
  | cons first rest ih =>
      simp only [walk] at stopped
      cases ran : watch.take handler first system with
      | ok _ next =>
          simp only [ran] at stopped
          exact ih next stopped
      | error reason next =>
          simp only [ran] at stopped
          cases stopped
          exact ⟨system, next, ran⟩

/-- No error event is handled. -/
theorem walk_handled {event : WatchEvent}
    (handled : event ∈ (watch.walk handler ending events system).1) : event.type ≠ "ERROR" := by
  induction events generalizing system with
  | nil => simp [walk] at handled
  | cons first rest ih =>
      simp only [walk] at handled
      cases ran : watch.take handler first system with
      | error reason next => simp [ran] at handled
      | ok _ next =>
          simp only [ran, List.mem_cons] at handled
          rcases handled with rfl | later
          · intro isError
            rw [watch.take_error handler isError system] at ran
            cases ran
          · exact ih next later

theorem expires_walk : (watch.walk handler ending events system).2.Expires ↔
    ∃ failure, (watch.walk handler ending events system).2.failure? = some failure ∧
      isExpired failure = true := by
  cases stopped : (watch.walk handler ending events system).2 with
  | failed event failure =>
      obtain ⟨before, after, fails⟩ := watch.walk_stop handler ending events system stopped
      simp only [StreamEnd.Expires, StreamEnd.failure?, Option.some.injEq, exists_eq_left']
      split
      · rename_i isError
        rw [watch.take_error handler isError before] at fails
        cases fails
        rw [isExpired_complain, Option.isNone_iff_eq_none]
      · exact isExpired_iff.symm
  | ended failure =>
      cases failure with
      | none => simp [StreamEnd.Expires, StreamEnd.failure?]
      | some failure => simp [StreamEnd.Expires, StreamEnd.failure?, isExpired_iff]

/-- Following a stream comes to the same stop, holds the last version that was handled and hands on
the objects up to the stop. -/
theorem follow_walk (state : WatchState) :
    (watch.follow handler ending events state system).1 =
        (watch.walk handler ending events system).2.failure? ∧
      (watch.follow handler ending events state system).2.1.version =
        (lastVersion? (watch.walk handler ending events system).1).or state.version ∧
      (watch.follow handler ending events state system).2.1.openings = state.openings ∧
      (watch.follow handler ending events state system).2.1.delivered = state.delivered ++
        ((watch.walk handler ending events system).1 ++
          (watch.walk handler ending events system).2.event?.toList).filterMap watch.delivery? := by
  induction events generalizing state system with
  | nil => simp [follow, walk, StreamEnd.failure?, StreamEnd.event?, lastVersion?]
  | cons event rest ih =>
      cases ran : watch.take handler event system with
      | error failure next =>
          simp [follow, walk, receive, ran, StreamEnd.failure?, StreamEnd.event?, lastVersion?,
            List.filterMap_cons]
          cases watch.delivery? event <;> rfl
      | ok _ next =>
          let handed := { state with
            delivered := state.delivered ++ (watch.delivery? event).toList }
          obtain ⟨failed, version, openings, delivered⟩ := ih next (handed.seen event)
          simp only [follow, walk, receive, ran]
          refine ⟨failed, ?_, openings, ?_⟩
          · rw [version, lastVersion?_cons, Option.or_assoc]
            rfl
          · rw [delivered]
            simp only [WatchState.seen, handed, List.append_assoc, List.cons_append,
              List.filterMap_cons]
            cases watch.delivery? event <;> rfl

end Walk

/-- What a stream brings to a watch. -/
def passage (watch : Watch) (handler : Handler) (stream : WatchStream) (state : WatchState)
    (system : System) : Passage :=
  let opened := { state with openings := state.openings ++ [state.version] }
  let (handled, stop) := watch.walk handler stream.failure stream.events system
  let held := (watch.follow handler stream.failure stream.events opened system).2.1.version
  let kept := (watch.followStream handler stream state system).1.version
  { opened := state.version, handled, stop, relisted := held.isSome && kept.isNone }

def passages (watch : Watch) (handler : Handler) :
    List WatchStream → WatchState → System → List Passage
  | [], _, _ => []
  | stream :: rest, state, system =>
      let (next, after) := watch.followStream handler stream state system
      watch.passage handler stream state system :: watch.passages handler rest next after

section Passage

variable (watch : Watch) (handler : Handler) (stream : WatchStream) (state : WatchState)
  (system : System)

theorem settle_version (failure : Option Failure) :
    (watch.settle failure state system).1.version =
      if failure.any isExpired then none else state.version := by
  cases failure with
  | none => rfl
  | some failure =>
      simp only [settle, Option.any_some]
      split
      · rename_i dropped
        rw [Bool.and_eq_true] at dropped
        simp [dropped.1]
      · rename_i kept
        cases held : state.version with
        | none => simp
        | some version =>
            rw [held, Option.isSome_some, Bool.and_true] at kept
            rw [if_neg kept]

theorem settle_openings (failure : Option Failure) :
    (watch.settle failure state system).1.openings = state.openings := by
  cases failure with
  | none => rfl
  | some failure =>
      simp only [settle]
      split <;> rfl

theorem settle_delivered (failure : Option Failure) :
    (watch.settle failure state system).1.delivered = state.delivered := by
  cases failure with
  | none => rfl
  | some failure =>
      simp only [settle]
      split <;> rfl

theorem followStream_openings :
    (watch.followStream handler stream state system).1.openings =
      state.openings ++ [state.version] := by
  simp only [followStream, settle_openings]
  exact (watch.follow_walk handler stream.failure stream.events system _).2.2.1

theorem followStream_delivered :
    (watch.followStream handler stream state system).1.delivered = state.delivered ++
      (watch.passage handler stream state system).reached.filterMap watch.delivery? := by
  simp only [followStream, settle_delivered]
  exact (watch.follow_walk handler stream.failure stream.events system _).2.2.2

/-- A stream leaves the last version handled in it, or else the one that it was opened with, unless
it expires. -/
theorem followStream_version :
    (¬ (watch.passage handler stream state system).stop.Expires ∧
      (watch.followStream handler stream state system).1.version =
        (lastVersion? (watch.passage handler stream state system).handled).or state.version) ∨
    (watch.passage handler stream state system).stop.Expires ∧
      (watch.followStream handler stream state system).1.version = none := by
  have expires := watch.expires_walk handler stream.failure stream.events system
  obtain ⟨stops, version, -, -⟩ := watch.follow_walk handler stream.failure stream.events system
    { state with openings := state.openings ++ [state.version] }
  have stop : (watch.passage handler stream state system).stop =
      (watch.walk handler stream.failure stream.events system).2 := rfl
  simp only [followStream, settle_version, stops, stop]
  cases failed : (watch.walk handler stream.failure stream.events system).2.failure? with
  | none =>
      rw [failed] at expires
      exact .inl ⟨by simp [expires], version⟩
  | some failure =>
      rw [failed] at expires
      cases expired : isExpired failure with
      | true => exact .inr ⟨expires.mpr ⟨failure, rfl, expired⟩, by simp [expired]⟩
      | false =>
          refine .inl ⟨by simp [expires, expired], ?_⟩
          simp only [Option.any_some, expired, Bool.false_eq_true, if_false]
          exact version

/-- A version is dropped where the stream expires and there is one. -/
theorem relisted_iff :
    (watch.passage handler stream state system).relisted = true ↔
      (watch.passage handler stream state system).stop.Expires ∧
        ((lastVersion? (watch.passage handler stream state system).handled).or
          state.version).isSome = true := by
  have held := (watch.follow_walk handler stream.failure stream.events system
    { state with openings := state.openings ++ [state.version] }).2.1
  have relisted : (watch.passage handler stream state system).relisted =
      (((lastVersion? (watch.passage handler stream state system).handled).or
        state.version).isSome &&
          (watch.followStream handler stream state system).1.version.isNone) :=
    congrArg (fun version : Option String => version.isSome &&
      (watch.followStream handler stream state system).1.version.isNone) held
  rw [relisted, Bool.and_eq_true]
  rcases watch.followStream_version handler stream state system with
    ⟨lasting, kept⟩ | ⟨expires, dropped⟩
  · rw [kept]
    cases (lastVersion? (watch.passage handler stream state system).handled).or state.version <;>
      simp [lasting]
  · simp [expires, dropped]

theorem followStream_resumes {earlier : List Passage}
    (resumes : state.version = lastVersion? (eventsSinceRelist earlier)) :
    (watch.followStream handler stream state system).1.version = lastVersion?
      (eventsSinceRelist (earlier ++ [watch.passage handler stream state system])) := by
  have relisted := watch.relisted_iff handler stream state system
  rw [eventsSinceRelist_concat]
  rcases watch.followStream_version handler stream state system with
    ⟨lasting, kept⟩ | ⟨expires, dropped⟩
  · have continued : (watch.passage handler stream state system).relisted = false := by
      simpa [lasting] using relisted
    simp only [kept, continued, resumes, Bool.false_eq_true, if_false, lastVersion?_append]
  · rw [dropped]
    split
    · rfl
    · rename_i continued
      simp only [relisted, expires, true_and, Bool.not_eq_true, Option.isSome_eq_false_iff,
        Option.isNone_iff_eq_none] at continued
      rw [lastVersion?_append, ← resumes, continued]

end Passage

theorem followAll_openings (watch : Watch) (handler : Handler) (streams : List WatchStream)
    (state : WatchState) (system : System) :
    (watch.followAll handler streams state system).1.openings =
      state.openings ++ (watch.passages handler streams state system).map Passage.opened := by
  induction streams generalizing state system with
  | nil => simp [followAll, passages]
  | cons stream rest ih =>
      simp only [followAll, passages, ih, List.map_cons]
      rw [followStream_openings, List.append_assoc]
      rfl

theorem followAll_delivered (watch : Watch) (handler : Handler) (streams : List WatchStream)
    (state : WatchState) (system : System) :
    (watch.followAll handler streams state system).1.delivered = state.delivered ++
      ((watch.passages handler streams state system).flatMap reached).filterMap
        watch.delivery? := by
  induction streams generalizing state system with
  | nil => simp [followAll, passages]
  | cons stream rest ih =>
      simp only [followAll, passages, ih, List.flatMap_cons, List.filterMap_append]
      rw [followStream_delivered, List.append_assoc]

theorem arguments_version (watch : Watch) (version : Option String) :
    (watch.arguments version).get? "resource_version" = version.map Json.str := by
  cases version <;> rfl

/-- The resume point of a stream tells of all streams before it, whichever these are. -/
theorem passages_resume_from (watch : Watch) (handler : Handler) (streams : List WatchStream)
    (system : System) {earlier : List Passage} {state : WatchState}
    (resumes : state.version = lastVersion? (eventsSinceRelist earlier)) :
    ∀ before passage after,
      watch.passages handler streams state system = before ++ passage :: after →
      passage.opened = lastVersion? (eventsSinceRelist (earlier ++ before)) ∧
      (∀ event ∈ passage.handled, event.type ≠ "ERROR") ∧
      (passage.relisted = true ↔ passage.stop.Expires ∧ (lastVersion?
        (eventsSinceRelist (earlier ++ before) ++ passage.handled)).isSome = true) := by
  induction streams generalizing earlier state system with
  | nil => simp [passages]
  | cons stream rest ih =>
      intro before passage after split
      have following := watch.followStream_resumes handler stream state system resumes
      simp only [passages] at split
      cases before with
      | nil =>
          rw [List.nil_append, List.cons.injEq] at split
          obtain ⟨rfl, -⟩ := split
          rw [List.append_nil, lastVersion?_append, ← resumes]
          exact ⟨rfl, fun event => watch.walk_handled handler stream.failure stream.events system,
            watch.relisted_iff handler stream state system⟩
      | cons first others =>
          rw [List.cons_append, List.cons.injEq] at split
          obtain ⟨rfl, split⟩ := split
          have later := ih _ following others passage after split
          simpa only [List.append_assoc, List.singleton_append] using later

/-- Every stream of a watch is opened with the version of the last event that was handled since the
last relist and has one. Error events are never handled. A stream is followed by a relist exactly if
it stops by an expiry while there is such a version, and any other stop keeps that version. -/
theorem passages_resume (watch : Watch) (handler : Handler) (streams : List WatchStream)
    (system : System) :
    (watch.followAll handler streams {} system).1.openings =
        (watch.passages handler streams {} system).map Passage.opened ∧
      ∀ before passage after,
        watch.passages handler streams {} system = before ++ passage :: after →
          (watch.arguments passage.opened).get? "resource_version" =
            (lastVersion? (eventsSinceRelist before)).map Json.str ∧
          (∀ event ∈ passage.handled, event.type ≠ "ERROR") ∧
          (passage.relisted = true ↔ passage.stop.Expires ∧
            (lastVersion? (eventsSinceRelist before ++ passage.handled)).isSome = true) ∧
          ∀ next ∈ after.head?, next.opened =
            if passage.relisted then none
            else (lastVersion? passage.handled).or passage.opened := by
  refine ⟨watch.followAll_openings handler streams {} system, fun before passage after split => ?_⟩
  have start : ({} : WatchState).version = lastVersion? (eventsSinceRelist []) := rfl
  have resume := watch.passages_resume_from handler streams system start
  obtain ⟨opened, handled, relisted⟩ := resume before passage after split
  rw [List.nil_append] at opened relisted
  refine ⟨by rw [arguments_version, opened], handled, relisted, fun next isNext => ?_⟩
  obtain ⟨rest, rfl⟩ := List.head?_eq_some_iff.mp isNext
  obtain ⟨nextOpened, -⟩ := resume (before ++ [passage]) next rest (by simp [split])
  rw [nextOpened, List.nil_append, eventsSinceRelist_concat]
  split
  · rfl
  · rw [lastVersion?_append, ← opened]

def podWatch : Watch :=
  { target := .core "Pod" "list_pod_for_all_namespaces", deadline := .int 30 }

def ignore : Handler := fun _ => pure ()

def quiet : System := { journal := { threshold := 50 } }

/-- An event that tells of a pod with a version. -/
def podAdded (version : String) : WatchEvent :=
  { type := "ADDED", object := [("metadata", .obj [("resourceVersion", .str version)])] }

/-- The server says that a version is too old. -/
def tooOld : WatchEvent :=
  { type := "ERROR", object := [("message", .str "too old resource version")] }

def expiringStreams : List WatchStream :=
  [{ events := [podAdded "10"], failure := some (.stream "connection reset" .null) },
   { events := [podAdded "12", tooOld, podAdded "14"] },
   { events := [podAdded "16"], failure := some (.stream "Gone" (.int 410)) },
   { events := [] }]

/-- The second stream goes on from the version of the first. An error event ends it, so the third
starts over, and that one expires as a whole. -/
theorem passages_resume_expiring :
    let first : Passage :=
      { opened := none, handled := [podAdded "10"],
        stop := .ended (some (.stream "connection reset" .null)), relisted := false }
    let second : Passage :=
      { opened := some "10", handled := [podAdded "12"],
        stop := .failed tooOld (.expired "Pod watch ended: too old resource version"),
        relisted := true }
    let third : Passage :=
      { opened := none, handled := [podAdded "16"],
        stop := .ended (some (.stream "Gone" (.int 410))), relisted := true }
    let last : Passage := { opened := none, handled := [], stop := .ended none, relisted := false }
    podWatch.passages ignore expiringStreams {} quiet = [first] ++ second :: [third, last] ∧
      (podWatch.followAll ignore expiringStreams {} quiet).1.openings =
        [none, some "10", none, none] ∧
      (podWatch.arguments second.opened).get? "resource_version" = some (.str "10") ∧
      (∀ event ∈ second.handled, event.type ≠ "ERROR") ∧
      (second.relisted = true ↔ second.stop.Expires ∧
        (lastVersion? ([podAdded "10"] ++ second.handled)).isSome = true) ∧
      third.opened = none := by
  intro first second third last
  have opened : podWatch.passages ignore expiringStreams {} quiet =
      [first] ++ second :: [third, last] := rfl
  obtain ⟨openings, resumes⟩ := passages_resume podWatch ignore expiringStreams quiet
  obtain ⟨argument, handled, relisted, next⟩ := resumes [first] second [third, last] opened
  exact ⟨opened, openings, argument, handled, relisted, next third rfl⟩

/-- An error event with an object that is too deep to be shown. -/
def deepError : WatchEvent :=
  { type := "ERROR", object := [("x", .nested 983)] }

/-- Such an event stops the stream, but not by an expiry: the version that is held is kept. -/
theorem not_error_relists : ¬ ∀ (watch : Watch) (handler : Handler) (streams : List WatchStream)
    (system : System) (before after : List Passage) (passage : Passage) (event : WatchEvent)
    (failure : Failure), watch.passages handler streams {} system = before ++ passage :: after →
    passage.stop = .failed event failure → event.type = "ERROR" →
    (lastVersion? (eventsSinceRelist before ++ passage.handled)).isSome = true →
    passage.relisted = true := by
  intro claimed
  let stream : WatchStream := { events := [podAdded "5", deepError] }
  have isError : deepError.type = "ERROR" := rfl
  have textless : deepError.reason.textFault? = some .tooDeep := by
    have depth : deepError.reason.depth = 985 := by
      simp [deepError, WatchEvent.reason, Entries.get?, List.lookup_cons, Json.depth,
        Json.entriesDepth, Json.depth_nested]
    rw [Json.textFault?, Json.isTooDeep, depth]
    rfl
  obtain ⟨next, taken⟩ : ∃ next, podWatch.take ignore (podAdded "5") quiet = .ok () next := ⟨_, rfl⟩
  have walked : podWatch.walk ignore none stream.events quiet =
      ([podAdded "5"], .failed deepError (podWatch.complain deepError)) := by
    simp only [stream, walk, taken, podWatch.take_error ignore isError next]
  have handled : (podWatch.passage ignore stream {} quiet).handled = [podAdded "5"] :=
    congrArg Prod.fst walked
  have stopped : (podWatch.passage ignore stream {} quiet).stop =
      .failed deepError (podWatch.complain deepError) := congrArg Prod.snd walked
  have relisted := claimed podWatch ignore [stream] quiet [] [] _ deepError _ rfl stopped rfl
    (by rw [handled]; rfl)
  have expires := ((podWatch.relisted_iff ignore stream {} quiet).mp relisted).1
  rw [stopped, StreamEnd.Expires, if_pos isError, textless] at expires
  cases expires

end Watch

end ClusterGraph
