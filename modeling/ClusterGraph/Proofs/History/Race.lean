import ClusterGraph.Proofs.History.CommitOutcome

namespace ClusterGraph

/-! Two syncs of one uid at the same time. Every save is a transaction of its own and nothing holds
the two saves of a sync together, so that the other one may save in between. Whatever the order of
the turns, the last save of the node tells its properties and the last save of relationships tells
those. -/

inductive Racer where
  | first
  | second
deriving DecidableEq

def Racer.other : Racer → Racer
  | .first => .second
  | .second => .first

theorem Racer.other_ne (racer : Racer) : racer.other ≠ racer := by
  cases racer <;> decide

def Save.isUpsert : Save → Bool
  | .upsert _ => true
  | .replace _ _ => false

/-- Two syncs under way: the saves that each has still to make, what was committed, newest first,
and the failures that ended a sync. -/
structure Race where
  pending : Racer → List Save
  commits : List (Racer × Commit) := []
  failures : List (Racer × Failure) := []
  system : System

namespace Race

def ofSyncs (synchronizer : Synchronizer) (trees : Racer → Json) (system : System) : Race :=
  { pending := fun racer => Step.savesOf synchronizer (trees racer), system }

/-- The next save of a sync. One that fails ends its sync. -/
def turn (race : Race) (racer : Racer) : Race :=
  match race.pending racer with
  | [] => race
  | save :: rest =>
      match save.action race.system with
      | .ok _ system =>
          { race with
            pending := Function.update race.pending racer rest
            commits := (racer, ⟨save, system.graph⟩) :: race.commits
            system }
      | .error failure system =>
          { race with
            pending := Function.update race.pending racer []
            failures := (racer, failure) :: race.failures
            system }

def run (race : Race) (turns : List Racer) : Race :=
  turns.foldl turn race

/-- The last commit of a save of a node. -/
def lastUpsert? (race : Race) : Option (Racer × Commit) :=
  race.commits.find? (·.2.save.isUpsert)

/-- The last commit of a save of relationships. -/
def lastReplace? (race : Race) : Option (Racer × Commit) :=
  race.commits.find? (!·.2.save.isUpsert)

/-- What a turn does without faults. -/
inductive Turned (race : Race) (racer : Racer) : Race → Prop where
  | finished (done : race.pending racer = []) : Turned race racer race
  | committed {save : Save} {rest : List Save} {last : System}
      (next : race.pending racer = save :: rest)
      (effect : save.effect? race.system.database.store = some last.database.store)
      (calm : last.database.faults = []) :
      Turned race racer
        { race with
          pending := Function.update race.pending racer rest
          commits := (racer, ⟨save, last.graph⟩) :: race.commits
          system := last }
  | refused {save : Save} {rest : List Save} {failure : Failure} {last : System}
      (next : race.pending racer = save :: rest)
      (effect : save.effect? race.system.database.store = none)
      (restored : last.graph = race.system.graph)
      (ids : race.system.database.store.nextId ≤ last.database.store.nextId)
      (calm : last.database.faults = []) :
      Turned race racer
        { race with
          pending := Function.update race.pending racer []
          failures := (racer, failure) :: race.failures
          system := last }

theorem turned_turn {race : Race} (calm : race.system.database.faults = []) (racer : Racer) :
    race.Turned racer (race.turn racer) := by
  unfold turn
  cases next : race.pending racer with
  | nil => exact .finished next
  | cons save rest =>
      rcases save.action_calm calm with
        ⟨last, ran, effect, quiet⟩ | ⟨failure, last, ran, effect, restored, ids, quiet⟩
      · simp only [ran]
        exact .committed next effect quiet
      · simp only [ran]
        exact .refused next effect restored ids quiet

section Told

variable {synchronizer : Synchronizer} {trees : Racer → Json} {uid : String} {start : Graph}

/-- The commits of a race tell what the graph holds of the uid. -/
structure Told (synchronizer : Synchronizer) (trees : Racer → Json) (uid : String) (start : Graph)
    (race : Race) : Prop where
  calm : race.system.database.faults = []
  numbered : race.system.database.store.Numbered
  saves : ∀ racer, ∀ save ∈ race.pending racer,
    save = .upsert (synchronizer.projector.project (trees racer)) ∨
      save = .replace uid (synchronizer.rules.derive (trees racer))
  nodes : race.lastUpsert? = none → race.system.graph.nodes = start.nodes
  properties : ∀ racer commit, race.lastUpsert? = some (racer, commit) →
    ∃ id, race.system.graph.Shows id (synchronizer.projector.project (trees racer))
  relationships : race.lastReplace? = none →
    race.system.graph.relationships = start.relationships
  links : ∀ racer commit, race.lastReplace? = some (racer, commit) →
    ∃ entry, race.system.graph.nodesWithUid (.str uid) = [entry] ∧
      race.system.graph.Links entry.1 (synchronizer.rules.derive (trees racer)) commit.graph

theorem told_ofSyncs {system : System} (calm : system.database.faults = [])
    (numbered : system.database.store.Numbered)
    (named : ∀ racer, (synchronizer.projector.project (trees racer)).uid = uid) :
    (ofSyncs synchronizer trees system).Told synchronizer trees uid system.graph where
  calm := calm
  numbered := numbered
  saves := by
    intro racer save member
    simp only [ofSyncs, Step.savesOf, named] at member
    split at member
    · simp at member
    · simpa using member
  nodes _ := rfl
  properties _ _ last := nomatch last
  relationships _ := rfl
  links _ _ last := nomatch last

theorem saves_update {pending : Racer → List Save} {fits : Racer → Save → Prop} {racer : Racer}
    {rest : List Save} (saves : ∀ racer, ∀ save ∈ pending racer, fits racer save)
    (among : ∀ save ∈ rest, save ∈ pending racer) :
    ∀ other, ∀ save ∈ Function.update pending racer rest other, fits other save := by
  intro other save member
  by_cases same : other = racer
  · subst same
    rw [Function.update_self] at member
    exact saves other save (among save member)
  · rw [Function.update_of_ne same] at member
    exact saves other save member

variable {race : Race} {racer : Racer} {last : System}

theorem Told.upserted (told : race.Told synchronizer trees uid start)
    (named : (synchronizer.projector.project (trees racer)).uid = uid) {rest : List Save}
    (among : ∀ save ∈ rest, save ∈ race.pending racer)
    (effect : (Save.upsert (synchronizer.projector.project (trees racer))).effect?
      race.system.database.store = some last.database.store)
    (calm : last.database.faults = []) :
    Told synchronizer trees uid start
      { race with
        pending := Function.update race.pending racer rest
        commits := (racer, ⟨.upsert (synchronizer.projector.project (trees racer)), last.graph⟩) ::
          race.commits
        system := last } := by
  obtain ⟨numbered, untouched, id, isShown, place⟩ := Save.shows_upsert told.numbered effect
  obtain ⟨properties, stored, written, present, hold⟩ := isShown
  rw [named] at place present
  constructor
  case calm => exact calm
  case numbered => exact numbered
  case saves => exact saves_update told.saves among
  case nodes =>
    intro none
    cases none
  case properties =>
    rintro other commit isLast
    cases isLast
    exact ⟨id, properties, stored, written, named ▸ present, hold⟩
  case relationships => exact fun none => untouched.trans (told.relationships none)
  case links =>
    intro other commit isLast
    obtain ⟨entry, source, links⟩ := told.links other commit isLast
    refine ⟨(id, stored), present, ?_⟩
    rw [← place entry source]
    simpa only [Graph.Links, Graph.outgoing, System.graph, untouched] using links

theorem Told.replaced (told : race.Told synchronizer trees uid start) {rest : List Save}
    (among : ∀ save ∈ rest, save ∈ race.pending racer)
    (effect : (Save.replace uid (synchronizer.rules.derive (trees racer))).effect?
      race.system.database.store = some last.database.store)
    (calm : last.database.faults = []) :
    Told synchronizer trees uid start
      { race with
        pending := Function.update race.pending racer rest
        commits := (racer, ⟨.replace uid (synchronizer.rules.derive (trees racer)), last.graph⟩) ::
          race.commits
        system := last } := by
  obtain ⟨numbered, sameNodes, _, entry, source, links⟩ := Save.links_replace told.numbered effect
  have present (wanted : Json) : last.graph.nodesWithUid wanted =
      race.system.graph.nodesWithUid wanted := by
    simp only [Graph.nodesWithUid, System.graph, sameNodes]
  constructor
  case calm => exact calm
  case numbered => exact numbered
  case saves => exact saves_update told.saves among
  case nodes => exact fun none => sameNodes.trans (told.nodes none)
  case properties =>
    intro other commit isLast
    obtain ⟨id, properties, stored, written, isStored, hold⟩ := told.properties other commit isLast
    exact ⟨id, properties, stored, written, (present _).trans isStored, hold⟩
  case relationships =>
    intro none
    cases none
  case links =>
    rintro other commit isLast
    cases isLast
    exact ⟨entry, (present _).trans source, links⟩

/-- A turn goes on with what the commits tell. -/
theorem Told.turn (told : race.Told synchronizer trees uid start)
    (named : ∀ racer, (synchronizer.projector.project (trees racer)).uid = uid) (racer : Racer) :
    (race.turn racer).Told synchronizer trees uid start := by
  have turned := turned_turn told.calm racer
  generalize race.turn racer = next at turned
  cases turned with
  | finished => exact told
  | refused isNext effect restored ids calm =>
      exact {
        calm
        numbered := told.numbered.idle restored ids
        saves := saves_update told.saves (by simp)
        nodes := fun none => restored ▸ told.nodes none
        properties := fun other commit isLast => restored ▸ told.properties other commit isLast
        relationships := fun none => restored ▸ told.relationships none
        links := fun other commit isLast => restored ▸ told.links other commit isLast }
  | @committed save rest last isNext effect calm =>
      have among : ∀ other ∈ rest, other ∈ race.pending racer := by simp +contextual [isNext]
      rcases told.saves racer save (by simp [isNext]) with rfl | rfl
      · exact told.upserted (named racer) among effect calm
      · exact told.replaced among effect calm

theorem Told.run (told : race.Told synchronizer trees uid start)
    (named : ∀ racer, (synchronizer.projector.project (trees racer)).uid = uid)
    (turns : List Racer) : (race.run turns).Told synchronizer trees uid start := by
  induction turns generalizing race with
  | nil => exact told
  | cons racer rest ih => exact ih (told.turn named racer)

end Told

end Race

end ClusterGraph
