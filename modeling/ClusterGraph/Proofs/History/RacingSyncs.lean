import ClusterGraph.Proofs.History.Race
import ClusterGraph.Proofs.Resync.Idempotence

namespace ClusterGraph

/-! Which version of an object two racing syncs leave in the graph. If the sync that saves its node
last saves its relationships last too, all is as if the syncs had run one after the other. A sync
that runs within the other one leaves its properties, and the other one leaves its relationships. -/

/-- The properties of the nodes with a uid, each with the relationships that start at it. -/
def Graph.account (graph : Graph) (uid : String) : List (Properties × List Relationship) :=
  (graph.nodesWithUid (.str uid)).map fun node => (node.2, (graph.outgoing node.1).values)

namespace Race

section Serial

variable {synchronizer : Synchronizer} {trees : Racer → Json} {uid : String} {race : Race}
  {racer : Racer}

theorem turn_finished (done : race.pending racer = []) : race.turn racer = race := by
  simp only [turn, done]

theorem run_finished (done : race.pending racer = []) (count : Nat) :
    race.run (List.replicate count racer) = race := by
  induction count with
  | zero => rfl
  | succ count ih =>
      rw [List.replicate_succ]
      change (race.turn racer).run _ = race
      rw [turn_finished done, ih]

theorem pending_turn_other {other : Racer} (differ : other ≠ racer) :
    (race.turn racer).pending other = race.pending other := by
  unfold turn
  split
  · rfl
  · split <;> exact Function.update_of_ne differ _ _

/-- A sync that goes on alone does what is left of it. -/
theorem run_alone {saves : List Save} (isPending : race.pending racer = saves) :
    (race.run (List.replicate saves.length racer)).system = (commitAll saves race.system).2 ∧
      ∀ other ≠ racer,
        (race.run (List.replicate saves.length racer)).pending other = race.pending other := by
  induction saves generalizing race with
  | nil => exact ⟨rfl, fun _ _ => rfl⟩
  | cons save rest ih =>
      rw [List.length_cons, List.replicate_succ]
      change ((race.turn racer).run _).system = _ ∧ ∀ other ≠ racer,
        ((race.turn racer).run _).pending other = _
      cases ran : save.action race.system with
      | ok value last =>
          have next : (race.turn racer).pending racer = rest ∧
              (race.turn racer).system = last := by
            simp [turn, isPending, ran]
          obtain ⟨system, others⟩ := ih next.1
          refine ⟨?_, fun other differ => (others other differ).trans (pending_turn_other differ)⟩
          rw [system, next.2]
          simp only [commitAll, ran]
      | error failure last =>
          have ended : (race.turn racer).pending racer = [] ∧
              (race.turn racer).system = last := by
            simp [turn, isPending, ran]
          rw [run_finished ended.1]
          refine ⟨?_, fun other differ => pending_turn_other differ⟩
          rw [ended.2]
          simp only [commitAll, ran]

theorem pending_ofSyncs {start : System} (known : uid ≠ "")
    (named : (synchronizer.projector.project (trees racer)).uid = uid) :
    (ofSyncs synchronizer trees start).pending racer =
      [.upsert (synchronizer.projector.project (trees racer)),
       .replace uid (synchronizer.rules.derive (trees racer))] := by
  simp only [ofSyncs, Step.savesOf, named]
  rw [if_neg (by simpa using known)]

/-- Syncs that do not meet are two steps of a run. -/
theorem run_serial (known : uid ≠ "")
    (named : ∀ racer, (synchronizer.projector.project (trees racer)).uid = uid) (start : System)
    (leader : Racer) :
    ((ofSyncs synchronizer trees start).run
        [leader, leader, leader.other, leader.other]).system.database =
      (ClusterGraph.run [.sync synchronizer (trees leader),
        .sync synchronizer (trees leader.other)] start).database := by
  let race := ofSyncs synchronizer trees start
  have two (racer : Racer) : (Step.savesOf synchronizer (trees racer)).length = 2 := by
    have pending : race.pending racer = _ := pending_ofSyncs known (named racer)
    exact congrArg List.length pending
  have isPending : race.pending leader = Step.savesOf synchronizer (trees leader) := rfl
  obtain ⟨first, others⟩ := run_alone isPending
  have stillPending : (race.run (List.replicate _ leader)).pending leader.other =
      Step.savesOf synchronizer (trees leader.other) := others leader.other leader.other_ne
  obtain ⟨second, _⟩ := run_alone stillPending
  rw [two] at first
  rw [two, two] at second
  change ((race.run (List.replicate 2 leader)).run
    (List.replicate 2 leader.other)).system.database = _
  have sameDatabase : (race.run (List.replicate 2 leader)).system.database =
      (Step.run (.sync synchronizer (trees leader)) start).database := by
    rw [first]
    exact (synchronizer.after_sync (trees leader) start).symm
  rw [second, (commitAll_sameDatabase _ sameDatabase).2]
  exact (synchronizer.after_sync (trees leader.other) _).symm

end Serial

section Agreement

variable {synchronizer : Synchronizer} {trees : Racer → Json} {uid : String} {start : Graph}
  {race : Race} {leader racer : Racer} {save : Save} {rest : List Save}

/-- A save of relationships on graphs that are alike leaves the same account of its source. -/
theorem account_replace {left right after other : Store} {descriptors : List Descriptor}
    (numbered : left.Numbered ∧ right.Numbered) (alike : left.graph.Alike right.graph)
    (effect : (Save.replace uid descriptors).effect? left = some after)
    (again : (Save.replace uid descriptors).effect? right = some other) :
    after.graph.account uid = other.graph.account uid := by
  obtain ⟨_, nodes, _, entry, source, links⟩ := Save.links_replace numbered.1 effect
  obtain ⟨_, otherNodes, _, otherEntry, otherSource, otherLinks⟩ :=
    Save.links_replace numbered.2 again
  have same : after.graph.nodes = other.graph.nodes :=
    nodes.trans (alike.nodes.trans otherNodes.symm)
  have present : after.graph.nodesWithUid (.str uid) = [entry] := by
    simpa only [Graph.nodesWithUid, nodes] using source
  have otherPresent : other.graph.nodesWithUid (.str uid) = [entry] := by
    simpa only [Graph.nodesWithUid, same] using present
  obtain rfl : entry = otherEntry := by
    rw [← alike.nodesWithUid, source] at otherSource
    exact List.head_eq_of_cons_eq otherSource
  simp only [Graph.account, present, otherPresent, List.map_cons, List.map_nil]
  rw [Graph.Links] at links otherLinks
  rw [links, otherLinks, Graph.resolved_sameNodes same]

theorem turn_effect {after : Store} (calm : race.system.database.faults = [])
    (pending : race.pending racer = save :: rest)
    (effect : save.effect? race.system.database.store = some after) :
    (race.turn racer).system.database.store = after ∧ (race.turn racer).pending racer = rest ∧
      ∃ graph, (race.turn racer).commits = (racer, ⟨save, graph⟩) :: race.commits := by
  have turned := turned_turn calm racer
  generalize race.turn racer = next at turned
  cases turned with
  | finished done =>
      rw [pending] at done
      cases done
  | refused isNext failed =>
      rw [pending] at isNext
      cases isNext
      rw [effect] at failed
      cases failed
  | committed isNext committed =>
      rw [pending] at isNext
      cases isNext
      rw [effect] at committed
      exact ⟨(Option.some.inj committed).symm, Function.update_self _ _ _, _, rfl⟩

theorem turn_refused (calm : race.system.database.faults = [])
    (pending : race.pending racer = save :: rest)
    (refused : save.effect? race.system.database.store = none) :
    (race.turn racer).system.graph = race.system.graph ∧ (race.turn racer).pending racer = [] ∧
      (race.turn racer).commits = race.commits := by
  have turned := turned_turn calm racer
  generalize race.turn racer = next at turned
  cases turned with
  | finished done =>
      rw [pending] at done
      cases done
  | refused isNext failed restored => exact ⟨restored, Function.update_self _ _ _, rfl⟩
  | committed isNext committed =>
      rw [pending] at isNext
      cases isNext
      rw [refused] at committed
      cases committed

/-- The save of relationships of a node leaves its graph alike, be it committed or not. -/
theorem alike_turn {descriptors : List Descriptor} (told : race.Told synchronizer trees uid start)
    (pending : race.pending racer = [.replace uid descriptors]) :
    race.system.graph.Alike (race.turn racer).system.graph := by
  cases effect : (Save.replace uid descriptors).effect? race.system.database.store with
  | none => exact (turn_refused told.calm pending effect).1.symm ▸ .refl _
  | some after =>
      obtain ⟨_, nodes, labels, _⟩ := Save.links_replace told.numbered effect
      rw [System.graph, System.graph, (turn_effect told.calm pending effect).1]
      exact ⟨nodes.symm, congrArg Entries.values labels.symm⟩

/-- A sync has committed no save of relationships. -/
def Unreplaced (race : Race) (racer : Racer) : Prop :=
  ∀ entry ∈ race.commits, entry.1 = racer → entry.2.save.isUpsert = true

namespace Unreplaced

theorem lastReplace? (unreplaced : race.Unreplaced racer) (commit : Commit) :
    race.lastReplace? ≠ some (racer, commit) := by
  intro isLast
  have isUpsert := unreplaced _ (List.mem_of_find?_eq_some isLast) rfl
  have replaces := List.find?_some isLast
  simp [isUpsert] at replaces

theorem finished (unreplaced : race.Unreplaced racer) (done : race.pending racer = []) :
    (race.turn racer).Unreplaced racer :=
  (turn_finished done).symm ▸ unreplaced

theorem other {other : Racer} (unreplaced : race.Unreplaced racer)
    (calm : race.system.database.faults = []) (differ : other ≠ racer) :
    (race.turn other).Unreplaced racer := by
  have turned := turned_turn calm other
  generalize race.turn other = next at turned
  cases turned with
  | finished | refused => exact unreplaced
  | committed =>
      intro entry member same
      rcases List.mem_cons.mp member with rfl | earlier
      · exact absurd same differ
      · exact unreplaced entry earlier same

theorem refused (unreplaced : race.Unreplaced racer) (calm : race.system.database.faults = [])
    (pending : race.pending racer = save :: rest)
    (effect : save.effect? race.system.database.store = none) :
    (race.turn racer).Unreplaced racer := by
  unfold Unreplaced
  rw [(turn_refused calm pending effect).2.2]
  exact unreplaced

theorem upsert {node : Node} (unreplaced : race.Unreplaced racer)
    (calm : race.system.database.faults = [])
    (pending : race.pending racer = .upsert node :: rest) : (race.turn racer).Unreplaced racer := by
  cases effect : (Save.upsert node).effect? race.system.database.store with
  | none => exact unreplaced.refused calm pending effect
  | some after =>
      obtain ⟨_, _, graph, commits⟩ := turn_effect calm pending effect
      intro entry member same
      rw [commits] at member
      rcases List.mem_cons.mp member with rfl | earlier
      · rfl
      · exact unreplaced entry earlier same

end Unreplaced

/-- The leader has saved its node, and all else is still to be saved. -/
structure Led (synchronizer : Synchronizer) (trees : Racer → Json) (uid : String) (start : Graph)
    (leader : Racer) (race : Race) : Prop where
  told : race.Told synchronizer trees uid start
  named : ∀ racer, (synchronizer.projector.project (trees racer)).uid = uid
  present : ∃ entry, race.system.graph.nodesWithUid (.str uid) = [entry]
  leads : race.pending leader = [.replace uid (synchronizer.rules.derive (trees leader))]
  follows : race.pending leader.other =
    [.upsert (synchronizer.projector.project (trees leader.other)),
     .replace uid (synchronizer.rules.derive (trees leader.other))]
  unreplaced : race.Unreplaced leader.other

namespace Led

variable {commit : Commit}

/-- Wherever the follower saves its relationships after its node, the account of the uid is that of
the two syncs one after the other. -/
theorem account_serial (led : race.Led synchronizer trees uid start leader)
    {middle before after : Store}
    (upserted : (Save.upsert (synchronizer.projector.project (trees leader.other))).effect?
      race.system.database.store = some middle)
    (numbered : before.Numbered) (alike : middle.graph.Alike before.graph)
    (replaced : (Save.replace uid (synchronizer.rules.derive (trees leader.other))).effect? before =
      some after) :
    after.graph.account uid =
      (((race.turn leader).turn leader.other).turn leader.other).system.graph.account uid := by
  have alone := led.told.turn led.named leader
  have joined := alone.turn led.named leader.other
  have aloneAlike : race.system.graph.Alike (race.turn leader).system.graph :=
    alike_turn led.told led.leads
  obtain ⟨entry, present⟩ := led.present
  rw [← led.named leader.other] at present
  obtain ⟨stored, again, storedAlike⟩ := Save.upsert_alike aloneAlike present upserted
  have follows := (pending_turn_other leader.other_ne).trans led.follows
  obtain ⟨isStore, next, _⟩ := turn_effect alone.calm follows again
  have joinedAlike :
      before.graph.Alike ((race.turn leader).turn leader.other).system.graph := by
    rw [System.graph, isStore]
    exact alike.symm.trans storedAlike
  obtain ⟨last, replacedAgain⟩ := Save.replace_alike joinedAlike replaced
  obtain ⟨rfl, _⟩ := turn_effect joined.calm next replacedAgain
  exact account_replace ⟨numbered, joined.numbered⟩ joinedAlike replaced replacedAgain

/-- The leader saves its relationships between the two saves of the follower. -/
theorem account_alternating (led : race.Led synchronizer trees uid start leader)
    (isLast : (((race.turn leader.other).turn leader).turn leader.other).lastReplace? =
      some (leader.other, commit)) :
    (((race.turn leader.other).turn leader).turn leader.other).system.graph.account uid =
      (((race.turn leader).turn leader.other).turn leader.other).system.graph.account uid := by
  have joined := led.told.turn led.named leader.other
  have met := joined.turn led.named leader
  have leads := (pending_turn_other leader.other_ne.symm).trans led.leads
  have unreplaced : ((race.turn leader.other).turn leader).Unreplaced leader.other :=
    (led.unreplaced.upsert led.told.calm led.follows).other joined.calm leader.other_ne.symm
  cases upserted : (Save.upsert (synchronizer.projector.project (trees leader.other))).effect?
      race.system.database.store with
  | none =>
      have finished := (turn_refused led.told.calm led.follows upserted).2.1
      have stillFinished := (pending_turn_other leader.other_ne).trans finished
      exact absurd isLast ((unreplaced.finished stillFinished).lastReplace? commit)
  | some middle =>
      obtain ⟨isMiddle, left, _⟩ := turn_effect led.told.calm led.follows upserted
      have next := (pending_turn_other leader.other_ne).trans left
      cases replaced : (Save.replace uid (synchronizer.rules.derive (trees leader.other))).effect?
          ((race.turn leader.other).turn leader).system.database.store with
      | none =>
          have ended := unreplaced.refused met.calm next replaced
          exact absurd isLast (ended.lastReplace? commit)
      | some after =>
          have alike := alike_turn joined leads
          rw [System.graph, isMiddle] at alike
          obtain ⟨rfl, _⟩ := turn_effect met.calm next replaced
          exact led.account_serial upserted met.numbered alike replaced

/-- The follower makes both of its saves before the leader comes to its relationships. -/
theorem account_nested (led : race.Led synchronizer trees uid start leader)
    (isLast : (((race.turn leader.other).turn leader.other).turn leader).lastReplace? =
      some (leader.other, commit)) :
    (((race.turn leader.other).turn leader.other).turn leader).system.graph.account uid =
      (((race.turn leader).turn leader.other).turn leader.other).system.graph.account uid := by
  have joined := led.told.turn led.named leader.other
  have done := joined.turn led.named leader.other
  have leads := (pending_turn_other leader.other_ne.symm).trans
    ((pending_turn_other leader.other_ne.symm).trans led.leads)
  have unreplaced := led.unreplaced.upsert led.told.calm led.follows
  cases upserted : (Save.upsert (synchronizer.projector.project (trees leader.other))).effect?
      race.system.database.store with
  | none =>
      have finished := (turn_refused led.told.calm led.follows upserted).2.1
      have ended := (unreplaced.finished finished).other done.calm leader.other_ne.symm
      exact absurd isLast (ended.lastReplace? commit)
  | some middle =>
      obtain ⟨isMiddle, next, _⟩ := turn_effect led.told.calm led.follows upserted
      cases replaced : (Save.replace uid (synchronizer.rules.derive (trees leader.other))).effect?
          (race.turn leader.other).system.database.store with
      | none =>
          have ended := (unreplaced.refused joined.calm next replaced).other done.calm
            leader.other_ne.symm
          exact absurd isLast (ended.lastReplace? commit)
      | some after =>
          obtain ⟨isAfter, _⟩ := turn_effect joined.calm next replaced
          cases left : (Save.replace uid (synchronizer.rules.derive (trees leader))).effect?
              ((race.turn leader.other).turn leader.other).system.database.store with
          | none =>
              rw [(turn_refused done.calm leads left).1, System.graph, isAfter]
              exact led.account_serial upserted joined.numbered (isMiddle ▸ .refl _) replaced
          | some last =>
              obtain ⟨_, _, own, commits⟩ := turn_effect done.calm leads left
              simp only [lastReplace?, commits, Save.isUpsert, List.find?_cons_of_pos,
                Bool.not_false, Option.some.injEq, Prod.mk.injEq] at isLast
              exact absurd isLast.1.symm leader.other_ne

end Led

/-- If the last relationships are those of the follower, then the account of the uid is that of the
two syncs one after the other. -/
theorem account_interleaved (told : race.Told synchronizer trees uid start)
    (named : ∀ racer, (synchronizer.projector.project (trees racer)).uid = uid)
    (pending : ∀ racer, race.pending racer =
      [.upsert (synchronizer.projector.project (trees racer)),
       .replace uid (synchronizer.rules.derive (trees racer))])
    (unreplaced : race.Unreplaced leader.other) {turns : List Racer} {commit : Commit}
    (interleaved : turns = [leader, leader.other, leader, leader.other] ∨
      turns = [leader, leader.other, leader.other, leader])
    (isLast : (race.run turns).lastReplace? = some (leader.other, commit)) :
    (race.run turns).system.graph.account uid =
      (race.run [leader, leader, leader.other, leader.other]).system.graph.account uid := by
  cases upserted : (Save.upsert (synchronizer.projector.project (trees leader))).effect?
      race.system.database.store with
  | none =>
      have finished := (turn_refused told.calm (pending leader) upserted).2.1
      have stillFinished := (pending_turn_other leader.other_ne.symm).trans finished
      have atEnd := (pending_turn_other leader.other_ne.symm).trans stillFinished
      have serial : race.run [leader, leader, leader.other, leader.other] =
          ((race.turn leader).turn leader.other).turn leader.other :=
        congrArg (fun race : Race => (race.turn leader.other).turn leader.other) (turn_finished finished)
      rw [serial]
      rcases interleaved with rfl | rfl
      · exact congrArg (fun race : Race => (race.turn leader.other).system.graph.account uid)
          (turn_finished stillFinished)
      · exact congrArg (fun race : Race => race.system.graph.account uid) (turn_finished atEnd)
  | some first =>
      obtain ⟨isFirst, leads, _⟩ := turn_effect told.calm (pending leader) upserted
      obtain ⟨_, _, id, ⟨_, stored, _, present, _⟩, _⟩ := Save.shows_upsert told.numbered upserted
      rw [named, ← isFirst] at present
      have led : (race.turn leader).Led synchronizer trees uid start leader := {
        told := told.turn named leader
        named
        present := ⟨_, present⟩
        leads
        follows := (pending_turn_other leader.other_ne).trans (pending leader.other)
        unreplaced := unreplaced.other told.calm leader.other_ne.symm }
      rcases interleaved with rfl | rfl
      · exact led.account_alternating isLast
      · exact led.account_nested isLast

end Agreement

section Schedule

/-- The saves of some syncs in the order of their turns, if none fails. -/
def schedule (pending : Racer → List Save) : List Racer → List (Racer × Save)
  | [] => []
  | racer :: turns =>
      match pending racer with
      | [] => schedule pending turns
      | save :: rest => (racer, save) :: schedule (Function.update pending racer rest) turns

/-- The committed saves with their syncs, newest first. -/
def committed (race : Race) : List (Racer × Save) :=
  race.commits.map fun entry => (entry.1, entry.2.save)

variable {race : Race}

theorem failures_turn (race : Race) (racer : Racer) :
    race.failures <:+ (race.turn racer).failures := by
  unfold turn
  split
  · exact List.suffix_refl _
  · split
    · exact List.suffix_refl _
    · exact List.suffix_cons _ _

theorem failures_run (race : Race) (turns : List Racer) :
    race.failures <:+ (race.run turns).failures := by
  induction turns generalizing race with
  | nil => exact List.suffix_refl _
  | cons racer rest ih => exact (race.failures_turn racer).trans (ih (race.turn racer))

/-- Syncs that do not fail commit what they have to save. -/
theorem committed_run {turns : List Racer} (unfailed : (race.run turns).failures = []) :
    (race.run turns).committed = (schedule race.pending turns).reverse ++ race.committed := by
  induction turns generalizing race with
  | nil => rfl
  | cons racer rest ih =>
      have later : ((race.turn racer).run rest).failures = [] := unfailed
      have turned : (race.turn racer).failures = [] :=
        List.suffix_nil.mp (unfailed ▸ failures_run (race.turn racer) rest)
      change ((race.turn racer).run rest).committed = _
      rw [ih later]
      cases pending : race.pending racer with
      | nil => simp only [turn, schedule, pending]
      | cons save others =>
          cases ran : save.action race.system with
          | ok value last =>
              simp [turn, schedule, pending, ran, committed]
          | error failure last => simp [turn, pending, ran] at turned

theorem map_lastUpsert? (race : Race) :
    race.lastUpsert?.map Prod.fst = (race.committed.find? (·.2.isUpsert)).map Prod.fst := by
  rw [committed, List.find?_map, Option.map_map]
  rfl

theorem map_lastReplace? (race : Race) :
    race.lastReplace?.map Prod.fst = (race.committed.find? (!·.2.isUpsert)).map Prod.fst := by
  rw [committed, List.find?_map, Option.map_map]
  rfl

theorem interleavings {turns : List Racer}
    (interleaved : turns.Perm [.first, .first, .second, .second]) :
    ∃ leader : Racer, turns = [leader, leader, leader.other, leader.other] ∨
      turns = [leader, leader.other, leader, leader.other] ∨
      turns = [leader, leader.other, leader.other, leader] := by
  obtain ⟨one, two, three, four, rfl⟩ : ∃ one two three four, turns = [one, two, three, four] :=
    List.length_eq_four.mp interleaved.length_eq
  refine ⟨one, ?_⟩
  cases one <;> cases two <;> cases three <;> cases four <;> revert interleaved <;> decide

end Schedule

/-- What two syncs of a uid leave behind that take their turns in some order. The first turn is the
leader's. -/
structure Settled (synchronizer : Synchronizer) (trees : Racer → Json) (uid : String)
    (start : System) (leader : Racer) (turns : List Racer) (final : Race) : Prop where
  properties : ∀ racer commit, final.lastUpsert? = some (racer, commit) →
    ∃ id, final.system.graph.Shows id (synchronizer.projector.project (trees racer))
  nodesStay : final.lastUpsert? = none → final.system.graph.nodes = start.graph.nodes
  links : ∀ racer commit, final.lastReplace? = some (racer, commit) →
    ∃ entry, final.system.graph.nodesWithUid (.str uid) = [entry] ∧
      final.system.graph.Links entry.1 (synchronizer.rules.derive (trees racer)) commit.graph
  relationshipsStay : final.lastReplace? = none →
    final.system.graph.relationships = start.graph.relationships
  serial : ∀ commit, final.lastReplace? = some (leader.other, commit) →
    final.system.graph.account uid =
      (ClusterGraph.run [.sync synchronizer (trees leader),
        .sync synchronizer (trees leader.other)] start).graph.account uid
  winners : final.failures = [] → final.lastUpsert?.map Prod.fst = some leader.other ∧
    final.lastReplace?.map Prod.fst = turns.getLast?

variable {synchronizer : Synchronizer} {trees : Racer → Json} {uid : String} {start : System}
  {turns : List Racer}

/-- Two racing syncs of a uid, in whatever order their transactions come. The node is that of the
last save of a node, and its relationships are those of the last save of relationships, resolved
when that was committed. If the last relationships are the follower's, all is as if the syncs had
run one after the other. If no save fails, the properties are the follower's, and the relationships
belong to the sync that ends last: to the leader where the follower runs in between. -/
theorem settled_run (numbered : start.database.store.Numbered) (calm : start.database.faults = [])
    (known : uid ≠ "") (named : ∀ racer, (synchronizer.projector.project (trees racer)).uid = uid)
    (interleaved : turns.Perm [.first, .first, .second, .second]) :
    ∃ leader, turns.head? = some leader ∧ Settled synchronizer trees uid start leader turns
      ((ofSyncs synchronizer trees start).run turns) := by
  have told := told_ofSyncs calm numbered named
  have pending (racer : Racer) : (ofSyncs synchronizer trees start).pending racer = _ :=
    pending_ofSyncs known (named racer)
  have final := told.run named turns
  obtain ⟨leader, order⟩ := interleavings interleaved
  have isHead : turns.head? = some leader := by
    rcases order with rfl | rfl | rfl <;> rfl
  refine ⟨leader, isHead, ⟨final.properties, final.nodes, final.links, final.relationships,
    fun commit isLast => ?_, fun unfailed => ?_⟩⟩
  · have serial := congrArg (fun database => database.store.graph.account uid)
      (run_serial known named start leader)
    refine Eq.trans ?_ serial
    rcases order with rfl | others
    · rfl
    · exact account_interleaved told named pending nofun others isLast
  · have all : ((ofSyncs synchronizer trees start).run turns).committed =
        (schedule (ofSyncs synchronizer trees start).pending turns).reverse ++ [] :=
      committed_run unfailed
    rw [map_lastUpsert?, map_lastReplace?, all, funext pending]
    rcases order with rfl | rfl | rfl <;> cases leader <;>
      simp [schedule, Function.update, Racer.other, Save.isUpsert]

/-- A pod that owns itself, and the same pod under another name and without an owner. -/
def versionsOfPod : Racer → Json
  | .first => Synchronizer.podOwnedBy "pod" "pod"
  | .second =>
      .obj [("apiVersion", .str "v1"), ("kind", .str "Pod"),
        ("metadata", .obj [("uid", .str "pod"), ("name", .str "other")])]

def vacant : System :=
  { journal := { threshold := 50 } }

/-- One sync within the other. -/
def nested : List Racer :=
  [.first, .second, .second, .first]

theorem numbered_vacant : vacant.database.store.Numbered := by
  constructor <;> simp [vacant, Entries.keys]

theorem uid_versionsOfPod (racer : Racer) :
    (Synchronizer.ofOwners.projector.project (versionsOfPod racer)).uid = "pod" := by
  cases racer <;> decide +kernel

/-- The pod has its new name and the owner that it had under the old one. -/
theorem settled_run_nested :
    let race := (ofSyncs Synchronizer.ofOwners versionsOfPod vacant).run nested
    Settled Synchronizer.ofOwners versionsOfPod "pod" vacant .first nested race ∧
      race.failures = [] ∧ race.lastUpsert?.map Prod.fst = some .second ∧
      race.lastReplace?.map Prod.fst = some .first := by
  intro race
  obtain ⟨leader, isHead, settled⟩ := settled_run numbered_vacant rfl (by decide) uid_versionsOfPod
    (by decide : nested.Perm [.first, .first, .second, .second])
  cases isHead
  have unfailed : race.failures = [] := List.isEmpty_iff.mp (by decide +kernel)
  exact ⟨settled, unfailed, settled.winners unfailed⟩

/-- The name and the number of relationships in the account of a uid. -/
def summary (graph : Graph) (uid : String) : List (String × Nat) :=
  (graph.account uid).map fun entry => ((Graph.property entry.1 "name").textOr "", entry.2.length)

theorem summary_of_version {graph targets : Graph} {id : String} {node : Node}
    {descriptors : List Descriptor} (isShown : graph.Shows id node)
    (links : graph.Links id descriptors targets) :
    summary graph node.uid = [(node.name, (targets.resolved descriptors).length)] := by
  obtain ⟨properties, stored, written, present, hold⟩ := isShown
  have told := hold _ (Node.name_written written)
  have isName : (Graph.property stored "name").textOr "" = node.name := by
    rw [Graph.property, Properties.get?_tells told]
    rfl
  simp only [summary, Graph.account, present, List.map_cons, List.map_nil, isName]
  rw [links, List.length_map]

/-- What is left stems from no version of the pod, and is not what a sync leaves that runs last. -/
theorem nestedSyncs_torn : ¬ ∀ (synchronizer : Synchronizer) (trees : Racer → Json) (uid : String)
    (start : System) (turns : List Racer), start.database.store.Numbered →
    start.database.faults = [] → uid ≠ "" →
    (∀ racer, (synchronizer.projector.project (trees racer)).uid = uid) →
    turns.Perm [.first, .first, .second, .second] →
    let final := ((ofSyncs synchronizer trees start).run turns).system.graph
    ∃ version : Racer,
      (∃ id, final.Shows id (synchronizer.projector.project (trees version)) ∧
        final.Links id (synchronizer.rules.derive (trees version)) final) ∨
      final.account uid = (ClusterGraph.run [.sync synchronizer (trees version.other),
        .sync synchronizer (trees version)] start).graph.account uid := by
  intro claimed
  obtain ⟨version, stems⟩ := claimed Synchronizer.ofOwners versionsOfPod "pod" vacant nested
    numbered_vacant rfl (by decide) uid_versionsOfPod (by decide)
  have torn : summary ((ofSyncs Synchronizer.ofOwners versionsOfPod vacant).run
      nested).system.graph "pod" = [("other", 1)] := by
    decide +kernel
  rcases stems with ⟨id, isShown, links⟩ | serial
  · have whole := summary_of_version isShown links
    rw [uid_versionsOfPod, torn] at whole
    cases version with
    | first => exact absurd (congrArg (List.map Prod.fst) whole) (by decide +kernel)
    | second =>
        have nothing : Synchronizer.ofOwners.rules.derive (versionsOfPod .second) = [] :=
          List.isEmpty_iff.mp (by decide +kernel)
        simp [nothing, Graph.resolved] at whole
  · have whole := torn.symm.trans (congrArg (List.map fun entry : Properties × List Relationship =>
      ((Graph.property entry.1 "name").textOr "", entry.2.length)) serial)
    revert whole
    cases version <;> decide +kernel

end Race

end ClusterGraph
