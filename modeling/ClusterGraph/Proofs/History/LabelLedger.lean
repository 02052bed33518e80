import ClusterGraph.Proofs.History.LabelHistory
import ClusterGraph.Proofs.History.Legibility
import ClusterGraph.Proofs.Resync.Progress
import Mathlib.Data.List.Perm.Subperm

namespace ClusterGraph

/-! The counters of label mutations against the labels of the graph. Every label that is written is
counted. Of a key that goes, one removal is counted, whatever the number of values stored under it:
the counters account for the labels of the graph as long as no key goes with several values. -/

/-- Names that occur in texts and no others are at most as many, and as many if no text occurs
twice. -/
theorem length_sameNames {names texts : List String} (distinct : names.Nodup)
    (same : ∀ name, name ∈ names ↔ name ∈ texts) :
    names.length ≤ texts.length ∧ (names.length = texts.length ↔ texts.Nodup) := by
  have among : names.Subperm texts :=
    List.subperm_of_subset distinct fun name member => (same name).mp member
  refine ⟨among.length_le, fun equal => ?_, fun textsDistinct => ?_⟩
  · exact (among.perm_of_length_le equal.ge).nodup_iff.mp distinct
  · exact ((List.perm_ext_iff_of_nodup distinct textsDistinct).mpr same).length_eq

namespace Store

/-- The labels that a difference takes away. -/
def goneLabels (id : String) (removed : List Label) (store : Store) : Entries LabelEntity :=
  store.graph.labels.filter fun entry => !keepsLabel id removed entry

variable {store : Store} {id : String} {stored fresh : List Label}

theorem mem_goneLabels (sound : store.Sound)
    (read : ∀ label, label ∈ stored ↔ store.graph.HasLabel id label)
    {entry : String × LabelEntity} :
    entry ∈ store.goneLabels id (LabelDiff.between stored fresh).removed ↔
      entry ∈ store.graph.labels ∧ ∃ label : Label, entry.2 = label.entity id ∧
        LabelDiff.hasKey fresh label.key = false := by
  rw [goneLabels, List.mem_filter]
  refine and_congr_right fun member => ?_
  obtain ⟨labelId, entity⟩ := entry
  obtain ⟨label, isLabel⟩ := sound.texts _ member
  simp only at isLabel
  generalize entity.owner = owner at isLabel
  subst isLabel
  have isRead : owner = id → label ∈ stored := by
    rintro rfl
    exact (read label).mpr ⟨labelId, member⟩
  have kept : keepsLabel id (LabelDiff.between stored fresh).removed
      (labelId, label.entity owner) = true ↔ _ := keepsLabel_entity isRead
  rw [Bool.not_eq_true', ← Bool.not_eq_true, kept]
  simp only [Classical.not_imp, Bool.not_eq_true]
  constructor
  · rintro ⟨rfl, absent⟩
    exact ⟨label, rfl, absent⟩
  · rintro ⟨other, same, absent⟩
    obtain ⟨rfl, rfl⟩ := Label.owner_entity same
    exact ⟨rfl, absent⟩

/-- The keys of the labels that a difference takes away, each as often as it has a label. -/
def goneKeys (id : String) (removed : List Label) (store : Store) : List String :=
  (store.goneLabels id removed).map fun entry => entry.2.key.textOr ""

theorem mem_goneKeys (sound : store.Sound)
    (read : ∀ label, label ∈ stored ↔ store.graph.HasLabel id label) {key : String} :
    key ∈ store.goneKeys id (LabelDiff.between stored fresh).removed ↔
      LabelDiff.hasKey stored key = true ∧ LabelDiff.hasKey fresh key = false := by
  rw [goneKeys, List.mem_map]
  constructor
  · rintro ⟨entry, member, isKey⟩
    obtain ⟨inGraph, label, isLabel, absent⟩ := (mem_goneLabels sound read).mp member
    obtain rfl : label.key = key := by rw [← isKey, isLabel]; rfl
    refine ⟨LabelDiff.hasKey_iff.mpr ⟨label, (read label).mpr ⟨entry.1, ?_⟩, rfl⟩, absent⟩
    rw [← isLabel]
    exact inGraph
  · rintro ⟨present, absent⟩
    obtain ⟨label, member, rfl⟩ := LabelDiff.hasKey_iff.mp present
    obtain ⟨labelId, inGraph⟩ := (read label).mp member
    exact ⟨_, (mem_goneLabels sound read).mpr ⟨inGraph, label, rfl, absent⟩, rfl⟩

/-- A node has several values under a key that no fresh label has. -/
def LosesSeveral (store : Store) (id : String) (fresh : List Label) : Prop :=
  ∃ key left right, left ≠ right ∧ LabelDiff.hasKey fresh key = false ∧
    store.graph.HasLabel id ⟨key, left⟩ ∧ store.graph.HasLabel id ⟨key, right⟩

theorem goneKeys_nodup_iff (sound : store.Sound)
    (read : ∀ label, label ∈ stored ↔ store.graph.HasLabel id label) :
    (store.goneKeys id (LabelDiff.between stored fresh).removed).Nodup ↔
      ¬ store.LosesSeveral id fresh := by
  have distinct : (store.goneLabels id (LabelDiff.between stored fresh).removed).Nodup :=
    (List.Nodup.of_map _ sound.labelIds.apart).filter _
  rw [goneKeys, List.nodup_map_iff_inj_on distinct]
  constructor
  · rintro apart ⟨key, left, right, differ, absent, ⟨leftId, leftMember⟩, rightId, rightMember⟩
    have same := apart _ ((mem_goneLabels sound read).mpr ⟨leftMember, _, rfl, absent⟩) _
      ((mem_goneLabels sound read).mpr ⟨rightMember, _, rfl, absent⟩) rfl
    exact differ (congrArg Label.value (Label.entity_injective (congrArg Prod.snd same)))
  · intro alone left leftMember right rightMember sameKey
    obtain ⟨leftIn, first, isFirst, absent⟩ := (mem_goneLabels sound read).mp leftMember
    obtain ⟨rightIn, second, isSecond, _⟩ := (mem_goneLabels sound read).mp rightMember
    obtain ⟨key, value⟩ := first
    obtain ⟨otherKey, otherValue⟩ := second
    obtain rfl : key = otherKey := by
      simpa only [isFirst, isSecond, Label.entity, Json.textOr] using sameKey
    have values : value = otherValue := by
      by_contra differ
      refine alone ⟨key, value, otherValue, differ, absent, ⟨left.1, ?_⟩, right.1, ?_⟩
      · rw [← isFirst]
        exact leftIn
      · rw [← isSecond]
        exact rightIn
    subst values
    exact List.inj_on_of_nodup_map sound.labels leftIn rightIn (isFirst.trans isSecond.symm)

/-- As many labels go as keys, unless a key goes with several values. -/
theorem length_goneLabels (fresh : List Label) (sound : store.Sound)
    (read : ∀ label, label ∈ stored ↔ store.graph.HasLabel id label) :
    (LabelDiff.between stored fresh).removed.length ≤
        (store.goneLabels id (LabelDiff.between stored fresh).removed).length ∧
      ((LabelDiff.between stored fresh).removed.length =
          (store.goneLabels id (LabelDiff.between stored fresh).removed).length ↔
        ¬ store.LosesSeveral id fresh) := by
  have same (key : String) : key ∈ (LabelDiff.between stored fresh).removed.map Label.key ↔
      key ∈ store.goneKeys id (LabelDiff.between stored fresh).removed := by
    rw [List.mem_map, LabelDiff.key_removed, mem_goneKeys sound read]
  have counts := length_sameNames (LabelDiff.keys_removed_nodup stored fresh) same
  rw [goneKeys_nodup_iff sound read, goneKeys, List.length_map, List.length_map] at counts
  exact counts

end Store

namespace System

/-- How many label mutations of a kind were counted. -/
def mutations (system : System) (operation : String) : Nat :=
  system.counters.value (.labelMutations operation)

/-- What happened to the labels between two systems is counted, but for some labels that went. -/
def LabelsCounted (before after : System) (uncounted : Nat) : Prop :=
  after.graph.labels.length + after.mutations "remove" + uncounted + before.mutations "add" =
    before.graph.labels.length + before.mutations "remove" + after.mutations "add"

namespace LabelsCounted

variable {before middle after : System} {first second : Nat}

theorem trans (start : before.LabelsCounted middle first)
    (next : middle.LabelsCounted after second) : before.LabelsCounted after (first + second) := by
  unfold LabelsCounted at start next ⊢
  omega

theorem of_same (labels : after.graph.labels.length = before.graph.labels.length)
    (mutations : ∀ operation, after.mutations operation = before.mutations operation) :
    before.LabelsCounted after 0 := by
  unfold LabelsCounted
  rw [labels, mutations, mutations, Nat.add_zero]

end LabelsCounted

end System

namespace Store

variable {store : Store} {id : String} {node : Node} {properties : Entries Json}

theorem length_freshLabels (owner : String) (number : Nat) (labels : List Label) :
    (freshLabels owner number labels).length = labels.length := by
  have values := congrArg List.length (values_freshLabels owner number labels)
  simpa [Entries.values] using values

theorem length_labels_withNewNode : (store.withNewNode node properties).graph.labels.length =
    store.graph.labels.length + (Label.normalize node.labels).length := by
  rw [labels_withNewNode, List.length_append, length_freshLabels]

theorem length_labels_withNode (store : Store) (id : String) (properties : Entries Json)
    (diff : LabelDiff) :
    (store.withNode id properties diff).graph.labels.length +
        (store.goneLabels id diff.removed).length =
      store.graph.labels.length + (diff.added.length + diff.changed.length) := by
  have parts : store.graph.labels.length =
      (store.graph.labels.filter (keepsLabel id diff.removed)).length +
        (store.goneLabels id diff.removed).length :=
    List.length_eq_length_filter_add _
  rw [labels_withNode, List.length_append, length_freshLabels, List.length_append]
  omega

end Store

namespace Save

/-- The save takes away a key under which a node has several values. -/
def Overlooks (save : Save) (graph : Graph) : Prop :=
  ∃ (node : Node) (id : String), save = .upsert node ∧ (id, node.uid) ∈ graph.places ∧
    ∃ key left right, left ≠ right ∧ LabelDiff.hasKey node.labels key = false ∧
      graph.HasLabel id ⟨key, left⟩ ∧ graph.HasLabel id ⟨key, right⟩

section Upsert

variable {node : Node} {store : Store} {id : String}

theorem not_overlooks_absent (sound : store.Sound)
    (absent : store.graph.nodesWithUid (.str node.uid) = []) :
    ¬ (Save.upsert node).Overlooks store.graph := by
  rintro ⟨other, id, same, place, _⟩
  obtain rfl : node = other := by injection same
  have member := List.mem_map_of_mem (f := Prod.snd) place
  rw [Graph.map_snd_places] at member
  exact sound.nodesWithUid_nil.mp absent member

theorem overlooks_present_iff (sound : store.Sound) {old : Properties}
    (present : store.graph.nodesWithUid (.str node.uid) = [(id, old)]) :
    (Save.upsert node).Overlooks store.graph ↔ store.LosesSeveral id node.labels := by
  have found : (id, old) ∈ store.graph.nodesWithUid (.str node.uid) := by simp [present]
  obtain ⟨member, sameUid⟩ := sound.uid_of_nodesWithUid found
  have place : (id, node.uid) ∈ store.graph.places := by
    rw [← sameUid]
    exact List.mem_map.mpr ⟨(id, old), member, rfl⟩
  constructor
  · rintro ⟨other, otherId, same, otherPlace, several⟩
    obtain rfl : node = other := by injection same
    rwa [sound.id_eq otherPlace place] at several
  · exact fun several => ⟨node, id, rfl, place, several⟩

/-- A save counts the labels that it writes, and one for each key that goes. -/
theorem upsert_labelsCounted {properties : Entries Json} {change : NodeChange}
    {before after : System} (sound : before.database.store.Sound)
    (evaluated : (Script.saveNode node properties).evaluate before.database.store =
      .ok change after.database.store)
    (counted : ∀ series,
      after.counters.value series = before.counters.value series + change.counted series) :
    ∃ uncounted, before.LabelsCounted after uncounted ∧
      (uncounted = 0 ↔ ¬ (Save.upsert node).Overlooks before.graph) := by
  have added : after.mutations "add" =
      before.mutations "add" + (change.diff.added.length + change.diff.changed.length) :=
    (counted _).trans (by simp [NodeChange.counted, System.mutations])
  have removed : after.mutations "remove" =
      before.mutations "remove" + change.diff.removed.length :=
    (counted _).trans (by simp [NodeChange.counted, System.mutations])
  unfold System.LabelsCounted
  simp only [System.graph]
  rcases Script.evaluate_saveNode_ok evaluated with
    ⟨absent, rfl, isAfter⟩ | ⟨id, old, row, stored, present, listed, read, rfl, isAfter⟩
  · refine ⟨0, ?_, iff_of_true rfl (not_overlooks_absent sound absent)⟩
    rw [isAfter, Store.length_labels_withNewNode]
    simp only [List.length_nil] at added removed
    omega
  · obtain ⟨atMost, exactly⟩ := Store.length_goneLabels node.labels sound
      (Graph.labels_ofRecord sound.texts listed read)
    have length := before.database.store.length_labels_withNode id properties
      (LabelDiff.between stored.labels node.labels)
    rw [isAfter, overlooks_present_iff sound present, ← exactly]
    generalize (before.database.store.goneLabels id _).length = gone at atMost length
    refine ⟨gone - (LabelDiff.between stored.labels node.labels).removed.length, ?_, ?_⟩
    · simp only at added removed
      omega
    · omega

end Upsert

/-- A save that commits counts its labels, and one that fails has nothing to count. -/
theorem action_labelsCounted (save : Save) {system : System}
    (raising : Raising system.database.faults) (sound : system.database.store.Sound) :
    (∃ after uncounted, save.action system = .ok () after ∧ after.database.store.Sound ∧
      system.LabelsCounted after uncounted ∧
      (uncounted = 0 ↔ ¬ save.Overlooks system.graph)) ∨
    ∃ failure after, save.action system = .error failure after ∧ after.graph = system.graph ∧
      system.LabelsCounted after 0 := by
  cases save with
  | upsert node =>
      have ends := Action.saveNode_ends raising node
      simp only [action, bind, EStateM.bind]
      generalize Action.saveNode node system = result at ends ⊢
      cases ends with
      | @committed properties change after written evaluated counted =>
          obtain ⟨uncounted, counts, exactly⟩ := upsert_labelsCounted sound evaluated counted
          have effect : (Save.upsert node).effect? system.database.store =
              some after.database.store := by
            simp only [effect?, written, evaluated]
          exact .inl ⟨after, uncounted, rfl, (committed sound effect).sound sound, counts, exactly⟩
      | unwritable => exact .inr ⟨_, _, rfl, rfl, .of_same rfl fun _ => rfl⟩
      | failed _ _ restored same | disturbed _ restored same =>
          exact .inr ⟨_, _, rfl, restored, .of_same (by rw [restored]) fun _ => same _⟩
  | replace source descriptors =>
      have ends := Action.saveRelationships_ends raising source descriptors
      have other (operation : String) : ¬ (Series.labelMutations operation).IsUnresolved := by
        simp [Series.IsUnresolved]
      simp only [action, bind, EStateM.bind]
      generalize Action.saveRelationships source descriptors system = result at ends ⊢
      cases ends with
      | @committed edges after evaluated counted =>
          have effect : (Save.replace source descriptors).effect? system.database.store =
              some after.database.store := by
            simp only [effect?, evaluated]
          have commits := committed sound effect
          have labels : after.database.store.graph.labels =
              system.database.store.graph.labels := by
            generalize after.database.store = last at commits
            cases commits
            rfl
          refine .inl ⟨after, 0, rfl, commits.sound sound, .of_same ?_ ?_, iff_of_true rfl ?_⟩
          · rw [System.graph, System.graph, labels]
          · exact fun operation => (counted _ (other operation)).trans rfl
          · rintro ⟨node, id, same, _⟩
            injection same
      | failed _ restored same | disturbed _ restored same =>
          exact .inr ⟨_, _, rfl, restored, .of_same (by rw [restored]) fun _ => same _ (other _)⟩

end Save

namespace History

/-- The graph after some commits, newest first. -/
def lastGraph (start : Graph) : List Commit → Graph
  | [] => start
  | commit :: _ => commit.graph

/-- None of the commits takes away a key under which a node has several values. -/
def Accountable (start : Graph) : List Commit → Prop
  | [] => True
  | commit :: earlier =>
      ¬ commit.save.Overlooks (lastGraph start earlier) ∧ Accountable start earlier

theorem lastGraph_append (start : Graph) (later earlier : List Commit) :
    lastGraph start (later ++ earlier) = lastGraph (lastGraph start earlier) later := by
  cases later <;> rfl

theorem accountable_append (start : Graph) (later earlier : List Commit) :
    Accountable start (later ++ earlier) ↔
      Accountable (lastGraph start earlier) later ∧ Accountable start earlier := by
  induction later with
  | nil => simp [Accountable]
  | cons commit rest ih => simp only [List.cons_append, Accountable, ih, lastGraph_append, and_assoc]

theorem accountable_iff (start : Graph) (commits : List Commit) :
    Accountable start commits ↔ ∀ later commit earlier, commits = later ++ commit :: earlier →
      ¬ commit.save.Overlooks (lastGraph start earlier) := by
  constructor
  · rintro accountable later commit earlier rfl
    exact ((accountable_append start later _).mp accountable).2.1
  · intro each
    induction commits with
    | nil => trivial
    | cons commit rest ih =>
        refine ⟨each [] commit rest rfl, ih fun later other earlier same => ?_⟩
        exact each (commit :: later) other earlier (by rw [same, List.cons_append])

end History

/-- Saves in a row count their labels, but for those of keys that go with several values. -/
theorem commitAll_labelsCounted (saves : List Save) {system : System}
    (raising : Raising system.database.faults) (sound : system.database.store.Sound) :
    (commitAll saves system).2.graph =
        History.lastGraph system.graph (commitAll saves system).1 ∧
      ∃ uncounted, system.LabelsCounted (commitAll saves system).2 uncounted ∧
        (uncounted = 0 ↔ History.Accountable system.graph (commitAll saves system).1) := by
  induction saves generalizing system with
  | nil => exact ⟨rfl, 0, .of_same rfl fun _ => rfl, iff_of_true rfl trivial⟩
  | cons save rest ih =>
      have precedes := save.action_precedes system
      rcases save.action_labelsCounted raising sound with
        ⟨after, first, ran, afterSound, counts, exactly⟩ | ⟨failure, after, ran, restored, counts⟩
      · rw [Action.after_ok ran] at precedes
        obtain ⟨isLast, second, restCounts, restExactly⟩ :=
          ih (precedes.faults.raising raising) afterSound
        simp only [commitAll, ran]
        refine ⟨?_, first + second, counts.trans restCounts, ?_⟩
        · rw [History.lastGraph_append]
          exact isLast
        · rw [Nat.add_eq_zero_iff, exactly, restExactly, History.accountable_append, and_comm]
          simp only [History.lastGraph, History.Accountable, and_true]
      · simp only [commitAll, ran]
        exact ⟨restored, 0, counts, iff_of_true rfl trivial⟩

namespace Step

theorem run_mutations (step : Step) (system : System) (operation : String) :
    (step.run system).mutations operation =
      (commitAll step.saves system).2.mutations operation :=
  step.run_value system (by simp [Series.IsSynced])

theorem run_labelsCounted (step : Step) {system : System}
    (raising : ClusterGraph.Raising system.database.faults) (sound : system.database.store.Sound) :
    (step.run system).database.store.Sound ∧
      (step.run system).graph = History.lastGraph system.graph (step.commits system) ∧
      ∃ uncounted, system.LabelsCounted (step.run system) uncounted ∧
        (uncounted = 0 ↔ History.Accountable system.graph (step.commits system)) := by
  obtain ⟨isLast, uncounted, counts, exactly⟩ :=
    commitAll_labelsCounted step.saves raising sound
  have same : (step.run system).graph = (commitAll step.saves system).2.graph :=
    congrArg Store.graph (step.run_store system)
  refine ⟨?_, same.trans isLast, uncounted, ?_, exactly⟩
  · exact (step.run_evolves .start raising).sound sound
  · unfold System.LabelsCounted at counts ⊢
    rw [same, step.run_mutations, step.run_mutations]
    exact counts

end Step

/-- A run counts its labels, but for those of keys that go with several values. -/
theorem run_labelsCounted {steps : List Step} {system : System}
    (raising : Raising system.database.faults) (stepsRaising : ∀ step ∈ steps, step.Raising)
    (sound : system.database.store.Sound) :
    ∃ uncounted, system.LabelsCounted (run steps system) uncounted ∧
      (uncounted = 0 ↔ History.Accountable system.graph (history steps system)) := by
  induction steps generalizing system with
  | nil => exact ⟨0, .of_same rfl fun _ => rfl, iff_of_true rfl trivial⟩
  | cons step rest ih =>
      obtain ⟨nextSound, isLast, first, counts, exactly⟩ := step.run_labelsCounted raising sound
      obtain ⟨second, restCounts, restExactly⟩ :=
        ih (step.run_raising raising (stepsRaising step (by simp)))
          (fun later member => stepsRaising later (by simp [member])) nextSound
      refine ⟨first + second, counts.trans restCounts, ?_⟩
      rw [Nat.add_eq_zero_iff, exactly, restExactly, isLast, and_comm]
      exact (History.accountable_append _ _ _).symm

variable {start : System} {steps : List Step}

/-- From the empty graph the labels that are there and those that were counted as removed are at
most those that were counted as added. They are as many exactly if no save that was committed took
away a key under which its node had several values. -/
theorem run_labels_counted_iff (isEmpty : start.graph = {})
    (uncounted : ∀ operation, start.counters.value (.labelMutations operation) = 0)
    (raising : Raising start.database.faults) (stepsRaising : ∀ step ∈ steps, step.Raising) :
    (run steps start).graph.labels.length +
        (run steps start).counters.value (.labelMutations "remove") ≤
      (run steps start).counters.value (.labelMutations "add") ∧
    ((run steps start).graph.labels.length +
          (run steps start).counters.value (.labelMutations "remove") =
        (run steps start).counters.value (.labelMutations "add") ↔
      ∀ later commit earlier, history steps start = later ++ commit :: earlier →
        ¬ commit.save.Overlooks (History.lastGraph start.graph earlier)) := by
  obtain ⟨missed, counts, exactly⟩ := run_labelsCounted raising stepsRaising (.empty isEmpty)
  rw [← History.accountable_iff, ← exactly]
  simp only [System.LabelsCounted, System.mutations, uncounted, isEmpty, List.length_nil] at counts
  omega

theorem interruptedRun_labels_counted :
    (run interruptedRun interruptedSystem).graph.labels.length +
        (run interruptedRun interruptedSystem).counters.value (.labelMutations "remove") ≤
      (run interruptedRun interruptedSystem).counters.value (.labelMutations "add") ∧
    ((run interruptedRun interruptedSystem).graph.labels.length +
          (run interruptedRun interruptedSystem).counters.value (.labelMutations "remove") =
        (run interruptedRun interruptedSystem).counters.value (.labelMutations "add") ↔
      ∀ later commit earlier,
        history interruptedRun interruptedSystem = later ++ commit :: earlier →
        ¬ commit.save.Overlooks (History.lastGraph interruptedSystem.graph earlier)) :=
  run_labels_counted_iff rfl (fun _ => rfl) interruptedSystem_raising interruptedRun_raising

/-- A pod that is saved with labels. -/
def podLabelled (labels : List Label) : Node :=
  { uid := "pod", kind := "Pod", name := "web", labels, stamp := .time .epoch }

/-- The label of a pod gets another value. -/
def relabelledRun : List Step :=
  [.save (.upsert (podLabelled [⟨"app", "a"⟩])), .save (.upsert (podLabelled [⟨"app", "b"⟩]))]

def unlabelled : System := { journal := { threshold := 50 } }

theorem relabelledRun_raising : ∀ step ∈ relabelledRun, step.Raising := by
  simp [relabelledRun, Step.Raising]

theorem unlabelled_raising : Raising unlabelled.database.faults := by
  simp [unlabelled, Raising]

theorem relabelledRun_sound : (run relabelledRun unlabelled).database.store.Sound :=
  (run_evolves unlabelled_raising relabelledRun_raising).sound (.empty rfl)

/-- The pod has both values, so that the next save without its label overlooks one. -/
theorem relabelledRun_overlooked :
    (Save.upsert (podLabelled [])).Overlooks (run relabelledRun unlabelled).graph := by
  have evolved := run_evolves unlabelled_raising relabelledRun_raising
  have place : ("4:fake:n1", "pod") ∈ (run relabelledRun unlabelled).graph.places := by
    decide +kernel
  have sets : History.setsWithKey "pod" "app" (committedSaves relabelledRun unlabelled) =
      [[⟨"app", "b"⟩], [⟨"app", "a"⟩]] := by
    decide +kernel
  have labelled (value : String) (stored : value = "a" ∨ value = "b") :
      (run relabelledRun unlabelled).graph.HasLabel "4:fake:n1" ⟨"app", value⟩ := by
    refine (evolved.labelsFollow rfl "4:fake:n1" "pod" ⟨"app", value⟩ place).mpr ?_
    change ∃ labels ∈ History.setsWithKey "pod" "app" (committedSaves relabelledRun unlabelled), _
    rw [sets]
    rcases stored with rfl | rfl <;> simp
  exact ⟨podLabelled [], "4:fake:n1", rfl, place, "app", "a", "b", by decide, rfl,
    labelled "a" (.inl rfl), labelled "b" (.inr rfl)⟩

theorem relabelledRun_continues :
    ∃ last, (Save.upsert (podLabelled [])).action (run relabelledRun unlabelled) = .ok () last := by
  have projected : ∀ step ∈ relabelledRun, step.IsProjected := by
    intro step member
    simp only [relabelledRun, List.mem_cons, List.not_mem_nil, or_false] at member
    rcases member with rfl | rfl
    · exact fun value isTree => ⟨[], (Attributes.tree.inj isTree).symm⟩
    · exact fun value isTree => ⟨[], (Attributes.tree.inj isTree).symm⟩
  have legible : (run relabelledRun unlabelled).graph.Legible :=
    run_legible projected Graph.legible_empty
  have calm : (run relabelledRun unlabelled).database.faults = [] := by decide +kernel
  obtain ⟨properties, written⟩ : ∃ properties, (podLabelled []).properties = .ok properties :=
    ⟨_, rfl⟩
  obtain ⟨change, store, saved⟩ := Script.evaluate_saveNode_readable relabelledRun_sound
    (fun node member => (legible.nodes node member).readable) (podLabelled []) properties
  have ends := Action.saveNode_calm calm written
  rw [saved] at ends
  obtain ⟨last, ran, _⟩ := ends
  exact ⟨last, by simp only [Save.action, bind, EStateM.bind, ran]; rfl⟩

/-- Once the label of the pod goes, two labels were added and none is left, but only one removal was
counted. -/
theorem relabelledRun_miscounted : ¬ ∀ (start : System) (steps : List Step),
    start.graph = {} → (∀ operation, start.counters.value (.labelMutations operation) = 0) →
    Raising start.database.faults → (∀ step ∈ steps, step.Raising) →
    ((run steps start).graph.labels.length : Int) =
      (run steps start).counters.value (.labelMutations "add") -
        (run steps start).counters.value (.labelMutations "remove") := by
  intro claimed
  have counted : (run relabelledRun unlabelled).graph.labels.length = 2 ∧
      (run relabelledRun unlabelled).mutations "add" = 2 ∧
      (run relabelledRun unlabelled).mutations "remove" = 0 := by
    decide +kernel
  have equal := claimed unlabelled (relabelledRun ++ [.save (.upsert (podLabelled []))]) rfl
    (fun _ => rfl) unlabelled_raising (by simp [relabelledRun, Step.Raising])
  change ((Action.after (Save.upsert (podLabelled [])).action
    (run relabelledRun unlabelled)).graph.labels.length : Int) =
      (Action.after _ (run relabelledRun unlabelled)).mutations "add" -
        (Action.after _ (run relabelledRun unlabelled)).mutations "remove" at equal
  obtain ⟨last, ran⟩ := relabelledRun_continues
  rcases (Save.upsert (podLabelled [])).action_labelsCounted
    (run_raising unlabelled_raising relabelledRun_raising) relabelledRun_sound with
    ⟨after, uncounted, committed, _, counts, exactly⟩ | ⟨failure, after, failed, _⟩
  · have missed : uncounted ≠ 0 := fun none => exactly.mp none relabelledRun_overlooked
    rw [Action.after_ok committed] at equal
    unfold System.LabelsCounted at counts
    omega
  · rw [ran] at failed
    cases failed

end ClusterGraph
