import ClusterGraph.Proofs.History.Determination
import ClusterGraph.Proofs.History.LabelChange

namespace ClusterGraph

/-! The labels of a node. A save adds the labels that are not stored and takes away those whose key
it lacks, so that a key has all values of the last saves in a row that had the key. -/

namespace History

/-- The labels of the saves of a uid, newest first. -/
def labelSets (uid : String) : List Save → List (List Label)
  | [] => []
  | .upsert node :: earlier =>
      if node.uid = uid then node.labels :: labelSets uid earlier else labelSets uid earlier
  | .replace _ _ :: earlier => labelSets uid earlier

/-- The last of them in a row that have a key. -/
def setsWithKey (uid key : String) (saves : List Save) : List (List Label) :=
  (labelSets uid saves).takeWhile (LabelDiff.hasKey · key)

variable {save : Save} {saves : List Save} {uid key : String} {labels : List Label}

theorem labelSets_saved (saved : save.Labels uid labels) :
    labelSets uid (save :: saves) = labels :: labelSets uid saves := by
  obtain ⟨node, rfl, rfl, rfl⟩ := saved
  simp only [labelSets, if_true]

theorem labelSets_other (other : ¬ ∃ labels, save.Labels uid labels) :
    labelSets uid (save :: saves) = labelSets uid saves := by
  cases save with
  | upsert node =>
      have differ : node.uid ≠ uid := fun same => other ⟨node.labels, node, rfl, same, rfl⟩
      simp only [labelSets, if_neg differ]
  | replace source descriptors => rfl

theorem labelSets_unknown (unknown : uid ∉ uids saves) : labelSets uid saves = [] := by
  induction saves with
  | nil => rfl
  | cons save earlier ih =>
      rw [labelSets_other]
      · exact ih fun known => unknown (uids_later save known)
      · rintro ⟨labels, node, rfl, isUid, _⟩
        exact unknown (mem_uids.mpr ⟨node, List.mem_cons_self, isUid⟩)

theorem setsWithKey_saved (saved : save.Labels uid labels) :
    setsWithKey uid key (save :: saves) =
      if LabelDiff.hasKey labels key then labels :: setsWithKey uid key saves else [] := by
  rw [setsWithKey, labelSets_saved saved, List.takeWhile_cons]
  rfl

theorem setsWithKey_other (other : ¬ ∃ labels, save.Labels uid labels) :
    setsWithKey uid key (save :: saves) = setsWithKey uid key saves := by
  rw [setsWithKey, labelSets_other other, setsWithKey]

theorem setsWithKey_unknown (unknown : uid ∉ uids saves) : setsWithKey uid key saves = [] := by
  rw [setsWithKey, labelSets_unknown unknown, List.takeWhile_nil]

end History

/-- The labels of a node are those of the last of its saves in a row that had their key. -/
def Graph.LabelsFollow (graph : Graph) (saves : List Save) : Prop :=
  ∀ id uid label, (id, uid) ∈ graph.places →
    (graph.HasLabel id label ↔
      ∃ labels ∈ History.setsWithKey uid label.key saves, label ∈ labels)

/-- The owner of a label has a place. -/
theorem Store.Sound.place_of_label {store : Store} (sound : store.Sound) {labelId id : String}
    {label : Label} (member : (labelId, label.entity id) ∈ store.graph.labels) :
    ∃ uid, (id, uid) ∈ store.graph.places := by
  have stored := sound.owners _ member
  obtain ⟨node, nodeMember, same⟩ := List.mem_map.mp (Graph.hasNode_iff.mp stored)
  exact ⟨Graph.uid node, List.mem_map.mpr ⟨node, nodeMember, by rw [same]; rfl⟩⟩

namespace Committed

variable {save : Save} {store after : Store} {saves : List Save} {id uid labelId : String}
  {label : Label}

theorem place_of_old_label (committed : Committed save store after) (sound : store.Sound)
    (place : (id, uid) ∈ after.graph.places)
    (member : (labelId, label.entity id) ∈ store.graph.labels) :
    (id, uid) ∈ store.graph.places := by
  obtain ⟨old, oldPlace⟩ := sound.place_of_label member
  have kept := (committed.places sound).subset oldPlace
  rwa [(committed.sound sound).uid_eq place kept]

/-- Where a history tells of labels, the node was stored. -/
theorem place_of_sets (committed : Committed save store after) (sound : store.Sound)
    (reflects : store.graph.Reflects saves) (place : (id, uid) ∈ after.graph.places)
    {key : String} {labels : List Label} (told : labels ∈ History.setsWithKey uid key saves) :
    (id, uid) ∈ store.graph.places := by
  rcases committed.place_cases sound place with old | ⟨_, unknown⟩
  · exact old
  · rw [reflects.uids] at unknown
    rw [History.setsWithKey_unknown unknown] at told
    contradiction

theorem labelsFollow (committed : Committed save store after) (sound : store.Sound)
    (reflects : store.graph.Reflects saves) (follow : store.graph.LabelsFollow saves) :
    after.graph.LabelsFollow (save :: saves) := by
  intro id uid label place
  by_cases saved : ∃ labels, save.Labels uid labels
  · obtain ⟨labels, saved⟩ := saved
    rw [History.setsWithKey_saved saved]
    constructor
    · rintro ⟨labelId, member⟩
      rcases committed.label_cases sound place member with
        ⟨old, keyStays⟩ | ⟨⟨others, othersSaved, carried⟩, _⟩
      · have before := committed.place_of_old_label sound place old
        obtain ⟨earlier, told, carried⟩ := (follow id uid label before).mp ⟨labelId, old⟩
        rw [if_pos (keyStays labels saved)]
        exact ⟨earlier, List.mem_cons_of_mem _ told, carried⟩
      · obtain rfl := saved.unique othersSaved
        rw [if_pos (LabelDiff.hasKey_iff.mpr ⟨label, carried, rfl⟩)]
        exact ⟨labels, List.mem_cons_self, carried⟩
    · rintro ⟨told, toldMember, carried⟩
      split at toldMember
      · rename_i keyStays
        rcases List.mem_cons.mp toldMember with rfl | earlier
        · exact committed.label_gained sound place saved carried
        · have before := committed.place_of_sets sound reflects place earlier
          obtain ⟨labelId, old⟩ := (follow id uid label before).mpr ⟨told, earlier, carried⟩
          refine ⟨labelId, committed.label_stays sound before old fun others othersSaved => ?_⟩
          rwa [← saved.unique othersSaved]
      · contradiction
  · rw [History.setsWithKey_other saved]
    constructor
    · rintro ⟨labelId, member⟩
      rcases committed.label_cases sound place member with ⟨old, _⟩ | ⟨⟨others, gained, _⟩, _⟩
      · exact (follow id uid label (committed.place_of_old_label sound place old)).mp ⟨labelId, old⟩
      · exact absurd ⟨others, gained⟩ saved
    · rintro ⟨told, toldMember, carried⟩
      have before := committed.place_of_sets sound reflects place toldMember
      obtain ⟨labelId, old⟩ := (follow id uid label before).mpr ⟨told, toldMember, carried⟩
      exact ⟨labelId, committed.label_stays sound before old fun others othersSaved =>
        absurd ⟨others, othersSaved⟩ saved⟩

end Committed

/-- Where a stored label comes from: the first save that had it of those in a row that have its
key. Its id was new then, and the label was stored under it ever since. -/
structure Label.Origin (label : Label) (labelId id uid : String) (later : List Commit)
    (first : Commit) (earlier : List Commit) : Prop where
  carried : ∃ labels, first.save.Labels uid labels ∧ label ∈ labels
  keyStays : ∀ labels ∈ History.labelSets uid (later.map Commit.save),
    LabelDiff.hasKey labels label.key = true
  unsaved : ∀ labels ∈ History.setsWithKey uid label.key (earlier.map Commit.save), label ∉ labels
  unused : ∀ commit ∈ earlier, labelId ∉ commit.graph.labels.keys
  stored : ∀ commit ∈ later ++ [first], (labelId, label.entity id) ∈ commit.graph.labels

namespace Evolves

variable {start store : Store} {commits : List Commit} {id uid labelId : String} {label : Label}

theorem labelsFollow (isEmpty : start.graph = {}) (evolved : Evolves start commits store) :
    store.graph.LabelsFollow (commits.map Commit.save) := by
  induction evolved with
  | start => simp [Graph.LabelsFollow, Graph.places, isEmpty]
  | idle _ restored _ ih =>
      rw [restored]
      exact ih
  | commit evolved effect ih =>
      have sound := evolved.sound (.empty isEmpty)
      exact (Save.committed sound effect).labelsFollow sound (evolved.reflects isEmpty) ih

/-- No label id of a graph is above those used up since. -/
theorem usedLabelIds (isEmpty : start.graph = {}) (evolved : Evolves start commits store) :
    ∀ commit ∈ commits, UsedIds Store.labelId store.nextId commit.graph.labels.keys := by
  induction evolved with
  | start => simp
  | idle _ _ ids ih => exact fun commit member => (ih commit member).mono ids
  | commit evolved effect ih =>
      have sound := evolved.sound (.empty isEmpty)
      have committed := Save.committed sound effect
      intro commit member
      rcases List.mem_cons.mp member with rfl | earlier
      · exact committed.labelIds sound
      · exact (ih commit earlier).mono committed.nextId_le

theorem origin (isEmpty : start.graph = {}) (evolved : Evolves start commits store)
    (place : (id, uid) ∈ store.graph.places)
    (member : (labelId, label.entity id) ∈ store.graph.labels) :
    ∃ later first earlier, commits = later ++ first :: earlier ∧
      label.Origin labelId id uid later first earlier := by
  induction evolved with
  | start => simp [isEmpty] at member
  | idle _ restored _ ih =>
      rw [restored] at place member
      exact ih place member
  | @commit commits before after save evolved effect ih =>
      have sound := evolved.sound (.empty isEmpty)
      have committed := Save.committed sound effect
      rcases committed.label_cases sound place member with
        ⟨old, keyStays⟩ | ⟨carried, unstored, number, high, isId⟩
      · obtain ⟨later, first, earlier, rfl, origin⟩ :=
          ih (committed.place_of_old_label sound place old) old
        refine ⟨⟨save, after.graph⟩ :: later, first, earlier, rfl, origin.carried, ?_,
          origin.unsaved, origin.unused, ?_⟩
        · intro labels told
          rw [List.map_cons] at told
          by_cases saved : ∃ labels, save.Labels uid labels
          · obtain ⟨own, saved⟩ := saved
            rw [History.labelSets_saved saved] at told
            rcases List.mem_cons.mp told with rfl | earlier
            · exact keyStays labels saved
            · exact origin.keyStays labels earlier
          · rw [History.labelSets_other saved] at told
            exact origin.keyStays labels told
        · intro commit commitMember
          rcases List.mem_cons.mp commitMember with rfl | others
          · exact member
          · exact origin.stored commit others
      · refine ⟨[], ⟨save, after.graph⟩, commits, rfl, carried, by simp [History.labelSets], ?_,
          ?_, by simpa using member⟩
        · intro labels told labelMember
          have reflects := evolved.reflects isEmpty
          have oldPlace := committed.place_of_sets sound reflects place told
          exact unstored ((evolved.labelsFollow isEmpty id uid label oldPlace).mpr
            ⟨labels, told, labelMember⟩)
        · intro commit commitMember used
          have ids := (evolved.usedLabelIds isEmpty commit commitMember).mono high
          rw [isId] at used
          exact ids.fresh Store.labelId_injective (Nat.le_refl _) used

end Evolves

variable {start : System} {steps : List Step}

/-- From the empty graph the labels of a node under a key are those of the last of its saves in a
row that had the key. Each of them is one entity, which has kept the id that it got at the first
of these saves that had it. -/
theorem run_labels (isEmpty : start.graph = {}) (raising : Raising start.database.faults)
    (stepsRaising : ∀ step ∈ steps, step.Raising) :
    ∀ id uid, (id, uid) ∈ (run steps start).graph.places →
      (∀ key value,
        (∃ labelId, (labelId, ⟨id, .str key, .str value⟩) ∈ (run steps start).graph.labels) ↔
          ∃ labels ∈ History.setsWithKey uid key (committedSaves steps start),
            ⟨key, value⟩ ∈ labels) ∧
      ∀ entry ∈ (run steps start).graph.labels, entry.2.owner = id →
        ∃ label : Label, entry.2 = label.entity id ∧
          (∀ other ∈ (run steps start).graph.labels, other.2 = label.entity id → other = entry) ∧
          ∃ later first earlier, history steps start = later ++ first :: earlier ∧
            label.Origin entry.1 id uid later first earlier := by
  have evolved := run_evolves raising stepsRaising
  have sound := run_sound isEmpty raising stepsRaising
  intro id uid place
  refine ⟨fun key value => evolved.labelsFollow isEmpty id uid ⟨key, value⟩ place, ?_⟩
  intro entry member owned
  obtain ⟨label, isLabel⟩ := sound.texts entry member
  rw [owned] at isLabel
  refine ⟨label, isLabel, fun other otherMember same => ?_, ?_⟩
  · exact List.inj_on_of_nodup_map sound.labels otherMember member (same.trans isLabel.symm)
  · obtain ⟨labelId, entity⟩ := entry
    subst isLabel
    exact evolved.origin isEmpty place member

theorem interruptedRun_labels :
    (∀ key value,
      (∃ labelId, (labelId, ⟨"4:fake:n1", .str key, .str value⟩) ∈
        (run interruptedRun interruptedSystem).graph.labels) ↔
        ∃ labels ∈ History.setsWithKey "pod" key (committedSaves interruptedRun interruptedSystem),
          ⟨key, value⟩ ∈ labels) ∧
    ∀ entry ∈ (run interruptedRun interruptedSystem).graph.labels, entry.2.owner = "4:fake:n1" →
      ∃ label : Label, entry.2 = label.entity "4:fake:n1" ∧
        (∀ other ∈ (run interruptedRun interruptedSystem).graph.labels,
          other.2 = label.entity "4:fake:n1" → other = entry) ∧
        ∃ later first earlier,
          history interruptedRun interruptedSystem = later ++ first :: earlier ∧
            label.Origin entry.1 "4:fake:n1" "pod" later first earlier :=
  run_labels rfl interruptedSystem_raising interruptedRun_raising "4:fake:n1" "pod"
    (by decide +kernel)

/-- The lost save leaves no trace: the pod has the labels of the first and of the last one. -/
example : (History.setsWithKey "pod" "app" (committedSaves interruptedRun interruptedSystem)) =
    [[⟨"app", "c"⟩], [⟨"app", "a"⟩]] := by
  decide +kernel

end ClusterGraph
