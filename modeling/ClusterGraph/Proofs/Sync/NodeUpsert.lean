import ClusterGraph.Proofs.History.LabelChange
import ClusterGraph.Proofs.Store.ReadableNode
import ClusterGraph.Proofs.Sync.SyncEndings

namespace ClusterGraph

/-! The exact effect of the save of a node: the node is made if its uid is not stored, and the only
node with the uid is brought up to date, its labels by their keys. The stored node is read first,
though nothing but its id and its labels is used: a text of further fields that is nested too deep
ends the save. -/

/-- Different nodes have different ids, and ids that are still to be given are not in use. -/
structure Store.Numbered (store : Store) : Prop where
  nodeIds : store.graph.nodes.keys.Nodup
  unusedNodes : ∀ number, store.nextId ≤ number → nodeId number ∉ store.graph.nodes.keys
  unusedLabels : ∀ number, store.nextId ≤ number → labelId number ∉ store.graph.labels.keys

/-- The text of the further fields holds collections within too many others. -/
def Properties.IsTooDeep (properties : Properties) (collection : Json.Collection) : Prop :=
  Json.Document.ofText (((properties.entries.get? "additionalFields").getD .null).textOr "") =
    .error (.tooDeep collection)

theorem Node.attributesOfText_tooDeep {value : Json} {collection : Json.Collection}
    (deep : Json.Document.ofText (value.textOr "") = .error (.tooDeep collection)) :
    attributesOfText value = .error (.tooDeep collection) := by
  simp only [attributesOfText, deep]

theorem Node.attributesOfText_ok {value : Json}
    (shallow : ∀ collection, Json.Document.ofText (value.textOr "") ≠ .error (.tooDeep collection)) :
    ∃ attributes, attributesOfText value = .ok attributes := by
  unfold attributesOfText
  cases read : Json.Document.ofText (value.textOr "") with
  | ok document => cases document <;> exact ⟨_, rfl⟩
  | error error =>
      cases error with
      | malformed => exact ⟨_, rfl⟩
      | tooDeep collection => exact absurd read (shallow collection)

namespace Graph

/-- New labels of a node: one for each that is wanted, under ids that are not in use. -/
structure NewLabels (before : Graph) (owner : String) (wanted : Label → Prop)
    (made : Entries LabelEntity) : Prop where
  labels : ∃ labels : List Label, labels.Nodup ∧ (∀ label, label ∈ labels ↔ wanted label) ∧
    made.values = labels.map (·.entity owner)
  apart : made.keys.Nodup
  unused : ∀ id ∈ made.keys, id ∉ before.labels.keys

/-- A graph before and after a node was made. -/
structure NodeMade (before after : Graph) (id : String) (node : Node) (properties : Entries Json) :
    Prop where
  nodes : after.nodes = before.nodes ++ [(id, .ofEntries properties)]
  unused : id ∉ before.nodes.keys
  labels : ∃ made, after.labels = before.labels ++ made ∧
    before.NewLabels id (· ∈ node.labels) made
  relationships : after.relationships = before.relationships

/-- Whether a label is another node's, or has the key of one of some labels. -/
def retains (id : String) (labels : List Label) (entry : String × LabelEntity) : Bool :=
  entry.2.owner != id || labels.any fun label => entry.2.key.equals (.str label.key)

/-- A graph before and after a node was brought up to date. Properties with other names stay, and so
do labels whose key is still there; what is not stored yet is added. -/
structure NodeUpdated (before after : Graph) (id : String) (old : Properties) (node : Node)
    (properties : Entries Json) : Prop where
  nodes : ∃ earlier later merged, before.nodes = earlier ++ (id, old) :: later ∧
    after.nodes = earlier ++ (id, merged) :: later ∧ merged.Hold properties ∧
    ∀ property : Json × Json, (∀ entry ∈ properties, property.1 ≠ .str entry.1) →
      (property ∈ merged ↔ property ∈ old)
  labels : ∃ made, after.labels = before.labels.filter (retains id node.labels) ++ made ∧
    before.NewLabels id (fun label => label ∈ node.labels ∧ ¬ before.HasLabel id label) made
  relationships : after.relationships = before.relationships

variable {graph : Graph} {id : String} {old : Properties}

/-- A merge changes the merged node in its place. -/
theorem nodes_mergeNode (distinct : graph.nodes.keys.Nodup) (member : (id, old) ∈ graph.nodes)
    (properties : Properties) :
    ∃ earlier later, graph.nodes = earlier ++ (id, old) :: later ∧
      (graph.mergeNode id properties).nodes =
        earlier ++ (id, old.insertAll properties) :: later := by
  obtain ⟨earlier, later, place⟩ := List.append_of_mem member
  have apart : ∀ entry ∈ earlier ++ later, (if entry.1 == id then
      (id, entry.2.insertAll properties) else entry) = entry := by
    intro entry others
    have elsewhere : entry.1 ≠ id := by
      rintro rfl
      simp only [Entries.keys, place, List.map_append, List.map_cons] at distinct
      have absent := (List.nodup_middle.mp distinct)
      rw [← List.map_append] at absent
      exact (List.nodup_cons.mp absent).1 (List.mem_map_of_mem others)
    rw [if_neg (by simpa using elsewhere)]
  refine ⟨earlier, later, place, ?_⟩
  have before := List.map_congr_left fun entry member => apart entry (List.mem_append_left _ member)
  have behind := List.map_congr_left fun entry member =>
    apart entry (List.mem_append_right earlier member)
  rw [List.map_id'] at before behind
  change graph.nodes.map _ = _
  rw [place, List.map_append, List.map_cons, before, behind, if_pos (beq_self_eq_true id)]

theorem retains_entity {labels : List Label} {labelId owner : String} {label : Label} :
    retains id labels (labelId, label.entity owner) = true ↔
      (owner = id → LabelDiff.hasKey labels label.key = true) := by
  have keys : (labels.any fun other => (label.entity owner).key.equals (.str other.key)) =
      LabelDiff.hasKey labels label.key := by
    rw [LabelDiff.hasKey]
    congr 1
    funext other
    simp only [Label.entity, Json.equals_str, Bool.beq_comm]
  rw [retains, keys, Bool.or_eq_true, bne_iff_ne, ← imp_iff_not_or]
  rfl

theorem newLabels_freshLabels {next number : Nat}
    (unused : ∀ number, next ≤ number → Store.labelId number ∉ graph.labels.keys)
    (le : next ≤ number) (owner : String) {wanted : Label → Prop} {labels : List Label}
    (distinct : labels.Nodup) (members : ∀ label, label ∈ labels ↔ wanted label) :
    graph.NewLabels owner wanted (Store.freshLabels owner number labels) where
  labels := ⟨labels, distinct, members, Store.values_freshLabels owner number labels⟩
  apart := by
    rw [Store.keys_freshLabels]
    exact List.Nodup.map (fun _ _ => Store.labelId_injective) List.nodup_range'
  unused := by
    rw [Store.keys_freshLabels]
    intro id member
    obtain ⟨used, usedMember, rfl⟩ := List.mem_map.mp member
    exact unused used (Nat.le_trans le (List.mem_range'_1.mp usedMember).1)

end Graph

namespace Store

variable {store : Store} {node : Node} {properties : Entries Json} {id : String}
  {old : Properties} {stored : List Label}

theorem nodeMade_withNewNode (numbered : store.Numbered) (node : Node) (properties : Entries Json) :
    store.graph.NodeMade (store.withNewNode node properties).graph (nodeId store.nextId) node
      properties where
  nodes := nodes_withNewNode
  unused := numbered.unusedNodes _ (Nat.le_refl _)
  labels := ⟨_, labels_withNewNode, Graph.newLabels_freshLabels numbered.unusedLabels
    (Nat.le_succ _) _ (Label.normalize_nodup _) fun _ => Label.mem_normalize⟩
  relationships := rfl

theorem nodeUpdated_withNode (numbered : store.Numbered) (texts : store.graph.HasTextLabels)
    (written : node.properties = .ok properties) (member : (id, old) ∈ store.graph.nodes)
    (read : ∀ label, label ∈ stored ↔ store.graph.HasLabel id label) :
    store.graph.NodeUpdated
      (store.withNode id properties (LabelDiff.between stored node.labels)).graph id old node
      properties where
  nodes := by
    obtain ⟨earlier, later, before, after⟩ :=
      Graph.nodes_mergeNode numbered.nodeIds member (.ofEntries properties)
    exact ⟨earlier, later, _, before, after, Properties.hold_insertAll old (Node.keys_nodup written),
      fun property other => Properties.mem_insertAll_other other⟩
  labels := by
    have kept : store.graph.labels.filter
        (keepsLabel id (LabelDiff.between stored node.labels).removed) =
          store.graph.labels.filter (Graph.retains id node.labels) := by
      refine List.filter_congr fun entry entryMember => ?_
      obtain ⟨labelId, entity⟩ := entry
      obtain ⟨label, isLabel⟩ := texts _ entryMember
      simp only at isLabel
      generalize entity.owner = owner at isLabel
      subst isLabel
      have isRead : owner = id → label ∈ stored := by
        rintro rfl
        exact (read label).mpr ⟨labelId, entryMember⟩
      rw [Bool.eq_iff_iff, keepsLabel_entity isRead, Graph.retains_entity]
    refine ⟨_, by rw [labels_withNode, kept], ?_⟩
    refine Graph.newLabels_freshLabels numbered.unusedLabels (Nat.le_refl _) id
      LabelDiff.written_nodup fun label => ?_
    rw [LabelDiff.mem_written, read]
  relationships := rfl

end Store

namespace Action

/-- What the save of a node with these properties does in a system without faults. -/
structure UpsertsNode (node : Node) (properties : Entries Json) (system : System) : Prop where
  ambiguous : (∃ uid count after, saveNode node system =
      .error (.graph (.ambiguous uid count)) after) ↔ ¬ system.graph.Unambiguous node.uid
  unchanged : ∀ failure after, saveNode node system = .error failure after →
    after.graph = system.graph
  created : system.graph.nodesWithUid (.str node.uid) = [] →
    ∃ after, saveNode node system =
        .ok { node with graphId := Store.nodeId system.database.store.nextId } after ∧
      system.graph.NodeMade after.graph (Store.nodeId system.database.store.nextId) node properties
  updated : ∀ id old, system.graph.nodesWithUid (.str node.uid) = [(id, old)] →
    (∀ collection, ¬ old.IsTooDeep collection) →
    ∃ after, saveNode node system = .ok { node with graphId := id } after ∧
      system.graph.NodeUpdated after.graph id old node properties
  unread : ∀ id old collection, system.graph.nodesWithUid (.str node.uid) = [(id, old)] →
    old.IsTooDeep collection →
    ∃ after, saveNode node system = .error (.shape (.tooDeep collection)) after

variable {system : System} {node : Node} {properties : Entries Json} {id : String}
  {old : Properties}

theorem saveNode_several (calm : system.database.faults = [])
    (written : node.properties = .ok properties) (texts : system.graph.HasTextLabels)
    (several : ¬ system.graph.Unambiguous node.uid) :
    ∃ uid count after, saveNode node system = .error (.graph (.ambiguous uid count)) after := by
  obtain ⟨rows, listed, _⟩ : ∃ rows,
      (system.graph.nodesWithUid (.str node.uid)).mapM system.graph.nodeRow = .ok rows ∧
        ∀ row ∈ rows, True := mapM_ok_of_forall fun entry _ => by
    obtain ⟨rows, _, found, _⟩ := Graph.exists_nodeRow texts entry.1 entry.2
    exact ⟨_, found, trivial⟩
  have evaluated : (Script.saveNode node properties).evaluate system.database.store =
      .error (.graph (.ambiguous node.uid rows.length)) system.database.store :=
    Script.evaluate_saveNode_listed properties listed (Nat.lt_of_not_le several)
  have ends := saveNode_calm calm written
  rw [evaluated] at ends
  exact ⟨_, _, ends⟩

theorem saveNode_created (calm : system.database.faults = [])
    (written : node.properties = .ok properties) (numbered : system.database.store.Numbered)
    (absent : system.graph.nodesWithUid (.str node.uid) = []) :
    ∃ after, saveNode node system =
        .ok { node with graphId := Store.nodeId system.database.store.nextId } after ∧
      system.graph.NodeMade after.graph (Store.nodeId system.database.store.nextId) node
        properties := by
  have evaluated : (Script.saveNode node properties).evaluate system.database.store = .ok _ _ :=
    Script.evaluate_saveNode_absent absent
  have ends := saveNode_calm calm written
  rw [evaluated] at ends
  obtain ⟨after, ran, isStore⟩ := ends
  refine ⟨after, ran, ?_⟩
  rw [show after.graph = _ from congrArg Store.graph isStore]
  exact Store.nodeMade_withNewNode numbered node properties

theorem saveNode_updated (calm : system.database.faults = [])
    (written : node.properties = .ok properties) (numbered : system.database.store.Numbered)
    (texts : system.graph.HasTextLabels)
    (present : system.graph.nodesWithUid (.str node.uid) = [(id, old)])
    (shallow : ∀ collection, ¬ old.IsTooDeep collection) :
    ∃ after, saveNode node system = .ok { node with graphId := id } after ∧
      system.graph.NodeUpdated after.graph id old node properties := by
  obtain ⟨rows, labels, listed, labelsRead⟩ := Graph.exists_nodeRow texts id old
  obtain ⟨attributes, attributesRead⟩ := Node.attributesOfText_ok shallow
  obtain ⟨stored, read⟩ := Node.ofRecord_readable id labelsRead attributesRead
  have evaluated : (Script.saveNode node properties).evaluate system.database.store = .ok _ _ :=
    Script.evaluate_saveNode_read properties present listed read
  have member : (id, old) ∈ system.graph.nodes := by
    have isListed : (id, old) ∈ system.graph.nodesWithUid (.str node.uid) := by simp [present]
    exact (Graph.mem_nodesWithUid.mp isListed).1
  have ends := saveNode_calm calm written
  rw [evaluated] at ends
  obtain ⟨after, ran, isStore⟩ := ends
  refine ⟨after, ran, ?_⟩
  rw [show after.graph = _ from congrArg Store.graph isStore]
  exact Store.nodeUpdated_withNode numbered texts written member
    (Graph.labels_ofRecord texts listed read)

theorem saveNode_unread (calm : system.database.faults = [])
    (written : node.properties = .ok properties) (texts : system.graph.HasTextLabels)
    (present : system.graph.nodesWithUid (.str node.uid) = [(id, old)])
    {collection : Json.Collection} (deep : old.IsTooDeep collection) :
    ∃ after, saveNode node system = .error (.shape (.tooDeep collection)) after := by
  obtain ⟨rows, labels, listed, labelsRead⟩ := Graph.exists_nodeRow texts id old
  have unread := Node.ofRecord_unreadable id labelsRead (Node.attributesOfText_tooDeep deep)
  have evaluated : (Script.saveNode node properties).evaluate system.database.store =
      .error (.shape (.tooDeep collection)) system.database.store :=
    Script.evaluate_saveNode_unread properties present listed unread
  have ends := saveNode_calm calm written
  rw [evaluated] at ends
  exact ends

/-- The save of a node in a system without faults, whatever the graph holds, as long as its labels
are texts. -/
theorem saveNode_upserts (numbered : system.database.store.Numbered)
    (texts : system.graph.HasTextLabels) (calm : system.database.faults = [])
    (written : node.properties = .ok properties) : UpsertsNode node properties system where
  ambiguous := by
    refine ⟨?_, saveNode_several calm written texts⟩
    rintro ⟨uid, count, after, ran⟩ few
    unfold Graph.Unambiguous at few
    match listed : system.graph.nodesWithUid (.str node.uid) with
    | [] =>
        obtain ⟨last, succeeded, _⟩ := saveNode_created calm written numbered listed
        rw [ran] at succeeded
        cases succeeded
    | [(id, old)] =>
        by_cases deep : ∃ collection, old.IsTooDeep collection
        · obtain ⟨collection, isDeep⟩ := deep
          obtain ⟨last, failed⟩ := saveNode_unread calm written texts listed isDeep
          rw [ran] at failed
          cases failed
        · obtain ⟨last, succeeded, _⟩ :=
            saveNode_updated calm written numbered texts listed (not_exists.mp deep)
          rw [ran] at succeeded
          cases succeeded
    | _ :: _ :: _ => simp [listed] at few
  unchanged failure after ran := by
    have raising : Raising system.database.faults := by simp [calm, Raising]
    exact (saveNode_failed raising ran).1
  created := saveNode_created calm written numbered
  updated _ _ := saveNode_updated calm written numbered texts
  unread _ _ _ present deep := saveNode_unread calm written texts present deep

/-- The node of a pod with a text for its further fields and a label. -/
def podWithFields (text : String) : System :=
  { database := { store :=
      { graph :=
          { nodes := [(Store.nodeId 1, .ofEntries
              [("uid", .str "pod"), ("extra", .int 1), ("additionalFields", .str text)])]
            labels := [(Store.labelId 2, (Label.mk "app" "old").entity (Store.nodeId 1))] }
        nextId := 3 } }
    journal := { threshold := 50 } }

def freshPod : Node :=
  { uid := "pod", kind := "Pod", name := "web", labels := [⟨"app", "new"⟩], stamp := .time .epoch }

theorem numbered_podWithFields (text : String) :
    (podWithFields text).database.store.Numbered where
  nodeIds := by simp [podWithFields, Entries.keys]
  unusedNodes := by
    intro number le member
    obtain rfl := Store.nodeId_injective (List.mem_singleton.mp member)
    exact absurd le (by decide : ¬ 3 ≤ 1)
  unusedLabels := by
    intro number le member
    obtain rfl := Store.labelId_injective (List.mem_singleton.mp member)
    exact absurd le (by decide : ¬ 3 ≤ 2)

theorem hasTextLabels_podWithFields (text : String) :
    (podWithFields text).graph.HasTextLabels := by
  intro entry member
  rw [List.mem_singleton.mp member]
  exact ⟨_, rfl⟩

theorem fields_podWithFields (text : String) :
    ∃ old, (podWithFields text).graph.nodesWithUid (.str "pod") = [(Store.nodeId 1, old)] ∧
      ((old.entries.get? "additionalFields").getD .null).textOr "" = text := by
  let entries : Entries Json :=
    [("uid", .str "pod"), ("extra", .int 1), ("additionalFields", .str text)]
  have distinct : entries.keys.Nodup := by
    have names : entries.keys = ["uid", "extra", "additionalFields"] := rfl
    rw [names]
    decide
  have member : ("additionalFields", .str text) ∈ entries := by simp [entries]
  refine ⟨.ofEntries entries, rfl, ?_⟩
  rw [Properties.get?_entries_ofEntries distinct member]
  rfl

/-- A pod whose further fields can be read is brought up to date. -/
theorem saveNode_upserts_freshPod :
    ∃ old properties after, freshPod.properties = .ok properties ∧
      saveNode freshPod (podWithFields "not JSON") =
        .ok { freshPod with graphId := Store.nodeId 1 } after ∧
      (podWithFields "not JSON").graph.NodeUpdated after.graph (Store.nodeId 1) old freshPod
        properties := by
  obtain ⟨old, present, isText⟩ := fields_podWithFields "not JSON"
  obtain ⟨properties, written⟩ : ∃ properties, freshPod.properties = .ok properties := ⟨_, rfl⟩
  have shallow (collection : Json.Collection) : ¬ old.IsTooDeep collection := by
    rw [Properties.IsTooDeep, isText]
    have malformed : Json.Document.ofText "not JSON" = .error .malformed := by rfl
    simp [malformed]
  obtain ⟨after, ran, updated⟩ := (saveNode_upserts (numbered_podWithFields _)
    (hasTextLabels_podWithFields _) rfl written).updated _ old present shallow
  exact ⟨old, properties, after, written, ran, updated⟩

/-- A pod whose further fields are nested too deep cannot be saved. -/
theorem deepPod_unsaved : ¬ ∀ (system : System) (node : Node) (properties : Entries Json),
    system.database.store.Numbered → system.graph.HasTextLabels → system.database.faults = [] →
    node.properties = .ok properties → ∀ id old,
    system.graph.nodesWithUid (.str node.uid) = [(id, old)] →
    ∃ after, saveNode node system = .ok { node with graphId := id } after := by
  intro claimed
  let text := String.ofList (List.replicate 1500 '[')
  obtain ⟨old, present, isText⟩ := fields_podWithFields text
  obtain ⟨properties, written⟩ : ∃ properties, freshPod.properties = .ok properties := ⟨_, rfl⟩
  have deep : old.IsTooDeep .array := by
    rw [Properties.IsTooDeep, isText]
    exact Json.Document.ofText_deep (by decide)
  have numbered := numbered_podWithFields text
  have labels := hasTextLabels_podWithFields text
  have calm : (podWithFields text).database.faults = [] := rfl
  obtain ⟨last, failed⟩ := saveNode_unread calm written labels present deep
  obtain ⟨after, saved⟩ := claimed _ freshPod properties numbered labels calm written _ old present
  rw [failed] at saved
  cases saved

end Action

end ClusterGraph
