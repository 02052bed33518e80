import ClusterGraph.Proofs.Calendar.StampReadBack
import ClusterGraph.Proofs.Json.KeyOrder
import ClusterGraph.Proofs.Store.ReadableNode

namespace ClusterGraph

/-! Nodes that are read back. A node with further fields that are texts is read back as it was
written, whatever else is stored with it: the stamp in universal time, and the further fields in the
order of their keys. Writing it once more stores the same properties. -/

namespace Json

/-- Entries with different keys stay as they are, behind any that stand before them. -/
theorem Document.ofEntries_distinct {entries : List (List Text.CodePoint × Document)}
    (distinct : (entries.map Prod.fst).Nodup) : ofEntries entries = .obj entries := by
  suffices general : ∀ done : List (List Text.CodePoint × Document),
      ((done ++ entries).map Prod.fst).Nodup →
      entries.foldl (fun all entry => Entries.insertBy (· == entry.1) all entry.1 entry.2) done =
        done ++ entries by
    rw [ofEntries, general [] distinct, List.nil_append]
  clear distinct
  induction entries with
  | nil => simp
  | cons entry rest ih =>
      intro done distinct
      have absent : done.any (·.1 == entry.1) = false := by
        simp only [List.map_append, List.map_cons] at distinct
        rw [List.any_eq_false]
        intro other member same
        refine List.disjoint_of_nodup_append distinct (List.mem_map_of_mem member) ?_
        simp [beq_iff_eq.mp same]
      have inserted : Entries.insertBy (· == entry.1) done entry.1 entry.2 = done ++ [entry] := by
        rw [Entries.insertBy, absent]
        rfl
      rw [List.foldl_cons, inserted, ih _ (by simpa using distinct), List.append_assoc]
      rfl

end Json

namespace Node

/-- Texts as the values of an object. -/
def textValues (fields : List (String × String)) : Entries Json :=
  fields.map fun field => (field.1, .str field.2)

theorem attributesOfText_fields {fields : List (String × String)}
    (distinct : (fields.map Prod.fst).Nodup) :
    attributesOfText (.str (Json.text .spaced (.obj (textValues fields)))) =
      .ok (textValues (Json.sortKeys fields)) := by
  have sorted : ((Json.sortKeys fields).map Prod.fst).Nodup :=
    ((Json.sortKeys_perm fields).map Prod.fst).nodup_iff.mpr distinct
  have keys : ((Json.sortKeys fields).map Json.entryDocument).map Prod.fst =
      ((Json.sortKeys fields).map Prod.fst).map Text.CodePoint.ofString := by
    simp [Json.entryDocument, Function.comp_def]
  have documents : (((Json.sortKeys fields).map Json.entryDocument).map Prod.fst).Nodup := by
    rw [keys]
    exact sorted.map (Function.LeftInverse.injective Text.CodePoint.text_ofString)
  rw [attributesOfText, Json.textOr, textValues, Json.Document.ofText_fields,
    Json.Document.ofEntries_distinct documents]
  simp [textValues, Json.entryDocument, Json.Document.display]

theorem text_sortKeys (fields : List (String × String)) :
    Json.text .spaced (.obj (textValues (Json.sortKeys fields))) =
      Json.text .spaced (.obj (textValues fields)) := by
  simp only [Json.text, textValues, Json.write_fields, Json.sortKeys_again]

variable {node : Node} {entries : Entries Json} {fields : List (String × String)}

theorem properties_eq (areFields : node.attributes = .tree (.obj (textValues fields))) :
    node.properties = (stampText (fun reason => .graph (.unwritable node.uid reason)) node.stamp).map
      (node.propertiesWith · (Json.text .spaced (.obj (textValues fields)))) := by
  simp only [properties, areFields, attributesText, textValues, Json.textFault?_fields]

theorem properties_written (areFields : node.attributes = .tree (.obj (textValues fields)))
    (written : node.properties = .ok entries) :
    ∃ time shifted, node.stamp = .time time ∧ time.toUtc = .ok shifted ∧
      entries = node.propertiesWith shifted.text
        (Json.text .spaced (.obj (textValues fields))) := by
  rw [properties_eq areFields] at written
  cases isStamp : node.stamp with
  | other value => simp [isStamp, stampText, Except.map] at written
  | time time =>
      cases shifts : time.toUtc with
      | error reason => cases reason <;> simp [isStamp, stampText, shifts, Except.map] at written
      | ok shifted =>
          simp only [isStamp, stampText, shifts, Except.map, Except.ok.injEq] at written
          exact ⟨time, shifted, rfl, shifts, written.symm⟩

/-- What a node that is read back tells, compared with the node that was written. -/
structure IsReadBackOf (read written : Node) : Prop where
  uid : read.uid = written.uid
  group : read.group = written.group
  version : read.version = written.version
  kind : read.kind = written.kind
  name : read.name = written.name
  namespaceName : read.namespaceName = written.namespaceName
  cluster : read.cluster = written.cluster
  phase : read.phase = written.phase
  machine : read.machine = written.machine
  isCurrent : read.isCurrent = written.isCurrent
  /-- The same further fields, in some order. -/
  attributes : ∃ fields others, written.attributes = .tree (.obj fields) ∧
    read.attributes = .tree (.obj others) ∧ others.Perm fields
  /-- The same instant, in universal time. -/
  stamp : ∃ time shifted, written.stamp = .time time ∧ read.stamp = .time shifted ∧
    shifted.offset = some 0 ∧ shifted.instant = time.instant
  /-- Both are stored with the same properties. -/
  properties : read.properties = written.properties

/-- Edges are no properties. -/
theorem IsReadBackOf.withEdges {read written : Node} (isReadBack : read.IsReadBackOf written)
    (edges : List Edge) : IsReadBackOf { read with edges } written :=
  { isReadBack with properties := isReadBack.properties }

/-- The node that is read from a row under a graph id, with the properties that a node was written
with. -/
def readBack (node : Node) (shifted : Calendar.Timestamp) (fields : List (String × String))
    (labels : List Label) (graphId : String) : Node :=
  { node with
    labels
    attributes := .tree (.obj (textValues (Json.sortKeys fields)))
    stamp := .time shifted
    graphId
    edges := [] }

theorem isReadBackOf_readBack {time shifted : Calendar.Timestamp}
    (areFields : node.attributes = .tree (.obj (textValues fields)))
    (isStamp : node.stamp = .time time) (shifts : time.toUtc = .ok shifted) (labels : List Label)
    (graphId : String) : (node.readBack shifted fields labels graphId).IsReadBackOf node := by
  obtain ⟨utc, sameInstant⟩ := Calendar.Timestamp.toUtc_ok shifts
  constructor
  case attributes =>
    exact ⟨_, _, areFields, rfl, (Json.sortKeys_perm fields).map _⟩
  case stamp => exact ⟨time, shifted, isStamp, rfl, utc, sameInstant⟩
  case properties =>
    have read : (node.readBack shifted fields labels graphId).attributes =
        .tree (.obj (textValues (Json.sortKeys fields))) := rfl
    rw [properties_eq read, properties_eq areFields, text_sortKeys, isStamp]
    simp only [readBack, stampText, Calendar.Timestamp.toUtc_utc utc, shifts]
    rfl
  all_goals rfl

/-- A row tells a node as it was written, whatever further properties the row has. -/
theorem ofRecord_written (distinct : (fields.map Prod.fst).Nodup) {shifted : Calendar.Timestamp}
    (utc : shifted.offset = some 0) {row : Entries Json}
    (told : ∀ entry ∈ node.propertiesWith shifted.text
      (Json.text .spaced (.obj (textValues fields))), row.get? entry.1 = some entry.2)
    {rows : List Json} {labels : List Label} (labelsRead : labelsOfRecord (.arr rows) = .ok labels)
    (id : String) :
    ofRecord (.obj [("graph_id", .str id), ("props", .obj row), ("labels", .arr rows)]) none =
      .ok (node.readBack shifted fields labels id) := by
  simp only [propertiesWith, List.forall_mem_cons] at told
  obtain ⟨uid, group, version, kind, name, namespaceName, cluster, phase, machine, isCurrent,
    stamp, attributes, _⟩ := told
  have isStamp : stampOf (.str shifted.text) = shifted := by
    rw [stampOf, Calendar.Timestamp.ofText_text utc]
    rfl
  simp only [ofRecord, Json.entries?]
  change ((labelsOfRecord (.arr rows)).bind fun labels => (entriesOf (.obj row)).bind fun row =>
    (attributesOfText ((row.get? "additionalFields").getD .null)).bind fun attributes => _) = _
  simp only [labelsRead, entriesOf, Except.bind, attributes, Option.getD_some,
    attributesOfText_fields distinct, uid, group, version, kind, name, namespaceName, cluster,
    phase, machine, isCurrent, stamp, isStamp, Option.getD_none, Entries.get?_cons,
    beq_self_eq_true, if_true, Json.display_str, Json.displayFilled_str, Json.isVacant,
    Bool.not_not]
  rfl

end Node

end ClusterGraph
