import ClusterGraph.Calendar.Reader
import ClusterGraph.Failure
import ClusterGraph.Json.Literal
import ClusterGraph.Json.Reader
import ClusterGraph.Store.Graph

namespace ClusterGraph

/-! How nodes and edges are written to the database and read back from its rows. Labels and
relationships of a node are entities of their own and not among its properties. -/

namespace Node

/-- The text that holds the further fields, or why there is none. -/
def attributesText (refuse : String → Failure) : Attributes → Except Failure String
  | .tree value =>
      match value.textFault? with
      | none => .ok (value.text .spaced)
      | some .tooDeep => .error (.shape (.unwritten .tooDeep))
      | some .longInteger => .error (refuse Text.longIntegerMessage)
  | .unwritable => .error (refuse "Object of type object is not JSON serializable")
  | .textless fault => .error (.shape (.unwritten fault))

def stampText (refuse : String → Failure) : Stamp → Except Failure String
  | .time value =>
      match value.toUtc with
      | .ok shifted => .ok shifted.text
      | .error .yearZero => .error (refuse "year 0 is out of range")
      | .error .dateOutOfRange => .error .dateOutOfRange
  | .other value =>
      .error (refuse ("'" ++ value.kindName ++ "' object has no attribute 'astimezone'"))

/-- The properties of a node, once its texts are known. -/
def propertiesWith (node : Node) (stamp attributes : String) : Entries Json :=
  [("uid", .str node.uid),
   ("group", .str node.group),
   ("apiVersion", .str node.version),
   ("kind", .str node.kind),
   ("name", .str node.name),
   ("namespace", .str node.namespaceName),
   ("cluster", .str node.cluster),
   ("status_phase", .str node.phase),
   ("spec_nodeName", .str node.machine),
   ("isCurrent", .bool node.isCurrent),
   ("lastUpdated", .str stamp),
   ("additionalFields", .str attributes)]

def properties (node : Node) : Except Failure (Entries Json) :=
  let refuse (reason : String) : Failure := .graph (.unwritable node.uid reason)
  match attributesText refuse node.attributes with
  | .error failure => .error failure
  | .ok attributes => (stampText refuse node.stamp).map (node.propertiesWith · attributes)

/-- Without its texts a node is not written. -/
theorem properties_textless {node : Node} {fault : Json.TextFault}
    (textless : node.textFault? = some fault) :
    node.properties = .error (.shape (.unwritten fault)) := by
  unfold textFault? at textless
  unfold properties
  cases attributes : node.attributes with
  | tree value | unwritable => simp [attributes] at textless
  | textless fault =>
      simp only [attributes, Option.some.injEq] at textless
      subst textless
      rfl

/-- The label in an item of a row, if it has a key. -/
def labelOfItem? (item : Json) : Except ShapeError (Option Label) :=
  if item.isVacant then .ok none
  else
    match item.entries? with
    | none => .error .noRecord
    | some entries =>
        match entries.get? "key" with
        | none | some .null => .ok none
        | some key => .ok (some ⟨key.display, ((entries.get? "value").getD .null).displayFilled⟩)

/-- The items of a row; a vacant value has none. -/
def itemsOf (value : Json) : Except ShapeError (List Json) :=
  match value.elements? with
  | some items => .ok items
  | none => if value.isVacant then .ok [] else .error .wrongType

def labelsOfRecord (labels : Json) : Except ShapeError (List Label) := do
  let items ← itemsOf labels
  let found ← items.mapM labelOfItem?
  pure (Label.normalize (found.filterMap id))

/-- Reads the text of the further fields; every value becomes a text. A text that holds no object
has no fields, and one that is nested too deep cannot be read. -/
def attributesOfText (value : Json) : Except ShapeError (Entries Json) :=
  match Json.Document.ofText (value.textOr "") with
  | .ok (.obj entries) =>
      .ok (entries.map fun entry => (Text.CodePoint.text entry.1, .str entry.2.display))
  | .ok _ | .error .malformed => .ok []
  | .error (.tooDeep collection) => .error (.tooDeep collection)

/-- Reads a stamp; what is none counts as the start of 1970. -/
def stampOf (value : Json) : Calendar.Timestamp :=
  match value with
  | .str text => (Calendar.Timestamp.ofText text).toOption.getD .epoch
  | _ => .epoch

/-- The entries of an object; a vacant value has none. -/
def entriesOf (value : Json) : Except ShapeError (Entries Json) :=
  match value with
  | .obj entries => .ok entries
  | value => if value.isVacant then .ok [] else .error .noRecord

/-- Reads a node from a row. A database may deliver the stamp as a point in time. -/
def ofRecord (record : Json) (delivered : Option Calendar.Timestamp) : Except ShapeError Node :=
  match record.entries? with
  | none => .error .noRecord
  | some row => do
      let field (name : String) := (row.get? name).getD .null
      let labels ← labelsOfRecord (field "labels")
      let properties ← entriesOf (field "props")
      let property (name : String) := (properties.get? name).getD .null
      let text (name : String) := (property name).displayFilled
      let attributes ← attributesOfText (property "additionalFields")
      pure
        { uid := ((properties.get? "uid").getD (.str "")).display
          group := text "group"
          version := text "apiVersion"
          kind := text "kind"
          name := text "name"
          namespaceName := text "namespace"
          cluster := text "cluster"
          labels
          phase := text "status_phase"
          machine := text "spec_nodeName"
          attributes := .tree (.obj attributes)
          isCurrent := !(property "isCurrent").isVacant
          stamp := .time (delivered.getD (stampOf (property "lastUpdated")))
          graphId := (field "graph_id").displayFilled }

end Node

def Edge.ofRecord (record : Json) : Except ShapeError Edge :=
  match record.entries? with
  | none => .error .noRecord
  | some row =>
      let text (name : String) := ((row.get? name).getD .null).displayFilled
      .ok
        { relationship := text "relationship_type"
          targetType := text "target_resource"
          targetGraphId := text "target_graph_id"
          targetUid := text "target_uid"
          graphId := text "graph_id"
          targetName := text "target_name"
          targetNamespace := text "target_namespace" }

end ClusterGraph
