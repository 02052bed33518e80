import ClusterGraph.Failure
import ClusterGraph.Store.Graph
import ClusterGraph.Store.Statement

namespace ClusterGraph

/-! What statements do to a store and which rows they return. A statement that cannot be read, or
that writes to a node that is not there, fails by its shape; a parameter that nothing is compared
with may be missing. -/

namespace Graph

/-- A value that is there unless values had no order. -/
def ordered {α : Type} : Option α → Except ShapeError α
  | some value => .ok value
  | none => .error .wrongType

def labelRow (label : LabelEntity) : Json :=
  .obj [("key", label.key), ("value", label.value)]

def nodeRow (graph : Graph) (node : String × Properties) : Except ShapeError Json := do
  let labels ← ordered (graph.labelsOf node.1)
  pure (.obj
    [("graph_id", .str node.1), ("props", .obj node.2.entries), ("labels", .arr (labels.map labelRow))])

def idRow (id : String) : Json :=
  .obj [("graph_id", .str id)]

def required (properties : Properties) (name : String) : Except ShapeError Json :=
  match properties.get? name with
  | some value => .ok value
  | none => .error .missingKey

/-- The row of a relationship: its own properties and those of its target. -/
def relationshipRow (graph : Graph) (entry : String × Relationship) : Except ShapeError Json :=
  match graph.nodes.get? entry.2.target with
  | none => .error .missingKey
  | some target => do
      let relationship ← required entry.2.properties "relationshipType"
      let targetType ← required entry.2.properties "targetResource"
      let orEmpty (properties : Properties) (name : String) : Json :=
        (properties.get? name).getD (.str "")
      pure (.obj
        [("graph_id", .str entry.1),
         ("relationship_type", relationship),
         ("target_resource", targetType),
         ("target_uid", orEmpty entry.2.properties "targetUID"),
         ("target_graph_id", .str entry.2.target),
         ("target_name", orEmpty target "name"),
         ("target_namespace", orEmpty target "namespace")])

/-- Relationships are listed by type and then by the graph id of the target. -/
def rowKey (row : Json) : Json :=
  let field (name : String) := (row.get? name).getD .null
  .arr [field "relationship_type", field "target_graph_id"]

def relationshipRows (graph : Graph) (id : String) : Except ShapeError (List Json) := do
  let rows ← (graph.outgoing id).mapM graph.relationshipRow
  ordered (Json.sortOn? rowKey rows)

end Graph

/-- The pair in an element of a collection of pairs. -/
def pairOf (element : Json) (position : Nat) : Except ShapeError (Json × Json) :=
  match element.elements? with
  | none => .error .wrongType
  | some [.arr _, _] | some [.obj _, _] => .error .wrongType
  | some [name, value] => .ok (name, value)
  | some others => .error (.noPair position others.length)

/-- Reads properties: an object, or a collection of pairs of a name and a value. -/
def propertiesOf (value : Json) : Except ShapeError Properties :=
  match value, value.elements? with
  | .obj entries, _ => .ok (.ofEntries entries)
  | _, none => .error .wrongType
  | _, some elements => do
      let pairs ← elements.zipIdx.mapM fun element => pairOf element.1 element.2
      pure (.ofPairs pairs)

/-- A change of a store may fail; the ids that it used until then stay used up. -/
abbrev Store.Change := EStateM ShapeError Store

instance : MonadLift (Except ShapeError) Store.Change where
  monadLift
    | .ok value => pure value
    | .error shape => throw shape

namespace Statement

def parameter (statement : Statement) (name : String) : Except ShapeError Json :=
  match statement.parameters.get? name with
  | some value => .ok value
  | none => .error .missingKey

/-- A parameter that values are compared with. Without values it is not looked at. -/
def parameterFor {α : Type} (statement : Statement) (values : List α) (name : String) :
    Except ShapeError Json :=
  if values.isEmpty then .ok .null else statement.parameter name

/-- A parameter that identifies a node, if there is that node. No collection identifies one. -/
def nodeParameter (statement : Statement) (graph : Graph) (name : String) :
    Except ShapeError (Option String) := do
  match ← statement.parameter name with
  | .str id => pure (if graph.hasNode id then some id else none)
  | .arr _ | .obj _ => throw .wrongType
  | _ => pure none

def propertiesParameter (statement : Statement) (name : String) : Except ShapeError Properties := do
  propertiesOf (← statement.parameter name)

/-- The node that a look-up by name finds. -/
def nodeByName? (statement : Statement) (graph : Graph) :
    Except ShapeError (Option (String × Properties)) := do
  let nodes ← Graph.ordered graph.nodesByUid?
  let name ← statement.parameterFor nodes "name"
  let named := nodes.filter (Graph.has "name" name)
  let kind ← statement.parameterFor named "kind"
  let ofKind := named.filter (Graph.has "kind" kind)
  let group ← statement.parameterFor ofKind "group"
  let ofGroup := ofKind.filter (Graph.isInGroup group)
  let namespaceName ← statement.parameterFor ofGroup "namespace"
  pure (ofGroup.find? (Graph.isInNamespace namespaceName))

/-- The rows that a statement reads, and none for a statement that writes. -/
def read (statement : Statement) (graph : Graph) : Except ShapeError (List Json) :=
  match statement.query with
  | .findByUid => do
      let uid ← statement.parameterFor graph.nodes "uid"
      (graph.nodesWithUid uid).mapM graph.nodeRow
  | .findByGraphId => do
      let id ← statement.nodeParameter graph "graph_id"
      let found := id.bind fun id => (graph.nodes.get? id).map fun properties => (id, properties)
      found.toList.mapM graph.nodeRow
  | .findRelationships => do
      let source ← statement.parameterFor graph.relationships "graph_id"
      graph.relationshipRows (source.textOr "")
  | .resolveUid => do
      let uid ← statement.parameterFor graph.nodes "uid"
      pure ((graph.nodesWithUid uid).map fun node => Graph.idRow node.1)
  | .resolveName => do
      let found ← statement.nodeByName? graph
      pure (found.toList.map fun node => Graph.idRow node.1)
  | _ => pure []

/-- Runs a statement: the rows that it returns and the store that it leaves. -/
def perform (statement : Statement) : Store.Change (List Json) := do
  let graph := (← get).graph
  match statement.query with
  | .createNode =>
      let id ← modifyGet (·.takeId Store.nodeId)
      let properties ← statement.propertiesParameter "props"
      modify (·.onGraph (·.addNode id properties))
      pure [Graph.idRow id]
  | .mergeNode =>
      match ← statement.nodeParameter graph "graph_id" with
      | none => throw .missingKey
      | some id =>
          let properties ← statement.propertiesParameter "props"
          modify (·.onGraph (·.mergeNode id properties))
          pure []
  | .deleteLabel =>
      let owner ← statement.parameterFor graph.labels "graph_id"
      let key ← statement.parameterFor (graph.ownedLabels (owner.textOr "")) "key"
      modify (·.onGraph (·.deleteLabel (owner.textOr "") key))
      pure []
  | .addLabel =>
      match ← statement.nodeParameter graph "graph_id" with
      | none => pure []
      | some owner =>
          let key ← statement.parameter "key"
          let value ← statement.parameter "value"
          modify (·.createLabel ⟨owner, key, value⟩)
          pure []
  | .deleteRelationships =>
      let source ← statement.parameterFor graph.relationships "graph_id"
      modify (·.onGraph (·.deleteOutgoing (source.textOr "")))
      pure []
  | .createRelationship =>
      match ← statement.nodeParameter graph "source_id" with
      | none => pure []
      | some source =>
          match ← statement.nodeParameter graph "target_id" with
          | none => pure []
          | some target =>
              let id ← modifyGet (·.takeId Store.relationshipId)
              let properties ← statement.propertiesParameter "props"
              modify (·.onGraph (·.addRelationship id ⟨source, target, properties⟩))
              pure [Graph.idRow id]
  | _ => statement.read graph

end Statement

end ClusterGraph
