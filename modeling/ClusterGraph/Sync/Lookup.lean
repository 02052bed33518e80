import ClusterGraph.Store.Record
import ClusterGraph.Store.Transaction

namespace ClusterGraph

/-! Look-ups of nodes and of the relationships that start at them. -/

namespace Script

def graphIdOf (row : Json) : Script String :=
  ofShape (match row.get? "graph_id" with
    | some id => .ok id.display
    | none => .error .missingKey)

/-- The graph id in the first of some rows. -/
def firstGraphId? : List Json → Script (Option String)
  | [] => .done none
  | row :: _ => do return some (← graphIdOf row)

/-- The graph id under which an external uid is stored, if it is. -/
def resolveUid? (uid : String) : Script (Option String) := do
  let rows ← query (.resolveUid uid)
  if 1 < rows.length then .fail (.graph (.ambiguous uid rows.length))
  else firstGraphId? rows

def resolveUid (uid : String) : Script String := do
  match ← resolveUid? uid with
  | some id => pure id
  | none => .fail (.graph (.notFound uid "by uid"))

/-- The graph id of the node that a descriptor refers to. A name without a kind could be that of
any object and refers to none. -/
def resolveTarget? (descriptor : Descriptor) : Script (Option String) :=
  if descriptor.byUid then resolveUid? descriptor.targetUid
  else if descriptor.target.kind.isEmpty then .done none
  else do firstGraphId? (← query (.resolveName descriptor))

/-- The node that a statement finds, if it finds one. -/
def findNode? (statement : Statement) (identifier : String) : Script (Option Node) := do
  match ← query statement with
  | [] => pure none
  | [row] => return some (← ofShape (Node.ofRecord row none))
  | rows => .fail (.graph (.ambiguous identifier rows.length))

/-- The node that a statement finds, with the rows of its relationships. -/
def findNode (statement : Statement) (identifier : String) : Script (Node × List Json) := do
  match ← findNode? statement identifier with
  | some node => return (node, ← query (.findRelationships node.graphId))
  | none => .fail (.graph (.notFound identifier ""))

end Script

namespace Action

def readEdges (rows : List Json) : Action (List Edge) :=
  match rows.mapM Edge.ofRecord with
  | .ok edges => pure edges
  | .error shape => throw (.shape shape)

def findNode (statement : Statement) (identifier : String) : Action Node := do
  let (node, rows) ← transaction (Script.findNode statement identifier)
  let edges ← readEdges rows
  pure { node with edges }

def findByUid (uid : String) : Action Node :=
  findNode (.findByUid uid) uid

def findByGraphId (graphId : String) : Action Node :=
  findNode (.findByGraphId graphId) graphId

/-- The stored edges that start at the node with an external uid. -/
def findEdges (uid : String) : Action (List Edge) := do
  let rows ← transaction do
    let sourceId ← Script.resolveUid uid
    Script.query (.findRelationships sourceId)
  readEdges rows

end Action

end ClusterGraph
