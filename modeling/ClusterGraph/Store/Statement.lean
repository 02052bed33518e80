import ClusterGraph.Resource.Node
import ClusterGraph.Store.Query

namespace ClusterGraph

/-! Statements: queries with their parameters. -/

structure Statement where
  query : Query
  parameters : Entries Json := []
deriving Repr

namespace Statement

/-- A query with a value for each of its parameters. -/
def ofArguments? (query : Query) (arguments : List Json) : Option Statement :=
  if arguments.length = query.parameterNames.length then
    some ⟨query, query.parameterNames.zip arguments⟩
  else none

def findByUid (uid : String) : Statement :=
  ⟨.findByUid, [("uid", .str uid)]⟩

def findByGraphId (graphId : String) : Statement :=
  ⟨.findByGraphId, [("graph_id", .str graphId)]⟩

def findRelationships (graphId : String) : Statement :=
  ⟨.findRelationships, [("graph_id", .str graphId)]⟩

/-- The graph ids under which an external uid is stored. -/
def resolveUid (uid : String) : Statement :=
  ⟨.resolveUid, [("uid", .str uid)]⟩

/-- The node that a descriptor names. A group that the target type leaves open and an empty
namespace are not compared. -/
def resolveName (descriptor : Descriptor) : Statement :=
  let target := descriptor.target
  ⟨.resolveName,
    [("name", .str descriptor.targetName),
     ("kind", .str target.kind),
     ("group", match target.group with
       | some group => .str group
       | none => .null),
     ("namespace", .str descriptor.targetNamespace)]⟩

def createNode (properties : Entries Json) : Statement :=
  ⟨.createNode, [("props", .obj properties)]⟩

def mergeNode (graphId : String) (properties : Entries Json) : Statement :=
  ⟨.mergeNode, [("graph_id", .str graphId), ("props", .obj properties)]⟩

/-- Every label of a node under the key goes. -/
def deleteLabel (graphId : String) (label : Label) : Statement :=
  ⟨.deleteLabel, [("graph_id", .str graphId), ("key", .str label.key)]⟩

def addLabel (graphId : String) (label : Label) : Statement :=
  ⟨.addLabel, [("graph_id", .str graphId), ("key", .str label.key), ("value", .str label.value)]⟩

def deleteRelationships (sourceId : String) : Statement :=
  ⟨.deleteRelationships, [("graph_id", .str sourceId)]⟩

/-- The properties of the relationship that a descriptor asks for; the uid of the target is among
them if the descriptor tells it. -/
def relationshipProperties (descriptor : Descriptor) : Entries Json :=
  [("targetResource", .str descriptor.targetType),
   ("relationshipType", .str descriptor.relationship)] ++
    if descriptor.byUid then [("targetUID", .str descriptor.targetUid)] else []

def createRelationship (sourceId targetId : String) (descriptor : Descriptor) : Statement :=
  ⟨.createRelationship,
    [("source_id", .str sourceId),
     ("target_id", .str targetId),
     ("props", .obj (relationshipProperties descriptor))]⟩

end Statement

end ClusterGraph
