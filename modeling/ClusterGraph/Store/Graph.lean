import ClusterGraph.Json.Literal
import ClusterGraph.Json.Order
import ClusterGraph.Resource.Node

namespace ClusterGraph

/-! The property graph: nodes with properties, labels owned by nodes and relationships between
nodes, each under an id of its own and in the order in which they were made. -/

/-- Properties of a node or a relationship, each a name and a value. The program names them by
texts, and finds whatever else was stored: names are told apart by value. -/
abbrev Properties := List (Json × Json)

namespace Properties

def ofEntries (entries : Entries Json) : Properties :=
  entries.map fun entry => (.str entry.1, entry.2)

def get? (properties : Properties) (name : String) : Option Json :=
  (properties.find? (·.1.same (.str name))).map Prod.snd

def insert (properties : Properties) (name value : Json) : Properties :=
  Entries.insertBy (·.same name) properties name value

def insertAll (properties others : Properties) : Properties :=
  others.foldl (fun all property => all.insert property.1 property.2) properties

/-- Of several pairs with one name the last value counts. -/
def ofPairs (pairs : List (Json × Json)) : Properties :=
  insertAll [] pairs

/-- Values under the texts of their names. -/
def entries (properties : Properties) : Entries Json :=
  Entries.ofList (properties.map fun property => (property.1.display, property.2))

end Properties

/-- A stored label. The program stores texts, and finds whatever else was stored. -/
structure LabelEntity where
  owner : String
  key : Json
  value : Json
deriving Repr

structure Relationship where
  source : String
  target : String
  properties : Properties
deriving Repr

structure Graph where
  nodes : Entries Properties := []
  labels : Entries LabelEntity := []
  relationships : Entries Relationship := []
deriving Repr

namespace Graph

/-- A property of a node, and null for one that it lacks. -/
def property (properties : Properties) (name : String) : Json :=
  (properties.get? name).getD .null

def hasNode (graph : Graph) (id : String) : Bool :=
  graph.nodes.contains id

def has (name : String) (value : Json) (node : String × Properties) : Bool :=
  (property node.2 name).equals value

def nodesWithUid (graph : Graph) (uid : Json) : Entries Properties :=
  graph.nodes.filter (has "uid" uid)

def ownedLabels (graph : Graph) (owner : String) : Entries LabelEntity :=
  graph.labels.filter (·.2.owner == owner)

/-- Labels of a node by key and then by value, if they have an order. -/
def labelsOf (graph : Graph) (owner : String) : Option (List LabelEntity) :=
  Json.sortOn? (fun label => .arr [label.key, label.value]) (graph.ownedLabels owner).values

def outgoing (graph : Graph) (id : String) : Entries Relationship :=
  graph.relationships.filter (·.2.source == id)

def addNode (graph : Graph) (id : String) (properties : Properties) : Graph :=
  { graph with nodes := graph.nodes ++ [(id, properties)] }

/-- Overwrites the properties given and keeps the others. -/
def mergeNode (graph : Graph) (id : String) (properties : Properties) : Graph :=
  { graph with
    nodes := graph.nodes.map fun node =>
      if node.1 == id then (id, node.2.insertAll properties) else node }

def addLabel (graph : Graph) (id : String) (label : LabelEntity) : Graph :=
  { graph with labels := graph.labels ++ [(id, label)] }

/-- Removes every label that a node has under a key. -/
def deleteLabel (graph : Graph) (owner : String) (key : Json) : Graph :=
  { graph with
    labels := graph.labels.filter fun entry =>
      !(entry.2.owner == owner && entry.2.key.equals key) }

def addRelationship (graph : Graph) (id : String) (relationship : Relationship) : Graph :=
  { graph with relationships := graph.relationships ++ [(id, relationship)] }

/-- Removes every relationship that starts at a node. -/
def deleteOutgoing (graph : Graph) (source : String) : Graph :=
  { graph with relationships := graph.relationships.filter (·.2.source != source) }

/-- A node belongs to a group; one that tells none belongs to the core group. Null leaves the group
open and fits every node. -/
def isInGroup (group : Json) (node : String × Properties) : Bool :=
  let own := property node.2 "group"
  group matches .null || (if own.isVacant then .str "" else own).equals group

/-- A node lies in a namespace. An empty one is not compared and fits every node. -/
def isInNamespace (namespaceName : Json) (node : String × Properties) : Bool :=
  namespaceName.isVacant || has "namespace" namespaceName node

/-- The key that nodes are ordered by in a look-up by name. -/
def uidKey (node : String × Properties) : Json :=
  let uid := property node.2 "uid"
  if uid.isVacant then .str "" else uid

/-- The nodes in the order of their uids, if these have an order. -/
def nodesByUid? (graph : Graph) : Option (Entries Properties) :=
  Json.sortOn? uidKey graph.nodes

end Graph

/-- A graph with the number of the next id. -/
structure Store where
  graph : Graph := {}
  nextId : Nat := 1
deriving Repr

namespace Store

/-- Ids tell what they identify and are never used again. -/
def nodeId (number : Nat) : String := "4:fake:n" ++ toString number

def labelId (number : Nat) : String := "4:fake:l" ++ toString number

def relationshipId (number : Nat) : String := "4:fake:r" ++ toString number

/-- Changes the graph and leaves the ids used up. -/
def onGraph (store : Store) (change : Graph → Graph) : Store :=
  { store with graph := change store.graph }

def takeId (store : Store) (name : Nat → String) : String × Store :=
  (name store.nextId, { store with nextId := store.nextId + 1 })

def createNode (store : Store) (properties : Properties) : String × Store :=
  let (id, store) := store.takeId nodeId
  (id, store.onGraph (·.addNode id properties))

def createLabel (store : Store) (label : LabelEntity) : Store :=
  let (id, store) := store.takeId labelId
  store.onGraph (·.addLabel id label)

end Store

end ClusterGraph
