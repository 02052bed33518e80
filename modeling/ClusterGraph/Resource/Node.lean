import ClusterGraph.Calendar.Timestamp
import ClusterGraph.Json.Basic
import ClusterGraph.Resource.Kind

namespace ClusterGraph

/-! What the graph knows of one object: its node, labels and outgoing relationships. -/

structure Label where
  key : String
  value : String
deriving DecidableEq, Repr

namespace Label

/-- Labels are ordered by key, and by value under one key. -/
def le (left right : Label) : Bool :=
  if left.key = right.key then decide (left.value ≤ right.value) else decide (left.key ≤ right.key)

def sort (labels : List Label) : List Label :=
  labels.mergeSort le

/-- A set of labels as the ordered list without repetitions. -/
def normalize (labels : List Label) : List Label :=
  (sort labels).eraseDups

end Label

/-- A relationship whose target is not looked up yet: the target is told by its uid, or else by
its type, name and namespace. -/
structure Descriptor where
  relationship : String
  targetType : String := ""
  targetUid : String := ""
  targetName : String := ""
  targetNamespace : String := ""
deriving DecidableEq, Repr

namespace Descriptor

def byUid (descriptor : Descriptor) : Bool :=
  !descriptor.targetUid.isEmpty

def target (descriptor : Descriptor) : TargetType :=
  .ofText descriptor.targetType

end Descriptor

structure Edge where
  relationship : String
  targetType : String
  targetGraphId : String
  targetUid : String := ""
  graphId : String := ""
  targetName : String := ""
  targetNamespace : String := ""
deriving DecidableEq, Repr

/-- When a node was taken: a point in time, or a value that is none. -/
inductive Stamp where
  | time (value : Calendar.Timestamp)
  | other (value : Json)
deriving Repr

/-- Further fields of an object, or a value that has no JSON text. -/
inductive Attributes where
  | tree (value : Json)
  | unwritable
  /-- A field or a label of the object has no text, so that there is no node of it. -/
  | textless (fault : Json.TextFault)
deriving Repr

/-- The record of one object, known by its uid. The graph id is empty until the node is stored. -/
structure Node where
  uid : String
  group : String := ""
  version : String := ""
  kind : String := ""
  name : String := ""
  namespaceName : String := ""
  cluster : String := ""
  labels : List Label := []
  /-- The phase of a pod. -/
  phase : String := ""
  /-- The machine that a pod runs on. -/
  machine : String := ""
  attributes : Attributes := .tree (.obj [])
  isCurrent : Bool := true
  stamp : Stamp
  graphId : String := ""
  edges : List Edge := []
deriving Repr

namespace Node

/-- Why an object has no node, if it has none. -/
def textFault? (node : Node) : Option Json.TextFault :=
  match node.attributes with
  | .textless fault => some fault
  | .tree _ | .unwritable => none

/-- Label values under their keys. -/
def labelMap (node : Node) : Entries String :=
  Entries.ofList (node.labels.map fun label => (label.key, label.value))

end Node

end ClusterGraph
