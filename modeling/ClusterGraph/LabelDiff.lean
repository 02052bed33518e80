import ClusterGraph.Resource.Node

namespace ClusterGraph

/-! The difference between the stored labels of a node and those of a fresh projection. A changed
label is written beside the stored one, so that a key may have several stored values. -/

structure LabelDiff where
  /-- Labels whose key is not stored. -/
  added : List Label
  /-- One stored label for each key that is gone. -/
  removed : List Label
  /-- Labels whose key is stored, but not with their value. -/
  changed : List Label
deriving DecidableEq, Repr

namespace LabelDiff

def isEmpty (diff : LabelDiff) : Bool :=
  diff.added.isEmpty && diff.removed.isEmpty && diff.changed.isEmpty

def hasKey (labels : List Label) (key : String) : Bool :=
  labels.any (·.key == key)

def firstPerKey : List Label → List Label
  | [] => []
  | label :: rest => label :: (firstPerKey rest).filter (·.key != label.key)

/-- All parts are sorted; of a key that is gone the least value stands for it. -/
def between (stored fresh : List Label) : LabelDiff :=
  let fresh := Label.normalize fresh
  { added := fresh.filter fun label => !hasKey stored label.key
    changed := fresh.filter fun label => hasKey stored label.key && !stored.contains label
    removed := (firstPerKey (Label.sort stored)).filter fun label => !hasKey fresh label.key }

end LabelDiff

end ClusterGraph
