namespace ClusterGraph

/-! Counters of what the program has done. -/

inductive Series where
  /-- Objects handled, by kind and outcome. -/
  | synced (kind outcome : String)
  /-- Nodes written, by operation. -/
  | upserted (operation : String)
  /-- Labels added or removed. -/
  | labelMutations (operation : String)
  /-- Relationships written, by type. -/
  | written (relationship : String)
  /-- Descriptors dropped because no target was found, by type. -/
  | unresolved (relationship : String)
  /-- Watch streams opened again, by kind. -/
  | restarts (kind : String)
deriving DecidableEq, Repr

namespace Series

def name : Series → String
  | .synced .. => "kubegraph_sync_total"
  | .upserted _ => "kubegraph_nodes_upserted_total"
  | .labelMutations _ => "kubegraph_label_mutations_total"
  | .written _ => "kubegraph_relationships_written_total"
  | .unresolved _ => "kubegraph_relationships_unresolved_total"
  | .restarts _ => "kubegraph_watch_restarts_total"

def labels : Series → List String
  | .synced kind outcome => [kind, outcome]
  | .upserted operation => [operation]
  | .labelMutations operation => [operation]
  | .written relationship => [relationship]
  | .unresolved relationship => [relationship]
  | .restarts kind => [kind]

end Series

/-- A counter appears with its first use, also by zero. -/
structure Counters where
  counts : List (Series × Nat) := []
  /-- Number of syncs whose time was taken. -/
  timedSyncs : Nat := 0
deriving Repr

namespace Counters

def value (counters : Counters) (series : Series) : Nat :=
  (counters.counts.lookup series).getD 0

def add (counters : Counters) (series : Series) (amount : Nat) : Counters :=
  if (counters.counts.lookup series).isSome then
    { counters with
      counts := counters.counts.map fun entry =>
        if entry.1 == series then (series, entry.2 + amount) else entry }
  else { counters with counts := counters.counts ++ [(series, amount)] }

/-- A counted sample: its name, labels and value. -/
abbrev Sample := String × List String × Nat

/-- The order of texts by the first that differs. -/
def textsLe : List String → List String → Bool
  | [], _ => true
  | _ :: _, [] => false
  | left :: leftRest, right :: rightRest =>
      if left = right then textsLe leftRest rightRest else decide (left ≤ right)

def Sample.le (left right : Sample) : Bool :=
  if left.1 ≠ right.1 then decide (left.1 ≤ right.1)
  else if left.2.1 ≠ right.2.1 then textsLe left.2.1 right.2.1
  else decide (left.2.2 ≤ right.2.2)

/-- All samples, by name and labels. -/
def samples (counters : Counters) : List Sample :=
  let counted := counters.counts.map fun entry => (entry.1.name, entry.1.labels, entry.2)
  (("kubegraph_sync_duration_seconds_count", [], counters.timedSyncs) :: counted).mergeSort Sample.le

end Counters

end ClusterGraph
