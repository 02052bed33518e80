namespace ClusterGraph.Sorting

/-! Sorting by a relation that may be no order. The values that rise or fall from the start stay
together, and each of the others is put in its place among those before it by halving. Two values
that cannot be compared stop the sorting, if it comes to compare them. -/

variable {α : Type}

/-- The values that go on rising, or falling, after a first one, and the rest. -/
def extendRun (before? : α → α → Option Bool) (falling : Bool) :
    α → List α → Option (List α × List α)
  | _, [] => some ([], [])
  | last, next :: rest => do
      if (← before? next last) == falling then
        let (run, rest) ← extendRun before? falling next rest
        some (next :: run, rest)
      else some ([], next :: rest)

/-- The values that rise or fall from the start, now rising, and the rest. -/
def firstRun (before? : α → α → Option Bool) : List α → Option (List α × List α)
  | first :: second :: rest => do
      let falling ← before? second first
      let (run, rest) ← extendRun before? falling second rest
      let run := first :: second :: run
      some (if falling then run.reverse else run, rest)
  | values => some (values, [])

/-- The first position between two bounds that a value comes before, found by halving. -/
def position? (comesBefore : Nat → Option Bool) (low high : Nat) : Option Nat :=
  if low < high then do
    let middle := (low + high) / 2
    if ← comesBefore middle then position? comesBefore low middle
    else position? comesBefore (middle + 1) high
  else some low
termination_by high - low

/-- Puts a value in its place among sorted ones. -/
def insert? (before? : α → α → Option Bool) (sorted : List α) (value : α) : Option (List α) := do
  let comesBefore (position : Nat) : Option Bool :=
    match sorted[position]? with
    | some other => before? value other
    | none => some true
  let position ← position? comesBefore 0 sorted.length
  some (sorted.take position ++ value :: sorted.drop position)

def sort? (before? : α → α → Option Bool) (values : List α) : Option (List α) := do
  let (run, rest) ← firstRun before? values
  rest.foldlM (insert? before?) run

end ClusterGraph.Sorting
