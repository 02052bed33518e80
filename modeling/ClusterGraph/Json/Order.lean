import ClusterGraph.Json.Equality
import ClusterGraph.Sorting

namespace ClusterGraph.Json

/-! The order of trees: strings are ordered by their characters, numbers by value and lists by the
first items that differ. Null, objects and values of different kinds have no order. -/

mutual

/-- Whether a tree comes before another, if the two have an order. -/
def less? : Json → Json → Option Bool
  | .str left, .str right => some (decide (left < right))
  | .arr left, .arr right => lessItems? left right
  | left, right => (compareNumbers? left right).map (· == some .lt)

def lessItems? : List Json → List Json → Option Bool
  | [], rest => some (!rest.isEmpty)
  | _ :: _, [] => some false
  | left :: leftRest, right :: rightRest =>
      if same left right then lessItems? leftRest rightRest else less? left right

end

@[simp] theorem less?_str (left right : String) :
    less? (.str left) (.str right) = some (decide (left < right)) := by
  rw [less?]

mutual

/-- Whether a tree is or lists what is not a number, which has no place among numbers. -/
def listsNan : Json → Bool
  | .arr items => anyListsNan items
  | tree => tree.isNan

def anyListsNan : List Json → Bool
  | [] => false
  | item :: rest => listsNan item || anyListsNan rest

end

/-- Any two of some trees have an order. -/
def areOrdered : List Json → Bool
  | [] => true
  | tree :: rest =>
      !tree.listsNan && (rest.all fun other => (less? tree other).isSome) && areOrdered rest

/-- Sorts by keys. Values with equal keys stay in their order. -/
def sortOn? {α : Type} (key : α → Json) (values : List α) : Option (List α) :=
  if areOrdered (values.map key) then
    some (values.mergeSort fun left right => less? (key right) (key left) != some true)
  else Sorting.sort? (fun left right => less? (key left) (key right)) values

end ClusterGraph.Json
