import ClusterGraph.Json.Basic

namespace ClusterGraph.Json

/-! Equality of trees by value: a truth value counts as zero or one, a whole number equals the
floating-point number of the same value, and the order of entries does not matter. What is not a
number is the same as itself and yet equals nothing. -/

/-- The order of two numbers, if both trees are numbers or truth values. A number that is not one
has no order. -/
def compareNumbers? (left right : Json) : Option (Option Ordering) :=
  match whole? left, whole? right, left, right with
  | some left, some right, _, _ => some (some (compare left right))
  | some left, none, _, .float right => some (Binary64.compareInt? left right)
  | none, some right, .float left, _ => some ((Binary64.compareInt? right left).map Ordering.swap)
  | none, none, .float left, .float right => some (Binary64.compare? left right)
  | _, _, _, _ => none
where
  whole? : Json → Option Int
    | .int value => some value
    | .bool value => some (if value then 1 else 0)
    | _ => none

def isNan : Json → Bool
  | .float .nan => true
  | _ => false

mutual

/-- Whether two trees are the same value. -/
def same : Json → Json → Bool
  | .null, .null => true
  | .str left, .str right => left == right
  | .float .nan, .float .nan => true
  | .arr left, .arr right => sameItems left right
  | .obj left, .obj right => left.length == right.length && sameEntries left right
  | left, right => compareNumbers? left right == some (some .eq)

def sameItems : List Json → List Json → Bool
  | [], [] => true
  | left :: leftRest, right :: rightRest => same left right && sameItems leftRest rightRest
  | _, _ => false

def sameEntries : List (String × Json) → List (String × Json) → Bool
  | [], _ => true
  | (key, value) :: rest, others =>
      match others.lookup key with
      | some other => same value other && sameEntries rest others
      | none => false

end

/-- Whether two values compare as equal. -/
def equals (left right : Json) : Bool :=
  !left.isNan && same left right

@[simp] theorem same_str (left right : String) : same (.str left) (.str right) = (left == right) := by
  rw [same]

@[simp] theorem equals_str (left right : String) :
    equals (.str left) (.str right) = (left == right) := by
  simp [equals, isNan]

end ClusterGraph.Json
