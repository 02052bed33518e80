import ClusterGraph.Failure
import ClusterGraph.Json.Equality
import ClusterGraph.Json.Literal

namespace ClusterGraph

/-! Time limits: a number of seconds, or null for no limit. -/

/-- What can be done within a limit. -/
inductive TimeLimit where
  | unlimited
  /-- Nothing can be begun. -/
  | over
  /-- Only what needs not be waited for comes to an end. -/
  | momentary
  | lasting
deriving DecidableEq, Repr

namespace Deadline

/-- Any wait takes longer than this. -/
def shortestWait : Json :=
  .float (.ofDecimal false 5 (-5))

/-- Whether a limit can be held against the clock, which counts in floating-point numbers. -/
def isCountable : Json → Bool
  | .int value => !(Binary64.ofDecimal false value.natAbs 0 matches .infinite _)
  | _ => true

/-- What a limit allows, if it is one. -/
def ofJson (limit : Json) : Except ShapeError TimeLimit :=
  match limit, Json.compareNumbers? limit (.int 0) with
  | .null, _ => .ok .unlimited
  | _, none => .error (.noDuration limit.kindName)
  | _, some none => .ok .momentary
  | _, some (some .gt) =>
      if isCountable limit then
        .ok (if Json.compareNumbers? limit shortestWait == some (some .gt) then .lasting
          else .momentary)
      else .error .uncountable
  | _, some (some _) => .ok .over

/-- Whether some seconds pass before a limit is reached. -/
def allows (limit : Json) (seconds : Nat) : Bool :=
  limit matches .null || Json.compareNumbers? limit (.int seconds) == some (some .gt)

/-- The whole seconds up to a limit, if it is one that is reached. -/
def wholeSeconds : Json → Nat
  | .bool value => value.toNat
  | .int value => value.toNat
  | .float (.finite false significand exponent) =>
      let (numerator, denominator) := Binary64.ratio significand exponent
      numerator / denominator
  | _ => 0

end Deadline

end ClusterGraph
