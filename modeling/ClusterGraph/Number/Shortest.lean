import ClusterGraph.Number.Binary64

namespace ClusterGraph.Binary64

/-! The shortest decimal that denotes a number: of all decimals that round to it, those with the
fewest digits, and of these the nearest one. -/

/-- The least `places` from `start` on with `denominator ≤ numerator * 10 ^ places`, as far as the
fuel goes. -/
def leadingZeros (numerator denominator : Nat) : Nat → Nat → Nat
  | 0, start => start
  | fuel + 1, start =>
      if denominator ≤ numerator * Nat.pow 10 start then start
      else leadingZeros numerator denominator fuel (start + 1)

/-- The number of digits before the point; for a fraction, minus the zeros after it. -/
def decimalOrder (numerator denominator : Nat) : Int :=
  if denominator ≤ numerator then (Nat.toDigits 10 (numerator / denominator)).length
  else 1 - (leadingZeros numerator denominator 400 1 : Int)

/-- The numbers that round to `significand * 2 ^ exponent` lie between these two, in units of a
quarter of the last place; the ends belong to them when the significand is even. -/
def roundingEnds (significand : Nat) (exponent : Int) : Nat × Nat :=
  (if significand = fullSignificand ∧ leastExponent < exponent then 4 * significand - 1
   else 4 * significand - 2,
   4 * significand + 2)

/-- The nearest of the two decimals with `places` digits around a number, if one of them rounds to
it. The result counts units of `10 ^ (order - places)`. -/
def decimalWith? (significand : Nat) (exponent : Int) (order : Int) (places : Nat) : Option Nat :=
  let (quarterNumerator, quarterDenominator) := ratio 1 (exponent - 2)
  let scale := order - places
  -- One unit of the decimal grid is `gridNumerator / gridDenominator` quarters.
  let gridNumerator := Nat.pow 10 scale.toNat * quarterDenominator
  let gridDenominator := Nat.pow 10 (-scale).toNat * quarterNumerator
  let value := 4 * significand * gridDenominator
  let below := value / gridNumerator
  let (low, high) := roundingEnds significand exponent
  let even := significand % 2 = 0
  let inside (units : Nat) : Bool :=
    let position := units * gridNumerator
    let lowEnd := low * gridDenominator
    let highEnd := high * gridDenominator
    if even then lowEnd ≤ position && position ≤ highEnd
    else lowEnd < position && position < highEnd
  let distanceBelow := value - below * gridNumerator
  let distanceAbove := (below + 1) * gridNumerator - value
  match inside below, inside (below + 1) with
  | false, false => none
  | true, false => some below
  | false, true => some (below + 1)
  | true, true =>
      if distanceBelow < distanceAbove then some below
      else if distanceAbove < distanceBelow then some (below + 1)
      else some (below + below % 2)

/-- The first number of digits, from `places` on, with a decimal that rounds to the number. -/
def firstDecimal (significand : Nat) (exponent : Int) (order : Int) : Nat → Nat → Nat × Nat
  | 0, places => (significand, places)
  | fuel + 1, places =>
      match decimalWith? significand exponent order places with
      | some units => (units, places)
      | none => firstDecimal significand exponent order fuel (places + 1)

/-- The digits of the shortest decimal of a positive number, and the place of its point: the value
is zero point digits times ten to that power. Seventeen digits always suffice. -/
def shortest (significand : Nat) (exponent : Int) : List Char × Int :=
  let (numerator, denominator) := ratio significand exponent
  let order := decimalOrder numerator denominator
  let (units, places) := firstDecimal significand exponent order 17 1
  let digits := Nat.toDigits 10 units
  -- Rounding up to a power of ten gives one digit more.
  (digits.reverse.dropWhile (· == '0') |>.reverse, order + (digits.length - places))

end ClusterGraph.Binary64
