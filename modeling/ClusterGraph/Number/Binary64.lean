namespace ClusterGraph

/-! Floating-point numbers with 53 significant bits, held exactly: a finite one is a significand
times a power of two. -/

inductive Binary64 where
  | nan
  | infinite (negative : Bool)
  /-- The value is `significand * 2 ^ exponent`, up to sign; a zero keeps its sign. -/
  | finite (negative : Bool) (significand : Nat) (exponent : Int)
deriving DecidableEq, Repr

namespace Binary64

def leastExponent : Int := -1074

def greatestExponent : Int := 971

/-- `2 ^ 52`: from here on a significand has all its bits. -/
def fullSignificand : Nat := 4503599627370496

/-- The ratio of the magnitude of a finite number, as numerator and denominator. -/
def ratio (significand : Nat) (exponent : Int) : Nat × Nat :=
  (significand * Nat.pow 2 exponent.toNat, Nat.pow 2 (-exponent).toNat)

/-- The quotient rounded to the nearest whole number, a half to the even neighbour. -/
def roundHalfEven (numerator denominator : Nat) : Nat :=
  let quotient := numerator / denominator
  let twice := 2 * (numerator % denominator)
  if twice < denominator then quotient
  else if twice = denominator then quotient + quotient % 2
  else quotient + 1

/-- A quotient scaled down by a power of two and rounded. -/
def roundScaled (numerator denominator : Nat) (exponent : Int) : Nat :=
  roundHalfEven (numerator * Nat.pow 2 (-exponent).toNat)
    (denominator * Nat.pow 2 exponent.toNat)

/-- The number nearest to a positive quotient. -/
def nearest (negative : Bool) (numerator denominator : Nat) : Binary64 :=
  let estimate := max ((numerator.log2 : Int) - denominator.log2 - 53) leastExponent
  let exponent :=
    if 2 * fullSignificand ≤ roundScaled numerator denominator estimate then estimate + 1
    else estimate
  let significand := roundScaled numerator denominator exponent
  let (significand, exponent) :=
    if significand = 2 * fullSignificand then (fullSignificand, exponent + 1)
    else (significand, exponent)
  if greatestExponent < exponent then .infinite negative
  else .finite negative significand exponent

/-- The number nearest to `digits * 10 ^ exponent`. Beyond the range of finite numbers only the
order of magnitude matters. -/
def ofDecimal (negative : Bool) (digits : Nat) (exponent : Int) : Binary64 :=
  let order := exponent + (Nat.toDigits 10 digits).length
  if digits = 0 then .finite negative 0 leastExponent
  else if 320 < order then .infinite negative
  else if order < -330 then .finite negative 0 leastExponent
  else nearest negative (digits * Nat.pow 10 exponent.toNat) (Nat.pow 10 (-exponent).toNat)

/-- A number is false exactly when it is a zero. -/
def isZero : Binary64 → Bool
  | .finite _ 0 _ => true
  | _ => false

/-- The order of two numbers by value; a number that is not one has no place in it. -/
def compare? : Binary64 → Binary64 → Option Ordering
  | .nan, _ => none
  | _, .nan => none
  | .infinite left, .infinite right => some (compare right left)
  | .infinite negative, .finite .. => some (if negative then .lt else .gt)
  | .finite .., .infinite negative => some (if negative then .gt else .lt)
  | .finite leftNegative leftSignificand leftExponent,
      .finite rightNegative rightSignificand rightExponent =>
      let least := min leftExponent rightExponent
      let scaled (negative : Bool) (significand : Nat) (exponent : Int) : Int :=
        let magnitude : Int := significand * Nat.pow 2 (exponent - least).toNat
        if negative then -magnitude else magnitude
      some (compare (scaled leftNegative leftSignificand leftExponent)
        (scaled rightNegative rightSignificand rightExponent))

/-- The order of a whole number and a number. -/
def compareInt? (left : Int) (right : Binary64) : Option Ordering :=
  compare? (.finite (left < 0) left.natAbs 0) right

end Binary64

end ClusterGraph
