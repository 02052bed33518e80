import ClusterGraph.Number.Shortest

namespace ClusterGraph

/-! The written form of a number: positional for moderate magnitudes, with an exponent otherwise. -/

structure NumberLayout where
  /-- Least decimal exponent written positionally. -/
  positionalFrom : Int
  /-- Least decimal exponent above those written positionally. -/
  positionalBelow : Int
  /-- Least count of digits of an exponent. -/
  exponentWidth : Nat
  infinity : String
  notANumber : String
deriving Repr

/-- Numbers from `0.0001` up to sixteen digits are positional. -/
def NumberLayout.plain : NumberLayout :=
  ⟨-4, 16, 2, "inf", "nan"⟩

def NumberLayout.json : NumberLayout :=
  ⟨-4, 16, 2, "Infinity", "NaN"⟩

namespace NumberLayout

/-- An exponent carries its sign always. -/
def exponentText (layout : NumberLayout) (exponent : Int) : String :=
  let digits := Nat.toDigits 10 exponent.natAbs
  (if exponent < 0 then "e-" else "e+") ++
    String.ofList (List.replicate (layout.exponentWidth - digits.length) '0' ++ digits)

/-- Digits with the point at a place: the value is zero point digits times ten to that power. -/
def digitsText (layout : NumberLayout) (digits : List Char) (point : Int) : String :=
  if layout.positionalFrom ≤ point - 1 ∧ point - 1 < layout.positionalBelow then
    if point ≤ 0 then "0." ++ String.ofList (List.replicate (-point).toNat '0' ++ digits)
    else
      let whole := point.toNat
      let tail := if digits.length ≤ whole then ['0'] else digits.drop whole
      String.ofList (digits.take whole ++ List.replicate (whole - digits.length) '0' ++ '.' :: tail)
  else
    match digits with
    | [] => "0.0"
    | [digit] => String.singleton digit ++ layout.exponentText (point - 1)
    | digit :: rest => String.ofList (digit :: '.' :: rest) ++ layout.exponentText (point - 1)

def text (layout : NumberLayout) : Binary64 → String
  | .nan => layout.notANumber
  | .infinite negative => (if negative then "-" else "") ++ layout.infinity
  | .finite negative significand exponent =>
      let magnitude :=
        if significand = 0 then "0.0"
        else
          let (digits, point) := Binary64.shortest significand exponent
          layout.digitsText digits point
      (if negative then "-" else "") ++ magnitude

end NumberLayout

end ClusterGraph
