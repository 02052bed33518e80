namespace ClusterGraph.Text

/-! Text as code points. An escape may name half of a surrogate pair without the other half, which
is a code point but no character. -/

inductive CodePoint where
  | char (c : Char)
  /-- Half of a pair that stands alone. -/
  | half (unit : Nat)
deriving DecidableEq, Repr

namespace CodePoint

def isHalf (unit : Nat) : Bool :=
  0xD800 ≤ unit && unit ≤ 0xDFFF

/-- A code unit that stands alone. -/
def ofUnit (unit : Nat) : CodePoint :=
  if isHalf unit then .half unit else .char (Char.ofNat unit)

def ofPair (high low : Nat) : CodePoint :=
  .char (Char.ofNat (0x10000 + (high - 0xD800) * 0x400 + (low - 0xDC00)))

def ofString (text : String) : List CodePoint :=
  text.toList.map .char

/-- The character in a text that has characters only. Half of a pair leaves the replacement mark. -/
def toChar : CodePoint → Char
  | .char c => c
  | .half _ => '\uFFFD'

def text (points : List CodePoint) : String :=
  String.ofList (points.map toChar)

@[simp] theorem text_ofString (text : String) : CodePoint.text (ofString text) = text := by
  have chars : (text.toList.map CodePoint.char).map toChar = text.toList := by
    simp [List.map_map, Function.comp_def, toChar]
  simp [CodePoint.text, ofString, chars]

end CodePoint

end ClusterGraph.Text
