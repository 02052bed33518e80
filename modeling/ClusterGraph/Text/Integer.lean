import ClusterGraph.Text.Blank
import ClusterGraph.Text.Digit
import ClusterGraph.Text.Quoted

namespace ClusterGraph.Text

/-! Whole numbers written by hand: white space around, a sign, digits of any script with single
low lines between them. -/

/-- Longer runs of digits are refused before they are converted. -/
def maxIntegerDigits : Nat := 4300

inductive IntegerError where
  | malformed (text : String)
  /-- The text starts with more digits than are converted. -/
  | tooLong (digits : Nat)
deriving Repr, DecidableEq

/-- White space around a number; the information separators do not count. -/
def isNumberBlank (c : Char) : Bool :=
  isBlank c && !(0x1C ≤ c.toNat && c.toNat ≤ 0x1F)

/-- The digits at the start of a text and the rest. A low line between two digits is skipped;
`joined` tells whether a digit stands directly before the text. -/
def digitGroups (joined : Bool) : List Char → List Char × List Char
  | [] => ([], [])
  | c :: rest =>
      if isDigit c then
        let (digits, after) := digitGroups true rest
        (c :: digits, after)
      else if joined && c == '_' && rest.head?.any isDigit then digitGroups false rest
      else ([], c :: rest)

def splitSign : List Char → Bool × List Char
  | '-' :: rest => (true, rest)
  | '+' :: rest => (false, rest)
  | text => (false, text)

def readInteger (text : String) : Except IntegerError Int :=
  let (negative, unsigned) := splitSign (text.toList.dropWhile isNumberBlank)
  let (digits, rest) := digitGroups false unsigned
  if digits.isEmpty || rest.head? == some '_' then .error (.malformed text)
  else if maxIntegerDigits < digits.length then .error (.tooLong digits.length)
  else if !rest.all isNumberBlank then .error (.malformed text)
  else
    let value : Int := digitsValue digits
    .ok (if negative then -value else value)

/-- Messages quote at most this many characters of a malformed number, quotes included. -/
def maxQuotedNumber : Nat := 200

/-- What is said of a number with too many digits that is to be written. -/
def longIntegerMessage : String :=
  "Exceeds the limit (" ++ toString maxIntegerDigits ++
    " digits) for integer string conversion; use sys.set_int_max_str_digits() to increase the limit"

def IntegerError.message : IntegerError → String
  | .malformed text =>
      "invalid literal for int() with base 10: " ++
        String.ofList ((quotedPoints (CodePoint.ofString text)).take maxQuotedNumber)
  | .tooLong digits =>
      "Exceeds the limit (" ++ toString maxIntegerDigits ++
        " digits) for integer string conversion: value has " ++ toString digits ++
        " digits; use sys.set_int_max_str_digits() to increase the limit"

end ClusterGraph.Text
