import ClusterGraph.Json.Document
import ClusterGraph.Text.Integer

namespace ClusterGraph.Json

/-! Reading JSON text. Besides the standard's values it takes the words of the three numbers that
are not finite. -/

inductive Collection where
  | array
  | object
deriving DecidableEq, Repr

def Collection.name : Collection → String
  | .array => "array"
  | .object => "object"

inductive ReadError where
  | malformed
  /-- A collection lies within more others than can be read. -/
  | tooDeep (collection : Collection)
deriving DecidableEq, Repr

def isGap (c : Char) : Bool :=
  c == ' ' || c == '\t' || c == '\n' || c == '\r'

def skipGap (text : List Char) : List Char :=
  text.dropWhile isGap

def isDecimal (c : Char) : Bool :=
  '0' ≤ c && c ≤ '9'

def hexValue? (c : Char) : Option Nat :=
  if '0' ≤ c && c ≤ '9' then some (c.toNat - 0x30)
  else if 'a' ≤ c && c ≤ 'f' then some (c.toNat - 0x57)
  else if 'A' ≤ c && c ≤ 'F' then some (c.toNat - 0x37)
  else none

def readUnit : List Char → Option (Nat × List Char)
  | a :: b :: c :: d :: rest => do
      let first ← hexValue? a
      let second ← hexValue? b
      let third ← hexValue? c
      let fourth ← hexValue? d
      some (((first * 16 + second) * 16 + third) * 16 + fourth, rest)
  | _ => none

/-- The character of the escape with a given letter. -/
def simpleEscape? : Char → Option Char
  | '"' => some '"'
  | '\\' => some '\\'
  | '/' => some '/'
  | 'b' => some '\x08'
  | 'f' => some '\x0c'
  | 'n' => some '\n'
  | 'r' => some '\r'
  | 't' => some '\t'
  | _ => none

/-- The lower half of a pair, from an escape at the start of a text. -/
def readLowHalf : List Char → Option (Nat × List Char)
  | '\\' :: 'u' :: rest => (readUnit rest).filter fun (unit, _) => 0xDC00 ≤ unit && unit ≤ 0xDFFF
  | _ => none

/-- The code point of an escape, from behind its letter. Two escapes may name the halves of a
pair. -/
def readEscapedPoint (text : List Char) : Option (Text.CodePoint × List Char) := do
  let (unit, rest) ← readUnit text
  let low := if 0xD800 ≤ unit && unit ≤ 0xDBFF then readLowHalf rest else none
  match low with
  | some (low, rest) => some (.ofPair unit low, rest)
  | none => some (.ofUnit unit, rest)

/-- The code points up to the closing quote, and the rest after it. -/
def readPoints : Nat → List Char → Option (List Text.CodePoint × List Char)
  | 0, _ => none
  | _ + 1, [] => none
  | _ + 1, '"' :: rest => some ([], rest)
  | fuel + 1, '\\' :: 'u' :: rest => do
      let (point, rest) ← readEscapedPoint rest
      let (points, rest) ← readPoints fuel rest
      some (point :: points, rest)
  | fuel + 1, '\\' :: letter :: rest => do
      let c ← simpleEscape? letter
      let (points, rest) ← readPoints fuel rest
      some (.char c :: points, rest)
  | fuel + 1, c :: rest =>
      if c.toNat < 0x20 || c == '\\' then none
      else do
        let (points, rest) ← readPoints fuel rest
        some (.char c :: points, rest)

def readString (text : List Char) : Option (List Text.CodePoint × List Char) :=
  readPoints (text.length + 1) text

def readFraction : List Char → List Char × List Char
  | '.' :: rest =>
      let digits := rest.takeWhile isDecimal
      if digits.isEmpty then ([], '.' :: rest) else (digits, rest.dropWhile isDecimal)
  | text => ([], text)

def readExponent (text : List Char) : Option Int × List Char :=
  match text with
  | mark :: rest =>
      if mark == 'e' || mark == 'E' then
        let (negative, unsigned) := Text.splitSign rest
        let digits := unsigned.takeWhile isDecimal
        if digits.isEmpty then (none, text)
        else
          let value : Int := Text.digitsValue digits
          (some (if negative then -value else value), unsigned.dropWhile isDecimal)
      else (none, text)
  | [] => (none, [])

/-- A number. A zero ends its whole part, and a whole number must not be too long to convert. -/
def readNumber (text : List Char) : Option (Document × List Char) :=
  let (negative, unsigned) : Bool × List Char :=
    match text with
    | '-' :: rest => (true, rest)
    | _ => (false, text)
  let (whole, rest) :=
    match unsigned with
    | '0' :: rest => (['0'], rest)
    | _ => (unsigned.takeWhile isDecimal, unsigned.dropWhile isDecimal)
  if whole.isEmpty then none
  else
    let (fraction, rest) := readFraction rest
    let (exponent, rest) := readExponent rest
    if fraction.isEmpty && exponent.isNone then
      if Text.maxIntegerDigits < whole.length then none
      else
        let value : Int := Text.digitsValue whole
        some (.int (if negative then -value else value), rest)
    else
      let places : Int := fraction.length
      some (.float (.ofDecimal negative (Text.digitsValue (whole ++ fraction))
        (exponent.getD 0 - places)), rest)

def afterWord? (word : String) (text : List Char) : Option (List Char) :=
  if word.toList.isPrefixOf text then some (text.drop word.length) else none

def words : List (String × Document) :=
  [("null", .null), ("true", .bool true), ("false", .bool false), ("NaN", .float .nan),
   ("Infinity", .float (.infinite false)), ("-Infinity", .float (.infinite true))]

def readWord (text : List Char) : Option (Document × List Char) :=
  words.findSome? fun (word, value) => (afterWord? word text).map fun rest => (value, rest)

/-- How many collections may lie within each other. -/
def greatestDepth : Nat := 990

/-- What is read at the start of a text, and the rest. -/
abbrev Reading (α : Type) := Except ReadError (α × List Char)

namespace Reading

variable {α β : Type}

def ofOption : Option (α × List Char) → Reading α
  | some reading => .ok reading
  | none => .error .malformed

def map (change : α → β) : Reading α → Reading β
  | .ok (value, rest) => .ok (change value, rest)
  | .error error => .error error

/-- Reads on behind what was read. -/
def andThen (next : α → List Char → Reading β) : Reading α → Reading β
  | .ok (value, rest) => next value rest
  | .error error => .error error

end Reading

mutual

/-- A value at the start of a text, within which collections may lie up to a depth. Each call uses
one unit of fuel. -/
def readValue : Nat → Nat → List Char → Reading Document
  | 0, _, _ => .error .malformed
  | _ + 1, _, '"' :: rest => (Reading.ofOption (readString rest)).map .str
  | _ + 1, 0, '[' :: _ => .error (.tooDeep .array)
  | fuel + 1, depth + 1, '[' :: rest =>
      match skipGap rest with
      | ']' :: rest => .ok (.arr [], rest)
      | rest => (readItems fuel depth rest).map .arr
  | _ + 1, 0, '{' :: _ => .error (.tooDeep .object)
  | fuel + 1, depth + 1, '{' :: rest =>
      match skipGap rest with
      | '}' :: rest => .ok (.obj [], rest)
      | rest => (readEntries fuel depth rest).map .ofEntries
  | _ + 1, _, text => .ofOption ((readWord text).or (readNumber text))

def readItems : Nat → Nat → List Char → Reading (List Document)
  | 0, _, _ => .error .malformed
  | fuel + 1, depth, text =>
      (readValue fuel depth text).andThen fun item rest =>
        match skipGap rest with
        | ']' :: rest => .ok ([item], rest)
        | ',' :: rest => (readItems fuel depth (skipGap rest)).map (item :: ·)
        | _ => .error .malformed

def readEntries : Nat → Nat → List Char → Reading (List (List Text.CodePoint × Document))
  | 0, _, _ => .error .malformed
  | fuel + 1, depth, '"' :: text =>
      (Reading.ofOption (readString text)).andThen fun key rest =>
        match skipGap rest with
        | ':' :: rest =>
            (readValue fuel depth (skipGap rest)).andThen fun value rest =>
              match skipGap rest with
              | '}' :: rest => .ok ([(key, value)], rest)
              | ',' :: rest => (readEntries fuel depth (skipGap rest)).map ((key, value) :: ·)
              | _ => .error .malformed
        | _ => .error .malformed
  | _ + 1, _, _ => .error .malformed

end

def Document.ofText (text : String) : Except ReadError Document := do
  let chars := text.toList
  let (document, rest) ← readValue (2 * chars.length + 2) greatestDepth (skipGap chars)
  if (skipGap rest).isEmpty then pure document else throw .malformed

def ofText (text : String) : Except ReadError Json :=
  (Document.ofText text).map Document.tree

end ClusterGraph.Json
