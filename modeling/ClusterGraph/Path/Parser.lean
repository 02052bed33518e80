import ClusterGraph.Path.Basic
import ClusterGraph.Text.Blank
import ClusterGraph.Text.Integer

namespace ClusterGraph.Path

/-! Reading path expressions: keys behind a dot or quoted in brackets, wildcards and positions in
brackets, the whole optionally between braces. -/

inductive Problem where
  | unbalancedBraces
  | emptyExpression
  /-- No segment starts with the character at an offset of the expression proper. -/
  | unexpected (found : Char) (offset : Nat)
deriving DecidableEq, Repr

inductive Error where
  | malformed (expression : String) (problem : Problem)
  /-- A position has more digits than are converted. -/
  | positionTooLong (digits : Nat)
deriving DecidableEq, Repr

def Problem.message : Problem → String
  | .unbalancedBraces => "unbalanced braces"
  | .emptyExpression => "empty expression"
  | .unexpected found offset =>
      "unexpected " ++ Text.quoted (String.singleton found) ++ " at offset " ++ toString offset

/-- Characters of a key that stands behind a dot. -/
def isKeyChar (c : Char) : Bool :=
  c.isAlphanum || c == '_' || c == '-'

inductive Token where
  | key (name : List Char)
  | wildcard
  | position (negative : Bool) (digits : List Char)
deriving DecidableEq, Repr

/-- The text up to a closing quote and bracket. -/
def readQuotedKey (quote : Char) (text : List Char) : Option (Token × List Char) :=
  match text.dropWhile (· != quote) with
  | _ :: ']' :: rest => some (.key (text.takeWhile (· != quote)), rest)
  | _ => none

/-- Digits up to a closing bracket. -/
def readPosition (negative : Bool) (text : List Char) : Option (Token × List Char) :=
  let digits := text.takeWhile Text.isDigit
  match text.dropWhile Text.isDigit with
  | ']' :: rest => if digits.isEmpty then none else some (.position negative digits, rest)
  | _ => none

/-- The segment at the start of a text, and the rest. -/
def readToken : List Char → Option (Token × List Char)
  | '.' :: text =>
      let name := text.takeWhile isKeyChar
      if name.isEmpty then none else some (.key name, text.dropWhile isKeyChar)
  | '[' :: '*' :: ']' :: rest => some (.wildcard, rest)
  | '[' :: '\'' :: text => readQuotedKey '\'' text
  | '[' :: '"' :: text => readQuotedKey '"' text
  | '[' :: '-' :: text => readPosition true text
  | '[' :: text => readPosition false text
  | _ => none

theorem length_dropWhile_le {α : Type} (keep : α → Bool) (items : List α) :
    (items.dropWhile keep).length ≤ items.length :=
  (List.dropWhile_sublist keep).length_le

theorem readQuotedKey_length {quote : Char} {text rest : List Char} {token : Token}
    (found : readQuotedKey quote text = some (token, rest)) : rest.length < text.length := by
  have bound := length_dropWhile_le (· != quote) text
  unfold readQuotedKey at found
  split at found
  · rename_i close tail shape
    rw [shape] at bound
    simp only [Option.some.injEq, Prod.mk.injEq] at found
    obtain ⟨_, rfl⟩ := found
    simp only [List.length_cons] at bound
    omega
  · contradiction

theorem readPosition_length {negative : Bool} {text rest : List Char} {token : Token}
    (found : readPosition negative text = some (token, rest)) : rest.length < text.length := by
  have bound := length_dropWhile_le Text.isDigit text
  unfold readPosition at found
  split at found
  · rename_i tail shape
    rw [shape] at bound
    simp only at found
    split at found
    · contradiction
    · simp only [Option.some.injEq, Prod.mk.injEq] at found
      obtain ⟨_, rfl⟩ := found
      simp only [List.length_cons] at bound
      omega
  · contradiction

/-- A segment takes at least one character. -/
theorem readToken_length {text rest : List Char} {token : Token}
    (found : readToken text = some (token, rest)) : rest.length < text.length := by
  unfold readToken at found
  split at found
  · rename_i tail
    have bound := length_dropWhile_le isKeyChar tail
    simp only at found
    split at found
    · contradiction
    · simp only [Option.some.injEq, Prod.mk.injEq] at found
      obtain ⟨_, rfl⟩ := found
      simp only [List.length_cons]
      omega
  · simp only [Option.some.injEq, Prod.mk.injEq] at found
    obtain ⟨_, rfl⟩ := found
    simp only [List.length_cons]
    omega
  · have shorter := readQuotedKey_length found
    simp only [List.length_cons]
    omega
  · have shorter := readQuotedKey_length found
    simp only [List.length_cons]
    omega
  · have shorter := readPosition_length found
    simp only [List.length_cons]
    omega
  · have shorter := readPosition_length found
    simp only [List.length_cons]
    omega
  · contradiction

def Token.segment : Token → Except Error Segment
  | .key name => .ok (.key (String.ofList name))
  | .wildcard => .ok .wildcard
  | .position negative digits =>
      if Text.maxIntegerDigits < digits.length then .error (.positionTooLong digits.length)
      else
        let value : Int := Text.digitsValue digits
        .ok (.index (if negative then -value else value))

/-- All segments of a text. `length` is that of the whole expression proper, for the offset of a
failure. -/
def readSegments (expression : String) (length : Nat) (text : List Char) :
    Except Error (List Segment) :=
  match text with
  | [] => .ok []
  | c :: tail =>
      match _found : readToken (c :: tail) with
      | none => .error (.malformed expression (.unexpected c (length - (c :: tail).length)))
      | some (token, rest) => do
          let segment ← token.segment
          let segments ← readSegments expression length rest
          .ok (segment :: segments)
termination_by text.length
decreasing_by exact readToken_length _found

/-- The expression proper: without the white space and the pair of braces around it, and with a dot
in front where it starts with neither dot nor bracket. -/
def body (expression : String) : Except Problem (List Char) :=
  let text := Text.trimBy Text.isBlank expression.toList
  let opened := text.head? == some '{'
  let closed := text.getLast? == some '}'
  if (opened || closed) && !(opened && closed) then .error .unbalancedBraces
  else
    let inner := if opened then Text.trimBy Text.isBlank (text.drop 1).dropLast else text
    match inner with
    | [] => .error .emptyExpression
    | c :: rest => .ok (if c == '.' || c == '[' then c :: rest else '.' :: c :: rest)

def ofText (expression : String) : Except Error Path :=
  match body expression with
  | .error problem => .error (.malformed expression problem)
  | .ok text => (readSegments expression text.length text).map fun segments => ⟨expression, segments⟩

end ClusterGraph.Path
