import ClusterGraph.Path.Parser
import ClusterGraph.Proofs.Text.Trimming

namespace ClusterGraph.Path

/-! The segments of a path as they are written. A text has at most one division into them, and the
reader takes them off its front one by one. -/

inductive Spelling where
  /-- A name behind a dot. -/
  | dotted (name : List Char)
  /-- A name between quotes in brackets. -/
  | quoted (quote : Char) (name : List Char)
  | wildcard
  | position (negative : Bool) (digits : List Char)
deriving DecidableEq, Repr

namespace Spelling

def text : Spelling → List Char
  | dotted name => '.' :: name
  | quoted quote name => '[' :: quote :: (name ++ [quote, ']'])
  | wildcard => ['[', '*', ']']
  | position negative digits => '[' :: ((if negative then ['-'] else []) ++ (digits ++ [']']))

/-- What may be written: names behind a dot are of certain characters only, quoted ones of all but
the quote, which is single or double, and positions of digits. -/
def Proper : Spelling → Prop
  | dotted name => name ≠ [] ∧ ∀ c ∈ name, isKeyChar c = true
  | quoted quote name => (quote = '\'' ∨ quote = '"') ∧ quote ∉ name
  | wildcard => True
  | position _ digits => digits ≠ [] ∧ ∀ c ∈ digits, Text.isDigit c = true

/-- Positions have no more digits than are converted. -/
def Convertible : Spelling → Prop
  | position _ digits => digits.length ≤ Text.maxIntegerDigits
  | _ => True

def segment : Spelling → Segment
  | dotted name | quoted _ name => .key (String.ofList name)
  | wildcard => .wildcard
  | position negative digits =>
      let value : Int := Text.digitsValue digits
      .index (if negative then -value else value)

def token : Spelling → Token
  | dotted name | quoted _ name => .key name
  | wildcard => .wildcard
  | position negative digits => .position negative digits

/-- A name behind a dot goes on as far as it can. -/
def EndsBefore : Spelling → List Char → Prop
  | dotted _, rest => ∀ c ∈ rest.head?, isKeyChar c = false
  | _, _ => True

def joined (spellings : List Spelling) : List Char :=
  spellings.flatMap text

variable {spelling first second : Spelling} {spellings : List Spelling}
  {rest firstRest secondRest : List Char}

@[simp] theorem joined_nil : joined [] = [] := rfl

@[simp] theorem joined_cons (spelling : Spelling) (spellings : List Spelling) :
    joined (spelling :: spellings) = spelling.text ++ joined spellings := rfl

theorem text_eq_cons (spelling : Spelling) :
    ∃ mark others, spelling.text = mark :: others ∧ (mark = '.' ∨ mark = '[') := by
  cases spelling with
  | dotted name => exact ⟨'.', _, rfl, Or.inl rfl⟩
  | quoted quote name => exact ⟨'[', _, rfl, Or.inr rfl⟩
  | wildcard => exact ⟨'[', _, rfl, Or.inr rfl⟩
  | position negative digits => exact ⟨'[', _, rfl, Or.inr rfl⟩

theorem endsBefore_text (spelling next : Spelling) (rest : List Char) :
    spelling.EndsBefore (next.text ++ rest) := by
  obtain ⟨mark, others, isText, isMark⟩ := next.text_eq_cons
  rw [isText]
  cases spelling with
  | dotted name =>
      intro c isFirst
      obtain rfl : mark = c := Option.some.inj isFirst
      rcases isMark with rfl | rfl <;> rfl
  | quoted quote name => trivial
  | wildcard => trivial
  | position negative digits => trivial

theorem endsBefore_joined (spelling : Spelling) (spellings : List Spelling) :
    spelling.EndsBefore (joined spellings) := by
  cases spellings with
  | nil => cases spelling <;> simp [EndsBefore]
  | cons next later => exact endsBefore_text spelling next (joined later)

theorem segment_token (convertible : spelling.Convertible) :
    spelling.token.segment = .ok spelling.segment := by
  cases spelling with
  | dotted name => rfl
  | quoted quote name => rfl
  | wildcard => rfl
  | position negative digits =>
      have enough : ¬ Text.maxIntegerDigits < digits.length := Nat.not_lt.mpr convertible
      simp only [token, Token.segment, enough, if_false, segment]

theorem segment_token_long {negative : Bool} {digits : List Char}
    (long : Text.maxIntegerDigits < digits.length) :
    (position negative digits).token.segment = .error (.positionTooLong digits.length) := by
  simp only [token, Token.segment, long, if_true]

/-- One token has several spellings, but not with one text. -/
theorem eq_of_text_token (sameText : first.text = second.text)
    (sameToken : first.token = second.token) : first = second := by
  cases first <;> cases second <;> simp_all [text, token]

end Spelling

open Spelling

variable {spelling first second : Spelling} {token : Token} {quote : Char} {negative : Bool}
  {text name digits rest firstRest secondRest : List Char}

theorem isDigit_marks : ∀ c ∈ ['*', '\'', '"', '-', ']'], Text.isDigit c = false := by
  simp only [List.forall_mem_cons, List.not_mem_nil, false_implies, implies_true, and_true]
  refine ⟨?_, ?_, ?_, ?_, ?_⟩ <;> decide +kernel

theorem readQuotedKey_text (apart : quote ∉ name) (rest : List Char) :
    readQuotedKey quote (name ++ quote :: ']' :: rest) = some (.key name, rest) := by
  have inside : ∀ c ∈ name, (c != quote) = true := by
    intro c member
    simp only [bne_iff_ne]
    rintro rfl
    exact apart member
  have boundary : ∀ c ∈ (quote :: ']' :: rest).head?, (c != quote) = false := by simp
  simp only [readQuotedKey, Text.takeWhile_until inside boundary,
    Text.dropWhile_until inside boundary]

theorem readQuotedKey_eq_some (found : readQuotedKey quote text = some (token, rest)) :
    ∃ name, quote ∉ name ∧ text = name ++ quote :: ']' :: rest ∧ token = .key name := by
  unfold readQuotedKey at found
  split at found
  · rename_i stop tail behind
    cases found
    refine ⟨text.takeWhile (· != quote), ?_, ?_, rfl⟩
    · intro member
      simpa using List.mem_takeWhile_imp member
    · have isQuote : (stop != quote) = false :=
        Text.head?_dropWhile text stop (by rw [behind]; rfl)
      obtain rfl : stop = quote := by simpa using isQuote
      rw [← behind, List.takeWhile_append_dropWhile]
  · contradiction

theorem readPosition_text (some : digits ≠ []) (numeric : ∀ c ∈ digits, Text.isDigit c = true)
    (negative : Bool) (rest : List Char) :
    readPosition negative (digits ++ ']' :: rest) = .some (.position negative digits, rest) := by
  have boundary : ∀ c ∈ (']' :: rest).head?, Text.isDigit c = false := by
    simpa using isDigit_marks ']' (by simp)
  simp only [readPosition, Text.takeWhile_until numeric boundary,
    Text.dropWhile_until numeric boundary, List.isEmpty_iff, some, if_false]

theorem readPosition_eq_some (found : readPosition negative text = some (token, rest)) :
    ∃ digits, digits ≠ [] ∧ (∀ c ∈ digits, Text.isDigit c = true) ∧
      text = digits ++ ']' :: rest ∧ token = .position negative digits := by
  unfold readPosition at found
  split at found
  · rename_i tail behind
    simp only at found
    split at found
    · contradiction
    · rename_i some
      cases found
      refine ⟨text.takeWhile Text.isDigit, by simpa using some,
        fun c member => List.mem_takeWhile_imp member, ?_, rfl⟩
      rw [← behind, List.takeWhile_append_dropWhile]
  · contradiction

/-- A segment is read off the front of a text, whatever follows. -/
theorem readToken_text (proper : spelling.Proper) (ends : spelling.EndsBefore rest) :
    readToken (spelling.text ++ rest) = some (spelling.token, rest) := by
  cases spelling with
  | dotted name =>
      obtain ⟨some, inside⟩ := proper
      simp only [Spelling.text, List.cons_append, readToken, Text.takeWhile_until inside ends,
        Text.dropWhile_until inside ends, List.isEmpty_iff, some, if_false, Spelling.token]
  | quoted quote name =>
      obtain ⟨rfl | rfl, apart⟩ := proper <;>
        simpa [Spelling.text, readToken, Spelling.token] using readQuotedKey_text apart rest
  | wildcard => rfl
  | position negative digits =>
      obtain ⟨some, numeric⟩ := proper
      have reads := readPosition_text some numeric negative rest
      cases negative with
      | true => simpa [Spelling.text, readToken, Spelling.token] using reads
      | false =>
          obtain ⟨digit, others, rfl⟩ := List.exists_cons_of_ne_nil some
          have isDigit := numeric digit List.mem_cons_self
          have noMark : ∀ mark ∈ ['*', '\'', '"', '-', ']'], digit ≠ mark := by
            rintro mark member rfl
            rw [isDigit_marks digit member] at isDigit
            contradiction
          simp only [List.forall_mem_cons, List.not_mem_nil, false_implies, implies_true,
            and_true] at noMark
          simpa [Spelling.text, readToken, Spelling.token, noMark] using reads

/-- What is read has a spelling, which is the text before the rest. -/
theorem readToken_eq_some (found : readToken text = some (token, rest)) :
    ∃ spelling : Spelling, spelling.Proper ∧ spelling.EndsBefore rest ∧
      text = spelling.text ++ rest ∧ spelling.token = token := by
  unfold readToken at found
  split at found
  · rename_i tail
    simp only at found
    split at found
    · contradiction
    · rename_i some
      cases found
      refine ⟨.dotted (tail.takeWhile isKeyChar), ⟨by simpa using some, ?_⟩,
        Text.head?_dropWhile tail, ?_, rfl⟩
      · exact fun c member => List.mem_takeWhile_imp member
      · rw [Spelling.text, List.cons_append, List.takeWhile_append_dropWhile]
  · cases found
    exact ⟨.wildcard, trivial, trivial, rfl, rfl⟩
  · obtain ⟨name, apart, rfl, rfl⟩ := readQuotedKey_eq_some found
    exact ⟨.quoted '\'' name, ⟨Or.inl rfl, apart⟩, trivial, by simp [Spelling.text], rfl⟩
  · obtain ⟨name, apart, rfl, rfl⟩ := readQuotedKey_eq_some found
    exact ⟨.quoted '"' name, ⟨Or.inr rfl, apart⟩, trivial, by simp [Spelling.text], rfl⟩
  · obtain ⟨digits, some, numeric, rfl, rfl⟩ := readPosition_eq_some found
    exact ⟨.position true digits, ⟨some, numeric⟩, trivial, by simp [Spelling.text], rfl⟩
  · obtain ⟨digits, some, numeric, rfl, rfl⟩ := readPosition_eq_some found
    exact ⟨.position false digits, ⟨some, numeric⟩, trivial, by simp [Spelling.text], rfl⟩
  · contradiction

theorem readToken_eq_none_iff :
    readToken text = none ↔ ∀ spelling : Spelling, spelling.Proper → ¬ spelling.text <+: text := by
  constructor
  · rintro fails spelling proper ⟨rest, rfl⟩
    cases spelling with
    | dotted name =>
        have longer : Spelling.Proper (.dotted (name ++ rest.takeWhile isKeyChar)) := by
          refine ⟨by simp [proper.1], fun c member => ?_⟩
          exact (List.mem_append.mp member).elim (proper.2 c) List.mem_takeWhile_imp
        have reads := readToken_text longer (Text.head?_dropWhile rest)
        rw [Spelling.text, ← List.cons_append, List.append_assoc,
          List.takeWhile_append_dropWhile] at reads
        exact absurd (fails.symm.trans reads) (by simp)
    | quoted quote name =>
        exact absurd (fails.symm.trans (readToken_text proper trivial)) (by simp)
    | wildcard => exact absurd (fails.symm.trans (readToken_text proper trivial)) (by simp)
    | position negative digits =>
        exact absurd (fails.symm.trans (readToken_text proper trivial)) (by simp)
  · intro none
    cases found : readToken text with
    | none => rfl
    | some result =>
        obtain ⟨spelling, proper, _, isText, _⟩ := readToken_eq_some found
        exact absurd ⟨_, isText.symm⟩ (none spelling proper)

theorem eq_of_text_append (firstProper : first.Proper) (firstEnds : first.EndsBefore firstRest)
    (secondProper : second.Proper) (secondEnds : second.EndsBefore secondRest)
    (same : first.text ++ firstRest = second.text ++ secondRest) :
    first = second ∧ firstRest = secondRest := by
  have reads := readToken_text firstProper firstEnds
  rw [same, readToken_text secondProper secondEnds] at reads
  obtain ⟨sameToken, rfl⟩ := Prod.mk.inj (Option.some.inj reads)
  exact ⟨eq_of_text_token (List.append_cancel_right same) sameToken.symm, rfl⟩

theorem joined_injective {first second : List Spelling} (firstProper : ∀ each ∈ first, each.Proper)
    (secondProper : ∀ each ∈ second, each.Proper) (same : joined first = joined second) :
    first = second := by
  induction first generalizing second with
  | nil =>
      cases second with
      | nil => rfl
      | cons next later =>
          obtain ⟨mark, others, isText, _⟩ := next.text_eq_cons
          simp [isText] at same
  | cons head tail ih =>
      cases second with
      | nil =>
          obtain ⟨mark, others, isText, _⟩ := head.text_eq_cons
          simp [isText] at same
      | cons next later =>
          rw [List.forall_mem_cons] at firstProper secondProper
          obtain ⟨rfl, sameRest⟩ := eq_of_text_append firstProper.1 (endsBefore_joined _ _)
            secondProper.1 (endsBefore_joined _ _) same
          rw [ih firstProper.2 secondProper.2 sameRest]

end ClusterGraph.Path
