import ClusterGraph.Json.Reader
import ClusterGraph.Json.Writer
import Mathlib.Tactic.SplitIfs

namespace ClusterGraph.Json

/-! Written text is read back: a string as that string, whatever characters it has and whatever
follows it, and an object of strings as these strings in the order of their keys. -/

theorem hexValue?_hexDigit : ∀ value < 16, hexValue? (Text.hexDigit value) = some value := by
  decide

theorem readUnit_hexDigits {unit : Nat} (small : unit < 0x10000) (rest : List Char) :
    readUnit (Text.hexDigits 4 unit ++ rest) = some (unit, rest) := by
  have digit (value : Nat) : hexValue? (Text.hexDigit (value % 16)) = some (value % 16) :=
    hexValue?_hexDigit _ (Nat.mod_lt _ (by decide))
  have value : ((unit / 16 / 16 / 16 % 16 * 16 + unit / 16 / 16 % 16) * 16 + unit / 16 % 16) * 16 +
      unit % 16 = unit := by omega
  simp only [Text.hexDigits, List.nil_append, List.cons_append, readUnit, digit, bind,
    Option.bind_some, value]

section Escaped

variable {code : Nat} (rest : List Char)

/-- A code unit outside the halves of pairs stands for itself. -/
theorem readEscapedPoint_unit (small : code < 0x10000) (whole : code < 0xD800 ∨ 0xDFFF < code) :
    readEscapedPoint (Text.hexDigits 4 code ++ rest) = some (.char (Char.ofNat code), rest) := by
  have noHigh : (0xD800 ≤ code && code ≤ 0xDBFF) = false := by
    simp only [Bool.and_eq_false_iff, decide_eq_false_iff_not]
    omega
  have noHalf : Text.CodePoint.isHalf code = false := by
    simp only [Text.CodePoint.isHalf, Bool.and_eq_false_iff, decide_eq_false_iff_not]
    omega
  simp only [readEscapedPoint, readUnit_hexDigits small, bind, Option.bind_some, noHigh,
    Text.CodePoint.ofUnit, noHalf, Bool.false_eq_true, if_false]

/-- Two escapes that name the halves of a pair stand for it together. -/
theorem readEscapedPoint_pair {high low : Nat} (isHigh : 0xD800 ≤ high ∧ high ≤ 0xDBFF)
    (isLow : 0xDC00 ≤ low ∧ low ≤ 0xDFFF) :
    readEscapedPoint (Text.hexDigits 4 high ++ (unitEscape low ++ rest)) =
      some (.ofPair high low, rest) := by
  have inHigh : (0xD800 ≤ high && high ≤ 0xDBFF) = true := by simpa using isHigh
  have inLow : (0xDC00 ≤ low && low ≤ 0xDFFF) = true := by simpa using isLow
  have lowRead : readLowHalf (unitEscape low ++ rest) = some (low, rest) := by
    simp only [unitEscape, List.cons_append, readLowHalf]
    rw [readUnit_hexDigits (by omega), Option.filter_some, if_pos inLow]
  simp only [readEscapedPoint, bind]
  rw [readUnit_hexDigits (by omega)]
  simp only [Option.bind_some, inHigh, if_true, lowRead]

end Escaped

theorem ofPair_halves {code : Nat} (large : 0x10000 ≤ code) :
    Text.CodePoint.ofPair (0xD800 + (code - 0x10000) / 0x400)
      (0xDC00 + (code - 0x10000) % 0x400) = .char (Char.ofNat code) := by
  have joined : 0x10000 + (0xD800 + (code - 0x10000) / 0x400 - 0xD800) * 0x400 +
      (0xDC00 + (code - 0x10000) % 0x400 - 0xDC00) = code := by omega
  rw [Text.CodePoint.ofPair, joined]

section Points

variable (fuel : Nat) (rest : List Char)

/-- Reads on behind a code point. -/
def readBehind (point : Text.CodePoint) : Option (List Text.CodePoint × List Char) :=
  (readPoints fuel rest).map fun read => (point :: read.1, read.2)

theorem readPoints_simple {letter c : Char} (escape : simpleEscape? letter = some c) :
    readPoints (fuel + 1) ('\\' :: letter :: rest) = readBehind fuel rest (.char c) := by
  have notUnit : letter ≠ 'u' := by
    rintro rfl
    cases escape
  rw [readPoints.eq_5 _ _ _ notUnit, escape, readBehind]
  cases readPoints fuel rest <;> rfl

theorem readPoints_unit {text : List Char} {point : Text.CodePoint}
    (escape : readEscapedPoint text = some (point, rest)) :
    readPoints (fuel + 1) ('\\' :: 'u' :: text) = readBehind fuel rest point := by
  simp only [readPoints, escape, bind, Option.bind_some, readBehind]
  cases readPoints fuel rest <;> rfl

theorem readPoints_plain {c : Char} (noQuote : c ≠ '"') (noEscape : c ≠ '\\')
    (noControl : 0x20 ≤ c.toNat) :
    readPoints (fuel + 1) (c :: rest) = readBehind fuel rest (.char c) := by
  have passes : (c.toNat < 0x20 || c == '\\') = false := by
    simp [noEscape, noControl]
  rw [readPoints.eq_6 _ _ _ noQuote (fun _ same _ => noEscape same)
    (fun _ _ same _ => noEscape same), passes, readBehind]
  cases readPoints fuel rest <;> rfl

end Points

/-- What a character was written as is read back as that character. -/
theorem readPoints_escapeChar (c : Char) (fuel : Nat) (rest : List Char) :
    readPoints (fuel + 1) (escapeChar c ++ rest) = readBehind fuel rest (.char c) := by
  have named (letter : Char) (escape : simpleEscape? letter = some c) :
      readPoints (fuel + 1) (['\\', letter] ++ rest) = readBehind fuel rest (.char c) :=
    readPoints_simple fuel rest escape
  unfold escapeChar
  dsimp only
  split_ifs with quoted newline carriage tab backspace feed plain small
  · rcases Bool.or_eq_true_iff.mp quoted with quote | escape
    · exact named c (by rw [beq_iff_eq.mp quote]; rfl)
    · exact named c (by rw [beq_iff_eq.mp escape]; rfl)
  · exact named 'n' (by rw [beq_iff_eq.mp newline]; rfl)
  · exact named 'r' (by rw [beq_iff_eq.mp carriage]; rfl)
  · exact named 't' (by rw [beq_iff_eq.mp tab]; rfl)
  · exact named 'b' (by rw [beq_iff_eq.mp backspace]; rfl)
  · exact named 'f' (by rw [beq_iff_eq.mp feed]; rfl)
  · simp only [Bool.or_eq_true, beq_iff_eq, not_or] at quoted
    simp only [Bool.and_eq_true, decide_eq_true_eq] at plain
    exact readPoints_plain fuel rest quoted.1 quoted.2 plain.1
  · rw [unitEscape, List.cons_append, List.cons_append,
      readPoints_unit fuel rest (readEscapedPoint_unit rest small ?_), Char.ofNat_toNat]
    rcases c.valid with low | ⟨high, _⟩
    · exact .inl low
    · exact .inr high
  · have valid : c.toNat < 0x110000 := by
      rcases c.valid with low | ⟨_, bound⟩
      · exact Nat.lt_trans low (by decide)
      · exact bound
    rw [unitEscape, List.append_assoc, List.cons_append, List.cons_append,
      readPoints_unit fuel rest (readEscapedPoint_pair rest ?_ ?_), ofPair_halves (by omega),
      Char.ofNat_toNat]
    · omega
    · omega

/-- The characters of a string up to its closing quote, where the fuel suffices for them. -/
theorem readPoints_escaped (chars : List Char) {fuel : Nat} (enough : chars.length < fuel)
    (rest : List Char) :
    readPoints fuel (chars.flatMap escapeChar ++ '"' :: rest) =
      some (chars.map .char, rest) := by
  induction chars generalizing fuel with
  | nil =>
      obtain ⟨left, rfl⟩ := Nat.exists_eq_add_of_lt enough
      rfl
  | cons c others ih =>
      obtain ⟨left, rfl⟩ := Nat.exists_eq_add_of_lt enough
      rw [List.flatMap_cons, List.append_assoc, readPoints_escapeChar, readBehind,
        ih (by simp only [List.length_cons]; omega)]
      rfl

theorem escapeChar_length (c : Char) : 0 < (escapeChar c).length := by
  unfold escapeChar unitEscape
  dsimp only
  split_ifs <;> simp

theorem length_escaped (chars : List Char) : chars.length ≤ (chars.flatMap escapeChar).length := by
  induction chars with
  | nil => simp
  | cons c others ih =>
      have one := escapeChar_length c
      simp only [List.flatMap_cons, List.length_append, List.length_cons]
      omega

/-- A string is read back as the characters that it was written from, from behind its opening
quote. -/
theorem readString_written (text : String) (rest : List Char) :
    readString (text.toList.flatMap escapeChar ++ '"' :: rest) =
      some (Text.CodePoint.ofString text, rest) := by
  have enough := length_escaped text.toList
  exact readPoints_escaped text.toList
    (by simp only [List.length_append, List.length_cons]; omega) rest

/-- An entry of an object whose values are strings. -/
def entryText (field : String × String) : List Char :=
  writeString field.1 ++ ": ".toList ++ writeString field.2

def entryDocument (field : String × String) : List Text.CodePoint × Document :=
  (Text.CodePoint.ofString field.1, .str (Text.CodePoint.ofString field.2))

theorem readValue_written (fuel depth : Nat) (text : String) (rest : List Char) :
    readValue (fuel + 1) depth (writeString text ++ rest) =
      .ok (.str (Text.CodePoint.ofString text), rest) := by
  have read := readString_written text rest
  simp only [writeString, List.cons_append, List.append_assoc, List.nil_append, readValue, read]
  rfl

theorem readEntries_field (fuel depth : Nat) (field : String × String) (rest : List Char) :
    readEntries (fuel + 2) depth (entryText field ++ rest) =
      match skipGap rest with
      | '}' :: rest => .ok ([entryDocument field], rest)
      | ',' :: rest =>
          (readEntries (fuel + 1) depth (skipGap rest)).map (entryDocument field :: ·)
      | _ => .error .malformed := by
  have key := readString_written field.1 (":".toList ++ " ".toList ++ writeString field.2 ++ rest)
  have value := readValue_written fuel depth field.2 rest
  have start : skipGap (" ".toList ++ (writeString field.2 ++ rest)) =
      writeString field.2 ++ rest := rfl
  have split : entryText field ++ rest = '"' :: (field.1.toList.flatMap escapeChar ++
      '"' :: (":".toList ++ " ".toList ++ writeString field.2 ++ rest)) := by
    simp [entryText, writeString]
  rw [split, readEntries, key]
  simp only [Reading.ofOption, Reading.andThen]
  change ((readValue (fuel + 1) depth (writeString field.2 ++ rest)).andThen _) = _
  rw [value]
  rfl

/-- Fields start with a quote and not with a gap. -/
theorem joinWith_fields (field : String × String) (others : List (String × String)) :
    ∃ more, joinWith ", " ((field :: others).map entryText) = '"' :: more := by
  cases others with
  | nil => exact ⟨_, rfl⟩
  | cons next later => exact ⟨_, rfl⟩

/-- Entries are read up to the end of their object. -/
theorem readEntries_fields {fields : List (String × String)} (some : fields ≠ []) (fuel : Nat)
    (enough : fields.length < fuel) (depth : Nat) (rest : List Char) :
    readEntries fuel depth (joinWith ", " (fields.map entryText) ++ '}' :: rest) =
      .ok (fields.map entryDocument, rest) := by
  induction fields generalizing fuel with
  | nil => exact absurd rfl some
  | cons field others ih =>
      obtain ⟨left, rfl⟩ : ∃ left, fuel = left + 2 := ⟨fuel - 2, by
        simp only [List.length_cons] at enough
        omega⟩
      cases others with
      | nil =>
          simp only [List.map_cons, List.map_nil, joinWith]
          rw [readEntries_field]
          rfl
      | cons next later =>
          have following := ih (by simp) (left + 1) (by
            simp only [List.length_cons] at enough ⊢
            omega)
          obtain ⟨more, starts⟩ := joinWith_fields next later
          simp only [List.map_cons, joinWith, List.append_assoc] at following starts ⊢
          rw [readEntries_field]
          rw [starts] at following ⊢
          change ((readEntries (left + 1) depth ('"' :: more ++ '}' :: rest)).map
            (entryDocument field :: ·)) = _
          rw [following]
          rfl

theorem length_joinWith_fields (fields : List (String × String)) :
    fields.length ≤ (joinWith ", " (fields.map entryText)).length := by
  induction fields with
  | nil => simp
  | cons field others ih =>
      have filled : 0 < (entryText field).length := by simp [entryText, writeString]
      cases others with
      | nil => exact filled
      | cons next later =>
          simp only [List.map_cons, joinWith, List.length_append, List.length_cons] at ih ⊢
          omega

theorem write_fields (fields : List (String × String)) :
    write .spaced (.obj (fields.map fun field => (field.1, .str field.2))) =
      '{' :: joinWith ", " ((sortKeys fields).map entryText) ++ ['}'] := by
  have written : sortKeys (fields.map fun field => (field.1, writeString field.2)) =
      (sortKeys fields).map fun field => (field.1, writeString field.2) :=
    (List.map_mergeSort (f := fun field : String × String => (field.1, writeString field.2))
      (r := fun left right : String × String => decide (left.1 ≤ right.1))
      (s := fun left right : String × List Char => decide (left.1 ≤ right.1))
      fun _ _ _ _ => rfl).symm
  rw [write, writeEntries_eq_map, List.map_map]
  have values : ((fun entry : String × Json => (entry.1, write JsonLayout.spaced entry.2)) ∘
      fun field : String × String => (field.1, Json.str field.2)) =
      fun field => (field.1, writeString field.2) := by
    funext field
    simp [write]
  simp only [values, written, List.map_map]
  rfl

theorem textFault?_fields (fields : List (String × String)) :
    textFault? (.obj (fields.map fun field => (field.1, .str field.2))) = none := by
  have plain : entriesDepth (fields.map fun field => (field.1, .str field.2)) = 0 ∧
      entriesHaveLongInteger (fields.map fun field => (field.1, .str field.2)) = false := by
    induction fields with
    | nil => exact ⟨rfl, rfl⟩
    | cons field rest ih => simp [entriesDepth, depth, entriesHaveLongInteger, hasLongInteger, ih]
  rw [textFault?, isTooDeep, depth, plain.1, hasLongInteger, plain.2]
  rfl

/-- The text of an object of strings denotes these strings, in the order of their keys. -/
theorem Document.ofText_fields (fields : List (String × String)) :
    Document.ofText (text .spaced (.obj (fields.map fun field => (field.1, .str field.2)))) =
      .ok (.ofEntries ((sortKeys fields).map entryDocument)) := by
  have read : readValue (2 * (write .spaced (.obj (fields.map fun field =>
      (field.1, .str field.2)))).length + 2) greatestDepth (write .spaced (.obj (fields.map
        fun field => (field.1, .str field.2)))) =
      .ok (.ofEntries ((sortKeys fields).map entryDocument), []) := by
    rw [write_fields]
    cases sorted : sortKeys fields with
    | nil => rfl
    | cons field others =>
        have enough := length_joinWith_fields (field :: others)
        obtain ⟨more, starts⟩ := joinWith_fields field others
        have entries := readEntries_fields (List.cons_ne_nil field others)
          (2 * ('{' :: joinWith ", " ((field :: others).map entryText) ++ ['}']).length + 1)
          (by simp only [List.length_append, List.length_cons] at enough ⊢; omega)
          (greatestDepth - 1) []
        rw [starts] at entries ⊢
        change (readEntries _ (greatestDepth - 1) ('"' :: more ++ '}' :: [])).map
          Document.ofEntries = _
        rw [entries]
        rfl
  have start : skipGap (write .spaced (.obj (fields.map fun field => (field.1, .str field.2)))) =
      write .spaced (.obj (fields.map fun field => (field.1, .str field.2))) := by
    rw [write_fields]
    rfl
  simp only [Document.ofText, text, String.toList_ofList, start, read]
  rfl

/-- Brackets within more brackets than can be read. -/
theorem readValue_deep {fuel depth : Nat} (enough : 2 * depth < fuel) (rest : List Char) :
    readValue fuel depth (List.replicate (depth + 1) '[' ++ rest) = .error (.tooDeep .array) := by
  induction depth generalizing fuel with
  | zero =>
      obtain ⟨fuel, rfl⟩ := Nat.exists_eq_add_of_lt enough
      rfl
  | succ depth ih =>
      obtain ⟨more, rfl⟩ : ∃ more, fuel = more + 2 := ⟨fuel - 2, by omega⟩
      have inner : readValue more depth ('[' :: (List.replicate depth '[' ++ rest)) =
          .error (.tooDeep .array) := ih (by omega)
      have items : readItems (more + 1) depth ('[' :: (List.replicate depth '[' ++ rest)) =
          .error (.tooDeep .array) := by
        rw [readItems, inner]
        rfl
      change (readItems (more + 1) depth ('[' :: (List.replicate depth '[' ++ rest))).map
        Document.arr = _
      rw [items]
      rfl

/-- A text of more opening brackets than can be read. -/
theorem Document.ofText_deep {number : Nat} (deep : greatestDepth < number) :
    ofText (String.ofList (List.replicate number '[')) = .error (.tooDeep .array) := by
  have split : List.replicate number '[' = List.replicate (greatestDepth + 1) '[' ++
      List.replicate (number - (greatestDepth + 1)) '[' := by
    rw [List.replicate_append_replicate, Nat.add_sub_cancel' (Nat.succ_le_of_lt deep)]
  have start : skipGap (List.replicate number '[') = List.replicate number '[' := by
    obtain ⟨more, rfl⟩ := Nat.exists_eq_add_of_lt deep
    rw [List.replicate_succ]
    rfl
  have read : readValue (2 * number + 2) greatestDepth (List.replicate number '[') =
      .error (.tooDeep .array) := by
    rw [split]
    exact readValue_deep (by omega) _
  simp only [ofText, String.toList_ofList, List.length_replicate, start, read]
  rfl

end ClusterGraph.Json
