import ClusterGraph.Proofs.Path.Grammar
import ClusterGraph.Proofs.Text.Decimal

namespace ClusterGraph

/-! Segments written out, and read back from what is written. -/

open ClusterGraph.Path

namespace Path.Spelling

/-- A name stands behind a dot where its characters allow it, and else between quotes that it does
not contain. -/
def ofName (name : List Char) : Spelling :=
  if name ≠ [] ∧ name.all isKeyChar = true then .dotted name
  else .quoted (if '\'' ∈ name then '"' else '\'') name

variable {name : List Char}

theorem segment_ofName (name : List Char) : (ofName name).segment = .key (String.ofList name) := by
  unfold ofName
  split <;> rfl

theorem proper_ofName (writable : ¬ ('\'' ∈ name ∧ '"' ∈ name)) : (ofName name).Proper := by
  unfold ofName
  split
  · rename_i plain
    exact ⟨plain.1, List.all_eq_true.mp plain.2⟩
  · by_cases single : '\'' ∈ name
    · rw [if_pos single]
      exact ⟨Or.inr rfl, fun double => writable ⟨single, double⟩⟩
    · rw [if_neg single]
      exact ⟨Or.inl rfl, single⟩

theorem convertible_ofName (name : List Char) : (ofName name).Convertible := by
  unfold ofName
  split <;> trivial

end Path.Spelling

namespace Segment

def spelling : Segment → Spelling
  | .key name => .ofName name.toList
  | .wildcard => .wildcard
  | .index position => .position (decide (position < 0)) (Nat.toDigits 10 position.natAbs)

/-- A key with both quotes cannot be written. -/
def Writable : Segment → Prop
  | .key name => ¬ ('\'' ∈ name.toList ∧ '"' ∈ name.toList)
  | _ => True

/-- A position is written with as many digits as are converted. -/
def Short : Segment → Prop
  | .index position => position.natAbs < 10 ^ Text.maxIntegerDigits
  | _ => True

variable {segment : Segment}

theorem segment_spelling (segment : Segment) : segment.spelling.segment = segment := by
  cases segment with
  | key name => rw [spelling, Spelling.segment_ofName, String.ofList_toList]
  | wildcard => rfl
  | index position =>
      simp only [spelling, Spelling.segment, Text.digitsValue_toDigits, decide_eq_true_eq]
      congr 1
      split <;> omega

theorem proper_spelling (writable : segment.Writable) : segment.spelling.Proper := by
  cases segment with
  | key name => exact Spelling.proper_ofName writable
  | wildcard => trivial
  | index position =>
      exact ⟨Nat.toDigits_ne_nil, Text.isDigit_toDigits _⟩

theorem convertible_spelling_iff : segment.spelling.Convertible ↔ segment.Short := by
  cases segment with
  | key name => exact iff_of_true (Spelling.convertible_ofName _) trivial
  | wildcard => exact Iff.rfl
  | index position => exact Nat.length_toDigits_le_iff (by decide) (by decide)

end Segment

namespace Path

variable {spelling : Spelling} {spellings : List Spelling} {segments : List Segment}

theorem isKeyChar_stays {c : Char} (keyChar : isKeyChar c = true) :
    Text.isBlank c = false ∧ c ≠ '}' := by
  have code : c.toNat = c.val.toNat := rfl
  have ascii : (((decide (65 ≤ c.val ∧ c.val ≤ 90) || (97 ≤ c.val && c.val ≤ 122)) ||
      (48 ≤ c.val && c.val ≤ 57)) || c == '_' || c == '-') = true := keyChar
  have ranges : c.toNat = 45 ∨ c.toNat = 95 ∨ (48 ≤ c.toNat ∧ c.toNat ≤ 57) ∨
      (65 ≤ c.toNat ∧ c.toNat ≤ 90) ∨ (97 ≤ c.toNat ∧ c.toNat ≤ 122) := by
    simp only [Bool.or_eq_true, Bool.and_eq_true, decide_eq_true_eq, beq_iff_eq,
      UInt32.le_iff_toNat_le, UInt32.reduceToNat] at ascii
    rcases ascii with (((upper | lower) | digit) | rfl) | rfl
    · omega
    · omega
    · omega
    · exact Or.inr (Or.inl rfl)
    · exact Or.inl rfl
  constructor
  · simp only [Text.isBlank, Bool.or_eq_false_iff, Bool.and_eq_false_iff, decide_eq_false_iff_not,
      beq_eq_false_iff_ne]
    omega
  · rintro rfl
    contradiction

namespace Spelling

/-- The last character of a segment closes a bracket or belongs to a name. -/
theorem getLast?_text (proper : spelling.Proper) :
    ∃ c, spelling.text.getLast? = some c ∧ Text.isBlank c = false ∧ c ≠ '}' := by
  have closed : ∀ chars : List Char, (chars ++ [']']).getLast? = some ']' :=
    fun chars => List.getLast?_concat
  cases spelling with
  | dotted name =>
      obtain ⟨some, inside⟩ := proper
      refine ⟨name.getLast some, ?_, isKeyChar_stays (inside _ (List.getLast_mem some))⟩
      simp [text, List.getLast?_cons, List.getLast?_eq_some_getLast some]
  | quoted quote name =>
      refine ⟨']', ?_, by decide⟩
      simpa [text] using closed ('[' :: quote :: (name ++ [quote]))
  | wildcard => exact ⟨']', rfl, by decide⟩
  | position negative digits =>
      refine ⟨']', ?_, by decide⟩
      simpa [text] using closed ('[' :: ((if negative then ['-'] else []) ++ digits))

end Spelling

open Spelling

/-- Spelled segments need neither white space nor braces nor a dot in front. -/
theorem expresses_joined (some : spellings ≠ []) (proper : ∀ each ∈ spellings, each.Proper) :
    Expresses (String.ofList (joined spellings)) spellings := by
  obtain ⟨first, later, isFirst⟩ := List.exists_cons_of_ne_nil some
  obtain ⟨front, last, isLast⟩ := (List.eq_nil_or_concat' spellings).resolve_left some
  obtain ⟨mark, others, startsWith, isMark⟩ := first.text_eq_cons
  obtain ⟨c, endsWith, notBlank, notBrace⟩ := Spelling.getLast?_text (proper last (by simp [isLast]))
  have head : (joined spellings).head? = .some mark := by
    rw [isFirst, joined_cons, startsWith]
    rfl
  have final : (joined spellings).getLast? = .some c := by
    rw [isLast, joined, List.flatMap_append, List.flatMap_singleton, List.getLast?_append, endsWith]
    rfl
  have trimmed : Text.IsTrimmed Text.isBlank (joined spellings) (joined spellings) := by
    constructor
    case around => exact ⟨[], [], by simp, by simp, by simp⟩
    case first =>
      have markNotBlank : Text.isBlank mark = false := by
        rcases isMark with rfl | rfl <;> decide
      rw [head]
      simpa using markNotBlank
    case last =>
      rw [final]
      simpa using notBlank
  refine ⟨some, proper, joined spellings, ?_, ?_⟩
  · rw [String.toList_ofList]
    apply Unwraps.bare trimmed
    · rw [head]
      rcases isMark with rfl | rfl <;> decide
    · rw [final]
      simpa using notBrace
  · rcases isMark with rfl | rfl <;> simp [withDot, head]

def render (segments : List Segment) : String :=
  String.ofList (joined (segments.map Segment.spelling))

theorem ofText_render_iff (some : segments ≠ []) (writable : ∀ each ∈ segments, each.Writable) :
    ofText (render segments) = .ok ⟨render segments, segments⟩ ↔
      ∀ each ∈ segments, each.Short := by
  have expresses : Expresses (render segments) (segments.map Segment.spelling) := by
    apply expresses_joined (by simpa using some)
    exact List.forall_mem_map.mpr fun each member => Segment.proper_spelling (writable each member)
  have same : (segments.map Segment.spelling).map Spelling.segment = segments := by
    simp [List.map_map, Function.comp_def, Segment.segment_spelling]
  have short : (∀ each ∈ segments.map Segment.spelling, each.Convertible) ↔
      ∀ each ∈ segments, each.Short := by
    simp only [List.forall_mem_map, Segment.convertible_spelling_iff]
  rw [← short, ofText_eq_ok_iff]
  constructor
  · rintro ⟨spellings, spelled, convertible, _⟩
    rwa [expresses.unique spelled]
  · intro convertible
    exact ⟨_, expresses, convertible, by rw [same]⟩

/-- How an expression is read, told by its spelling. -/
structure ReadsGrammar (expression : String) : Prop where
  accepts : ∀ path, ofText expression = .ok path ↔
    ∃ spellings, Expresses expression spellings ∧ (∀ each ∈ spellings, each.Convertible) ∧
      path = ⟨expression, spellings.map Spelling.segment⟩
  unique : ∀ first second, Expresses expression first → Expresses expression second → first = second
  refuses : ∀ failure, ofText expression = .error failure ↔ Refused expression failure

/-- The expressions that are read are those of the grammar whose positions are converted, each in
one way; every other one fails for what is wrong with it. All segments that can be written are read
back from what is written. -/
theorem ofText_readsGrammar (expression : String) : ReadsGrammar expression ∧
    ∀ segments : List Segment, segments ≠ [] → (∀ each ∈ segments, each.Writable) →
      (ofText (render segments) = .ok ⟨render segments, segments⟩ ↔
        ∀ each ∈ segments, each.Short) := by
  constructor
  · exact ⟨fun path => ofText_eq_ok_iff, fun first second => Expresses.unique,
      fun failure => ofText_eq_error_iff⟩
  · intro segments some writable
    exact ofText_render_iff some writable

/-- Keys of all kinds, and a position from the end. -/
def manyKinds : List Segment :=
  [.key "spec", .key "it's", .wildcard, .index (-12), .key "a\"]b", .key ""]

theorem writable_manyKinds : ∀ each ∈ manyKinds, each.Writable := by
  simp only [manyKinds, List.forall_mem_cons, Segment.Writable]
  exact ⟨by decide, by decide, trivial, trivial, by decide, by decide, by simp⟩

theorem short_manyKinds : ∀ each ∈ manyKinds, each.Short := by
  have enough : 12 < 10 ^ Text.maxIntegerDigits :=
    Nat.lt_of_lt_of_le (by decide : 12 < 10 ^ 2) (Nat.pow_le_pow_right (by decide) (by decide))
  simp only [manyKinds, List.forall_mem_cons, Segment.Short]
  exact ⟨trivial, trivial, trivial, enough, trivial, trivial, by simp⟩

theorem ofText_readsGrammar_manyKinds :
    manyKinds ≠ [] ∧ (∀ each ∈ manyKinds, each.Writable) ∧
      render manyKinds = ".spec[\"it's\"][*][-12]['a\"]b']['']" ∧
      ofText (render manyKinds) = .ok ⟨render manyKinds, manyKinds⟩ ∧
      ReadsGrammar (render manyKinds) := by
  obtain ⟨reads, readBack⟩ := ofText_readsGrammar (render manyKinds)
  have written := readBack manyKinds (by decide) writable_manyKinds
  exact ⟨by decide, writable_manyKinds, by decide +kernel, written.mpr short_manyKinds, reads⟩

def longPosition : List Spelling :=
  [.position false (List.replicate (Text.maxIntegerDigits + 1) '1')]

/-- An expression of the grammar that fails, and not as a malformed one. -/
theorem longPosition_unread : Expresses (String.ofList (joined longPosition)) longPosition ∧
    ofText (String.ofList (joined longPosition)) = .error (.positionTooLong 4301) := by
  have proper : ∀ each ∈ longPosition, each.Proper := by
    simp only [longPosition, List.forall_mem_singleton]
    refine ⟨by simp, fun c member => ?_⟩
    rw [(List.mem_replicate.mp member).2]
    decide +kernel
  have expresses := expresses_joined (by simp [longPosition]) proper
  obtain ⟨core, unwraps, isText⟩ := expresses.unwraps
  refine ⟨expresses, ?_⟩
  have refused := Refused.overlong unwraps (core_ne_nil expresses.some proper isText)
    (.nothing (withDot core)) (proper _ List.mem_cons_self) (by simp)
    (isText ▸ ⟨[], rfl⟩)
  rw [List.length_replicate] at refused
  exact ofText_refused refused

end Path

end ClusterGraph
