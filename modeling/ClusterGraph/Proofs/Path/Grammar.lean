import ClusterGraph.Proofs.Path.Spelling

namespace ClusterGraph.Path

/-! Which expressions are paths. An expression is read exactly where what stands between its white
space and braces divides into proper spellings, of which it has the segments. -/

open Spelling Text

variable {expression : String} {text core rest : List Char} {spellings : List Spelling}
  {length : Nat}

/-- An expression is white space around a core, with a pair of braces and more white space between
them or without. -/
inductive Unwraps (text : List Char) : List Char → Prop
  | bare {core : List Char} (trimmed : IsTrimmed isBlank text core)
      (unopened : core.head? ≠ some '{') (unclosed : core.getLast? ≠ some '}') : Unwraps text core
  | braced {inside core : List Char} (trimmed : IsTrimmed isBlank text ('{' :: (inside ++ ['}'])))
      (inner : IsTrimmed isBlank inside core) : Unwraps text core

def Unbalanced (text : List Char) : Prop :=
  ∃ core, IsTrimmed isBlank text core ∧ ¬ (core.head? = some '{' ↔ core.getLast? = some '}')

/-- A core that starts with a name is read as if it had a dot in front. -/
def withDot (core : List Char) : List Char :=
  if core.head? = some '.' ∨ core.head? = some '[' then core else '.' :: core

theorem unwraps_or_unbalanced (text : List Char) :
    (∃ core, Unwraps text core) ∨ Unbalanced text := by
  have trimmed := isTrimmed_trimBy isBlank text
  by_cases opened : (trimBy isBlank text).head? = some '{'
  · by_cases closed : (trimBy isBlank text).getLast? = some '}'
    · obtain ⟨tail, isOpened⟩ := List.head?_eq_some_iff.mp opened
      rw [isOpened] at closed trimmed
      cases tail with
      | nil => simp at closed
      | cons c others =>
          rw [List.getLast?_cons_cons] at closed
          obtain ⟨inside, isClosed⟩ := List.getLast?_eq_some_iff.mp closed
          rw [isClosed] at trimmed
          exact Or.inl ⟨_, .braced trimmed (isTrimmed_trimBy isBlank inside)⟩
    · exact Or.inr ⟨_, trimmed, by simp [opened, closed]⟩
  · by_cases closed : (trimBy isBlank text).getLast? = some '}'
    · exact Or.inr ⟨_, trimmed, by simp [opened, closed]⟩
    · exact Or.inl ⟨_, .bare trimmed opened closed⟩

theorem body_unwrapped (unwraps : Unwraps expression.toList core) :
    body expression = if core = [] then .error .emptyExpression else .ok (withDot core) := by
  cases unwraps with
  | bare trimmed unopened unclosed =>
      have opened := beq_eq_false_iff_ne.mpr unopened
      have closed := beq_eq_false_iff_ne.mpr unclosed
      simp only [body, trimmed.trimBy_eq, opened, closed]
      cases core <;> simp [withDot]
  | @braced inside _ trimmed inner =>
      have closed : ('{' :: inside ++ ['}']).getLast? = some '}' := List.getLast?_concat
      rw [List.cons_append] at closed
      simp only [body, trimmed.trimBy_eq, List.head?_cons, closed, List.drop_succ_cons,
        List.drop_zero, List.dropLast_concat, inner.trimBy_eq]
      cases core <;> simp [withDot]

theorem body_unbalanced (unbalanced : Unbalanced expression.toList) :
    body expression = .error .unbalancedBraces := by
  obtain ⟨core, trimmed, oneEnd⟩ := unbalanced
  simp only [body, trimmed.trimBy_eq]
  rw [if_pos]
  by_cases opened : core.head? = some '{' <;> by_cases closed : core.getLast? = some '}' <;>
    simp_all

/-- How far a text is read: a proper spelling of its front, of which every position is converted and
every name behind a dot is read to its end. -/
structure Reads (text : List Char) (spellings : List Spelling) (rest : List Char) : Prop where
  isText : text = joined spellings ++ rest
  proper : ∀ each ∈ spellings, each.Proper
  convertible : ∀ each ∈ spellings, each.Convertible
  ends : ∀ last ∈ spellings.getLast?, last.EndsBefore rest

theorem Reads.nothing (text : List Char) : Reads text [] text :=
  ⟨rfl, by simp, by simp, by simp⟩

theorem Reads.cons {spelling : Spelling} (proper : spelling.Proper)
    (convertible : spelling.Convertible) (ends : spelling.EndsBefore text)
    (reads : Reads text spellings rest) :
    Reads (spelling.text ++ text) (spelling :: spellings) rest := by
  constructor
  case isText => rw [joined_cons, List.append_assoc, ← reads.isText]
  case proper => exact List.forall_mem_cons.mpr ⟨proper, reads.proper⟩
  case convertible => exact List.forall_mem_cons.mpr ⟨convertible, reads.convertible⟩
  case ends =>
    cases spellings with
    | nil =>
        intro last isLast
        obtain rfl : spelling = last := by simpa using isLast
        have isText := reads.isText
        rw [joined_nil, List.nil_append] at isText
        rwa [← isText]
    | cons next later =>
        intro last isLast
        rw [List.getLast?_cons_cons] at isLast
        exact reads.ends last isLast

theorem Reads.tail {spelling : Spelling} (reads : Reads text (spelling :: spellings) rest) :
    spelling.EndsBefore (joined spellings ++ rest) ∧
      Reads (joined spellings ++ rest) spellings rest := by
  have proper := List.forall_mem_cons.mp reads.proper
  have convertible := List.forall_mem_cons.mp reads.convertible
  cases spellings with
  | nil => exact ⟨reads.ends spelling rfl, rfl, proper.2, convertible.2, by simp⟩
  | cons next later =>
      refine ⟨?_, rfl, proper.2, convertible.2, fun last isLast => ?_⟩
      · rw [joined_cons, List.append_assoc]
        exact endsBefore_text spelling next _
      · apply reads.ends last
        rwa [List.getLast?_cons_cons]

theorem reads_joined (proper : ∀ each ∈ spellings, each.Proper)
    (convertible : ∀ each ∈ spellings, each.Convertible) : Reads (joined spellings) spellings [] :=
  ⟨(List.append_nil _).symm, proper, convertible, fun last _ => endsBefore_joined last []⟩

theorem readSegments_read {token : Token} (found : readToken text = some (token, rest)) :
    readSegments expression length text = (do
      let segment ← token.segment
      let segments ← readSegments expression length rest
      .ok (segment :: segments)) := by
  cases text with
  | nil => simp [readToken] at found
  | cons c tail =>
      rw [readSegments]
      split
      · rename_i fails
        exact absurd (fails.symm.trans found) (by simp)
      · rename_i other after reads
        cases found.symm.trans reads
        rfl

theorem readSegments_unread {c : Char} {tail : List Char} (fails : readToken (c :: tail) = none) :
    readSegments expression length (c :: tail) =
      .error (.malformed expression (.unexpected c (length - (c :: tail).length))) := by
  rw [readSegments]
  split
  · rfl
  · rename_i reads
    exact absurd (fails.symm.trans reads) (by simp)

theorem Reads.readSegments_eq (reads : Reads text spellings rest) :
    readSegments expression length text =
      (readSegments expression length rest).map (spellings.map Spelling.segment ++ ·) := by
  induction spellings generalizing text with
  | nil =>
      rw [reads.isText, joined_nil, List.nil_append]
      cases readSegments expression length rest <;> rfl
  | cons spelling later ih =>
      obtain ⟨ends, continues⟩ := reads.tail
      have first := readToken_text (reads.proper spelling List.mem_cons_self) ends
      have converts := segment_token (reads.convertible spelling List.mem_cons_self)
      rw [reads.isText, joined_cons, List.append_assoc, readSegments_read first, converts,
        ih continues]
      cases readSegments expression length rest <;> rfl

theorem readSegments_long {negative : Bool} {digits : List Char}
    (proper : (position negative digits).Proper) (long : maxIntegerDigits < digits.length)
    (starts : (position negative digits).text <+: rest) :
    readSegments expression length rest = .error (.positionTooLong digits.length) := by
  obtain ⟨after, rfl⟩ := starts
  rw [readSegments_read (readToken_text proper trivial), segment_token_long long]
  rfl

/-- Reading a text comes to its end, to a position that has too many digits, or to a place where no
segment starts. -/
theorem exists_reads (text : List Char) : ∃ spellings rest, Reads text spellings rest ∧
    (rest = [] ∨
      (∃ negative digits, (position negative digits).Proper ∧ maxIntegerDigits < digits.length ∧
        (position negative digits).text <+: rest) ∨
      ∃ c tail, rest = c :: tail ∧ readToken rest = none) := by
  induction size : text.length using Nat.strong_induction_on generalizing text with
  | h size ih =>
      cases text with
      | nil => exact ⟨[], [], .nothing [], Or.inl rfl⟩
      | cons c tail =>
          cases found : readToken (c :: tail) with
          | none => exact ⟨[], _, .nothing _, Or.inr (Or.inr ⟨c, tail, rfl, found⟩)⟩
          | some result =>
              obtain ⟨token, after⟩ := result
              have shorter := readToken_length found
              obtain ⟨spelling, proper, ends, isText, _⟩ := readToken_eq_some found
              by_cases convertible : spelling.Convertible
              · obtain ⟨later, rest, reads, stop⟩ := ih after.length (by omega) after rfl
                rw [isText]
                exact ⟨spelling :: later, rest, reads.cons proper convertible ends, stop⟩
              · refine ⟨[], _, .nothing _, Or.inr (Or.inl ?_)⟩
                cases spelling with
                | position negative digits =>
                    exact ⟨negative, digits, proper, Nat.not_le.mp convertible, _, isText.symm⟩
                | dotted name => exact absurd trivial convertible
                | quoted quote name => exact absurd trivial convertible
                | wildcard => exact absurd trivial convertible

/-- An expression is spelled by segments when its core, with a dot in front where it starts with a
name, is their text. -/
structure Expresses (expression : String) (spellings : List Spelling) : Prop where
  some : spellings ≠ []
  proper : ∀ each ∈ spellings, each.Proper
  unwraps : ∃ core, Unwraps expression.toList core ∧ withDot core = joined spellings

/-- The expressions that are no paths, each with what is wrong with it: first the braces, then a
core without characters, then the first place where no segment starts or where a position has more
digits than are converted. -/
inductive Refused (expression : String) : Error → Prop
  | unbalanced (braces : Unbalanced expression.toList) :
      Refused expression (.malformed expression .unbalancedBraces)
  | empty (unwraps : Unwraps expression.toList []) :
      Refused expression (.malformed expression .emptyExpression)
  | unexpected {core tail : List Char} {spellings : List Spelling} {c : Char}
      (unwraps : Unwraps expression.toList core) (some : core ≠ [])
      (reads : Reads (withDot core) spellings (c :: tail))
      (unread : ∀ spelling : Spelling, spelling.Proper → ¬ spelling.text <+: c :: tail) :
      Refused expression (.malformed expression (.unexpected c (joined spellings).length))
  | overlong {core rest digits : List Char} {spellings : List Spelling} {negative : Bool}
      (unwraps : Unwraps expression.toList core) (some : core ≠ [])
      (reads : Reads (withDot core) spellings rest)
      (proper : (position negative digits).Proper) (long : maxIntegerDigits < digits.length)
      (starts : (position negative digits).text <+: rest) :
      Refused expression (.positionTooLong digits.length)

theorem core_ne_nil (some : spellings ≠ []) (proper : ∀ each ∈ spellings, each.Proper)
    (isText : withDot core = joined spellings) : core ≠ [] := by
  rintro rfl
  obtain ⟨spelling, later, rfl⟩ := List.exists_cons_of_ne_nil some
  have dot : ['.'] = spelling.text ++ joined later := isText
  have properFirst := proper spelling List.mem_cons_self
  cases spelling with
  | dotted name => simp [Spelling.text, properFirst.1] at dot
  | quoted quote name => simp [Spelling.text] at dot
  | wildcard => simp [Spelling.text] at dot
  | position negative digits => simp [Spelling.text] at dot

theorem ofText_unwrapped (unwraps : Unwraps expression.toList core) (some : core ≠ []) :
    ofText expression =
      (readSegments expression (withDot core).length (withDot core)).map (⟨expression, ·⟩) := by
  rw [ofText, body_unwrapped unwraps, if_neg some]

theorem ofText_expressed (expresses : Expresses expression spellings)
    (convertible : ∀ each ∈ spellings, each.Convertible) :
    ofText expression = .ok ⟨expression, spellings.map Spelling.segment⟩ := by
  obtain ⟨core, unwraps, isText⟩ := expresses.unwraps
  have some := core_ne_nil expresses.some expresses.proper isText
  have reads := reads_joined expresses.proper convertible
  rw [ofText_unwrapped unwraps some, isText, reads.readSegments_eq, readSegments]
  simp [Except.map]

theorem ofText_refused {failure : Error} (refused : Refused expression failure) :
    ofText expression = .error failure := by
  cases refused with
  | unbalanced braces => rw [ofText, body_unbalanced braces]
  | empty unwraps => rw [ofText, body_unwrapped unwraps, if_pos rfl]
  | @unexpected core tail spellings c unwraps some reads unread =>
      have offset : (withDot core).length - (c :: tail).length = (joined spellings).length := by
        rw [reads.isText, List.length_append, Nat.add_sub_cancel]
      rw [ofText_unwrapped unwraps some, reads.readSegments_eq,
        readSegments_unread (readToken_eq_none_iff.mpr unread), offset]
      rfl
  | overlong unwraps some reads proper long starts =>
      rw [ofText_unwrapped unwraps some, reads.readSegments_eq,
        readSegments_long proper long starts]
      rfl

theorem expressed_or_refused (expression : String) :
    (∃ spellings, Expresses expression spellings ∧ ∀ each ∈ spellings, each.Convertible) ∨
      ∃ failure, Refused expression failure := by
  rcases unwraps_or_unbalanced expression.toList with ⟨core, unwraps⟩ | braces
  · by_cases some : core = []
    · subst some
      exact Or.inr ⟨_, .empty unwraps⟩
    · obtain ⟨spellings, rest, reads, rfl | ⟨negative, digits, proper, long, starts⟩ |
        ⟨c, tail, rfl, fails⟩⟩ := exists_reads (withDot core)
      · have isText := reads.isText
        rw [List.append_nil] at isText
        refine Or.inl ⟨spellings, ⟨?_, reads.proper, core, unwraps, isText⟩, reads.convertible⟩
        rintro rfl
        have nonempty : withDot core ≠ [] := by
          unfold withDot
          split <;> simp [some]
        exact nonempty isText
      · exact Or.inr ⟨_, .overlong unwraps some reads proper long starts⟩
      · exact Or.inr ⟨_, .unexpected unwraps some reads (readToken_eq_none_iff.mp fails)⟩
  · exact Or.inr ⟨_, .unbalanced braces⟩

theorem ofText_eq_ok_iff {path : Path} : ofText expression = .ok path ↔
    ∃ spellings, Expresses expression spellings ∧ (∀ each ∈ spellings, each.Convertible) ∧
      path = ⟨expression, spellings.map Spelling.segment⟩ := by
  constructor
  · intro read
    rcases expressed_or_refused expression with ⟨spellings, expresses, convertible⟩ | ⟨_, refused⟩
    · rw [ofText_expressed expresses convertible] at read
      exact ⟨spellings, expresses, convertible, (Except.ok.inj read).symm⟩
    · rw [ofText_refused refused] at read
      contradiction
  · rintro ⟨spellings, expresses, convertible, rfl⟩
    exact ofText_expressed expresses convertible

theorem ofText_eq_error_iff {failure : Error} :
    ofText expression = .error failure ↔ Refused expression failure := by
  constructor
  · intro read
    rcases expressed_or_refused expression with ⟨spellings, expresses, convertible⟩ | ⟨_, refused⟩
    · rw [ofText_expressed expresses convertible] at read
      contradiction
    · rw [ofText_refused refused] at read
      rwa [← Except.error.inj read]
  · exact ofText_refused

theorem Expresses.unique {first second : List Spelling} (firstSpelled : Expresses expression first)
    (secondSpelled : Expresses expression second) : first = second := by
  obtain ⟨firstCore, firstUnwraps, firstText⟩ := firstSpelled.unwraps
  obtain ⟨secondCore, secondUnwraps, secondText⟩ := secondSpelled.unwraps
  have same := body_unwrapped firstUnwraps
  rw [body_unwrapped secondUnwraps,
    if_neg (core_ne_nil firstSpelled.some firstSpelled.proper firstText),
    if_neg (core_ne_nil secondSpelled.some secondSpelled.proper secondText)] at same
  apply joined_injective firstSpelled.proper secondSpelled.proper
  rw [← firstText, ← secondText, Except.ok.inj same]

end ClusterGraph.Path
