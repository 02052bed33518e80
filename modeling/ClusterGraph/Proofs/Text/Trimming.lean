import ClusterGraph.Text.Blank
import Mathlib.Data.List.TakeWhile

namespace ClusterGraph.Text

/-! Runs of characters of a class, and what trimming leaves of a text: all of it but such runs at
its two ends. -/

variable {keep drop : Char → Bool} {text run rest core : List Char}

theorem takeWhile_until (inside : ∀ c ∈ run, keep c = true)
    (boundary : ∀ c ∈ rest.head?, keep c = false) : (run ++ rest).takeWhile keep = run := by
  rw [List.takeWhile_append_of_pos inside]
  cases rest with
  | nil => exact List.append_nil run
  | cons c tail =>
      have other : ¬ keep c = true := by simp [boundary c rfl]
      rw [List.takeWhile_cons_of_neg other, List.append_nil]

theorem dropWhile_until (inside : ∀ c ∈ run, keep c = true)
    (boundary : ∀ c ∈ rest.head?, keep c = false) : (run ++ rest).dropWhile keep = rest := by
  rw [List.dropWhile_append_of_pos inside]
  cases rest with
  | nil => rfl
  | cons c tail =>
      have other : ¬ keep c = true := by simp [boundary c rfl]
      exact List.dropWhile_cons_of_neg other

theorem head?_dropWhile (text : List Char) :
    ∀ c ∈ (text.dropWhile drop).head?, drop c = false := by
  intro c isFirst
  have stops := List.head?_dropWhile_not drop text
  rw [Option.mem_def.mp isFirst] at stops
  simpa using stops

/-- Characters of the class stand on both sides of the core, which has none of them at its ends. -/
structure IsTrimmed (drop : Char → Bool) (text core : List Char) : Prop where
  around : ∃ front back, text = front ++ core ++ back ∧
    (∀ c ∈ front, drop c = true) ∧ ∀ c ∈ back, drop c = true
  first : ∀ c ∈ core.head?, drop c = false
  last : ∀ c ∈ core.getLast?, drop c = false

theorem IsTrimmed.trimBy_eq (trimmed : IsTrimmed drop text core) : trimBy drop text = core := by
  obtain ⟨front, back, rfl, inFront, inBack⟩ := trimmed.around
  rw [trimBy, List.append_assoc]
  cases core with
  | nil =>
      have all : ∀ c ∈ front ++ back, drop c = true :=
        fun c member => (List.mem_append.mp member).elim (inFront c) (inBack c)
      rw [List.nil_append, List.dropWhile_eq_nil_iff.mpr all]
      rfl
  | cons c others =>
      have behind : ∀ c ∈ back.reverse, drop c = true := by simpa using inBack
      have ends : ∀ last ∈ (c :: others).reverse.head?, drop last = false := by
        rw [List.head?_reverse]
        exact trimmed.last
      rw [dropWhile_until inFront (by simpa using trimmed.first), List.reverse_append,
        dropWhile_until behind ends, List.reverse_reverse]

theorem isTrimmed_trimBy (drop : Char → Bool) (text : List Char) :
    IsTrimmed drop text (trimBy drop text) := by
  have split : text.dropWhile drop =
      trimBy drop text ++ ((text.dropWhile drop).reverse.takeWhile drop).reverse := by
    rw [trimBy, ← List.reverse_append, List.takeWhile_append_dropWhile, List.reverse_reverse]
  constructor
  case around =>
    refine ⟨text.takeWhile drop, ((text.dropWhile drop).reverse.takeWhile drop).reverse, ?_, ?_, ?_⟩
    · rw [List.append_assoc, ← split, List.takeWhile_append_dropWhile]
    · exact fun c member => List.mem_takeWhile_imp member
    · intro c member
      exact List.mem_takeWhile_imp (List.mem_reverse.mp member)
  case first =>
    intro c isFirst
    apply head?_dropWhile text
    rw [split, Option.mem_def, List.head?_append, Option.mem_def.mp isFirst]
    rfl
  case last =>
    intro c isLast
    apply head?_dropWhile (text.dropWhile drop).reverse
    rwa [trimBy, List.getLast?_reverse] at isLast

theorem mem_of_mem_trimBy {c : Char} (member : c ∈ trimBy drop text) : c ∈ text := by
  obtain ⟨front, back, isText, _⟩ := (isTrimmed_trimBy drop text).around
  rw [isText]
  simp [member]

/-- What is trimmed stays as it is. -/
theorem trimBy_again (drop : Char → Bool) (text : List Char) :
    trimBy drop (trimBy drop text) = trimBy drop text := by
  have trimmed := isTrimmed_trimBy drop text
  exact IsTrimmed.trimBy_eq ⟨⟨[], [], by simp, by simp, by simp⟩, trimmed.first, trimmed.last⟩

end ClusterGraph.Text
