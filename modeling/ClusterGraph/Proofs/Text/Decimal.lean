import ClusterGraph.Proofs.Calendar.StampReadBack
import ClusterGraph.Text.Integer

namespace ClusterGraph.Text

/-! Whole numbers in decimal digits, and read back from them. -/

variable {c : Char} {digits : List Char} {value : Nat}

theorem isAsciiDigit_toDigits (value : Nat) :
    ∀ c ∈ Nat.toDigits 10 value, Calendar.Timestamp.isAsciiDigit c = true := by
  intro c member
  apply Calendar.isAsciiDigit_of_isDigit
  exact Nat.isDigit_of_mem_toDigits (by decide) (by decide) member

theorem isDigit_toDigits (value : Nat) : ∀ c ∈ Nat.toDigits 10 value, isDigit c = true := by
  intro c member
  rw [isDigit, Calendar.digitValue?_ascii (isAsciiDigit_toDigits _ c member)]
  rfl

theorem digitsValue_toDigits (value : Nat) : digitsValue (Nat.toDigits 10 value) = value := by
  rw [Calendar.digitsValue_eq (isAsciiDigit_toDigits value), Nat.ofDigitChars_ten_toDigits]

/-- A digit is neither white space nor a sign. -/
theorem isAsciiDigit_starts (digit : Calendar.Timestamp.isAsciiDigit c = true) :
    isNumberBlank c = false ∧ c ≠ '-' ∧ c ≠ '+' := by
  have bounds : 48 ≤ c.toNat ∧ c.toNat ≤ 57 := by
    simpa [Calendar.Timestamp.isAsciiDigit, Char.le_def, UInt32.le_iff_toNat_le] using digit
  refine ⟨?_, ?_, ?_⟩
  · simp only [isNumberBlank, isBlank, Bool.and_eq_false_iff, Bool.or_eq_false_iff,
      decide_eq_false_iff_not, beq_eq_false_iff_ne]
    omega
  · rintro rfl
    exact absurd bounds (by decide)
  · rintro rfl
    exact absurd bounds (by decide)

theorem digitGroups_digits (all : ∀ c ∈ digits, isDigit c = true) (joined : Bool) :
    digitGroups joined digits = (digits, []) := by
  induction digits generalizing joined with
  | nil => rfl
  | cons c rest ih =>
      obtain ⟨digit, others⟩ := List.forall_mem_cons.mp all
      rw [digitGroups, if_pos digit, ih others]

/-- A number is read back from its digits if these are few enough to be converted. -/
theorem readInteger_toString (short : value < 10 ^ maxIntegerDigits) :
    readInteger (toString value) = .ok (value : Int) := by
  have few : ¬ maxIntegerDigits < (Nat.toDigits 10 value).length :=
    Nat.not_lt.mpr ((Nat.length_toDigits_le_iff (by decide) (by decide)).mpr short)
  obtain ⟨first, others, shape⟩ :=
    List.exists_cons_of_ne_nil (Nat.toDigits_ne_nil (n := value) (b := 10))
  obtain ⟨notBlank, notMinus, notPlus⟩ := isAsciiDigit_starts
    (isAsciiDigit_toDigits value first (shape ▸ List.mem_cons_self))
  have start : (Nat.toDigits 10 value).dropWhile isNumberBlank = Nat.toDigits 10 value := by
    rw [shape, List.dropWhile_cons_of_neg (by simp [notBlank])]
  have unsigned : splitSign (Nat.toDigits 10 value) = (false, Nat.toDigits 10 value) := by
    rw [shape]
    unfold splitSign
    split <;> simp_all
  have groups := digitGroups_digits (isDigit_toDigits value) false
  have some : (Nat.toDigits 10 value).isEmpty = false := by rw [shape]; rfl
  simp [readInteger, start, unsigned, groups, some, few, digitsValue_toDigits]

end ClusterGraph.Text
