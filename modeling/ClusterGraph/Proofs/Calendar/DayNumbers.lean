import ClusterGraph.Calendar.Date
import Mathlib.Algebra.GroupWithZero.Nat
import Mathlib.Data.List.GetD

namespace ClusterGraph.Calendar.Date

/-! Days and dates. A number of days becomes the date that has this number, and the calendar has
that date. -/

def yearLength (year : Nat) : Nat :=
  if isLeap year then 366 else 365

/-- The parts of a number of days: four centuries, centuries, four years and years that are over,
and the days of the year that is not. -/
structure Parts (number cycles centuries fours years days : Nat) : Prop where
  centuries_le : centuries ≤ 3
  fours_le : fours ≤ 24
  years_le : years ≤ 3
  counts : number = 146097 * cycles + 36524 * centuries + 1461 * fours + 365 * years + days
  /-- Only the last year of four has a day more, unless it ends a century that is not the last of
  four. -/
  days_lt : days < 365 ∨ days = 365 ∧ years = 3 ∧ (fours = 24 → centuries = 3)

theorem yearOf_parts (number : Nat) : ∃ cycles centuries fours years days,
    Parts number cycles centuries fours years days ∧
      yearOf number = (400 * cycles + 100 * centuries + 4 * fours + years + 1, days) := by
  refine ⟨_, _, _, _, _, ?_, rfl⟩
  constructor <;> omega

namespace Parts

variable {number cycles centuries fours years days : Nat}

theorem daysBeforeYear_eq (parts : Parts number cycles centuries fours years days) :
    daysBeforeYear (400 * cycles + 100 * centuries + 4 * fours + years + 1) + days = number := by
  obtain ⟨centuriesLe, foursLe, yearsLe, counts, _⟩ := parts
  unfold daysBeforeYear
  omega

theorem days_lt_yearLength (parts : Parts number cycles centuries fours years days) :
    days < yearLength (400 * cycles + 100 * centuries + 4 * fours + years + 1) := by
  obtain ⟨centuriesLe, foursLe, yearsLe, _, short | ⟨long, last, century⟩⟩ := parts
  · unfold yearLength
    split <;> omega
  · have leap : isLeap (400 * cycles + 100 * centuries + 4 * fours + years + 1) = true := by
      simp only [isLeap, Bool.and_eq_true, Bool.or_eq_true, beq_iff_eq, bne_iff_ne]
      omega
    rw [yearLength, leap, if_pos rfl]
    omega

theorem year_le (parts : Parts number cycles centuries fours years days)
    (counted : number < dayCount) :
    400 * cycles + 100 * centuries + 4 * fours + years + 1 ≤ lastYear := by
  obtain ⟨centuriesLe, foursLe, yearsLe, counts, _⟩ := parts
  unfold dayCount at counted
  unfold lastYear
  omega

end Parts

theorem sum_monthLengths (year : Nat) : (monthLengths year).sum = yearLength year := by
  unfold monthLengths yearLength
  split <;> rfl

/-- A day within some months lies in one of them, behind the months before it. -/
theorem monthOf_spec {lengths : List Nat} {days : Nat} (within : days < lengths.sum) :
    1 ≤ (monthOf lengths days).1 ∧
      (monthOf lengths days).2 < lengths.getD ((monthOf lengths days).1 - 1) 0 ∧
      (lengths.take ((monthOf lengths days).1 - 1)).sum + (monthOf lengths days).2 = days := by
  induction lengths generalizing days with
  | nil => simp at within
  | cons length rest ih =>
      unfold monthOf
      split
      · rename_i inside
        exact ⟨Nat.le_refl _, inside, by simp⟩
      · rename_i behind
        rw [List.sum_cons] at within
        have later : days - length < rest.sum := by omega
        obtain ⟨month, inside, before⟩ := ih later
        obtain ⟨earlier, isMonth⟩ := Nat.exists_eq_add_of_le' month
        simp only [isMonth, Nat.add_sub_cancel, List.getD_cons_succ, List.take_succ_cons,
          List.sum_cons] at inside before ⊢
        exact ⟨by omega, inside, by omega⟩

/-- The date of a day has its number, and the calendar has it. -/
theorem ofNumber_spec {number : Nat} (counted : number < dayCount) :
    (ofNumber number).number = number ∧ (ofNumber number).isValid = true := by
  obtain ⟨cycles, centuries, fours, years, days, parts, isYear⟩ := yearOf_parts number
  have inYears := parts.year_le counted
  have before := parts.daysBeforeYear_eq
  have within := parts.days_lt_yearLength
  generalize year : 400 * cycles + 100 * centuries + 4 * fours + years + 1 = year at *
  rw [← sum_monthLengths] at within
  obtain ⟨month, inMonth, beforeMonth⟩ := monthOf_spec within
  have isSum (lengths : List Nat) : lengths.foldl Nat.add 0 = lengths.sum :=
    List.sum_eq_foldl.symm
  simp only [ofNumber, isYear]
  constructor
  · simp only [Date.number, isSum]
    omega
  · simp only [isValid, monthLength, Bool.and_eq_true, decide_eq_true_eq]
    rw [if_neg (by omega)]
    omega

theorem isValid_iff {date : Date} : date.isValid = true ↔
    1 ≤ date.year ∧ date.year ≤ lastYear ∧ 1 ≤ date.day ∧
      date.day ≤ monthLength date.year date.month := by
  simp only [isValid, Bool.and_eq_true, decide_eq_true_eq, and_assoc]

/-- There is a month with this number, as it has days. -/
theorem month_of_isValid {date : Date} (valid : date.isValid = true) :
    1 ≤ date.month ∧ date.month ≤ 12 ∧ date.day ≤ 31 := by
  obtain ⟨_, _, first, last⟩ := isValid_iff.mp valid
  unfold monthLength at last
  split at last
  · omega
  · rename_i isMonth
    have bounded : ∀ length ∈ monthLengths date.year, length ≤ 31 := by
      unfold monthLengths
      split <;> decide
    by_cases few : date.month - 1 < (monthLengths date.year).length
    · rw [List.getD_eq_getElem _ _ few] at last
      have short := bounded _ (List.getElem_mem few)
      have twelve : (monthLengths date.year).length = 12 := rfl
      omega
    · rw [List.getD_eq_default _ _ (by omega)] at last
      omega

end ClusterGraph.Calendar.Date
