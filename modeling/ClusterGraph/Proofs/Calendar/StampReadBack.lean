import ClusterGraph.Calendar.Reader
import ClusterGraph.Proofs.Calendar.DayNumbers
import Mathlib.Data.List.Basic

namespace ClusterGraph.Calendar

/-! Stamps in universal time are read back from their texts, to the microsecond. -/

theorem digitValue?_ascii {c : Char} (digit : Timestamp.isAsciiDigit c = true) :
    Text.digitValue? c = some (c.toNat - 48) := by
  have bounds : 48 ≤ c.toNat ∧ c.toNat ≤ 57 := by
    simpa [Timestamp.isAsciiDigit, Char.le_def, UInt32.le_iff_toNat_le] using digit
  have first : Text.decimalZeros.find? (fun start => start ≤ c.toNat && c.toNat < start + 10) =
      some 48 := by
    refine List.find?_cons_of_pos ?_
    simp only [Bool.and_eq_true, decide_eq_true_eq]
    omega
  rw [Text.digitValue?, first]
  rfl

/-- Some characters are as many decimal digits and denote a number. -/
structure IsNumeral (width value : Nat) (chars : List Char) : Prop where
  length : chars.length = width
  digits : ∀ c ∈ chars, Timestamp.isAsciiDigit c = true
  value : Text.digitsValue chars = value

theorem digitsValue_eq {chars : List Char}
    (digits : ∀ c ∈ chars, Timestamp.isAsciiDigit c = true) :
    Text.digitsValue chars = Nat.ofDigitChars 10 chars 0 := by
  rw [Text.digitsValue, Nat.ofDigitChars_eq_foldl]
  refine List.foldl_ext _ _ _ fun value c member => ?_
  rw [digitValue?_ascii (digits c member), Nat.mul_comm]
  rfl

theorem isAsciiDigit_of_isDigit {c : Char} (digit : c.isDigit = true) :
    Timestamp.isAsciiDigit c = true := by
  simpa [Timestamp.isAsciiDigit, Char.isDigit, Char.le_def] using digit

namespace Timestamp

theorem isNumeral_padded {width value : Nat} (some : 0 < width) (fits : value < 10 ^ width) :
    IsNumeral width value (padded width value) := by
  have short : (Nat.toDigits 10 value).length ≤ width :=
    (Nat.length_toDigits_le_iff (by decide) some).mpr fits
  have digits : ∀ c ∈ padded width value, isAsciiDigit c = true := by
    intro c member
    rcases List.mem_append.mp member with zero | digit
    · rw [(List.mem_replicate.mp zero).2]
      rfl
    · exact isAsciiDigit_of_isDigit
        (Nat.isDigit_of_mem_toDigits (by decide) (by decide) digit)
  refine ⟨?_, digits, ?_⟩
  · simp only [padded, List.length_append, List.length_replicate]
    omega
  · rw [digitsValue_eq digits, padded, Nat.ofDigitChars_append, Nat.ofDigitChars_replicate_zero,
      Nat.mul_zero, Nat.ofDigitChars_ten_toDigits]

end Timestamp

namespace IsNumeral

variable {width value : Nat} {chars : List Char}

theorem read (numeral : IsNumeral width value chars) (rest : List Char) :
    Timestamp.readDigits width (chars ++ rest) = some (value, rest) := by
  have start : (chars ++ rest).take width = chars := by
    rw [← numeral.length, List.take_left]
  have behind : (chars ++ rest).drop width = rest := by
    rw [← numeral.length, List.drop_left]
  have all : (chars.length == width && chars.all Timestamp.isAsciiDigit) = true := by
    simp only [numeral.length, beq_self_eq_true, Bool.true_and]
    exact List.all_eq_true.mpr numeral.digits
  simp only [Timestamp.readDigits, start, behind, all, if_true, numeral.value]

theorem exists_first (numeral : IsNumeral width value chars) (some : 0 < width) :
    ∃ first others, chars = first :: others ∧ Timestamp.isAsciiDigit first = true := by
  cases chars with
  | nil => exact absurd numeral.length (by simpa using Nat.ne_of_lt some)
  | cons first others => exact ⟨first, others, rfl, numeral.digits first List.mem_cons_self⟩

end IsNumeral

namespace Timestamp

variable {date : Date} {micros : Nat}

/-- A date as it is written in front of the time. -/
def dateChars (date : Date) : List Char :=
  padded 4 date.year ++ '-' :: (padded 2 date.month ++ '-' :: padded 2 date.day)

/-- The fields of a clock at some microseconds since midnight. -/
def fieldsAt (micros : Nat) : ClockFields where
  hour := micros / microsPerSecond / 3600
  minute := micros / microsPerSecond / 60 % 60
  second := micros / microsPerSecond % 60
  micros := micros % microsPerSecond

def fractionChars (fraction : Nat) : List Char :=
  if fraction = 0 then [] else '.' :: padded 6 fraction

/-- A clock as it is written between the date and the offset. -/
def clockChars (micros : Nat) : List Char :=
  padded 2 (fieldsAt micros).hour ++ ':' :: (padded 2 (fieldsAt micros).minute ++
    ':' :: (padded 2 (fieldsAt micros).second ++ fractionChars (fieldsAt micros).micros))

theorem chars_utc {stamp : Timestamp} (utc : stamp.offset = some 0) :
    stamp.chars = dateChars (Date.ofNumber stamp.day) ++
      'T' :: (clockChars stamp.micros ++ "+00:00".toList) := by
  have offset : offsetText 0 = "+00:00".toList := by decide
  simp only [chars, utc, offset, dateChars, clockChars, fractionChars, List.append_assoc,
    List.cons_append]
  rfl

theorem isOffsetMark_digit {c : Char} (digit : isAsciiDigit c = true) : isOffsetMark c = false := by
  simp only [isOffsetMark, Bool.or_eq_false_iff, beq_eq_false_iff_ne]
  refine ⟨⟨?_, ?_⟩, ?_⟩ <;> rintro rfl <;> exact absurd digit (by decide)

section Date

variable (valid : date.isValid = true)

include valid

theorem isNumeral_year : IsNumeral 4 date.year (padded 4 date.year) := by
  have last : date.year ≤ 9999 := (Date.isValid_iff.mp valid).2.1
  exact isNumeral_padded (by decide) (by omega)

theorem isNumeral_month : IsNumeral 2 date.month (padded 2 date.month) := by
  have last := (Date.month_of_isValid valid).2.1
  exact isNumeral_padded (by decide) (by omega)

theorem isNumeral_day : IsNumeral 2 date.day (padded 2 date.day) := by
  have last := (Date.month_of_isValid valid).2.2
  exact isNumeral_padded (by decide) (by omega)

theorem length_dateChars : (dateChars date).length = 10 := by
  simp only [dateChars, List.length_append, List.length_cons, (isNumeral_year valid).length,
    (isNumeral_month valid).length, (isNumeral_day valid).length]

/-- The first digit of a month does not look like that of a week. -/
theorem head?_month (rest : List Char) :
    ((padded 2 date.month ++ rest).head? = some 'W') = False := by
  obtain ⟨first, others, isFirst, digit⟩ := (isNumeral_month valid).exists_first (by decide)
  have differs : first ≠ 'W' := by
    rintro rfl
    exact absurd digit (by decide)
  simp [isFirst, differs]

theorem dateWidth?_written (time : List Char) :
    dateWidth? (dateChars date ++ 'T' :: time) = some 10 := by
  have year := (isNumeral_year valid).length
  have length : (dateChars date ++ 'T' :: time).length = 10 + (time.length + 1) := by
    rw [List.length_append, length_dateChars valid, List.length_cons]
  have hyphen : (dateChars date ++ 'T' :: time)[4]? = some '-' := by
    rw [dateChars, List.append_assoc, List.getElem?_append_right (by omega), year]
    rfl
  have noWeek : ((dateChars date ++ 'T' :: time)[5]? = some 'W') = False := by
    have month := head?_month valid ('-' :: padded 2 date.day ++ 'T' :: time)
    rw [List.head?_eq_getElem?] at month
    rw [dateChars, List.append_assoc, List.getElem?_append_right (by omega), year]
    simp only [List.cons_append, List.append_assoc] at month ⊢
    exact month
  simp only [dateWidth?, length, hyphen, noWeek, if_true, if_false]
  rw [if_neg (by omega), if_neg (by omega)]

theorem readDate_written : readDate (dateChars date) = some (.ok date.number) := by
  have year := (isNumeral_year valid).read ('-' :: (padded 2 date.month ++ '-' :: padded 2 date.day))
  have month := (isNumeral_month valid).read ('-' :: padded 2 date.day)
  have day := (isNumeral_day valid).read []
  rw [List.append_nil] at day
  obtain ⟨firstYear, lastYear, _⟩ := Date.isValid_iff.mp valid
  obtain ⟨firstMonth, lastMonth, _⟩ := Date.month_of_isValid valid
  have checked : checkDate date = .ok date.number := by
    unfold checkDate
    rw [if_neg (by simp; omega), if_neg (by simp; omega), if_pos valid]
  simp only [readDate, dateChars, year, bind, Option.bind_some, List.head?_cons, decide_true,
    if_true, List.tail_cons, head?_month valid, if_false, month, day, checked]

end Date

section Clock

variable (inDay : micros < microsPerDay)

include inDay

theorem isNumeral_hour : IsNumeral 2 (fieldsAt micros).hour (padded 2 (fieldsAt micros).hour) := by
  refine isNumeral_padded (by decide) ?_
  simp only [fieldsAt, microsPerSecond, microsPerDay] at inDay ⊢
  omega

omit inDay

theorem isNumeral_minute (micros : Nat) :
    IsNumeral 2 (fieldsAt micros).minute (padded 2 (fieldsAt micros).minute) := by
  refine isNumeral_padded (by decide) ?_
  simp only [fieldsAt]
  omega

theorem isNumeral_second (micros : Nat) :
    IsNumeral 2 (fieldsAt micros).second (padded 2 (fieldsAt micros).second) := by
  refine isNumeral_padded (by decide) ?_
  simp only [fieldsAt]
  omega

theorem isNumeral_fraction (micros : Nat) :
    IsNumeral 6 (fieldsAt micros).micros (padded 6 (fieldsAt micros).micros) := by
  refine isNumeral_padded (by decide) ?_
  simp only [fieldsAt, microsPerSecond]
  omega

/-- A colon in front of the next field of a clock whose fields are set off by colons. -/
theorem fieldEnd_colon {colons : Option Bool} (separated : colons.getD true = true)
    {field : List Char} {value : Nat} (numeral : IsNumeral 2 value field) (rest : List Char)
    (next : Option Char) :
    fieldEnd colons (':' :: (field ++ rest)) next = some (.more (field ++ rest) true) := by
  obtain ⟨first, others, rfl, _⟩ := numeral.exists_first (by decide)
  simp only [fieldEnd, List.cons_append, beq_self_eq_true, separated, Bool.and_self, if_true]

theorem readFraction_written (micros : Nat) (next : Option Char) :
    readFraction (padded 6 (fieldsAt micros).micros) next =
      some ((fieldsAt micros).micros, !endsAt next) := by
  have numeral := isNumeral_fraction micros
  have all : (padded 6 (fieldsAt micros).micros).all isAsciiDigit = true :=
    List.all_eq_true.mpr numeral.digits
  have whole : (padded 6 (fieldsAt micros).micros).take 6 = padded 6 (fieldsAt micros).micros :=
    List.take_of_length_le (Nat.le_of_eq numeral.length)
  have nothing : (padded 6 (fieldsAt micros).micros).drop 6 = [] :=
    List.drop_of_length_le (Nat.le_of_eq numeral.length)
  simp [readFraction, numeral.length, whole, nothing, all, numeral.value]

theorem readClock_written (next : Option Char) (inDay : micros < microsPerDay) :
    readClock (clockChars micros) next =
      some { fieldsAt micros with trailing := !endsAt next } := by
  have hour := isNumeral_hour inDay
  have minute := isNumeral_minute micros
  have second := isNumeral_second micros
  have undecided : (none : Option Bool).getD true = true := rfl
  have decided : (some true).getD true = true := rfl
  simp only [readClock, clockChars, bind, hour.read, Option.bind_some,
    fieldEnd_colon undecided minute, minute.read, fieldEnd_colon decided second,
    second.read, fractionChars]
  split
  · rename_i whole
    simp only [fieldEnd, Option.bind_some, ← whole]
  · have fraction := isNumeral_fraction micros
    obtain ⟨first, others, isFirst, _⟩ := fraction.exists_first (by decide)
    have point : fieldEnd (some true) ('.' :: padded 6 (fieldsAt micros).micros) next =
        some (.fraction (padded 6 (fieldsAt micros).micros)) := by
      rw [isFirst]
      rfl
    simp only [point, Option.bind_some, ClockFields.withFraction, readFraction_written,
      Option.map_some]

theorem noMark_clockChars (inDay : micros < microsPerDay) :
    ∀ c ∈ clockChars micros, isOffsetMark c = false := by
  have field {width value : Nat} {chars : List Char} (numeral : IsNumeral width value chars) :
      ∀ c ∈ chars, isOffsetMark c = false := fun c member =>
    isOffsetMark_digit (numeral.digits c member)
  have fraction : ∀ c ∈ fractionChars (fieldsAt micros).micros, isOffsetMark c = false := by
    intro c member
    unfold fractionChars at member
    split at member
    · simp at member
    · rcases List.mem_cons.mp member with rfl | digit
      · rfl
      · exact field (isNumeral_fraction micros) c digit
  intro c member
  simp only [clockChars, List.mem_append, List.mem_cons] at member
  rcases member with digit | rfl | digit | rfl | digit | last
  · exact field (isNumeral_hour inDay) c digit
  · rfl
  · exact field (isNumeral_minute micros) c digit
  · rfl
  · exact field (isNumeral_second micros) c digit
  · exact fraction c last

theorem readTime_written (inDay : micros < microsPerDay) :
    readTime (clockChars micros ++ "+00:00".toList) =
      some ({ fieldsAt micros with trailing := true }, some 0) := by
  have unmarked : ∀ c ∈ clockChars micros, (!isOffsetMark c) = true := fun c member => by
    rw [noMark_clockChars inDay c member]
    rfl
  have clock : (clockChars micros ++ "+00:00".toList).takeWhile (!isOffsetMark ·) =
      clockChars micros := by
    rw [List.takeWhile_append_of_pos unmarked]
    exact List.append_nil _
  have mark : (clockChars micros ++ "+00:00".toList).dropWhile (!isOffsetMark ·) =
      "+00:00".toList := by
    rw [List.dropWhile_append_of_pos unmarked]
    rfl
  have signed : "+00:00".toList = '+' :: "00:00".toList := rfl
  have offset : readOffset false "00:00".toList = some 0 := by decide
  simp only [readTime, clock, mark, readClock_written _ inDay, bind, Option.bind_some]
  rw [signed]
  change (readOffset false "00:00".toList).bind _ = _
  rw [offset]
  rfl

end Clock

theorem ofParts_fieldsAt {day : Nat} (counted : day < dayCount) (inDay : micros < microsPerDay) :
    ofParts day { fieldsAt micros with trailing := true } (some 0) =
      .ok (utc day micros counted inDay) := by
  have whole : ((fieldsAt micros).hour * 3600 + (fieldsAt micros).minute * 60 +
      (fieldsAt micros).second) * microsPerSecond + (fieldsAt micros).micros = micros := by
    simp only [fieldsAt, microsPerSecond]
    omega
  have hour : ¬ 24 ≤ (fieldsAt micros).hour := by
    simp only [fieldsAt, microsPerSecond, microsPerDay] at inDay ⊢
    omega
  have minute : ¬ 60 ≤ (fieldsAt micros).minute := by
    simp only [fieldsAt]
    omega
  have second : ¬ 60 ≤ (fieldsAt micros).second := by
    simp only [fieldsAt]
    omega
  simp only [ofParts, whole, if_neg hour, if_neg minute, if_neg second]
  rw [dif_pos ⟨counted, inDay⟩]
  rfl

/-- A stamp in universal time is read back from its text. -/
theorem ofText_text {stamp : Timestamp} (utc : stamp.offset = some 0) :
    ofText stamp.text = .ok stamp := by
  obtain ⟨isDay, valid⟩ := Date.ofNumber_spec stamp.day_lt
  have width := length_dateChars valid
  have read : (readDate (dateChars (Date.ofNumber stamp.day))) = some (.ok stamp.day) := by
    rw [readDate_written valid, isDay]
  have start (time : List Char) : (dateChars (Date.ofNumber stamp.day) ++ time).take 10 =
      dateChars (Date.ofNumber stamp.day) := by
    rw [← width, List.take_left]
  have behind (time : List Char) : (dateChars (Date.ofNumber stamp.day) ++ time).drop 10 =
      time := by
    rw [← width, List.drop_left]
  simp only [ofText, text, String.toList_ofList, chars_utc utc, dateWidth?_written valid,
    Option.bind_some, start, behind, read, readRest, readTime_written stamp.micros_lt, bind,
    checkOffset]
  rw [if_neg (by decide)]
  change ofParts stamp.day { fieldsAt stamp.micros with trailing := true } (some 0) = _
  rw [ofParts_fieldsAt stamp.day_lt stamp.micros_lt]
  cases stamp
  subst utc
  rfl

/-- A stamp and its form in universal time are of the same instant. -/
theorem toUtc_ok {stamp shifted : Timestamp} (shifts : stamp.toUtc = .ok shifted) :
    shifted.offset = some 0 ∧ shifted.instant = stamp.instant := by
  unfold toUtc at shifts
  split at shifts
  · cases shifts
  · unfold ofInstant? at shifts
    split at shifts
    · rename_i moved
      split at moved
      · rename_i inside
        cases shifts
        cases moved
        refine ⟨rfl, ?_⟩
        simp only [instant, clock, utc, Option.getD_some]
        have whole := Nat.div_add_mod stamp.instant.toNat microsPerDay
        have same := Int.toNat_of_nonneg inside.1
        simp only [instant, clock] at whole same
        rw [Nat.mul_comm] at whole
        omega
      · cases moved
    · cases shifts

/-- A stamp in universal time has no other form there. -/
theorem toUtc_utc {stamp : Timestamp} (utc : stamp.offset = some 0) :
    stamp.toUtc = .ok stamp := by
  obtain ⟨day, micros, offset, counted, inDay⟩ := stamp
  obtain rfl : offset = some 0 := utc
  have isInstant : instant ⟨day, micros, some 0, counted, inDay⟩ =
      (microsPerDay * day + micros : Nat) := by
    simp only [instant, clock, Option.getD_some, Int.natCast_add, Int.natCast_mul]
    rw [Int.mul_comm]
    omega
  have inside : microsPerDay * day + micros < dayCount * microsPerDay := by
    have next := Nat.mul_le_mul_left microsPerDay (Nat.succ_le_of_lt counted)
    rw [Nat.mul_succ, Nat.mul_comm microsPerDay dayCount] at next
    omega
  have sameDay : (microsPerDay * day + micros) / microsPerDay = day := by
    rw [Nat.mul_add_div (by decide), Nat.div_eq_of_lt inDay, Nat.add_zero]
  have sameMicros : (microsPerDay * day + micros) % microsPerDay = micros := by
    rw [Nat.mul_add_mod, Nat.mod_eq_of_lt inDay]
  have found : ofInstant? (microsPerDay * day + micros : Nat) =
      some ⟨day, micros, some 0, counted, inDay⟩ := by
    rw [ofInstant?, dif_pos ⟨Int.natCast_nonneg _, inside⟩]
    simp only [Timestamp.utc, Int.toNat_natCast, sameDay, sameMicros]
  simp only [toUtc, isInstant, found]
  rfl

end Timestamp

end ClusterGraph.Calendar
