import ClusterGraph.Calendar.Date

namespace ClusterGraph.Calendar

/-! Points of civil time to the microsecond, with or without an offset from universal time. -/

def microsPerSecond : Nat := 1000000

def microsPerDay : Nat := 86400000000

structure Timestamp where
  /-- Days since the first day of year 1. -/
  day : Nat
  /-- Microseconds since midnight. -/
  micros : Nat
  /-- Microseconds that the clock is ahead of universal time. -/
  offset : Option Int
  day_lt : day < dayCount
  micros_lt : micros < microsPerDay
deriving DecidableEq, Repr

/-- Why a stamp has no form in universal time. -/
inductive ShiftError where
  /-- The shifted date leaves the years counted. -/
  | dateOutOfRange
  /-- A stamp without offset in the first day of all: the search for its offset looks a day back. -/
  | yearZero
deriving DecidableEq, Repr

namespace Timestamp

def utc (day micros : Nat) (day_lt : day < dayCount) (micros_lt : micros < microsPerDay) :
    Timestamp :=
  ⟨day, micros, some 0, day_lt, micros_lt⟩

/-- Microseconds since the start of year 1 on the stamp's own clock. -/
def clock (stamp : Timestamp) : Int :=
  stamp.day * microsPerDay + stamp.micros

/-- Microseconds since the start of year 1 in universal time. A stamp without offset counts as
universal. -/
def instant (stamp : Timestamp) : Int :=
  stamp.clock - stamp.offset.getD 0

/-- The stamp of an instant in universal time, if it lies within the years counted. -/
def ofInstant? (instant : Int) : Option Timestamp :=
  if inside : 0 ≤ instant ∧ instant.toNat < dayCount * microsPerDay then
    some (utc (instant.toNat / microsPerDay) (instant.toNat % microsPerDay)
      (Nat.div_lt_of_lt_mul (by rw [Nat.mul_comm]; exact inside.2))
      (Nat.mod_lt _ (by decide)))
  else none

def toUtc (stamp : Timestamp) : Except ShiftError Timestamp :=
  if stamp.offset.isNone && stamp.day == 0 then .error .yearZero
  else
    match ofInstant? stamp.instant with
    | some shifted => .ok shifted
    | none => .error .dateOutOfRange

/-- The start of 1970 in universal time. -/
def epoch : Timestamp :=
  utc 719162 0 (by decide) (by decide)

/-- A number with leading zeros. -/
def padded (width value : Nat) : List Char :=
  let digits := Nat.toDigits 10 value
  List.replicate (width - digits.length) '0' ++ digits

/-- Hours and minutes, then seconds and microseconds as far as needed. -/
def offsetText (offset : Int) : List Char :=
  let micros := offset.natAbs
  let seconds := micros / microsPerSecond
  let fraction := micros % microsPerSecond
  (if offset < 0 then '-' else '+') :: padded 2 (seconds / 3600) ++
    ':' :: padded 2 (seconds / 60 % 60) ++
    (if seconds % 60 = 0 ∧ fraction = 0 then [] else ':' :: padded 2 (seconds % 60)) ++
    (if fraction = 0 then [] else '.' :: padded 6 fraction)

/-- Date and time of day with the letter T between them, and the offset if there is one. -/
def chars (stamp : Timestamp) : List Char :=
  let date := Date.ofNumber stamp.day
  let seconds := stamp.micros / microsPerSecond
  let fraction := stamp.micros % microsPerSecond
  padded 4 date.year ++ '-' :: padded 2 date.month ++ '-' :: padded 2 date.day ++
    'T' :: padded 2 (seconds / 3600) ++ ':' :: padded 2 (seconds / 60 % 60) ++
    ':' :: padded 2 (seconds % 60) ++
    (if fraction = 0 then [] else '.' :: padded 6 fraction) ++
    (match stamp.offset with
     | none => []
     | some offset => offsetText offset)

def text (stamp : Timestamp) : String :=
  String.ofList stamp.chars

end Timestamp

end ClusterGraph.Calendar
