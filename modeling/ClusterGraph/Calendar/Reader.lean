import ClusterGraph.Calendar.Timestamp
import ClusterGraph.Text.Digit
import ClusterGraph.Text.Quoted

namespace ClusterGraph.Calendar

/-! Reading civil time: calendar or week dates with or without hyphens, any character between date
and time, hours with optional minutes, seconds and fraction, and an offset. A text of that form may
still name a date, a time or an offset that there is none of. -/

/-- Why a text denotes no stamp. -/
inductive StampError where
  | malformed
  | noYear (year : Nat)
  | noMonth
  | noDay
  | noHour
  | noMinute
  | noSecond
  /-- An offset of a day or more, in microseconds. -/
  | longOffset (micros : Int)
deriving DecidableEq, Repr

namespace StampError

/-- A span of time by its days, seconds and microseconds; only the days may be negative. -/
def spanText (micros : Int) : String :=
  let seconds := micros / microsPerSecond % 86400
  let parts := [("days", micros / microsPerDay), ("seconds", seconds),
    ("microseconds", micros % microsPerSecond)]
  "datetime.timedelta(" ++
    ", ".intercalate ((parts.filter (·.2 != 0)).map fun part => part.1 ++ "=" ++ toString part.2) ++
    ")"

def message (text : String) : StampError → String
  | .malformed => "Invalid isoformat string: " ++ Text.quoted text
  | .noYear year => "year " ++ toString year ++ " is out of range"
  | .noMonth => "month must be in 1..12"
  | .noDay => "day is out of range for month"
  | .noHour => "hour must be in 0..23"
  | .noMinute => "minute must be in 0..59"
  | .noSecond => "second must be in 0..59"
  | .longOffset micros =>
      "offset must be a timedelta strictly between -timedelta(hours=24) and timedelta(hours=24), " ++
        "not " ++ spanText micros ++ "."

end StampError

namespace Timestamp

def isAsciiDigit (c : Char) : Bool :=
  '0' ≤ c && c ≤ '9'

/-- The next characters as a number, if they are that many digits. -/
def readDigits (count : Nat) (text : List Char) : Option (Nat × List Char) :=
  let digits := text.take count
  if digits.length == count && digits.all isAsciiDigit then
    some (Text.digitsValue digits, text.drop count)
  else none

/-- A text ends where its characters do, or at a null character. -/
def endsAt (next : Option Char) : Bool :=
  next.all (· == '\x00')

def nextIsDigit (text : List Char) (index : Nat) : Bool :=
  (text[index]?).any isAsciiDigit

/-- The length of the date at the start of a text. After a week a hyphen may stand before a weekday
or before the time; it counts as the latter when a digit follows two places on. Without hyphens an
odd run of digits after the week belongs to the time alone. -/
def dateWidth? (text : List Char) : Option Nat :=
  let length := text.length
  if length < 7 then none
  else if length = 7 then some 7
  else if text[4]? = some '-' then
    if text[5]? = some 'W' then
      if text[8]? = some '-' then
        if length = 9 then none
        else if nextIsDigit text 10 then some 8
        else some 10
      else some 8
    else some 10
  else if text[4]? = some 'W' then
    let stop := 7 + ((text.drop 7).takeWhile isAsciiDigit).length
    if stop < 9 then some stop else if stop % 2 = 0 then some 7 else some 8
  else some 8

def readWeekDate (year : Nat) (hyphens : Bool) (text : List Char) : Option Int := do
  let (week, rest) ← readDigits 2 text
  if rest.isEmpty then Date.ofWeek? year week 1
  else
    let rest ← if hyphens then (if rest.head? = some '-' then some rest.tail else none) else some rest
    let (weekday, _) ← readDigits 1 rest
    Date.ofWeek? year week weekday

/-- The number of a date, or what there is none of. -/
def checkDate (date : Date) : Except StampError Nat :=
  if date.year < 1 || lastYear < date.year then .error (.noYear date.year)
  else if date.month < 1 || 12 < date.month then .error .noMonth
  else if date.isValid then .ok date.number
  else .error .noDay

/-- The number of the day of a week, which may lie beyond the years counted. -/
def checkWeekDay (year : Nat) (day : Int) : Except StampError Nat :=
  if year < 1 then .error .noMonth
  else if day < dayCount then .ok day.toNat
  else .error (.noYear (lastYear + 1))

/-- The day of a date, if the calendar has it; hyphens stand in all places or in none. -/
def readDate (text : List Char) : Option (Except StampError Nat) := do
  let (year, rest) ← readDigits 4 text
  let hyphens := rest.head? = some '-'
  let rest := if hyphens then rest.tail else rest
  if rest.head? = some 'W' then
    let day ← readWeekDate year hyphens rest.tail
    some (checkWeekDay year day)
  else
    let (month, rest) ← readDigits 2 rest
    let rest ← if hyphens then (if rest.head? = some '-' then some rest.tail else none) else some rest
    let (day, _) ← readDigits 2 rest
    some (checkDate ⟨year, month, day⟩)

structure ClockFields where
  hour : Nat := 0
  minute : Nat := 0
  second : Nat := 0
  micros : Nat := 0
  /-- Something other than the end follows. -/
  trailing : Bool := false
deriving Repr

/-- A fraction of a second: six digits, or as many as there are; digits beyond the sixth and
whatever follows them are passed over. -/
def readFraction (text : List Char) (next : Option Char) : Option (Nat × Bool) :=
  let count := min 6 text.length
  let digits := text.take count
  if digits.all isAsciiDigit then
    let rest := (text.drop count).dropWhile isAsciiDigit
    some (Text.digitsValue digits * Nat.pow 10 (6 - count), !endsAt (rest.head?.or next))
  else none

/-- What follows a two-digit field of a clock. -/
inductive FieldEnd where
  /-- The clock is over; the flag tells whether something other than the end follows. -/
  | over (trailing : Bool)
  /-- The next field, or a fraction after the last one, starts here. -/
  | more (rest : List Char) (colons : Bool)
  | fraction (rest : List Char)

/-- Decides how a clock goes on. `colons` tells whether its fields are set off by colons, which the
first field decides. One ASCII character may stand alone before the end. -/
def fieldEnd (colons : Option Bool) (text : List Char) (next : Option Char) : Option FieldEnd :=
  match text with
  | [] => some (.over (!endsAt next))
  | [c] => if c.toNat < 0x80 then some (.over (!endsAt (some c))) else none
  | c :: rest =>
      let separated := colons.getD (c == ':')
      if separated && c == ':' then some (.more rest true)
      else if c == '.' || c == ',' then some (.fraction rest)
      else if separated then none
      else some (.more (c :: rest) false)

/-- The fields of a clock with the fraction that ends it, which counts microseconds after whatever
field it follows. -/
def ClockFields.withFraction (fields : ClockFields) (text : List Char) (next : Option Char) :
    Option ClockFields :=
  (readFraction text next).map fun (micros, trailing) => { fields with micros, trailing }

/-- Reads a clock up to the end of a text; `next` is the character after that end. -/
def readClock (text : List Char) (next : Option Char) : Option ClockFields := do
  let (hour, rest) ← readDigits 2 text
  match ← fieldEnd none rest next with
  | .over trailing => some { hour, trailing }
  | .fraction rest => ClockFields.withFraction { hour } rest next
  | .more rest colons =>
      let (minute, rest) ← readDigits 2 rest
      match ← fieldEnd (some colons) rest next with
      | .over trailing => some { hour, minute, trailing }
      | .fraction rest => ClockFields.withFraction { hour, minute } rest next
      | .more rest _ =>
          let (second, rest) ← readDigits 2 rest
          match ← fieldEnd (some colons) rest next with
          | .over trailing => some { hour, minute, second, trailing }
          | .fraction rest | .more rest _ =>
              ClockFields.withFraction { hour, minute, second } rest next

/-- An offset in microseconds. One of less than a second counts as none. -/
def readOffset (negative : Bool) (text : List Char) : Option Int := do
  let fields ← readClock text none
  if fields.trailing then none
  else
    let seconds := fields.hour * 3600 + fields.minute * 60 + fields.second
    let micros : Int := seconds * microsPerSecond + fields.micros
    if seconds = 0 then some 0 else some (if negative then -micros else micros)

def isOffsetMark (c : Char) : Bool :=
  c == '+' || c == '-' || c == 'Z'

/-- A time of day and the offset that follows it. -/
def readTime (text : List Char) : Option (ClockFields × Option Int) := do
  let clock := text.takeWhile (!isOffsetMark ·)
  let mark := text.dropWhile (!isOffsetMark ·)
  let fields ← readClock clock mark.head?
  match mark with
  | [] => if fields.trailing then none else some (fields, none)
  | 'Z' :: rest => if endsAt rest.head? then some (fields, some 0) else none
  | sign :: rest => do
      let offset ← readOffset (sign == '-') rest
      some (fields, some offset)

/-- An offset is shorter than a day. -/
def checkOffset (offset : Option Int) : Except StampError Unit :=
  match offset with
  | some micros => if microsPerDay ≤ micros.natAbs then .error (.longOffset micros) else .ok ()
  | none => .ok ()

def ofParts (day : Nat) (fields : ClockFields) (offset : Option Int) :
    Except StampError Timestamp :=
  let micros := (fields.hour * 3600 + fields.minute * 60 + fields.second) * microsPerSecond +
    fields.micros
  if 24 ≤ fields.hour then .error .noHour
  else if 60 ≤ fields.minute then .error .noMinute
  else if 60 ≤ fields.second then .error .noSecond
  else if inside : day < dayCount ∧ micros < microsPerDay then
    .ok ⟨day, micros, offset, inside.1, inside.2⟩
  else .error .malformed

/-- The time of day and the offset behind a date, which a date may lack. -/
def readRest : List Char → Option (ClockFields × Option Int)
  | [] => some ({}, none)
  | _ :: time => readTime time

/-- The stamp that a text denotes. Of several parts that there are none of the offset is told
first, and the date before the time. -/
def ofText (text : String) : Except StampError Timestamp := do
  let chars := text.toList
  let found := (dateWidth? chars).bind fun width => do
    let day ← readDate (chars.take width)
    let (fields, offset) ← readRest (chars.drop width)
    some (day, fields, offset)
  match found with
  | none => throw .malformed
  | some (day, fields, offset) =>
      checkOffset offset
      ofParts (← day) fields offset

end Timestamp

end ClusterGraph.Calendar
