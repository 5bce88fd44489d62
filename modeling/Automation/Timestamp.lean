import Automation.Number.Decimal

/-!
Points in time with an offset from universal time.

A timestamp keeps the date and the time of day as they are written, to the microsecond, and the
offset. Its text is the one canonical form of them; `instant` is the point in time, which timestamps
of different offsets share. The calendar has no first and no last year: `isValid` says which
timestamps have a text.

Every timestamp has an offset. A date and a time of day without one name no point in time and are
not represented; the engine makes none, since its clock reads universal time.
-/

namespace Automation

/-- A date and a time of day, and the offset from universal time in microseconds. -/
structure Timestamp where
  year : Int
  month : Nat
  day : Nat
  hour : Nat
  minute : Nat
  second : Nat
  microsecond : Nat
  offset : Int
  deriving DecidableEq, Repr, Inhabited

namespace Timestamp

/-- Years whose February has a day more. -/
def isLeapYear (year : Int) : Bool := year % 4 == 0 && (year % 100 != 0 || year % 400 == 0)

/-- The number of days of a month. -/
def daysInMonth (year : Int) (month : Nat) : Nat :=
  if month = 2 then (if isLeapYear year then 29 else 28)
  else if month = 4 ∨ month = 6 ∨ month = 9 ∨ month = 11 then 30
  else 31

/-- The number of days before a year, counted from year one. -/
def daysBeforeYear (year : Int) : Int :=
  let past := year - 1
  past * 365 + past / 4 - past / 100 + past / 400

/-- The number of days before a month of a year. -/
def daysBeforeMonth (year : Int) (month : Nat) : Nat :=
  (List.range (month - 1)).foldl (fun days index => days + daysInMonth year (index + 1)) 0

/-- The year of a day; days are counted from the start of year one. -/
def yearOfDay (day : Int) : Int :=
  let dayOfEra := day % 146097
  let century := min (dayOfEra / 36524) 3
  let dayOfCentury := dayOfEra - century * 36524
  let year := min (dayOfCentury % 1461 / 365) 3
  day / 146097 * 400 + century * 100 + dayOfCentury / 1461 * 4 + year + 1

/-- The month of a day of a year; days are counted from the start of the year. -/
def monthOfDay (year : Int) (day : Nat) : Nat :=
  ((List.range 12).filter fun index => daysBeforeMonth year (index + 1) ≤ day).length

/-- The year, the month and the day of the month of a day counted from the start of year one. -/
def dateOfDay (day : Int) : Int × Nat × Nat :=
  let year := yearOfDay day
  let dayOfYear := (day - daysBeforeYear year).toNat
  let month := monthOfDay year dayOfYear
  (year, month, dayOfYear - daysBeforeMonth year month + 1)

/-- The microseconds of a second. -/
def perSecond : Nat := 1000000

/-- The microseconds from the start of year one, in universal time, to a timestamp. -/
def instant (time : Timestamp) : Int :=
  let days := daysBeforeYear time.year + daysBeforeMonth time.year time.month + (time.day - 1 : Nat)
  let seconds := ((days * 24 + time.hour) * 60 + time.minute) * 60 + time.second
  seconds * perSecond + time.microsecond - time.offset

/-- The microseconds of a day, which an offset does not reach. -/
def perDay : Nat := 86400 * perSecond

/-- Timestamps that a calendar of four digits and a clock can show. -/
def isValid (time : Timestamp) : Bool :=
  1 ≤ time.year && time.year ≤ 9999 && 1 ≤ time.month && time.month ≤ 12 && 1 ≤ time.day
    && time.day ≤ daysInMonth time.year time.month && time.hour < 24 && time.minute < 60
    && time.second < 60 && time.microsecond < perSecond && time.offset.natAbs < perDay

/-- The timestamp in universal time of a number of seconds since the start of 1970, and of
microseconds. -/
def ofSeconds (seconds : Int) (microsecond : Nat) : Timestamp :=
  let (year, month, day) := dateOfDay (seconds / 86400 + daysBeforeYear 1970)
  let second := (seconds % 86400).toNat
  ⟨year, month, day, second / 3600, second / 60 % 60, second % 60, microsecond, 0⟩

/-- The last `width` decimal digits of a number. -/
def padded : (width : Nat) → Nat → List Char
  | 0, _ => []
  | width + 1, number => padded width (number / 10) ++ [Nat.digitChar (number % 10)]

/-- A point and microseconds, which are left out where there are none. -/
def fractionText (microsecond : Nat) : List Char :=
  if microsecond = 0 then [] else '.' :: padded 6 microsecond

/-- The text of an offset. Its seconds are left out where there are none. -/
def offsetText (offset : Int) : List Char :=
  let seconds := offset.natAbs / perSecond
  let fraction := fractionText (offset.natAbs % perSecond)
  (if offset < 0 then '-' else '+') :: padded 2 (seconds / 3600) ++ ':'
    :: padded 2 (seconds / 60 % 60)
    ++ if seconds % 60 = 0 ∧ fraction = [] then [] else ':' :: padded 2 (seconds % 60) ++ fraction

/-- The text of a timestamp. -/
def text (time : Timestamp) : List Char :=
  padded 4 time.year.toNat ++ '-' :: padded 2 time.month ++ '-' :: padded 2 time.day ++ 'T'
    :: padded 2 time.hour ++ ':' :: padded 2 time.minute ++ ':' :: padded 2 time.second
    ++ fractionText time.microsecond ++ offsetText time.offset

/-- The date and the time of day of a timestamp, to the second. -/
def clockText (time : Timestamp) : List Char :=
  Decimal.integer time.year ++ '-' :: padded 2 time.month ++ '-' :: padded 2 time.day ++ ' '
    :: padded 2 time.hour ++ ':' :: padded 2 time.minute ++ ':' :: padded 2 time.second

end Timestamp
end Automation
