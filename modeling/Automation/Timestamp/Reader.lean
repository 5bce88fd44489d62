import Automation.Failure
import Automation.Timestamp

/-!
Reading timestamps in the forms of ISO 8601.

A date is a year, a month and a day, or a year, a week and perhaps a day of the week, with hyphens
or without. Any character may separate it from the time: hours, perhaps minutes and seconds, with
colons or without, and a fraction of a second after a point or a comma, whatever stands before. An
offset follows, which is the letter `Z` or a sign and a time. A date and a time without an offset
name no point in time and are not represented, so a text without one is not read. `TimestampFault`
says what is wrong with any other text.
-/

namespace Automation

/-- What is wrong with the text of a timestamp. -/
inductive TimestampFault where
  | malformed
  | offset (microseconds : Int)
  | year (number : Int)
  | month
  | day
  | hour
  | minute
  | second
  deriving DecidableEq, Repr

namespace TimestampFault

/-- A span of time in words: days, seconds of the day and microseconds, as far as there are any. -/
def spanText (microseconds : Int) : String :=
  let part (name : String) (number : Int) : List String :=
    if number = 0 then [] else [s!"{name}={number}"]
  let parts := part "days" (microseconds / Timestamp.perDay)
    ++ part "seconds" (microseconds % Timestamp.perDay / Timestamp.perSecond)
    ++ part "microseconds" (microseconds % Timestamp.perSecond)
  "datetime.timedelta(" ++ ", ".intercalate parts ++ ")"

/-- The message about a text with a fault. -/
def message (text : List Char) : TimestampFault → String
  | .malformed => "Invalid isoformat string: " ++ String.ofList (Text.quoted text)
  | .offset microseconds =>
      "offset must be a timedelta strictly between -timedelta(hours=24) and timedelta(hours=24), "
        ++ s!"not {spanText microseconds}."
  | .year number => s!"year {number} is out of range"
  | .month => "month must be in 1..12"
  | .day => "day is out of range for month"
  | .hour => "hour must be in 0..23"
  | .minute => "minute must be in 0..59"
  | .second => "second must be in 0..59"

/-- The failure of reading a text with a fault. -/
def failure (text : List Char) (fault : TimestampFault) : Failure :=
  .raised "ValueError" (fault.message text)

end TimestampFault

namespace Timestamp

/-- A number of exactly `width` decimal digits at the front of a text. -/
def takeNumber? : (width : Nat) → (value : Nat) → List Char → Option (Nat × List Char)
  | 0, value, rest => some (value, rest)
  | width + 1, value, c :: rest =>
      if c.isDigit then takeNumber? width (10 * value + (c.toNat - '0'.toNat)) rest else none
  | _ + 1, _, [] => none

/-- The length of the date at the front of a text. A digit after the second hyphen of a week belongs
to a time without colons; after a week without hyphens, digits in pairs do. -/
def dateLength (text : List Char) : Nat :=
  match text.drop 4 with
  | '-' :: 'W' :: rest =>
      match rest.drop 2 with
      | '-' :: _ :: next :: _ => if next.isDigit then 8 else 10
      | '-' :: _ => 10
      | _ => 8
  | '-' :: _ => 10
  | 'W' :: rest =>
      match ((rest.drop 2).takeWhile Char.isDigit).length with
      | 0 => 7
      | count => if count % 2 = 0 ∨ count = 1 then 8 else 7
  | _ => 8

/-- The day of a week of a year, counted from the start of year one. The first week of a year is the
one with its first Thursday, and days of the week are counted from Monday. -/
def dayOfWeek? (year : Int) (week weekday : Nat) : Option Int :=
  let first := daysBeforeYear year
  let firstWeekday := first % 7
  let isLong := firstWeekday = 3 ∨ (firstWeekday = 2 ∧ isLeapYear year)
  if week = 0 ∨ 53 < week ∨ (week = 53 ∧ ¬isLong) ∨ weekday = 0 ∨ 7 < weekday then none
  else
    let monday := first - firstWeekday + if 3 < firstWeekday then 7 else 0
    some (monday + (week - 1) * 7 + (weekday - 1))

/-- The date of a text that is nothing else. -/
def readDate? (text : List Char) : Option (Int × Nat × Nat) := do
  let (year, afterYear) ← takeNumber? 4 0 text
  let (hyphened, body) := match afterYear with
    | '-' :: rest => (true, rest)
    | rest => (false, rest)
  match body with
  | 'W' :: rest => do
      let (week, afterWeek) ← takeNumber? 2 0 rest
      let (weekday, after) ← match afterWeek, hyphened with
        | [], _ => some (1, [])
        | '-' :: day, true => takeNumber? 1 0 day
        | day, false => takeNumber? 1 0 day
        | _, true => none
      if after = [] then (dayOfWeek? year week weekday).map dateOfDay else none
  | rest => do
      let (month, afterMonth) ← takeNumber? 2 0 rest
      let (day, after) ← match afterMonth, hyphened with
        | '-' :: day, true => takeNumber? 2 0 day
        | day, false => takeNumber? 2 0 day
        | _, true => none
      if after = [] then some (year, month, day) else none

/-- A time of day or an offset as it is read: hours, minutes and seconds as far as they are given,
microseconds, and whether nothing is left of the text. -/
structure ClockReading where
  parts : List Nat
  microsecond : Nat
  complete : Bool
  deriving DecidableEq, Repr

/-- The fraction of a second. Digits after the sixth are cut off; a text without six digits is
nothing but digits. -/
def readFraction? (text : List Char) : Option ClockReading := do
  let (microsecond, _) ← takeNumber? 6 0
    (text.take 6 ++ List.replicate (6 - text.length) '0')
  some ⟨[], microsecond, ((text.drop 6).dropWhile Char.isDigit).isEmpty⟩

/-- A time of at most `count` parts of two digits, and a fraction after any of them. `colons` says
whether parts are separated. A single character after a part is left. -/
def readParts? (colons : Bool) : (count : Nat) → List Char → Option ClockReading
  | 0, text => readFraction? text
  | count + 1, text => do
      let (number, rest) ← takeNumber? 2 0 text
      let others ← match rest with
        | [] => some ⟨[], 0, true⟩
        | [_] => some ⟨[], 0, false⟩
        | c :: after =>
            if c = ':' && colons then readParts? colons count after
            else if c = '.' ∨ c = ',' then readFraction? after
            else if colons then none
            else readParts? colons count (c :: after)
      some { others with parts := number :: others.parts }

/-- The time at the front of a text. -/
def readClock? (text : List Char) : Option ClockReading :=
  readParts? ((text.drop 2).head? == some ':') 3 text

/-- The microseconds that an offset is before its sign. An offset below a second is none. -/
def ClockReading.span (clock : ClockReading) : Nat :=
  let part (position : Nat) : Nat := (clock.parts[position]?).getD 0
  let seconds := (part 0 * 60 + part 1) * 60 + part 2
  if seconds = 0 then 0 else seconds * perSecond + clock.microsecond

/-- The offset in microseconds at the end of a text. -/
def readOffset? : List Char → Option Int
  | ['Z'] => some 0
  | sign :: rest =>
      if sign = '+' ∨ sign = '-' then do
        let clock ← readClock? rest
        if clock.complete then some (if sign = '-' then -(clock.span : Int) else clock.span)
        else none
      else none
  | [] => none

/-- Characters that an offset starts with. -/
def startsOffset (c : Char) : Bool := c == '+' || c == '-' || c == 'Z'

/-- The parts of a timestamp as they are written. What a time leaves in front of an offset, a single
character or what follows the sixth digit of a fraction, is passed over. -/
def readParts (text : List Char) : Option Timestamp := do
  let length := dateLength text
  let (year, month, day) ← readDate? (text.take length)
  let time := text.drop (length + 1)
  let clock ← readClock? (time.takeWhile (!startsOffset ·))
  let offset ← readOffset? (time.dropWhile (!startsOffset ·))
  let part (position : Nat) : Nat := (clock.parts[position]?).getD 0
  some ⟨year, month, day, part 0, part 1, part 2, clock.microsecond, offset⟩

/-- The first part of a timestamp that is out of range. -/
def fault? (time : Timestamp) : Option TimestampFault :=
  if perDay ≤ time.offset.natAbs then some (.offset time.offset)
  else if time.year < 1 ∨ 9999 < time.year then some (.year time.year)
  else if time.month < 1 ∨ 12 < time.month then some .month
  else if time.day < 1 ∨ daysInMonth time.year time.month < time.day then some .day
  else if 24 ≤ time.hour then some .hour
  else if 60 ≤ time.minute then some .minute
  else if 60 ≤ time.second then some .second
  else none

/-- The timestamp that a text denotes. -/
def read (text : List Char) : Except TimestampFault Timestamp :=
  match readParts text with
  | none => .error .malformed
  | some time =>
      match time.fault? with
      | some fault => .error fault
      | none => .ok time

end Timestamp
end Automation
