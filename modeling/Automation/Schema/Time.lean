import Automation.Schema.Field
import Automation.Timestamp.Reader

/-!
Fields that are points in time.

A text is a date, a date and a time, perhaps with an offset, or a number of seconds since the start
of 1970; a great number counts milliseconds. Only whether a field is one of them matters here.
-/

namespace Automation.Field

/-- Numbers up to this one are seconds, greater ones milliseconds. -/
def greatestSeconds : Nat := 20000000000

/-- Whether a number of seconds or milliseconds lies in the years that a date has. -/
def isTimeNumber (number : Int) : Bool :=
  let seconds := if number.natAbs ≤ greatestSeconds then number else number / 1000
  (Timestamp.instant ⟨1, 1, 1, 0, 0, 0, 0, 0⟩ - epoch) / Timestamp.perSecond ≤ seconds
    && seconds < (Timestamp.instant ⟨10000, 1, 1, 0, 0, 0, 0, 0⟩ - epoch) / Timestamp.perSecond
where
  epoch : Int := Timestamp.instant ⟨1970, 1, 1, 0, 0, 0, 0, 0⟩

/-- A separator and then a number of two digits. -/
def takePart? (separator : Char) : List Char → Option (Nat × List Char)
  | c :: rest => if c = separator then Timestamp.takeNumber? 2 0 rest else none
  | [] => none

/-- A date with hyphens at the front of a text, and the rest. -/
def takeDate? (text : List Char) : Option (Timestamp × List Char) := do
  let (year, afterYear) ← Timestamp.takeNumber? 4 0 text
  let (month, afterMonth) ← takePart? '-' afterYear
  let (day, rest) ← takePart? '-' afterMonth
  some (⟨year, month, day, 0, 0, 0, 0, 0⟩, rest)

/-- The seconds of a time of day and their fraction at the front of a text, and the rest. -/
def takeSeconds? (text : List Char) : Option (Nat × List Char) := do
  let (second, rest) ← takePart? ':' text
  match rest with
  | mark :: digits =>
      if mark ≠ '.' ∧ mark ≠ ',' then some (second, rest)
      else if digits.head?.any Char.isDigit then some (second, digits.dropWhile Char.isDigit)
      else none
  | [] => some (second, [])

/-- A time of day with colons at the front of a text, put into a timestamp, and the rest. -/
def takeClock? (date : Timestamp) (text : List Char) : Option (Timestamp × List Char) := do
  let (hour, afterHour) ← Timestamp.takeNumber? 2 0 text
  let (minute, afterMinute) ← takePart? ':' afterHour
  let (second, rest) ← if afterMinute.head? = some ':' then takeSeconds? afterMinute
    else some (0, afterMinute)
  some ({ date with hour := hour, minute := minute, second := second }, rest)

/-- Whether a text is an offset below a day: nothing, a letter, or a sign, hours and minutes. -/
def isOffset : List Char → Bool
  | [] | ['Z'] | ['z'] => true
  | sign :: rest =>
      ['+', '-', '\u2212'].contains sign && (do
        let (hours, afterHours) ← Timestamp.takeNumber? 2 0 rest
        let (minutes, last) ← match afterHours with
          | ':' :: after => Timestamp.takeNumber? 2 0 after
          | after => Timestamp.takeNumber? 2 0 after
        some (last.isEmpty && minutes < 60 && hours < 24)).getD false

/-- Whether a text is a date, perhaps with a time. -/
def isDateText (text : List Char) : Bool :=
  (do
    let (date, rest) ← takeDate? text
    match rest with
    | [] => some date.isValid
    | separator :: clock => do
        let (time, offset) ← takeClock? date clock
        some (['T', 't', ' ', '_'].contains separator && time.isValid && isOffset offset)).getD
    false

/-- Whether a text is a number of seconds or milliseconds, perhaps with a fraction. -/
def isTimeNumberText (text : List Char) : Bool :=
  let (negative, body) := takeSign text
  let whole := body.takeWhile Char.isDigit
  let number : Int := (ofDigits (whole.map fun c => c.toNat - '0'.toNat) : Nat)
  !whole.isEmpty && isTimeNumber (if negative then -number else number)
    && match body.dropWhile Char.isDigit with
      | [] => true
      | '.' :: fraction => fraction.all Char.isDigit
      | _ => false

/-- What is wrong with a field that should be a point in time. -/
def checkTime : Value → FieldResult Unit
  | .text characters =>
      if isDateText characters.toList || isTimeNumberText characters.toList then .ok ()
      else .error .timeText
  | .int number => if isTimeNumber number then .ok () else .error .timeNumber
  | .float number =>
      match number.toRat? with
      | some value => if isTimeNumber value.floor then .ok () else .error .timeNumber
      | none => .error .timeNumber
  | _ => .error .notATime

end Automation.Field
