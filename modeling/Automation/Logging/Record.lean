import Automation.Logging.Level
import Automation.Logging.Message
import Automation.Logging.Sanitizer
import Automation.Timestamp

/-!
Log records: what is logged, before it becomes a line.

A record carries further fields, and the ones that name a run or a step become part of the line.
`sanitized` hides credentials in the message and in the arguments of a record. `Moment` is when
something is logged: text lines show it to the second, JSON lines to the microsecond.
-/

namespace Automation.Logging

/-- A number of seconds since the start of 1970. -/
inductive Moment where
  | whole (seconds : Int)
  | fractional (seconds : Binary64)
  deriving DecidableEq, Repr

/-- What is logged, where, and when. -/
structure Record where
  created : Moment
  level : Level
  logger : String
  message : Value
  arguments : Arguments
  extra : Fields
  fault : Option String
  deriving Repr

/-- The fields of a record that name a run or a step, or tell how it went. -/
def runFieldNames : List String :=
  ["execution_id", "automation_id", "step_id", "step_type", "status", "status_code", "duration_ms"]

/-- The names that a record has for itself. -/
def reservedNames : List String :=
  ["message", "asctime", "name", "msg", "args", "levelname", "levelno", "pathname", "filename",
    "module", "exc_info", "exc_text", "stack_info", "lineno", "funcName", "created", "msecs",
    "relativeCreated", "thread", "threadName", "processName", "process"]

/-- Fields that a record may carry: none of them has a reserved name. -/
def checkExtra (extra : Fields) : Except Failure Unit :=
  match extra.find? fun field => reservedNames.contains field.1 with
  | some (name, _) =>
      let reason := s!"Attempt to overwrite '{name}' in LogRecord"
      .error (.raised "KeyError" (String.ofList (Text.quoted reason.toList)))
  | none => .ok ()

/-- The text of a fault: its kind, and its message if it has one. Faults of syntax say so where they
have none. -/
def faultText (kind message : String) : String :=
  if message ≠ "" then s!"{kind}: {message}"
  else if ["SyntaxError", "IndentationError", "TabError"].contains kind then
    s!"{kind}: <no detail available>"
  else kind

namespace Record

/-- The fields of a line about a run, in their fixed order. -/
def runFields (record : Record) : Fields :=
  runFieldNames.filterMap fun name =>
    (Entries.get? name record.extra).map fun value => (name, value)

/-- The message of a record with its arguments put in. -/
def fullMessage (record : Record) : Except Failure (List Char) := do
  fillMessage (← record.message.print).toList record.arguments

/-- An argument without credentials; only texts hold them. -/
def sanitizeArgument : Value → Value
  | .text characters => .text (sanitizeText characters)
  | other => other

/-- A record without credentials in its message and in its ordered arguments. -/
def sanitized (record : Record) : Except Failure Record := do
  let message ← if record.message.truthy then
      (fun shown => .text (sanitizeText shown)) <$> record.message.print
    else .ok record.message
  .ok { record with
    message := message
    arguments := match record.arguments with
      | .ordered values => .ordered (values.map sanitizeArgument)
      | other => other }

end Record

namespace Moment

/-- The failure of seconds that are too many for a clock of 64 bits. -/
def overflow : Failure := .raised "OverflowError" "timestamp out of range for platform time_t"

/-- The time of a clock at a number of seconds, and of microseconds. Its year fits an integer of 32
bits, counted from 1900. -/
def shownAt (seconds : Int) (microsecond : Nat) : Except Failure Timestamp :=
  let time := Timestamp.ofSeconds seconds microsecond
  if -(Nat.pow 2 31) ≤ time.year - 1900 ∧ time.year - 1900 < Nat.pow 2 31 then .ok time
  else .error (.raised "OSError" "[Errno 75] Value too large for defined data type")

/-- The exact number of seconds, if a clock can count them. -/
def exact : Moment → Except Failure Rat
  | .whole seconds => if fitsWord seconds then .ok seconds else .error overflow
  | .fractional (.notANumber _) => .error (.raised "ValueError" "Invalid value NaN (not a number)")
  | .fractional seconds =>
      match seconds.toRat? with
      | some value => if fitsWord value.floor then .ok value else .error overflow
      | none => .error overflow

/-- The time with the fraction of a second cut off. Its year itself fits 32 bits. -/
def clock (moment : Moment) : Except Failure Timestamp := do
  let time ← shownAt (← moment.exact).floor 0
  if time.year < Nat.pow 2 31 then .ok time
  else .error (.raised "OverflowError" "signed integer is greater than maximum")

/-- Microseconds in place of a fraction of a second. The fraction is taken in double precision and
goes to the even neighbour where it lies halfway. -/
def microseconds (seconds : Rat) : Int :=
  let whole := seconds.num.tdiv seconds.den
  let fraction := (Binary64.ofRat (seconds - whole)).mul (Binary64.ofNat Timestamp.perSecond)
  let exact := fraction.toRat?.getD 0
  whole * Timestamp.perSecond + exact.num.sign * Binary64.roundedQuotient exact.num.natAbs exact.den

/-- The time to the microsecond, in a year that a date has. Any other year is named by the integer
of 32 bits that it is congruent to. -/
def timestamp (moment : Moment) : Except Failure Timestamp := do
  let total := microseconds (← moment.exact)
  let time ← shownAt (total / Timestamp.perSecond) (total % Timestamp.perSecond).toNat
  if 1 ≤ time.year ∧ time.year ≤ 9999 then .ok time
  else
    let year := Int.bmod time.year (Nat.pow 2 32)
    .error (.raised "ValueError" s!"year {year} is out of range")

end Moment
end Automation.Logging
