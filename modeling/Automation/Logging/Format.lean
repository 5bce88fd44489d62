import Automation.Json.Writer
import Automation.Logging.Record

/-!
The lines that log records become.

A text line has the time, the level, the logger and the message, then the fault, then the fields of
the run in brackets. A JSON line is one object with all of them at its top level. The text of the
time is given apart, so that lines can be compared whatever the clock shows.
-/

namespace Automation.Logging

/-- The form of log lines. -/
inductive Format where
  | text
  | json
  deriving DecidableEq, Repr

namespace Format

/-- The format of a name, in letters of either case; every name but one stands for text. -/
def ofName (name : String) : Format :=
  if Text.lower name.toList = "json".toList then .json else .text

/-- A text with blanks after it, up to a width. -/
def padRight (width : Nat) (text : List Char) : List Char :=
  text ++ List.replicate (width - text.length) ' '

/-- A line and, on a line of its own, what follows. -/
def withNextLine (line next : List Char) : List Char :=
  if line.getLast? = some '\n' then line ++ next else line ++ '\n' :: next

/-- The fields of a run at the end of a text line. -/
def runSuffix (fields : Fields) : Except Failure (List Char) := do
  if fields.isEmpty then .ok []
  else
    let shown ← fields.mapM fun (name, value) => do
      .ok (name.toList ++ '=' :: (← value.print).toList)
    .ok ([' ', '['] ++ [' '].intercalate shown ++ [']'])

/-- The text line of a record with a message. -/
def textLine (time message : List Char) (record : Record) : Except Failure (List Char) := do
  let line := time ++ ' ' :: padRight 8 record.level.name.toList ++ ' ' :: record.logger.toList
    ++ ':' :: ' ' :: message
  let full := match record.fault with
    | some fault => withNextLine line fault.toList
    | none => line
  .ok (full ++ (← runSuffix record.runFields))

/-- The fields of a JSON line. -/
def lineFields (time message : List Char) (record : Record) : Fields :=
  [("timestamp", Value.ofChars time), ("level", .text record.level.name),
    ("logger", .text record.logger), ("message", Value.ofChars message)]
    ++ record.runFields
    ++ match record.fault with
      | some fault => [("exception", .text fault)]
      | none => []

/-- The JSON line of a record with a message. -/
def jsonLine (time message : List Char) (record : Record) : Except Failure (List Char) := do
  let fields := lineFields time message record
  Json.checkWritableFields fields
  .ok (Json.write (.object fields))

/-- The line of a record at a time whose text is given. -/
def lineAt (time : List Char) (format : Format) (record : Record) : Except Failure (List Char) := do
  let message ← record.fullMessage
  match format with
  | .text => textLine time message record
  | .json => jsonLine time message record

/-- The line of a record at its own time. A text line puts the message together before it asks for
the time, a JSON line after it. -/
def line (format : Format) (record : Record) : Except Failure (List Char) := do
  match format with
  | .text =>
      let message ← record.fullMessage
      textLine (← record.created.clock).clockText message record
  | .json =>
      let time := (← record.created.timestamp).text
      jsonLine time (← record.fullMessage) record

end Format
end Automation.Logging
