import Automation.Logging.Format
import Automation.Settings.Basic

/-!
The setup of logging: which records become lines, in which form, and where the lines go.

Configuring again replaces the handler of the engine and leaves those of others alone. Every
configuration writes to a stream of its own.
-/

namespace Automation.Logging

/-- What becomes of records: those below a level are dropped, the others are written to a stream. -/
structure Handler where
  level : Level
  format : Format
  sanitizes : Bool
  stream : Nat
  deriving DecidableEq, Repr

/-- A record as a handler writes it. -/
def Handler.prepare (handler : Handler) (record : Record) : Except Failure Record :=
  if handler.sanitizes then record.sanitized else .ok record

/-- The level of all loggers, the handler of the engine, the number of handlers of others, and how
many streams there were so far. -/
structure Setup where
  level : Level
  handler : Option Handler
  others : Nat
  streams : Nat
  deriving DecidableEq, Repr

/-- The loggers that write warnings only, once logging is configured. -/
def quietLoggers : List String := ["httpx", "httpcore", "openai"]

/-- Whether a logger or one above it is quiet. -/
def isQuiet (logger : String) : Bool :=
  quietLoggers.any fun quiet => logger == quiet || logger.startsWith (quiet ++ ".")

/-- Names that stand for something other than a level. -/
def misplacedName? (name : String) : Option Failure :=
  match name with
  | "BASIC_FORMAT" =>
      some (.raised "ValueError" "Unknown level: '%(levelname)s:%(name)s:%(message)s'")
  | "_STYLES" =>
      some (.raised "TypeError" ("Level not an integer or a valid string: \x7b"
        ++ "'%': (<class 'logging.PercentStyle'>, '%(levelname)s:%(name)s:%(message)s'), "
        ++ "'\x7b': (<class 'logging.StrFormatStyle'>, "
        ++ "'\x7blevelname\x7d:\x7bname\x7d:\x7bmessage\x7d'), "
        ++ "'$': (<class 'logging.StringTemplateStyle'>, "
        ++ "'$\x7blevelname\x7d:$\x7bname\x7d:$\x7bmessage\x7d')\x7d"))
  | _ => none

/-- The name that a value is, which is asked for it in letters of one case. -/
def nameOf (letters : String) : Value → Except Failure String
  | .text name => .ok name
  | other => .error
      (.raised "AttributeError" s!"'{other.kind}' object has no attribute '{letters}'")

/-- The level of a name, in letters of either case; an unknown name stands for the usual level. -/
def levelOrUsual (name : String) : Except Failure Level :=
  let capitals := String.ofList (Text.upper name.toList)
  match misplacedName? capitals with
  | some failure => .error failure
  | none => .ok ((Level.ofName? capitals).getD .info)

namespace Setup

/-- No handler. -/
def initial : Setup := ⟨.warning, none, 0, 0⟩

/-- Replace the handler of the engine. Where the format is no name, the level is set and the handler
gone before that is noticed. -/
def configure (level format : Value) (sanitizes : Bool) (setup : Setup) :
    Except Failure Unit × Setup :=
  match nameOf "upper" level >>= levelOrUsual, nameOf "lower" format with
  | .error failure, _ => (.error failure, setup)
  | .ok least, .error failure => (.error failure, { setup with level := least, handler := none })
  | .ok least, .ok name =>
      (.ok (), { setup with
        level := least
        handler := some ⟨least, Format.ofName name, sanitizes, setup.streams⟩
        streams := setup.streams + 1 })

/-- Replace the handler of the engine by the one that settings ask for. -/
def configureFrom (settings : Settings) (setup : Setup) : Except Failure Unit × Setup :=
  setup.configure (.text settings.logLevel) (.text settings.logFormat) settings.sanitizeLogs

/-- Add a handler of someone else. -/
def addOther (setup : Setup) : Setup := { setup with others := setup.others + 1 }

/-- The number of handlers. -/
def handlerCount (setup : Setup) : Nat := setup.others + if setup.handler.isSome then 1 else 0

/-- The level from which a logger passes records on. -/
def levelOf (setup : Setup) (logger : String) : Level :=
  if setup.handler.isSome && isQuiet logger then .warning else setup.level

/-- Whether a logger passes records of a level on. -/
def isEnabled (setup : Setup) (logger : String) (level : Level) : Bool :=
  level ≠ .unset && (setup.levelOf logger).severity ≤ level.severity

/-- The line that a handler writes for a record. A record that has no line is dropped; one whose
message cannot be searched for credentials is a failure of whoever logs it. -/
def lineOf (time : List Char) (handler : Handler) (record : Record) :
    Except Failure (Option (List Char)) := do
  if record.level.severity < handler.level.severity then .ok none
  else
    let shown ← handler.prepare record
    .ok ((handler.format.lineAt time shown).toOption.map (· ++ ['\n']))

/-- What every stream so far receives when a record is logged. The fields of the record are checked
only if its logger passes it on. -/
def log (time : List Char) (record : Record) (setup : Setup) :
    Except Failure (List (List Char)) := do
  let silence := List.replicate setup.streams []
  if setup.isEnabled record.logger record.level then
    checkExtra record.extra
    match setup.handler with
    | some handler =>
        .ok (silence.set handler.stream ((← lineOf time handler record).getD []))
    | none => .ok silence
  else .ok silence

/-- What every stream so far receives when a record is logged for a run, whose fields stand below
those of the record. They are asked for only if the logger passes the record on. -/
def logFor (time : List Char) (run : Value) (record : Record) (setup : Setup) :
    Except Failure (List (List Char)) :=
  if setup.isEnabled record.logger record.level then
    match run with
    | .object fields => setup.log time { record with extra := Entries.merge fields record.extra }
    | other => .error (.notAnObject other.kind)
  else setup.log time record

end Setup
end Automation.Logging
