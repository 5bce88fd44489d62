/-!
Levels of log lines, and the lines that the engine writes about its own work.
-/

namespace Automation.Logging

/-- How serious a line is. `unset` lies below all that is logged. -/
inductive Level where
  | unset
  | debug
  | info
  | warning
  | error
  | critical
  deriving DecidableEq, Repr, Inhabited

namespace Level

/-- The name of a level. -/
def name : Level → String
  | .unset => "NOTSET"
  | .debug => "DEBUG"
  | .info => "INFO"
  | .warning => "WARNING"
  | .error => "ERROR"
  | .critical => "CRITICAL"

/-- Levels as numbers, more serious ones higher. -/
def severity : Level → Nat
  | .unset => 0
  | .debug => 10
  | .info => 20
  | .warning => 30
  | .error => 40
  | .critical => 50

/-- The level of a name; two of them have a second name. -/
def ofName? : String → Option Level
  | "NOTSET" => some .unset
  | "DEBUG" => some .debug
  | "INFO" => some .info
  | "WARNING" | "WARN" => some .warning
  | "ERROR" => some .error
  | "CRITICAL" | "FATAL" => some .critical
  | _ => none

end Level

/-- A line of the log. -/
structure Line where
  level : Level
  message : String
  deriving DecidableEq, Repr, Inhabited

end Automation.Logging
