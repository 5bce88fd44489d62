import Automation.Timestamp
import Automation.Value

/-!
Records of runs: one for every run of an automation.
-/

namespace Automation

/-- How far a run has come. -/
inductive RunStatus where
  | running
  | completed
  | failed
  deriving DecidableEq, Repr, Inhabited

namespace RunStatus

/-- The name of a status. -/
def name : RunStatus → String
  | .running => "running"
  | .completed => "completed"
  | .failed => "failed"

/-- Every status. -/
def all : List RunStatus := [.running, .completed, .failed]

/-- The status with a name. -/
def ofName? (name : String) : Option RunStatus := all.find? fun status => status.name == name

end RunStatus

/-- What is kept of a run. -/
structure RunRecord where
  id : String
  automationId : String
  status : RunStatus
  triggerData : Value
  durationMs : Option Int
  detailsLog : Fields
  createdAt : Timestamp
  deriving BEq, Repr, Inhabited

/-- Runs that are not going on any more. -/
def RunRecord.isFinished (record : RunRecord) : Bool := record.status != .running

end Automation
