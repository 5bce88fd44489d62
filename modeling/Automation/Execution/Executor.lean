import Automation.Agent.Request
import Automation.Blueprint.Step
import Automation.Execution.Action
import Automation.Http.Message
import Automation.Settings.Basic

/-!
What an execution depends on: the collaborators outside of the engine, settings, forbidden keywords
and handlers for further types of steps.
-/

namespace Automation

/-- The collaborators outside of the engine. Each may do anything to the world it acts on, and each
may fail or be cancelled; the clock only tells the time. -/
structure Collaborators (σ : Type) where
  request : Http.Request → σ → Outcome Http.Exchange × σ
  agent : Option (Agent σ)
  sleep : Binary64 → σ → Outcome Unit × σ
  now : σ → Binary64

/-- What runs a step of a type that a host adds. -/
abbrev Handler (σ : Type) := Step → Action σ Value

/-- What an execution depends on. A handler runs the steps of its type, also those of a type that
the engine knows. -/
structure Executor (σ : Type) where
  settings : Settings
  keywords : List String
  handlers : Entries (Handler σ)
  collaborators : Collaborators σ

/-- A step of a list and how it ended: with its output, or with the message of its failure. -/
structure StepEntry where
  stepId : String
  result : Except String Value

namespace StepEntry

/-- An entry as it appears in the output of a composite step. -/
def toValue (entry : StepEntry) : Value :=
  match entry.result with
  | .ok output =>
      .object [("stepId", .text entry.stepId), ("success", .bool true), ("output", output)]
  | .error message =>
      .object [("stepId", .text entry.stepId), ("success", .bool false), ("error", .text message)]

end StepEntry

/-- Entries as they appear in the output of a composite step. -/
def entriesValue (entries : List StepEntry) : Value := .list (entries.map StepEntry.toValue)

/-- The whole milliseconds between two times. -/
def elapsedMs (start stop : Binary64) : Except Failure Int :=
  match (stop.sub start).mul (Binary64.ofNat 1000) with
  | .infinite _ => .error .infiniteInteger
  | .notANumber _ => .error .undefinedInteger
  | duration => .ok (duration.truncate?.getD 0)

namespace Executor

variable {σ : Type}

/-- The time that the clock shows. -/
def now (executor : Executor σ) : Action σ Binary64 := fun state =>
  (.done (executor.collaborators.now state.world), state)

/-- Wait for a number of seconds. -/
def sleep (executor : Executor σ) (seconds : Binary64) : Action σ Unit :=
  Action.outside (executor.collaborators.sleep seconds)

end Executor
end Automation
